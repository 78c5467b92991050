import EventRelay.Proofs.Declaration.DeclaredSubscribers
import Mathlib.Data.List.Basic
import Mathlib.Data.List.Forall2

/-!
# Marks that are taken off

The items of an accepted block are handed on in their order. A function loses the attribute that
marks it, and everything else stays as it is: its other attributes, the functions that are not
marked, and all other items. Only the first such attribute is taken off. So no marking attribute is
left on the functions of a block exactly if none of them is marked more than once.
-/

namespace EventRelay
namespace Declaration

/-- The attribute marks a listener method. -/
def Attribute.isMarker (tag : Attribute) : Bool := tag.isNamed Function.markerName

/-- A function that is not marked at all. -/
def Function.unmarked (function : Function) : Function :=
  { function with attributes := function.attributes.filter fun tag => !tag.isMarker }

namespace Item

/-- The item as it is handed on: a function loses the first attribute that marks it. -/
def handedOn : Item → Item
  | .function method => .function method.withoutMarker
  | .other name attributes => .other name attributes

/-- An item is handed on as another one: a marked function without the first attribute that marks
it, and everything else as it is. -/
inductive HandsOn : Item → Item → Prop
  | other (name : String) (attributes : List Attribute) :
      HandsOn (.other name attributes) (.other name attributes)
  | plain {function : Function} :
      (∀ tag ∈ function.attributes, tag.isMarker = false) →
      HandsOn (.function function) (.function function)
  | marked {function : Function} {before after : List Attribute} {tag : Attribute} :
      function.attributes = before ++ tag :: after → tag.isMarker = true →
      (∀ other ∈ before, other.isMarker = false) →
      HandsOn (.function function) (.function { function with attributes := before ++ after })

/-- The item without any attribute that marks a function. -/
def unmarked : Item → Item
  | .function method => .function method.unmarked
  | .other name attributes => .other name attributes

end Item

/-- Erasing the first element of a kind leaves no other one exactly if there are no two. -/
theorem eraseP_eq_filter_iff
    {α : Type}
    (asks : α → Bool)
    (elements : List α) :
    elements.eraseP asks = elements.filter (fun element => !asks element) ↔
      elements.countP asks ≤ 1 := by
  induction elements with
  | nil => simp
  | cons first rest inductionHypothesis =>
      cases isAsked : asks first with
      | false => simpa [isAsked] using inductionHypothesis
      | true =>
          have stays :
              rest = rest.filter (fun element => !asks element) ↔ rest.countP asks = 0 := by
            rw [eq_comm, List.filter_eq_self, List.countP_eq_zero]
            simp
          simpa [isAsked] using stays

namespace Function

variable {function : Function}

theorem marker?_eq_none_iff :
    function.marker? = none ↔ ∀ tag ∈ function.attributes, tag.isMarker = false := by
  simp [marker?, Attribute.isMarker]

theorem marker?_eq_some_iff
    {tag : Attribute} :
    function.marker? = some tag ↔
      tag.isMarker = true ∧ ∃ before after, function.attributes = before ++ tag :: after ∧
        ∀ other ∈ before, other.isMarker = false := by
  simp [marker?, List.find?_eq_some_iff_append, Attribute.isMarker]

/-- Before the attribute that is taken off there is none that marks the function. -/
theorem withoutMarker_of_split
    {before after : List Attribute}
    {tag : Attribute}
    (split : function.attributes = before ++ tag :: after)
    (marks : tag.isMarker = true)
    (noneBefore : ∀ other ∈ before, other.isMarker = false) :
    function.withoutMarker = { function with attributes := before ++ after } := by
  have firstMark := List.eraseP_append_right (tag :: after) (fun other isBefore =>
    Bool.eq_false_iff.mp (noneBefore other isBefore))
  have attributesLeft : function.attributes.eraseP Attribute.isMarker = before ++ after := by
    rw [split, firstMark, List.eraseP_cons_of_pos marks]
  exact congrArg (Function.mk function.toSignature) attributesLeft

theorem withoutMarker_of_marker?
    (notMarked : function.marker? = none) :
    function.withoutMarker = function := by
  have noneMarks := List.find?_eq_none.mp notMarked
  rw [withoutMarker, List.eraseP_of_forall_not noneMarks]

theorem withoutMarker_eq_unmarked_iff :
    function.withoutMarker = function.unmarked ↔
      function.attributes.countP Attribute.isMarker ≤ 1 := by
  rw [← eraseP_eq_filter_iff]
  constructor
  · exact congrArg Function.attributes
  · intro sameAttributes
    exact congrArg (Function.mk function.toSignature) sameAttributes

end Function

theorem Item.handsOn_handedOn (item : Item) : item.HandsOn item.handedOn := by
  cases item with
  | other name attributes => exact .other name attributes
  | function function =>
      rw [handedOn]
      cases marked : function.marker? with
      | none =>
          rw [Function.withoutMarker_of_marker? marked]
          exact .plain (Function.marker?_eq_none_iff.mp marked)
      | some tag =>
          obtain ⟨marks, before, after, split, noneBefore⟩ :=
            Function.marker?_eq_some_iff.mp marked
          rw [Function.withoutMarker_of_split split marks noneBefore]
          exact .marked split marks noneBefore

namespace SubscriberBlock

theorem items_of_describeItems
    {items left : List Item}
    {methods : List DescribedMethod}
    (described : describeItems items = .ok (methods, left)) :
    left = items.map Item.handedOn := by
  induction items generalizing methods left with
  | nil =>
      cases described
      rfl
  | cons item rest inductionHypothesis =>
      cases item with
      | other name attributes =>
          obtain ⟨_, others, same⟩ := exists_of_bind_eq_ok described
          cases same
          rw [List.map_cons, ← inductionHypothesis others]
          rfl
      | function function =>
          rw [describeItems] at described
          split at described
          case h_1 notMarked =>
            obtain ⟨_, others, same⟩ := exists_of_bind_eq_ok described
            cases same
            rw [List.map_cons, ← inductionHypothesis others, Item.handedOn,
              Function.withoutMarker_of_marker? notMarked]
          case h_2 =>
            obtain ⟨_, -, afterOptions⟩ := exists_of_bind_eq_ok described
            obtain ⟨_, -, afterMethod⟩ := exists_of_bind_eq_ok afterOptions
            obtain ⟨_, others, same⟩ := exists_of_bind_eq_ok afterMethod
            cases same
            rw [List.map_cons, ← inductionHypothesis others]
            rfl

theorem items_of_describe
    {block : SubscriberBlock}
    {description : SubscriberDescription}
    (accepted : block.describe = .ok description) :
    description.items = block.items.map Item.handedOn := by
  unfold describe at accepted
  split at accepted
  case isTrue => cases accepted
  case isFalse =>
    obtain ⟨supertypes, -, afterArguments⟩ := exists_of_bind_eq_ok accepted
    obtain ⟨_, described, same⟩ := exists_of_bind_eq_ok afterArguments
    cases same
    exact items_of_describeItems described

theorem handedOn_eq_unmarked_iff
    {items : List Item} :
    (∀ item ∈ items, item.handedOn = item.unmarked) ↔
      ∀ function, .function function ∈ items →
        function.attributes.countP Attribute.isMarker ≤ 1 := by
  constructor
  · intro allUnmarked function isItem
    exact Function.withoutMarker_eq_unmarked_iff.mp (Item.function.inj (allUnmarked _ isItem))
  · intro markedOnce item isItem
    cases item with
    | other name attributes => rfl
    | function function =>
        exact congrArg Item.function
          (Function.withoutMarker_eq_unmarked_iff.mpr (markedOnce function isItem))

/-- An accepted block hands on its items in order, and each function without the first attribute
that marks it. So no function keeps such an attribute exactly if none has two of them. -/
theorem takes_first_marks
    {block : SubscriberBlock}
    {description : SubscriberDescription}
    (accepted : block.describe = .ok description) :
    List.Forall₂ Item.HandsOn block.items description.items ∧
      (description.items = block.items.map Item.unmarked ↔
        ∀ function, .function function ∈ block.items →
          function.attributes.countP Attribute.isMarker ≤ 1) := by
  rw [items_of_describe accepted]
  refine ⟨?_, ?_⟩
  · rw [List.forall₂_map_right_iff, List.forall₂_same]
    exact fun item _ => item.handsOn_handedOn
  · rw [List.map_inj_left]
    exact handedOn_eq_unmarked_iff

/-- In the block for wardens the only mark is taken off. -/
theorem takes_first_marks_wardens :
    wardens.describe = .ok wardensDescription ∧
      wardensDescription.items = wardens.items.map Item.unmarked := by
  have accepted : wardens.describe = .ok wardensDescription := rfl
  refine ⟨accepted, (takes_first_marks accepted).2.mpr ?_⟩
  intro function isItem
  simp only [wardens, List.mem_cons, List.not_mem_nil, or_false, Item.function.injEq] at isItem
  rcases isItem with rfl | rfl <;> decide

end SubscriberBlock

/-! ### Rangers -/

/-- The only method is marked twice, with another attribute between the two marks. -/
def rangers : SubscriberBlock where
  arguments := []
  generics := []
  implementsTrait := false
  self := .path [.word "Ranger"] "Ranger"
  items := [.function ⟨⟨"on_drill", some ⟨true, false⟩,
    [.reference none true (.path [.word "Drill"] "Drill")]⟩,
    [⟨[.word "subscribe_event"], .none⟩, ⟨[.word "inline"], .none⟩,
      ⟨[.word "subscribe_event"], .none⟩]⟩]

/-- The block for rangers is accepted, and its method is handed on with the second mark. -/
theorem SubscriberBlock.keeps_second_mark :
    ∃ description, rangers.describe = .ok description ∧
      description.items ≠ rangers.items.map Item.unmarked ∧
      ∃ function tag, .function function ∈ description.items ∧ tag ∈ function.attributes ∧
        tag.isMarker = true := by
  refine ⟨_, rfl, ?_, _, ⟨[.word "subscribe_event"], .none⟩, List.mem_cons_self, ?_, by decide⟩
  · intro allUnmarked
    have sameItems := congrArg List.head? allUnmarked
    cases sameItems
  · exact List.mem_cons_of_mem _ List.mem_cons_self

end Declaration
end EventRelay
