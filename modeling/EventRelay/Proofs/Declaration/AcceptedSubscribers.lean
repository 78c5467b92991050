import EventRelay.Proofs.Declaration.WrittenSubscribers

/-!
# Accepted subscribers

Where the arguments of a block and the options of its methods are well formed, they decide what
becomes of it. All that is to be said against it is listed here in source order: that it implements
a trait, arguments that are no lists of supertypes, and for each marked function options that are
unknown, names that are no priorities, and an object that is not borrowed for reading. A block
fails with the first of these objections. If there is none, its marked functions are described one
by one in their order, and nothing else is.
-/

namespace EventRelay
namespace Declaration

variable {α : Type}

/-! ## What follows -/

namespace Function

/-- The function takes an object in another way than by reference for reading only. -/
def takesOtherObject (function : Function) : Bool :=
  function.receiver?.any fun receiver => !receiver.isShared

/-- What is to be said against a marked function with its options. -/
def objections (function : Function) (options : List MethodOption) : List DeclarationError :=
  options.filterMap MethodOption.objection? ++
    if function.takesOtherObject then [.receiver] else []

/-- An option is unknown, or a name is none of the five labels up to letter case, or the function
takes its object in another way than by reference for reading only. -/
def Offends (function : Function) (options : List MethodOption) : Prop :=
  (∃ path, .unknown path ∈ options) ∨
    (∃ name, .priority name ∈ options ∧
      ∀ priority : Priority, Priority.sameLetters priority.label name = false) ∨
    ∃ receiver, function.receiver? = some receiver ∧ receiver.isShared = false

/-- What a method says of a marked function with its options. -/
structure DescribedAs (function : Function) (options : List MethodOption)
    (method : DescribedMethod) : Prop where
  name_eq : method.name = function.name
  isStatic_iff : method.isStatic = true ↔ function.receiver? = none
  /-- The only parameter is a reference, which the method takes as an event. -/
  takes_event : ∀ lifetime? isWritable type,
    function.params = [.reference lifetime? isWritable type] →
      method.params = [.event type] ∧
        method.invoker? = some ⟨method.isStatic, type, !isWritable, function.name⟩
  /-- Otherwise there is one description for each parameter, and nothing to call. -/
  takes_other : (∀ lifetime? isWritable type,
    function.params ≠ [.reference lifetime? isWritable type]) →
      method.params = function.params.map .other ∧ method.invoker? = none
  /-- The last priority counts, and it is the one that is read from its name elsewhere. -/
  last_priority : ∀ before name after, options = before ++ .priority name :: after →
    (∀ other, .priority other ∉ after) → Priority.parse name = .ok method.priority
  no_priority : (∀ name, .priority name ∉ options) → method.priority = .normal
  /-- So does the last option about canceled events. -/
  last_receiveCanceled : ∀ before value? after,
    options = before ++ .receiveCanceled value? :: after →
    (∀ other, .receiveCanceled other ∉ after) → method.receivesCanceled = value?.getD true
  no_receiveCanceled : (∀ value?, .receiveCanceled value? ∉ options) →
    method.receivesCanceled = false

end Function

/-! ## What comes out -/

/-- A result is the first of the objections, or there is none and the result is as it should be. -/
def ComesOut {ε : Type} (objections : List ε) (holds : α → Prop) : Except ε α → Prop
  | .error objection => objections.head? = some objection
  | .ok value => objections = [] ∧ holds value

namespace ComesOut

variable {β ε : Type} {objections others : List ε} {holds : α → Prop} {holdsNext : β → Prop}

theorem of_unlessObjected (objections : List ε) (value : α) :
    ComesOut objections (· = value) (unlessObjected objections.head? value) := by
  cases objections with
  | nil => exact ⟨rfl, rfl⟩
  | cons first rest => rfl

/-- What is to be said against two steps is said one after the other. -/
theorem bind
    {first : Except ε α}
    {next : α → Except ε β}
    (comesOut : ComesOut objections holds first)
    (goesOn : ∀ value, holds value → ComesOut others holdsNext (next value)) :
    ComesOut (objections ++ others) holdsNext (first >>= next) := by
  cases first with
  | error objection =>
      change (objections ++ others).head? = some objection
      rw [List.head?_append, comesOut, Option.some_or]
  | ok value =>
      obtain ⟨rfl, isRight⟩ := comesOut
      exact goesOn value isRight

theorem error_iff
    {result : Except ε α}
    (comesOut : ComesOut objections holds result) :
    (∃ objection, result = .error objection) ↔ objections ≠ [] := by
  cases result with
  | error objection =>
      refine ⟨fun _ noObjections => ?_, fun _ => ⟨objection, rfl⟩⟩
      rw [noObjections] at comesOut
      cases comesOut
  | ok value =>
      obtain ⟨noObjections, -⟩ := comesOut
      exact ⟨nofun, fun objected => absurd noObjections objected⟩

end ComesOut

/-! ## Describing functions -/

namespace Function

variable {function : Function}

theorem eventParam?_eq_some_iff
    {type : DeclaredType}
    {isWritable : Bool} :
    function.eventParam? = some (type, isWritable) ↔
      ∃ lifetime?, function.params = [.reference lifetime? isWritable type] := by
  unfold eventParam?
  split
  case h_1 param single =>
    rw [single]
    cases param <;> simp [DeclaredType.referenced?, and_comm]
  case h_2 notSingle =>
    refine ⟨nofun, ?_⟩
    rintro ⟨lifetime?, single⟩
    exact absurd single (notSingle _)

/-- Unless it takes its object in another way, a function is described as its options say. -/
theorem describe_comesOut
    {options : List MethodOption}
    (noObjections : options.filterMap MethodOption.objection? = []) :
    ComesOut (if function.takesOtherObject then [.receiver] else [])
      (function.DescribedAs options) (function.describe (MethodOptions.of options)) := by
  rw [describe]
  change ComesOut _ _ (if function.takesOtherObject then _ else _)
  cases function.takesOtherObject with
  | true => rfl
  | false =>
    refine ⟨rfl, rfl, Option.isNone_iff_eq_none, ?_, ?_, ?_, ?_, ?_, ?_⟩
    · intro lifetime? isWritable type single
      have taken := eventParam?_eq_some_iff.mpr ⟨lifetime?, single⟩
      simp only [taken]
      exact ⟨trivial, rfl⟩
    · intro noReference
      have notTaken : function.eventParam? = none := by
        refine Option.eq_none_iff_forall_ne_some.mpr fun (type, isWritable) taken => ?_
        obtain ⟨lifetime?, single⟩ := eventParam?_eq_some_iff.mp taken
        exact noReference lifetime? isWritable type single
      simp only [notTaken]
      exact ⟨trivial, rfl⟩
    · exact fun _ _ _ => MethodOptions.parse_of_last noObjections
    · exact MethodOptions.priority_of_none
    · exact fun _ _ _ => MethodOptions.receivesCanceled_of_last
    · exact MethodOptions.receivesCanceled_of_none

/-- A marked function is described, or turned down for its options or for how it takes its
object. -/
theorem comesOut_of_written
    {tag : Attribute}
    {options : List MethodOption}
    (written : MarkWritten tag options) :
    ComesOut (function.objections options) (function.DescribedAs options)
      (Function.options tag >>= function.describe) := by
  have ofOptions : ComesOut (options.filterMap MethodOption.objection?)
      (fun said => said = MethodOptions.of options ∧
        options.filterMap MethodOption.objection? = []) (Function.options tag) := by
    rw [options_of_written written]
    cases objected : options.filterMap MethodOption.objection? with
    | nil => exact ⟨rfl, rfl, rfl⟩
    | cons first rest => rfl
  refine ofOptions.bind ?_
  rintro said ⟨rfl, noObjections⟩
  exact describe_comesOut noObjections

end Function

/-! ## Describing blocks -/

namespace MethodOption

theorem objection?_ne_none_iff
    {option : MethodOption} :
    option.objection? ≠ none ↔
      (∃ path, option = .unknown path) ∨
        ∃ name, option = .priority name ∧
          ∀ priority : Priority, Priority.sameLetters priority.label name = false := by
  cases option with
  | priority name =>
      simp [objection?, ← Priority.ofLabel?_eq_none_iff]
  | receiveCanceled value? => simp [objection?]
  | unknown path => simp [objection?]

end MethodOption

theorem Function.objections_ne_nil_iff
    {function : Function}
    {options : List MethodOption} :
    function.objections options ≠ [] ↔ function.Offends options := by
  have ofOptions : ¬ options.filterMap MethodOption.objection? = [] ↔
      (∃ path, .unknown path ∈ options) ∨
        ∃ name, .priority name ∈ options ∧
          ∀ priority : Priority, Priority.sameLetters priority.label name = false := by
    simp only [List.filterMap_eq_nil_iff, not_forall, exists_prop,
      MethodOption.objection?_ne_none_iff]
    constructor
    · rintro ⟨option, isGiven, ⟨path, rfl⟩ | ⟨name, rfl, noPriority⟩⟩
      · exact .inl ⟨path, isGiven⟩
      · exact .inr ⟨name, isGiven, noPriority⟩
    · rintro (⟨path, isGiven⟩ | ⟨name, isGiven, noPriority⟩)
      · exact ⟨_, isGiven, .inl ⟨path, rfl⟩⟩
      · exact ⟨_, isGiven, .inr ⟨name, rfl, noPriority⟩⟩
  have ofObject : ¬ (if function.takesOtherObject then [DeclarationError.receiver] else []) = [] ↔
      ∃ receiver, function.receiver? = some receiver ∧ receiver.isShared = false := by
    rw [takesOtherObject]
    cases function.receiver? <;> simp
  rw [objections, ne_eq, List.append_eq_nil_iff, not_and_or, ofOptions, ofObject, or_assoc, Offends]

namespace SubscriberBlock

/-- The marked functions are described one by one in their order. -/
theorem describeItems_comesOut
    {items : List Item}
    {given : List (Function × List MethodOption)}
    (written : ItemsWritten items given) :
    ComesOut (given.flatMap fun marked => marked.1.objections marked.2)
      (fun described : List DescribedMethod × List Item =>
        List.Forall₂ (fun marked method => marked.1.DescribedAs marked.2 method) given described.1)
      (describeItems items) := by
  induction written with
  | nil => exact ⟨rfl, .nil⟩
  | other name attributes _ inductionHypothesis =>
      rw [describeItems, ← List.append_nil (List.flatMap _ _)]
      exact inductionHypothesis.bind fun _ described => ⟨rfl, described⟩
  | @plain function rest given notMarked _ inductionHypothesis =>
      have noMarker : function.marker? = none := Function.marker?_eq_none_iff.mpr notMarked
      rw [describeItems, noMarker, ← List.append_nil (List.flatMap _ _)]
      exact inductionHypothesis.bind fun _ described => ⟨rfl, described⟩
  | @marked function rest given _ _ tag options split marks noneBefore isWritten _
      inductionHypothesis =>
      have isMarker : function.marker? = some tag :=
        Function.marker?_eq_some_iff.mpr ⟨marks, _, _, split, noneBefore⟩
      have described : describeItems (.function function :: rest) =
          (Function.options tag >>= function.describe) >>= fun method =>
            describeItems rest >>= fun others =>
              .ok (method :: others.1, .function function.withoutMarker :: others.2) := by
        rw [describeItems, isMarker, bind_assoc]
        rfl
      rw [described, List.flatMap_cons]
      refine (Function.comesOut_of_written isWritten).bind fun method isDescribed => ?_
      rw [← List.append_nil (List.flatMap _ _)]
      exact inductionHypothesis.bind fun _ others => ⟨rfl, .cons isDescribed others⟩

namespace Wording

variable {block : SubscriberBlock}

/-- All that is to be said against a block, in source order. -/
def objections (wording : block.Wording) : List DeclarationError :=
  (if block.implementsTrait then [.traitBlock] else []) ++
    (wording.arguments.filterMap BlockArgument.objection? ++
      wording.methods.flatMap fun marked => marked.1.objections marked.2)

/-- What the arguments of a block and the options of its methods describe. -/
def Describes (wording : block.Wording) (description : SubscriberDescription) : Prop :=
  description.name = block.name ∧
    description.supertypes = wording.arguments.flatMap BlockArgument.paths ∧
    List.Forall₂ (fun marked method => marked.1.DescribedAs marked.2 method)
      wording.methods description.methods

theorem describe_comesOut (wording : block.Wording) :
    ComesOut wording.objections wording.Describes block.describe := by
  have ofTrait : ComesOut (if block.implementsTrait then [DeclarationError.traitBlock] else [])
      (fun _ : Unit => True)
      (if block.implementsTrait then .error .traitBlock else .ok ()) := by
    cases block.implementsTrait with
    | true => rfl
    | false => exact ⟨rfl, trivial⟩
  have ofArguments := ComesOut.of_unlessObjected
    (wording.arguments.filterMap BlockArgument.objection?)
    (wording.arguments.flatMap BlockArgument.paths)
  rw [← foldlM_supertypes, ← reads_blockMeaning.read wording.arguments_written] at ofArguments
  have goesOn : block.describe =
      (if block.implementsTrait then .error .traitBlock else .ok ()) >>= fun _ =>
        SubscriberBlock.meaning.read block.arguments [] >>= fun supertypes =>
          describeItems block.items >>= fun described =>
            .ok ⟨block.name, supertypes, described.1, described.2⟩ := by
    rw [SubscriberBlock.describe]
    cases block.implementsTrait <;> rfl
  rw [goesOn]
  refine ofTrait.bind fun _ _ => ofArguments.bind fun supertypes isListed => ?_
  rw [← List.append_nil (List.flatMap _ _)]
  exact (describeItems_comesOut wording.methods_written).bind fun _ described =>
    ⟨rfl, rfl, isListed, described⟩

theorem objections_ne_nil_iff (wording : block.Wording) :
    wording.objections ≠ [] ↔
      block.implementsTrait = true ∨
        (∃ argument ∈ wording.arguments, ∀ paths, argument ≠ .supertypes paths) ∨
        ∃ marked ∈ wording.methods, marked.1.Offends marked.2 := by
  have ofArguments : ¬ wording.arguments.filterMap BlockArgument.objection? = [] ↔
      ∃ argument ∈ wording.arguments, ∀ paths, argument ≠ .supertypes paths := by
    simp only [List.filterMap_eq_nil_iff, not_forall, exists_prop]
    refine exists_congr fun argument => and_congr_right fun _ => ?_
    cases argument <;> simp [BlockArgument.objection?]
  have ofMethods : ¬ (wording.methods.flatMap fun marked => marked.1.objections marked.2) = [] ↔
      ∃ marked ∈ wording.methods, marked.1.Offends marked.2 := by
    simp only [List.flatMap_eq_nil_iff, not_forall, exists_prop]
    exact exists_congr fun marked => and_congr_right fun _ => Function.objections_ne_nil_iff
  rw [objections, ne_eq, List.append_eq_nil_iff, List.append_eq_nil_iff, not_and_or, not_and_or,
    ofArguments, ofMethods]
  refine or_congr_left ?_
  cases block.implementsTrait <;> simp

/-- Where its options are well formed, a block fails exactly if it implements a trait, if an
argument is no list of supertypes, or if a marked function has an unknown option, a name that is no
priority, or another object than one that is borrowed for reading. The error is the first that
applies in source order. Otherwise the supertypes of all arguments are listed, and each marked
function is described in its turn. -/
theorem decides_description (wording : block.Wording) :
    ((∃ objection, block.describe = .error objection) ↔
      block.implementsTrait = true ∨
        (∃ argument ∈ wording.arguments, ∀ paths, argument ≠ .supertypes paths) ∨
        ∃ marked ∈ wording.methods, marked.1.Offends marked.2) ∧
      (∀ objection, block.describe = .error objection →
        wording.objections.head? = some objection) ∧
      ∀ description, block.describe = .ok description →
        description.name = block.name ∧
          description.supertypes = wording.arguments.flatMap BlockArgument.paths ∧
          List.Forall₂ (fun marked method => marked.1.DescribedAs marked.2 method)
            wording.methods description.methods := by
  have comesOut := wording.describe_comesOut
  refine ⟨comesOut.error_iff.trans wording.objections_ne_nil_iff, ?_, ?_⟩
  · intro objection fails
    rw [fails] at comesOut
    exact comesOut
  · intro description accepted
    rw [accepted] at comesOut
    exact comesOut.2

end Wording
end SubscriberBlock

/-! ### Scouts -/

/-- The attribute that marks a method, with a list of options. -/
def markerTag (tokens : List Token) : Attribute :=
  ⟨[.word Function.markerName], .list .parenthesis tokens⟩

/-- A method of scouts that takes drills. Its priority is given twice. -/
def scoutsDrill : Function where
  name := "on_drill"
  receiver? := some ⟨true, false⟩
  params := [.reference none true (.path [.word "Drill"] "Drill")]
  attributes := [⟨[.word "inline"], .none⟩,
    markerTag ([.word "priority", .mark '=' false, .word "Lowest"] ++ .mark ',' false ::
      ([.word "receive_canceled"] ++ .mark ',' false ::
        ([.word "priority", .mark '=' false, .word "hIGH"] ++ [.mark ',' false])))]

/-- A method of scouts that takes two numbers, without an object. -/
def scoutsCount : Function where
  name := "count"
  receiver? := none
  params := [.path [.word "u32"] "u32", .path [.word "u8"] "u8"]
  attributes := [⟨[.word Function.markerName], .none⟩]

/-- A method of scouts with a priority that does not exist. -/
def scoutsRush : Function where
  name := "rush"
  receiver? := some ⟨true, false⟩
  params := []
  attributes := [markerTag [.word "priority", .mark '=' false, .word "Urgent"]]

/-- A block for scouts that names a supertype and has a constant between two methods. -/
def scouts : SubscriberBlock where
  arguments := [.word "supertypes", .group .parenthesis [.word "Warden"]]
  generics := []
  implementsTrait := false
  self := .path [.word "Scout"] "Scout"
  items := [.function scoutsDrill, .other "LIMIT" [], .function scoutsCount]

/-- A block that has the third method. -/
def rushingScouts : SubscriberBlock := { scouts with items := [.function scoutsRush] }

/-- What is written in the block for scouts. -/
def scoutsWording : scouts.Wording where
  arguments := [.supertypes [⟨false, ["Warden"]⟩]]
  methods := [
    (scoutsDrill, [.priority "Lowest", .receiveCanceled none, .priority "hIGH"]),
    (scoutsCount, [])]
  arguments_written := .some (.last (.supertypes true (.last (.plain .nil))))
  methods_written := by
    have split : scoutsDrill.attributes = [⟨[.word "inline"], .none⟩] ++ [_] := rfl
    refine .marked split (by decide) (by decide) (.list _ _ (.some (.more false
      (.priority false false (by decide)) (.more false (.receiveCanceled false)
        (.closed false (.priority false false (by decide))))))) (.other _ _ ?_)
    have atOnce : scoutsCount.attributes = [] ++ [_] := rfl
    exact .marked atOnce (by decide) nofun (.bare _) .nil

/-- What is written in the other one. -/
def rushingWording : rushingScouts.Wording where
  arguments := [.supertypes [⟨false, ["Warden"]⟩]]
  methods := [(scoutsRush, [.priority "Urgent"])]
  arguments_written := .some (.last (.supertypes true (.last (.plain .nil))))
  methods_written := by
    have atOnce : scoutsRush.attributes = [] ++ [_] := rfl
    exact .marked atOnce (by decide) nofun
      (.list _ _ (.some (.last (.priority false true (by decide))))) .nil

/-- Of the two priorities of the first method the second one counts, the second method takes no
event, and the other block fails. -/
theorem SubscriberBlock.Wording.decides_description_scouts :
    (∃ description first second, scouts.describe = .ok description ∧
      description.supertypes = [⟨false, ["Warden"]⟩] ∧ description.methods = [first, second] ∧
      Priority.parse "hIGH" = .ok first.priority ∧ first.receivesCanceled = true ∧
      first.params = [.event (.path [.word "Drill"] "Drill")] ∧ second.isStatic = true ∧
      second.params = scoutsCount.params.map .other ∧ second.priority = .normal) ∧
      ∃ objection, rushingScouts.describe = .error objection := by
  constructor
  · obtain ⟨-, -, describes⟩ := scoutsWording.decides_description
    obtain ⟨-, sameSupertypes, described⟩ := describes _ rfl
    obtain _ | ⟨first, _ | ⟨second, _⟩⟩ := described
    refine ⟨_, _, _, rfl, sameSupertypes, rfl, ?_, ?_, ?_, second.isStatic_iff.mpr rfl, ?_, ?_⟩
    · exact first.last_priority [.priority "Lowest", .receiveCanceled none] "hIGH" [] rfl nofun
    · exact first.last_receiveCanceled [.priority "Lowest"] none [.priority "hIGH"] rfl (by simp)
    · exact (first.takes_event _ _ _ rfl).1
    · exact (second.takes_other nofun).1
    · exact second.no_priority nofun
  · refine rushingWording.decides_description.1.mpr (.inr (.inr ⟨_, List.mem_cons_self, ?_⟩))
    refine .inr (.inl ⟨"Urgent", List.mem_cons_self, fun priority => ?_⟩)
    cases priority <;> decide

end Declaration
end EventRelay
