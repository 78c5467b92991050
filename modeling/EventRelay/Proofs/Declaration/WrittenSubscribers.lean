import EventRelay.Priority.Reading
import EventRelay.Proofs.Declaration.TakenMarks
import EventRelay.Proofs.Declaration.WrittenOptions

/-!
# Subscribers as they are written

The arguments of a block are well formed if each of them is a list of supertypes in parentheses,
which is not empty, or a path that means nothing here. So are the options of a listener method that
give a priority by its name, that ask for canceled events with a truth value or without one, or
that mean nothing. All of them are read in order, up to the first one that is turned down, and of
several options that say the same thing the last one counts.

The labels by which declarations name the priorities are a table of their own. Up to letter case
they are the names that are read everywhere else.
-/

namespace EventRelay

/-! ## Names of priorities -/

namespace Priority

/-- A label differs from the name only in letter case. -/
theorem sameLetters_label
    (priority : Priority)
    (text : String) :
    sameLetters priority.label text = sameLetters priority.name text := by
  have sameLower : priority.label.toList.map Char.toLower =
      priority.name.toList.map Char.toLower := by
    cases priority <;> decide
  rw [sameLetters, sameLetters, sameLower]

theorem ofLabel?_eq_ofName? (text : String) : ofLabel? text = ofName? text := by
  rw [ofLabel?, ofName?]
  exact congrArg (all.find? ·) (funext fun priority => sameLetters_label priority text)

theorem parse_of_ofLabel?
    {text : String}
    {priority : Priority}
    (found : ofLabel? text = some priority) :
    parse text = .ok priority := by
  rw [ofLabel?_eq_ofName?] at found
  rw [parse, found]

theorem ofLabel?_eq_none_iff
    {text : String} :
    ofLabel? text = none ↔ ∀ priority : Priority, sameLetters priority.label text = false := by
  rw [ofLabel?, List.find?_eq_none]
  refine ⟨fun noneSame priority => ?_, fun noneSame priority _ => ?_⟩
  · exact Bool.eq_false_iff.mpr (noneSame priority (mem_all priority))
  · exact Bool.eq_false_iff.mp (noneSame priority)

end Priority

namespace Declaration

variable {σ α : Type}

/-! ## What is well formed -/

/-- What may stand behind the path of an option: nothing, a value after an equals sign, or a list
between delimiters. -/
inductive Tail : List Token → Prop
  | none : Tail []
  | value {tokens : List Token} (isJoint : Bool) :
      Unbroken tokens → Tail (.mark '=' isJoint :: tokens)
  | list (delimiter : Delimiter) (tokens : List Token) : Tail [.group delimiter tokens]

/-- Elements between commas as they are written. There may be none at all. -/
inductive ListedIfAny (written : α → Stretch → Prop) : List α → List Token → Prop
  | none : ListedIfAny written [] []
  | some {elements : List α} {tokens : List Token} :
      Listed written elements tokens → ListedIfAny written elements tokens

/-- An argument of a block. -/
inductive BlockArgument
  /-- A list of supertypes. -/
  | supertypes (paths : List Path)
  /-- The word `supertypes` without a list in parentheses. -/
  | bareSupertypes (atEnd : Bool)
  /-- Anything else. -/
  | unknown (path : Path)

/-- An argument of a block as it is written. -/
inductive BlockArgument.Written : BlockArgument → Stretch → Prop
  | supertypes {paths : List Path} {inner : List Token} (isLast : Bool) :
      Listed (fun path stretch => path.Written stretch.tokens) paths inner →
      Written (.supertypes paths) ⟨[.word "supertypes", .group .parenthesis inner], isLast⟩
  | bareSupertypes {tail : List Token} (isLast : Bool) :
      Tail tail → (∀ inner, tail ≠ [.group .parenthesis inner]) →
      Written (.bareSupertypes (tail.isEmpty && isLast)) ⟨.word "supertypes" :: tail, isLast⟩
  | unknown {path : Path} {tokens tail : List Token} (isLast : Bool) :
      path.Written tokens → path.isWord "supertypes" = false → Tail tail →
      Written (.unknown path) ⟨tokens ++ tail, isLast⟩

/-- An option of a listener method. -/
inductive MethodOption
  /-- The name of a priority. -/
  | priority (name : String)
  /-- The method wants canceled events, or whether it does. -/
  | receiveCanceled (value? : Option Bool)
  /-- Anything else. -/
  | unknown (path : Path)

/-- An option of a listener method as it is written. -/
inductive MethodOption.Written : MethodOption → Stretch → Prop
  | priority {name : String} (isJoint isLast : Bool) :
      Token.keywords.contains name = false →
      Written (.priority name) ⟨[.word "priority", .mark '=' isJoint, .word name], isLast⟩
  | receiveCanceled (isLast : Bool) :
      Written (.receiveCanceled none) ⟨[.word "receive_canceled"], isLast⟩
  | receiveCanceledValue (value isJoint isLast : Bool) :
      Written (.receiveCanceled (some value))
        ⟨[.word "receive_canceled", .mark '=' isJoint, .word (if value then "true" else "false")],
          isLast⟩
  | unknown {path : Path} {tokens tail : List Token} (isLast : Bool) :
      path.Written tokens → path.isWord "priority" = false →
      path.isWord "receive_canceled" = false → Tail tail →
      Written (.unknown path) ⟨tokens ++ tail, isLast⟩

/-- The options that are written in a marking attribute. It may stand without a list. -/
inductive MarkWritten : Attribute → List MethodOption → Prop
  | bare (name : List Token) : MarkWritten ⟨name, .none⟩ []
  | list {tokens : List Token} {options : List MethodOption} (name : List Token)
      (delimiter : Delimiter) :
      ListedIfAny MethodOption.Written options tokens →
      MarkWritten ⟨name, .list delimiter tokens⟩ options

/-- The marked functions of a block in source order, with the options that are written in the
first attribute that marks them. -/
inductive ItemsWritten : List Item → List (Function × List MethodOption) → Prop
  | nil : ItemsWritten [] []
  | other {rest : List Item} {given : List (Function × List MethodOption)} (name : String)
      (attributes : List Attribute) :
      ItemsWritten rest given → ItemsWritten (.other name attributes :: rest) given
  | plain {function : Function} {rest : List Item} {given : List (Function × List MethodOption)} :
      (∀ tag ∈ function.attributes, tag.isMarker = false) →
      ItemsWritten rest given → ItemsWritten (.function function :: rest) given
  | marked {function : Function} {rest : List Item} {given : List (Function × List MethodOption)}
      {before after : List Attribute} {tag : Attribute} {options : List MethodOption} :
      function.attributes = before ++ tag :: after → tag.isMarker = true →
      (∀ other ∈ before, other.isMarker = false) → MarkWritten tag options →
      ItemsWritten rest given →
      ItemsWritten (.function function :: rest) ((function, options) :: given)

/-- The arguments of a block and the options of its marked functions. -/
structure SubscriberBlock.Wording (block : SubscriberBlock) where
  arguments : List BlockArgument
  methods : List (Function × List MethodOption)
  arguments_written : ListedIfAny BlockArgument.Written arguments block.arguments
  methods_written : ItemsWritten block.items methods

/-! ## What follows -/

namespace BlockArgument

/-- The supertypes that an argument names. -/
def paths : BlockArgument → List Path
  | supertypes paths => paths
  | _ => []

/-- What is to be said against an argument. -/
def objection? : BlockArgument → Option DeclarationError
  | supertypes _ => none
  | bareSupertypes atEnd => some (.options (.noParentheses atEnd))
  | unknown _ => some .unknownArgument

end BlockArgument

namespace MethodOption

/-- The priority that an option names, if there is such a priority. -/
def priority? : MethodOption → Option Priority
  | priority name => Priority.ofLabel? name
  | _ => none

/-- What an option says about canceled events. Without a value it asks for them. -/
def receivesCanceled? : MethodOption → Option Bool
  | receiveCanceled value? => some (value?.getD true)
  | _ => none

/-- What is to be said against an option. -/
def objection? : MethodOption → Option DeclarationError
  | priority name => if (Priority.ofLabel? name).isSome then none else some .unknownPriority
  | receiveCanceled _ => none
  | unknown _ => some .unknownMethodOption

end MethodOption

/-- What the options of a method say together: the last one of each kind counts. -/
def MethodOptions.of (options : List MethodOption) : MethodOptions where
  priority := (options.filterMap MethodOption.priority?).getLast?.getD .normal
  receivesCanceled := (options.filterMap MethodOption.receivesCanceled?).getLast?.getD false

/-! ## Reading options -/

theorem Tail.unbroken
    {tail : List Token}
    (isTail : Tail tail) :
    Unbroken tail := by
  cases isTail with
  | none => exact List.forall_mem_nil _
  | value isJoint noCommas => exact List.forall_mem_cons.mpr ⟨rfl, noCommas⟩
  | list delimiter tokens => exact List.forall_mem_cons.mpr ⟨rfl, List.forall_mem_nil _⟩

theorem Tail.endsPath
    {tail : List Token}
    (isTail : Tail tail) :
    Stretch.EndsPath tail := by
  intro isLast
  cases isTail with
  | none => rfl
  | value isJoint noCommas => simp [Stretch.segments]
  | list delimiter tokens => rfl

theorem Path.Written.unbroken_append
    {path : Path}
    {tokens tail : List Token}
    (written : path.Written tokens)
    (isTail : Tail tail) :
    Unbroken (tokens ++ tail) ∧ tokens ++ tail ≠ [] := by
  obtain ⟨noCommas, someTokens⟩ := written.unbroken
  exact ⟨List.forall_mem_append.mpr ⟨noCommas, isTail.unbroken⟩,
    List.append_ne_nil_of_left_ne_nil someTokens tail⟩

/-- The options of a list are gone through in order, also if there are none. -/
theorem Meaning.Reads.read
    {meaning : Meaning σ}
    {written : α → Stretch → Prop}
    {step : σ → α → Except DeclarationError σ}
    (reads : meaning.Reads written step)
    {elements : List α}
    {tokens : List Token}
    (listed : ListedIfAny written elements tokens)
    (soFar : σ) :
    meaning.read tokens soFar = elements.foldlM step soFar := by
  cases listed with
  | none => rfl
  | some listed =>
      have someTokens : tokens.isEmpty = false :=
        List.isEmpty_eq_false_iff.mpr (reads.ne_nil listed)
      rw [Meaning.read, someTokens, if_neg Bool.false_ne_true]
      exact reads.readSome listed soFar

namespace Meaning

variable {meaning : Meaning σ} {stretch left : Stretch} {path : Path} {soFar changed : σ}

/-- An option is read if its path means something and takes up all that is left. -/
theorem readOne_eq_ok
    {isLast : Bool}
    (found : stretch.path = .ok (path, left))
    (means : meaning path left soFar = .ok (changed, ⟨[], isLast⟩)) :
    meaning.readOne stretch soFar = .ok changed :=
  readOne_eq found means

theorem readOne_eq_error
    {error : DeclarationError}
    (found : stretch.path = .ok (path, left))
    (means : meaning path left soFar = .error error) :
    meaning.readOne stretch soFar = .error error :=
  @readOne_eq _ meaning stretch left path soFar (.error error) true found means

end Meaning

/-! ### Arguments of blocks -/

theorem BlockArgument.Written.unbroken
    {argument : BlockArgument}
    {stretch : Stretch}
    (written : argument.Written stretch) :
    Unbroken stretch.tokens ∧ stretch.tokens ≠ [] := by
  cases written with
  | supertypes isLast paths =>
      exact ⟨List.forall_mem_cons.mpr ⟨rfl, List.forall_mem_cons.mpr ⟨rfl, List.forall_mem_nil _⟩⟩,
        List.cons_ne_nil _ _⟩
  | bareSupertypes isLast isTail =>
      exact ⟨List.forall_mem_cons.mpr ⟨rfl, isTail.unbroken⟩, List.cons_ne_nil _ _⟩
  | unknown isLast isPath _ isTail => exact isPath.unbroken_append isTail

/-- Where no list in parentheses follows, no paths are read. -/
theorem readPaths_of_tail
    {tail : List Token}
    (isTail : Tail tail)
    (isBare : ∀ inner, tail ≠ [.group .parenthesis inner])
    (isLast : Bool) :
    readPaths ⟨tail, isLast⟩ = .error (.options (.noParentheses (tail.isEmpty && isLast))) := by
  cases isTail with
  | none => rfl
  | value isJoint noCommas => rfl
  | list delimiter tokens =>
      cases delimiter with
      | parenthesis => exact absurd rfl (isBare tokens)
      | bracket => rfl
      | brace => rfl

/-- However it is written, an argument of a block adds its supertypes or is turned down. -/
theorem reads_blockMeaning :
    Meaning.Reads SubscriberBlock.meaning BlockArgument.Written
      fun soFar argument => unlessObjected argument.objection? (soFar ++ argument.paths) := by
  refine ⟨BlockArgument.Written.unbroken, ?_⟩
  intro argument stretch written soFar
  have listing (left : Stretch) : SubscriberBlock.meaning ⟨false, ["supertypes"]⟩ left soFar = do
      let found ← readPaths left
      return (soFar ++ found.1, found.2) := rfl
  cases written with
  | @supertypes paths inner isLast arePaths =>
      have means : SubscriberBlock.meaning ⟨false, ["supertypes"]⟩
          ⟨[.group .parenthesis inner], isLast⟩ soFar =
            .ok (soFar ++ paths, ⟨[], isLast⟩) := by
        rw [listing, readPaths_of_listed arePaths]
        rfl
      exact Meaning.readOne_eq_ok rfl means
  | @bareSupertypes tail isLast isTail isBare =>
      have found : Stretch.path ⟨[.word "supertypes"] ++ tail, isLast⟩ =
          .ok (⟨false, ["supertypes"]⟩, ⟨tail, isLast⟩) :=
        Stretch.path_of_written_append (.plain .nil) isTail.endsPath isLast
      have means : SubscriberBlock.meaning ⟨false, ["supertypes"]⟩ ⟨tail, isLast⟩ soFar =
          .error (.options (.noParentheses (tail.isEmpty && isLast))) := by
        rw [listing, readPaths_of_tail isTail isBare]
        rfl
      exact Meaning.readOne_eq_error found means
  | unknown isLast isPath isOther isTail =>
      refine Meaning.readOne_eq_error
        (Stretch.path_of_written_append isPath isTail.endsPath isLast) ?_
      rw [SubscriberBlock.meaning, isOther, if_neg Bool.false_ne_true]

theorem foldlM_supertypes (arguments : List BlockArgument) :
    arguments.foldlM
        (fun soFar argument => unlessObjected argument.objection? (soFar ++ argument.paths)) [] =
      unlessObjected (arguments.filterMap BlockArgument.objection?).head?
        (arguments.flatMap BlockArgument.paths) := by
  rw [← objectionsAfter_of_independent BlockArgument.objection? []]
  let summary (earlier : List BlockArgument) : List Path := earlier.flatMap BlockArgument.paths
  let step (soFar : List Path) (argument : BlockArgument) : Except DeclarationError (List Path) :=
    unlessObjected argument.objection? (soFar ++ argument.paths)
  have steps (earlier : List BlockArgument) (argument : BlockArgument) :
      step (summary earlier) argument =
        unlessObjected argument.objection? (summary (earlier ++ [argument])) := by
    simp only [step, summary, List.flatMap_append, List.flatMap_singleton]
  exact foldlM_eq_of_objections steps [] arguments

/-! ### Options of methods -/

theorem MethodOption.Written.unbroken
    {option : MethodOption}
    {stretch : Stretch}
    (written : option.Written stretch) :
    Unbroken stretch.tokens ∧ stretch.tokens ≠ [] := by
  cases written with
  | priority isJoint isLast _ =>
      simp only [Unbroken, List.forall_mem_cons]
      exact ⟨⟨rfl, rfl, rfl, List.forall_mem_nil _⟩, List.cons_ne_nil _ _⟩
  | receiveCanceled isLast =>
      exact ⟨List.forall_mem_cons.mpr ⟨rfl, List.forall_mem_nil _⟩, List.cons_ne_nil _ _⟩
  | receiveCanceledValue value isJoint isLast =>
      simp only [Unbroken, List.forall_mem_cons]
      exact ⟨⟨rfl, rfl, rfl, List.forall_mem_nil _⟩, List.cons_ne_nil _ _⟩
  | unknown isLast isPath _ _ isTail => exact isPath.unbroken_append isTail

/-- One more option of a method is taken into account, or turned down. -/
def MethodOptions.take (soFar : MethodOptions) (option : MethodOption) :
    Except DeclarationError MethodOptions :=
  unlessObjected option.objection?
    { priority := option.priority?.getD soFar.priority
      receivesCanceled := option.receivesCanceled?.getD soFar.receivesCanceled }

theorem getD_getLast?_filterMap_append_singleton
    {β : Type}
    (says? : α → Option β)
    (earlier : List α)
    (element : α)
    (otherwise : β) :
    ((earlier ++ [element]).filterMap says?).getLast?.getD otherwise =
      (says? element).getD ((earlier.filterMap says?).getLast?.getD otherwise) := by
  rw [List.filterMap_append]
  cases isSaid : says? element <;> simp [isSaid]

theorem MethodOptions.take_of
    (earlier : List MethodOption)
    (option : MethodOption) :
    (MethodOptions.of earlier).take option =
      unlessObjected option.objection? (MethodOptions.of (earlier ++ [option])) := by
  simp only [take, of, getD_getLast?_filterMap_append_singleton]

/-- However it is written, an option of a method is taken into account as one. -/
theorem reads_methodMeaning :
    Meaning.Reads Function.meaning MethodOption.Written MethodOptions.take := by
  refine ⟨MethodOption.Written.unbroken, ?_⟩
  intro option stretch written soFar
  cases written with
  | @priority name isJoint isLast isName =>
      have isPriority : Path.isWord ⟨false, ["priority"]⟩ "priority" = true := rfl
      have isEquals : Stretch.equals ⟨[.mark '=' isJoint, .word name], isLast⟩ =
          .ok ⟨[.word name], isLast⟩ := rfl
      have isIdentifier : Stretch.identifier ⟨[.word name], isLast⟩ =
          .ok (name, ⟨[], isLast⟩) := by
        simp only [Stretch.identifier, isName]
        rfl
      rw [MethodOptions.take, MethodOption.objection?, MethodOption.priority?]
      cases isLabel : Priority.ofLabel? name with
      | some priority =>
          have means : Function.meaning ⟨false, ["priority"]⟩
              ⟨[.mark '=' isJoint, .word name], isLast⟩ soFar =
                .ok ({ soFar with priority := priority }, ⟨[], isLast⟩) := by
            simp only [Function.meaning, isPriority, isEquals, isIdentifier, Meaning.lift, if_true,
              Except.bind, bind, isLabel]
            rfl
          exact Meaning.readOne_eq_ok rfl means
      | none =>
          have means : Function.meaning ⟨false, ["priority"]⟩
              ⟨[.mark '=' isJoint, .word name], isLast⟩ soFar = .error .unknownPriority := by
            simp only [Function.meaning, isPriority, isEquals, isIdentifier, Meaning.lift, if_true,
              Except.bind, bind, isLabel]
          exact Meaning.readOne_eq_error rfl means
  | receiveCanceled isLast => exact Meaning.readOne_eq_ok rfl rfl
  | receiveCanceledValue value isJoint isLast =>
      cases value <;> exact Meaning.readOne_eq_ok rfl rfl
  | unknown isLast isPath notPriority notReceive isTail =>
      refine Meaning.readOne_eq_error
        (Stretch.path_of_written_append isPath isTail.endsPath isLast) ?_
      rw [Function.meaning, notPriority, if_neg Bool.false_ne_true, notReceive,
        if_neg Bool.false_ne_true]

theorem options_of_written
    {tag : Attribute}
    {options : List MethodOption}
    (written : MarkWritten tag options) :
    Function.options tag =
      unlessObjected (options.filterMap MethodOption.objection?).head?
        (MethodOptions.of options) := by
  cases written with
  | bare name => rfl
  | @list tokens _ name delimiter listed =>
      rw [← objectionsAfter_of_independent MethodOption.objection? []]
      refine Eq.trans (reads_methodMeaning.read listed (MethodOptions.of [])) ?_
      exact foldlM_eq_of_objections MethodOptions.take_of [] options

/-! ## Which option counts -/

/-- What is said last counts. -/
theorem getLast?_filterMap_of_last
    {β : Type}
    {says? : α → Option β}
    {before after : List α}
    {element : α}
    {said : β}
    (isSaid : says? element = some said)
    (noneAfter : ∀ other ∈ after, says? other = none) :
    ((before ++ element :: after).filterMap says?).getLast? = some said := by
  rw [List.filterMap_append, List.filterMap_cons_some isSaid,
    List.filterMap_eq_nil_iff.mpr noneAfter, List.getLast?_concat]

namespace MethodOption

theorem priority?_eq_none
    {options : List MethodOption}
    (noPriority : ∀ name, .priority name ∉ options) :
    ∀ option ∈ options, option.priority? = none := by
  intro option isGiven
  cases option with
  | priority name => exact absurd isGiven (noPriority name)
  | receiveCanceled value? => rfl
  | unknown path => rfl

theorem receivesCanceled?_eq_none
    {options : List MethodOption}
    (noReceiveCanceled : ∀ value?, .receiveCanceled value? ∉ options) :
    ∀ option ∈ options, option.receivesCanceled? = none := by
  intro option isGiven
  cases option with
  | priority name => rfl
  | receiveCanceled value? => exact absurd isGiven (noReceiveCanceled value?)
  | unknown path => rfl

end MethodOption

namespace MethodOptions

variable {options before after : List MethodOption}

/-- Where nothing is to be said against the options, the last priority that they name counts. -/
theorem parse_of_last
    {name : String}
    (noObjections : options.filterMap MethodOption.objection? = [])
    (split : options = before ++ .priority name :: after)
    (isLast : ∀ other, .priority other ∉ after) :
    Priority.parse name = .ok (MethodOptions.of options).priority := by
  have noObjection := List.filterMap_eq_nil_iff.mp noObjections (.priority name)
    (split ▸ List.mem_append_right _ List.mem_cons_self)
  have isPriority : (Priority.ofLabel? name).isSome = true := by
    simpa [MethodOption.objection?, Option.isSome_iff_ne_none] using noObjection
  obtain ⟨priority, found⟩ := Option.isSome_iff_exists.mp isPriority
  have isSaid : (MethodOption.priority name).priority? = some priority := found
  rw [Priority.parse_of_ofLabel? found, of, split,
    getLast?_filterMap_of_last isSaid (MethodOption.priority?_eq_none isLast), Option.getD_some]

theorem priority_of_none
    (noPriority : ∀ name, .priority name ∉ options) :
    (MethodOptions.of options).priority = .normal := by
  rw [of, List.filterMap_eq_nil_iff.mpr (MethodOption.priority?_eq_none noPriority)]
  rfl

theorem receivesCanceled_of_last
    {value? : Option Bool}
    (split : options = before ++ .receiveCanceled value? :: after)
    (isLast : ∀ other, .receiveCanceled other ∉ after) :
    (MethodOptions.of options).receivesCanceled = value?.getD true := by
  have isSaid : (MethodOption.receiveCanceled value?).receivesCanceled? =
      some (value?.getD true) := rfl
  rw [of, split,
    getLast?_filterMap_of_last isSaid (MethodOption.receivesCanceled?_eq_none isLast),
    Option.getD_some]

theorem receivesCanceled_of_none
    (noReceiveCanceled : ∀ value?, .receiveCanceled value? ∉ options) :
    (MethodOptions.of options).receivesCanceled = false := by
  rw [of, List.filterMap_eq_nil_iff.mpr
    (MethodOption.receivesCanceled?_eq_none noReceiveCanceled)]
  rfl

end MethodOptions

end Declaration
end EventRelay
