import EventRelay.Proofs.Declaration.WrittenOptions

/-!
# Accepted event types

Where the options of an event type are well formed, they decide what becomes of its declaration.
All that is to be said against it is listed here in the order of the stages: generic parameters,
options that types do not have, the shape of a union, options of fields that are unknown or given
before, and last that a cancellable type has no field for its canceled state. A declaration fails
with the first of these objections, and if there is none, its options describe the kind of its
events.
-/

namespace EventRelay
namespace Declaration

namespace WrittenOption

/-- The option says that the type is abstract. -/
def isAbstract (option : WrittenOption) : Bool := option.path.isWord "abstract"

/-- The option declares the type cancellable. -/
def isCancellable (option : WrittenOption) : Bool :=
  option.path.isWord "cancellable" || option.path.isWord "cancelable"

/-- The option lists markers. -/
def isMarkers (option : WrittenOption) : Bool :=
  option.path.isWord "markers" && option.arguments?.isSome

/-- Types have options like this one. -/
def isTypeOption (option : WrittenOption) : Bool :=
  option.isAbstract || option.isCancellable || option.isMarkers

/-- What is to be said against an option of a type. -/
def typeObjection? (option : WrittenOption) : Option DeclarationError :=
  if option.isTypeOption then none
  else if option.path.isWord "markers" then some (.options (.noParentheses option.isLast))
  else some .unknownEventOption

theorem typeObjection?_eq_none_iff
    {option : WrittenOption} :
    option.typeObjection? = none ↔ option.isTypeOption = true := by
  unfold typeObjection?
  cases option.isTypeOption with
  | true => simp
  | false => cases option.path.isWord "markers" <;> simp

end WrittenOption

/-- An option of a field. -/
structure FieldOption where
  /-- The name of the field, or its position. -/
  field : String
  type : DeclaredType
  option : WrittenOption

namespace FieldOption

/-- The field holds the parent event. -/
def isParent (given : FieldOption) : Bool := given.option.path.isWord "parent"

/-- The field holds the canceled state. -/
def isCanceled (given : FieldOption) : Bool := given.option.path.isWord "canceled"

/-- What is to be said against an option of a field, after others that have been given before, on
this field or on another one. -/
def objection? (earlier : List FieldOption) (given : FieldOption) : Option DeclarationError :=
  if given.isParent then if earlier.any isParent then some .secondParent else none
  else if given.isCanceled then if earlier.any isCanceled then some .secondCanceled else none
  else some .unknownFieldOption

/-- An option of a field is unknown, or it repeats an earlier one. -/
def Offends (earlier : List FieldOption) (given : FieldOption) : Prop :=
  (given.isParent = false ∧ given.isCanceled = false) ∨
    (given.isParent = true ∧ ∃ other ∈ earlier, other.isParent = true) ∨
    (given.isCanceled = true ∧ ∃ other ∈ earlier, other.isCanceled = true)

end FieldOption

namespace EventType

/-- The fields of a structure. Other types have none that matter. -/
def fields (declaration : EventType) : List Field :=
  match declaration.shape with
  | .structure fields => fields
  | _ => []

/-- The options that are written on a type and on its fields. -/
structure Wording (declaration : EventType) where
  onType : List WrittenOption
  /-- The options of each field. -/
  onFields : List (List WrittenOption)
  type_written : OptionsWritten attributeName declaration.attributes onType
  fields_written : List.Forall₂
    (fun field options => OptionsWritten attributeName field.attributes options)
    declaration.fields onFields

/-- The options of fields in source order, with the fields counted from a position on. -/
def fieldOptionsFrom : Nat → List Field → List (List WrittenOption) → List FieldOption
  | position, field :: rest, options :: others =>
      options.map (FieldOption.mk (field.name?.getD (toString position)) field.type) ++
        fieldOptionsFrom (position + 1) rest others
  | _, _, _ => []

namespace Wording

variable {declaration : EventType}

/-- The options of all fields in source order. -/
def fieldOptions (wording : declaration.Wording) : List FieldOption :=
  fieldOptionsFrom 0 declaration.fields wording.onFields

/-- What is to be said against the shape of the type and the options of its fields. -/
def shapeObjections (wording : declaration.Wording) : List DeclarationError :=
  (match declaration.shape with
    | .union => [.unionEvent]
    | _ => []) ++ objectionsAfter FieldOption.objection? [] wording.fieldOptions

/-- All that is to be said against the declaration, stage by stage and in source order. -/
def objections (wording : declaration.Wording) : List DeclarationError :=
  (if declaration.genericCount = 0 then [] else [.genericEvent]) ++
    (wording.onType.filterMap WrittenOption.typeObjection? ++
      (wording.shapeObjections ++
        if wording.onType.any WrittenOption.isCancellable &&
            !wording.fieldOptions.any FieldOption.isCanceled then [.noCanceledField]
        else []))

/-- The kind that the options describe. The type of the parent field is the parent, some
attribute says that the kind is abstract, and a field for the canceled state makes it
cancellable. -/
def description (wording : declaration.Wording) : EventDescription where
  name := declaration.name
  parentType? := (wording.fieldOptions.find? FieldOption.isParent).map FieldOption.type
  isAbstract := wording.onType.any WrittenOption.isAbstract
  cancellable := wording.fieldOptions.any FieldOption.isCanceled
  markers := wording.onType.flatMap fun option => option.arguments?.getD []
  parentField? := (wording.fieldOptions.find? FieldOption.isParent).map FieldOption.field
  canceledField? := (wording.fieldOptions.find? FieldOption.isCanceled).map FieldOption.field

end Wording
end EventType

/-! ## Options of types -/

/-- What the options of a type say together. -/
def TypeOptions.of (options : List WrittenOption) : TypeOptions where
  isAbstract := options.any WrittenOption.isAbstract
  cancellable := options.any WrittenOption.isCancellable
  markers := options.flatMap fun option => option.arguments?.getD []

/-- One more option of a type is taken into account, or turned down. -/
def TypeOptions.take (soFar : TypeOptions) (option : WrittenOption) :
    Except DeclarationError TypeOptions :=
  unlessObjected option.typeObjection?
    { isAbstract := soFar.isAbstract || option.isAbstract
      cancellable := soFar.cancellable || option.isCancellable
      markers := soFar.markers ++ option.arguments?.getD [] }

theorem TypeOptions.take_of
    (earlier : List WrittenOption)
    (option : WrittenOption) :
    (TypeOptions.of earlier).take option =
      unlessObjected option.typeObjection? (TypeOptions.of (earlier ++ [option])) := by
  simp [take, of]

theorem Path.eq_of_isWord
    {path : Path}
    {word : String}
    (isWord : path.isWord word = true) :
    path = ⟨false, [word]⟩ := by
  obtain ⟨isGlobal, segments⟩ := path
  simpa [Path.isWord] using isWord

theorem typeMeaning_of_bare
    (path : Path)
    (isLast : Bool)
    (soFar : TypeOptions) :
    EventType.typeMeaning path ⟨[], isLast⟩ soFar =
      (soFar.take ⟨path, none, isLast⟩).map fun changed => (changed, ⟨[], isLast⟩) := by
  unfold EventType.typeMeaning TypeOptions.take unlessObjected WrittenOption.typeObjection?
    WrittenOption.isTypeOption WrittenOption.isMarkers WrittenOption.isAbstract
    WrittenOption.isCancellable
  by_cases isAbstract : path.isWord "abstract" = true
  · obtain rfl := Path.eq_of_isWord isAbstract
    simp [Path.isWord, Except.map]
  by_cases isCancellable : (path.isWord "cancellable" || path.isWord "cancelable") = true
  · simp [isAbstract, isCancellable, Except.map]
  by_cases isMarkers : path.isWord "markers" = true
  · simp [isAbstract, isCancellable, isMarkers, Except.map]
    rfl
  · simp [isAbstract, isCancellable, isMarkers, Except.map]

theorem typeMeaning_of_markers
    {paths : List Path}
    {inner : List Token}
    (listed : Listed (fun path stretch => path.Written stretch.tokens) paths inner)
    (isLast : Bool)
    (soFar : TypeOptions) :
    EventType.typeMeaning ⟨false, ["markers"]⟩ ⟨[.group .parenthesis inner], isLast⟩ soFar =
      (soFar.take ⟨⟨false, ["markers"]⟩, some paths, isLast⟩).map
        fun changed => (changed, ⟨[], isLast⟩) := by
  have goesOn : EventType.typeMeaning ⟨false, ["markers"]⟩ ⟨[.group .parenthesis inner], isLast⟩
      soFar = do
        let listing ← readPaths ⟨[.group .parenthesis inner], isLast⟩
        return ({ soFar with markers := soFar.markers ++ listing.1 }, listing.2) := rfl
  rw [goesOn, readPaths_of_listed listed]
  simp [TypeOptions.take, unlessObjected, WrittenOption.typeObjection?, WrittenOption.isTypeOption,
    WrittenOption.isMarkers, WrittenOption.isAbstract, WrittenOption.isCancellable, Path.isWord,
    Except.map]

/-- However it is written, an option of a type is taken into account as one. -/
theorem reads_typeMeaning :
    Meaning.Reads EventType.typeMeaning WrittenOption.Written TypeOptions.take := by
  refine ⟨WrittenOption.Written.unbroken, ?_⟩
  intro option stretch written soFar
  cases written with
  | bare isLast isPath =>
      exact Meaning.readOne_eq (Stretch.path_of_written isPath isLast) (typeMeaning_of_bare ..)
  | markers isLast arePaths =>
      exact Meaning.readOne_eq rfl (typeMeaning_of_markers arePaths isLast soFar)

/-! ## Options of fields -/

/-- What the options of fields say together. -/
def FieldRoles.of (options : List FieldOption) : FieldRoles where
  parent? := (options.find? FieldOption.isParent).map fun given => (given.field, given.type)
  canceled? := (options.find? FieldOption.isCanceled).map FieldOption.field

/-- One more option of a field is taken into account, or turned down. -/
def FieldRoles.take (soFar : FieldRoles) (given : FieldOption) :
    Except DeclarationError FieldRoles :=
  if given.isParent then
    if soFar.parent?.isSome then .error .secondParent
    else .ok { soFar with parent? := some (given.field, given.type) }
  else if given.isCanceled then
    if soFar.canceled?.isSome then .error .secondCanceled
    else .ok { soFar with canceled? := some given.field }
  else .error .unknownFieldOption

theorem FieldOption.isCanceled_of_isParent
    {given : FieldOption}
    (isParent : given.isParent = true) :
    given.isCanceled = false := by
  rw [isCanceled, Path.eq_of_isWord isParent]
  decide

theorem FieldOption.isSome_objection?_iff
    {earlier : List FieldOption}
    {given : FieldOption} :
    (objection? earlier given).isSome = true ↔ given.Offends earlier := by
  unfold objection? Offends
  cases isParent : given.isParent with
  | true =>
      rw [isCanceled_of_isParent isParent]
      cases repeated : earlier.any FieldOption.isParent <;> simpa using repeated
  | false =>
      cases isCanceled : given.isCanceled with
      | false => simp
      | true => cases repeated : earlier.any FieldOption.isCanceled <;> simpa using repeated

theorem FieldRoles.isSome_parent?_of (options : List FieldOption) :
    (FieldRoles.of options).parent?.isSome = options.any FieldOption.isParent := by
  rw [of, Option.isSome_map, List.isSome_find?]

theorem FieldRoles.isSome_canceled?_of (options : List FieldOption) :
    (FieldRoles.of options).canceled?.isSome = options.any FieldOption.isCanceled := by
  rw [of, Option.isSome_map, List.isSome_find?]

theorem FieldRoles.take_of
    (earlier : List FieldOption)
    (given : FieldOption) :
    (FieldRoles.of earlier).take given =
      unlessObjected (FieldOption.objection? earlier given)
        (FieldRoles.of (earlier ++ [given])) := by
  have isFirst {asks : FieldOption → Bool} (fresh : earlier.any asks = false) :
      earlier.find? asks = none := by
    rwa [← Option.not_isSome_iff_eq_none, List.isSome_find?, Bool.not_eq_true]
  unfold take FieldOption.objection?
  rw [isSome_parent?_of, isSome_canceled?_of]
  cases isParent : given.isParent with
  | true =>
      cases repeated : earlier.any FieldOption.isParent with
      | true => rfl
      | false =>
          simp [of, unlessObjected, List.find?_append, isFirst repeated, isParent,
            FieldOption.isCanceled_of_isParent isParent]
  | false =>
      cases isCanceled : given.isCanceled with
      | false => rfl
      | true =>
          cases repeated : earlier.any FieldOption.isCanceled with
          | true => rfl
          | false =>
              simp [of, unlessObjected, List.find?_append, isFirst repeated, isParent, isCanceled]

theorem fieldMeaning_eq
    (name : String)
    (type : DeclaredType)
    (option : WrittenOption)
    (stretch : Stretch)
    (soFar : FieldRoles) :
    EventType.fieldMeaning name type option.path stretch soFar =
      (soFar.take ⟨name, type, option⟩).map fun changed => (changed, stretch) := by
  unfold EventType.fieldMeaning FieldRoles.take FieldOption.isParent FieldOption.isCanceled
  repeat' split
  all_goals rfl

/-- The same of an option of a field. One with paths in parentheses is unknown. -/
theorem reads_fieldMeaning
    (name : String)
    (type : DeclaredType) :
    Meaning.Reads (EventType.fieldMeaning name type) WrittenOption.Written
      fun soFar option => soFar.take ⟨name, type, option⟩ := by
  refine ⟨WrittenOption.Written.unbroken, ?_⟩
  intro option stretch written soFar
  cases written with
  | @bare path _ isLast isPath =>
      exact Meaning.readOne_eq (Stretch.path_of_written isPath isLast)
        (fieldMeaning_eq name type ⟨path, none, isLast⟩ ⟨[], isLast⟩ soFar)
  | markers isLast arePaths => rfl

/-- The options of all fields are gone through in order. -/
theorem rolesFrom_of_written
    {fields : List Field}
    {onFields : List (List WrittenOption)}
    (written : List.Forall₂ (fun field options =>
      OptionsWritten EventType.attributeName field.attributes options) fields onFields)
    (position : Nat)
    (soFar : FieldRoles) :
    EventType.rolesFrom position fields soFar =
      (EventType.fieldOptionsFrom position fields onFields).foldlM FieldRoles.take soFar := by
  induction written generalizing position soFar with
  | nil => rfl
  | @cons field options fields onFields own _ inductionHypothesis =>
      rw [EventType.fieldOptionsFrom, List.foldlM_append, List.foldlM_map, EventType.rolesFrom,
        readAttributes_of_written (reads_fieldMeaning ..) own]
      exact congrArg _ (funext fun changed => inductionHypothesis (position + 1) changed)

/-! ## Declarations -/

namespace EventType.Wording

variable {declaration : EventType}

theorem typeOptions_eq (wording : declaration.Wording) :
    declaration.typeOptions =
      unlessObjected (wording.onType.filterMap WrittenOption.typeObjection?).head?
        (TypeOptions.of wording.onType) := by
  rw [EventType.typeOptions, readAttributes_of_written reads_typeMeaning wording.type_written,
    ← objectionsAfter_of_independent WrittenOption.typeObjection? []]
  exact foldlM_eq_of_objections TypeOptions.take_of [] wording.onType

theorem fieldRoles_eq (wording : declaration.Wording) :
    declaration.fieldRoles =
      unlessObjected wording.shapeObjections.head? (FieldRoles.of wording.fieldOptions) := by
  obtain ⟨name, genericCount, attributes, shape⟩ := declaration
  obtain ⟨onType, onFields, -, written⟩ := wording
  rcases shape with fields | _ | _
  · have gone := rolesFrom_of_written written 0 ⟨none, none⟩
    exact gone.trans (foldlM_eq_of_objections FieldRoles.take_of [] _)
  · cases written
    rfl
  · rfl

/-- A declaration fails with the first objection, and without one its options describe the
kind. -/
theorem describe_eq (wording : declaration.Wording) :
    declaration.describe = unlessObjected wording.objections.head? wording.description := by
  unfold EventType.describe
  rw [typeOptions_eq wording, fieldRoles_eq wording, objections]
  split
  case isTrue => rfl
  case isFalse specific =>
    rw [if_pos (not_not.mp specific), List.nil_append, List.head?_append, List.head?_append]
    cases (wording.onType.filterMap WrittenOption.typeObjection?).head? with
    | some objection => rfl
    | none =>
        cases wording.shapeObjections.head? with
        | some objection => rfl
        | none =>
            change (if (wording.onType.any WrittenOption.isCancellable &&
              (FieldRoles.of wording.fieldOptions).canceled?.isNone) = true then _ else _) = _
            rw [← Option.not_isSome, FieldRoles.isSome_canceled?_of]
            split
            case isTrue => rfl
            case isFalse agrees =>
              have sameCancellable : (wording.onType.any WrittenOption.isCancellable ||
                  wording.fieldOptions.any FieldOption.isCanceled) =
                wording.fieldOptions.any FieldOption.isCanceled := by
                revert agrees
                cases wording.onType.any WrittenOption.isCancellable <;>
                  cases wording.fieldOptions.any FieldOption.isCanceled <;> decide
              refine congrArg Except.ok ?_
              simp only [TypeOptions.of, sameCancellable, FieldRoles.of, Option.map_map,
                description]
              rfl

theorem objections_ne_nil_iff (wording : declaration.Wording) :
    wording.objections ≠ [] ↔
      declaration.genericCount ≠ 0 ∨
        (∃ option ∈ wording.onType, option.isTypeOption = false) ∨
        declaration.shape = .union ∨
        (∃ before given after, wording.fieldOptions = before ++ given :: after ∧
          given.Offends before) ∨
        ((∃ option ∈ wording.onType, option.isCancellable = true) ∧
          ∀ given ∈ wording.fieldOptions, given.isCanceled = false) := by
  have ofType : ¬ wording.onType.filterMap WrittenOption.typeObjection? = [] ↔
      ∃ option ∈ wording.onType, option.isTypeOption = false := by
    simp [List.filterMap_eq_nil_iff, WrittenOption.typeObjection?_eq_none_iff]
  have ofFields : ¬ objectionsAfter FieldOption.objection? [] wording.fieldOptions = [] ↔
      ∃ before given after, wording.fieldOptions = before ++ given :: after ∧
        given.Offends before := by
    simp only [← ne_eq, objectionsAfter_ne_nil_iff, FieldOption.isSome_objection?_iff,
      List.nil_append]
  have ofCancellable : ¬ (if wording.onType.any WrittenOption.isCancellable &&
        !wording.fieldOptions.any FieldOption.isCanceled then [DeclarationError.noCanceledField]
        else []) = [] ↔
      (∃ option ∈ wording.onType, option.isCancellable = true) ∧
        ∀ given ∈ wording.fieldOptions, given.isCanceled = false := by
    simp [← and_assoc]
  rw [objections, shapeObjections, ne_eq, List.append_eq_nil_iff, List.append_eq_nil_iff,
    List.append_eq_nil_iff, List.append_eq_nil_iff, not_and_or, not_and_or, not_and_or, not_and_or,
    ofType, ofFields, ofCancellable, or_assoc]
  refine or_congr ?_ (or_congr_right (or_congr_left ?_))
  · split <;> simp_all
  · cases declaration.shape <;> simp

/-- Where its options are well formed, a declaration fails with the first objection to it, and
without one its options describe the kind. There is an objection if the type is generic, if it has
an option that types do not have, if it is a union, if an option of a field is unknown or has been
given before, or if the type is declared cancellable without a field for the canceled state. No
enumeration has such a field. -/
theorem decides_acceptance (wording : declaration.Wording) :
    declaration.describe = unlessObjected wording.objections.head? wording.description ∧
      ((∃ objection, declaration.describe = .error objection) ↔
        declaration.genericCount ≠ 0 ∨
          (∃ option ∈ wording.onType, option.isTypeOption = false) ∨
          declaration.shape = .union ∨
          (∃ before given after, wording.fieldOptions = before ++ given :: after ∧
            given.Offends before) ∨
          ((∃ option ∈ wording.onType, option.isCancellable = true) ∧
            ∀ given ∈ wording.fieldOptions, given.isCanceled = false)) ∧
      (declaration.shape = .enumeration →
        (∃ option ∈ wording.onType, option.isCancellable = true) →
        ∃ objection, declaration.describe = .error objection) := by
  have fails :
      (∃ objection, declaration.describe = .error objection) ↔ wording.objections ≠ [] := by
    rw [wording.describe_eq]
    cases wording.objections with
    | nil => simp [unlessObjected]
    | cons first rest => simp [unlessObjected]
  refine ⟨wording.describe_eq, fails.trans wording.objections_ne_nil_iff, ?_⟩
  intro isEnumeration declared
  refine fails.mpr (wording.objections_ne_nil_iff.mpr (.inr (.inr (.inr (.inr ⟨declared, ?_⟩)))))
  have noFields : declaration.fields = [] := by rw [EventType.fields, isEnumeration]
  rw [fieldOptions, noFields]
  exact nofun

end EventType.Wording

/-! ### Evacuations and signals -/

namespace EventType

/-- The attribute `event` with a list of options. -/
def eventTag (tokens : List Token) : Attribute :=
  ⟨[.word attributeName], .list .parenthesis tokens⟩

/-- A structure that embeds an alarm and has a field for its canceled state. Its options stand in
two attributes. -/
def evacuation : EventType where
  name := "Evacuation"
  genericCount := 0
  attributes := [
    eventTag ([.word "abstract"] ++ .mark ',' false :: ([.word "cancelable"] ++ [.mark ',' false])),
    ⟨[.word "derive"], .list .parenthesis [.word "Debug"]⟩,
    eventTag [.word "markers", .group .parenthesis ([.word "Fire"] ++ .mark ',' false ::
      [.word "plan", .mark ':' true, .mark ':' false, .word "Drill"])]]
  shape := .structure [
    ⟨some "base", .path [.word "Alarm"] "Alarm", [eventTag [.word "parent"]]⟩,
    ⟨none, .path [.word "bool"] "bool", [eventTag [.word "canceled"]]⟩]

/-- An enumeration that is declared cancellable. -/
def signals : EventType := ⟨"Signals", 0, [eventTag [.word "cancellable"]], .enumeration⟩

theorem word_written (word : String) : Path.Written ⟨false, [word]⟩ [.word word] := .plain .nil

/-- The options of the structure. -/
def evacuationWording : evacuation.Wording where
  onType := [⟨⟨false, ["abstract"]⟩, none, false⟩, ⟨⟨false, ["cancelable"]⟩, none, false⟩] ++
    ([⟨⟨false, ["markers"]⟩, some [⟨false, ["Fire"]⟩, ⟨false, ["plan", "Drill"]⟩], true⟩] ++ [])
  onFields := [[⟨⟨false, ["parent"]⟩, none, true⟩] ++ [],
    [⟨⟨false, ["canceled"]⟩, none, true⟩] ++ []]
  type_written := by
    refine .listed _ (.more false (.bare false (word_written _))
      (.closed false (.bare false (word_written _)))) (.other rfl ?_)
    exact .listed _ (.last (.markers true (.more false (word_written _)
      (.last (.plain (.cons false .nil)))))) .nil
  fields_written := .cons (.listed _ (.last (.bare true (word_written _))) .nil)
    (.cons (.listed _ (.last (.bare true (word_written _))) .nil) .nil)

/-- The option of the enumeration. -/
def signalsWording : signals.Wording where
  onType := [⟨⟨false, ["cancellable"]⟩, none, true⟩] ++ []
  onFields := []
  type_written := .listed _ (.last (.bare true (word_written _))) .nil
  fields_written := .nil

/-- The structure describes an abstract kind below alarms, with a canceled state of its own. The
enumeration fails. -/
theorem Wording.decides_acceptance_evacuation :
    evacuation.describe = .ok
      ⟨"Evacuation", some (.path [.word "Alarm"] "Alarm"), true, true,
        [⟨false, ["Fire"]⟩, ⟨false, ["plan", "Drill"]⟩], some "base", some "1"⟩ ∧
      ∃ objection, signals.describe = .error objection :=
  ⟨evacuationWording.decides_acceptance.1,
    signalsWording.decides_acceptance.2.2 rfl ⟨_, List.mem_cons_self, by decide⟩⟩

end EventType

end Declaration
end EventRelay
