import EventRelay.Config
import EventRelay.Proofs.Json.Reading
import Mathlib.Data.List.Forall2
import Mathlib.Data.Set.List

/-!
# Settings in JSON

What a text says about the switches of a bus. An object says it with its members, and only those
with the name of a switch count: neither their order, nor what stands between them, nor how any of
it is written makes a difference. An array says it with its elements in order. No other text is a
configuration.
-/

namespace EventRelay
namespace BusConfig

open Json

/-! ## What members say -/

/-- The members of an object with their keys as texts. A string with half of a surrogate pair on
its own is no text. -/
def Keyed (members : List (List Piece × Value)) (given : List (String × Value)) : Prop :=
  List.Forall₂ (fun member pair => text? member.1 = some pair.1 ∧ member.2 = pair.2) members given

/-- The members give a switch this value: one of them does by name, or none of them has the name
and the switch stays off. -/
def Gives (given : List (String × Value)) (name : String) (value : Bool) : Prop :=
  (name, .bool value) ∈ given ∨ value = false ∧ ∀ member ∈ given, member.1 ≠ name

/-- The members with a name. -/
def called (given : List (String × Value)) (name : String) : List (String × Value) :=
  given.filter fun member => member.1 = name

/-- The members with the name of a switch. -/
def known (given : List (String × Value)) : List (String × Value) :=
  given.filter fun member => member.1 ∈ switches

theorem mem_called
    {given : List (String × Value)}
    {name : String}
    {member : String × Value} :
    member ∈ called given name ↔ member ∈ given ∧ member.1 = name := by
  simp [called]

theorem length_called (given : List (String × Value)) (name : String) :
    (called given name).length = (given.map Prod.fst).count name := by
  rw [called, List.count, List.countP_map, List.countP_eq_length_filter]
  congr 1

theorem called_known
    {name : String}
    (isSwitch : name ∈ switches)
    (given : List (String × Value)) :
    called (known given) name = called given name := by
  rw [called, known, List.filter_filter]
  refine List.filter_congr fun member _ => ?_
  by_cases isName : member.1 = name
  · simp [isName, isSwitch]
  · simp [isName]

theorem bool?_eq_some_iff
    {value : Value}
    {flag : Bool} :
    bool? value = some flag ↔ value = .bool flag := by
  cases value with
  | bool other => simp [bool?]
  | null | number | string | array | object => simp [bool?]

/-- A switch has a value if one member at most has its name, and that one is a truth value. -/
theorem switch?_eq_some_iff
    {given : List (String × Value)}
    {name : String}
    {value : Bool} :
    switch? given name = some value ↔
      called given name = [(name, .bool value)] ∨ called given name = [] ∧ value = false := by
  have sameName : ∀ member ∈ called given name, member.1 = name := fun member isMember =>
    (mem_called.mp isMember).2
  rw [switch?, ← called]
  cases isCalled : called given name with
  | nil => simp [eq_comm]
  | cons member others =>
      obtain ⟨key, content⟩ := member
      have isName : key = name := sameName (key, content) (isCalled ▸ List.mem_cons_self)
      cases others with
      | nil => simp [isName, bool?_eq_some_iff]
      | cons => simp

theorem exists_switch?_iff
    {given : List (String × Value)}
    {name : String} :
    (∃ value, switch? given name = some value) ↔
      (given.map Prod.fst).count name ≤ 1 ∧
        ∀ member ∈ given, member.1 = name → ∃ value, member.2 = .bool value := by
  rw [← length_called]
  constructor
  · rintro ⟨value, found⟩
    rcases switch?_eq_some_iff.mp found with isOne | ⟨isNone, -⟩
    · refine ⟨by rw [isOne]; exact le_rfl, fun member isMember isName => ⟨value, ?_⟩⟩
      have isCalled : member ∈ called given name := mem_called.mpr ⟨isMember, isName⟩
      rw [isOne, List.mem_singleton] at isCalled
      rw [isCalled]
    · refine ⟨by rw [isNone]; exact Nat.zero_le 1, fun member isMember isName => ?_⟩
      have isCalled : member ∈ called given name := mem_called.mpr ⟨isMember, isName⟩
      rw [isNone] at isCalled
      cases isCalled
  · rintro ⟨few, areFlags⟩
    cases isCalled : called given name with
    | nil => exact ⟨false, switch?_eq_some_iff.mpr (.inr ⟨isCalled, rfl⟩)⟩
    | cons member others =>
        obtain ⟨isMember, isName⟩ : member ∈ given ∧ member.1 = name :=
          mem_called.mp (isCalled ▸ List.mem_cons_self)
        obtain ⟨value, isFlag⟩ := areFlags member isMember isName
        have isAlone : others = [] := by
          rw [isCalled, List.length_cons] at few
          exact List.eq_nil_of_length_eq_zero (by omega)
        refine ⟨value, switch?_eq_some_iff.mpr (.inl ?_)⟩
        rw [isCalled, isAlone, ← isName, ← isFlag]

theorem gives_of_switch?
    {given : List (String × Value)}
    {name : String}
    {value : Bool}
    (found : switch? given name = some value) :
    Gives given name value := by
  rcases switch?_eq_some_iff.mp found with isOne | ⟨isNone, isOff⟩
  · exact .inl (mem_called.mp (isOne ▸ List.mem_singleton_self _)).1
  · refine .inr ⟨isOff, fun member isMember isName => ?_⟩
    have isCalled : member ∈ called given name := mem_called.mpr ⟨isMember, isName⟩
    rw [isNone] at isCalled
    cases isCalled

theorem switch?_of_perm
    {given others : List (String × Value)}
    {name : String}
    (sameCalled : (called given name).Perm (called others name))
    {value : Bool}
    (found : switch? given name = some value) :
    switch? others name = some value := by
  rw [switch?_eq_some_iff] at found ⊢
  rcases found with isOne | ⟨isNone, isOff⟩
  · rw [isOne] at sameCalled
    exact .inl (List.perm_singleton.mp sameCalled.symm)
  · rw [isNone] at sameCalled
    exact .inr ⟨List.perm_nil.mp sameCalled.symm, isOff⟩

/-- The order of members and those without the name of a switch make no difference. -/
theorem switch?_eq_of_perm
    {given others : List (String × Value)}
    (alike : (known given).Perm (known others))
    {name : String}
    (isSwitch : name ∈ switches) :
    switch? given name = switch? others name := by
  have sameCalled : (called given name).Perm (called others name) := by
    rw [← called_known isSwitch given, ← called_known isSwitch others]
    exact alike.filter _
  exact Option.ext fun value => ⟨switch?_of_perm sameCalled, switch?_of_perm sameCalled.symm⟩

/-! ## What values say -/

theorem mapM_eq_some_iff
    {α β : Type}
    {function : α → Option β}
    {arguments : List α}
    {results : List β} :
    arguments.mapM function = some results ↔
      List.Forall₂ (fun argument result => function argument = some result) arguments results := by
  induction arguments generalizing results with
  | nil => simp [eq_comm]
  | cons first rest inductionHypothesis =>
      simp only [List.mapM_cons, Option.bind_eq_bind, Option.bind_eq_some_iff, Option.pure_def,
        Option.some.injEq, inductionHypothesis, List.forall₂_cons_left_iff]
      constructor
      · rintro ⟨result, isResult, others, areOthers, rfl⟩
        exact ⟨result, others, isResult, areOthers, rfl⟩
      · rintro ⟨result, others, isResult, areOthers, rfl⟩
        exact ⟨result, isResult, others, areOthers, rfl⟩

theorem named?_eq_some_iff
    {members : List (List Piece × Value)}
    {given : List (String × Value)} :
    named? members = some given ↔ Keyed members given := by
  rw [named?, mapM_eq_some_iff, Keyed]
  suffices same : ∀ (member : List Piece × Value) (pair : String × Value),
      (text? member.1).map (fun key => (key, member.2)) = some pair ↔
        text? member.1 = some pair.1 ∧ member.2 = pair.2 by
    simp only [same]
  rintro member ⟨key, content⟩
  simp only [Option.map_eq_some_iff, Prod.mk.injEq]
  constructor
  · rintro ⟨other, isText, rfl, isContent⟩
    exact ⟨isText, isContent⟩
  · rintro ⟨isText, isContent⟩
    exact ⟨key, isText, rfl, isContent⟩

/-- Values fill the switches in order, and the switches that are left stay off. -/
theorem ofValues?_eq_some_iff
    {given : List Bool}
    {config : BusConfig} :
    ofValues? given = some config ↔
      given.length ≤ 3 ∧ config.values = given ++ List.replicate (3 - given.length) false := by
  obtain ⟨first, second, third⟩ := config
  match given with
  | [] | [_] | [_, _] | [_, _, _] =>
      simp [ofValues?, values, List.replicate, eq_comm]
  | _ :: _ :: _ :: _ :: _ => simp [ofValues?]

/-- An object is a configuration if each switch has a value in it, and then has these values. -/
theorem ofJson?_object_iff
    {members : List (List Piece × Value)}
    {given : List (String × Value)}
    (keyed : Keyed members given)
    {config : BusConfig} :
    ofJson? (.object members) = some config ↔
      List.Forall₂ (fun name value => switch? given name = some value) switches config.values := by
  simp only [ofJson?, named?_eq_some_iff.mpr keyed, Option.bind_eq_bind, Option.bind_some,
    Option.bind_eq_some_iff, mapM_eq_some_iff, ofValues?_eq_some_iff]
  constructor
  · rintro ⟨found, areFound, -, sameValues⟩
    -- Each switch has a value of its own here, so none is left to be filled up.
    have three : found.length = 3 := areFound.length_eq.symm
    rw [three, Nat.sub_self, List.replicate_zero, List.append_nil] at sameValues
    rwa [sameValues]
  · intro areFound
    exact ⟨config.values, areFound, le_rfl, (List.append_nil _).symm⟩

theorem exists_values_iff
    {given : List (String × Value)} :
    (∃ config : BusConfig,
        List.Forall₂ (fun name value => switch? given name = some value) switches config.values) ↔
      ∀ name ∈ switches, ∃ value, switch? given name = some value := by
  constructor
  · rintro ⟨config, areFound⟩ name isSwitch
    obtain ⟨position, inRange, rfl⟩ := List.mem_iff_getElem.mp isSwitch
    exact ⟨_, areFound.get inRange (areFound.length_eq ▸ inRange)⟩
  · intro areFound
    obtain ⟨first, isFirst⟩ := areFound "start_shutdown" (by decide)
    obtain ⟨second, isSecond⟩ := areFound "check_types_on_dispatch" (by decide)
    obtain ⟨third, isThird⟩ := areFound "allow_per_phase_post" (by decide)
    exact ⟨⟨first, second, third⟩, .cons isFirst (.cons isSecond (.cons isThird .nil))⟩

/-- An array is a configuration if its elements are truth values for some of the switches. -/
theorem ofJson?_array_iff
    {elements : List Value}
    {config : BusConfig} :
    ofJson? (.array elements) = some config ↔
      ∃ given : List Bool, elements = given.map .bool ∧ given.length ≤ 3 ∧
        config.values = given ++ List.replicate (3 - given.length) false := by
  have areFlags (given : List Bool) :
      List.Forall₂ (fun element flag => bool? element = some flag) elements given ↔
        elements = given.map .bool := by
    simp only [bool?_eq_some_iff]
    rw [← List.forall₂_map_right_iff, List.forall₂_eq_eq_eq]
  simp only [ofJson?, Option.bind_eq_bind, Option.bind_eq_some_iff, mapM_eq_some_iff,
    ofValues?_eq_some_iff, areFlags]

theorem ofJson?_other
    {value : Value}
    (noObject : ∀ members given, Keyed members given → value ≠ .object members)
    (noArray : ∀ elements, value ≠ .array elements) :
    ofJson? value = none := by
  cases value with
  | object members =>
      have noneKeyed : named? members = none := by
        rw [Option.eq_none_iff_forall_ne_some]
        intro given isNamed
        exact noObject members given (named?_eq_some_iff.mp isNamed) rfl
      rw [ofJson?, noneKeyed]
      rfl
  | array elements => exact absurd rfl (noArray elements)
  | null | bool | number | string => rfl

/-! ## What texts say -/

theorem read_eq_ok_iff
    {text : String}
    {config : BusConfig} :
    read text = .ok config ↔ ∃ value : Value, value.IsText text ∧ ofJson? value = some config := by
  simp only [← parse?_eq_some_iff, ← Option.bind_eq_some_iff]
  rw [read]
  split
  case h_1 isFound => simp [isFound]
  case h_2 isFound => simp [isFound]

theorem read_eq_ok_iff_of_isText
    {text : String}
    {value : Value}
    (isText : value.IsText text)
    {config : BusConfig} :
    read text = .ok config ↔ ofJson? value = some config := by
  rw [read_eq_ok_iff]
  constructor
  · rintro ⟨other, isOther, isFound⟩
    rwa [isText.unique isOther]
  · intro isFound
    exact ⟨value, isText, isFound⟩

/-- A text that is no configuration fails in one way. -/
theorem read_eq_error_iff
    {text : String}
    {error : BusError} :
    read text = .error error ↔ error = unusable ∧ ∀ config, read text ≠ .ok config := by
  rw [read]
  split
  case h_1 => simp
  case h_2 => simp [eq_comm]

/-- Texts with the same configurations are read alike. -/
theorem read_eq_of_iff
    {text other : String}
    (alike : ∀ config, read text = .ok config ↔ read other = .ok config) :
    read text = read other := by
  cases isRead : read other with
  | ok config => exact (alike config).mpr isRead
  | error error =>
      obtain ⟨isUnusable, noConfig⟩ := read_eq_error_iff.mp isRead
      refine read_eq_error_iff.mpr ⟨isUnusable, fun config isOk => ?_⟩
      exact noConfig config ((alike config).mp isOk)

theorem read_object_iff
    {text : String}
    {members : List (List Piece × Value)}
    {given : List (String × Value)}
    (keyed : Keyed members given)
    (isText : (Value.object members).IsText text) :
    (∃ config, read text = .ok config) ↔
      (∀ name ∈ switches, (given.map Prod.fst).count name ≤ 1) ∧
        ∀ member ∈ given, member.1 ∈ switches → ∃ value, member.2 = .bool value := by
  simp only [read_eq_ok_iff_of_isText isText, ofJson?_object_iff keyed]
  rw [exists_values_iff]
  simp only [exists_switch?_iff]
  constructor
  · intro usable
    exact ⟨fun name isSwitch => (usable name isSwitch).1,
      fun member isMember isSwitch => (usable member.1 isSwitch).2 member isMember rfl⟩
  · rintro ⟨few, areFlags⟩ name isSwitch
    exact ⟨few name isSwitch,
      fun member isMember isName => areFlags member isMember (isName ▸ isSwitch)⟩

theorem gives_of_read_object
    {text : String}
    {members : List (List Piece × Value)}
    {given : List (String × Value)}
    (keyed : Keyed members given)
    (isText : (Value.object members).IsText text)
    {config : BusConfig}
    (isRead : read text = .ok config) :
    ∀ setting ∈ switches.zip config.values, Gives given setting.1 setting.2 := by
  rw [read_eq_ok_iff_of_isText isText, ofJson?_object_iff keyed] at isRead
  intro setting isSetting
  exact gives_of_switch? ((List.forall₂_iff_zip.mp isRead).2 isSetting)

theorem read_eq_of_known
    {text other : String}
    {members others : List (List Piece × Value)}
    {given rearranged : List (String × Value)}
    (keyed : Keyed members given)
    (isText : (Value.object members).IsText text)
    (otherKeyed : Keyed others rearranged)
    (isOther : (Value.object others).IsText other)
    (alike : (known given).Perm (known rearranged)) :
    read text = read other := by
  refine read_eq_of_iff fun config => ?_
  rw [read_eq_ok_iff_of_isText isText, ofJson?_object_iff keyed,
    read_eq_ok_iff_of_isText isOther, ofJson?_object_iff otherKeyed,
    List.forall₂_iff_zip, List.forall₂_iff_zip]
  refine and_congr_right fun _ => forall_congr' fun name => forall_congr' fun value =>
    imp_congr_right fun isSetting => ?_
  rw [switch?_eq_of_perm alike (List.of_mem_zip isSetting).1]

theorem exists_map_bool_iff
    {elements : List Value} :
    (∃ given : List Bool, elements = given.map .bool) ↔
      ∀ element ∈ elements, ∃ value, element = .bool value := by
  have isRange := Set.ext_iff.mp (Set.range_list_map Value.bool) elements
  simpa only [Set.mem_range, Set.mem_ofPred_eq, eq_comm] using isRange

theorem exists_values_of_length
    {given : List Bool}
    (short : given.length ≤ 3) :
    ∃ config : BusConfig, config.values = given ++ List.replicate (3 - given.length) false := by
  match given, short with
  | [], _ => exact ⟨⟨false, false, false⟩, rfl⟩
  | [first], _ => exact ⟨⟨first, false, false⟩, rfl⟩
  | [first, second], _ => exact ⟨⟨first, second, false⟩, rfl⟩
  | [first, second, third], _ => exact ⟨⟨first, second, third⟩, rfl⟩

theorem read_array_iff
    {text : String}
    {elements : List Value}
    (isText : (Value.array elements).IsText text) :
    (∃ config, read text = .ok config) ↔
      elements.length ≤ 3 ∧ ∀ element ∈ elements, ∃ value, element = .bool value := by
  simp only [read_eq_ok_iff_of_isText isText, ofJson?_array_iff]
  rw [← exists_map_bool_iff]
  constructor
  · rintro ⟨_, given, rfl, short, -⟩
    exact ⟨by rwa [List.length_map], given, rfl⟩
  · rintro ⟨short, given, rfl⟩
    rw [List.length_map] at short
    obtain ⟨config, areValues⟩ := exists_values_of_length short
    exact ⟨config, given, rfl, short, areValues⟩

theorem values_of_read_array
    {text : String}
    {elements : List Value}
    (isText : (Value.array elements).IsText text)
    {config : BusConfig}
    (isRead : read text = .ok config) :
    config.values.map .bool = elements ++ List.replicate (3 - elements.length) (.bool false) := by
  rw [read_eq_ok_iff_of_isText isText, ofJson?_array_iff] at isRead
  obtain ⟨given, rfl, -, areValues⟩ := isRead
  rw [areValues, List.map_append, List.map_replicate, List.length_map]

theorem read_other
    {text : String}
    {value : Value}
    (isText : value.IsText text)
    (noObject : ∀ members given, Keyed members given → value ≠ .object members)
    (noArray : ∀ elements, value ≠ .array elements) :
    read text = .error unusable := by
  refine read_eq_error_iff.mpr ⟨rfl, fun config isRead => ?_⟩
  rw [read_eq_ok_iff_of_isText isText, ofJson?_other noObject noArray] at isRead
  cases isRead

theorem read_trailing
    {text : String}
    {value : Value}
    {before own rest : List Char}
    (isBefore : Gap before)
    (written : ValueWritten value own)
    (notBlank : ¬ Gap rest)
    (isText : text.toList = before ++ (own ++ rest)) :
    read text = .error unusable := by
  refine read_eq_error_iff.mpr ⟨rfl, fun config isRead => ?_⟩
  obtain ⟨found, isFound, isConfig⟩ := read_eq_ok_iff.mp isRead
  obtain ⟨literal, rfl⟩ :=
    number_of_trailing isBefore written notBlank isText (parse?_eq_some_iff.mpr isFound)
  cases isConfig

/-- What reading a configuration pays attention to. An object is read if no switch is named twice
and each one that is named gets a truth value; the others stay off, and nothing else in the object
makes a difference. An array is read if it consists of truth values for the first switches. Every
other text is refused, also one that goes on behind its value. -/
theorem read_settings (text : String) :
    (∀ members given, Keyed members given → (Value.object members).IsText text →
      ((∃ config, read text = .ok config) ↔
        (∀ name ∈ switches, (given.map Prod.fst).count name ≤ 1) ∧
          ∀ member ∈ given, member.1 ∈ switches → ∃ value, member.2 = .bool value) ∧
      (∀ config, read text = .ok config →
        ∀ setting ∈ switches.zip config.values, Gives given setting.1 setting.2) ∧
      ∀ others rearranged other, Keyed others rearranged → (Value.object others).IsText other →
        (known given).Perm (known rearranged) → read other = read text) ∧
    (∀ elements, (Value.array elements).IsText text →
      ((∃ config, read text = .ok config) ↔
        elements.length ≤ 3 ∧ ∀ element ∈ elements, ∃ value, element = .bool value) ∧
      ∀ config, read text = .ok config →
        config.values.map .bool =
          elements ++ List.replicate (3 - elements.length) (.bool false)) ∧
    (∀ value : Value, value.IsText text →
      (∀ members given, Keyed members given → value ≠ .object members) →
      (∀ elements, value ≠ .array elements) → read text = .error unusable) ∧
    (∀ value before own rest, Gap before → ValueWritten value own → ¬ Gap rest →
      text.toList = before ++ (own ++ rest) → read text = .error unusable) ∧
    ((∀ value : Value, ¬ value.IsText text) → read text = .error unusable) ∧
    ∀ error, read text = .error error → ∃ message, error = .configuration message := by
  refine ⟨fun members given keyed isText => ⟨read_object_iff keyed isText, ?_, ?_⟩,
    fun elements isText => ⟨read_array_iff isText, ?_⟩, ?_, ?_, ?_, ?_⟩
  · intro config isRead
    exact gives_of_read_object keyed isText isRead
  · intro others rearranged other otherKeyed isOther alike
    exact (read_eq_of_known keyed isText otherKeyed isOther alike).symm
  · intro config isRead
    exact values_of_read_array isText isRead
  · intro value isText noObject noArray
    exact read_other isText noObject noArray
  · intro value before own rest isBefore written notBlank isText
    exact read_trailing isBefore written notBlank isText
  · intro noValue
    refine read_eq_error_iff.mpr ⟨rfl, fun config isRead => ?_⟩
    obtain ⟨value, isText, -⟩ := read_eq_ok_iff.mp isRead
    exact noValue value isText
  · intro error isRead
    exact ⟨_, (read_eq_error_iff.mp isRead).1⟩

/-! ### An object with a note in it -/

theorem keyed_piecesOf (given : List (String × Value)) :
    Keyed (given.map fun member => (piecesOf member.1, member.2)) given := by
  rw [Keyed, List.forall₂_map_left_iff, List.forall₂_same]
  exact fun member _ => ⟨text?_piecesOf member.1, rfl⟩

/-- An object of these members. -/
def objectOf (given : List (String × Value)) : Value :=
  .object (given.map fun member => (piecesOf member.1, member.2))

/-- A note names a switch and holds a brace and a quote, all of it inside other values. -/
def note : Value :=
  .array [.object [(piecesOf "start_shutdown", .string (piecesOf "\x7d\""))], .null]

/-- The same switches as in `plain`, and a note. -/
def noted : List (String × Value) :=
  [("note", note), ("start_shutdown", .bool true), ("allow_per_phase_post", .bool false)]

/-- Two switches and nothing else. -/
def plain : List (String × Value) :=
  [("allow_per_phase_post", .bool false), ("start_shutdown", .bool true)]

def notedText : String :=
  "\x7b \"note\" : [ \x7b\"start_shutdown\":\"\\u007D\\\"\"\x7d, null ],\n\t" ++
    "\"start\\u005fshutdown\" :true , \"allow_per_phase_post\":false\x7d "

def plainText : String :=
  "\x7b\"allow_per_phase_post\":false,\"start_shutdown\":true\x7d"

/-- Between the members of the object stand blanks and line breaks, and two characters are written
by their code units. -/
theorem isText_noted : (objectOf noted).IsText notedText := by
  have nothing : Gap [] := List.forall_mem_nil _
  have blank : Gap [' '] := by simp [Gap, isGap]
  have indent : Gap ['\n', '\t'] := by simp [Gap, isGap]
  have brace : PieceWritten (.char '\x7d') "\\u007D".toList :=
    @PieceWritten.unit 0 0 7 13 _ _ _ _ (.inl (by decide)) (.inl (by decide)) (.inl (by decide))
      (.inr (by decide))
  have underscore : PieceWritten (.char '_') "\\u005f".toList :=
    @PieceWritten.unit 0 0 5 15 _ _ _ _ (.inl (by decide)) (.inl (by decide)) (.inl (by decide))
      (.inl (by decide))
  have quote : PieceWritten (.char '"') "\\\"".toList := .escape (by decide)
  have key := stringWritten_piecesOf
  have isNote : ValueWritten note _ :=
    .array (.more blank
      (.object (.last nothing (key "start_shutdown" (by simp)) nothing nothing
        (.string (.cons brace (.cons quote .nil))) nothing)) nothing
      (.last blank .null blank))
  have startShutdown : StringWritten (piecesOf "start_shutdown") _ :=
    (key "start" (by simp)).append (.cons underscore (key "shutdown" (by simp)))
  have members : MembersWritten _ _ :=
    .more blank (key "note" (by simp)) blank blank isNote nothing
      (.more indent startShutdown blank nothing .on blank
        (.last blank (key "allow_per_phase_post" (by simp)) nothing nothing .off nothing))
  exact ⟨[], _, [' '], nothing, .object members, blank, by decide +kernel⟩

theorem read_settings_noted :
    ((objectOf noted).IsText notedText ∧ (objectOf plain).IsText plainText ∧
      (known noted).Perm (known plain) ∧ (∃ config, read notedText = .ok config) ∧
      read plainText = read notedText) ∧
    ((Value.array [.bool true]).IsText "[true]\n" ∧ ∃ config, read "[true]\n" = .ok config) ∧
    (Value.null.IsText "null" ∧ read "null" = .error unusable) ∧
    (¬ Gap ['\x7d'] ∧ read "\x7b\x7d\x7d" = .error unusable) := by
  have nothing : Gap [] := List.forall_mem_nil _
  have newline : Gap ['\n'] := by simp [Gap, isGap]
  have members : MembersWritten _ _ :=
    .more nothing (stringWritten_piecesOf "allow_per_phase_post" (by simp)) nothing nothing .off
      nothing (.last nothing (stringWritten_piecesOf "start_shutdown" (by simp)) nothing nothing
        .on nothing)
  have isPlain : (objectOf plain).IsText plainText :=
    ⟨[], _, [], nothing, .object members, nothing, by decide +kernel⟩
  have isArray : (Value.array [.bool true]).IsText "[true]\n" :=
    ⟨[], _, ['\n'], nothing, .array (.last nothing .on nothing), newline, by decide +kernel⟩
  have isNull : Value.null.IsText "null" :=
    ⟨[], _, [], nothing, .null, nothing, by decide +kernel⟩
  have alike : (known noted).Perm (known plain) := by
    simpa [known, noted, plain, switches] using List.Perm.swap _ _ _
  have notBlank : ¬ Gap ['\x7d'] := fun isBlank => absurd (isBlank '\x7d' (by simp)) (by decide)
  obtain ⟨usable, -, rearranged⟩ :=
    (read_settings notedText).1 _ _ (keyed_piecesOf noted) isText_noted
  refine ⟨⟨isText_noted, isPlain, alike, ?_, ?_⟩, ⟨isArray, ?_⟩, ⟨isNull, ?_⟩, ⟨notBlank, ?_⟩⟩
  · refine usable.mpr ⟨by decide, ?_⟩
    simp [noted, note, switches]
  · exact rearranged _ plain plainText (keyed_piecesOf plain) isPlain alike
  · exact ((read_settings _).2.1 _ isArray).1.mpr ⟨by decide, by simp⟩
  · exact (read_settings _).2.2.1 _ isNull (fun _ _ _ => by simp) (fun _ => by simp)
  · exact (read_settings _).2.2.2.1 (.object []) [] ['\x7b', '\x7d'] ['\x7d'] nothing
      (.emptyObject nothing) notBlank rfl

end BusConfig
end EventRelay
