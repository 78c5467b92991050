import EventRelay.Proofs.Json.Tokens

/-!
# Reading values

A reading with enough fuel finds the value that is written in front of a text and leaves what
follows it. Fuel is enough if there is more of it than the value has characters: an array or an
object spends one character on each level, and one on each comma.

What is read is written there. So the reader of whole texts accepts exactly the texts of values,
and each text has at most one value.
-/

namespace EventRelay
namespace Json

/-! ## What a value starts with and what may follow it -/

/-- What may follow the text of a value at once. Only a number could go on. -/
def Value.Ends : Value → List Char → Prop
  | .number _, rest => EndsNumber rest
  | _, _ => True

theorem Value.ends_of_endsNumber
    {rest : List Char}
    (ends : EndsNumber rest)
    (value : Value) :
    value.Ends rest := by
  cases value with
  | number => exact ends
  | null | bool | string | array | object => trivial

theorem isGap_eq_true_iff
    {character : Char} :
    isGap character = true ↔
      character = ' ' ∨ character = '\n' ∨ character = '\t' ∨ character = '\r' := by
  simp [isGap, or_assoc]

theorem endsNumber_cons
    {next : Char}
    (goesNoFurther : next.isDigit = false ∧ next ≠ '.' ∧ next ≠ 'e' ∧ next ≠ 'E')
    (rest : List Char) :
    EndsNumber (next :: rest) := by
  intro other isNext
  cases isNext
  exact goesNoFurther

/-- No number goes on with a blank. -/
theorem endsNumber_append
    {gap rest : List Char}
    (isBlank : Gap gap)
    (ends : EndsNumber rest) :
    EndsNumber (gap ++ rest) := by
  cases gap with
  | nil => exact ends
  | cons first others =>
      have isGap : isGap first = true := isBlank first List.mem_cons_self
      refine endsNumber_cons ?_ _
      rcases isGap_eq_true_iff.mp isGap with rfl | rfl | rfl | rfl <;> decide

theorem endsNumber_of_gap
    {gap : List Char}
    (isBlank : Gap gap) :
    EndsNumber gap := by
  rw [← List.append_nil gap]
  exact endsNumber_append isBlank (fun _ isNext => nomatch isNext)

theorem ne_of_isDigit
    {digit other : Char}
    (isDigit : digit.isDigit = true)
    (isOther : other.isDigit = false) :
    digit ≠ other := by
  rintro rfl
  rw [isDigit] at isOther
  cases isOther

theorem isGap_eq_false_of_isDigit
    {digit : Char}
    (isDigit : digit.isDigit = true) :
    isGap digit = false := by
  rw [← Bool.not_eq_true, isGap_eq_true_iff]
  rintro (rfl | rfl | rfl | rfl) <;> cases isDigit

theorem NumberWritten.exists_cons
    {literal : List Char}
    (written : NumberWritten literal) :
    ∃ first others, literal = first :: others ∧ (first.isDigit = true ∨ first = '-') := by
  obtain ⟨isSign, whole, -, -⟩ := written
  rcases isSign with rfl | rfl
  · obtain ⟨first, others, rfl, isDigit⟩ := whole.areDigits.exists_cons
    exact ⟨first, _, rfl, .inl isDigit⟩
  · exact ⟨'-', _, rfl, .inr rfl⟩

/-- A value starts neither with a blank nor with a closing bracket. -/
theorem ValueWritten.exists_cons
    {value : Value}
    {own : List Char}
    (written : ValueWritten value own) :
    ∃ first others, own = first :: others ∧ isGap first = false ∧ first ≠ ']' := by
  cases written with
  | number isNumber =>
      obtain ⟨first, others, rfl, isDigit | rfl⟩ := isNumber.exists_cons
      · exact ⟨first, others, rfl, isGap_eq_false_of_isDigit isDigit, ne_of_isDigit isDigit rfl⟩
      · exact ⟨'-', others, rfl, rfl, by decide⟩
  | null | on | off | string | emptyArray | array | emptyObject | object =>
      exact ⟨_, _, rfl, rfl, by decide⟩

theorem ElementsWritten.skipGap_head
    {elements : List Value}
    {text : List Char}
    (written : ElementsWritten elements text)
    (rest : List Char) :
    (skipGap (text ++ rest)).head? ≠ some ']' := by
  cases written with
  | last isBefore value _ | more isBefore value _ _ =>
      obtain ⟨first, others, rfl, notBlank, notBracket⟩ := value.exists_cons
      rw [List.append_assoc, skipGap_append isBefore, List.append_assoc, List.cons_append,
        skipGap_cons notBlank]
      simpa using notBracket

theorem MembersWritten.skipGap_head
    {members : List (List Piece × Value)}
    {text : List Char}
    (written : MembersWritten members text)
    (rest : List Char) :
    (skipGap (text ++ rest)).head? ≠ some '\x7d' := by
  cases written with
  | last isBefore | more isBefore =>
      rw [List.append_assoc, skipGap_append isBefore, List.cons_append, skipGap_cons rfl]
      simp

/-! ## Readings by what comes first -/

section First

variable (fuel : Nat) (text : List Char)

theorem readValue_skipGap : readValue fuel (skipGap text) = readValue fuel text := by
  cases fuel with
  | zero => rw [readValue, readValue]
  | succ fuel => rw [readValue, readValue, skipGap_skipGap]

theorem readElements_skipGap : readElements fuel (skipGap text) = readElements fuel text := by
  cases fuel with
  | zero => rw [readElements, readElements]
  | succ fuel => rw [readElements, readElements, readValue_skipGap]

theorem readMembers_skipGap : readMembers fuel (skipGap text) = readMembers fuel text := by
  cases fuel with
  | zero => rw [readMembers, readMembers]
  | succ fuel => rw [readMembers, readMembers, skipGap_skipGap]

theorem readValue_append
    {gap : List Char}
    (isBlank : Gap gap) :
    readValue fuel (gap ++ text) = readValue fuel text := by
  rw [← readValue_skipGap, skipGap_append isBlank, readValue_skipGap]

theorem readValue_string :
    readValue (fuel + 1) ('"' :: text) =
      (readString text).map fun read => (.string read.1, read.2) := by
  rw [readValue, skipGap_cons rfl]
  rfl

theorem readValue_emptyArray
    {gap : List Char}
    (isBlank : Gap gap) :
    readValue (fuel + 1) ('[' :: (gap ++ ']' :: text)) = some (.array [], text) := by
  have atEnd : skipGap (gap ++ ']' :: text) = ']' :: text := skipGap_append_cons isBlank rfl text
  rw [readValue, skipGap_cons rfl]
  simp only [atEnd]

theorem readValue_array
    (notEmpty : (skipGap text).head? ≠ some ']') :
    readValue (fuel + 1) ('[' :: text) =
      (readElements fuel text).map fun read => (.array read.1, read.2) := by
  rw [readValue, skipGap_cons rfl, ← readElements_skipGap]
  simp only
  split
  case h_1 starts => exact absurd (congrArg List.head? starts) notEmpty
  case h_2 => rfl

theorem readValue_emptyObject
    {gap : List Char}
    (isBlank : Gap gap) :
    readValue (fuel + 1) ('\x7b' :: (gap ++ '\x7d' :: text)) = some (.object [], text) := by
  have atEnd : skipGap (gap ++ '\x7d' :: text) = '\x7d' :: text :=
    skipGap_append_cons isBlank rfl text
  rw [readValue, skipGap_cons rfl]
  simp only [atEnd]

theorem readValue_object
    (notEmpty : (skipGap text).head? ≠ some '\x7d') :
    readValue (fuel + 1) ('\x7b' :: text) =
      (readMembers fuel text).map fun read => (.object read.1, read.2) := by
  rw [readValue, skipGap_cons rfl, ← readMembers_skipGap]
  simp only
  split
  case h_1 starts => exact absurd (congrArg List.head? starts) notEmpty
  case h_2 => rfl

theorem readValue_number
    {first : Char}
    (startsNumber : first.isDigit = true ∨ first = '-') :
    readValue (fuel + 1) (first :: text) =
      (readNumber (first :: text)).map fun read => (.number read.1, read.2) := by
  have notBlank : isGap first = false := by
    rcases startsNumber with isDigit | rfl
    · exact isGap_eq_false_of_isDigit isDigit
    · rfl
  rw [readValue, skipGap_cons notBlank]
  split
  case h_7 => rfl
  all_goals
    rename_i starts
    cases starts
    rcases startsNumber with isDigit | isMinus
    · cases isDigit
    · cases isMinus

end First

/-- Elements are read one by one: a comma calls for more of them, and a bracket ends them. -/
theorem readElements_eq_some_iff
    {fuel : Nat}
    {text rest : List Char}
    {values : List Value} :
    readElements (fuel + 1) text = some (values, rest) ↔
      ∃ value afterValue, readValue fuel text = some (value, afterValue) ∧
        ((∃ others found, skipGap afterValue = ',' :: others ∧
            readElements fuel others = some (found, rest) ∧ values = value :: found) ∨
          (skipGap afterValue = ']' :: rest ∧ values = [value])) := by
  rw [readElements]
  constructor
  · intro found
    obtain ⟨⟨value, afterValue⟩, isValue, goesOn⟩ := Option.bind_eq_some_iff.mp found
    refine ⟨value, afterValue, isValue, ?_⟩
    simp only at goesOn
    split at goesOn
    case h_1 others isComma =>
      obtain ⟨⟨more, _⟩, areMore, same⟩ := Option.bind_eq_some_iff.mp goesOn
      cases same
      exact .inl ⟨others, more, isComma, areMore, rfl⟩
    case h_2 isBracket =>
      cases goesOn
      exact .inr ⟨isBracket, rfl⟩
    case h_3 => cases goesOn
  · rintro ⟨value, afterValue, isValue, ⟨others, more, isComma, areMore, rfl⟩ | ⟨isBracket, rfl⟩⟩
    · simp [isValue, isComma, areMore]
    · simp [isValue, isBracket]

/-- Members are read one by one, each with its key first. -/
theorem readMembers_eq_some_iff
    {fuel : Nat}
    {text rest : List Char}
    {members : List (List Piece × Value)} :
    readMembers (fuel + 1) text = some (members, rest) ↔
      ∃ name key afterKey content value afterValue, skipGap text = '"' :: name ∧
        readString name = some (key, afterKey) ∧ skipGap afterKey = ':' :: content ∧
        readValue fuel content = some (value, afterValue) ∧
        ((∃ others found, skipGap afterValue = ',' :: others ∧
            readMembers fuel others = some (found, rest) ∧ members = (key, value) :: found) ∨
          (skipGap afterValue = '\x7d' :: rest ∧ members = [(key, value)])) := by
  rw [readMembers]
  constructor
  · intro found
    split at found
    case h_2 => cases found
    case h_1 name isQuote =>
      obtain ⟨⟨key, afterKey⟩, isKey, goesOn⟩ := Option.bind_eq_some_iff.mp found
      simp only at goesOn
      split at goesOn
      case h_2 => cases goesOn
      case h_1 content isColon =>
        obtain ⟨⟨value, afterValue⟩, isValue, goesOn⟩ := Option.bind_eq_some_iff.mp goesOn
        refine ⟨name, key, afterKey, content, value, afterValue, isQuote, isKey, isColon, isValue,
          ?_⟩
        simp only at goesOn
        split at goesOn
        case h_1 others isComma =>
          obtain ⟨⟨more, _⟩, areMore, same⟩ := Option.bind_eq_some_iff.mp goesOn
          cases same
          exact .inl ⟨others, more, isComma, areMore, rfl⟩
        case h_2 isBrace =>
          cases goesOn
          exact .inr ⟨isBrace, rfl⟩
        case h_3 => cases goesOn
  · rintro ⟨name, key, afterKey, content, value, afterValue, isQuote, isKey, isColon, isValue,
      after⟩
    rcases after with ⟨others, more, isComma, areMore, rfl⟩ | ⟨isBrace, rfl⟩
    · simp [isQuote, isKey, isColon, isValue, isComma, areMore]
    · simp [isQuote, isKey, isColon, isValue, isBrace]

/-! ## Whatever is written is read -/

/-- With this much fuel, whatever is written is read if it is shorter than the fuel, and what
follows it is left. -/
structure ReadsWritten (fuel : Nat) : Prop where
  value : ∀ {value : Value} {own rest : List Char}, ValueWritten value own →
    own.length < fuel → value.Ends rest → readValue fuel (own ++ rest) = some (value, rest)
  elements : ∀ {elements : List Value} {text rest : List Char}, ElementsWritten elements text →
    text.length + 1 < fuel → readElements fuel (text ++ ']' :: rest) = some (elements, rest)
  members : ∀ {members : List (List Piece × Value)} {text rest : List Char},
    MembersWritten members text → text.length + 1 < fuel →
    readMembers fuel (text ++ '\x7d' :: rest) = some (members, rest)

/-- A value inside another one is read up to the blanks and the separator behind it. -/
theorem ReadsWritten.inner
    {fuel : Nat}
    (reads : ReadsWritten fuel)
    {value : Value}
    {before own after : List Char}
    (isBefore : Gap before)
    (written : ValueWritten value own)
    (isAfter : Gap after)
    (short : own.length < fuel)
    {separator : Char}
    (goesNoFurther : separator.isDigit = false ∧ separator ≠ '.' ∧ separator ≠ 'e' ∧
      separator ≠ 'E')
    (rest : List Char) :
    readValue fuel (before ++ (own ++ (after ++ separator :: rest))) =
      some (value, after ++ separator :: rest) := by
  rw [readValue_append fuel _ isBefore]
  have ends : EndsNumber (after ++ separator :: rest) :=
    endsNumber_append isAfter (endsNumber_cons goesNoFurther rest)
  exact reads.value written short (value.ends_of_endsNumber ends)

theorem ReadsWritten.value_succ
    {fuel : Nat}
    (reads : ReadsWritten fuel)
    {value : Value}
    {own rest : List Char}
    (written : ValueWritten value own)
    (short : own.length < fuel + 1)
    (ends : value.Ends rest) :
    readValue (fuel + 1) (own ++ rest) = some (value, rest) := by
  cases written with
  | null | on | off => rw [readValue]; rfl
  | number isNumber =>
      obtain ⟨first, others, rfl, startsNumber⟩ := isNumber.exists_cons
      rw [List.cons_append, readValue_number fuel _ startsNumber, ← List.cons_append,
        readNumber_append isNumber ends]
      rfl
  | string isString =>
      rw [List.cons_append, List.append_assoc, List.singleton_append, readValue_string,
        readString_append isString]
      rfl
  | emptyArray isBlank =>
      rw [List.cons_append, List.append_assoc, List.singleton_append,
        readValue_emptyArray fuel rest isBlank]
  | emptyObject isBlank =>
      rw [List.cons_append, List.append_assoc, List.singleton_append,
        readValue_emptyObject fuel rest isBlank]
  | array areElements =>
      -- The two brackets pay for the level and for the first element on it.
      simp only [List.length_cons, List.length_append, List.length_nil] at short
      rw [List.cons_append, List.append_assoc, List.singleton_append,
        readValue_array fuel _ (areElements.skipGap_head _),
        reads.elements areElements (by omega)]
      rfl
  | object areMembers =>
      simp only [List.length_cons, List.length_append, List.length_nil] at short
      rw [List.cons_append, List.append_assoc, List.singleton_append,
        readValue_object fuel _ (areMembers.skipGap_head _),
        reads.members areMembers (by omega)]
      rfl

theorem ReadsWritten.elements_succ
    {fuel : Nat}
    (reads : ReadsWritten fuel)
    {elements : List Value}
    {text rest : List Char}
    (written : ElementsWritten elements text)
    (short : text.length + 1 < fuel + 1) :
    readElements (fuel + 1) (text ++ ']' :: rest) = some (elements, rest) := by
  rw [readElements_eq_some_iff]
  cases written with
  | @last value _ _ after isBefore isValue isAfter =>
      simp only [List.length_append] at short
      simp only [List.append_assoc]
      exact ⟨value, after ++ ']' :: rest,
        reads.inner isBefore isValue isAfter (by omega) (by decide) rest,
        .inr ⟨skipGap_append_cons isAfter rfl rest, rfl⟩⟩
  | @more value others _ _ after text isBefore isValue isAfter areMore =>
      simp only [List.length_append, List.length_cons] at short
      simp only [List.append_assoc, List.cons_append]
      exact ⟨value, after ++ ',' :: (text ++ ']' :: rest),
        reads.inner isBefore isValue isAfter (by omega) (by decide) _,
        .inl ⟨_, others, skipGap_append_cons isAfter rfl _, reads.elements areMore (by omega), rfl⟩⟩

/-- The key of a member is read up to its colon. -/
theorem readString_key
    {before name behind : List Char}
    {key : List Piece}
    (isBefore : Gap before)
    (isKey : StringWritten key name)
    (isBehind : Gap behind)
    (content : List Char) :
    ∃ opened afterKey,
      skipGap (before ++ '"' :: (name ++ '"' :: (behind ++ ':' :: content))) = '"' :: opened ∧
        readString opened = some (key, afterKey) ∧ skipGap afterKey = ':' :: content :=
  ⟨_, _, skipGap_append_cons isBefore rfl _, readString_append isKey _,
    skipGap_append_cons isBehind rfl content⟩

theorem ReadsWritten.members_succ
    {fuel : Nat}
    (reads : ReadsWritten fuel)
    {members : List (List Piece × Value)}
    {text rest : List Char}
    (written : MembersWritten members text)
    (short : text.length + 1 < fuel + 1) :
    readMembers (fuel + 1) (text ++ '\x7d' :: rest) = some (members, rest) := by
  rw [readMembers_eq_some_iff]
  cases written with
  | @last key value _ _ _ _ _ after isBefore isKey isBehind isBetween isValue isAfter =>
      simp only [List.length_append, List.length_cons] at short
      simp only [List.append_assoc, List.cons_append]
      obtain ⟨opened, afterKey, isQuote, keyRead, isColon⟩ :=
        readString_key isBefore isKey isBehind _
      exact ⟨opened, key, afterKey, _, value, after ++ '\x7d' :: rest, isQuote, keyRead, isColon,
        reads.inner isBetween isValue isAfter (by omega) (by decide) rest,
        .inr ⟨skipGap_append_cons isAfter rfl rest, rfl⟩⟩
  | @more key value others _ _ _ _ _ after text isBefore isKey isBehind isBetween isValue isAfter
      areMore =>
      simp only [List.length_append, List.length_cons] at short
      simp only [List.append_assoc, List.cons_append]
      obtain ⟨opened, afterKey, isQuote, keyRead, isColon⟩ :=
        readString_key isBefore isKey isBehind _
      exact ⟨opened, key, afterKey, _, value, after ++ ',' :: (text ++ '\x7d' :: rest), isQuote,
        keyRead, isColon, reads.inner isBetween isValue isAfter (by omega) (by decide) _,
        .inl ⟨_, others, skipGap_append_cons isAfter rfl _, reads.members areMore (by omega), rfl⟩⟩

theorem readsWritten (fuel : Nat) : ReadsWritten fuel := by
  induction fuel with
  | zero =>
      exact ⟨fun _ short _ => absurd short (Nat.not_lt_zero _),
        fun _ short => absurd short (Nat.not_lt_zero _),
        fun _ short => absurd short (Nat.not_lt_zero _)⟩
  | succ fuel reads => exact ⟨reads.value_succ, reads.elements_succ, reads.members_succ⟩

/-! ## Whatever is read is written -/

/-- With this much fuel, whatever is read is written in front of what is left. -/
structure ReadsOnlyWritten (fuel : Nat) : Prop where
  value : ∀ {value : Value} {text rest : List Char}, readValue fuel text = some (value, rest) →
    ∃ before own, Gap before ∧ ValueWritten value own ∧ text = before ++ (own ++ rest)
  elements : ∀ {elements : List Value} {text rest : List Char},
    readElements fuel text = some (elements, rest) →
    ∃ own, ElementsWritten elements own ∧ text = own ++ ']' :: rest
  members : ∀ {members : List (List Piece × Value)} {text rest : List Char},
    readMembers fuel text = some (members, rest) →
    ∃ own, MembersWritten members own ∧ text = own ++ '\x7d' :: rest

theorem ReadsOnlyWritten.value_succ
    {fuel : Nat}
    (reads : ReadsOnlyWritten fuel)
    {value : Value}
    {text rest : List Char}
    (found : readValue (fuel + 1) text = some (value, rest)) :
    ∃ before own, Gap before ∧ ValueWritten value own ∧ text = before ++ (own ++ rest) := by
  obtain ⟨before, isBefore, isText⟩ := exists_gap text
  rw [readValue] at found
  -- The cases are those of the reader, by what the text starts with behind its blanks.
  generalize skipGap text = stripped at found isText
  subst isText
  refine ⟨before, ?_⟩
  split at found
  case h_1 =>
    cases found
    exact ⟨_, isBefore, .null, rfl⟩
  case h_2 =>
    cases found
    exact ⟨_, isBefore, .on, rfl⟩
  case h_3 =>
    cases found
    exact ⟨_, isBefore, .off, rfl⟩
  case h_4 =>
    obtain ⟨⟨pieces, _⟩, isRead, same⟩ := Option.map_eq_some_iff.mp found
    cases same
    obtain ⟨own, isString, rfl⟩ := string_of_readString isRead
    exact ⟨_, isBefore, .string isString, by simp⟩
  case h_5 content =>
    obtain ⟨gap, isGap, isContent⟩ := exists_gap content
    split at found
    case h_1 isBracket =>
      cases found
      rw [isContent, isBracket]
      exact ⟨_, isBefore, .emptyArray isGap, by simp⟩
    case h_2 =>
      rw [readElements_skipGap] at found
      obtain ⟨⟨elements, _⟩, isRead, same⟩ := Option.map_eq_some_iff.mp found
      cases same
      obtain ⟨own, areElements, rfl⟩ := reads.elements isRead
      exact ⟨_, isBefore, .array areElements, by simp⟩
  case h_6 content =>
    obtain ⟨gap, isGap, isContent⟩ := exists_gap content
    split at found
    case h_1 isBrace =>
      cases found
      rw [isContent, isBrace]
      exact ⟨_, isBefore, .emptyObject isGap, by simp⟩
    case h_2 =>
      rw [readMembers_skipGap] at found
      obtain ⟨⟨members, _⟩, isRead, same⟩ := Option.map_eq_some_iff.mp found
      cases same
      obtain ⟨own, areMembers, rfl⟩ := reads.members isRead
      exact ⟨_, isBefore, .object areMembers, by simp⟩
  case h_7 =>
    obtain ⟨⟨literal, _⟩, isRead, same⟩ := Option.map_eq_some_iff.mp found
    cases same
    obtain ⟨isNumber, rfl⟩ := number_of_readNumber isRead
    exact ⟨_, isBefore, .number isNumber, rfl⟩

theorem ReadsOnlyWritten.elements_succ
    {fuel : Nat}
    (reads : ReadsOnlyWritten fuel)
    {elements : List Value}
    {text rest : List Char}
    (found : readElements (fuel + 1) text = some (elements, rest)) :
    ∃ own, ElementsWritten elements own ∧ text = own ++ ']' :: rest := by
  obtain ⟨value, afterValue, isRead, goesOn⟩ := readElements_eq_some_iff.mp found
  obtain ⟨before, own, isBefore, isValue, rfl⟩ := reads.value isRead
  obtain ⟨after, isAfter, isRest⟩ := exists_gap afterValue
  rcases goesOn with ⟨others, more, isComma, areMore, rfl⟩ | ⟨isBracket, rfl⟩
  · obtain ⟨text, moreWritten, rfl⟩ := reads.elements areMore
    rw [isRest, isComma]
    exact ⟨_, .more isBefore isValue isAfter moreWritten, by simp⟩
  · rw [isRest, isBracket]
    exact ⟨_, .last isBefore isValue isAfter, by simp⟩

theorem ReadsOnlyWritten.members_succ
    {fuel : Nat}
    (reads : ReadsOnlyWritten fuel)
    {members : List (List Piece × Value)}
    {text rest : List Char}
    (found : readMembers (fuel + 1) text = some (members, rest)) :
    ∃ own, MembersWritten members own ∧ text = own ++ '\x7d' :: rest := by
  obtain ⟨name, key, afterKey, content, value, afterValue, isQuote, keyRead, isColon, isRead,
    goesOn⟩ := readMembers_eq_some_iff.mp found
  obtain ⟨before, isBefore, isText⟩ := exists_gap text
  obtain ⟨keyText, isKey, rfl⟩ := string_of_readString keyRead
  obtain ⟨behind, isBehind, isAfterKey⟩ := exists_gap afterKey
  obtain ⟨between, own, isBetween, isValue, rfl⟩ := reads.value isRead
  obtain ⟨after, isAfter, isRest⟩ := exists_gap afterValue
  rw [isText, isQuote, isAfterKey, isColon, isRest]
  rcases goesOn with ⟨others, more, isComma, areMore, rfl⟩ | ⟨isBrace, rfl⟩
  · obtain ⟨text, moreWritten, rfl⟩ := reads.members areMore
    rw [isComma]
    exact ⟨_, .more isBefore isKey isBehind isBetween isValue isAfter moreWritten, by simp⟩
  · rw [isBrace]
    exact ⟨_, .last isBefore isKey isBehind isBetween isValue isAfter, by simp⟩

theorem readsOnlyWritten (fuel : Nat) : ReadsOnlyWritten fuel := by
  induction fuel with
  | zero =>
      refine ⟨fun found => ?_, fun found => ?_, fun found => ?_⟩
      · rw [readValue] at found
        cases found
      · rw [readElements] at found
        cases found
      · rw [readMembers] at found
        cases found
  | succ fuel reads => exact ⟨reads.value_succ, reads.elements_succ, reads.members_succ⟩

/-! ## Whole texts -/

theorem parse?_eq_some_iff_read
    {text : String}
    {value : Value} :
    parse? text = some value ↔
      ∃ rest, readValue (text.toList.length + 1) text.toList = some (value, rest) ∧ Gap rest := by
  simp only [parse?]
  constructor
  · intro found
    split at found
    case h_2 => cases found
    case h_1 other rest isRead =>
      split at found
      case isFalse => cases found
      case isTrue atEnd =>
        cases found
        exact ⟨rest, isRead, skipGap_eq_nil_iff.mp (List.isEmpty_iff.mp atEnd)⟩
  · rintro ⟨rest, isRead, isBlank⟩
    simp only [isRead, skipGap_eq_nil_iff.mpr isBlank, List.isEmpty_nil, if_true]

/-- With as much fuel as a text gets, a value in front of it is read up to what follows it. -/
theorem readValue_whole
    {value : Value}
    {before own rest : List Char}
    (isBefore : Gap before)
    (written : ValueWritten value own)
    (ends : value.Ends rest) :
    readValue ((before ++ (own ++ rest)).length + 1) (before ++ (own ++ rest)) =
      some (value, rest) := by
  have short : own.length < (before ++ (own ++ rest)).length + 1 := by
    simp only [List.length_append]
    omega
  rw [readValue_append _ _ isBefore, (readsWritten _).value written short ends]

/-- A text has a value exactly if it is written as that value. -/
theorem parse?_eq_some_iff
    {text : String}
    {value : Value} :
    parse? text = some value ↔ value.IsText text := by
  rw [parse?_eq_some_iff_read]
  constructor
  · rintro ⟨after, isRead, isAfter⟩
    obtain ⟨before, own, isBefore, isValue, isText⟩ := (readsOnlyWritten _).value isRead
    exact ⟨before, own, after, isBefore, isValue, isAfter, isText⟩
  · rintro ⟨before, own, after, isBefore, isValue, isAfter, isText⟩
    have ends : value.Ends after := value.ends_of_endsNumber (endsNumber_of_gap isAfter)
    exact ⟨after, isText ▸ readValue_whole isBefore isValue ends, isAfter⟩

/-- A text has one value at most. -/
theorem Value.IsText.unique
    {text : String}
    {first second : Value}
    (isFirst : first.IsText text)
    (isSecond : second.IsText text) :
    first = second :=
  Option.some.inj ((parse?_eq_some_iff.mpr isFirst).symm.trans (parse?_eq_some_iff.mpr isSecond))

/-- With anything but blanks behind a value, a text has no value, unless the value is a number and
what follows makes it another one. -/
theorem number_of_trailing
    {value found : Value}
    {before own rest : List Char}
    {text : String}
    (isBefore : Gap before)
    (written : ValueWritten value own)
    (notBlank : ¬ Gap rest)
    (isText : text.toList = before ++ (own ++ rest))
    (isFound : parse? text = some found) :
    ∃ literal, found = .number literal := by
  obtain ⟨left, isRead, isBlank⟩ := parse?_eq_some_iff_read.mp isFound
  rw [isText] at isRead
  by_cases ends : value.Ends rest
  case pos =>
    rw [readValue_whole isBefore written ends] at isRead
    cases isRead
    exact absurd isBlank notBlank
  case neg =>
    -- Only a number can go on, and whatever starts like a number is read as one.
    cases written with
    | number isNumber =>
        obtain ⟨first, others, rfl, startsNumber⟩ := isNumber.exists_cons
        rw [readValue_append _ _ isBefore, List.cons_append, readValue_number _ _ startsNumber]
          at isRead
        obtain ⟨⟨literal, _⟩, -, same⟩ := Option.map_eq_some_iff.mp isRead
        cases same
        exact ⟨literal, rfl⟩
    | null | on | off | string | emptyArray | array | emptyObject | object =>
        exact absurd trivial ends

end Json
end EventRelay
