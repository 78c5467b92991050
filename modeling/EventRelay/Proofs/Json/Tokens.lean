import EventRelay.Proofs.Json.Grammar
import Mathlib.Data.List.DropRight

/-!
# Reading blanks, numbers and strings

Each part of a text is read up to where it ends: blanks up to the first character that is none, a
string up to its closing quote, and a number up to a character that cannot go on with it. What is
read is what is written there, and whatever is written is read.
-/

namespace EventRelay
namespace Json

/-! ## Blanks -/

theorem skipGap_append
    {gap : List Char}
    (isBlank : Gap gap)
    (text : List Char) :
    skipGap (gap ++ text) = skipGap text :=
  List.dropWhile_append_of_pos isBlank

theorem skipGap_cons
    {first : Char}
    (notBlank : isGap first = false)
    (rest : List Char) :
    skipGap (first :: rest) = first :: rest := by
  rw [skipGap, List.dropWhile_cons, notBlank, if_neg Bool.false_ne_true]

theorem skipGap_append_cons
    {gap : List Char}
    (isBlank : Gap gap)
    {first : Char}
    (notBlank : isGap first = false)
    (rest : List Char) :
    skipGap (gap ++ first :: rest) = first :: rest := by
  rw [skipGap_append isBlank, skipGap_cons notBlank]

theorem skipGap_skipGap (text : List Char) : skipGap (skipGap text) = skipGap text :=
  List.dropWhile_idempotent isGap text

theorem exists_gap (text : List Char) :
    ∃ gap, Gap gap ∧ text = gap ++ skipGap text :=
  ⟨text.takeWhile isGap, fun _ => List.mem_takeWhile_imp, List.takeWhile_append_dropWhile.symm⟩

theorem skipGap_eq_nil_iff
    {text : List Char} :
    skipGap text = [] ↔ Gap text :=
  List.dropWhile_eq_nil_iff

/-! ## Numbers -/

/-- No digit comes next. -/
def NoDigit (rest : List Char) : Prop := ∀ next ∈ rest.head?, next.isDigit = false

/-- Nothing comes next that a number could go on with. -/
def EndsNumber (rest : List Char) : Prop :=
  ∀ next ∈ rest.head?, next.isDigit = false ∧ next ≠ '.' ∧ next ≠ 'e' ∧ next ≠ 'E'

theorem spanDigits_append
    {digits rest : List Char}
    (areDigits : ∀ character ∈ digits, character.isDigit = true)
    (noDigit : NoDigit rest) :
    spanDigits (digits ++ rest) = (digits, rest) := by
  rw [spanDigits, List.takeWhile_append_of_pos areDigits, List.dropWhile_append_of_pos areDigits]
  cases rest with
  | nil => simp
  | cons next others => simp [noDigit next rfl]

theorem readDigits_append
    {digits rest : List Char}
    (areDigits : Digits digits)
    (noDigit : NoDigit rest) :
    readDigits (digits ++ rest) = some (digits, rest) := by
  obtain ⟨someDigits, allDigits⟩ := areDigits
  rw [readDigits, spanDigits_append allDigits noDigit]
  cases digits with
  | nil => exact absurd rfl someDigits
  | cons first others => rfl

theorem digits_of_readDigits
    {text digits rest : List Char}
    (found : readDigits text = some (digits, rest)) :
    Digits digits ∧ text = digits ++ rest := by
  unfold readDigits at found
  split at found
  case h_1 => cases found
  case h_2 someDigits spanned =>
    cases found
    obtain ⟨rfl, rfl⟩ := Prod.mk.inj spanned
    exact ⟨⟨someDigits, fun _ => List.mem_takeWhile_imp⟩, List.takeWhile_append_dropWhile.symm⟩

theorem readWhole_of_ne
    {text : List Char}
    (noZero : text.head? ≠ some '0') :
    readWhole text = readDigits text := by
  unfold readWhole
  split
  case h_1 => exact absurd rfl noZero
  case h_2 => rfl

theorem readWhole_append
    {whole rest : List Char}
    (written : WholeWritten whole)
    (noDigit : NoDigit rest) :
    readWhole (whole ++ rest) = some (whole, rest) := by
  cases written with
  | zero =>
      have noneSpanned : spanDigits ([] ++ rest) = ([], rest) :=
        spanDigits_append (List.forall_mem_nil _) noDigit
      rw [List.nil_append] at noneSpanned
      rw [List.singleton_append, readWhole, noneSpanned]
  | digits areDigits noZero =>
      have stillNoZero : (whole ++ rest).head? ≠ some '0' := by
        rwa [List.head?_append_of_ne_nil _ areDigits.1]
      rw [readWhole_of_ne stillNoZero]
      exact readDigits_append areDigits noDigit

theorem whole_of_readWhole
    {text whole rest : List Char}
    (found : readWhole text = some (whole, rest)) :
    WholeWritten whole ∧ text = whole ++ rest := by
  by_cases startsZero : text.head? = some '0'
  case pos =>
    obtain ⟨others, rfl⟩ := List.head?_eq_some_iff.mp startsZero
    rw [readWhole] at found
    split at found
    case h_1 =>
      cases found
      exact ⟨.zero, rfl⟩
    case h_2 => cases found
  case neg =>
    rw [readWhole_of_ne startsZero] at found
    obtain ⟨areDigits, rfl⟩ := digits_of_readDigits found
    rw [List.head?_append_of_ne_nil _ areDigits.1] at startsZero
    exact ⟨.digits areDigits startsZero, rfl⟩

theorem readFraction_append
    {fraction rest : List Char}
    (written : FractionWritten fraction)
    (noDigit : NoDigit rest)
    (noPoint : fraction = [] → ∀ next ∈ rest.head?, next ≠ '.') :
    readFraction (fraction ++ rest) = some (fraction, rest) := by
  cases written with
  | none =>
      rw [List.nil_append]
      unfold readFraction
      split
      case h_1 => exact absurd rfl (noPoint rfl _ rfl)
      case h_2 => rfl
  | some areDigits =>
      rw [List.cons_append, readFraction, readDigits_append areDigits noDigit]
      rfl

theorem fraction_of_readFraction
    {text fraction rest : List Char}
    (found : readFraction text = some (fraction, rest)) :
    FractionWritten fraction ∧ text = fraction ++ rest := by
  unfold readFraction at found
  split at found
  case h_1 =>
    obtain ⟨⟨digits, _⟩, isRead, same⟩ := Option.map_eq_some_iff.mp found
    cases same
    obtain ⟨areDigits, rfl⟩ := digits_of_readDigits isRead
    exact ⟨.some areDigits, rfl⟩
  case h_2 =>
    cases found
    exact ⟨.none, rfl⟩

/-- The sign of an exponent and what comes behind it. -/
def exponentSign (text : List Char) : List Char × List Char :=
  match text with
  | '+' :: rest => (['+'], rest)
  | '-' :: rest => (['-'], rest)
  | _ => ([], text)

theorem readExponent_cons
    (mark : Char)
    (text : List Char) :
    readExponent (mark :: text) =
      if mark = 'e' ∨ mark = 'E' then
        (readDigits (exponentSign text).2).map fun read =>
          (mark :: ((exponentSign text).1 ++ read.1), read.2)
      else some ([], mark :: text) := by
  unfold readExponent
  simp only [Bool.or_eq_true, decide_eq_true_eq]
  rfl

theorem Digits.exists_cons
    {text : List Char}
    (areDigits : Digits text) :
    ∃ first others, text = first :: others ∧ first.isDigit = true := by
  obtain ⟨someDigits, allDigits⟩ := areDigits
  obtain ⟨first, others, rfl⟩ := List.exists_cons_of_ne_nil someDigits
  exact ⟨first, others, rfl, allDigits first List.mem_cons_self⟩

theorem exponentSign_append
    {sign digits : List Char}
    (isSign : sign = [] ∨ sign = ['+'] ∨ sign = ['-'])
    (areDigits : Digits digits)
    (rest : List Char) :
    exponentSign (sign ++ (digits ++ rest)) = (sign, digits ++ rest) := by
  rcases isSign with rfl | rfl | rfl
  · obtain ⟨first, others, rfl, isDigit⟩ := areDigits.exists_cons
    have notPlus : first ≠ '+' := by
      rintro rfl
      cases isDigit
    have notMinus : first ≠ '-' := by
      rintro rfl
      cases isDigit
    simp [exponentSign, notPlus, notMinus]
  · rfl
  · rfl

theorem exponentSign_cases (text : List Char) :
    ∃ sign unsigned, exponentSign text = (sign, unsigned) ∧ text = sign ++ unsigned ∧
      (sign = [] ∨ sign = ['+'] ∨ sign = ['-']) := by
  unfold exponentSign
  split
  case h_1 rest => exact ⟨_, _, rfl, rfl, .inr (.inl rfl)⟩
  case h_2 rest => exact ⟨_, _, rfl, rfl, .inr (.inr rfl)⟩
  case h_3 => exact ⟨_, _, rfl, rfl, .inl rfl⟩

theorem readExponent_append
    {exponent rest : List Char}
    (written : ExponentWritten exponent)
    (ends : EndsNumber rest) :
    readExponent (exponent ++ rest) = some (exponent, rest) := by
  cases written with
  | none =>
      rw [List.nil_append]
      cases rest with
      | nil => rfl
      | cons next others =>
          obtain ⟨-, -, notSmall, notLarge⟩ := ends next rfl
          rw [readExponent_cons, if_neg (not_or_intro notSmall notLarge)]
  | some isMark isSign areDigits =>
      have noDigit : NoDigit rest := fun next isNext => (ends next isNext).1
      rw [List.cons_append, readExponent_cons, if_pos isMark, List.append_assoc,
        exponentSign_append isSign areDigits, readDigits_append areDigits noDigit]
      rfl

theorem exponent_of_readExponent
    {text exponent rest : List Char}
    (found : readExponent text = some (exponent, rest)) :
    ExponentWritten exponent ∧ text = exponent ++ rest := by
  cases text with
  | nil =>
      cases found
      exact ⟨.none, rfl⟩
  | cons mark text =>
      rw [readExponent_cons] at found
      split at found
      case isTrue isMark =>
        obtain ⟨⟨digits, _⟩, isRead, same⟩ := Option.map_eq_some_iff.mp found
        obtain ⟨sign, unsigned, isSplit, rfl, isSign⟩ := exponentSign_cases text
        rw [isSplit] at isRead same
        cases same
        obtain ⟨areDigits, rfl⟩ := digits_of_readDigits isRead
        exact ⟨.some isMark isSign areDigits, by rw [List.cons_append, List.append_assoc]⟩
      case isFalse =>
        cases found
        exact ⟨.none, rfl⟩

/-! ### Whole numbers with their parts -/

theorem WholeWritten.areDigits
    {whole : List Char}
    (written : WholeWritten whole) :
    Digits whole := by
  cases written with
  | zero => exact ⟨List.cons_ne_nil _ _, by simp⟩
  | digits areDigits _ => exact areDigits

/-- Behind the fraction there is neither a digit nor a point. -/
theorem ExponentWritten.next
    {exponent rest : List Char}
    (written : ExponentWritten exponent)
    (ends : EndsNumber rest) :
    ∀ next ∈ (exponent ++ rest).head?, next.isDigit = false ∧ next ≠ '.' := by
  intro next isNext
  cases written with
  | none => exact ⟨(ends next isNext).1, (ends next isNext).2.1⟩
  | some isMark _ _ =>
      cases isNext
      rcases isMark with rfl | rfl <;> decide

/-- Behind the whole part there is no digit. -/
theorem FractionWritten.noDigit
    {fraction exponent rest : List Char}
    (written : FractionWritten fraction)
    (exponentWritten : ExponentWritten exponent)
    (ends : EndsNumber rest) :
    NoDigit (fraction ++ (exponent ++ rest)) := by
  intro next isNext
  cases written with
  | none => exact (exponentWritten.next ends next isNext).1
  | some _ =>
      cases isNext
      rfl

/-- The sign of a number and what comes behind it. -/
def numberSign (text : List Char) : List Char × List Char :=
  match text with
  | '-' :: rest => (['-'], rest)
  | _ => ([], text)

theorem readNumber_eq (text : List Char) :
    readNumber text =
      (readWhole (numberSign text).2 >>= fun whole =>
        readFraction whole.2 >>= fun fraction =>
          readExponent fraction.2 >>= fun exponent =>
            some ((numberSign text).1 ++ whole.1 ++ fraction.1 ++ exponent.1, exponent.2)) :=
  rfl

theorem numberSign_append
    {sign whole : List Char}
    (isSign : sign = [] ∨ sign = ['-'])
    (written : WholeWritten whole)
    (rest : List Char) :
    numberSign (sign ++ (whole ++ rest)) = (sign, whole ++ rest) := by
  rcases isSign with rfl | rfl
  · obtain ⟨first, others, rfl, isDigit⟩ := written.areDigits.exists_cons
    have notMinus : first ≠ '-' := by
      rintro rfl
      cases isDigit
    simp [numberSign, notMinus]
  · rfl

theorem numberSign_cases (text : List Char) :
    ∃ sign unsigned, numberSign text = (sign, unsigned) ∧ text = sign ++ unsigned ∧
      (sign = [] ∨ sign = ['-']) := by
  unfold numberSign
  split
  case h_1 rest => exact ⟨_, _, rfl, rfl, .inr rfl⟩
  case h_2 => exact ⟨_, _, rfl, rfl, .inl rfl⟩

/-- A number is read up to a character that it cannot go on with. -/
theorem readNumber_append
    {literal rest : List Char}
    (written : NumberWritten literal)
    (ends : EndsNumber rest) :
    readNumber (literal ++ rest) = some (literal, rest) := by
  obtain ⟨isSign, whole, fraction, exponent⟩ := written
  have wholeRead := readWhole_append whole (fraction.noDigit exponent ends)
  have fractionRead := readFraction_append fraction
    (fun next isNext => (exponent.next ends next isNext).1)
    (fun _ next isNext => (exponent.next ends next isNext).2)
  have exponentRead := readExponent_append exponent ends
  simp only [List.append_assoc]
  rw [readNumber_eq, numberSign_append isSign whole]
  simp only [wholeRead, fractionRead, exponentRead, Option.bind_eq_bind, Option.bind_some,
    List.append_assoc]

/-- What is read as a number is written there. -/
theorem number_of_readNumber
    {text literal rest : List Char}
    (found : readNumber text = some (literal, rest)) :
    NumberWritten literal ∧ text = literal ++ rest := by
  obtain ⟨sign, unsigned, isSplit, rfl, isSign⟩ := numberSign_cases text
  rw [readNumber_eq, isSplit] at found
  obtain ⟨⟨whole, _⟩, wholeRead, found⟩ := Option.bind_eq_some_iff.mp found
  obtain ⟨⟨fraction, _⟩, fractionRead, found⟩ := Option.bind_eq_some_iff.mp found
  obtain ⟨⟨exponent, _⟩, exponentRead, found⟩ := Option.bind_eq_some_iff.mp found
  cases found
  obtain ⟨wholeWritten, rfl⟩ := whole_of_readWhole wholeRead
  obtain ⟨fractionWritten, rfl⟩ := fraction_of_readFraction fractionRead
  obtain ⟨exponentWritten, rfl⟩ := exponent_of_readExponent exponentRead
  simp only [List.append_assoc]
  exact ⟨.parts isSign wholeWritten fractionWritten exponentWritten, trivial⟩

/-! ## Strings -/

theorem hexDigit?_of_hexDigit
    {value : Nat}
    {digit : Char}
    (isDigit : HexDigit value digit) :
    hexDigit? digit = some value := by
  have small : ∀ pair ∈ "0123456789abcdef".toList.zipIdx, hexDigit? pair.1 = some pair.2 := by
    decide
  have large : ∀ pair ∈ "0123456789ABCDEF".toList.zipIdx, hexDigit? pair.1 = some pair.2 := by
    decide
  exact isDigit.elim (small (digit, value)) (large (digit, value))

theorem ofNat_add_sub
    {first digit : Char}
    (isLater : first ≤ digit) :
    Char.ofNat (first.toNat + (digit.toNat - first.toNat)) = digit := by
  have atLeast : first.toNat ≤ digit.toNat := isLater
  rw [Nat.add_sub_cancel' atLeast, Char.ofNat_toNat]

theorem hexDigit_of_hexDigit?
    {value : Nat}
    {digit : Char}
    (found : hexDigit? digit = some value) :
    HexDigit value digit := by
  have numbers : ∀ offset < 10,
      (Char.ofNat ('0'.toNat + offset), offset) ∈ "0123456789abcdef".toList.zipIdx := by decide
  have small : ∀ offset < 6,
      (Char.ofNat ('a'.toNat + offset), offset + 10) ∈ "0123456789abcdef".toList.zipIdx := by
    decide
  have large : ∀ offset < 6,
      (Char.ofNat ('A'.toNat + offset), offset + 10) ∈ "0123456789ABCDEF".toList.zipIdx := by
    decide
  have near {first last : Char} {count : Nat} (isEarlier : digit ≤ last)
      (few : last.toNat - first.toNat < count) : digit.toNat - first.toNat < count := by
    have atMost : digit.toNat ≤ last.toNat := isEarlier
    omega
  unfold hexDigit? at found
  simp only [Bool.and_eq_true, decide_eq_true_eq] at found
  split at found
  case isTrue range =>
    cases found
    have isNear : digit.toNat - '0'.toNat < 10 := near range.2 (by decide)
    have isMember := numbers _ isNear
    rw [ofNat_add_sub range.1] at isMember
    exact .inl isMember
  case isFalse =>
    split at found
    case isTrue range =>
      cases found
      have isNear : digit.toNat - 'a'.toNat < 6 := near range.2 (by decide)
      have isMember := small _ isNear
      rw [ofNat_add_sub range.1] at isMember
      exact .inl isMember
    case isFalse =>
      split at found
      case isTrue range =>
        cases found
        have isNear : digit.toNat - 'A'.toNat < 6 := near range.2 (by decide)
        have isMember := large _ isNear
        rw [ofNat_add_sub range.1] at isMember
        exact .inr isMember
      case isFalse => cases found

theorem codeUnit?_eq_some_iff
    {first second third fourth : Char}
    {unit : Nat} :
    codeUnit? first second third fourth = some unit ↔
      ∃ a b c d, HexDigit a first ∧ HexDigit b second ∧ HexDigit c third ∧ HexDigit d fourth ∧
        unit = ((a * 16 + b) * 16 + c) * 16 + d := by
  constructor
  · intro found
    obtain ⟨a, isA, found⟩ := Option.bind_eq_some_iff.mp found
    obtain ⟨b, isB, found⟩ := Option.bind_eq_some_iff.mp found
    obtain ⟨c, isC, found⟩ := Option.bind_eq_some_iff.mp found
    obtain ⟨d, isD, found⟩ := Option.bind_eq_some_iff.mp found
    exact ⟨a, b, c, d, hexDigit_of_hexDigit? isA, hexDigit_of_hexDigit? isB,
      hexDigit_of_hexDigit? isC, hexDigit_of_hexDigit? isD, (Option.some.inj found).symm⟩
  · rintro ⟨a, b, c, d, isA, isB, isC, isD, rfl⟩
    rw [codeUnit?, hexDigit?_of_hexDigit isA, hexDigit?_of_hexDigit isB, hexDigit?_of_hexDigit isC,
      hexDigit?_of_hexDigit isD]
    rfl

theorem shortEscape?_eq_some_iff
    {letter character : Char} :
    shortEscape? letter = some character ↔ (letter, character) ∈ escapes := by
  constructor
  · intro found
    unfold shortEscape? at found
    split at found <;> cases found <;> decide
  · have agree : ∀ pair ∈ escapes, shortEscape? pair.1 = some pair.2 := by decide
    exact agree (letter, character)

theorem readString_unit
    {first second third fourth : Char}
    {unit : Nat}
    (found : codeUnit? first second third fourth = some unit)
    (rest : List Char) :
    readString ('\\' :: 'u' :: first :: second :: third :: fourth :: rest) =
      (readString rest).map fun read => (.ofUnit unit :: read.1, read.2) := by
  rw [readString, found]
  cases readString rest <;> rfl

theorem readString_escape
    {letter character : Char}
    (found : shortEscape? letter = some character)
    (rest : List Char) :
    readString ('\\' :: letter :: rest) =
      (readString rest).map fun read => (.char character :: read.1, read.2) := by
  have notUnit : letter ≠ 'u' := by
    rintro rfl
    cases found
  rw [readString, found]
  · cases readString rest <;> rfl
  · rintro _ _ _ _ _ rfl
    exact absurd rfl notUnit

theorem readString_plain
    {character : Char}
    (isShown : ' ' ≤ character)
    (notQuote : character ≠ '"')
    (notBackslash : character ≠ '\\')
    (rest : List Char) :
    readString (character :: rest) =
      (readString rest).map fun read => (.char character :: read.1, read.2) := by
  rw [readString, if_neg (Char.not_lt.mpr isShown)]
  · cases readString rest <;> rfl
  · exact notQuote
  · exact fun _ _ _ _ _ isBackslash => absurd isBackslash notBackslash
  · exact fun _ _ isBackslash => absurd isBackslash notBackslash

/-- A string is read up to its closing quote. -/
theorem readString_append
    {pieces : List Piece}
    {text : List Char}
    (written : StringWritten pieces text)
    (rest : List Char) :
    readString (text ++ '"' :: rest) = some (pieces, rest) := by
  induction written with
  | nil => rfl
  | cons piece _ inductionHypothesis =>
      cases piece with
      | plain isShown notQuote notBackslash =>
          rw [List.append_assoc, List.singleton_append,
            readString_plain isShown notQuote notBackslash, inductionHypothesis]
          rfl
      | escape isEscape =>
          simp only [List.cons_append, List.nil_append]
          rw [readString_escape (shortEscape?_eq_some_iff.mpr isEscape), inductionHypothesis]
          rfl
      | unit isA isB isC isD =>
          simp only [List.cons_append, List.nil_append]
          rw [readString_unit (codeUnit?_eq_some_iff.mpr ⟨_, _, _, _, isA, isB, isC, isD, rfl⟩),
            inductionHypothesis]
          rfl

/-- A piece and the string behind it are a string, if that string is written as it is read. -/
theorem string_of_piece
    {piece : Piece}
    {own others rest : List Char}
    {pieces : List Piece}
    (written : PieceWritten piece own)
    (othersWritten : ∀ {pieces rest}, readString others = some (pieces, rest) →
      ∃ text, StringWritten pieces text ∧ others = text ++ '"' :: rest)
    (found : (readString others >>= fun read => some (piece :: read.1, read.2)) =
      some (pieces, rest)) :
    ∃ text, StringWritten pieces text ∧ own ++ others = text ++ '"' :: rest := by
  obtain ⟨_, isRead, same⟩ := Option.bind_eq_some_iff.mp found
  cases same
  obtain ⟨text, isWritten, rfl⟩ := othersWritten isRead
  exact ⟨own ++ text, .cons written isWritten, by rw [List.append_assoc]⟩

/-- What is read as a string is written there. -/
theorem string_of_readString
    {text rest : List Char}
    {pieces : List Piece}
    (found : readString text = some (pieces, rest)) :
    ∃ own, StringWritten pieces own ∧ text = own ++ '"' :: rest := by
  fun_induction readString text generalizing pieces rest with
  | case1 => cases found
  | case2 =>
      cases found
      exact ⟨[], .nil, rfl⟩
  | case3 first second third fourth others inductionHypothesis =>
      obtain ⟨unit, isUnit, goesOn⟩ := Option.bind_eq_some_iff.mp found
      obtain ⟨a, b, c, d, isA, isB, isC, isD, rfl⟩ := codeUnit?_eq_some_iff.mp isUnit
      exact string_of_piece (.unit isA isB isC isD) inductionHypothesis goesOn
  | case4 letter others _ inductionHypothesis =>
      obtain ⟨character, isEscape, goesOn⟩ := Option.bind_eq_some_iff.mp found
      exact string_of_piece (.escape (shortEscape?_eq_some_iff.mp isEscape)) inductionHypothesis
        goesOn
  | case5 => cases found
  | case6 character others notQuote _ noEscape isShown inductionHypothesis =>
      have notBackslash : character ≠ '\\' := by
        intro isBackslash
        cases others with
        | nil => cases found
        | cons letter rest => exact noEscape letter rest isBackslash rfl
      exact string_of_piece (.plain (Char.not_lt.mp isShown) notQuote notBackslash)
        inductionHypothesis found

/-! ### Texts of strings -/

theorem StringWritten.append
    {pieces others : List Piece}
    {text rest : List Char}
    (written : StringWritten pieces text)
    (goesOn : StringWritten others rest) :
    StringWritten (pieces ++ others) (text ++ rest) := by
  induction written with
  | nil => exact goesOn
  | cons first _ inductionHypothesis =>
      rw [List.append_assoc]
      exact .cons first inductionHypothesis

/-- Characters without a special meaning may stand for themselves. -/
theorem stringWritten_piecesOf
    (text : String)
    (plain : ∀ character ∈ text.toList, ' ' ≤ character ∧ character ≠ '"' ∧ character ≠ '\\') :
    StringWritten (piecesOf text) text.toList := by
  rw [piecesOf]
  generalize text.toList = characters at plain ⊢
  induction characters with
  | nil => exact .nil
  | cons first rest inductionHypothesis =>
      obtain ⟨⟨printed, noQuote, noEscape⟩, plainRest⟩ := List.forall_mem_cons.mp plain
      exact .cons (.plain printed noQuote noEscape) (inductionHypothesis plainRest)

end Json
end EventRelay
