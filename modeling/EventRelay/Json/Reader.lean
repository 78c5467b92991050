import EventRelay.Json.Value

/-!
# Reading JSON

A strict reader: one value with blanks around it and nothing else. Nesting may be of
any depth; each nested value takes at least one character, so the length of the text
bounds the recursion.
-/

namespace EventRelay
namespace Json

/-- Characters that may stand between tokens. -/
def isGap (character : Char) : Bool :=
  character = ' ' || character = '\n' || character = '\t' || character = '\r'

/-- The text from its first token on. -/
def skipGap (text : List Char) : List Char := text.dropWhile isGap

/-- The value of a hexadecimal digit. -/
def hexDigit? (character : Char) : Option Nat :=
  if '0' ≤ character && character ≤ '9' then some (character.toNat - '0'.toNat)
  else if 'a' ≤ character && character ≤ 'f' then some (character.toNat - 'a'.toNat + 10)
  else if 'A' ≤ character && character ≤ 'F' then some (character.toNat - 'A'.toNat + 10)
  else none

/-- The code unit that four hexadecimal digits stand for. -/
def codeUnit? (first second third fourth : Char) : Option Nat := do
  let a ← hexDigit? first
  let b ← hexDigit? second
  let c ← hexDigit? third
  let d ← hexDigit? fourth
  return ((a * 16 + b) * 16 + c) * 16 + d

/-- The character that a one-letter escape stands for. -/
def shortEscape? : Char → Option Char
  | '"' => some '"'
  | '\\' => some '\\'
  | '/' => some '/'
  | 'b' => some '\x08'
  | 'f' => some '\x0c'
  | 'n' => some '\n'
  | 'r' => some '\r'
  | 't' => some '\t'
  | _ => none

/-- The string whose opening quote has been read, and what follows its closing quote. -/
def readString : List Char → Option (List Piece × List Char)
  | [] => none
  | '"' :: rest => some ([], rest)
  | '\\' :: 'u' :: first :: second :: third :: fourth :: rest => do
      let unit ← codeUnit? first second third fourth
      let (pieces, following) ← readString rest
      return (.ofUnit unit :: pieces, following)
  | '\\' :: escape :: rest => do
      let character ← shortEscape? escape
      let (pieces, following) ← readString rest
      return (.char character :: pieces, following)
  | character :: rest =>
      if character < ' ' then none
      else do
        let (pieces, following) ← readString rest
        return (.char character :: pieces, following)

/-- The digits at the start of a text and what follows them. -/
def spanDigits (text : List Char) : List Char × List Char :=
  (text.takeWhile Char.isDigit, text.dropWhile Char.isDigit)

/-- At least one digit. -/
def readDigits (text : List Char) : Option (List Char × List Char) :=
  match spanDigits text with
  | ([], _) => none
  | (digits, rest) => some (digits, rest)

/-- Digits without a superfluous zero in front. -/
def readWhole : List Char → Option (List Char × List Char)
  | '0' :: rest =>
      match spanDigits rest with
      | ([], _) => some (['0'], rest)
      | _ => none
  | text => readDigits text

/-- The part of a number after the point, point included; it may be missing. -/
def readFraction : List Char → Option (List Char × List Char)
  | '.' :: text => (readDigits text).map fun (digits, rest) => ('.' :: digits, rest)
  | text => some ([], text)

/-- The exponent of a number; it may be missing. -/
def readExponent : List Char → Option (List Char × List Char)
  | mark :: text =>
      if mark = 'e' || mark = 'E' then
        let (sign, unsigned) : List Char × List Char :=
          match text with
          | '+' :: rest => (['+'], rest)
          | '-' :: rest => (['-'], rest)
          | _ => ([], text)
        (readDigits unsigned).map fun (digits, rest) => (mark :: sign ++ digits, rest)
      else some ([], mark :: text)
  | [] => some ([], [])

/-- A number as it is written. -/
def readNumber (text : List Char) : Option (List Char × List Char) := do
  let (sign, unsigned) : List Char × List Char :=
    match text with
    | '-' :: rest => (['-'], rest)
    | _ => ([], text)
  let (whole, afterWhole) ← readWhole unsigned
  let (fraction, afterFraction) ← readFraction afterWhole
  let (exponent, rest) ← readExponent afterFraction
  return (sign ++ whole ++ fraction ++ exponent, rest)

mutual

/-- The value at the start of a text and what follows it. -/
def readValue : Nat → List Char → Option (Value × List Char)
  | 0, _ => none
  | fuel + 1, text =>
      match skipGap text with
      | 'n' :: 'u' :: 'l' :: 'l' :: rest => some (.null, rest)
      | 't' :: 'r' :: 'u' :: 'e' :: rest => some (.bool true, rest)
      | 'f' :: 'a' :: 'l' :: 's' :: 'e' :: rest => some (.bool false, rest)
      | '"' :: rest => (readString rest).map fun (pieces, following) => (.string pieces, following)
      | '[' :: rest =>
          match skipGap rest with
          | ']' :: following => some (.array [], following)
          | elements => (readElements fuel elements).map fun (values, following) =>
              (.array values, following)
      | '\x7b' :: rest =>
          match skipGap rest with
          | '\x7d' :: following => some (.object [], following)
          | members => (readMembers fuel members).map fun (values, following) =>
              (.object values, following)
      | other => (readNumber other).map fun (literal, following) => (.number literal, following)

/-- The elements up to the closing bracket; at least one. -/
def readElements : Nat → List Char → Option (List Value × List Char)
  | 0, _ => none
  | fuel + 1, text => do
      let (value, afterValue) ← readValue fuel text
      match skipGap afterValue with
      | ',' :: rest =>
          let (values, following) ← readElements fuel rest
          return (value :: values, following)
      | ']' :: following => return ([value], following)
      | _ => none

/-- The members up to the closing brace; at least one. -/
def readMembers : Nat → List Char → Option (List (List Piece × Value) × List Char)
  | 0, _ => none
  | fuel + 1, text =>
      match skipGap text with
      | '"' :: name => do
          let (key, afterKey) ← readString name
          match skipGap afterKey with
          | ':' :: content =>
              let (value, afterValue) ← readValue fuel content
              match skipGap afterValue with
              | ',' :: rest =>
                  let (members, following) ← readMembers fuel rest
                  return ((key, value) :: members, following)
              | '\x7d' :: following => return ([(key, value)], following)
              | _ => none
          | _ => none
      | _ => none

end

/-- The value that a text consists of. -/
def parse? (text : String) : Option Value :=
  let characters := text.toList
  match readValue (characters.length + 1) characters with
  | some (value, rest) => if (skipGap rest).isEmpty then some value else none
  | none => none

end Json
end EventRelay
