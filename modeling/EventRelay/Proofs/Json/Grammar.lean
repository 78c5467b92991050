import EventRelay.Json.Reader

/-!
# JSON as it is written

What the texts of a JSON value look like, said without a reader. Blanks may stand around every
value, every key and every separator. A character of a string may be written as itself or escaped,
so that most values have many texts. A number has no other text than its literal.

Nothing but blanks may stand in front of a value that makes up a whole text, and nothing else may
follow it.
-/

namespace EventRelay
namespace Json

/-! ## Blanks and numbers -/

/-- Blanks between tokens. There may be none. -/
def Gap (text : List Char) : Prop := ∀ character ∈ text, isGap character = true

/-- One digit or more. -/
def Digits (text : List Char) : Prop := text ≠ [] ∧ ∀ character ∈ text, character.isDigit = true

/-- The whole part of a number. Only zero itself starts with a zero. -/
inductive WholeWritten : List Char → Prop
  | zero : WholeWritten ['0']
  | digits {text : List Char} : Digits text → text.head? ≠ some '0' → WholeWritten text

/-- The part of a number from the point on. It may be missing. -/
inductive FractionWritten : List Char → Prop
  | none : FractionWritten []
  | some {digits : List Char} : Digits digits → FractionWritten ('.' :: digits)

/-- The exponent of a number, with a sign or without one. It may be missing. -/
inductive ExponentWritten : List Char → Prop
  | none : ExponentWritten []
  | some {mark : Char} {sign digits : List Char} :
      mark = 'e' ∨ mark = 'E' → sign = [] ∨ sign = ['+'] ∨ sign = ['-'] → Digits digits →
      ExponentWritten (mark :: (sign ++ digits))

/-- A number as it is written. -/
inductive NumberWritten : List Char → Prop
  | parts {sign whole fraction exponent : List Char} :
      sign = [] ∨ sign = ['-'] → WholeWritten whole → FractionWritten fraction →
      ExponentWritten exponent → NumberWritten (sign ++ (whole ++ (fraction ++ exponent)))

/-! ## Strings -/

/-- Letters behind a backslash and the characters that they stand for. -/
def escapes : List (Char × Char) :=
  [('"', '"'), ('\\', '\\'), ('/', '/'), ('b', '\x08'), ('f', '\x0c'), ('n', '\n'), ('r', '\r'),
    ('t', '\t')]

/-- The hexadecimal digit of a value, in either letter case. -/
def HexDigit (value : Nat) (digit : Char) : Prop :=
  (digit, value) ∈ "0123456789abcdef".toList.zipIdx ∨
    (digit, value) ∈ "0123456789ABCDEF".toList.zipIdx

/-- A piece of a string as it is written. -/
inductive PieceWritten : Piece → List Char → Prop
  | plain {character : Char} :
      ' ' ≤ character → character ≠ '"' → character ≠ '\\' →
      PieceWritten (.char character) [character]
  | escape {letter character : Char} :
      (letter, character) ∈ escapes → PieceWritten (.char character) ['\\', letter]
  | unit {a b c d : Nat} {first second third fourth : Char} :
      HexDigit a first → HexDigit b second → HexDigit c third → HexDigit d fourth →
      PieceWritten (.ofUnit (((a * 16 + b) * 16 + c) * 16 + d))
        ['\\', 'u', first, second, third, fourth]

/-- A string as it is written, without its quotes. -/
inductive StringWritten : List Piece → List Char → Prop
  | nil : StringWritten [] []
  | cons {piece : Piece} {rest : List Piece} {own others : List Char} :
      PieceWritten piece own → StringWritten rest others →
      StringWritten (piece :: rest) (own ++ others)

/-! ## Values -/

mutual

/-- A value as it is written, from its first character to its last. -/
inductive ValueWritten : Value → List Char → Prop
  | null : ValueWritten .null ['n', 'u', 'l', 'l']
  | on : ValueWritten (.bool true) ['t', 'r', 'u', 'e']
  | off : ValueWritten (.bool false) ['f', 'a', 'l', 's', 'e']
  | number {literal : List Char} : NumberWritten literal → ValueWritten (.number literal) literal
  | string {pieces : List Piece} {text : List Char} :
      StringWritten pieces text → ValueWritten (.string pieces) ('"' :: (text ++ ['"']))
  | emptyArray {gap : List Char} : Gap gap → ValueWritten (.array []) ('[' :: (gap ++ [']']))
  | array {elements : List Value} {text : List Char} :
      ElementsWritten elements text → ValueWritten (.array elements) ('[' :: (text ++ [']']))
  | emptyObject {gap : List Char} :
      Gap gap → ValueWritten (.object []) ('\x7b' :: (gap ++ ['\x7d']))
  | object {members : List (List Piece × Value)} {text : List Char} :
      MembersWritten members text → ValueWritten (.object members) ('\x7b' :: (text ++ ['\x7d']))

/-- Elements between commas as they are written. There is at least one. -/
inductive ElementsWritten : List Value → List Char → Prop
  | last {value : Value} {before own after : List Char} :
      Gap before → ValueWritten value own → Gap after →
      ElementsWritten [value] (before ++ (own ++ after))
  | more {value : Value} {rest : List Value} {before own after others : List Char} :
      Gap before → ValueWritten value own → Gap after → ElementsWritten rest others →
      ElementsWritten (value :: rest) (before ++ (own ++ (after ++ ',' :: others)))

/-- Members between commas as they are written. There is at least one. -/
inductive MembersWritten : List (List Piece × Value) → List Char → Prop
  | last {key : List Piece} {value : Value} {before name behind between own after : List Char} :
      Gap before → StringWritten key name → Gap behind → Gap between → ValueWritten value own →
      Gap after →
      MembersWritten [(key, value)]
        (before ++ '"' :: (name ++ '"' :: (behind ++ ':' :: (between ++ (own ++ after)))))
  | more {key : List Piece} {value : Value} {rest : List (List Piece × Value)}
      {before name behind between own after others : List Char} :
      Gap before → StringWritten key name → Gap behind → Gap between → ValueWritten value own →
      Gap after → MembersWritten rest others →
      MembersWritten ((key, value) :: rest)
        (before ++ '"' :: (name ++ '"' :: (behind ++ ':' :: (between ++ (own ++
          (after ++ ',' :: others))))))

end

/-- A text consists of a value, with blanks around it or without. -/
def Value.IsText (value : Value) (text : String) : Prop :=
  ∃ before own after, Gap before ∧ ValueWritten value own ∧ Gap after ∧
    text.toList = before ++ (own ++ after)

end Json
end EventRelay
