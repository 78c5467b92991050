/-!
# JSON values

JSON text can name half of a surrogate pair on its own. Strings are therefore
sequences of pieces, and only some of them are texts. A number is kept as it is
written.
-/

namespace EventRelay
namespace Json

/-- One element of a JSON string. -/
inductive Piece
  /-- A character, written as itself or escaped. -/
  | char (character : Char)
  /-- An escaped half of a surrogate pair. -/
  | half (unit : Nat)
  deriving DecidableEq

/-- A JSON value; an object keeps its members in the order in which they are written. -/
inductive Value
  | null
  | bool (value : Bool)
  | number (literal : List Char)
  | string (pieces : List Piece)
  | array (elements : List Value)
  | object (members : List (List Piece × Value))

/-- The unit is the first half of a surrogate pair. -/
def isLeading (unit : Nat) : Bool := 0xd800 ≤ unit && unit < 0xdc00

/-- The unit is the second half of a surrogate pair. -/
def isTrailing (unit : Nat) : Bool := 0xdc00 ≤ unit && unit < 0xe000

/-- The piece that an escaped code unit stands for. -/
def Piece.ofUnit (unit : Nat) : Piece :=
  if isLeading unit || isTrailing unit then .half unit else .char (Char.ofNat unit)

/-- The character that a surrogate pair stands for. -/
def ofPair (leading trailing : Nat) : Char :=
  Char.ofNat (0x10000 + (leading - 0xd800) * 0x400 + (trailing - 0xdc00))

/-- The characters of a string, if every half in it belongs to a pair. -/
def characters? : List Piece → Option (List Char)
  | [] => some []
  | .char character :: rest => (characters? rest).map (character :: ·)
  | .half leading :: .half trailing :: rest =>
      if isLeading leading && isTrailing trailing then
        (characters? rest).map (ofPair leading trailing :: ·)
      else none
  | .half _ :: _ => none

/-- The text of a string, if it is one. -/
def text? (pieces : List Piece) : Option String :=
  (characters? pieces).map String.ofList

/-- The pieces of a text. -/
def piecesOf (text : String) : List Piece := text.toList.map .char

/-- Each character of a text is one piece. -/
theorem characters?_map_char (characters : List Char) :
    characters? (characters.map .char) = some characters := by
  induction characters with
  | nil => rfl
  | cons first rest inductionHypothesis => simp [characters?, inductionHypothesis]

@[simp] theorem text?_piecesOf (text : String) : text? (piecesOf text) = some text := by
  simp [text?, piecesOf, characters?_map_char]

end Json
end EventRelay
