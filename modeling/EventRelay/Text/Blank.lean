/-!
# Blank characters

The characters of the Unicode property White_Space, and the text between the
blanks at both ends of a text.
-/

namespace EventRelay
namespace Text

/-- The character has the Unicode property White_Space. -/
def isBlank (character : Char) : Bool :=
  let codePoint := character.toNat
  (0x9 ≤ codePoint && codePoint ≤ 0xd) || codePoint = 0x20 || codePoint = 0x85 ||
    codePoint = 0xa0 || codePoint = 0x1680 ||
    (0x2000 ≤ codePoint && codePoint ≤ 0x200a) ||
    codePoint = 0x2028 || codePoint = 0x2029 || codePoint = 0x202f ||
    codePoint = 0x205f || codePoint = 0x3000

/-- Drops the blanks at both ends. -/
def trimmed (characters : List Char) : List Char :=
  ((characters.dropWhile isBlank).reverse.dropWhile isBlank).reverse

/-- Drops every blank. -/
def withoutBlanks (text : String) : String :=
  String.ofList (text.toList.filter fun character => !isBlank character)

end Text
end EventRelay
