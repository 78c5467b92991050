import EventRelay.Text.Blank

/-!
# Tokens of declarations

Declarations of event types and subscribers are token trees: words, marks, literals,
lifetimes, and groups of tokens between delimiters. A mark is a single character; two
marks that belong to one sign are written without a blank between them.

Tokens are shown in two ways: compactly without any blank, and spaced with one blank
between neighbours that are no marks of one sign.
-/

namespace EventRelay
namespace Declaration

/-- What stands around a group of tokens. -/
inductive Delimiter
  | parenthesis
  | bracket
  | brace
  deriving DecidableEq

/-- The character that opens a group. -/
def Delimiter.opening : Delimiter → Char
  | parenthesis => '('
  | bracket => '['
  | brace => '\x7b'

/-- The character that closes a group. -/
def Delimiter.closing : Delimiter → Char
  | parenthesis => ')'
  | bracket => ']'
  | brace => '\x7d'

/-- One token. -/
inductive Token
  /-- An identifier or keyword. -/
  | word (text : String)
  /-- A mark, and whether another mark follows at once. -/
  | mark (character : Char) (isJoint : Bool)
  /-- A literal as it is written. -/
  | literal (text : String)
  /-- A lifetime, tick included. -/
  | lifetime (text : String)
  /-- Tokens between delimiters. -/
  | group (delimiter : Delimiter) (tokens : List Token)

namespace Token

/-- A comma. -/
def isComma : Token → Bool
  | mark ',' _ => true
  | _ => false

/-- A literal that is a number. -/
def isNumber : Token → Bool
  | literal text => text.toList.head?.any Char.isDigit
  | _ => false

mutual

/-- A token without blanks. -/
def compact : Token → String
  | word text => text
  | mark character _ => character.toString
  | literal text => Text.withoutBlanks text
  | lifetime text => text
  | group delimiter tokens =>
      delimiter.opening.toString ++ compactAll tokens ++ delimiter.closing.toString

/-- Tokens without blanks. -/
def compactAll : List Token → String
  | [] => ""
  | first :: rest => first.compact ++ compactAll rest

end

/-- A mark that is a sign of its own. -/
def single (character : Char) : Token := mark character false

/-- The marks of a sign of one or more characters. -/
def sign : List Char → List Token
  | [] => []
  | [last] => [single last]
  | first :: rest => mark first true :: sign rest

/-- What stands between a token and those after it: nothing after a joint mark and at the
end, else a blank. -/
def gap : Token → List Token → String
  | _, [] => ""
  | mark _ true, _ => ""
  | _, _ => " "

mutual

/-- A token with blanks between the tokens inside of it. -/
def spaced : Token → String
  | word text => text
  | mark character _ => character.toString
  | literal text => text
  | lifetime text => text
  | group .brace tokens =>
      if tokens.isEmpty then "\x7b \x7d" else "\x7b " ++ spacedAll tokens ++ " \x7d"
  | group delimiter tokens =>
      delimiter.opening.toString ++ spacedAll tokens ++ delimiter.closing.toString

/-- Tokens with blanks between them. -/
def spacedAll : List Token → String
  | [] => ""
  | first :: rest => first.spaced ++ gap first rest ++ spacedAll rest

end

mutual

/-- Number of tokens in a token, itself included. -/
def size : Token → Nat
  | group _ tokens => sizeAll tokens + 1
  | _ => 1

/-- Number of tokens in a list, those in groups included. -/
def sizeAll : List Token → Nat
  | [] => 0
  | first :: rest => first.size + sizeAll rest

end

/-! ## What tokens start with -/

/-- Words that cannot name anything. -/
def keywords : List String :=
  ["_", "abstract", "as", "async", "await", "become", "box", "break", "const", "continue",
    "crate", "do", "dyn", "else", "enum", "extern", "false", "final", "fn", "for", "if", "impl",
    "in", "let", "loop", "macro", "match", "mod", "move", "mut", "override", "priv", "pub", "ref",
    "return", "Self", "self", "static", "struct", "super", "trait", "true", "try", "type", "typeof",
    "unsafe", "unsized", "use", "virtual", "where", "while", "yield"]

/-- The marks of a sign stand here, joint up to the last one. -/
def startsMarks : List Char → List Token → Bool
  | [], _ => false
  | [last], mark character _ :: _ => character = last
  | first :: others, mark character true :: rest => character = first && startsMarks others rest
  | _, _ => false

/-- A sign stands here. -/
def startsSign (text : String) (tokens : List Token) : Bool := startsMarks text.toList tokens

/-- A given word stands here. -/
def startsWord (text : String) : List Token → Bool
  | word found :: _ => found = text
  | _ => false

/-- Any word stands here. -/
def startsAnyWord : List Token → Bool
  | word _ :: _ => true
  | _ => false

/-- A word that can name something stands here. -/
def startsName : List Token → Bool
  | word found :: _ => !keywords.contains found
  | _ => false

/-- A lifetime stands here. -/
def startsLifetime : List Token → Bool
  | lifetime _ :: _ => true
  | _ => false

/-- A group stands here. -/
def startsGroup (delimiter : Delimiter) : List Token → Bool
  | group found _ :: _ => found = delimiter
  | _ => false

/-- A literal or a negative number stands here. -/
def startsLiteral : List Token → Bool
  | literal _ :: _ => true
  | mark '-' _ :: next :: _ => next.isNumber
  | _ => false

/-- A literal, a negative number or a truth value stands here. -/
def startsValue (tokens : List Token) : Bool :=
  startsLiteral tokens || startsWord "true" tokens || startsWord "false" tokens

end Token
end Declaration
end EventRelay
