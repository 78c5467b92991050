import EventRelay.Declaration.Token
import EventRelay.Text.Quoted

/-!
# Reading tokens

A text is cut into lexemes from left to right; what a lexeme is shows at its first
characters. Blanks and comments separate lexemes and are dropped, except that a
documentation comment stands for the attribute that holds its text. Lexemes become token
trees by matching opening and closing delimiters.
-/

namespace EventRelay
namespace Declaration

/-- A lexeme: a token that is no group, or a delimiter. -/
inductive Lexeme
  | token (token : Token)
  | opening (delimiter : Delimiter)
  | closing (delimiter : Delimiter)

namespace Lexeme

/-! ## Character classes -/

/-- Characters that separate lexemes: blanks and the two marks of writing direction. -/
def isGap (character : Char) : Bool :=
  Text.isBlank character || character = '\u200e' || character = '\u200f'

/-- Characters that words start with. -/
def startsWord (character : Char) : Bool :=
  character.isAlpha || character = '_' || 0x80 ≤ character.toNat && !isGap character

/-- Characters that words go on with. -/
def continuesWord (character : Char) : Bool :=
  startsWord character || character.isDigit

/-- Characters of which signs are made. -/
def isMarkCharacter (character : Char) : Bool :=
  "~!@#$%^&*-=+|;:,<.>/?'".toList.contains character

/-- Length of the word at the start of a text, zero if there is none. -/
def wordLength : List Char → Nat
  | [] => 0
  | first :: rest => if startsWord first then (rest.takeWhile continuesWord).length + 1 else 0

/-! ## Comments -/

/-- Number of characters after the start of a block comment up to and with its end; comments
nest. -/
def commentLength? : Nat → List Char → Option Nat
  | _, [] => none
  | depth, '/' :: '*' :: rest => (commentLength? (depth + 1) rest).map (· + 2)
  | 0, '*' :: '/' :: _ => some 2
  | depth + 1, '*' :: '/' :: rest => (commentLength? depth rest).map (· + 2)
  | depth, _ :: rest => (commentLength? depth rest).map (· + 1)

/-- A comment starts here. -/
def startsComment : List Char → Bool
  | '/' :: '/' :: _ => true
  | '/' :: '*' :: _ => true
  | _ => false

/-- Characters up to the end of the line; an end of line of two characters is left out. -/
def line (text : List Char) : List Char :=
  let content := text.takeWhile (· ≠ '\n')
  match (text.drop content.length).isEmpty, content.getLast? with
  | false, some '\r' => content.dropLast
  | _, _ => content

/-- The inside of a literal for a text. A null is written by its code where a digit of base
eight follows, as the short escape would take the digit in. -/
def literalText : List Char → List Char
  | [] => []
  | '\x00' :: rest =>
      (if rest.head?.any fun next => '0' ≤ next && next ≤ '7' then "\\x00" else "\\0").toList ++
        literalText rest
  | first :: rest => Text.Quoted.encodeChar first ++ literalText rest

/-- The attribute that a documentation comment stands for. -/
def documentation (isInner : Bool) (content : List Char) : List Lexeme :=
  [.token (.mark '#' false)] ++ (if isInner then [.token (.mark '!' false)] else []) ++
    [.opening .bracket, .token (.word "doc"), .token (.mark '=' false),
      .token (.literal (String.ofList ('"' :: literalText content ++ ['"']))), .closing .bracket]

/-- A block comment whose opening characters have been read: the attribute that it stands
for, if it does for one, and the number of characters in it. -/
def blockComment (rest : List Char) : List Lexeme × Nat :=
  let length := (commentLength? 0 rest).getD rest.length
  let content := (rest.take (length - 2)).drop 1
  match rest with
  | '!' :: _ => (documentation true content, length)
  | '*' :: '*' :: _ => ([], length)
  | '*' :: '/' :: _ => ([], length)
  | '*' :: _ => (documentation false content, length)
  | _ => ([], length)

/-- A line comment whose opening characters have been read. -/
def lineComment (rest : List Char) : List Lexeme × Nat :=
  let content := line rest
  match content with
  | '!' :: text => (documentation true text, content.length)
  | '/' :: '/' :: _ => ([], content.length)
  | '/' :: text => (documentation false text, content.length)
  | _ => ([], content.length)

/-! ## Literals -/

/-- The literal that stands for what could not be read. -/
def placeholder : List Char := "(/*ERROR*/)".toList

/-- Length of that literal, if it stands here. -/
def placeholderLength? (text : List Char) : Option Nat :=
  if placeholder.isPrefixOf text then some placeholder.length else none

/-- Number of characters up to and with a closing quote; a backslash protects the character
after it. -/
def quotedLength (quote : Char) : List Char → Nat
  | [] => 0
  | '\\' :: _ :: rest => quotedLength quote rest + 2
  | first :: rest => if first = quote then 1 else quotedLength quote rest + 1

/-- Number of characters up to and with a quote that is followed by a number of hashes. -/
def rawEnd (hashes : Nat) : List Char → Nat
  | [] => 0
  | first :: rest =>
      if first = '"' && rest.take hashes = List.replicate hashes '#' then hashes + 1
      else rawEnd hashes rest + 1

/-- Length of the hashes, quotes and content of a raw string. -/
def rawLength? (text : List Char) : Option Nat :=
  let hashes := (text.takeWhile (· = '#')).length
  match text.drop hashes with
  | '"' :: rest => some (hashes + 1 + rawEnd hashes rest)
  | _ => none

/-- Length of a character and the tick behind it. -/
def tickLength? : List Char → Option Nat
  | '\\' :: rest => some (quotedLength '\'' ('\\' :: rest))
  | _ :: '\'' :: _ => some 2
  | _ => none

/-- Length of a text between quotes, with what stands in front of the first one. -/
def textLength? : List Char → Option Nat
  | '"' :: rest => some (quotedLength '"' rest + 1)
  | 'b' :: '"' :: rest => some (quotedLength '"' rest + 2)
  | 'c' :: '"' :: rest => some (quotedLength '"' rest + 2)
  | 'b' :: 'r' :: rest => (rawLength? rest).map (· + 2)
  | 'c' :: 'r' :: rest => (rawLength? rest).map (· + 2)
  | 'r' :: rest => (rawLength? rest).map (· + 1)
  | 'b' :: '\'' :: rest => (tickLength? rest).map (· + 2)
  | '\'' :: rest => (tickLength? rest).map (· + 1)
  | _ => none

/-- Length of the digits of an exponent, sign included; nothing without a digit. -/
def exponentLength? (text : List Char) : Option Nat :=
  let sign := (text.takeWhile fun character => character = '_').length
  let unsigned := match text.drop sign with
    | '+' :: rest => some (sign + 1, rest)
    | '-' :: rest => some (sign + 1, rest)
    | rest => some (sign, rest)
  unsigned.bind fun (length, rest) =>
    let digits := rest.takeWhile fun character => character.isDigit || character = '_'
    if digits.any Char.isDigit then some (length + digits.length) else none

/-- Length of the digits and underscores at the start of a text. -/
def digitsLength (text : List Char) : Nat :=
  (text.takeWhile fun character => character.isDigit || character = '_').length

/-- Length of the exponent at the start of a text, mark included. -/
def markedExponentLength? : List Char → Option Nat
  | 'e' :: rest => (exponentLength? rest).map (· + 1)
  | 'E' :: rest => (exponentLength? rest).map (· + 1)
  | _ => none

/-- Length of a number with a point or an exponent. A point that is followed by a second one
or by a word is no part of a number. -/
def fractionLength? (text : List Char) : Option Nat :=
  let whole := digitsLength text
  match text.drop whole with
  | '.' :: rest =>
      if rest.head?.any fun next => next = '.' || startsWord next then none
      else
        let length := whole + 1 + digitsLength rest
        some (length + (markedExponentLength? (text.drop length)).getD 0)
  | rest => (markedExponentLength? rest).map (whole + ·)

/-- Length of a whole number in one of the four bases. -/
def wholeLength : List Char → Nat
  | '0' :: 'x' :: rest =>
      (rest.takeWhile fun character =>
        character.isDigit || character = '_' || "abcdefABCDEF".toList.contains character).length + 2
  | '0' :: 'o' :: rest => digitsLength rest + 2
  | '0' :: 'b' :: rest => digitsLength rest + 2
  | text => digitsLength text

/-- Length of a number; it starts with a digit. -/
def numberLength? (text : List Char) : Option Nat :=
  if text.head?.any Char.isDigit then
    some ((fractionLength? text).getD (wholeLength text))
  else none

/-- Length of the literal at the start of a text; a word that follows at once belongs to
it. -/
def literalLength? (text : List Char) : Option Nat :=
  let length? := match textLength? text with
    | some length => some length
    | none => numberLength? text
  length?.map fun length => length + wordLength (text.drop length)

/-! ## Words and marks -/

/-- Length of a word that may be written in the raw form. -/
def rawWordLength (text : List Char) : Nat :=
  match text with
  | 'r' :: '#' :: rest =>
      if wordLength rest = 0 then wordLength text else wordLength rest + 2
  | _ => wordLength text

/-- A mark is joint when another one follows at once. -/
def isJointBefore (rest : List Char) : Bool :=
  !startsComment rest && rest.head?.any isMarkCharacter

/-- A lexeme that is no delimiter and no comment, and the number of characters in it. -/
def leaf (text : List Char) : Lexeme × Nat :=
  match literalLength? text with
  | some length => (.token (.literal (String.ofList (text.take length))), length)
  | none =>
      match text with
      | '\'' :: rest =>
          let length := rawWordLength rest + 1
          (.token (.lifetime (String.ofList (text.take length))), length)
      | first :: rest =>
          let length := rawWordLength text
          if length = 0 then (.token (.mark first (isJointBefore rest)), 1)
          else (.token (.word (String.ofList (text.take length))), length)
      | [] => (.token (.word ""), 0)

/-! ## Texts -/

/-- The delimiter that a character opens. -/
def opened? (character : Char) : Option Delimiter :=
  [Delimiter.parenthesis, .bracket, .brace].find? fun delimiter =>
    delimiter.opening = character

/-- The delimiter that a character closes. -/
def closed? (character : Char) : Option Delimiter :=
  [Delimiter.parenthesis, .bracket, .brace].find? fun delimiter =>
    delimiter.closing = character

/-- The lexemes that start with a character, and the number of further characters in
them. -/
def next (first : Char) (rest : List Char) : List Lexeme × Nat :=
  if isGap first then ([], 0)
  else
    match first, rest with
    | '(', '/' :: '*' :: _ =>
        match placeholderLength? (first :: rest) with
        | some length =>
            ([.token (.literal (String.ofList ((first :: rest).take length)))], length - 1)
        | none => ([.opening .parenthesis], 0)
    | '/', '/' :: comment =>
        let (lexemes, length) := lineComment comment
        (lexemes, length + 1)
    | '/', '*' :: comment =>
        let (lexemes, length) := blockComment comment
        (lexemes, length + 1)
    | _, _ =>
        match opened? first, closed? first with
        | some delimiter, _ => ([.opening delimiter], 0)
        | none, some delimiter => ([.closing delimiter], 0)
        | none, none =>
            let (lexeme, length) := leaf (first :: rest)
            ([lexeme], length - 1)

/-- All lexemes of a text. -/
def scan : List Char → List Lexeme
  | [] => []
  | first :: rest => (next first rest).1 ++ scan (rest.drop (next first rest).2)
termination_by text => text.length
decreasing_by
  simp only [List.length_drop, List.length_cons]; omega

/-- Token trees from lexemes. The groups that are still open stand on a stack with the
tokens before them, all in reverse; an end without a matching start closes nothing. -/
def trees : List Lexeme → List Token → List (Delimiter × List Token) → List Token
  | [], current, [] => current.reverse
  | [], current, (delimiter, outer) :: stack =>
      trees [] (.group delimiter current.reverse :: outer) stack
  | .token single :: rest, current, stack => trees rest (single :: current) stack
  | .opening delimiter :: rest, current, stack => trees rest [] ((delimiter, current) :: stack)
  | .closing _ :: rest, current, (delimiter, outer) :: stack =>
      trees rest (.group delimiter current.reverse :: outer) stack
  | .closing _ :: rest, current, [] => trees rest current []
termination_by lexemes _ stack => (lexemes.length, stack.length)

end Lexeme

/-- The tokens of a text. -/
def Token.read (text : String) : List Token :=
  Lexeme.trees (Lexeme.scan text.toList) [] []

end Declaration
end EventRelay
