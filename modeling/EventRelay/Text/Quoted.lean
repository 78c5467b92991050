import EventRelay.Text.Visible

/-!
# Quoted texts

Structured texts show a string between double quotes. A quote, a backslash and
the four common controls have a short escape; any other character that is
invisible or extends the one before it is written by its code point in
hexadecimal. Everything else stands for itself.
-/

namespace EventRelay
namespace Text
namespace Quoted

/-- The code point of a character as an escape. -/
def codePointEscape (character : Char) : List Char :=
  ['\\', 'u', '\x7b'] ++ Nat.toDigits 16 character.toNat ++ ['\x7d']

/-- A character that is not ASCII is escaped when it cannot be seen on its own. -/
def encodeWide (character : Char) : List Char :=
  if isExtending character || isInvisible character then codePointEscape character
  else [character]

/-- The written form of one character. -/
def encodeChar (character : Char) : List Char :=
  if character = '\x00' then ['\\', '0']
  else if character = '\t' then ['\\', 't']
  else if character = '\n' then ['\\', 'n']
  else if character = '\r' then ['\\', 'r']
  else if character = '\\' then ['\\', '\\']
  else if character = '"' then ['\\', '"']
  else if ' ' ≤ character && character ≤ '~' then [character]
  else encodeWide character

/-- The written form of a text, quotes included. -/
def encode (text : String) : String :=
  String.ofList ('"' :: text.toList.flatMap encodeChar ++ ['"'])

end Quoted
end Text
end EventRelay
