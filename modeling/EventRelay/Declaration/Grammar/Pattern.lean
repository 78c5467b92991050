import EventRelay.Declaration.Grammar.Path

/-!
# The grammar of patterns

Patterns look like expressions. The old sign for a closed range is replaced by the present
one, and positions of fields are written as plain decimal numbers.
-/

namespace EventRelay
namespace Declaration
namespace Grammar

open Reading
open Token hiding word mark literal lifetime group

variable (grammar : Grammar)

/-! ## Members -/

/-- The value of a digit in bases up to sixteen. -/
def digitValue (character : Char) : Nat :=
  if character.isDigit then character.toNat - '0'.toNat
  else character.toLower.toNat - 'a'.toNat + 10

/-- The number that digits write in some base. -/
def numberIn (base : Nat) (digits : List Char) : Nat :=
  digits.foldl (fun value digit => value * base + digitValue digit) 0

/-- The decimal form of a whole number. -/
def decimal (text : String) : String :=
  let value := match text.toList.filter fun character => character ≠ '_' with
    | '0' :: 'x' :: digits => numberIn 16 digits
    | '0' :: 'o' :: digits => numberIn 8 digits
    | '0' :: 'b' :: digits => numberIn 2 digits
    | digits => numberIn 10 digits
  toString value

/-- The position of a field. -/
def position : Reading (List Token) := fun tokens =>
  match tokens with
  | .literal text :: rest => some ([.literal (decimal text)], rest)
  | _ => none

/-- The name or the position of a field. -/
def member : Reading (List Token) := name <|> position

/-! ## Patterns between delimiters -/

/-- Another alternative follows. -/
def startsAlternative (tokens : List Token) : Bool :=
  startsSign "|" tokens && !startsSign "||" tokens && !startsSign "|=" tokens

/-- Alternatives, which may have a bar in front. -/
def alternatives : Reading (List Token) := do
  let front ← maybe (sign "|")
  let first ← grammar.pattern
  let more ← repeated (fun tokens => !startsAlternative tokens) do
    return (← sign "|") ++ (← grammar.pattern)
  return front ++ first ++ more

/-- Patterns between commas. -/
def patternList : Reading (List Token) := commaList (alternatives grammar)

/-- The pattern of one field. -/
def fieldPattern : Reading (List Token) := do
  let front ← attributes grammar
  if ← sees (startsSign "..") then return front ++ (← sign "..")
  else if ← sees (startsWord "box") then
    let found ← asWritten do
      let _ ← word "box"
      let _ ← maybe (word "ref")
      let _ ← maybe (word "mut")
      name
    return front ++ found
  else
    let mode := (← maybe (word "ref")) ++ (← maybe (word "mut"))
    if mode.isEmpty then
      let field ← member
      let found ← where? (startsSign ":") do return (← sign ":") ++ (← alternatives grammar)
      return front ++ field ++ found
    else return front ++ mode ++ (← name)

/-! ## Ranges -/

/-- Nothing that could end a range stands here. -/
def lacksBound (tokens : List Token) : Bool :=
  tokens.isEmpty || startsSign "|" tokens || startsSign "=" tokens ||
    startsSign ":" tokens && !startsSign "::" tokens || startsSign "," tokens ||
    startsSign ";" tokens || startsWord "if" tokens || startsWord "in" tokens

/-- A constant block. -/
def constantBlock : Reading (List Token) := do return (← word "const") ++ (← block grammar)

/-- An end of a range. -/
def rangeBound : Reading (List Token) := do
  if ← sees lacksBound then return []
  else if ← sees startsValue then literal <|> word "true" <|> word "false"
  else if ← sees (startsWord "const") then constantBlock grammar
  else return (← anyPath grammar true).tokens

/-- The sign of a range and its end behind a start. -/
def rangeRest : Reading (List Token) := do
  let limits ← sign "..=" <|> (do let _ ← sign "..."; return Token.sign ['.', '.', '=']) <|>
    sign ".."
  return limits ++ (← rangeBound grammar)

/-! ## Single patterns -/

/-- A pattern that starts with a path. -/
def pathPattern : Reading (List Token) := do
  let found ← anyPath grammar true
  if found.isPlain && (← sees (startsSign "!")) && !(← sees (startsSign "!=")) then
    return found.tokens ++ (← sign "!") ++ (← anyGroup)
  else if ← sees (startsGroup .brace) then
    return found.tokens ++ (← Reading.group .brace (commaList (fieldPattern grammar)))
  else if ← sees (startsGroup .parenthesis) then
    return found.tokens ++ (← Reading.group .parenthesis (patternList grammar))
  else if ← sees (startsSign "..") then return found.tokens ++ (← rangeRest grammar)
  else return found.tokens

/-- A name that takes in a value, which may have to match a pattern as well. -/
def bindingPattern : Reading (List Token) := do
  let mode := (← maybe (word "ref")) ++ (← maybe (word "mut"))
  let own ← name <|> word "self"
  let more ← where? (startsSign "@") do return (← sign "@") ++ (← grammar.pattern)
  return mode ++ own ++ more

/-- More than a name starts here. -/
def startsPathPattern (tokens : List Token) : Bool :=
  startsName tokens && behind 1 (fun rest =>
      startsSign "::" rest || startsSign "!" rest || startsGroup .brace rest ||
        startsGroup .parenthesis rest || startsSign ".." rest) tokens ||
    startsWord "self" tokens && behind 1 (startsSign "::") tokens ||
    startsSign "::" tokens || startsSign "<" tokens || startsWord "Self" tokens ||
    startsWord "super" tokens || startsWord "crate" tokens

/-- A pattern without alternatives. -/
def patternRule : Reading (List Token) := do
  if ← sees startsPathPattern then pathPattern grammar
  else if ← sees (startsWord "_") then word "_"
  else if ← sees (startsWord "box") then
    asWritten do return (← word "box") ++ (← grammar.pattern)
  else if ← sees fun tokens => startsValue tokens || startsWord "const" tokens then
    let start ← rangeBound grammar
    return start ++ (← where? (startsSign "..") (rangeRest grammar))
  else if ← sees (startsSign "&") then
    return (← sign "&") ++ (← maybe (word "mut")) ++ (← grammar.pattern)
  else if ← sees (startsGroup .parenthesis) then
    Reading.group .parenthesis (patternList grammar)
  else if ← sees (startsGroup .bracket) then Reading.group .bracket (patternList grammar)
  else if ← sees (startsSign "..") then rangeRest grammar
  else bindingPattern grammar

end Grammar
end Declaration
end EventRelay
