import EventRelay.Declaration.Grammar.Expression

/-!
# The grammar of statements

A block is a list of statements: bindings, items, macro calls and expressions. Attributes in
front of an expression belong to its left-most operand.
-/

namespace EventRelay
namespace Declaration
namespace Grammar

open Reading
open Token hiding word mark literal lifetime group

variable (grammar : Grammar)

/-- Some of some words stands here. -/
def startsOneOf (texts : List String) (tokens : List Token) : Bool :=
  texts.any fun text => startsWord text tokens

/-- An item that is known by its first words starts here. -/
def startsItem (tokens : List Token) : Bool :=
  let second := tokens.drop 1
  let third := tokens.drop 2
  startsOneOf ["pub", "extern", "use", "fn", "mod", "type", "struct", "enum", "trait", "impl",
      "macro"] tokens ||
    startsWord "crate" tokens && !startsSign "::" second ||
    startsWord "static" tokens &&
      (startsWord "mut" second || startsName second &&
        !(startsWord "async" second && (startsWord "move" third || startsSign "|" third))) ||
    startsWord "const" tokens &&
      !(startsGroup .brace second || startsWord "static" second ||
        startsWord "async" second && !startsOneOf ["unsafe", "extern", "fn"] third ||
        startsWord "move" second || startsSign "|" second) ||
    startsWord "unsafe" tokens && !startsGroup .brace second ||
    startsWord "async" tokens && startsOneOf ["unsafe", "extern", "fn"] second ||
    startsWord "union" tokens && startsName second ||
    startsWord "auto" tokens && startsWord "trait" second ||
    startsWord "default" tokens && startsOneOf ["unsafe", "impl"] second

/-- A macro that declares a name is called behind the path. -/
def startsMacroItem (tokens : List Token) : Bool :=
  startsSign "!" tokens &&
    behind 1 (fun rest => startsName rest || startsWord "try" rest) tokens

/-- A macro is called with braces behind the path, and the call is a whole statement. -/
def startsMacroStatement (tokens : List Token) : Bool :=
  let after := tokens.drop 2
  startsSign "!" tokens && behind 1 (startsGroup .brace) tokens &&
    !(startsSign "." after && !startsSign ".." after || startsSign "?" after)

/-- A binding of the names in a pattern. -/
def binding : Reading (List Token) := do
  let front := (← word "let") ++ (← alternatives grammar)
  let type ← where? (startsSign ":") do
    return (← sign ":") ++ (← grammar.type true).tokens
  let bound ← where? (startsSign "=") do return (← sign "=") ++ (← value grammar)
  let otherwise ← where? (startsWord "else") do return (← word "else") ++ (← block grammar)
  return front ++ type ++ bound ++ otherwise ++ (← sign ";")

/-- A statement behind its attributes, and where these start. -/
def statementAfter (start front : List Token) : Reading (List Token) := do
  let tokens ← get
  let behindPath := ((plainPath).run tokens).map Prod.snd
  if behindPath.any startsMacroStatement then
    return front ++ (← plainPath) ++ (← sign "!") ++ (← anyGroup) ++ (← maybe (sign ";"))
  else if startsWord "let" tokens then return front ++ (← binding grammar)
  else if startsItem tokens || behindPath.any startsMacroItem then grammar.item start front
  else
    let found := (← standing grammar).withAttributes front
    return found.tokens ++ (← maybe (sign ";"))

/-- One statement; an empty one is a semicolon. -/
def statement : Reading (List Token) := do
  if ← sees (startsSign ";") then sign ";"
  else
    let start ← get
    statementAfter grammar start (← attributes grammar)

/-- All statements of a block. -/
def statementsRule : Reading (List Token) := repeated List.isEmpty (statement grammar)

end Grammar
end Declaration
end EventRelay
