import EventRelay.Declaration.Grammar.Path

/-!
# The grammar of types

A type is recognised by its first token: a group, a mark, a lifetime or a word. A path is
the type that it names unless a macro call or further bounds follow it. The arguments of a
type are types, lifetimes, constants, and what is said of members.
-/

namespace EventRelay
namespace Declaration
namespace Grammar

open Reading
open Token hiding word mark literal lifetime group

variable (grammar : Grammar)

/-- The foreign convention of a function, if one is told. -/
def convention : Reading (List Token) :=
  where? (startsWord "extern") do
    return (← word "extern") ++ (← where? startsLiteral literal)

/-! ## Function types -/

/-- Any number of further parameters. -/
def variadic : Reading (List Token) := do
  return (← sign "...") ++ (← maybe (sign ","))

/-- A name with a colon stands here. -/
def startsNamed (tokens : List Token) : Bool :=
  (startsName tokens || startsWord "_" tokens || startsWord "self" tokens) &&
    behind 1 (startsSign ":") tokens && !behind 1 (startsSign "::") tokens

/-- A writable object stands here. -/
def startsWritableSelf (tokens : List Token) : Bool :=
  startsWord "mut" tokens && behind 1 (startsWord "self") tokens

/-- The type of a parameter with the name in front, if it has one; a writable object is kept
as it is written. -/
def typeParam : Reading (List Token) := do
  if ← sees startsWritableSelf then
    asWritten do
      let _ ← word "mut"
      let _ ← word "self"
      where? (startsSign ":") do return (← sign ":") ++ (← grammar.type true).tokens
  else
    let start ← get
    let name ← where? startsNamed do return (← anyWord) ++ (← sign ":")
    if ← sees startsWritableSelf then
      let _ ← word "mut"
      let _ ← word "self"
      since start
    else return name ++ (← grammar.type true).tokens

/-- The parameters of a function type. -/
def typeParams : Reading (List Token) :=
  rounds do
    if ← sees List.isEmpty then return ([], false)
    let front ← attributes grammar
    let isVariadic ← sees fun tokens =>
      startsSign "..." tokens || startsNamed tokens && behind 2 (startsSign "...") tokens
    if isVariadic then
      let name ← where? startsNamed do return (← anyWord) ++ (← sign ":")
      return (front ++ name ++ (← variadic), false)
    let found := front ++ (← typeParam grammar)
    if ← sees List.isEmpty then return (found, false)
    return (found ++ (← sign ","), true)

/-- A function type. -/
def functionType : Reading (List Token) := do
  let front := (← maybe (word "unsafe")) ++ (← convention) ++ (← word "fn")
  let params ← Reading.group .parenthesis (typeParams grammar)
  return front ++ params ++ (← result grammar false)

/-! ## Forms of types -/

/-- Further bounds, each behind a plus sign. -/
def furtherBounds : Reading (List Token) :=
  repeated (fun tokens => !startsSign "+" tokens) do
    return (← sign "+") ++ (← grammar.bound)

/-- A relaxed bound in parentheses of its own. -/
def isEnclosedRelaxed : List Token → Bool
  | [.group .parenthesis content] => startsSign "?" content
  | _ => false

/-- A type in parentheses. Of two pairs around a relaxed bound only one is kept where further
bounds follow. -/
def enclosedType (allowsPlus : Bool) : Reading (List Token) := do
  let content ← inside .parenthesis do
    let tokens ← get
    set ([] : List Token)
    return tokens
  if startsSign "?" content then
    let (found, left) ← (grammar.bound).run content
    if left.isEmpty then return [.group .parenthesis found] ++ (← furtherBounds grammar)
    else failure
  else
    let (found, left) ← (commaList do return (← grammar.type true).tokens).run content
    if !left.isEmpty then failure
    let more ← if allowsPlus && !content.isEmpty then furtherBounds grammar else pure []
    if !more.isEmpty && isEnclosedRelaxed found then return found ++ more
    else return [.group .parenthesis found] ++ more

/-- A type in brackets: a slice, or an array with its size. -/
def bracketType : Reading (List Token) :=
  Reading.group .bracket do
    let element ← grammar.type true
    let size ← where? (startsSign ";") do
      return (← sign ";") ++ (← grammar.expression true).tokens
    return element.tokens ++ size

/-- A pointer type. -/
def pointerType : Reading (List Token) := do
  return (← sign "*") ++ (← word "const" <|> word "mut") ++ (← grammar.type false).tokens

/-- A reference type. -/
def referenceType : Reading DeclaredType := do
  let _ ← sign "&"
  let lifetime? := match ← where? startsLifetime lifetime with
    | [.lifetime text] => some text
    | _ => none
  let isWritable := !(← maybe (word "mut")).isEmpty
  return .reference lifetime? isWritable (← grammar.type false)

/-- A type that is known by its bounds only; with a star behind the word it is kept as it is
written. -/
def dynamicType (allowsPlus : Bool) : Reading (List Token) := do
  if ← sees (behind 1 (startsSign "*")) then
    asWritten do return (← word "dyn") ++ (← sign "*") ++ (← bounds grammar allowsPlus)
  else return (← word "dyn") ++ (← bounds grammar allowsPlus)

/-- A plus sign and a bound stand here. -/
def startsFurtherBound (tokens : List Token) : Bool :=
  startsSign "+" tokens &&
    behind 1 (fun rest => startsBound rest && !startsGroup .bracket rest) tokens

/-- A type behind a path that leads into no type: the path, a macro call, or bounds. -/
def typeAfterPath (allowsPlus : Bool) (outer : List Token) (found : PathText) :
    Reading DeclaredType := do
  let tokens ← withFunctionArguments grammar found
  let isCall := found.isPlain && tokens.length = found.tokens.length
  if isCall && (← sees (startsSign "!")) && !(← sees (startsSign "!=")) then
    return .other (tokens ++ (← sign "!") ++ (← anyGroup))
  else
    let more ← if allowsPlus then
        rounds do
          if ← sees startsFurtherBound then return ((← sign "+") ++ (← grammar.bound), true)
          else return (← maybe (sign "+"), false)
      else pure []
    return if outer.isEmpty && more.isEmpty then .path tokens found.last
      else .other (outer ++ tokens ++ more)

/-- A type that starts with a path. -/
def pathType (allowsPlus : Bool) (outer : List Token) : Reading DeclaredType := do
  if ← sees (startsSign "<") then
    let found ← anyPath grammar false
    return .path (← withFunctionArguments grammar found) found.last
  else typeAfterPath grammar allowsPlus outer (← path grammar false)

/-- A function type starts here. -/
def startsFunctionType (tokens : List Token) : Bool :=
  startsWord "fn" tokens || startsWord "unsafe" tokens || startsWord "extern" tokens

/-- A type. -/
def typeRule (allowsPlus : Bool) : Reading DeclaredType := do
  if ← sees (startsWord "for") then
    let outer ← binder grammar
    if ← sees startsFunctionType then return .other (outer ++ (← functionType grammar))
    else pathType grammar allowsPlus outer
  else if ← sees (startsGroup .parenthesis) then
    return .other (← enclosedType grammar allowsPlus)
  else if ← sees startsFunctionType then return .other (← functionType grammar)
  else if ← sees (startsWord "dyn") then return .other (← dynamicType grammar allowsPlus)
  else if ← sees (startsWord "impl") then
    return .other ((← word "impl") ++ (← bounds grammar allowsPlus))
  else if ← sees (startsWord "_") then return .other (← word "_")
  else if ← sees (startsGroup .bracket) then return .other (← bracketType grammar)
  else if ← sees (startsSign "*") then return .other (← pointerType grammar)
  else if ← sees (startsSign "&") then referenceType grammar
  else if ← sees (startsSign "!") then return .other (← sign "!")
  else if ← sees startsLifetime then return .other (← bounds grammar true)
  else pathType grammar allowsPlus []

/-! ## Arguments -/

/-- What an argument says of a member behind the name: what the member is, or bounds on it. -/
def memberRest : Reading (List Token) := do
  if ← sees (startsSign "=") then
    let equals ← sign "="
    let isConstant ← sees fun tokens => startsValue tokens || startsGroup .brace tokens
    let value ← if isConstant then constant grammar
      else DeclaredType.tokens <$> grammar.type true
    return equals ++ value
  else
    return (← sign ":") ++ (← boundsUntil grammar fun tokens =>
      startsSign "," tokens || startsSign ">" tokens)

/-- An argument says something of a member here. -/
def startsMemberRest (tokens : List Token) : Bool :=
  startsSign "=" tokens || startsSign ":" tokens && !startsSign "::" tokens

/-- An argument of a type that is neither a lifetime nor a constant. -/
def plainArgument : Reading (List Token) := do
  if ← sees startsPathWord then
    let found ← path grammar false
    if found.isSingle && (← sees startsMemberRest) then
      return found.tokens ++ (← memberRest grammar)
    else return (← typeAfterPath grammar true [] found).tokens
  else return (← grammar.type true).tokens

/-- One argument of a type, as if no comma followed it. -/
def typeArgument : Reading TypeArgument := do
  if (← sees startsLifetime) && !(← sees (behind 1 (startsSign "+"))) then
    return ⟨true, ← lifetime, false⟩
  else if ← sees fun tokens => startsValue tokens || startsGroup .brace tokens then
    return ⟨false, ← constant grammar, false⟩
  else return ⟨false, ← plainArgument grammar, false⟩

/-- The arguments of a type between angle brackets. -/
def typeArguments : Reading (List TypeArgument) := do
  let _ ← sign "<"
  let found ← Reading.listed (startsSign ">") (typeArgument grammar)
  let _ ← sign ">"
  return found.map fun (argument, hasComma) => { argument with hasComma := hasComma }

end Grammar
end Declaration
end EventRelay
