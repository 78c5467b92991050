import EventRelay.Declaration.Grammar

/-!
# Paths, parameters and bounds

Generic parameters lose a colon without bounds, and an empty list of conditions is dropped.
-/

namespace EventRelay
namespace Declaration
namespace Grammar

open Reading
open Token hiding word mark literal lifetime group

variable (grammar : Grammar)

/-! ## Blocks and attributes -/

/-- What stands between the brackets of an attribute. -/
def attributeContent : Reading Attribute := do
  let name ← word "unsafe" <|> do
    let root ← maybe (sign "::")
    let first ← anyWord
    let more ← repeated (fun tokens => !startsSign "::" tokens) do
      return (← sign "::") ++ (← anyWord)
    return root ++ first ++ more
  match ← get with
  | .group delimiter content :: rest =>
      set rest
      return ⟨name, .list delimiter content⟩
  | tokens =>
      if startsSign "=" tokens then
        let _ ← sign "="
        return ⟨name, .value (← grammar.expression true).tokens⟩
      else return ⟨name, .none⟩

/-- The attributes in front of something. -/
def outerAttributes : Reading (List Attribute) :=
  repeated (fun tokens => !startsSign "#" tokens) do
    let _ ← sign "#"
    return [← inside .bracket (attributeContent grammar)]

/-- The tokens of the attributes in front of something. -/
def attributes : Reading (List Token) := do
  return (← outerAttributes grammar).flatMap Attribute.tokens

/-- The attributes inside of something, at its start. -/
def innerAttributes : Reading (List Token) :=
  repeated (fun tokens => !(startsSign "#" tokens && behind 1 (startsSign "!") tokens)) do
    let marks := (← sign "#") ++ (← sign "!")
    let tag ← inside .bracket (attributeContent grammar)
    return marks ++ [.group .bracket tag.content]

/-- A block of statements, which may start with attributes. -/
def block : Reading (List Token) :=
  Reading.group .brace do return (← innerAttributes grammar) ++ (← grammar.statements)

/-! ## Bounds -/

/-- A bound can start here. -/
def startsBound (tokens : List Token) : Bool :=
  startsAnyWord tokens || startsSign "::" tokens || startsSign "?" tokens ||
    startsLifetime tokens || startsGroup .parenthesis tokens || startsGroup .bracket tokens

/-- Bounds between plus signs up to where the tokens pass a test. -/
def boundsUntil (stops : List Token → Bool) : Reading (List Token) :=
  rounds do
    if ← sees stops then return ([], false)
    let found ← grammar.bound
    if ← sees (startsSign "+") then return (found ++ (← sign "+"), true)
    return (found, false)

/-- One bound and, where plus signs are allowed, those that follow it; the last sign may have
none behind it. -/
def bounds (allowsPlus : Bool) : Reading (List Token) :=
  rounds do
    let found ← grammar.bound
    if allowsPlus && (← sees (startsSign "+")) then
      return (found ++ (← sign "+"), ← sees startsBound)
    return (found, false)

/-! ## Generic parameters -/

/-- A constant that can stand for a type. -/
def constant : Reading (List Token) := do
  if ← sees (startsGroup .brace) then block grammar
  else literal <|> word "true" <|> word "false" <|> name

/-- What ends the bounds of a parameter. -/
def endsParam (tokens : List Token) : Bool :=
  tokens.isEmpty || startsSign "," tokens || startsSign ">" tokens || startsSign "=" tokens

/-- Bounds behind a colon; without bounds the colon is dropped. -/
def boundsAfterColon (stops : List Token → Bool) : Reading (List Token) :=
  where? (startsSign ":") do
    let colon ← sign ":"
    let found ← boundsUntil grammar stops
    return if found.isEmpty then [] else colon ++ found

/-- One generic parameter, as if no comma followed it. -/
def genericParam : Reading GenericParam := do
  let front ← attributes grammar
  if ← sees startsLifetime then
    let own := (← lifetime) ++ (← boundsAfterColon grammar endsParam)
    return ⟨true, front ++ own, [], false⟩
  else if ← sees (startsWord "const") then
    let own := (← word "const") ++ (← name) ++ (← sign ":") ++ (← grammar.type true).tokens
    let value ← where? (startsSign "=") do return (← sign "=") ++ (← constant grammar)
    return ⟨false, front ++ own, value, false⟩
  else
    let own := (← name <|> word "_") ++ (← boundsAfterColon grammar endsParam)
    let value ← where? (startsSign "=") do
      return (← sign "=") ++ (← grammar.type true).tokens
    return ⟨false, front ++ own, value, false⟩

/-- Generic parameters stand here and no path into a type. -/
def startsGenerics (tokens : List Token) : Bool :=
  let second := tokens.drop 1
  let third := tokens.drop 2
  startsSign "<" tokens &&
    (startsSign ">" second || startsSign "#" second || startsWord "const" second ||
      (startsLifetime second || startsName second) &&
        (startsSign ">" third || startsSign "," third || startsSign "=" third ||
          startsSign ":" third && !startsSign "::" third))

/-- Generic parameters between angle brackets. -/
def genericParams : Reading (List GenericParam) := do
  let _ ← sign "<"
  let found ← Reading.listed (startsSign ">") (genericParam grammar)
  let _ ← sign ">"
  return found.map fun (param, hasComma) => { param with hasComma := hasComma }

/-- The generic parameters of an item, if it has any. -/
def generics : Reading (List GenericParam) := do
  if ← sees (startsSign "<") then genericParams grammar else return []

/-- The generic parameters of an item as tokens. -/
def genericTokens : Reading (List Token) := do
  return GenericParam.listed true (← generics grammar)

/-- Parameters for which a bound or a function type holds. -/
def binder : Reading (List Token) := do
  return (← word "for") ++ GenericParam.bound (← genericParams grammar)

/-! ## Captured parameters -/

/-- The parameters that a bound takes in: lifetimes first. -/
def capture : Reading (List Token) := do
  let keyword ← word "use"
  let _ ← sign "<"
  let found ← Reading.listed (startsSign ">") do
    if ← sees startsLifetime then return (true, ← lifetime)
    else return (false, ← name <|> word "Self")
  let _ ← sign ">"
  return keyword ++ TypeArgument.listed
    (found.map fun ((isLifetime, tokens), hasComma) => ⟨isLifetime, tokens, hasComma⟩)

/-! ## Paths -/

/-- Words that are whole segments. -/
def bareSegments : List String := ["super", "self", "crate", "try"]

/-- Words that are no names and that a path can start with. -/
def pathWords : List String := ["super", "self", "Self", "crate"]

/-- A word of a path stands here. -/
def startsPathWord (tokens : List Token) : Bool :=
  startsName tokens || pathWords.any fun text => startsWord text tokens

/-- Arguments between angle brackets stand here; in an expression they need a separator. -/
def startsArguments (inExpression : Bool) (tokens : List Token) : Bool :=
  !inExpression && startsSign "<" tokens && !startsSign "<=" tokens &&
      !startsSign "<<=" tokens ||
    startsSign "::" tokens && behind 2 (startsSign "<") tokens

/-- A segment of a path. -/
def segment (inExpression : Bool) : Reading PathText := do
  match ← get with
  | .word text :: rest =>
      if bareSegments.contains text then
        set rest
        return .ofWord text
      else if text ≠ "Self" && keywords.contains text then failure
      else
        set rest
        if ← sees (startsArguments inExpression) then
          let separator ← maybe (sign "::")
          let arguments ← grammar.arguments
          return ⟨[.word text], separator ++ TypeArgument.listed arguments, !arguments.isEmpty,
            text, false⟩
        else return .ofWord text
  | _ => failure

/-- The path goes on with a segment that has no parentheses. -/
def continuesPath (tokens : List Token) : Bool :=
  startsSign "::" tokens && !behind 2 (startsGroup .parenthesis) tokens

/-- The further segments of a path, up to a number. -/
def segmentsUpTo (inExpression : Bool) : Nat → PathText → Reading PathText
  | 0, path => return path
  | limit + 1, path => do
      if ← sees continuesPath then
        let separator ← sign "::"
        let next ← segment grammar inExpression
        segmentsUpTo inExpression limit (path.append separator next)
      else return path

/-- A path that leads into no type. -/
def path (inExpression : Bool) : Reading PathText := do
  let root ← maybe (sign "::")
  let first ← segment grammar inExpression
  segmentsUpTo grammar inExpression (← get).length (first.after root)

/-- A path of plain words. -/
def plainPath : Reading (List Token) := do
  let root ← maybe (sign "::")
  let first ← one startsPathWord
  let more ← repeated (fun tokens => !startsSign "::" tokens) do
    return (← sign "::") ++ (← one startsPathWord)
  return root ++ first ++ more

/-- A path, which may lead into a type. -/
def anyPath (inExpression : Bool) : Reading PathText := do
  if ← sees (startsSign "<") then
    let opening ← sign "<"
    let self ← grammar.type true
    let interface ← where? (startsWord "as") do
      return (← word "as") ++ (← grammar.type false).tokens
    let front := opening ++ self.tokens ++ interface ++ (← sign ">") ++ (← sign "::")
    let first ← segment grammar inExpression
    let whole ← segmentsUpTo grammar inExpression (← get).length first
    return { whole.after front with isPlain := false }
  else path grammar inExpression

/-- The parameters and the result of a function stand here in parentheses. -/
def startsFunctionArguments (tokens : List Token) : Bool :=
  startsGroup .parenthesis tokens ||
    startsSign "::" tokens && behind 2 (startsGroup .parenthesis) tokens

/-- The result of a function, if it has one. -/
def result (allowsPlus : Bool) : Reading (List Token) :=
  where? (startsSign "->") do
    return (← sign "->") ++ (← grammar.type allowsPlus).tokens

/-- A path whose last segment may have the parameters and the result of a function in place
of arguments. -/
def withFunctionArguments (found : PathText) : Reading (List Token) := do
  if !found.hasArguments && (← sees startsFunctionArguments) then
    let _ ← maybe (sign "::")
    let params ← Reading.group .parenthesis
      (commaList do return (← grammar.type true).tokens)
    return found.front ++ params ++ (← result grammar false)
  else return found.tokens

/-- A bound that is a path, or nothing if it has to stay as it is written. -/
def interfaceBound : Reading (Option (List Token)) := do
  let outer ← where? (startsWord "for") (binder grammar)
  let isConstant ← sees fun tokens => startsGroup .bracket tokens || startsWord "const" tokens
  if ← sees (startsGroup .bracket) then let _ ← inside .bracket (word "const")
  else let _ ← maybe (word "const")
  let modifier ← maybe (sign "?")
  let inner ← where? (startsWord "for") (binder grammar)
  let found ← withFunctionArguments grammar (← path grammar false)
  return if isConstant then none else some (modifier ++ outer ++ inner ++ found)

/-- A bound. -/
def boundRule : Reading (List Token) := do
  if ← sees startsLifetime then lifetime
  else if ← sees (startsWord "use") then capture
  else
    let start ← get
    let isEnclosed ← sees (startsGroup .parenthesis)
    let found ← if isEnclosed then inside .parenthesis (interfaceBound grammar)
      else interfaceBound grammar
    match found with
    | none => since start
    | some tokens => return if isEnclosed then [.group .parenthesis tokens] else tokens

/-! ## Conditions -/

/-- What ends a list of conditions. -/
def endsConditions (tokens : List Token) : Bool :=
  tokens.isEmpty || startsGroup .brace tokens || startsSign "," tokens ||
    startsSign ";" tokens || startsSign ":" tokens && !startsSign "::" tokens ||
    startsSign "=" tokens

/-- One condition on parameters. -/
def condition : Reading (List Token) := do
  if (← sees startsLifetime) && (← sees (behind 1 (startsSign ":"))) then
    return (← lifetime) ++ (← sign ":") ++ (← boundsUntil grammar endsConditions)
  else
    let outer ← where? (startsWord "for") (binder grammar)
    let subject ← grammar.type true
    return outer ++ subject.tokens ++ (← sign ":") ++ (← boundsUntil grammar endsConditions)

/-- Conditions on parameters; an empty list of them is dropped. -/
def conditions : Reading (List Token) :=
  where? (startsWord "where") do
    let keyword ← word "where"
    let found ← rounds do
      if ← sees endsConditions then return ([], false)
      let first ← condition grammar
      if ← sees (startsSign ",") then return (first ++ (← sign ","), true)
      return (first, false)
    return if found.isEmpty then [] else keyword ++ found

end Grammar
end Declaration
end EventRelay
