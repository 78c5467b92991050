import EventRelay.Declaration.Grammar.Item

/-!
# The grammar of members

Members stand in interfaces, in blocks of methods and in blocks of foreign names. Of the
members of a block of methods it is kept what is declared by them.
-/

namespace EventRelay
namespace Declaration
namespace Grammar

open Reading
open Token hiding word mark literal lifetime group

variable (grammar : Grammar)

/-- The regular form of something, or how it is written from a point on. -/
def regularOr (start : List Token) : Option (List Token) → Reading (List Token)
  | some tokens => return tokens
  | none => since start

/-- The word that lets a member be replaced, unless it is the name of a macro. -/
def replaceable : Reading (List Token) :=
  where? (fun tokens => startsWord "default" tokens && !behind 1 (startsSign "!") tokens)
    (word "default")

/-! ## Interfaces -/

/-- A member of an interface. -/
def interfaceMember : Reading (List Token) := do
  let start ← get
  let front ← attributes grammar
  let modes := (← visibility) ++ (← replaceable)
  let found ← if ← sees startsSignature then
      let (tokens, _) ← signature grammar
      let body ← sign ";" <|> block grammar
      pure (some (tokens ++ body))
    else if ← sees (startsWord "const") then Prod.fst <$> constantItem grammar false
    else if ← sees (startsWord "type") then
      let found ← typeName grammar false
      pure (some (found.front ++ found.bounds ++ found.definition ++ found.conditions ++
        found.closing))
    else some <$> macroItem
  regularOr start (if modes.isEmpty then found.map (front ++ ·) else none)

/-- An interface behind its visibility, or another name for bounds. -/
def interfaceItem : Reading (List Token) := do
  let front := (← maybe (word "unsafe")) ++ (← maybe (word "auto")) ++ (← word "trait") ++
    (← name) ++ (← genericTokens grammar)
  if ← sees (startsSign "=") then
    let limits := (← sign "=") ++ (← boundsUntil grammar fun tokens =>
      startsWord "where" tokens || startsSign ";" tokens)
    return front ++ limits ++ (← conditions grammar) ++ (← sign ";")
  else
    let parents ← boundsAfterColon grammar fun tokens =>
      startsWord "where" tokens || startsGroup .brace tokens
    let limits ← conditions grammar
    let body ← Reading.group .brace do
      return (← innerAttributes grammar) ++ (← repeated List.isEmpty (interfaceMember grammar))
    return front ++ parents ++ limits ++ body

/-! ## Blocks of methods -/

/-- A member of a block of methods, and what it declares. -/
def methodMember : Reading (List Token × Item) := do
  let start ← get
  let tags ← outerAttributes grammar
  let modes := (← visibility) ++ (← replaceable)
  let front := tags.flatMap Attribute.tokens ++ modes
  if ← sees startsSignature then
    let (tokens, declared) ← signature grammar
    let isOpen ← sees (startsSign ";")
    let body ← sign ";" <|> block grammar
    if isOpen then return (← since start, .other declared.name tags)
    else return (front ++ tokens ++ body, .function { declared with attributes := tags })
  else if ← sees (startsWord "const") then
    let (found, name) ← constantItem grammar true
    return (← regularOr start (found.map (front ++ ·)), .other name tags)
  else if ← sees (startsWord "type") then
    let found ← typeName grammar false
    let isRegular := !found.hasColon && !found.definition.isEmpty
    let regular := front ++ found.front ++ found.definition ++ found.conditions ++ found.closing
    return (← regularOr start (if isRegular then some regular else none),
      .other found.name tags)
  else
    let tokens ← macroItem
    return (front ++ tokens, .other "" tags)

/-- A block of methods that was read. -/
structure ReadMethods where
  /-- What stands in front of the generic parameters. -/
  front : List Token
  generics : List GenericParam
  /-- The interface whose methods these are, with the word behind it. -/
  interface : List Token
  /-- The type whose methods these are. -/
  self : DeclaredType
  conditions : List Token
  /-- The attributes inside of it. -/
  inner : List Token
  members : List (List Token × Item)
  /-- It has a regular form. -/
  isRegular : Bool

/-- A path that leads into no type. -/
def isInterface : DeclaredType → Bool
  | .path tokens _ => !startsSign "<" tokens
  | _ => false

/-- A block of methods behind its attributes. -/
def methods : Reading ReadMethods := do
  let visible ← visibility
  let front := (← maybe (word "default")) ++ (← maybe (word "unsafe")) ++ (← word "impl")
  let generics ← if ← sees startsGenerics then genericParams grammar else pure []
  let constancy := (← where? (fun tokens => behind 1 (startsWord "const") tokens)
    (maybe (sign "?"))) ++ (← maybe (word "const"))
  let start ← get
  let polarity ← where?
    (fun tokens => startsSign "!" tokens && !behind 1 (startsGroup .brace) tokens) (sign "!")
  let first ← grammar.type true
  let isFor ← sees (startsWord "for")
  let interface ← where? (startsWord "for") do
    return polarity ++ first.tokens ++ (← word "for")
  let self ← if isFor then grammar.type true
    else if polarity.isEmpty then pure first
    else DeclaredType.other <$> since start
  let limits ← conditions grammar
  let (inner, members) ← inside .brace do
    let inner ← innerAttributes grammar
    return (inner, ← repeated List.isEmpty do return [← methodMember grammar])
  return ⟨front, generics, interface, self, limits, inner, members,
    visible.isEmpty && constancy.isEmpty && (!isFor || isInterface first)⟩

/-- The tokens of a block of methods. -/
def ReadMethods.tokens (found : ReadMethods) : List Token :=
  found.front ++ GenericParam.listed true found.generics ++ found.interface ++
    found.self.tokens ++ found.conditions ++
    [.group .brace (found.inner ++ found.members.flatMap Prod.fst)]

/-! ## Blocks of foreign names -/

/-- A member of a block of foreign names. -/
def foreignMember : Reading (List Token) := do
  let start ← get
  let front := (← attributes grammar) ++ (← visibility)
  let isSafe ← sees fun tokens =>
    let rest := behindWord "async" (behindWord "const" tokens)
    startsWord "safe" rest && behind 1 (startsOneOf ["static", "fn", "extern"]) rest
  let _ ← where? (fun _ => isSafe) do
    return (← maybe (word "const")) ++ (← maybe (word "async")) ++ (← word "safe")
  let isUnsafe ← sees fun tokens =>
    startsWord "unsafe" tokens && behind 1 (startsWord "static") tokens
  let _ ← where? (fun _ => isUnsafe) (word "unsafe")
  let found ← if ← sees startsSignature then
      let (tokens, _) ← signature grammar
      let hasBody ← sees (startsGroup .brace)
      let body ← sign ";" <|> block grammar
      pure (if hasBody then none else some (tokens ++ body))
    else if ← sees (startsWord "static") then
      let own := (← word "static") ++ (← maybe (word "mut")) ++ (← name) ++ (← sign ":") ++
        (← grammar.type true).tokens
      let bound ← where? (startsSign "=") do return (← sign "=") ++ (← value grammar)
      let closing ← sign ";"
      pure (if bound.isEmpty then some (own ++ closing) else none)
    else if ← sees (startsWord "type") then
      let found ← typeName grammar true
      let isRegular := !found.hasColon && found.definition.isEmpty
      pure (if isRegular then some (found.front ++ found.conditions ++ found.closing) else none)
    else some <$> macroItem
  regularOr start (if isSafe || isUnsafe then none else found.map (front ++ ·))

/-- A block of foreign names. -/
def foreignItem : Reading (List Token) := do
  let front := (← maybe (word "unsafe")) ++ (← convention)
  let body ← Reading.group .brace do
    return (← innerAttributes grammar) ++ (← repeated List.isEmpty (foreignMember grammar))
  return front ++ body

/-! ## Items -/

/-- An item behind its attributes. -/
def itemAfter : Reading (List Token) := do
  let start ← get
  grammar.item start (← attributes grammar)

/-- A module: its items, or a semicolon. -/
def moduleItem : Reading (List Token) := do
  let front := (← maybe (word "unsafe")) ++ (← word "mod") ++ (← name <|> word "try")
  let body ← sign ";" <|> Reading.group .brace do
    return (← innerAttributes grammar) ++ (← repeated List.isEmpty (itemAfter grammar))
  return front ++ body

/-- A foreign library that is taken in. -/
def libraryItem : Reading (List Token) := do
  let front := (← word "extern") ++ (← word "crate") ++ (← anyWord)
  let newName ← where? (startsWord "as") do return (← word "as") ++ (← anyWord)
  return front ++ newName ++ (← sign ";")

/-- The regular form of an item behind its visibility, if it has one. -/
def regularItem : Reading (Option (List Token)) := do
  let tokens ← get
  let second := tokens.drop 1
  if startsSignature tokens then
    let (found, _) ← signature grammar
    if ← sees (startsSign ";") then
      let _ ← sign ";"
      return none
    else return some (found ++ (← block grammar))
  else if startsWord "extern" tokens && startsWord "crate" second then some <$> libraryItem
  else if startsWord "extern" tokens ||
      startsWord "unsafe" tokens && startsWord "extern" second then some <$> foreignItem grammar
  else if startsWord "use" tokens then importItem grammar
  else if startsWord "static" tokens then staticItem grammar
  else if startsWord "const" tokens then Prod.fst <$> constantItem grammar true
  else if startsWord "mod" tokens ||
      startsWord "unsafe" tokens && startsWord "mod" second then some <$> moduleItem grammar
  else if startsWord "type" tokens then
    let found ← typeName grammar true
    let isRegular := !found.hasColon && !found.definition.isEmpty
    let regular := found.front ++ found.conditions ++ found.definition ++ found.closing
    return if isRegular then some regular else none
  else if startsOneOf ["struct", "enum"] tokens ||
      startsWord "union" tokens && startsName second then
    return some (← declaredType grammar).tokens
  else if startsOneOf ["trait", "auto"] tokens ||
      startsWord "unsafe" tokens && startsOneOf ["trait", "auto"] second then
    some <$> interfaceItem grammar
  else if startsWord "macro" tokens then
    let _ ← word "macro"
    let _ ← name
    let _ ← where? (startsGroup .parenthesis) anyGroup
    let _ ← anyGroup
    return none
  else some <$> macroItem

/-- A block of methods starts here, in front of its visibility. -/
def startsMethods (tokens : List Token) : Bool :=
  startsWord "impl" tokens ||
    startsWord "unsafe" tokens && behind 1 (startsWord "impl") tokens ||
    startsWord "default" tokens && !behind 1 (startsSign "!") tokens

/-- An item behind its attributes, and where these start. -/
def itemRule (start front : List Token) : Reading (List Token) := do
  let beforeVisibility ← get
  let visible ← visibility
  if ← sees startsMethods then
    set beforeVisibility
    let found ← methods grammar
    regularOr start (if found.isRegular then some (front ++ found.tokens) else none)
  else
    let found ← regularItem grammar
    regularOr start (found.map (front ++ visible ++ ·))

end Grammar
end Declaration
end EventRelay
