import EventRelay.Declaration.EventType
import EventRelay.Declaration.Grammar.Statement

/-!
# The grammar of items

Items are functions, types, constants, imports, and blocks of methods. What the grammar
takes but has no regular form for is kept as it is written, attributes included.
-/

namespace EventRelay
namespace Declaration
namespace Grammar

open Reading
open Token hiding word mark literal lifetime group

variable (grammar : Grammar)

/-! ## Visibility -/

/-- What a visibility is limited to. -/
def limit : Reading (List Token) :=
  Reading.group .parenthesis
    (word "crate" <|> word "self" <|> word "super" <|>
      do return (← word "in") ++ (← plainPath))

/-- The visibility of an item. -/
def visibility : Reading (List Token) :=
  where? (startsWord "pub") do return (← word "pub") ++ (← maybe limit)

/-! ## Functions -/

/-- A parameter of a function: its object, a typed one, or any number of further ones. -/
inductive ReadParam
  | receiver (receiver : Receiver)
  | typed (type : DeclaredType)
  | further

/-- The object of a function. -/
def receiver : Reading (List Token × ReadParam) := do
  let borrowed ← where? (startsSign "&") do
    return (← sign "&") ++ (← where? startsLifetime lifetime)
  let mode ← maybe (word "mut")
  let self ← word "self"
  if ← sees (startsSign "::") then failure
  let type ← where? (fun tokens => borrowed.isEmpty && startsSign ":" tokens) do
    return (← sign ":") ++ (← grammar.type true).tokens
  return (borrowed ++ mode ++ self ++ type, .receiver ⟨!borrowed.isEmpty, !mode.isEmpty⟩)

/-- A parameter with a pattern; in front of a bare type with arguments the pattern is put in. -/
def typedParam : Reading (List Token × ReadParam) := do
  if ← sees fun tokens => startsName tokens && behind 1 (startsSign "<") tokens then
    let type ← grammar.type true
    return ([Token.word "_", Token.single ':'] ++ type.tokens, .typed type)
  else
    let front := (← grammar.pattern) ++ (← sign ":")
    if ← sees (startsSign "...") then return (front ++ (← sign "..."), .further)
    let type ← grammar.type true
    return (front ++ type.tokens, .typed type)

/-- A parameter of a function. -/
def param : Reading (List Token × ReadParam) := do
  let front ← attributes grammar
  if ← sees (startsSign "...") then return (front ++ (← sign "..."), .further)
  let (tokens, found) ← receiver grammar <|> typedParam grammar
  return (front ++ tokens, found)

/-- The signature of a function and its tokens. -/
def signature : Reading (List Token × Signature) := do
  let front := (← maybe (word "const")) ++ (← maybe (word "async")) ++
    (← maybe (word "unsafe")) ++ (← convention) ++ (← word "fn")
  let own ← name
  let generics ← genericTokens grammar
  let params ← inside .parenthesis (Reading.listed List.isEmpty (param grammar))
  let output ← result grammar true
  let limits ← conditions grammar
  let listed := params.flatMap fun ((tokens, _), hasComma) =>
    tokens ++ if hasComma then [Token.single ','] else []
  let receivers := params.filterMap fun ((_, found), _) =>
    match found with
    | .receiver receiver => some receiver
    | _ => none
  let types := params.filterMap fun ((_, found), _) =>
    match found with
    | .typed type => some type
    | _ => none
  return (front ++ own ++ generics ++ [.group .parenthesis listed] ++ output ++ limits,
    ⟨Token.compactAll own, receivers.head?, types⟩)

/-- What stands behind a word that may be there. -/
def behindWord (text : String) (tokens : List Token) : List Token :=
  if startsWord text tokens then tokens.drop 1 else tokens

/-- A signature starts here. -/
def startsSignature (tokens : List Token) : Bool :=
  let rest := behindWord "unsafe" (behindWord "async" (behindWord "const" tokens))
  let rest := if startsWord "extern" rest then
      let rest := rest.drop 1
      if startsLiteral rest then rest.drop 1 else rest
    else rest
  startsWord "fn" rest

/-! ## Constants -/

/-- A constant and its name; one with parameters or conditions has no regular form, nor has
one without a value where it needs one. -/
def constantItem (needsValue : Bool) : Reading (Option (List Token) × String) := do
  let front ← word "const"
  let own ← anyWord
  let generics ← if ← sees (startsSign "<") then some <$> genericParams grammar else pure none
  let type := (← sign ":") ++ (← grammar.type true).tokens
  let bound ← where? (startsSign "=") do return (← sign "=") ++ (← value grammar)
  let isConditional ← sees (startsWord "where")
  let _ ← conditions grammar
  let closing ← sign ";"
  let isRegular := generics.isNone && !isConditional && !(needsValue && bound.isEmpty)
  return (if isRegular then some (front ++ own ++ type ++ bound ++ closing) else none,
    Token.compactAll own)

/-- A variable of the whole program; one without a type or a value has no regular form. -/
def staticItem : Reading (Option (List Token)) := do
  let front := (← word "static") ++ (← maybe (word "mut")) ++ (← name)
  let type ← where? (startsSign ":") do
    return (← sign ":") ++ (← grammar.type true).tokens
  let bound ← where? (startsSign "=") do return (← sign "=") ++ (← value grammar)
  let closing ← sign ";"
  return if type.isEmpty || bound.isEmpty then none else some (front ++ type ++ bound ++ closing)

/-! ## Names for types -/

/-- The parts of a name for a type. -/
structure TypeName where
  /-- Its tokens up to the generic parameters. -/
  front : List Token
  name : String
  /-- A colon stands behind the name. -/
  hasColon : Bool
  /-- The colon with the bounds, or nothing without bounds. -/
  bounds : List Token
  /-- The type with the equals sign, or nothing. -/
  definition : List Token
  conditions : List Token
  closing : List Token

/-- A name for a type; its conditions stand before or behind the definition. -/
def typeName (conditionsFirst : Bool) : Reading TypeName := do
  let keyword ← word "type"
  let own ← name
  let generics ← genericTokens grammar
  let hasColon ← sees (startsSign ":")
  let limits ← boundsAfterColon grammar fun tokens =>
    startsWord "where" tokens || startsSign "=" tokens || startsSign ";" tokens
  let early ← if conditionsFirst then conditions grammar else pure []
  let definition ← where? (startsSign "=") do
    return (← sign "=") ++ (← grammar.type true).tokens
  let late ← if conditionsFirst then pure [] else conditions grammar
  let closing ← sign ";"
  return ⟨keyword ++ own ++ generics, Token.compactAll own, hasColon, limits, definition,
    early ++ late, closing⟩

/-! ## Declared types -/

/-- The declaration of a type, and its tokens. -/
structure ReadType where
  tokens : List Token
  name : String
  /-- Number of its generic parameters. -/
  genericCount : Nat
  shape : TypeShape

/-- A field with a name. -/
def namedField : Reading (List Token × Field) := do
  let front ← outerAttributes grammar
  let visible ← visibility
  let own ← name <|> word "_"
  let colon ← sign ":"
  let isInline ← sees fun tokens => startsWord "struct" tokens ||
    startsWord "union" tokens && behind 1 (startsGroup .brace) tokens
  let type ← if startsWord "_" own && isInline then
      DeclaredType.other <$> asWritten do return (← anyWord) ++ (← anyGroup)
    else grammar.type true
  return (front.flatMap Attribute.tokens ++ visible ++ own ++ colon ++ type.tokens,
    ⟨some (Token.compactAll own), type, front⟩)

/-- A field without a name. -/
def bareField : Reading (List Token × Field) := do
  let front ← outerAttributes grammar
  let visible ← visibility
  let type ← grammar.type true
  return (front.flatMap Attribute.tokens ++ visible ++ type.tokens, ⟨none, type, front⟩)

/-- Fields between delimiters. -/
def fields (delimiter : Delimiter) (field : Reading (List Token × Field)) :
    Reading (List Token × List Field) := do
  let found ← inside delimiter (Reading.listed List.isEmpty field)
  let tokens := found.flatMap fun ((tokens, _), hasComma) =>
    tokens ++ if hasComma then [Token.single ','] else []
  return ([.group delimiter tokens], found.map fun ((_, field), _) => field)

/-- A structure behind its visibility. -/
def structureType : Reading ReadType := do
  let keyword ← word "struct"
  let own ← name
  let generics ← generics grammar
  let front := keyword ++ own ++ GenericParam.listed true generics
  let early ← conditions grammar
  let done (tokens : List Token) (fields : List Field) : ReadType :=
    ⟨tokens, Token.compactAll own, generics.length, .structure fields⟩
  if ← sees (startsGroup .brace) then
    let (tokens, found) ← fields .brace (namedField grammar)
    return done (front ++ early ++ tokens) found
  else if ← sees (startsGroup .parenthesis) then
    let (tokens, found) ← fields .parenthesis (bareField grammar)
    let late ← conditions grammar
    return done (front ++ tokens ++ late ++ (← sign ";")) found
  else return done (front ++ early ++ (← sign ";")) []

/-- A variant of an enumeration; a visibility is dropped. -/
def variant : Reading (List Token) := do
  let front ← attributes grammar
  let _ ← visibility
  let own ← name
  let content ← if ← sees (startsGroup .brace) then
      Prod.fst <$> fields .brace (namedField grammar)
    else if ← sees (startsGroup .parenthesis) then
      Prod.fst <$> fields .parenthesis (bareField grammar)
    else pure []
  let number ← where? (startsSign "=") do return (← sign "=") ++ (← value grammar)
  return front ++ own ++ content ++ number

/-- An enumeration behind its visibility. -/
def enumeration : Reading ReadType := do
  let keyword ← word "enum"
  let own ← name
  let generics ← generics grammar
  let limits ← conditions grammar
  let variants ← Reading.group .brace (commaList (variant grammar))
  return ⟨keyword ++ own ++ GenericParam.listed true generics ++ limits ++ variants,
    Token.compactAll own, generics.length, .enumeration⟩

/-- A union behind its visibility. -/
def unionType : Reading ReadType := do
  let keyword ← word "union"
  let own ← name
  let generics ← generics grammar
  let limits ← conditions grammar
  let (tokens, _) ← fields .brace (namedField grammar)
  return ⟨keyword ++ own ++ GenericParam.listed true generics ++ limits ++ tokens,
    Token.compactAll own, generics.length, .union⟩

/-- The declaration of a type behind its visibility. -/
def declaredType : Reading ReadType := do
  if ← sees (startsWord "struct") then structureType grammar
  else if ← sees (startsWord "enum") then enumeration grammar
  else unionType grammar

/-! ## Imports -/

/-- A tree of imported names, or nothing for one with a root inside of it. -/
def importsRule (allowsRoot : Bool) : Reading (Option (List Token)) := do
  if ← sees (startsSign "*") then return some (← sign "*")
  else if ← sees (startsGroup .brace) then
    let found ← inside .brace (Reading.listed List.isEmpty do
      let root ← where? (fun tokens => allowsRoot && startsSign "::" tokens) (sign "::")
      let tree ← grammar.imports (allowsRoot && root.isEmpty)
      return if root.isEmpty then tree else none)
    if found.all fun (tree, _) => tree.isSome then
      let tokens := found.flatMap fun (tree, hasComma) =>
        tree.getD [] ++ if hasComma then [Token.single ','] else []
      return some [.group .brace tokens]
    else return none
  else
    let own ← anyWord
    if ← sees (startsSign "::") then
      let separator ← sign "::"
      let tree ← grammar.imports false
      return tree.map fun tokens => own ++ separator ++ tokens
    else
      return some (own ++ (← where? (startsWord "as") do
        return (← word "as") ++ (← anyWord)))

/-- An import behind its visibility. -/
def importItem : Reading (Option (List Token)) := do
  let keyword ← word "use"
  let root ← maybe (sign "::")
  let tree ← grammar.imports root.isEmpty
  let closing ← sign ";"
  return tree.map fun tokens => keyword ++ root ++ tokens ++ closing

/-! ## Macro calls as items -/

/-- A macro call that may declare a name. -/
def macroItem : Reading (List Token) := do
  let front := (← plainPath) ++ (← sign "!") ++ (← maybe (name <|> word "try"))
  if ← sees (startsGroup .brace) then return front ++ (← anyGroup)
  else return front ++ (← anyGroup) ++ (← sign ";")

end Grammar
end Declaration
end EventRelay
