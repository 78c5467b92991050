import EventRelay.Declaration.Token

/-!
# Declared types

A declared type is a path, a reference to another type, or a type of any other form. Types
are kept as the tokens that write them. The arguments of a type and the parameters of a
block are written with lifetimes first.
-/

namespace EventRelay
namespace Declaration

/-- A type in a declaration. -/
inductive DeclaredType
  /-- A path, and the name of its last segment. -/
  | path (tokens : List Token) (last : String)
  /-- A reference, for reading only or for writing too. -/
  | reference (lifetime? : Option String) (isWritable : Bool) (target : DeclaredType)
  /-- Any other type. -/
  | other (tokens : List Token)

namespace DeclaredType

/-- The tokens that write a type. -/
def tokens : DeclaredType → List Token
  | path tokens _ => tokens
  | reference lifetime? isWritable target =>
      [Token.single '&'] ++ lifetime?.toList.map Token.lifetime ++
        (if isWritable then [Token.word "mut"] else []) ++ target.tokens
  | other tokens => tokens

/-- The type without blanks. -/
def text (type : DeclaredType) : String := Token.compactAll type.tokens

/-- The name of a type: the last segment of a path, and the whole text of any other type. -/
def name : DeclaredType → String
  | path _ last => last
  | type => Token.spacedAll type.tokens

/-- The type that a reference points to, and whether it may be written. -/
def referenced? : DeclaredType → Option (DeclaredType × Bool)
  | reference _ isWritable target => some (target, isWritable)
  | _ => none

end DeclaredType

/-- An argument of a type. -/
structure TypeArgument where
  /-- The argument is a lifetime. -/
  isLifetime : Bool
  tokens : List Token
  /-- A comma follows it. -/
  hasComma : Bool

namespace TypeArgument

/-- The argument with the comma after it. -/
def written (argument : TypeArgument) : List Token :=
  argument.tokens ++ if argument.hasComma then [Token.single ','] else []

/-- Arguments that come after others; where no comma stands between two of them, one is
put in. -/
def writtenAfter : Bool → List TypeArgument → List Token
  | _, [] => []
  | isSeparated, first :: rest =>
      (if isSeparated then [] else [Token.single ',']) ++ first.written ++
        writtenAfter first.hasComma rest

/-- The argument list of a type: lifetimes first, then the others, each kind in order and
with the commas that it has. -/
def listed (arguments : List TypeArgument) : List Token :=
  let lifetimes := arguments.filter TypeArgument.isLifetime
  let others := arguments.filter fun argument => !argument.isLifetime
  [Token.single '<'] ++ lifetimes.flatMap written ++
    writtenAfter ((lifetimes.getLast?.map TypeArgument.hasComma).getD true) others ++
    [Token.single '>']

end TypeArgument

/-- A generic parameter. -/
structure GenericParam where
  /-- The parameter is a lifetime. -/
  isLifetime : Bool
  /-- The parameter with its attributes and bounds. -/
  tokens : List Token
  /-- Its default with the equals sign, or nothing. -/
  default : List Token
  /-- A comma follows it. -/
  hasComma : Bool

namespace GenericParam

/-- The comma after a parameter, if there is one. -/
def comma (param : GenericParam) : List Token :=
  if param.hasComma then [Token.single ','] else []

/-- A parameter with the comma after it, and with its default or without it. -/
def written (withDefault : Bool) (param : GenericParam) : List Token :=
  param.tokens ++ (if withDefault then param.default else []) ++ param.comma

/-- Parameters between angle brackets: lifetimes first, then the others. One comma is put in
between the two kinds where none is; no parameters need no brackets. -/
def listed (withDefaults : Bool) (params : List GenericParam) : List Token :=
  let lifetimes := params.filter GenericParam.isLifetime
  let others := params.filter fun param => !param.isLifetime
  let isSeparated := (lifetimes.getLast?.map GenericParam.hasComma).getD true || others.isEmpty
  if params.isEmpty then []
  else
    [Token.single '<'] ++ lifetimes.flatMap (written withDefaults) ++
      (if isSeparated then [] else [Token.single ',']) ++ others.flatMap (written withDefaults) ++
      [Token.single '>']

/-- Parameters in order between angle brackets. -/
def bound (params : List GenericParam) : List Token :=
  [Token.single '<'] ++ params.flatMap (written true) ++ [Token.single '>']

/-- The parameters of a block without blanks and defaults. -/
def text (params : List GenericParam) : String := Token.compactAll (listed false params)

end GenericParam
end Declaration
end EventRelay
