import EventRelay.Declaration.Error
import EventRelay.Declaration.Token

/-!
# Attributes

An attribute has a name, and behind it either nothing, a list between delimiters, or a
value after an equals sign. Lists are kept as they are written.
-/

namespace EventRelay
namespace Declaration

/-- What stands behind the name of an attribute. -/
inductive Arguments
  | none
  | list (delimiter : Delimiter) (tokens : List Token)
  /-- A value after an equals sign. -/
  | value (tokens : List Token)

/-- An attribute of a declaration. -/
structure Attribute where
  name : List Token
  arguments : Arguments

namespace Attribute

/-- The attribute has a given one-word name. -/
def isNamed (tag : Attribute) (name : String) : Bool :=
  match tag.name with
  | [.word found] => found = name
  | _ => false

/-- The list of an attribute that must have one. -/
def list (tag : Attribute) : Except OptionError (List Token) :=
  match tag.arguments with
  | .none => .error (.noArguments (Token.compactAll tag.name))
  | .list _ tokens => .ok tokens
  | .value _ => .error (.valueForArguments (Token.compactAll tag.name))

/-- The tokens between the brackets of an attribute. -/
def content (tag : Attribute) : List Token :=
  tag.name ++ match tag.arguments with
    | .none => []
    | .list delimiter tokens => [.group delimiter tokens]
    | .value tokens => Token.single '=' :: tokens

/-- The attribute without blanks. -/
def text (tag : Attribute) : String := "#[" ++ Token.compactAll tag.content ++ "]"

/-- The attribute as it stands in front of what it is about. -/
def tokens (tag : Attribute) : List Token := [Token.single '#', .group .bracket tag.content]

end Attribute

end Declaration
end EventRelay
