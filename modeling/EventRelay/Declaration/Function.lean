import EventRelay.Declaration.Attribute
import EventRelay.Declaration.Type

/-!
# Declared functions

What a declaration says of a function, apart from what the function does: its name, how it
takes its object, and the types of its other parameters.
-/

namespace EventRelay
namespace Declaration

/-- How a function takes its object. -/
structure Receiver where
  /-- The object is borrowed by a mark in front. -/
  isReference : Bool
  /-- The word for writing access stands in front. -/
  isWritable : Bool
  deriving DecidableEq

/-- The object is borrowed for reading only. -/
def Receiver.isShared (receiver : Receiver) : Bool :=
  receiver.isReference && !receiver.isWritable

/-- What a function takes. -/
structure Signature where
  name : String
  /-- How it takes its object, if it does. -/
  receiver? : Option Receiver
  /-- Types of its parameters. -/
  params : List DeclaredType

/-- A function of a block. -/
structure Function extends Signature where
  attributes : List Attribute

/-- An item of a block. -/
inductive Item
  | function (function : Function)
  /-- Anything else. -/
  | other (name : String) (attributes : List Attribute)

end Declaration
end EventRelay
