import EventRelay.Declaration.Grammar.Nested
import EventRelay.Declaration.Lexer
import EventRelay.Declaration.SubscriberBlock

/-!
# Declarations in source text

A declaration is read from the text that a programmer writes: the declaration of an event
type, or the block of methods of a subscriber. A text that the grammar does not take to its
end is no declaration.
-/

namespace EventRelay
namespace Declaration

/-- Reads a text to its end with a grammar that is deep enough for it. -/
def readWhole? {α : Type} (reading : Grammar → Reading α) (source : String) : Option α :=
  let tokens := Token.read source
  match reading (Grammar.deepEnough tokens) tokens with
  | some (found, []) => some found
  | _ => none

namespace EventType

/-- The declaration of an event type: attributes, visibility, and the type itself. -/
def reading (grammar : Grammar) : Reading EventType := do
  let attributes ← grammar.outerAttributes
  let _ ← Grammar.visibility
  let found ← grammar.declaredType
  return ⟨found.name, found.genericCount, attributes, found.shape⟩

/-- The declaration of an event type in a text. -/
def read? (source : String) : Option EventType := readWhole? reading source

end EventType

namespace SubscriberBlock

/-- A block of methods with the arguments that are given to it. Only a block that has a
regular form can be one. -/
def reading (arguments : List Token) (grammar : Grammar) : Reading SubscriberBlock := do
  let _ ← grammar.attributes
  let found ← grammar.methods
  if found.isRegular then
    return ⟨arguments, found.generics, !found.interface.isEmpty, found.self,
      found.members.map Prod.snd⟩
  else failure

/-- The block of methods in a text, given the text of its arguments. -/
def read? (arguments source : String) : Option SubscriberBlock :=
  readWhole? (reading (Token.read arguments)) source

end SubscriberBlock
end Declaration
end EventRelay
