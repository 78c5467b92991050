/-!
# Errors in declarations

Everything that can be wrong with the declaration of an event type or a subscriber.
Where something was expected, the message tells if the input ended there.
-/

namespace EventRelay
namespace Declaration

/-- What is wrong with a list of options. -/
inductive OptionError
  /-- The input ends where an option was expected. -/
  | missing
  /-- A literal stands where an option was expected. -/
  | literal
  /-- Something else stands where an option was expected. -/
  | strayToken
  /-- A path breaks off. -/
  | brokenPath (atEnd : Bool)
  /-- An option is not followed by a comma. -/
  | noComma
  /-- An option has no value. -/
  | noEquals
  /-- An option has no arguments in parentheses. -/
  | noParentheses (atEnd : Bool)
  /-- A value is not an identifier. -/
  | noIdentifier (atEnd : Bool)
  /-- A value is a keyword and not an identifier. -/
  | keyword (word : String)
  /-- A value is not a truth value. -/
  | noTruthValue (atEnd : Bool)
  /-- An attribute has no arguments. -/
  | noArguments (name : String)
  /-- An attribute has a value and not arguments. -/
  | valueForArguments (name : String)
  deriving DecidableEq

/-- What is wrong with a declaration. -/
inductive DeclarationError
  /-- A list of options is not well formed. -/
  | options (error : OptionError)
  /-- An event type has generic parameters. -/
  | genericEvent
  /-- An option of an event type is not known. -/
  | unknownEventOption
  /-- An event type is a union. -/
  | unionEvent
  /-- A second field is marked as the parent. -/
  | secondParent
  /-- A second field is marked as the canceled state. -/
  | secondCanceled
  /-- An option of a field is not known. -/
  | unknownFieldOption
  /-- A cancellable event type has no field for the canceled state. -/
  | noCanceledField
  /-- The methods of a subscriber implement a trait. -/
  | traitBlock
  /-- An argument of a subscriber is not known. -/
  | unknownArgument
  /-- An option of a listener method is not known. -/
  | unknownMethodOption
  /-- The priority of a listener method is none. -/
  | unknownPriority
  /-- A listener method takes its object in another way than by shared reference. -/
  | receiver
  deriving DecidableEq

/-- An expectation; the end of the input is told. -/
def expectation (atEnd : Bool) (text : String) : String :=
  if atEnd then "unexpected end of input, " ++ text else text

/-- The message of an error in a list of options. -/
def OptionError.message : OptionError → String
  | missing => expectation true "expected nested attribute"
  | literal => "unexpected literal in nested attribute, expected ident"
  | strayToken => "unexpected token in nested attribute, expected ident"
  | brokenPath atEnd => expectation atEnd "expected ident"
  | noComma => "expected `,`"
  | noEquals => "expected `=`"
  | noParentheses atEnd => expectation atEnd "expected parentheses"
  | noIdentifier atEnd => expectation atEnd "expected identifier"
  | keyword word => "expected identifier, found keyword `" ++ word ++ "`"
  | noTruthValue atEnd => expectation atEnd "expected boolean literal"
  | noArguments name =>
      "expected attribute arguments in parentheses: #[" ++ name ++ "(...)]"
  | valueForArguments name => "expected parentheses: #[" ++ name ++ "(...)]"

/-- The message of an error in a declaration. -/
def DeclarationError.message : DeclarationError → String
  | options error => error.message
  | genericEvent => "generic event types are not supported"
  | unknownEventOption => "expected `abstract`, `cancellable` or `markers(..)`"
  | unionEvent => "Event cannot be derived for union types"
  | secondParent => "an event has at most one parent field"
  | secondCanceled => "an event has at most one canceled field"
  | unknownFieldOption => "expected `parent` or `canceled`"
  | noCanceledField => "cancellable events need a `bool` field marked #[event(canceled)]"
  | traitBlock => "#[subscriber] goes on an inherent impl block"
  | unknownArgument => "expected `supertypes(..)`"
  | unknownMethodOption => "expected `priority` or `receive_canceled`"
  | unknownPriority => "expected one of Highest, High, Normal, Low, Lowest"
  | receiver => "listener methods take `&self`; use interior mutability for state"

end Declaration
end EventRelay
