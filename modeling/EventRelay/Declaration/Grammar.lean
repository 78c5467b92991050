import EventRelay.Declaration.Function
import EventRelay.Declaration.Reading

/-!
# The grammar of declarations

The parts of a declaration nest: types hold expressions, expressions hold blocks, blocks
hold items, and items hold types. Each rule of the grammar is therefore a reading that is
given the readings for the parts inside of it. Those of a grammar of some depth are the
rules over the grammar that is one less deep.

What is read is given in its regular form: the marks of a sign joint, lists in their order,
and nothing that says nothing.
-/

namespace EventRelay
namespace Declaration

/-- How tightly operators bind. -/
inductive Precedence
  | lowest
  | assignment
  | range
  | disjunction
  | conjunction
  | pattern
  | comparison
  | bitOr
  | bitXor
  | bitAnd
  | shift
  | sum
  | product
  | cast
  deriving DecidableEq

namespace Precedence

/-- Position among the precedences, loose ones first. -/
def rank : Precedence → Nat
  | lowest => 0
  | assignment => 1
  | range => 2
  | disjunction => 3
  | conjunction => 4
  | pattern => 5
  | comparison => 6
  | bitOr => 7
  | bitXor => 8
  | bitAnd => 9
  | shift => 10
  | sum => 11
  | product => 12
  | cast => 13

end Precedence

/-- What matters of an expression for what stands around it. -/
inductive ExpressionForm
  /-- It ends with a block and can stand as a statement without a semicolon. -/
  | block
  | range
  /-- It is kept as it is written. -/
  | asWritten
  /-- It is of any other form. -/
  | plain
  deriving DecidableEq

/-- An expression that was read. -/
structure Expression where
  tokens : List Token
  form : ExpressionForm
  /-- The form of its left-most operand, or its own form if it has none. -/
  leftmost : ExpressionForm

namespace Expression

/-- An expression without operands to its left. -/
def ofForm (form : ExpressionForm) (tokens : List Token) : Expression := ⟨tokens, form, form⟩

/-- An expression of no special form. -/
def plain (tokens : List Token) : Expression := ofForm .plain tokens

/-- An expression with attributes in front of its left-most operand. A range with attributes
needs parentheses, and what is kept as it is written takes none. -/
def withAttributes (attributes : List Token) (expression : Expression) : Expression :=
  if attributes.isEmpty then expression
  else
    match expression.leftmost with
    | .range =>
        { expression with tokens := attributes ++ [.group .parenthesis expression.tokens] }
    | .asWritten => expression
    | _ => { expression with tokens := attributes ++ expression.tokens }

end Expression

/-- A path that was read. -/
structure PathText where
  /-- Its tokens up to the name of the last segment. -/
  front : List Token
  /-- The arguments of the last segment with what is around them. -/
  arguments : List Token
  /-- The last segment has arguments. -/
  hasArguments : Bool
  /-- The name of the last segment. -/
  last : String
  /-- The path leads into no type and no segment has arguments. -/
  isPlain : Bool

namespace PathText

/-- All tokens of a path. -/
def tokens (path : PathText) : List Token := path.front ++ path.arguments

/-- A path that consists of one word. -/
def ofWord (word : String) : PathText := ⟨[.word word], [], false, word, true⟩

/-- The path has one segment and nothing in front of it. -/
def isSingle (path : PathText) : Bool := path.front.length = 1

/-- A path with something in front. -/
def after (front : List Token) (path : PathText) : PathText :=
  { path with front := front ++ path.front }

/-- A path that goes on with another one behind a separator. -/
def append (path : PathText) (separator : List Token) (next : PathText) : PathText :=
  { next.after (path.tokens ++ separator) with isPlain := path.isPlain && next.isPlain }

end PathText

/-- The readings of the parts that nest. -/
structure Grammar where
  /-- A type; bounds may follow it after a plus sign where these are allowed. -/
  type : (allowsPlus : Bool) → Reading DeclaredType
  /-- The arguments of a type between angle brackets. -/
  arguments : Reading (List TypeArgument)
  /-- A bound. -/
  bound : Reading (List Token)
  /-- A pattern without alternatives. -/
  pattern : Reading (List Token)
  /-- An expression; a name with fields between braces only where these are allowed. -/
  expression : (allowsFields : Bool) → Reading Expression
  /-- An operand with the prefixes in front of it. -/
  operand : (allowsFields : Bool) → Reading Expression
  /-- The operators behind a left operand that bind at least as tightly as a precedence. -/
  operators : (allowsFields : Bool) → Precedence → Expression → Reading Expression
  /-- An arm of a match. -/
  arm : Reading (List Token)
  /-- All statements of a block. -/
  statements : Reading (List Token)
  /-- An item behind its attributes, and where these start. -/
  item : (start attributes : List Token) → Reading (List Token)
  /-- A tree of imported names, or nothing for one with a root inside of it. -/
  imports : (allowsRoot : Bool) → Reading (Option (List Token))

namespace Grammar

/-- The grammar of depth zero reads nothing. -/
def empty : Grammar where
  type _ := failure
  arguments := failure
  bound := failure
  pattern := failure
  expression _ := failure
  operand _ := failure
  operators _ _ _ := failure
  arm := failure
  statements := failure
  item _ _ := failure
  imports _ := failure

end Grammar
end Declaration
end EventRelay
