import EventRelay.Declaration.Grammar.Member

/-!
# Nesting the grammar

A grammar one deeper applies every rule to the grammar that it is deeper than. A depth that
grows with the number of tokens is never used up by what the tokens nest.
-/

namespace EventRelay
namespace Declaration
namespace Grammar

/-- The grammar whose parts are read by another one. -/
def deeper (grammar : Grammar) : Grammar where
  type := typeRule grammar
  arguments := typeArguments grammar
  bound := boundRule grammar
  pattern := patternRule grammar
  expression := expressionRule grammar
  operand := operandRule grammar
  operators := operatorsRule grammar
  arm := armRule grammar
  statements := statementsRule grammar
  item := itemRule grammar
  imports := importsRule grammar

/-- The grammar of some depth. -/
def ofDepth : Nat → Grammar
  | 0 => empty
  | depth + 1 => deeper (ofDepth depth)

/-- A grammar that is deep enough for some tokens. -/
def deepEnough (tokens : List Token) : Grammar := ofDepth (4 * Token.sizeAll tokens + 16)

end Grammar
end Declaration
end EventRelay
