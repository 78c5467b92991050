import EventRelay.Declaration.Grammar.Pattern
import EventRelay.Declaration.Grammar.Type

/-!
# The grammar of expressions

An expression is an operand with operators behind it. An operand is an atom with prefixes
in front of it and accesses behind it. Where an expression stands before a block, as in a
condition, a name takes no fields between braces.
-/

namespace EventRelay
namespace Declaration
namespace Grammar

open Reading
open Token hiding word mark literal lifetime group

variable (grammar : Grammar)

/-- The tokens of an expression in a place of its own. -/
def value : Reading (List Token) := do return (← grammar.expression true).tokens

/-- An expression can start here. -/
def startsExpression (tokens : List Token) : Bool :=
  startsAnyWord tokens && !startsWord "as" tokens || startsGroup .parenthesis tokens ||
    startsGroup .bracket tokens || startsGroup .brace tokens || startsLiteral tokens ||
    startsSign "!" tokens && !startsSign "!=" tokens ||
    startsSign "-" tokens && !startsSign "-=" tokens && !startsSign "->" tokens ||
    startsSign "*" tokens && !startsSign "*=" tokens ||
    startsSign "|" tokens && !startsSign "|=" tokens ||
    startsSign "&" tokens && !startsSign "&=" tokens || startsSign ".." tokens ||
    startsSign "<" tokens && !startsSign "<=" tokens && !startsSign "<<=" tokens ||
    startsSign "::" tokens || startsLifetime tokens || startsSign "#" tokens

/-! ## Expressions with blocks -/

/-- A condition and the block that depends on it. -/
def conditionalBlock : Reading (List Token) := do
  return (← word "if") ++ (← grammar.expression false).tokens ++ (← block grammar)

/-- A choice between blocks. -/
def choice : Reading (List Token) := do
  let first ← conditionalBlock grammar
  let more ← repeated (fun tokens => !startsWord "else" tokens) do
    let keyword ← word "else"
    let branch ← if ← sees (startsWord "if") then conditionalBlock grammar else block grammar
    return keyword ++ branch
  return first ++ more

/-- A loop. -/
def loop : Reading (List Token) := do
  if ← sees (startsWord "while") then
    return (← word "while") ++ (← grammar.expression false).tokens ++ (← block grammar)
  else if ← sees (startsWord "for") then
    return (← word "for") ++ (← alternatives grammar) ++ (← word "in") ++
      (← grammar.expression false).tokens ++ (← block grammar)
  else return (← word "loop") ++ (← block grammar)

/-- Parameters for which a closure holds stand here, and no loop. -/
def startsClosureBinder (tokens : List Token) : Bool :=
  startsWord "for" tokens && behind 1 startsGenerics tokens

/-- An expression that is known by its first word and ends with a block. -/
def blockExpression? (tokens : List Token) :
    Option (Reading (List Token)) :=
  if startsWord "if" tokens then some (choice grammar)
  else if startsWord "while" tokens || startsWord "loop" tokens ||
      startsWord "for" tokens && !startsClosureBinder tokens then some (loop grammar)
  else if startsWord "match" tokens then
    some do
      let front := (← word "match") ++ (← grammar.expression false).tokens
      let arms ← Reading.group .brace do
        return (← innerAttributes grammar) ++ (← repeated List.isEmpty grammar.arm)
      return front ++ arms
  else if startsWord "try" tokens && behind 1 (startsGroup .brace) tokens then
    some do return (← word "try") ++ (← block grammar)
  else if startsWord "unsafe" tokens then
    some do return (← word "unsafe") ++ (← block grammar)
  else if startsWord "const" tokens && behind 1 (startsGroup .brace) tokens then
    some (constantBlock grammar)
  else if startsGroup .brace tokens then some (block grammar)
  else none

/-- A block or a loop with a label. -/
def labeled : Reading (List Token) := do
  let label := (← lifetime) ++ (← sign ":")
  if ← sees (startsGroup .brace) then return label ++ (← block grammar)
  else return label ++ (← loop grammar)

/-! ## Atoms -/

/-- A parameter of a closure. A pattern that is kept as it is written takes no attributes,
unless it has a type. -/
def closureParam : Reading (List Token) := do
  let front ← attributes grammar
  let isKept ← sees (startsWord "box")
  let own ← grammar.pattern
  let type ← where? (startsSign ":") do
    return (← sign ":") ++ (← grammar.type true).tokens
  return (if isKept && type.isEmpty then [] else front) ++ own ++ type

/-- A closure. -/
def closure (allowsFields : Bool) : Reading (List Token) := do
  let outer ← where? (startsWord "for") (binder grammar)
  let modes := (← maybe (word "const")) ++ (← maybe (word "static")) ++
    (← maybe (word "async")) ++ (← maybe (word "move"))
  let opening ← sign "|"
  let params ← Reading.listed (startsSign "|") (closureParam grammar)
  let closing ← sign "|"
  let front := outer ++ modes ++ opening ++
    params.flatMap (fun (param, hasComma) =>
      param ++ if hasComma then [Token.single ','] else []) ++ closing
  if ← sees (startsSign "->") then
    return front ++ (← result grammar true) ++ (← block grammar)
  else return front ++ (← grammar.expression allowsFields).tokens

/-- A closure starts here. -/
def startsClosure (tokens : List Token) : Bool :=
  startsSign "|" tokens || startsWord "move" tokens || startsClosureBinder tokens ||
    startsWord "const" tokens && !behind 1 (startsGroup .brace) tokens ||
    startsWord "static" tokens ||
    startsWord "async" tokens &&
      behind 1 (fun rest => startsSign "|" rest || startsWord "move" rest) tokens

/-- A block that is carried out later starts here. -/
def startsLaterBlock (tokens : List Token) : Bool :=
  startsWord "async" tokens &&
    (behind 1 (startsGroup .brace) tokens ||
      behind 1 (startsWord "move") tokens && behind 2 (startsGroup .brace) tokens)

/-- The value of a field. -/
def fieldValue : Reading (List Token) := do
  if ← sees (startsSign "..") then
    return (← sign "..") ++ (← where? (fun tokens => !tokens.isEmpty) (value grammar))
  else
    let front := (← attributes grammar) ++ (← member)
    return front ++ (← where? (startsSign ":") do return (← sign ":") ++ (← value grammar))

/-- A path, a macro call, or a value made from its fields. -/
def pathAtom (allowsFields : Bool) : Reading (List Token) := do
  let found ← anyPath grammar true
  if found.isPlain && (← sees (startsSign "!")) && !(← sees (startsSign "!=")) then
    return found.tokens ++ (← sign "!") ++ (← anyGroup)
  else if allowsFields && (← sees (startsGroup .brace)) then
    return found.tokens ++ (← Reading.group .brace (commaList (fieldValue grammar)))
  else return found.tokens

/-- A list of values or a repeated value in brackets. -/
def array : Reading (List Token) :=
  Reading.group .bracket do
    if ← sees List.isEmpty then return []
    let first ← value grammar
    if ← sees (startsSign ";") then return first ++ (← sign ";") ++ (← value grammar)
    let more ← where? (startsSign ",") do
      return (← sign ",") ++ (← commaList (value grammar))
    return first ++ more

/-- A word that leaves something, and the value that is handed over. -/
def leaving (allowsFields : Bool) : Reading (List Token) := do
  if ← sees (startsWord "break") then
    let front := (← word "break") ++ (← where? startsLifetime lifetime)
    let hands ← sees fun tokens =>
      startsExpression tokens && (allowsFields || !startsGroup .brace tokens)
    return front ++ (← if hands then value grammar else pure [])
  else
    let front ← word "return" <|> word "yield"
    return front ++ (← where? startsExpression (value grammar))

/-- The end of a range is left open here. -/
def leavesOpen (allowsFields : Bool) (tokens : List Token) : Bool :=
  tokens.isEmpty || !allowsFields && startsGroup .brace tokens || startsWord "as" tokens ||
    startsSign "." tokens && !startsSign ".." tokens ||
    [",", ";", "?", "=>", "=", "+", "/", "%", "^", ">", "<=", "!=", "-=", "*=", "&=", "|=",
      "<<="].any fun text => startsSign text tokens

/-- Operators in the order in which they are tried, with their precedence. -/
def operatorTable : List (String × Precedence) :=
  [("+=", .assignment), ("-=", .assignment), ("*=", .assignment), ("/=", .assignment),
    ("%=", .assignment), ("^=", .assignment), ("&=", .assignment), ("|=", .assignment),
    ("<<=", .assignment), (">>=", .assignment), ("&&", .conjunction), ("||", .disjunction),
    ("<<", .shift), (">>", .shift), ("==", .comparison), ("<=", .comparison),
    ("!=", .comparison), (">=", .comparison), ("+", .sum), ("-", .sum), ("*", .product),
    ("/", .product), ("%", .product), ("^", .bitXor), ("&", .bitAnd), ("|", .bitOr),
    ("<", .comparison), (">", .comparison)]

/-- The operator that stands here. -/
def operator? (tokens : List Token) : Option (String × Precedence) :=
  operatorTable.find? fun entry => startsSign entry.1 tokens

/-- A value is assigned here. -/
def startsAssignment (tokens : List Token) : Bool :=
  startsSign "=" tokens && !startsSign "=>" tokens

/-- The precedence of what stands here. -/
def nextPrecedence (tokens : List Token) : Precedence :=
  match operator? tokens with
  | some (_, precedence) => precedence
  | none =>
      if startsAssignment tokens then .assignment
      else if startsSign ".." tokens then .range
      else if startsWord "as" tokens then .cast
      else .lowest

/-- Operators behind a right operand that bind more tightly than the one in front of it, or
that assign as this one does; up to a number of rounds. -/
def tighterUpTo (allowsFields : Bool) (precedence : Precedence) :
    Nat → Expression → Reading Expression
  | 0, right => return right
  | limit + 1, right => do
      let before ← get
      let next := nextPrecedence before
      if precedence.rank < next.rank || next = precedence && precedence = .assignment then
        let more ← grammar.operators allowsFields next right
        if (← get).length = before.length then return more
        else tighterUpTo allowsFields precedence limit more
      else return right

/-- The operand on the right of an operator. -/
def rightOperand (allowsFields : Bool) (precedence : Precedence) : Reading Expression := do
  let first ← grammar.operand allowsFields
  tighterUpTo grammar allowsFields precedence (← get).length first

/-- The sign of a range and its end. -/
def rangeEnd (allowsFields : Bool) : Reading (List Token) := do
  let isClosed ← sees (startsSign "..=")
  let limits ← sign "..=" <|> sign ".."
  if !isClosed && (← sees (leavesOpen allowsFields)) then return limits
  else return limits ++ (← rightOperand grammar allowsFields .range).tokens

/-- What is kept as it is written: calls of built-in functions, and jumps into a call. -/
def unstable? (tokens : List Token) : Option (Reading (List Token)) :=
  if startsWord "builtin" tokens && behind 1 (startsSign "#") tokens then
    some do return (← word "builtin") ++ (← sign "#") ++ (← name) ++ (← anyGroup)
  else if startsWord "become" tokens then
    some do return (← word "become") ++ (← value grammar)
  else none

/-- A pattern that a value is matched with. -/
def matching (allowsFields : Bool) : Reading (List Token) := do
  let front := (← word "let") ++ (← alternatives grammar) ++ (← sign "=")
  let left ← grammar.operand allowsFields
  return front ++ (← grammar.operators allowsFields .comparison left).tokens

/-- An atom that starts neither a block nor anything that is kept as it is written. -/
def plainAtom (allowsFields : Bool) : Reading (List Token) := do
  if ← sees startsValue then literal <|> word "true" <|> word "false"
  else if ← sees startsLaterBlock then
    return (← word "async") ++ (← maybe (word "move")) ++ (← block grammar)
  else if ← sees startsClosure then closure grammar allowsFields
  else if ← sees (startsGroup .parenthesis) then
    Reading.group .parenthesis (commaList (value grammar))
  else if ← sees fun tokens =>
      startsWord "break" tokens || startsWord "return" tokens || startsWord "yield" tokens then
    leaving grammar allowsFields
  else if ← sees (startsWord "continue") then
    return (← word "continue") ++ (← where? startsLifetime lifetime)
  else if ← sees (startsGroup .bracket) then array grammar
  else if ← sees (startsWord "let") then matching grammar allowsFields
  else if ← sees (startsWord "_") then word "_"
  else if ← sees startsLifetime then labeled grammar
  else pathAtom grammar allowsFields

/-- An atom. -/
def atom (allowsFields : Bool) : Reading Expression := do
  let tokens ← get
  match unstable? grammar tokens, blockExpression? grammar tokens with
  | some reading, _ => return .ofForm .asWritten (← asWritten reading)
  | none, some reading => return .ofForm .block (← reading)
  | none, none =>
      if startsSign ".." tokens then return .ofForm .range (← rangeEnd grammar allowsFields)
      else return .plain (← plainAtom grammar allowsFields)

/-! ## Operands -/

/-- Positions that are written like one number with a point in it; the point at the end
belongs to the next access. -/
def positions (text : String) : List Token :=
  match text.splitOn "." with
  | [first, ""] => [.literal (decimal first)]
  | parts => (parts.map fun part => [Token.literal (decimal part)]).intersperse
      [Token.single '.'] |>.flatten

/-- A number with a point in it stands here. -/
def startsPointNumber : List Token → Bool
  | .literal text :: _ => text.toList.contains '.'
  | _ => false

/-- An access to a member behind the point. -/
def memberAccess : Reading (List Token) := do
  if ← sees (startsWord "await") then word "await"
  else
    let isNamed ← sees startsName
    let own ← member
    let arguments ← where? (fun tokens => isNamed && startsSign "::" tokens) do
      return (← sign "::") ++ TypeArgument.listed (← typeArguments grammar)
    let call ← where? (fun tokens => isNamed && startsGroup .parenthesis tokens)
      (Reading.group .parenthesis (commaList (value grammar)))
    return own ++ arguments ++ call

/-- An access by a point. -/
def pointAccess : Reading (List Token) := do
  let point ← sign "."
  match ← get with
  | .literal text :: rest =>
      if startsPointNumber [.literal text] then
        set rest
        let found := point ++ positions text
        if text.endsWith "." then return found ++ point ++ (← memberAccess grammar)
        else return found
      else return point ++ (← memberAccess grammar)
  | _ => return point ++ (← memberAccess grammar)

/-- An access to the value on the left stands here. -/
def startsAccess (form : ExpressionForm) (tokens : List Token) : Bool :=
  startsGroup .parenthesis tokens || startsGroup .bracket tokens ||
    form ≠ .range &&
      (startsSign "?" tokens || startsSign "." tokens && !startsSign ".." tokens)

/-- One access to the value on the left. -/
def access : Reading (List Token) := do
  if ← sees (startsGroup .parenthesis) then
    Reading.group .parenthesis (commaList (value grammar))
  else if ← sees (startsGroup .bracket) then Reading.group .bracket (value grammar)
  else if ← sees (startsSign "?") then sign "?"
  else pointAccess grammar

/-- An expression with all accesses to it; one that is accessed has no special form. -/
def accessed (expression : Expression) : Reading Expression := do
  let first ← where? (startsAccess expression.form) (access grammar)
  if first.isEmpty then return expression
  else
    let more ← repeated (fun tokens => !startsAccess .plain tokens) (access grammar)
    return .plain (expression.tokens ++ first ++ more)

/-- How something is borrowed. -/
def borrowMode : Reading (List Token) := do
  let isRaw ← sees fun tokens =>
    startsWord "raw" tokens &&
      behind 1 (fun rest => startsWord "mut" rest || startsWord "const" rest) tokens
  if isRaw then return (← word "raw") ++ (← word "mut" <|> word "const")
  else maybe (word "mut")

/-- An operand with the prefixes in front of it. -/
def operandRule (allowsFields : Bool) : Reading Expression := do
  let start ← get
  let front ← attributes grammar
  if ← sees (startsSign "&") then
    let mark := (← sign "&") ++ (← borrowMode)
    return .plain (front ++ mark ++ (← grammar.operand allowsFields).tokens)
  else if ← sees fun tokens =>
      startsSign "*" tokens || startsSign "!" tokens || startsSign "-" tokens then
    let mark ← sign "*" <|> sign "!" <|> sign "-"
    return .plain (front ++ mark ++ (← grammar.operand allowsFields).tokens)
  else
    let found ← accessed grammar (← atom grammar allowsFields)
    if found.form = .asWritten then return .ofForm .asWritten (← since start)
    else return found.withAttributes front

/-! ## Operators -/

/-- The operators behind a left operand that bind at least as tightly as a precedence. -/
def operatorsRule (allowsFields : Bool) (base : Precedence) (left : Expression) :
    Reading Expression := do
  let tokens ← get
  let joined (more : List Token) : Expression :=
    { left with tokens := left.tokens ++ more, form := .plain }
  let goOn (more : List Token) : Reading Expression :=
    grammar.operators allowsFields base (joined more)
  if left.form = .range then return left
  match operator? tokens with
  | some (text, precedence) =>
      if precedence.rank < base.rank then return left
      else goOn ((← sign text) ++ (← rightOperand grammar allowsFields precedence).tokens)
  | none =>
      if base.rank ≤ Precedence.assignment.rank && startsAssignment tokens then
        goOn ((← sign "=") ++ (← rightOperand grammar allowsFields .assignment).tokens)
      else if base.rank ≤ Precedence.range.rank && startsSign ".." tokens then
        return .ofForm .range (left.tokens ++ (← rangeEnd grammar allowsFields))
      else if base.rank ≤ Precedence.cast.rank && startsWord "as" tokens then
        goOn ((← word "as") ++ (← grammar.type false).tokens)
      else return left

/-- An expression. -/
def expressionRule (allowsFields : Bool) : Reading Expression := do
  let left ← grammar.operand allowsFields
  grammar.operators allowsFields .lowest left

/-! ## Statements and arms -/

/-- An expression that stands as a statement or as what an arm of a match gives; one that
ends with a block ends there unless an access follows. -/
def standing : Reading Expression := do
  let front ← attributes grammar
  let tokens ← get
  let goOn (left : Expression) : Reading Expression :=
    grammar.operators true .lowest (left.withAttributes front)
  match blockExpression? grammar tokens with
  | some reading =>
      let found := Expression.ofForm .block (← reading)
      if ← sees fun rest =>
          startsSign "?" rest || startsSign "." rest && !startsSign ".." rest then
        goOn (← accessed grammar found)
      else return found.withAttributes front
  | none =>
      if startsLifetime tokens then
        let found := Expression.ofForm .block (← labeled grammar)
        if ← sees fun rest =>
            startsSign "?" rest || startsSign "." rest && !startsSign ".." rest then
          goOn (← accessed grammar found)
        else return found.withAttributes front
      else goOn (← grammar.operand true)

/-- An arm of a match; what it matches with may depend on a condition. -/
def armRule : Reading (List Token) := do
  let front := (← attributes grammar) ++ (← alternatives grammar)
  let guarding ← where? (startsWord "if") do return (← word "if") ++ (← value grammar)
  let arrow ← sign "=>"
  let found ← standing grammar
  return front ++ guarding ++ arrow ++ found.tokens ++ (← maybe (sign ","))

end Grammar
end Declaration
end EventRelay
