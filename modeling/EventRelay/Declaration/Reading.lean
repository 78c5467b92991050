import EventRelay.Declaration.Token

/-!
# Readings

A reading takes tokens from the front of a list, or fails. What it gives is most often
again a list of tokens: those that were taken, in their regular form. Loops are bounded by
the number of tokens that are left, as every round takes one.
-/

namespace EventRelay
namespace Declaration

/-- Takes tokens from the front of a list or fails. -/
abbrev Reading (α : Type) := StateT (List Token) Option α

namespace Reading

variable {α : Type}

/-- The next tokens pass a test. -/
def sees (test : List Token → Bool) : Reading Bool := return test (← get)

/-- A test on what stands behind a number of tokens. -/
def behind (count : Nat) (test : List Token → Bool) (tokens : List Token) : Bool :=
  test (tokens.drop count)

/-! ## Single tokens -/

/-- Takes one token that passes a test. -/
def one (test : List Token → Bool) : Reading (List Token) := fun tokens =>
  match tokens with
  | first :: rest => if test tokens then some ([first], rest) else none
  | [] => none

/-- Takes a given word. -/
def word (text : String) : Reading (List Token) := one (Token.startsWord text)

/-- Takes any word. -/
def anyWord : Reading (List Token) := one Token.startsAnyWord

/-- Takes a word that can name something. -/
def name : Reading (List Token) := one Token.startsName

/-- Takes a lifetime. -/
def lifetime : Reading (List Token) := one Token.startsLifetime

/-- Takes a literal as it is. -/
def literal : Reading (List Token) := fun tokens =>
  match tokens with
  | .literal text :: rest => some ([.literal text], rest)
  | .mark '-' _ :: .literal text :: rest => some ([Token.single '-', .literal text], rest)
  | _ => none

/-- Takes a sign; its marks become joint up to the last one. -/
def sign (text : String) : Reading (List Token) := fun tokens =>
  if Token.startsSign text tokens then
    some (Token.sign text.toList, tokens.drop text.length)
  else none

/-- Takes a group as it is. -/
def anyGroup : Reading (List Token) := fun tokens =>
  match tokens with
  | .group delimiter content :: rest => some ([.group delimiter content], rest)
  | _ => none

/-! ## Choices -/

/-- Reads something if it is there. -/
def maybe (reading : Reading (List Token)) : Reading (List Token) := reading <|> pure []

/-- Reads something only where the next tokens pass a test. -/
def where? (test : List Token → Bool) (reading : Reading (List Token)) : Reading (List Token) := do
  if ← sees test then reading else return []

/-! ## Groups -/

/-- Reads the whole inside of a group. -/
def inside (delimiter : Delimiter) (reading : Reading α) : Reading α := fun tokens =>
  match tokens with
  | .group found content :: rest =>
      if found = delimiter then
        match reading content with
        | some (result, []) => some (result, rest)
        | _ => none
      else none
  | _ => none

/-- Reads a group. -/
def group (delimiter : Delimiter) (reading : Reading (List Token)) : Reading (List Token) := do
  return [.group delimiter (← inside delimiter reading)]

/-! ## Texts as they are written -/

/-- The tokens from a point on up to here, as they are written. -/
def since (start : List Token) : Reading (List Token) := do
  return start.take (start.length - (← get).length)

/-- What a reading takes, as it is written. -/
def asWritten (reading : Reading α) : Reading (List Token) := do
  let start ← get
  let _ ← reading
  since start

/-! ## Loops -/

/-- Rounds that tell with what they give whether another one follows, up to a limit. -/
def roundsUpTo : Nat → Reading (List α × Bool) → Reading (List α)
  | 0, _ => return []
  | limit + 1, round => do
      let (found, goesOn) ← round
      if goesOn then return found ++ (← roundsUpTo limit round) else return found

/-- Rounds that tell with what they give whether another one follows. -/
def rounds (round : Reading (List α × Bool)) : Reading (List α) := do
  roundsUpTo ((← get).length + 1) round

/-- Reads something again and again until the next tokens pass a test. -/
def repeated (stops : List Token → Bool) (reading : Reading (List α)) : Reading (List α) :=
  rounds do
    if ← sees stops then return ([], false)
    return (← reading, true)

/-- Elements between commas up to where the tokens pass a test, each with the answer to
whether a comma follows it. -/
def listed (stops : List Token → Bool) (element : Reading α) : Reading (List (α × Bool)) :=
  rounds do
    if ← sees stops then return ([], false)
    let found ← element
    if ← sees stops then return ([(found, false)], false)
    let _ ← sign ","
    return ([(found, true)], true)

/-- Elements between commas up to the end, with the commas. -/
def commaList (element : Reading (List Token)) : Reading (List Token) := do
  let elements ← listed List.isEmpty element
  return elements.flatMap fun (found, hasComma) =>
    found ++ if hasComma then [Token.single ','] else []

end Reading
end Declaration
end EventRelay
