import EventRelay.Declaration.Attribute

/-!
# Lists of options

The arguments of an attribute are options between commas; a comma may also stand at the
end. An option is a path, and what may follow the path depends on it: nothing, an
identifier or a truth value after an equals sign, or a list of paths in parentheses.

Options are read in order, and the first problem ends the reading.
-/

namespace EventRelay
namespace Declaration

/-- The name of an option or of a type. -/
structure Path where
  /-- The path starts with a double colon. -/
  isGlobal : Bool
  /-- Its segments. -/
  segments : List String
  deriving DecidableEq

namespace Path

/-- The path is one given word. -/
def isWord (path : Path) (word : String) : Bool :=
  !path.isGlobal && path.segments = [word]

/-- The path without blanks. -/
def text (path : Path) : String :=
  (if path.isGlobal then "::" else "") ++ "::".intercalate path.segments

end Path

/-- Tokens up to a comma or to the end of a list. -/
structure Stretch where
  tokens : List Token
  /-- No comma follows. -/
  isLast : Bool

namespace Stretch

/-- Nothing follows at all. -/
def isAtEnd (stretch : Stretch) : Bool :=
  stretch.tokens.isEmpty && stretch.isLast

/-- What is left of a stretch. -/
def goOn (stretch : Stretch) (tokens : List Token) : Stretch := ⟨tokens, stretch.isLast⟩

/-- The tokens between commas; there is always at least one stretch. -/
def split : List Token → List Stretch
  | [] => [⟨[], true⟩]
  | first :: rest =>
      if first.isComma then ⟨[], false⟩ :: split rest
      else
        match split rest with
        | [] => [⟨[first], true⟩]
        | next :: others => ⟨first :: next.tokens, next.isLast⟩ :: others

/-- The segments of a path after its first one. -/
def segments (isLast : Bool) : List Token → Except OptionError (List String × List Token)
  | .mark ':' true :: .mark ':' _ :: .word next :: rest => do
      let (more, left) ← segments isLast rest
      return (next :: more, left)
  | .mark ':' true :: .mark ':' _ :: rest => .error (.brokenPath (rest.isEmpty && isLast))
  | rest => .ok ([], rest)

/-- Reads the segments of a path from the first one on. -/
def pathFrom (isGlobal : Bool) (stretch : Stretch) : Except OptionError (Path × Stretch) :=
  match stretch.tokens with
  | .word first :: rest => do
      let (more, left) ← segments stretch.isLast rest
      return (⟨isGlobal, first :: more⟩, stretch.goOn left)
  | [] => .error (if stretch.isLast then .missing else .strayToken)
  | other => .error (if Token.startsLiteral other then .literal else .strayToken)

/-- Reads a path. -/
def path (stretch : Stretch) : Except OptionError (Path × Stretch) :=
  match stretch.tokens with
  | .mark ':' true :: .mark ':' _ :: rest => pathFrom true (stretch.goOn rest)
  | _ => pathFrom false stretch

/-- Reads an equals sign. -/
def equals (stretch : Stretch) : Except OptionError Stretch :=
  match stretch.tokens with
  | .mark '=' _ :: rest => .ok (stretch.goOn rest)
  | _ => .error .noEquals

/-- Reads an identifier. -/
def identifier (stretch : Stretch) : Except OptionError (String × Stretch) :=
  match stretch.tokens with
  | .word text :: rest =>
      if Token.keywords.contains text then .error (.keyword text) else .ok (text, stretch.goOn rest)
  | _ => .error (.noIdentifier stretch.isAtEnd)

/-- Reads a truth value. -/
def truth (stretch : Stretch) : Except OptionError (Bool × Stretch) :=
  match stretch.tokens with
  | .word "true" :: rest => .ok (true, stretch.goOn rest)
  | .word "false" :: rest => .ok (false, stretch.goOn rest)
  | _ => .error (.noTruthValue stretch.isAtEnd)

/-- Reads a group in parentheses. -/
def parentheses (stretch : Stretch) : Except OptionError (List Token × Stretch) :=
  match stretch.tokens with
  | .group .parenthesis inner :: rest => .ok (inner, stretch.goOn rest)
  | _ => .error (.noParentheses stretch.isAtEnd)

end Stretch

/-- What an option means: it may read on after its path and changes what was read so far. -/
abbrev Meaning (σ : Type) := Path → Stretch → σ → Except DeclarationError (σ × Stretch)

namespace Meaning

variable {σ : Type}

/-- An error in a list of options is an error in the declaration. -/
def lift {α : Type} : Except OptionError α → Except DeclarationError α
  | .ok result => .ok result
  | .error error => .error (.options error)

/-- Reads one option. -/
def readOne (meaning : Meaning σ) (stretch : Stretch) (soFar : σ) :
    Except DeclarationError σ := do
  let (path, afterPath) ← lift stretch.path
  let (changed, left) ← meaning path afterPath soFar
  if left.tokens.isEmpty then return changed else .error (.options .noComma)

/-- Reads options in order; the last stretch may be empty. -/
def readRest (meaning : Meaning σ) : List Stretch → σ → Except DeclarationError σ
  | [], soFar => .ok soFar
  | stretch :: rest, soFar =>
      if stretch.isAtEnd then .ok soFar
      else do
        let changed ← meaning.readOne stretch soFar
        meaning.readRest rest changed

/-- Reads a list of options that is not empty. -/
def readSome (meaning : Meaning σ) (tokens : List Token) (soFar : σ) :
    Except DeclarationError σ :=
  match Stretch.split tokens with
  | [] => .ok soFar
  | first :: rest => do
      let changed ← meaning.readOne first soFar
      meaning.readRest rest changed

/-- Reads a list of options. -/
def read (meaning : Meaning σ) (tokens : List Token) (soFar : σ) : Except DeclarationError σ :=
  if tokens.isEmpty then .ok soFar else meaning.readSome tokens soFar

end Meaning

/-- Reads paths in parentheses after the path of an option. -/
def readPaths (stretch : Stretch) : Except DeclarationError (List Path × Stretch) := do
  let (inner, left) ← Meaning.lift stretch.parentheses
  let collect : Meaning (List Path) := fun path rest paths => .ok (paths ++ [path], rest)
  let paths ← collect.readSome inner []
  return (paths, left)

/-- Reads the options of all attributes with a name, in order. -/
def readAttributes {σ : Type} (meaning : Meaning σ) (name : String) :
    List Attribute → σ → Except DeclarationError σ
  | [], soFar => .ok soFar
  | first :: rest, soFar =>
      if first.isNamed name then do
        let tokens ← Meaning.lift first.list
        let changed ← meaning.read tokens soFar
        readAttributes meaning name rest changed
      else readAttributes meaning name rest soFar

end Declaration
end EventRelay
