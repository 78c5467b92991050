import EventRelay.Declaration.EventType
import Mathlib.Data.List.Forall2

/-!
# Options as they are written

A list of options is well formed if it consists of options between commas, with or without a
comma at its end. An option is a path and nothing else, or the word `markers` with a list of
paths in parentheses, which is not empty. Whatever an option means, the options of a well-formed
list are read one after the other, up to the first one that is turned down, and so are those of
several attributes.

So what a reading of attributes comes to can be said without their tokens: it goes over the list
of the options that are written there.
-/

namespace EventRelay
namespace Declaration

variable {σ α ε : Type}

/-! ## What is well formed -/

/-- The segments of a path after its first one, as they are written. -/
inductive SegmentsWritten : List String → List Token → Prop
  | nil : SegmentsWritten [] []
  | cons {next : String} {rest : List String} {tokens : List Token} (isJoint : Bool) :
      SegmentsWritten rest tokens →
      SegmentsWritten (next :: rest) (.mark ':' true :: .mark ':' isJoint :: .word next :: tokens)

/-- A path as it is written. -/
inductive Path.Written : Path → List Token → Prop
  | plain {first : String} {rest : List String} {tokens : List Token} :
      SegmentsWritten rest tokens → Written ⟨false, first :: rest⟩ (.word first :: tokens)
  /-- The path starts with a double colon. -/
  | global {first : String} {rest : List String} {tokens : List Token} (isJoint : Bool) :
      SegmentsWritten rest tokens →
      Written ⟨true, first :: rest⟩
        (.mark ':' true :: .mark ':' isJoint :: .word first :: tokens)

/-- Elements between commas as they are written. There is at least one. -/
inductive Listed (written : α → Stretch → Prop) : List α → List Token → Prop
  | last {element : α} {tokens : List Token} :
      written element ⟨tokens, true⟩ → Listed written [element] tokens
  /-- A comma stands at the end. -/
  | closed {element : α} {tokens : List Token} (isJoint : Bool) :
      written element ⟨tokens, false⟩ →
      Listed written [element] (tokens ++ [.mark ',' isJoint])
  | more {element : α} {rest : List α} {tokens others : List Token} (isJoint : Bool) :
      written element ⟨tokens, false⟩ → Listed written rest others →
      Listed written (element :: rest) (tokens ++ .mark ',' isJoint :: others)

/-- An option of an attribute. -/
structure WrittenOption where
  path : Path
  /-- The paths in parentheses that follow, if there are parentheses. -/
  arguments? : Option (List Path)
  /-- No comma follows. -/
  isLast : Bool

/-- An option as it is written. -/
inductive WrittenOption.Written : WrittenOption → Stretch → Prop
  | bare {path : Path} {tokens : List Token} (isLast : Bool) :
      path.Written tokens → Written ⟨path, none, isLast⟩ ⟨tokens, isLast⟩
  | markers {paths : List Path} {inner : List Token} (isLast : Bool) :
      Listed (fun path stretch => path.Written stretch.tokens) paths inner →
      Written ⟨⟨false, ["markers"]⟩, some paths, isLast⟩
        ⟨[.word "markers", .group .parenthesis inner], isLast⟩

/-- The options that are written in the attributes of a name, in source order. Other attributes
may say anything. -/
inductive OptionsWritten (name : String) : List Attribute → List WrittenOption → Prop
  | nil : OptionsWritten name [] []
  | other {tag : Attribute} {rest : List Attribute} {options : List WrittenOption} :
      tag.isNamed name = false → OptionsWritten name rest options →
      OptionsWritten name (tag :: rest) options
  /-- The list of the attribute is empty. -/
  | empty {rest : List Attribute} {options : List WrittenOption} (delimiter : Delimiter) :
      OptionsWritten name rest options →
      OptionsWritten name (⟨[.word name], .list delimiter []⟩ :: rest) options
  | listed {rest : List Attribute} {own others : List WrittenOption} {tokens : List Token}
      (delimiter : Delimiter) :
      Listed WrittenOption.Written own tokens → OptionsWritten name rest others →
      OptionsWritten name (⟨[.word name], .list delimiter tokens⟩ :: rest) (own ++ others)

/-! ## Commas -/

/-- There is no comma among the tokens. -/
def Unbroken (tokens : List Token) : Prop := ∀ token ∈ tokens, token.isComma = false

theorem SegmentsWritten.unbroken
    {segments : List String}
    {tokens : List Token}
    (written : SegmentsWritten segments tokens) :
    Unbroken tokens := by
  induction written with
  | nil => exact nofun
  | cons isJoint _ inductionHypothesis =>
      simp only [Unbroken, List.forall_mem_cons]
      exact ⟨rfl, rfl, rfl, inductionHypothesis⟩

theorem Path.Written.unbroken
    {path : Path}
    {tokens : List Token}
    (written : path.Written tokens) :
    Unbroken tokens ∧ tokens ≠ [] := by
  cases written with
  | plain segments =>
      simp only [Unbroken, List.forall_mem_cons]
      exact ⟨⟨rfl, segments.unbroken⟩, List.cons_ne_nil _ _⟩
  | global isJoint segments =>
      simp only [Unbroken, List.forall_mem_cons]
      exact ⟨⟨rfl, rfl, rfl, segments.unbroken⟩, List.cons_ne_nil _ _⟩

theorem WrittenOption.Written.unbroken
    {option : WrittenOption}
    {stretch : Stretch}
    (written : option.Written stretch) :
    Unbroken stretch.tokens ∧ stretch.tokens ≠ [] := by
  cases written with
  | bare isLast path => exact path.unbroken
  | markers isLast paths =>
      simp only [Unbroken, List.forall_mem_cons]
      exact ⟨⟨rfl, rfl, nofun⟩, List.cons_ne_nil _ _⟩

namespace Stretch

theorem split_of_unbroken
    {tokens : List Token}
    (unbroken : Unbroken tokens) :
    split tokens = [⟨tokens, true⟩] := by
  induction tokens with
  | nil => rfl
  | cons first rest inductionHypothesis =>
      obtain ⟨noComma, restUnbroken⟩ := List.forall_mem_cons.mp unbroken
      rw [split, noComma, if_neg Bool.false_ne_true, inductionHypothesis restUnbroken]

theorem split_append_comma
    {tokens : List Token}
    (unbroken : Unbroken tokens)
    (isJoint : Bool)
    (others : List Token) :
    split (tokens ++ .mark ',' isJoint :: others) = ⟨tokens, false⟩ :: split others := by
  induction tokens with
  | nil => rfl
  | cons first rest inductionHypothesis =>
      obtain ⟨noComma, restUnbroken⟩ := List.forall_mem_cons.mp unbroken
      rw [List.cons_append, split, noComma, if_neg Bool.false_ne_true,
        inductionHypothesis restUnbroken]

end Stretch

/-- A list is split into its elements. Behind a comma at the end there is an empty stretch. -/
theorem Listed.split
    {written : α → Stretch → Prop}
    (unbroken : ∀ {element stretch}, written element stretch → Unbroken stretch.tokens)
    {elements : List α}
    {tokens : List Token}
    (listed : Listed written elements tokens) :
    ∃ stretches rest, Stretch.split tokens = stretches ++ rest ∧
      List.Forall₂ written elements stretches ∧ elements ≠ [] ∧
      (rest = [] ∨ rest = [⟨[], true⟩]) := by
  induction listed with
  | last isElement =>
      exact ⟨[_], [], Stretch.split_of_unbroken (unbroken isElement), .cons isElement .nil,
        List.cons_ne_nil _ _, .inl rfl⟩
  | closed isJoint isElement =>
      exact ⟨[_], [_], Stretch.split_append_comma (unbroken isElement) isJoint [],
        .cons isElement .nil, List.cons_ne_nil _ _, .inr rfl⟩
  | more isJoint isElement _ inductionHypothesis =>
      obtain ⟨stretches, rest, isSplit, areWritten, -, ends⟩ := inductionHypothesis
      refine ⟨_ :: stretches, rest, ?_, .cons isElement areWritten, List.cons_ne_nil _ _, ends⟩
      rw [Stretch.split_append_comma (unbroken isElement), isSplit, List.cons_append]

/-! ## Reading paths -/

namespace Stretch

/-- No segment of a path starts with these tokens. -/
def EndsPath (tokens : List Token) : Prop :=
  ∀ isLast, segments isLast tokens = .ok ([], tokens)

theorem segments_of_written
    {rest : List String}
    {tokens tail : List Token}
    (written : SegmentsWritten rest tokens)
    (ends : EndsPath tail)
    (isLast : Bool) :
    segments isLast (tokens ++ tail) = .ok (rest, tail) := by
  induction written with
  | nil => exact ends isLast
  | cons isJoint _ inductionHypothesis =>
      simp only [List.cons_append, segments, inductionHypothesis]
      rfl

/-- A path is read up to what stands behind it. -/
theorem path_of_written_append
    {path : Path}
    {tokens tail : List Token}
    (written : path.Written tokens)
    (ends : EndsPath tail)
    (isLast : Bool) :
    Stretch.path ⟨tokens ++ tail, isLast⟩ = .ok (path, ⟨tail, isLast⟩) := by
  cases written with
  | plain rest =>
      simp only [Stretch.path, pathFrom, List.cons_append, segments_of_written rest ends isLast]
      rfl
  | global isJoint rest =>
      simp only [Stretch.path, pathFrom, goOn, List.cons_append,
        segments_of_written rest ends isLast]
      rfl

theorem path_of_written
    {path : Path}
    {tokens : List Token}
    (written : path.Written tokens)
    (isLast : Bool) :
    Stretch.path ⟨tokens, isLast⟩ = .ok (path, ⟨[], isLast⟩) := by
  have ends : EndsPath [] := fun _ => rfl
  have found := path_of_written_append written ends isLast
  rwa [List.append_nil] at found

end Stretch

/-! ## Reading lists -/

/-- An option is read as its path and what this path means in front of what is left. -/
theorem Meaning.readOne_eq
    {meaning : Meaning σ}
    {stretch left : Stretch}
    {path : Path}
    {soFar : σ}
    {outcome : Except DeclarationError σ}
    {isLast : Bool}
    (found : stretch.path = .ok (path, left))
    (means : meaning path left soFar = outcome.map fun changed => (changed, ⟨[], isLast⟩)) :
    meaning.readOne stretch soFar = outcome := by
  have goesOn : meaning.readOne stretch soFar = (do
      let read ← lift stretch.path
      let applied ← meaning read.1 read.2 soFar
      if applied.2.tokens.isEmpty then return applied.1 else .error (.options .noComma)) := rfl
  rw [goesOn, found]
  change (meaning path left soFar >>= _) = _
  rw [means]
  cases outcome <;> rfl

/-- A meaning reads an element, however it is written, as one step. -/
structure Meaning.Reads (meaning : Meaning σ) (written : α → Stretch → Prop)
    (step : σ → α → Except DeclarationError σ) : Prop where
  unbroken : ∀ {element stretch}, written element stretch →
    Unbroken stretch.tokens ∧ stretch.tokens ≠ []
  readOne : ∀ {element stretch}, written element stretch → ∀ soFar,
    meaning.readOne stretch soFar = step soFar element

namespace Meaning.Reads

variable {meaning : Meaning σ} {written : α → Stretch → Prop}
  {step : σ → α → Except DeclarationError σ}

theorem readRest
    (reads : meaning.Reads written step)
    {elements : List α}
    {stretches rest : List Stretch}
    (areWritten : List.Forall₂ written elements stretches)
    (ends : rest = [] ∨ rest = [⟨[], true⟩])
    (soFar : σ) :
    meaning.readRest (stretches ++ rest) soFar = elements.foldlM step soFar := by
  induction areWritten generalizing soFar with
  | nil => rcases ends with rfl | rfl <;> rfl
  | @cons element stretch elements stretches isWritten _ inductionHypothesis =>
      have notAtEnd : stretch.isAtEnd = false := by
        rw [Stretch.isAtEnd, List.isEmpty_eq_false_iff.mpr (reads.unbroken isWritten).2,
          Bool.false_and]
      rw [List.cons_append, Meaning.readRest, notAtEnd, if_neg Bool.false_ne_true,
        reads.readOne isWritten, List.foldlM_cons]
      exact congrArg _ (funext inductionHypothesis)

theorem readSome
    (reads : meaning.Reads written step)
    {elements : List α}
    {tokens : List Token}
    (listed : Listed written elements tokens)
    (soFar : σ) :
    meaning.readSome tokens soFar = elements.foldlM step soFar := by
  obtain ⟨stretches, rest, isSplit, areWritten, someElements, ends⟩ :=
    listed.split fun isWritten => (reads.unbroken isWritten).1
  rw [Meaning.readSome, isSplit]
  cases areWritten with
  | nil => exact absurd rfl someElements
  | cons isWritten others =>
      rw [List.foldlM_cons, ← reads.readOne isWritten]
      exact congrArg _ (funext fun changed => reads.readRest others ends changed)

theorem ne_nil
    (reads : meaning.Reads written step)
    {elements : List α}
    {tokens : List Token}
    (listed : Listed written elements tokens) :
    tokens ≠ [] := by
  cases listed with
  | last isElement => exact (reads.unbroken isElement).2
  | closed isJoint _ => exact List.append_ne_nil_of_right_ne_nil _ (List.cons_ne_nil _ _)
  | more isJoint _ _ => exact List.append_ne_nil_of_right_ne_nil _ (List.cons_ne_nil _ _)

end Meaning.Reads

/-- Paths in parentheses are read in their order. -/
theorem readPaths_of_listed
    {paths : List Path}
    {inner : List Token}
    (listed : Listed (fun path stretch => path.Written stretch.tokens) paths inner)
    (isLast : Bool) :
    readPaths ⟨[.group .parenthesis inner], isLast⟩ = .ok (paths, ⟨[], isLast⟩) := by
  let collect : Meaning (List Path) := fun path rest paths => .ok (paths ++ [path], rest)
  have reads : collect.Reads (fun path stretch => path.Written stretch.tokens)
      fun soFar path => .ok (soFar ++ [path]) := by
    refine ⟨Path.Written.unbroken, ?_⟩
    intro path stretch isWritten soFar
    have found : stretch.path = .ok (path, ⟨[], stretch.isLast⟩) :=
      Stretch.path_of_written isWritten stretch.isLast
    rw [Meaning.readOne, found]
    rfl
  have collected (soFar : List Path) :
      paths.foldlM (fun soFar path =>
        (.ok (soFar ++ [path]) : Except DeclarationError (List Path))) soFar =
      .ok (soFar ++ paths) := by
    clear listed
    induction paths generalizing soFar with
    | nil => rw [List.append_nil]; rfl
    | cons first rest inductionHypothesis =>
        rw [List.foldlM_cons]
        exact (inductionHypothesis _).trans (by rw [List.append_assoc, List.singleton_append])
  have found : collect.readSome inner [] = .ok paths :=
    (reads.readSome listed []).trans (collected [])
  have goesOn : readPaths ⟨[.group .parenthesis inner], isLast⟩ =
      collect.readSome inner [] >>= fun paths => .ok (paths, ⟨[], isLast⟩) := rfl
  rw [goesOn, found]
  rfl

/-- The grammar of options asks for a path where the parentheses are empty. -/
example (isLast : Bool) :
    readPaths ⟨[.group .parenthesis []], isLast⟩ = .error (.options .missing) := rfl

theorem Attribute.isNamed_list
    (name : String)
    (delimiter : Delimiter)
    (tokens : List Token) :
    Attribute.isNamed ⟨[.word name], .list delimiter tokens⟩ name = true := by
  simp [isNamed]

/-- The options of all attributes are gone through in order. -/
theorem readAttributes_of_written
    {meaning : Meaning σ}
    {step : σ → WrittenOption → Except DeclarationError σ}
    (reads : meaning.Reads WrittenOption.Written step)
    {name : String}
    {attributes : List Attribute}
    {options : List WrittenOption}
    (written : OptionsWritten name attributes options)
    (soFar : σ) :
    readAttributes meaning name attributes soFar = options.foldlM step soFar := by
  induction written generalizing soFar with
  | nil => rfl
  | other isOther _ inductionHypothesis =>
      rw [readAttributes, isOther, if_neg Bool.false_ne_true]
      exact inductionHypothesis soFar
  | empty delimiter _ inductionHypothesis =>
      rw [readAttributes, if_pos (Attribute.isNamed_list ..)]
      exact inductionHypothesis soFar
  | @listed rest own others tokens delimiter listed _ inductionHypothesis =>
      have someTokens : tokens.isEmpty = false :=
        List.isEmpty_eq_false_iff.mpr (reads.ne_nil listed)
      rw [readAttributes, if_pos (Attribute.isNamed_list ..), List.foldlM_append,
        ← reads.readSome listed]
      change meaning.read tokens soFar >>=
        (fun changed => readAttributes meaning name rest changed) = _
      rw [Meaning.read, someTokens, if_neg Bool.false_ne_true]
      exact congrArg _ (funext inductionHypothesis)

/-! ## Going through a list -/

/-- What is to be said against the elements of a list, in order. What is said against one may
depend on those before it. -/
def objectionsAfter (objection? : List α → α → Option ε) : List α → List α → List ε
  | _, [] => []
  | earlier, element :: rest =>
      (objection? earlier element).toList ++ objectionsAfter objection? (earlier ++ [element]) rest

theorem objectionsAfter_of_independent
    (objection? : α → Option ε)
    (earlier elements : List α) :
    objectionsAfter (fun _ element => objection? element) earlier elements =
      elements.filterMap objection? := by
  induction elements generalizing earlier with
  | nil => rfl
  | cons element rest inductionHypothesis =>
      rw [objectionsAfter, inductionHypothesis, List.filterMap_cons]
      cases objection? element <;> rfl

theorem objectionsAfter_ne_nil_iff
    {objection? : List α → α → Option ε}
    {earlier elements : List α} :
    objectionsAfter objection? earlier elements ≠ [] ↔
      ∃ before element after, elements = before ++ element :: after ∧
        (objection? (earlier ++ before) element).isSome = true := by
  induction elements generalizing earlier with
  | nil => simp [objectionsAfter]
  | cons first rest inductionHypothesis =>
      rw [objectionsAfter, ne_eq, List.append_eq_nil_iff, not_and_or]
      refine (or_congr_right inductionHypothesis).trans ⟨?_, ?_⟩
      · rintro (atOnce | ⟨before, element, after, rfl, objected⟩)
        · refine ⟨[], first, rest, rfl, ?_⟩
          cases isObjection : objection? earlier first with
          | none => simp [isObjection] at atOnce
          | some objection => rw [List.append_nil, isObjection]; rfl
        · exact ⟨first :: before, element, after, rfl, by simpa using objected⟩
      · rintro ⟨before, element, after, same, objected⟩
        cases before with
        | nil =>
            cases same
            left
            rw [List.append_nil] at objected
            obtain ⟨objection, isObjection⟩ := Option.isSome_iff_exists.mp objected
            simp [isObjection]
        | cons other before =>
            cases same
            exact .inr ⟨before, element, after, rfl, by simpa using objected⟩

/-- A result, unless there is an objection to it. -/
def unlessObjected (objection? : Option ε) (result : σ) : Except ε σ :=
  match objection? with
  | some objection => .error objection
  | none => .ok result

/-- A list is gone through up to the first objection. If there is none, what has been found out
comes from the whole list. -/
theorem foldlM_eq_of_objections
    {objection? : List α → α → Option ε}
    {summary : List α → σ}
    {step : σ → α → Except ε σ}
    (steps : ∀ earlier element, step (summary earlier) element =
      unlessObjected (objection? earlier element) (summary (earlier ++ [element])))
    (earlier rest : List α) :
    rest.foldlM step (summary earlier) =
      unlessObjected (objectionsAfter objection? earlier rest).head?
        (summary (earlier ++ rest)) := by
  induction rest generalizing earlier with
  | nil =>
      rw [List.append_nil]
      rfl
  | cons element rest inductionHypothesis =>
      rw [List.foldlM_cons, steps, objectionsAfter]
      cases objection? earlier element with
      | some objection => rfl
      | none =>
          refine (inductionHypothesis (earlier ++ [element])).trans ?_
          rw [List.append_assoc, List.singleton_append]
          rfl

end Declaration
end EventRelay
