/-!
# Priorities

Every listener stands at one of five fixed priorities. Posting an event runs all
listeners at `highest` first and those at `lowest` last. A priority that runs
earlier counts as the greater one.

`PerPriority` is a table with one entry for each of the five priorities.
-/

namespace EventRelay

/-- The five levels at which a listener can be registered, in running order. -/
inductive Priority
  | highest
  | high
  | normal
  | low
  | lowest
  deriving DecidableEq

namespace Priority

/-- A listener that names no priority stands at the normal one. -/
instance : Inhabited Priority := ⟨normal⟩

/-- All priorities in running order. -/
def all : List Priority := [highest, high, normal, low, lowest]

/-- Position in running order, zero for `highest`. -/
def ordinal : Priority → Nat
  | highest => 0
  | high => 1
  | normal => 2
  | low => 3
  | lowest => 4

/-- Upper-case name, as diagnostics show it. -/
def name : Priority → String
  | highest => "HIGHEST"
  | high => "HIGH"
  | normal => "NORMAL"
  | low => "LOW"
  | lowest => "LOWEST"

/-- Capitalised name, as declarations and structured texts show it. -/
def label : Priority → String
  | highest => "Highest"
  | high => "High"
  | normal => "Normal"
  | low => "Low"
  | lowest => "Lowest"

/-- Lower-case name, as configuration data writes it. -/
def key : Priority → String
  | highest => "highest"
  | high => "high"
  | normal => "normal"
  | low => "low"
  | lowest => "lowest"

/-- Listeners at `first` run before listeners at `second`. -/
def runsBefore (first second : Priority) : Bool :=
  first.ordinal < second.ordinal

/-- The priority that runs earlier is the greater one. -/
instance : Ord Priority :=
  ⟨fun first second => compare second.ordinal first.ordinal⟩

/-- The greater of two priorities. -/
def max (first second : Priority) : Priority :=
  if first.runsBefore second then first else second

/-- The listed priorities from the lowest to the highest. -/
def ascending (priorities : List Priority) : List Priority :=
  all.reverse.flatMap fun priority => priorities.filter (· = priority)

/-- Equality of texts up to the case of ASCII letters. -/
def sameLetters (first second : String) : Bool :=
  first.toList.map Char.toLower = second.toList.map Char.toLower

/-- The priority with a given name, in any ASCII letter case. -/
def ofName? (text : String) : Option Priority :=
  all.find? fun priority => sameLetters priority.name text

/-- The priority with a given label, in any ASCII letter case. -/
def ofLabel? (text : String) : Option Priority :=
  all.find? fun priority => sameLetters priority.label text

/-- The priority written as `key`; letter case matters. -/
def ofKey? (text : String) : Option Priority :=
  all.find? fun priority => priority.key = text

theorem mem_all (priority : Priority) : priority ∈ all := by
  cases priority <;> simp [all]

end Priority

/-- A table with one entry for each priority. -/
structure PerPriority (α : Type) where
  highest : α
  high : α
  normal : α
  low : α
  lowest : α
  deriving DecidableEq

namespace PerPriority

variable {α β : Type}

/-- The entry of one priority. -/
def get (table : PerPriority α) : Priority → α
  | .highest => table.highest
  | .high => table.high
  | .normal => table.normal
  | .low => table.low
  | .lowest => table.lowest

/-- The table whose entries are given by a function. -/
def ofFn (entry : Priority → α) : PerPriority α where
  highest := entry .highest
  high := entry .high
  normal := entry .normal
  low := entry .low
  lowest := entry .lowest

/-- Replaces the entry of one priority. -/
def set (table : PerPriority α) (priority : Priority) (value : α) : PerPriority α :=
  ofFn fun other => if other = priority then value else table.get other

/-- Applies a function to every entry. -/
def map (function : α → β) (table : PerPriority α) : PerPriority β :=
  ofFn fun priority => function (table.get priority)

/-- The entries in running order. -/
def toList (table : PerPriority α) : List α :=
  Priority.all.map table.get

@[simp] theorem get_ofFn (entry : Priority → α) (priority : Priority) :
    (ofFn entry).get priority = entry priority := by
  cases priority <;> rfl

@[simp] theorem get_set (table : PerPriority α) (priority other : Priority) (value : α) :
    (table.set priority value).get other =
      if other = priority then value else table.get other := by
  simp [set]

@[simp] theorem get_map (function : α → β) (table : PerPriority α) (priority : Priority) :
    (table.map function).get priority = function (table.get priority) := by
  simp [map]

/-- Tables with the same entries are equal. -/
theorem ext_get {first second : PerPriority α}
    (sameEntries : ∀ priority, first.get priority = second.get priority) :
    first = second := by
  obtain ⟨a, b, c, d, e⟩ := first
  obtain ⟨a', b', c', d', e'⟩ := second
  have h0 := sameEntries .highest
  have h1 := sameEntries .high
  have h2 := sameEntries .normal
  have h3 := sameEntries .low
  have h4 := sameEntries .lowest
  simp only [get] at h0 h1 h2 h3 h4
  subst h0 h1 h2 h3 h4
  rfl

end PerPriority
end EventRelay
