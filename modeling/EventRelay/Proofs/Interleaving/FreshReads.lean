import EventRelay.Proofs.Hierarchy.Reachable
import EventRelay.Proofs.Interleaving.Readings

/-!
# Fresh reads

However tasks are interleaved, there is one node for each kind, and an array that is read after a
listener has been added to the node or to one above it shows the listener. One that is read after
listeners have been removed does not show them any more.
-/

namespace EventRelay

variable {β : Type}

theorem PerPriority.mem_flatten_toList
    {α : Type}
    {table : PerPriority (List α)}
    {element : α} :
    element ∈ table.toList.flatten ↔ ∃ priority, element ∈ table.get priority := by
  simp [toList, Priority.mem_all]

/-! ## What an array shows -/

namespace Flattened

/-- An array contains a listener, in one of its two forms. -/
structure Shows (array : Flattened β) (priority : Priority) (listener : Listener β) : Prop where
  merged : listener ∈ array.merged.get priority
  listeners : listener ∈ array.listeners ∨ listener.unchecked ∈ array.listeners
  phases : ∀ phases, array.phases = some phases →
    listener ∈ phases.get priority ∨ listener.unchecked ∈ phases.get priority

/-- An array contains no entry with an identity. -/
structure Lacks (array : Flattened β) (id : ListenerId) : Prop where
  merged : ∀ priority, ∀ entry ∈ array.merged.get priority, entry.id ≠ id
  listeners : ∀ entry ∈ array.listeners, entry.id ≠ id
  phases : ∀ phases, array.phases = some phases →
    ∀ priority, ∀ entry ∈ phases.get priority, entry.id ≠ id

end Flattened

namespace Node

variable {node : Node β} {priority : Priority}

theorem mem_finish_of_mem
    {listener : Listener β}
    {entries : List (Listener β)}
    (isEntry : listener ∈ entries) :
    listener ∈ node.finish entries ∨ listener.unchecked ∈ node.finish entries := by
  unfold finish
  split
  case isTrue => exact .inl isEntry
  case isFalse => exact .inr (List.mem_map_of_mem isEntry)

theorem exists_of_mem_finish
    {listener : Listener β}
    {entries : List (Listener β)}
    (isFinished : listener ∈ node.finish entries) :
    ∃ entry ∈ entries, listener.id = entry.id := by
  unfold finish at isFinished
  split at isFinished
  case isTrue => exact ⟨listener, isFinished, rfl⟩
  case isFalse =>
    obtain ⟨entry, isEntry, rfl⟩ := List.mem_map.mp isFinished
    exact ⟨entry, isEntry, rfl⟩

/-- Entries of the merged lists are dispatched. -/
theorem shows_flatten
    {tracksPhases : Bool}
    {inherited? : Option (Flattened β)}
    {listener : Listener β}
    (isMerged : listener ∈ (node.flatten tracksPhases inherited?).merged.get priority) :
    (node.flatten tracksPhases inherited?).Shows priority listener where
  merged := isMerged
  listeners :=
    mem_finish_of_mem (PerPriority.mem_flatten_toList.mpr ⟨priority, isMerged⟩)
  phases := by
    intro phases isPhases
    simp only [flatten] at isPhases
    split at isPhases
    case isTrue =>
      cases isPhases
      rw [PerPriority.get_map]
      exact mem_finish_of_mem isMerged
    case isFalse => cases isPhases

/-- Nothing is dispatched but entries of the merged lists. -/
theorem lacks_flatten
    {tracksPhases : Bool}
    {inherited? : Option (Flattened β)}
    {id : ListenerId}
    (isOut : ∀ priority, ∀ entry ∈ (node.flatten tracksPhases inherited?).merged.get priority,
      entry.id ≠ id) :
    (node.flatten tracksPhases inherited?).Lacks id where
  merged := isOut
  listeners := by
    intro entry isEntry
    obtain ⟨source, isSource, sameId⟩ := exists_of_mem_finish isEntry
    obtain ⟨priority, isMerged⟩ := PerPriority.mem_flatten_toList.mp isSource
    rw [sameId]
    exact isOut priority source isMerged
  phases := by
    intro phases isPhases priority entry isEntry
    simp only [flatten] at isPhases
    split at isPhases
    case isTrue =>
      cases isPhases
      rw [PerPriority.get_map] at isEntry
      obtain ⟨source, isSource, sameId⟩ := exists_of_mem_finish isEntry
      rw [sameId]
      exact isOut priority source isSource
    case isFalse => cases isPhases

end Node

/-! ## Fresh reads -/

namespace Flattened.IsBuilt

variable {array : Flattened β}

theorem shows
    (isBuilt : array.IsBuilt)
    {priority : Priority}
    {listener : Listener β}
    (isMerged : listener ∈ array.merged.get priority) :
    array.Shows priority listener := by
  obtain ⟨node, tracksPhases, inherited?, rfl⟩ := isBuilt
  exact Node.shows_flatten isMerged

theorem lacks
    (isBuilt : array.IsBuilt)
    {id : ListenerId}
    (isOut : ∀ priority, ∀ entry ∈ array.merged.get priority, entry.id ≠ id) :
    array.Lacks id := by
  obtain ⟨node, tracksPhases, inherited?, rfl⟩ := isBuilt
  exact Node.lacks_flatten isOut

end Flattened.IsBuilt

namespace History

variable {history : History β} {start now low : Nat} {array : Flattened β}

/-- A reading of a node that begins after a moment has returned an array by another one. -/
def Reads (history : History β) (start now id : Nat) (array : Flattened β) : Prop :=
  ∃ reader, (history.crowdAt start).tasks.length ≤ reader ∧
    history.taskAt? now reader = some ⟨.flattened id, .read array⟩

/-- A listener that has been added to a node has been taken out of it again. -/
def Undone (history : History β) (start adder id : Nat) (gone : ListenerId) : Prop :=
  ∃ remover ids taken,
    history.taskAt? start remover = some ⟨.unregisterAll id ids, .marking taken []⟩ ∧
      (∃ entry ∈ taken, entry.id = gone) ∧ history.Precedes adder remover

/-- A listener that has been added is shown, unless it is removed again. -/
theorem shows_of_read
    {adder id : Nat}
    {priority : Priority}
    {listener : Listener β}
    (isReturned : history.taskAt? start adder =
      some ⟨.register id priority listener, .marking [] []⟩)
    (reads : history.Reads start now low array)
    (isAbove : id ∈ (history.indexAt now).lineage low)
    (kept : ∀ {remover ids}, (history.crowdAt now).Asked remover (.unregisterAll id ids) →
      listener.id ∈ ids → history.Precedes remover adder) :
    array.Shows priority listener := by
  obtain ⟨reader, begins, isRead⟩ := reads
  obtain ⟨read, composes, knows⟩ := exists_composes begins isRead
  have changed := knows isReturned .add isAbove
  obtain ⟨moment, isEarlier, isChanging, isChanged, next, does⟩ :=
    exists_change changed (asked_of_hasChanged changed ⟨_, isReturned⟩) rfl
  have isAdded := does.mem_of_register (isFor isChanging)
  have isEntry : listener ∈ (history.indexAt (read id)).ownAt id priority := by
    refine entry_stays isEarlier isAdded fun asked isListed _ => ?_
    obtain ⟨before, removed, notAdded⟩ :=
      kept ((history.run (composes.inTime id)).asked asked) isListed
    have isBefore : before ≤ moment + 1 := Nat.le_of_not_lt fun isLater =>
      notAdded ((history.run (Nat.le_of_lt isLater)).changed isChanged)
    exact (history.run isBefore).changed removed
  refine composes.isBuilt.shows ?_
  rw [composes.merged]
  exact List.mem_flatMap.mpr ⟨id, isAbove, isEntry⟩

/-- A listener is not shown whose addings have all been undone. -/
theorem lacks_of_read
    {gone : ListenerId}
    (reads : history.Reads start now low array)
    (undone : ∀ {adder id priority listener},
      (history.crowdAt now).Asked adder (.register id priority listener) →
      listener.id = gone → id ∈ (history.indexAt now).lineage low →
      history.Undone start adder id gone) :
    array.Lacks gone := by
  obtain ⟨reader, begins, isRead⟩ := reads
  obtain ⟨read, composes, knows⟩ := exists_composes begins isRead
  refine composes.isBuilt.lacks fun priority entry isMerged sameId => ?_
  rw [composes.merged] at isMerged
  obtain ⟨id, isAbove, isEntry⟩ := List.mem_flatMap.mp isMerged
  obtain ⟨adder, added, isLast⟩ := exists_adder isEntry
  obtain ⟨remover, ids, taken, isReturned, ⟨out, isTaken, sameOut⟩, precedes⟩ :=
    undone ((history.run (composes.inTime id)).asked added) sameId isAbove
  have changed := knows isReturned (.takeOut (List.ne_nil_of_mem isTaken)) isAbove
  have isListed : entry.id ∈ ids := by
    rw [sameId, ← sameOut]
    exact mem_of_mem_taken isReturned isTaken
  exact precedes.not_precedes
    (isLast (asked_of_hasChanged changed ⟨_, isReturned⟩) isListed changed)

/-! ## The whole -/

/-- What can be relied on, however tasks are interleaved. -/
structure Dependable (history : History β) : Prop where
  /-- There is at most one node for each kind. -/
  single : ∀ {moment first second one other},
    (history.indexAt moment).node? first = some one →
    (history.indexAt moment).node? second = some other → one.kind.id = other.kind.id →
    first = second
  /-- Whoever has asked for the node of a kind has been given this one. -/
  answers : ∀ {moment number kind id},
    history.taskAt? moment number = some ⟨.nodeFor kind, .answered (.ok id)⟩ →
    ∃ node, (history.indexAt moment).node? id = some node ∧ node.kind.id = kind.id
  /-- A reading that begins after a listener has been added to the node or to one above it shows
  the listener, if each removal of it that is asked for by the end of the reading changes the
  bucket before the adding does. -/
  shows : ∀ {start now adder id low priority listener array},
    history.taskAt? start adder = some ⟨.register id priority listener, .marking [] []⟩ →
    history.Reads start now low array → id ∈ (history.indexAt now).lineage low →
    (∀ {remover ids}, (history.crowdAt now).Asked remover (.unregisterAll id ids) →
      listener.id ∈ ids → history.Precedes remover adder) →
    array.Shows priority listener
  /-- A reading that begins after removals have returned does not show a listener, if each adding
  of it to the node or to one above it that is asked for by the end of the reading has changed
  the bucket before one of these removals, which has taken the listener out of there. -/
  lacks : ∀ {start now low gone array}, history.Reads start now low array →
    (∀ {adder id priority listener},
      (history.crowdAt now).Asked adder (.register id priority listener) →
      listener.id = gone → id ∈ (history.indexAt now).lineage low →
      history.Undone start adder id gone) →
    array.Lacks gone

/-- However tasks are interleaved, there is one node for each kind, and readings are fresh. -/
theorem dependable (history : History β) : history.Dependable where
  single := by
    intro moment first second one other isOne isOther sameKind
    have shaped := (history.sound moment).shaped
    have known : (history.indexAt moment).lookup? one.kind.id = some first :=
      shaped.lookup?_iff.mpr (by simp [isOne])
    have knownToo : (history.indexAt moment).lookup? one.kind.id = some second :=
      shaped.lookup?_iff.mpr (by simp [isOther, sameKind])
    rw [known] at knownToo
    exact Option.some.inj knownToo
  answers := by
    intro moment number kind id isAnswered
    have sound := history.sound moment
    obtain ⟨asked, same, known⟩ := sound.suits isAnswered
    cases same
    exact Option.map_eq_some_iff.mp (sound.shaped.lookup?_iff.mp known)
  shows := shows_of_read
  lacks := lacks_of_read

end History

/-! ### A listener that comes and goes during readings -/

namespace History

open Index.Reachable (alarm drill sampleListener)

/-- A listener for alarms. -/
def guest : Listener Unit := sampleListener 1 alarm .normal

/-- The listener is added while somebody reads the drills who has already found that they inherit
nothing, and it is removed during another reading. Drills are read after each of these. -/
def visit : History Unit := .ofTurns true <| List.flatten
  [[.begin (.nodeFor drill)], List.replicate 10 (.advance 0),
    [.begin (.flattened 1)], List.replicate 14 (.advance 1),
    [.begin (.register 0 .normal guest)], [2, 2, 1, 1, 2, 2, 2, 2].map .advance,
    [.begin (.flattened 1)], List.replicate 16 (.advance 3),
    [.begin (.unregisterAll 0 [guest.id]), .begin (.flattened 1)],
    [4, 5, 5, 4, 4, 4, 4, 4].map .advance,
    [.begin (.flattened 1)], List.replicate 16 (.advance 6)]

/-- What drills inherit, as an array of the given generation. -/
def arrayOfDrills (generation : Nat) (inherited : List (Listener Unit)) : Flattened Unit :=
  let table := .ofFn fun priority => if priority = .normal then inherited else []
  ⟨generation, table, inherited, some table⟩

/-- The reading after the listener has come shows it, and the one after it has gone does not. -/
theorem dependable_visit :
    (∃ node, (visit.indexAt 79).node? 1 = some node ∧ node.kind.id = drill.id) ∧
      (∃ array, visit.Reads 35 52 1 array ∧ array.Shows .normal guest) ∧
      ∃ array, visit.Reads 62 79 1 array ∧ array.Lacks guest.id := by
  have answered : visit.taskAt? 79 0 = some ⟨.nodeFor drill, .answered (.ok 1)⟩ := by
    decide +kernel
  have hears : visit.Reads 35 52 1 (arrayOfDrills 2 [guest]) :=
    ⟨3, by decide +kernel, by decide +kernel⟩
  have hearsNothing : visit.Reads 62 79 1 (arrayOfDrills 3 []) :=
    ⟨6, by decide +kernel, by decide +kernel⟩
  refine ⟨visit.dependable.answers answered, ⟨_, hears, ?_⟩, ⟨_, hearsNothing, ?_⟩⟩
  · have isReturned : visit.taskAt? 35 2 =
        some ⟨.register 0 .normal guest, .marking [] []⟩ := by decide +kernel
    have isAbove : 0 ∈ (visit.indexAt 52).lineage 1 := by decide +kernel
    refine visit.dependable.shows isReturned hears isAbove fun {remover ids} asked _ => ?_
    have requests : (visit.crowdAt 52).tasks.map Task.request =
      [.nodeFor drill, .flattened 1, .register 0 .normal guest, .flattened 1] := by decide +kernel
    have isAt := asked.request_eq
    rw [requests] at isAt
    rcases remover with _ | _ | _ | _ | remover <;> cases isAt
  · refine visit.dependable.lacks hearsNothing fun {adder} _ _ _ asked _ _ => ?_
    have requests : (visit.crowdAt 79).tasks.map Task.request =
      [.nodeFor drill, .flattened 1, .register 0 .normal guest, .flattened 1,
        .unregisterAll 0 [guest.id], .flattened 1, .flattened 1] := by decide +kernel
    have isAt := asked.request_eq
    rw [requests] at isAt
    rcases adder with _ | _ | _ | _ | _ | _ | _ | adder <;> cases isAt
    have isTaken : visit.taskAt? 62 4 =
      some ⟨.unregisterAll 0 [guest.id], .marking [guest] []⟩ := by decide +kernel
    have isChanging : visit.taskAt? 53 4 = some ⟨.unregisterAll 0 [guest.id], .changing⟩ := by
      decide +kernel
    have isAdded : visit.taskAt? 53 2 = some ⟨.register 0 .normal guest, .marking [] []⟩ := by
      decide +kernel
    exact ⟨4, _, _, isTaken, ⟨guest, List.mem_singleton_self _, rfl⟩, 53,
      Crowd.hasChanged_of_marking isAdded, Crowd.not_hasChanged isChanging⟩

end History
end EventRelay
