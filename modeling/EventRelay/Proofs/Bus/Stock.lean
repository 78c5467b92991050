import EventRelay.Proofs.Bus.Traffic
import EventRelay.Proofs.Hierarchy.Growth
import Mathlib.Data.List.Flatten

/-!
# The stock of a bus under way

What the nodes hold and what the table lists while registrations are under way. The two need
not agree then. But keys and identities stay apart, and a listener that is held is held once, at
the node of its kind and at its priority. Each single change of the table or of a node keeps
this.
-/

namespace EventRelay

variable {β : Type}

namespace Index

/-- A node holds a listener, at whichever priority. -/
def Stores (index : Index β) (id : Nat) (entry : Listener β) : Prop :=
  ∃ priority, entry ∈ index.ownAt id priority

theorem stores_register
    {index : Index β}
    {id : Nat}
    (old : id < index.size)
    (priority : Priority)
    (listener : Listener β)
    {other : Nat}
    {entry : Listener β} :
    (index.register id priority listener).Stores other entry ↔
      index.Stores other entry ∨ id = other ∧ entry = listener := by
  simp only [Stores, ownAt_register old, List.mem_append, exists_or]
  refine or_congr_right ⟨?_, ?_⟩
  · rintro ⟨level, isNew⟩
    split at isNew
    case isTrue same => exact ⟨same.1, List.mem_singleton.mp isNew⟩
    case isFalse => cases isNew
  · rintro ⟨same, rfl⟩
    exact ⟨priority, by simp [same]⟩

theorem stores_unregisterAll
    (index : Index β)
    (id : Nat)
    (listeners : List ListenerId)
    {other : Nat}
    {entry : Listener β} :
    (index.unregisterAll id listeners).Stores other entry ↔
      index.Stores other entry ∧ (id = other → entry.id ∉ listeners) := by
  simp only [Stores, ownAt_unregisterAll]
  by_cases same : id = other
  · simp [same]
  · simp [same]

end Index

theorem Bus.mem_registeredListeners
    {bus : Bus β}
    {entry : Listener β} :
    entry ∈ bus.registeredListeners ↔ ∃ record ∈ bus.registrations, entry ∈ record.2 :=
  List.mem_flatMap

/-- A record is found under its key. -/
theorem Bus.registered?_of_mem
    {bus : Bus β}
    (keys : (bus.registrations.map Prod.fst).Nodup)
    {key : Key}
    {listeners : List (Listener β)}
    (isRecord : (key, listeners) ∈ bus.registrations) :
    bus.registered? key = some listeners := by
  obtain ⟨before, after, table⟩ := List.append_of_mem isRecord
  refine List.lookup_eq_some_iff.mpr ⟨before, after, table, fun earlier isEarlier => ?_⟩
  rw [table, List.map_append] at keys
  have differs := (List.nodup_append.mp keys).2.2 _ (List.mem_map_of_mem isEarlier) key
    (List.mem_map_of_mem (List.mem_cons_self ..))
  simpa using differs.symm

theorem Bus.mem_of_registered?
    {bus : Bus β}
    {key : Key}
    {listeners : List (Listener β)}
    (found : bus.registered? key = some listeners) :
    (key, listeners) ∈ bus.registrations := by
  obtain ⟨before, after, table, -⟩ := List.lookup_eq_some_iff.mp found
  rw [table]
  exact List.mem_append_right _ List.mem_cons_self

theorem Bus.registeredListeners_addRecord
    (bus : Bus β)
    (key : Key)
    (listeners : List (Listener β)) :
    (bus.addRecord key listeners).registeredListeners = bus.registeredListeners ++ listeners := by
  simp [Bus.registeredListeners, Bus.addRecord]

namespace Bus

/-- The listeners, the table and the gauge stay as they are. -/
structure Retains (bus later : Bus β) : Prop where
  coherent : later.index.Coherent
  lookup : ∀ {kindId node}, bus.index.lookup? kindId = some node →
    later.index.lookup? kindId = some node
  own : ∀ node priority, later.index.ownAt node priority = bus.index.ownAt node priority
  table : later.registrations = bus.registrations
  gauge : ∀ metrics ∈ later.metrics?, ∃ before ∈ bus.metrics?,
    metrics.listeners = before.listeners

theorem Retains.registeredListeners
    {bus later : Bus β}
    (retains : bus.Retains later) :
    later.registeredListeners = bus.registeredListeners :=
  congrArg (List.flatMap Prod.snd) retains.table

theorem Retains.stores
    {bus later : Bus β}
    (retains : bus.Retains later)
    {node : Nat}
    {entry : Listener β} :
    later.index.Stores node entry ↔ bus.index.Stores node entry := by
  simp only [Index.Stores, retains.own]

/-- A bus while calls are under way. The identities of all its listeners are among the used
ones. -/
structure Stocked (used : List ListenerId) (bus : Bus β) : Prop where
  coherent : bus.index.Coherent
  /-- No key is taken twice. -/
  keys : (bus.registrations.map Prod.fst).Nodup
  /-- No identity is registered twice. -/
  ids : (bus.registeredListeners.map Listener.id).Nodup
  /-- A node holds listeners for its kind, each at its priority. -/
  placed : ∀ node priority, ∀ entry ∈ bus.index.ownAt node priority,
    bus.index.lookup? entry.kind.id = some node ∧ entry.priority = priority
  /-- No node holds a listener twice. -/
  once : ∀ node priority, (bus.index.ownAt node priority).Nodup
  registered : ∀ entry ∈ bus.registeredListeners, entry.id ∈ used
  held : ∀ node entry, bus.index.Stores node entry → entry.id ∈ used

namespace Stocked

variable {used : List ListenerId} {bus : Bus β}

/-- Only the listener lists and the table matter. -/
theorem congr
    (stocked : bus.Stocked used)
    {later : Bus β}
    (sameIndex : later.index = bus.index)
    (sameTable : later.registrations = bus.registrations) :
    later.Stocked used := by
  obtain ⟨config, checksTypes, index, registrations, isShutdown, metrics?⟩ := later
  cases sameIndex
  cases sameTable
  exact ⟨stocked.coherent, stocked.keys, stocked.ids, stocked.placed, stocked.once,
    stocked.registered, stocked.held⟩

theorem mono
    (stocked : bus.Stocked used)
    {more : List ListenerId}
    (grows : used ⊆ more) :
    bus.Stocked more :=
  { stocked with
    registered := fun entry isRegistered => grows (stocked.registered entry isRegistered)
    held := fun node entry isHeld => grows (stocked.held node entry isHeld) }

/-- What retains the listeners keeps them in their places. -/
theorem retains
    (stocked : bus.Stocked used)
    {later : Bus β}
    (retains : bus.Retains later) :
    later.Stocked used where
  coherent := retains.coherent
  keys := by
    rw [retains.table]
    exact stocked.keys
  ids := by
    rw [retains.registeredListeners]
    exact stocked.ids
  placed := by
    intro node priority entry isHeld
    rw [retains.own] at isHeld
    obtain ⟨found, level⟩ := stocked.placed node priority entry isHeld
    exact ⟨retains.lookup found, level⟩
  once := by
    intro node priority
    rw [retains.own]
    exact stocked.once node priority
  registered := by
    rw [retains.registeredListeners]
    exact stocked.registered
  held node entry isHeld := stocked.held node entry (retains.stores.mp isHeld)

theorem lt_size
    (stocked : bus.Stocked used)
    {kindId : String}
    {node : Nat}
    (found : bus.index.lookup? kindId = some node) :
    node < bus.index.size := by
  obtain ⟨_, present, -⟩ := stocked.coherent.arena.exists_of_lookup? found
  exact Index.node?_lt_size present

theorem addRecord
    (stocked : bus.Stocked used)
    {key : Key}
    (free : bus.isRegistered key = false)
    {listeners : List (Listener β)}
    (ids : (listeners.map Listener.id).Nodup)
    (untaken : ∀ entry ∈ listeners, ∀ registered ∈ bus.registeredListeners,
      registered.id ≠ entry.id)
    (areUsed : ∀ entry ∈ listeners, entry.id ∈ used) :
    (bus.addRecord key listeners).Stocked used where
  coherent := stocked.coherent
  keys := by
    rw [Bus.addRecord, List.map_append]
    refine List.nodup_append.mpr ⟨stocked.keys, List.nodup_singleton _, ?_⟩
    intro taken isTaken other isKey same
    rw [same, List.mem_singleton.mp isKey] at isTaken
    exact key_not_mem free isTaken
  ids := by
    rw [registeredListeners_addRecord, List.map_append]
    refine List.nodup_append.mpr ⟨stocked.ids, ids, ?_⟩
    intro old isOld new isNew
    obtain ⟨registered, isRegistered, rfl⟩ := List.mem_map.mp isOld
    obtain ⟨entry, isEntry, rfl⟩ := List.mem_map.mp isNew
    exact untaken entry isEntry registered isRegistered
  placed := stocked.placed
  once := stocked.once
  registered := by
    intro entry isRegistered
    rw [registeredListeners_addRecord, List.mem_append] at isRegistered
    exact isRegistered.elim (stocked.registered entry) (areUsed entry)
  held := stocked.held

theorem dropRecord
    (stocked : bus.Stocked used)
    (key : Key) :
    (bus.dropRecord key).Stocked used := by
  have fewer : (bus.dropRecord key).registrations.Sublist bus.registrations :=
    List.filter_sublist
  have fewerListeners :
      (bus.dropRecord key).registeredListeners.Sublist bus.registeredListeners :=
    fewer.flatMap _
  exact ⟨stocked.coherent, stocked.keys.sublist (fewer.map _),
    stocked.ids.sublist (fewerListeners.map _), stocked.placed, stocked.once,
    fun entry isRegistered => stocked.registered entry (fewerListeners.subset isRegistered),
    stocked.held⟩

theorem register
    (stocked : bus.Stocked used)
    {node : Nat}
    {entry : Listener β}
    (found : bus.index.lookup? entry.kind.id = some node)
    (absent : ¬ bus.index.Stores node entry)
    (isUsed : entry.id ∈ used) :
    (bus.withIndex (bus.index.register node entry.priority entry)).Stocked used where
  coherent := stocked.coherent.register node entry.priority entry
  keys := stocked.keys
  ids := stocked.ids
  placed := by
    intro other priority held isHeld
    rw [index_withIndex, Index.ownAt_register (stocked.lt_size found), List.mem_append] at isHeld
    rw [index_withIndex, Index.lookup?_of_frame_eq (Index.frame_register ..)]
    rcases isHeld with before | isNew
    · exact stocked.placed other priority held before
    · split at isNew
      case isTrue here =>
        obtain ⟨rfl, rfl⟩ := here
        cases List.mem_singleton.mp isNew
        exact ⟨found, rfl⟩
      case isFalse => cases isNew
  once := by
    intro other priority
    rw [index_withIndex, Index.ownAt_register (stocked.lt_size found)]
    split
    case isTrue here =>
      obtain ⟨rfl, rfl⟩ := here
      refine List.nodup_append.mpr ⟨stocked.once node _, List.nodup_singleton _, ?_⟩
      rintro held isHeld other isNew rfl
      rw [List.mem_singleton.mp isNew] at isHeld
      exact absent ⟨_, isHeld⟩
    case isFalse =>
      rw [List.append_nil]
      exact stocked.once other priority
  registered := stocked.registered
  held := by
    intro other held isHeld
    rw [index_withIndex, Index.stores_register (stocked.lt_size found)] at isHeld
    rcases isHeld with before | ⟨-, rfl⟩
    · exact stocked.held other held before
    · exact isUsed

theorem unregisterAll
    (stocked : bus.Stocked used)
    (node : Nat)
    (listeners : List ListenerId) :
    (bus.withIndex (bus.index.unregisterAll node listeners)).Stocked used := by
  have fewer (other : Nat) (priority : Priority) :
      ((bus.index.unregisterAll node listeners).ownAt other priority).Sublist
        (bus.index.ownAt other priority) := by
    rw [Index.ownAt_unregisterAll]
    split
    case isTrue => exact List.filter_sublist
    case isFalse => exact .refl _
  have sameSlots := Index.lookup?_of_frame_eq (Index.frame_unregisterAll bus.index node listeners)
  refine ⟨stocked.coherent.unregisterAll node listeners, stocked.keys, stocked.ids, ?_, ?_,
    stocked.registered, ?_⟩
  · intro other priority entry isHeld
    rw [index_withIndex, sameSlots]
    exact stocked.placed other priority entry ((fewer other priority).subset isHeld)
  · exact fun other priority => (stocked.once other priority).sublist (fewer other priority)
  · rintro other entry ⟨priority, isHeld⟩
    exact stocked.held other entry ⟨priority, (fewer other priority).subset isHeld⟩

end Stocked
end Bus

end EventRelay
