import EventRelay.Proofs.Bus.Matched

/-!
# The gauge of registered listeners

A registration moves the gauge by the number of different identities, and a removal moves it
back by the length of the record. Both are the number of listeners as long as every listener
that is registered has an identity of its own. This is so because identities are issued after
each other, even if the checker registers listeners of its own while others are made ready.
-/

namespace EventRelay

variable {β : Type}

namespace Bus

/-- The table of registrations is in order, and the gauge shows its length. -/
structure Ledger (state : Bus β × Nat) : Prop where
  matched : state.1.Matched
  /-- Only issued identities are registered. -/
  le_issued : ∀ entry ∈ state.1.registeredListeners, entry.id.value ≤ state.2
  /-- The gauge shows how many listeners are registered. -/
  gauge : ∀ metrics, state.1.metrics? = some metrics →
    metrics.listeners = state.1.registeredListeners.length

/-- A bus in order goes over to another. -/
structure Evolves (before after : Bus β × Nat) : Prop where
  issued_le : before.2 ≤ after.2
  /-- Kinds keep their nodes. -/
  lookup? : ∀ {kindId id}, before.1.index.lookup? kindId = some id →
    after.1.index.lookup? kindId = some id
  /-- Listeners that come in have got their identities in between. -/
  newer : ∀ entry ∈ after.1.registeredListeners,
    entry ∈ before.1.registeredListeners ∨ before.2 < entry.id.value
  ledger : Ledger after

/-- Nothing but the gauge changes in the metrics. -/
def CountsNothing (before after : Bus β) : Prop :=
  ∀ metrics, before.metrics? = some metrics →
    ∃ listeners, after.metrics? = some { metrics with listeners := listeners }

theorem eraseDups_of_nodup
    {ids : List ListenerId}
    (apart : ids.Nodup) :
    ids.eraseDups = ids := by
  induction ids with
  | nil => rfl
  | cons first rest inductionHypothesis =>
      obtain ⟨isNew, restApart⟩ := List.nodup_cons.mp apart
      have others : rest.filter (fun other => !other == first) = rest := by
        refine List.filter_eq_self.mpr fun other isOther => ?_
        have differs : other ≠ first := fun same => isNew (same ▸ isOther)
        simpa using differs
      rw [List.eraseDups_cons, others, inductionHypothesis restApart]

theorem length_distinctIds
    {pending : Pending β}
    (apart : (pending.map fun entry => entry.2.id).Nodup) :
    (distinctIds pending).length = pending.length := by
  rw [distinctIds, eraseDups_of_nodup apart, List.length_map]

theorem metrics?_commit
    {bus : Bus β}
    {key : Key}
    (free : bus.isRegistered key = false)
    (pending : Pending β) :
    (bus.commit key pending).metrics? =
      bus.metrics?.map (Metrics.addListeners · (distinctIds pending).length) := by
  rw [commit, free, if_neg Bool.false_ne_true]
  rfl

theorem metrics?_unregister
    {bus : Bus β}
    {key : Key}
    {listeners : List (Listener β)}
    (found : bus.registered? key = some listeners) :
    (bus.unregister key).metrics? =
      bus.metrics?.map (Metrics.removeListeners · listeners.length) := by
  rw [unregister, found]
  rfl

theorem countsNothing_commit
    (bus : Bus β)
    (key : Key)
    (pending : Pending β) :
    bus.CountsNothing (bus.commit key pending) := by
  intro metrics shown
  cases free : bus.isRegistered key with
  | true =>
      rw [commit, if_pos free, shown]
      exact ⟨metrics.listeners, rfl⟩
  | false =>
      rw [metrics?_commit free, shown]
      exact ⟨_, rfl⟩

theorem countsNothing_unregister
    (bus : Bus β)
    (key : Key) :
    bus.CountsNothing (bus.unregister key) := by
  intro metrics shown
  cases found : bus.registered? key with
  | none =>
      rw [unregister, found, shown]
      exact ⟨metrics.listeners, rfl⟩
  | some listeners =>
      rw [metrics?_unregister found, shown]
      exact ⟨_, rfl⟩

/-! ## Buses that stay in order -/

namespace Evolves

variable {first middle last : Bus β × Nat}

theorem trans
    (earlier : Evolves first middle)
    (later : Evolves middle last) :
    Evolves first last where
  issued_le := Nat.le_trans earlier.issued_le later.issued_le
  lookup? found := later.lookup? (earlier.lookup? found)
  newer := by
    intro entry isRegistered
    rcases later.newer entry isRegistered with before | isNewer
    · exact earlier.newer entry before
    · exact .inr (Nat.lt_of_le_of_lt earlier.issued_le isNewer)
  ledger := later.ledger

end Evolves

namespace Ledger

variable {bus : Bus β} {issued : Nat}

theorem create
    (config : BusConfig)
    (forcesChecks : Bool)
    {metrics? : Option Metrics}
    (zero : ∀ metrics, metrics? = some metrics → metrics.listeners = 0)
    (issued : Nat) :
    Ledger ((Bus.create config forcesChecks metrics? : Bus β), issued) where
  matched := .create ..
  le_issued := nofun
  gauge := zero

/-- A bus stays in order as long as its table and its gauge are left alone. -/
theorem evolves
    (ledger : Ledger (bus, issued))
    {later : Bus β}
    {more : Nat}
    (fewer : issued ≤ more)
    (nodes : ∀ {kindId id}, bus.index.lookup? kindId = some id →
      later.index.lookup? kindId = some id)
    (matched : later.Matched)
    (sameTable : later.registrations = bus.registrations)
    (sameGauge : later.metrics?.map Metrics.listeners = bus.metrics?.map Metrics.listeners) :
    Evolves (bus, issued) (later, more) := by
  have sameListeners : later.registeredListeners = bus.registeredListeners :=
    congrArg (List.flatMap Prod.snd) sameTable
  refine ⟨fewer, nodes, fun entry isRegistered => .inl (sameListeners ▸ isRegistered), matched,
    fun entry isRegistered => ?_, fun metrics shown => ?_⟩
  · exact Nat.le_trans (ledger.le_issued entry (sameListeners ▸ isRegistered)) fewer
  · rw [shown] at sameGauge
    obtain ⟨before, wasShown, same⟩ := Option.map_eq_some_iff.mp sameGauge.symm
    rw [sameListeners, ← same]
    exact ledger.gauge before wasShown

theorem issue
    (ledger : Ledger (bus, issued))
    {more : Nat}
    (fewer : issued ≤ more) :
    Evolves (bus, issued) (bus, more) :=
  ledger.evolves fewer id ledger.matched rfl rfl

theorem nodeFor
    (ledger : Ledger (bus, issued))
    {kind : Kind}
    {grown : Bus β}
    {id : Nat}
    (made : bus.nodeFor kind = .ok (grown, id)) :
    Evolves (bus, issued) (grown, issued) := by
  obtain ⟨index, madeIndex, rfl⟩ := nodeFor_eq_ok made
  have grows := (Index.nodeFor_grows madeIndex).1
  exact ledger.evolves (Nat.le_refl _) grows.lookup? (ledger.matched.of_growsTo grows) rfl rfl

theorem refresh
    (ledger : Ledger (bus, issued))
    (id : Nat) :
    Evolves (bus, issued) (bus.refresh id, issued) := by
  refine ledger.evolves (Nat.le_refl _) (fun found => ?_) (ledger.matched.refresh id) rfl rfl
  exact (Index.lookup?_of_frame_eq (Index.frame_refresh bus.index id) _).trans found

theorem start (ledger : Ledger (bus, issued)) : Evolves (bus, issued) (bus.start, issued) :=
  ledger.evolves (Nat.le_refl _) id (ledger.matched.congr rfl rfl) rfl rfl

/-- Counting dispatches does not touch the gauge. -/
theorem meter
    (ledger : Ledger (bus, issued))
    {change : Metrics → Metrics}
    (sameGauge : ∀ metrics, (change metrics).listeners = metrics.listeners) :
    Evolves (bus, issued) (bus.meter change, issued) := by
  refine ledger.evolves (Nat.le_refl _) id (ledger.matched.congr rfl rfl) rfl ?_
  rw [Bus.meter, Option.map_map]
  exact congrArg (fun view => bus.metrics?.map view) (funext sameGauge)

theorem unregister
    (ledger : Ledger (bus, issued))
    (key : Key) :
    Evolves (bus, issued) (bus.unregister key, issued) := by
  cases found : bus.registered? key with
  | none =>
      rw [Bus.unregister, found]
      exact ledger.issue (Nat.le_refl _)
  | some listeners =>
      have matched : bus.Matched := ledger.matched
      have left := matched.registeredListeners_unregister found
      have counted := matched.length_registeredListeners_unregister found
      have wasRegistered : ∀ entry ∈ (bus.unregister key).registeredListeners,
          entry ∈ bus.registeredListeners := by
        intro entry isRegistered
        rw [left] at isRegistered
        exact List.mem_of_mem_filter isRegistered
      refine ⟨Nat.le_refl _, fun wasFound => ?_, fun entry isRegistered => ?_, ?_⟩
      · refine (Index.lookup?_of_frame_eq ?_ _).trans wasFound
        rw [Bus.unregister, found, index_meter, Index.frame_purge]
      · exact .inl (wasRegistered entry isRegistered)
      · refine ⟨matched.unregister key, fun entry isRegistered => ?_,
          fun metrics shown => ?_⟩
        · exact ledger.le_issued entry (wasRegistered entry isRegistered)
        · rw [metrics?_unregister found] at shown
          obtain ⟨before, wasShown, rfl⟩ := Option.map_eq_some_iff.mp shown
          have gauge := ledger.gauge before wasShown
          simp only [Metrics.removeListeners] at gauge ⊢
          omega

end Ledger

/-! ## Listeners that are made ready together -/

/-- Listeners have been made ready one after the other, and none of their identities is
registered. -/
structure Batch (first : Bus β × Nat) (pending : Pending β) (last : Bus β × Nat) : Prop where
  evolves : Evolves first last
  node : ∀ entry ∈ pending, last.1.index.lookup? entry.2.kind.id = some entry.1
  first_lt : ∀ entry ∈ pending, first.2 < entry.2.id.value
  le_last : ∀ entry ∈ pending, entry.2.id.value ≤ last.2
  unused : ∀ entry ∈ pending, ∀ registered ∈ last.1.registeredListeners,
    registered.id ≠ entry.2.id
  ascending : pending.Pairwise fun first second => first.2.id.value < second.2.id.value

namespace Batch

variable {first middle last : Bus β × Nat} {bus : Bus β} {issued : Nat}
  {pending early late : Pending β}

theorem nil (evolves : Evolves first last) : Batch first [] last :=
  ⟨evolves, nofun, nofun, nofun, nofun, .nil⟩

theorem single
    (evolves : Evolves first (bus, issued))
    {node : Nat}
    {listener : Listener β}
    (next : listener.id.value = issued + 1)
    (hasNode : bus.index.lookup? listener.kind.id = some node) :
    Batch first [(node, listener)] (bus, issued + 1) where
  evolves := evolves.trans (evolves.ledger.issue (Nat.le_succ issued))
  node := by simpa using hasNode
  first_lt := by
    have before : first.2 ≤ issued := evolves.issued_le
    simp only [List.mem_singleton, forall_eq]
    omega
  le_last := by simp [next]
  unused := by
    simp only [List.mem_singleton, forall_eq]
    intro registered isRegistered same
    have before : registered.id.value ≤ issued := evolves.ledger.le_issued registered isRegistered
    rw [same] at before
    omega
  ascending := List.pairwise_singleton _ _

/-- What happens later leaves listeners ready. -/
theorem later
    (batch : Batch first pending middle)
    (evolves : Evolves middle last) :
    Batch first pending last where
  evolves := batch.evolves.trans evolves
  node entry isReady := evolves.lookup? (batch.node entry isReady)
  first_lt := batch.first_lt
  le_last entry isReady := Nat.le_trans (batch.le_last entry isReady) evolves.issued_le
  unused := by
    intro entry isReady registered isRegistered
    rcases evolves.newer registered isRegistered with before | isNewer
    · exact batch.unused entry isReady registered before
    · intro same
      have issuedBefore := batch.le_last entry isReady
      rw [same] at isNewer
      omega
  ascending := batch.ascending

theorem append
    (earlier : Batch first early middle)
    (others : Batch middle late last) :
    Batch first (early ++ late) last := by
  have still := earlier.later others.evolves
  have both {good : Nat × Listener β → Prop}
      (isGood : ∀ entry ∈ early, good entry)
      (isGoodToo : ∀ entry ∈ late, good entry) :
      ∀ entry ∈ early ++ late, good entry := by
    intro entry isReady
    exact (List.mem_append.mp isReady).elim (isGood entry) (isGoodToo entry)
  refine ⟨still.evolves, both still.node others.node, both still.first_lt fun entry isReady => ?_,
    both still.le_last others.le_last, both still.unused others.unused, ?_⟩
  · exact Nat.lt_of_le_of_lt earlier.evolves.issued_le (others.first_lt entry isReady)
  · refine List.pairwise_append.mpr ⟨earlier.ascending, others.ascending, ?_⟩
    intro entry isEarly other isLate
    exact Nat.lt_of_le_of_lt (earlier.le_last entry isEarly) (others.first_lt other isLate)

theorem fresh (batch : Batch first pending (bus, issued)) : bus.Fresh pending where
  ids := by
    refine List.pairwise_map.mpr (batch.ascending.imp ?_)
    intro entry other older same
    rw [same] at older
    omega
  unused := batch.unused
  node := batch.node

/-- Registering what is ready moves the gauge by as many listeners as come into the table. -/
theorem commit
    (batch : Batch first pending (bus, issued))
    (key : Key) :
    Evolves first (bus.commit key pending, issued) := by
  have ledger := batch.evolves.ledger
  have matched := ledger.matched.commit batch.fresh key
  cases free : bus.isRegistered key with
  | true =>
      rw [Bus.commit, if_pos free]
      exact batch.evolves
  | false =>
      have listed := registeredListeners_commit free pending
      have isOldOrReady : ∀ entry ∈ (bus.commit key pending).registeredListeners,
          entry ∈ bus.registeredListeners ∨ ∃ made ∈ pending, made.2 = entry := by
        intro entry isRegistered
        rw [listed, List.mem_append] at isRegistered
        exact isRegistered.imp_right List.mem_map.mp
      constructor
      case issued_le => exact batch.evolves.issued_le
      case lookup? =>
        intro kindId id wasFound
        refine (Index.lookup?_of_frame_eq ?_ _).trans (batch.evolves.lookup? wasFound)
        rw [index_commit free, frame_insertAll]
      case newer =>
        intro entry isRegistered
        rcases isOldOrReady entry isRegistered with old | ⟨made, isReady, rfl⟩
        · exact batch.evolves.newer entry old
        · exact .inr (batch.first_lt made isReady)
      case ledger =>
        refine ⟨matched, fun entry isRegistered => ?_, fun metrics shown => ?_⟩
        · rcases isOldOrReady entry isRegistered with old | ⟨made, isReady, rfl⟩
          · exact ledger.le_issued entry old
          · exact batch.le_last made isReady
        · rw [metrics?_commit free] at shown
          obtain ⟨before, wasShown, rfl⟩ := Option.map_eq_some_iff.mp shown
          have gauge := ledger.gauge before wasShown
          rw [listed, List.length_append, List.length_map,
            length_distinctIds batch.fresh.ids]
          simp only [Metrics.addListeners] at gauge ⊢
          omega

end Batch
end Bus
end EventRelay
