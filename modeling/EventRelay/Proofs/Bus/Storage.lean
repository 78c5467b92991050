import EventRelay.Proofs.Bus.Matched

/-!
# What a bus stores

The table of registrations and the buckets of the nodes hold the same listeners. The table
lists them in the order of their identities, and each bucket is the part of that list for one
kind and one priority. Every change of a bus keeps this.
-/

namespace EventRelay

variable {β : Type}

namespace Bus

/-- What holds of every registered listener. -/
structure Admitted (known accepts : Kind → Prop) (index : Index β) (issued : Nat)
    (entry : Listener β) : Prop where
  /-- Its identity has been issued. -/
  le_issued : entry.id.value ≤ issued
  known : known entry.kind
  concrete : entry.kind.isAbstract = false
  accepted : accepts entry.kind
  /-- It is in the checking form unless it wants canceled events. -/
  form : entry.checksCancellation = !entry.receivesCanceled
  /-- Its kind has a node. -/
  hasNode : ∃ node, index.lookup? entry.kind.id = some node

/-- The table of registrations and the nodes fit together. -/
structure Stored (known accepts : Kind → Prop) (state : Bus β × Nat) : Prop where
  coherent : state.1.index.Coherent
  /-- Nodes are those of known kinds and of the kinds above them. -/
  kinds : ∀ kind ∈ state.1.index.kinds, Kind.Within known kind
  /-- No key is taken twice. -/
  keys : (state.1.registrations.map Prod.fst).Nodup
  /-- Every key has listeners. -/
  records : ∀ record ∈ state.1.registrations, record.2 ≠ []
  /-- Listeners are registered in the order of their identities, each once. -/
  ascending : state.1.registeredListeners.Pairwise fun first second =>
    first.id.value < second.id.value
  /-- What holds of every registered listener. -/
  admitted : ∀ entry ∈ state.1.registeredListeners,
    Admitted known accepts state.1.index state.2 entry
  /-- A bucket holds the registered listeners for its kind and priority. -/
  buckets : ∀ {id node}, state.1.index.node? id = some node → ∀ priority,
    state.1.index.ownAt id priority =
      state.1.registeredListeners.filter (Listener.isFor node.kind.id priority)

/-- Only the slots of the index matter. -/
theorem Admitted.of_frame_eq
    {known accepts : Kind → Prop}
    {index later : Index β}
    {issued : Nat}
    {entry : Listener β}
    (admitted : Admitted known accepts index issued entry)
    (sameFrame : later.frame = index.frame) :
    Admitted known accepts later issued entry := by
  obtain ⟨node, hasNode⟩ := admitted.hasNode
  exact { admitted with
    hasNode := ⟨node, (Index.lookup?_of_frame_eq sameFrame _).trans hasNode⟩ }

/-- What has been made ready may be registered. -/
theorem ReadyBetween.admitted
    {known accepts : Kind → Prop}
    {index : Index β}
    {first last : Nat}
    {entry : Nat × Listener β}
    (ready : ReadyBetween known accepts index first last entry) :
    Admitted known accepts index last entry.2 :=
  ⟨ready.le_last, ready.known, ready.concrete, ready.accepted, ready.form, entry.1, ready.node⟩

namespace Stored

variable {known accepts : Kind → Prop} {bus : Bus β} {issued : Nat}

/-- The table and the buckets match. -/
theorem matched
    (stored : Stored known accepts (bus, issued)) :
    bus.Matched where
  coherent := stored.coherent
  keys := stored.keys
  ids := by
    refine List.pairwise_map.mpr (stored.ascending.imp ?_)
    intro first second older same
    rw [same] at older
    omega
  hasNode entry isRegistered := (stored.admitted entry isRegistered).hasNode
  buckets := stored.buckets

/-- A new bus stores nothing. -/
theorem create
    (config : BusConfig)
    (forcesChecks : Bool)
    (metrics? : Option Metrics)
    (issued : Nat) :
    Stored known accepts ((Bus.create config forcesChecks metrics? : Bus β), issued) where
  coherent := .empty _
  kinds := nofun
  keys := .nil
  records := nofun
  ascending := .nil
  admitted := nofun
  buckets := nofun

theorem later
    (stored : Stored known accepts (bus, issued))
    {more : Nat}
    (grows : issued ≤ more) :
    Stored known accepts (bus, more) :=
  { stored with
    admitted := fun entry isRegistered =>
      { stored.admitted entry isRegistered with
        le_issued := Nat.le_trans (stored.admitted entry isRegistered).le_issued grows } }

/-- Only the index and the registrations matter. -/
theorem congr
    (stored : Stored known accepts (bus, issued))
    {later : Bus β}
    (sameIndex : later.index = bus.index)
    (sameTable : later.registrations = bus.registrations) :
    Stored known accepts (later, issued) := by
  obtain ⟨config, checksTypes, index, registrations, isShutdown, metrics?⟩ := later
  cases sameIndex
  cases sameTable
  exact ⟨stored.coherent, stored.kinds, stored.keys, stored.records, stored.ascending,
    stored.admitted, stored.buckets⟩

/-! ### Making nodes and reading arrays -/

theorem insert
    (stored : Stored known accepts (bus, issued))
    {kind : Kind}
    {parent? : Option Nat}
    (within : Kind.Within known kind)
    (absent : bus.index.lookup? kind.id = none)
    (linked : kind.parent?.map (fun parent => bus.index.lookup? parent.id) = parent?.map some) :
    Stored known accepts (bus.withIndex (bus.index.insert kind parent?).1, issued) where
  coherent := stored.coherent.insert absent linked
  kinds := by
    intro other isOther
    change other ∈ (bus.index.insert kind parent?).1.kinds at isOther
    rw [Index.kinds_insert, List.mem_append, List.mem_singleton] at isOther
    rcases isOther with old | rfl
    · exact stored.kinds other old
    · exact within
  keys := stored.keys
  records := stored.records
  ascending := stored.ascending
  admitted entry isRegistered :=
    { stored.admitted entry isRegistered with
      hasNode := (stored.matched.insert absent linked).hasNode entry isRegistered }
  buckets := (stored.matched.insert absent linked).buckets

theorem of_growsTo
    (stored : Stored known accepts (bus, issued))
    {index : Index β}
    (grows : Index.GrowsTo (Kind.Within known) bus.index index) :
    Stored known accepts (bus.withIndex index, issued) := by
  induction grows with
  | refl => exact stored
  | insert _ within absent linked inductionHypothesis =>
      exact inductionHypothesis.insert within absent linked

/-- What listeners have been made ready so far leaves what is stored as it is. -/
theorem of_prepares
    {before after : Bus β × Nat}
    (stored : Stored known accepts before)
    {pending : Pending β}
    (prepares : Prepares known accepts before pending after) :
    Stored known accepts after := by
  obtain ⟨grows, sameBus⟩ := prepares.grows
  have grown := (stored.of_growsTo grows).later prepares.issued_le
  rwa [← sameBus] at grown

/-- A bus with the same nodes is described by what its table has now, if that matches the
buckets. -/
theorem of_frame_eq
    (stored : Stored known accepts (bus, issued))
    {later : Bus β}
    (sameFrame : later.index.frame = bus.index.frame)
    (matched : later.Matched)
    (records : ∀ record ∈ later.registrations, record.2 ≠ [])
    (ascending : later.registeredListeners.Pairwise fun first second =>
      first.id.value < second.id.value)
    (admitted : ∀ entry ∈ later.registeredListeners,
      Admitted known accepts bus.index issued entry) :
    Stored known accepts (later, issued) where
  coherent := matched.coherent
  kinds := by
    intro kind isKind
    refine stored.kinds kind ?_
    rwa [← Index.kinds_of_frame_eq sameFrame]
  keys := matched.keys
  records := records
  ascending := ascending
  admitted := fun entry isRegistered => (admitted entry isRegistered).of_frame_eq sameFrame
  buckets := matched.buckets

theorem refresh
    (stored : Stored known accepts (bus, issued))
    (id : Nat) :
    Stored known accepts (bus.refresh id, issued) :=
  stored.of_frame_eq (Index.frame_refresh bus.index id) (stored.matched.refresh id)
    stored.records stored.ascending stored.admitted

/-! ### Adding and removing listeners -/

/-- The listeners that are ready can be registered. -/
theorem fresh
    {before : Bus β × Nat}
    (stored : Stored known accepts before)
    {pending : Pending β}
    (prepares : Prepares known accepts before pending (bus, issued)) :
    bus.Fresh pending where
  ids := by
    refine List.pairwise_map.mpr (prepares.ascending.imp ?_)
    intro first second older same
    rw [same] at older
    omega
  unused := by
    intro entry isReady registered isRegistered same
    have sameBus : bus = before.1.withIndex bus.index := prepares.grows.2
    rw [sameBus] at isRegistered
    have issuedBefore := (stored.admitted registered isRegistered).le_issued
    have issuedLater := (prepares.ready entry isReady).first_lt
    rw [same] at issuedBefore
    omega
  node entry isReady := (prepares.ready entry isReady).node

theorem commit
    {before : Bus β × Nat}
    (stored : Stored known accepts before)
    {pending : Pending β}
    (prepares : Prepares known accepts before pending (bus, issued))
    (someReady : pending ≠ [])
    (key : Key) :
    Stored known accepts (bus.commit key pending, issued) := by
  have prepared := stored.of_prepares prepares
  have matched := prepared.matched.commit (stored.fresh prepares) key
  have sameBus : bus = before.1.withIndex bus.index := prepares.grows.2
  cases free : bus.isRegistered key with
  | true =>
      rw [Bus.commit, if_pos free]
      exact prepared
  | false =>
      apply prepared.of_frame_eq
      case sameFrame => rw [index_commit free, frame_insertAll]
      case matched => exact matched
      case records =>
        intro record isRecord
        rw [registrations_commit free, List.mem_append, List.mem_singleton] at isRecord
        rcases isRecord with old | rfl
        · exact prepared.records record old
        · exact fun none => someReady (List.map_eq_nil_iff.mp none)
      case ascending =>
        rw [registeredListeners_commit free]
        refine List.pairwise_append.mpr
          ⟨prepared.ascending, List.pairwise_map.mpr prepares.ascending, ?_⟩
        intro old isOld new isNew
        obtain ⟨entry, isReady, rfl⟩ := List.mem_map.mp isNew
        rw [sameBus] at isOld
        have issuedBefore := (stored.admitted old isOld).le_issued
        have issuedLater := (prepares.ready entry isReady).first_lt
        omega
      case admitted =>
        intro entry isRegistered
        rw [registeredListeners_commit free, List.mem_append] at isRegistered
        rcases isRegistered with old | new
        · exact prepared.admitted entry old
        · obtain ⟨made, isReady, rfl⟩ := List.mem_map.mp new
          exact (prepares.ready made isReady).admitted

theorem unregister
    (stored : Stored known accepts (bus, issued))
    (key : Key) :
    Stored known accepts (bus.unregister key, issued) := by
  cases found : bus.registered? key with
  | none =>
      rw [Bus.unregister, found]
      exact stored
  | some listeners =>
      have left := stored.matched.registeredListeners_unregister found
      apply stored.of_frame_eq
      case sameFrame => rw [Bus.unregister, found, index_meter, Index.frame_purge]
      case matched => exact stored.matched.unregister key
      case records =>
        intro record isRecord
        rw [Bus.unregister, found, registrations_meter] at isRecord
        exact stored.records record (List.mem_of_mem_filter isRecord)
      case ascending =>
        rw [left]
        exact stored.ascending.filter _
      case admitted =>
        intro entry isRegistered
        rw [left] at isRegistered
        exact stored.admitted entry (List.mem_of_mem_filter isRegistered)

/-! ### All changes -/

theorem change
    {before after : Bus β × Nat}
    (stored : Stored known accepts before)
    (change : Change known accepts before after) :
    Stored known accepts after := by
  cases change with
  | prepare prepares => exact stored.of_prepares prepares
  | commit key prepares someReady => exact stored.commit prepares someReady key
  | unregister bus issued key => exact stored.unregister key
  | refresh bus issued id => exact stored.refresh id
  | start bus issued => exact stored.congr rfl rfl
  | recordPost bus issued ran => exact stored.congr rfl rfl
  | recordFailure bus issued => exact stored.congr rfl rfl

/-- Whatever is done with a bus, what it stores fits together. -/
theorem changes
    {before after : Bus β × Nat}
    (stored : Stored known accepts before)
    (changes : Changes known accepts before after) :
    Stored known accepts after := by
  induction changes with
  | refl => exact stored
  | tail _ last inductionHypothesis => exact inductionHypothesis.change last

end Stored
end Bus
end EventRelay
