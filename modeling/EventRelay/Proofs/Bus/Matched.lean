import EventRelay.Proofs.Bus.Changes
import EventRelay.Proofs.Hierarchy.Buckets
import Mathlib.Algebra.GroupWithZero.Nat

/-!
# Tables and buckets

Whatever is registered stands twice: in the table of registrations under its key, and in the
bucket of its priority at the node of its kind. The two match as long as listeners are only
registered with fresh identities and at the nodes of their kinds, in whichever order these were
made.
-/

namespace EventRelay

variable {β : Type}

/-- The listener is registered for a kind of this identity at this priority. -/
def Listener.isFor (kindId : String) (priority : Priority) (entry : Listener β) : Bool :=
  entry.kind.id = kindId ∧ entry.priority = priority

namespace Bus

/-- The listeners that the nodes hold, node by node. -/
def heldListeners (bus : Bus β) : List (Listener β) :=
  bus.index.nodes.flatMap Node.ownListeners

/-- The table of registrations and the buckets of the nodes hold the same listeners, each of
them once. -/
structure Matched (bus : Bus β) : Prop where
  coherent : bus.index.Coherent
  /-- No key is taken twice. -/
  keys : (bus.registrations.map Prod.fst).Nodup
  /-- No identity is registered twice. -/
  ids : (bus.registeredListeners.map Listener.id).Nodup
  /-- Kinds with listeners have nodes. -/
  hasNode : ∀ entry ∈ bus.registeredListeners,
    ∃ node, bus.index.lookup? entry.kind.id = some node
  /-- A bucket holds the registered listeners for its kind and priority. -/
  buckets : ∀ {id node}, bus.index.node? id = some node → ∀ priority,
    bus.index.ownAt id priority =
      bus.registeredListeners.filter (Listener.isFor node.kind.id priority)

/-- Listeners can be registered: each has a fresh identity and comes with the node of its
kind. -/
structure Fresh (bus : Bus β) (pending : Pending β) : Prop where
  ids : (pending.map fun entry => entry.2.id).Nodup
  unused : ∀ entry ∈ pending, ∀ registered ∈ bus.registeredListeners,
    registered.id ≠ entry.2.id
  node : ∀ entry ∈ pending, bus.index.lookup? entry.2.kind.id = some entry.1

/-! ## Adding listeners to their nodes -/

theorem frame_insertAll
    (index : Index β)
    (pending : Pending β) :
    (insertAll index pending).frame = index.frame := by
  induction pending generalizing index with
  | nil => rfl
  | cons entry rest inductionHypothesis =>
      exact (inductionHypothesis _).trans (Index.frame_register index entry.1 _ entry.2)

theorem coherent_insertAll
    {index : Index β}
    (coherent : index.Coherent)
    (pending : Pending β) :
    (insertAll index pending).Coherent := by
  induction pending generalizing index with
  | nil => exact coherent
  | cons entry rest inductionHypothesis =>
      exact inductionHypothesis (coherent.register entry.1 entry.2.priority entry.2)

/-- Each bucket gets the listeners meant for it, in their order. -/
theorem ownAt_insertAll
    (index : Index β)
    (pending : Pending β)
    (haveNodes : ∀ entry ∈ pending, entry.1 < index.size)
    (id : Nat)
    (priority : Priority) :
    (insertAll index pending).ownAt id priority =
      index.ownAt id priority ++
        (pending.filter fun entry => entry.1 = id ∧ entry.2.priority = priority).map Prod.snd := by
  induction pending generalizing index with
  | nil => exact (List.append_nil _).symm
  | cons entry rest inductionHypothesis =>
      have hasNode := haveNodes entry List.mem_cons_self
      have restHave : ∀ other ∈ rest,
          other.1 < (index.register entry.1 entry.2.priority entry.2).size := by
        intro other isOther
        rw [Index.size_of_frame_eq (Index.frame_register ..)]
        exact haveNodes other (List.mem_cons_of_mem _ isOther)
      have step : insertAll index (entry :: rest) =
          insertAll (index.register entry.1 entry.2.priority entry.2) rest := rfl
      rw [step, inductionHypothesis _ restHave, Index.ownAt_register hasNode, List.filter_cons]
      by_cases meant : entry.1 = id ∧ entry.2.priority = priority
      · simp [meant]
      · simp [meant]

theorem mem_ownListeners
    {node : Node β}
    {entry : Listener β} :
    entry ∈ node.ownListeners ↔
      ∃ priority, entry ∈ (node.buckets.get priority).listeners := by
  simp [Node.ownListeners, PerPriority.toList, Priority.mem_all]

section Committing

variable {bus : Bus β} {key : Key}

theorem key_not_mem
    (free : bus.isRegistered key = false) :
    key ∉ bus.registrations.map Prod.fst := by
  rw [isRegistered, registered?, Option.isSome_eq_false_iff, Option.isNone_iff_eq_none,
    List.lookup_eq_none_iff] at free
  intro isKey
  obtain ⟨record, isRecord, rfl⟩ := List.mem_map.mp isKey
  simpa using free record isRecord

theorem registrations_commit
    (free : bus.isRegistered key = false)
    (pending : Pending β) :
    (bus.commit key pending).registrations =
      bus.registrations ++ [(key, pending.map Prod.snd)] := by
  rw [Bus.commit, free, if_neg Bool.false_ne_true, registrations_meter]

theorem registered?_commit
    (free : bus.isRegistered key = false)
    (pending : Pending β) :
    (bus.commit key pending).registered? key = some (pending.map Prod.snd) := by
  rw [registered?, registrations_commit free, List.lookup_append]
  rw [isRegistered, registered?, Option.isSome_eq_false_iff, Option.isNone_iff_eq_none] at free
  simp [free]

theorem registeredListeners_commit
    (free : bus.isRegistered key = false)
    (pending : Pending β) :
    (bus.commit key pending).registeredListeners =
      bus.registeredListeners ++ pending.map Prod.snd := by
  rw [registeredListeners, registrations_commit free]
  simp [registeredListeners]

theorem index_commit
    (free : bus.isRegistered key = false)
    (pending : Pending β) :
    (bus.commit key pending).index = insertAll bus.index pending := by
  rw [Bus.commit, free, if_neg Bool.false_ne_true, index_meter]

end Committing

/-- The other records have other keys. -/
theorem key_ne_of_mem_others
    {bus : Bus β}
    (keys : (bus.registrations.map Prod.fst).Nodup)
    {taken record : Key × List (Listener β)}
    {before after : List (Key × List (Listener β))}
    (table : bus.registrations = before ++ taken :: after)
    (isRecord : record ∈ before ++ after) :
    record.1 ≠ taken.1 := by
  intro same
  rw [table, List.map_append, List.map_cons, List.nodup_middle, List.nodup_cons,
    ← List.map_append] at keys
  exact keys.1 (List.mem_map.mpr ⟨record, isRecord, same⟩)

/-- Where a record stands in the table, and what is left without it. -/
theorem exists_split_of_registered?
    {bus : Bus β}
    (keys : (bus.registrations.map Prod.fst).Nodup)
    {key : Key}
    {listeners : List (Listener β)}
    (found : bus.registered? key = some listeners) :
    ∃ before after, bus.registrations = before ++ (key, listeners) :: after ∧
      (bus.unregister key).registrations = before ++ after := by
  obtain ⟨before, after, table, -⟩ := List.lookup_eq_some_iff.mp found
  refine ⟨before, after, table, ?_⟩
  rw [Bus.unregister, found, registrations_meter]
  change bus.registrations.filter (fun entry => entry.1 ≠ key) = before ++ after
  rw [table, List.filter_append, List.filter_cons_of_neg (by simp), ← List.filter_append]
  exact List.filter_eq_self.mpr fun record isRecord =>
    decide_eq_true (key_ne_of_mem_others keys table isRecord)

namespace Matched

variable {bus : Bus β}

/-- A new bus has nothing registered. -/
theorem create
    (config : BusConfig)
    (forcesChecks : Bool)
    (metrics? : Option Metrics) :
    (Bus.create config forcesChecks metrics? : Bus β).Matched where
  coherent := .empty _
  keys := .nil
  ids := .nil
  hasNode := nofun
  buckets := nofun

/-- Only the index and the registrations matter. -/
theorem congr
    (matched : bus.Matched)
    {later : Bus β}
    (sameIndex : later.index = bus.index)
    (sameTable : later.registrations = bus.registrations) :
    later.Matched := by
  obtain ⟨config, checksTypes, index, registrations, isShutdown, metrics?⟩ := later
  cases sameIndex
  cases sameTable
  exact ⟨matched.coherent, matched.keys, matched.ids, matched.hasNode, matched.buckets⟩

/-! ### Making nodes and reading arrays -/

/-- Nobody is registered for a kind that has no node. -/
theorem filter_isFor_eq_nil
    (matched : bus.Matched)
    {kindId : String}
    (absent : bus.index.lookup? kindId = none)
    (priority : Priority) :
    bus.registeredListeners.filter (Listener.isFor kindId priority) = [] := by
  refine List.filter_eq_nil_iff.mpr fun entry isRegistered isFor => ?_
  obtain ⟨node, hasNode⟩ := matched.hasNode entry isRegistered
  have sameKind : entry.kind.id = kindId := (of_decide_eq_true isFor).1
  rw [sameKind, absent] at hasNode
  cases hasNode

theorem insert
    (matched : bus.Matched)
    {kind : Kind}
    {parent? : Option Nat}
    (absent : bus.index.lookup? kind.id = none)
    (linked : kind.parent?.map (fun parent => bus.index.lookup? parent.id) = parent?.map some) :
    (bus.withIndex (bus.index.insert kind parent?).1).Matched where
  coherent := matched.coherent.insert absent linked
  keys := matched.keys
  ids := matched.ids
  hasNode := by
    intro entry isRegistered
    obtain ⟨node, hasNode⟩ := matched.hasNode entry isRegistered
    refine ⟨node, ?_⟩
    change (bus.index.insert kind parent?).1.lookup? entry.kind.id = some node
    rw [Index.lookup?_insert, hasNode]
    rfl
  buckets := by
    intro id node present priority
    change (bus.index.insert kind parent?).1.node? id = some node at present
    change (bus.index.insert kind parent?).1.ownAt id priority = bus.registeredListeners.filter _
    rw [Index.ownAt_insert]
    rcases Index.insert_cases present with ⟨rfl, rfl⟩ | ⟨before, wasPresent, rfl⟩
    · rw [Index.ownAt_of_size_le (Nat.le_refl _)]
      exact (matched.filter_isFor_eq_nil absent priority).symm
    · rw [matched.buckets wasPresent]
      split <;> rfl

theorem of_growsTo
    (matched : bus.Matched)
    {among : Kind → Prop}
    {index : Index β}
    (grows : Index.GrowsTo among bus.index index) :
    (bus.withIndex index).Matched := by
  induction grows with
  | refl => exact matched
  | insert _ _ absent linked inductionHypothesis =>
      exact inductionHypothesis.insert absent linked

/-- A bus with the same nodes is described by what its table and its buckets have now. -/
theorem of_frame_eq
    (bus : Bus β)
    {later : Bus β}
    (sameFrame : later.index.frame = bus.index.frame)
    (coherent : later.index.Coherent)
    (keys : (later.registrations.map Prod.fst).Nodup)
    (ids : (later.registeredListeners.map Listener.id).Nodup)
    (hasNode : ∀ entry ∈ later.registeredListeners,
      ∃ node, bus.index.lookup? entry.kind.id = some node)
    (buckets : ∀ {id node}, bus.index.node? id = some node → ∀ priority,
      later.index.ownAt id priority =
        later.registeredListeners.filter (Listener.isFor node.kind.id priority)) :
    later.Matched where
  coherent := coherent
  keys := keys
  ids := ids
  hasNode := by
    intro entry isRegistered
    obtain ⟨node, found⟩ := hasNode entry isRegistered
    exact ⟨node, (Index.lookup?_of_frame_eq sameFrame _).trans found⟩
  buckets := by
    intro id node present priority
    obtain ⟨before, wasPresent, nodeFrame⟩ := Index.exists_of_frame_eq sameFrame present
    have sameKind : before.kind = node.kind := congrArg (fun frame => frame.2.1) nodeFrame
    rw [← sameKind]
    exact buckets wasPresent priority

theorem refresh
    (matched : bus.Matched)
    (id : Nat) :
    (bus.refresh id).Matched := by
  refine of_frame_eq bus (Index.frame_refresh bus.index id) (matched.coherent.refresh id).1
    matched.keys matched.ids matched.hasNode ?_
  intro other node present priority
  exact (Index.ownAt_refresh ..).trans (matched.buckets present priority)

/-! ### Adding and removing listeners -/

/-- Of the listeners that are to be registered, those for a node are those for its kind. -/
theorem filter_node_eq
    {index : Index β}
    (arena : index.Arena)
    {pending : Pending β}
    (nodes : ∀ entry ∈ pending, index.lookup? entry.2.kind.id = some entry.1)
    {id : Nat}
    {node : Node β}
    (present : index.node? id = some node)
    (priority : Priority) :
    (pending.filter fun entry => entry.1 = id ∧ entry.2.priority = priority).map Prod.snd =
      (pending.map Prod.snd).filter (Listener.isFor node.kind.id priority) := by
  rw [List.filter_map]
  refine congrArg (List.map Prod.snd) (List.filter_congr fun entry isReady => ?_)
  have hasNode := nodes entry isReady
  have sameNode : entry.1 = id ↔ entry.2.kind.id = node.kind.id := by
    constructor
    · rintro rfl
      rw [arena.lookup?_iff, present] at hasNode
      exact (Option.some.inj hasNode).symm
    · intro sameKind
      have found : index.lookup? node.kind.id = some id := by
        rw [arena.lookup?_iff, present]
        rfl
      rw [sameKind, found] at hasNode
      exact (Option.some.inj hasNode).symm
  rw [Function.comp_apply, Listener.isFor, decide_eq_decide, sameNode]

theorem commit
    (matched : bus.Matched)
    {pending : Pending β}
    (fresh : bus.Fresh pending)
    (key : Key) :
    (bus.commit key pending).Matched := by
  cases free : bus.isRegistered key with
  | true =>
      rw [Bus.commit, if_pos free]
      exact matched
  | false =>
      apply of_frame_eq bus
      case sameFrame => rw [index_commit free, frame_insertAll]
      case coherent =>
        rw [index_commit free]
        exact coherent_insertAll matched.coherent pending
      case keys =>
        rw [registrations_commit free, List.map_append]
        refine List.nodup_append.mpr ⟨matched.keys, List.nodup_singleton _, ?_⟩
        intro taken isTaken other isKey same
        rw [same, List.mem_singleton.mp isKey] at isTaken
        exact key_not_mem free isTaken
      case ids =>
        rw [registeredListeners_commit free, List.map_append, List.map_map]
        refine List.nodup_append.mpr ⟨matched.ids, fresh.ids, ?_⟩
        intro old isOld new isNew
        obtain ⟨registered, isRegistered, rfl⟩ := List.mem_map.mp isOld
        obtain ⟨entry, isReady, rfl⟩ := List.mem_map.mp isNew
        exact fresh.unused entry isReady registered isRegistered
      case hasNode =>
        intro entry isRegistered
        rw [registeredListeners_commit free, List.mem_append] at isRegistered
        rcases isRegistered with old | new
        · exact matched.hasNode entry old
        · obtain ⟨made, isReady, rfl⟩ := List.mem_map.mp new
          exact ⟨made.1, fresh.node made isReady⟩
      case buckets =>
        intro id node present priority
        have haveNodes : ∀ entry ∈ pending, entry.1 < bus.index.size := by
          intro entry isReady
          obtain ⟨node, isPresent, -⟩ :=
            matched.coherent.arena.exists_of_lookup? (fresh.node entry isReady)
          exact Index.node?_lt_size isPresent
        rw [index_commit free, ownAt_insertAll _ _ haveNodes, registeredListeners_commit free,
          List.filter_append, matched.buckets present,
          filter_node_eq matched.coherent.arena fresh.node present]

/-- Without one of its records the table lists the listeners with other identities. -/
theorem registeredListeners_unregister
    (matched : bus.Matched)
    {key : Key}
    {listeners : List (Listener β)}
    (found : bus.registered? key = some listeners) :
    (bus.unregister key).registeredListeners =
      bus.registeredListeners.filter fun entry =>
        !(listeners.map Listener.id).contains entry.id := by
  obtain ⟨before, after, table, left⟩ := exists_split_of_registered? matched.keys found
  have ids := matched.ids
  have listed : bus.registeredListeners =
      before.flatMap Prod.snd ++ (listeners ++ after.flatMap Prod.snd) := by
    rw [registeredListeners, table, List.flatMap_append, List.flatMap_cons]
  rw [listed, List.map_append, List.map_append] at ids
  obtain ⟨-, laterIds, beforeLater⟩ := List.nodup_append.mp ids
  obtain ⟨-, -, beforeAfter⟩ := List.nodup_append.mp laterIds
  have removed {entry : Listener β} (isRemoved : entry ∈ listeners) :
      (listeners.map Listener.id).contains entry.id = true :=
    List.contains_iff_mem.mpr (List.mem_map_of_mem isRemoved)
  have kept {entry : Listener β} (apart : ∀ id ∈ listeners.map Listener.id, id ≠ entry.id) :
      (!(listeners.map Listener.id).contains entry.id) = true := by
    rw [Bool.not_eq_true', Bool.eq_false_iff]
    exact fun isRemoved => apart _ (List.contains_iff_mem.mp isRemoved) rfl
  rw [listed, List.filter_append, List.filter_append, registeredListeners, left,
    List.flatMap_append]
  congr 1
  · refine (List.filter_eq_self.mpr fun entry isEntry => kept fun id isId => ?_).symm
    exact (beforeLater _ (List.mem_map_of_mem isEntry) id (List.mem_append_left _ isId)).symm
  · rw [List.filter_eq_nil_iff.mpr fun entry isEntry => by rw [removed isEntry]; decide,
      List.nil_append]
    refine (List.filter_eq_self.mpr fun entry isEntry => kept fun id isId => ?_).symm
    exact beforeAfter id isId _ (List.mem_map_of_mem isEntry)

theorem length_registeredListeners_unregister
    (matched : bus.Matched)
    {key : Key}
    {listeners : List (Listener β)}
    (found : bus.registered? key = some listeners) :
    bus.registeredListeners.length =
      (bus.unregister key).registeredListeners.length + listeners.length := by
  obtain ⟨before, after, table, without⟩ := exists_split_of_registered? matched.keys found
  simp only [registeredListeners, table, without, List.flatMap_append, List.flatMap_cons,
    List.length_append]
  omega

theorem unregister
    (matched : bus.Matched)
    (key : Key) :
    (bus.unregister key).Matched := by
  cases found : bus.registered? key with
  | none =>
      rw [Bus.unregister, found]
      exact matched
  | some listeners =>
      have left := matched.registeredListeners_unregister found
      have sublist : (bus.unregister key).registeredListeners.Sublist bus.registeredListeners := by
        rw [left]
        exact List.filter_sublist
      have index : (bus.unregister key).index =
          bus.index.purge (listeners.map Listener.id) := by
        rw [Bus.unregister, found, index_meter]
      apply of_frame_eq bus
      case sameFrame => rw [index, Index.frame_purge]
      case coherent =>
        rw [index]
        exact Index.Coherent.purge matched.coherent _
      case keys =>
        obtain ⟨before, after, table, without⟩ := exists_split_of_registered? matched.keys found
        have keys := matched.keys
        rw [table] at keys
        rw [without]
        exact keys.sublist
          ((List.Sublist.append_left (List.sublist_cons_self _ _) before).map Prod.fst)
      case ids => exact matched.ids.sublist (sublist.map Listener.id)
      case hasNode =>
        exact fun entry isRegistered => matched.hasNode entry (sublist.subset isRegistered)
      case buckets =>
        intro id node present priority
        rw [index, Index.ownAt_purge, left, matched.buckets present, List.filter_filter,
          List.filter_filter]
        exact List.filter_congr fun entry _ => Bool.and_comm _ _

/-! ### The listeners of the nodes -/

theorem bucket_eq
    (matched : bus.Matched)
    {id : Nat}
    {node : Node β}
    (present : bus.index.node? id = some node)
    (priority : Priority) :
    (node.buckets.get priority).listeners =
      bus.registeredListeners.filter (Listener.isFor node.kind.id priority) := by
  rw [← Index.ownAt_of_node? present]
  exact matched.buckets present priority

theorem mem_bucket
    (matched : bus.Matched)
    {id : Nat}
    {node : Node β}
    (present : bus.index.node? id = some node)
    {priority : Priority}
    {entry : Listener β} :
    entry ∈ (node.buckets.get priority).listeners ↔
      entry ∈ bus.registeredListeners ∧ entry.kind.id = node.kind.id ∧
        entry.priority = priority := by
  rw [matched.bucket_eq present, List.mem_filter]
  exact and_congr_right fun _ => decide_eq_true_iff

theorem mem_ownListeners
    (matched : bus.Matched)
    {id : Nat}
    {node : Node β}
    (present : bus.index.node? id = some node)
    {entry : Listener β} :
    entry ∈ node.ownListeners ↔
      entry ∈ bus.registeredListeners ∧ entry.kind.id = node.kind.id := by
  rw [Bus.mem_ownListeners]
  constructor
  · rintro ⟨priority, isHeld⟩
    obtain ⟨isRegistered, sameKind, -⟩ := (matched.mem_bucket present).mp isHeld
    exact ⟨isRegistered, sameKind⟩
  · rintro ⟨isRegistered, sameKind⟩
    exact ⟨entry.priority, (matched.mem_bucket present).mpr ⟨isRegistered, sameKind, rfl⟩⟩

theorem mem_heldListeners
    (matched : bus.Matched)
    {entry : Listener β} :
    entry ∈ bus.heldListeners ↔ entry ∈ bus.registeredListeners := by
  rw [heldListeners, List.mem_flatMap]
  constructor
  · rintro ⟨node, isNode, isHeld⟩
    obtain ⟨id, present⟩ := List.mem_iff_getElem?.mp isNode
    exact ((matched.mem_ownListeners present).mp isHeld).1
  · intro isRegistered
    obtain ⟨id, hasNode⟩ := matched.hasNode entry isRegistered
    obtain ⟨node, present, sameKind⟩ := matched.coherent.arena.exists_of_lookup? hasNode
    exact ⟨node, List.mem_of_getElem? present,
      (matched.mem_ownListeners present).mpr ⟨isRegistered, sameKind.symm⟩⟩

/-- Different priorities have nothing in common. -/
theorem nodup_ownListeners
    (matched : bus.Matched)
    {id : Nat}
    {node : Node β}
    (present : bus.index.node? id = some node) :
    node.ownListeners.Nodup := by
  rw [Node.ownListeners, PerPriority.toList, List.flatMap_map, List.nodup_flatMap]
  constructor
  · intro priority _
    rw [matched.bucket_eq present]
    exact (List.Nodup.of_map _ matched.ids).filter _
  · have distinct : Priority.all.Nodup := by decide
    refine distinct.imp ?_
    intro first second apart entry isFirst isSecond
    have atFirst := ((matched.mem_bucket present).mp isFirst).2.2
    have atSecond := ((matched.mem_bucket present).mp isSecond).2.2
    exact apart (atFirst.symm.trans atSecond)

/-- Different nodes have nothing in common, since their kinds have different identities. -/
theorem nodup_heldListeners
    (matched : bus.Matched) :
    bus.heldListeners.Nodup := by
  rw [heldListeners, List.nodup_flatMap]
  constructor
  · intro node isNode
    obtain ⟨id, present⟩ := List.mem_iff_getElem?.mp isNode
    exact matched.nodup_ownListeners present
  · rw [List.pairwise_iff_getElem]
    intro first second inFirst inSecond before entry isFirst isSecond
    have firstPresent : bus.index.node? first = some bus.index.nodes[first] :=
      List.getElem?_eq_getElem inFirst
    have secondPresent : bus.index.node? second = some bus.index.nodes[second] :=
      List.getElem?_eq_getElem inSecond
    have atFirst := ((matched.mem_ownListeners firstPresent).mp isFirst).2
    have atSecond := ((matched.mem_ownListeners secondPresent).mp isSecond).2
    have found : bus.index.lookup? entry.kind.id = some first := by
      rw [matched.coherent.arena.lookup?_iff, firstPresent, atFirst]
      rfl
    have foundToo : bus.index.lookup? entry.kind.id = some second := by
      rw [matched.coherent.arena.lookup?_iff, secondPresent, atSecond]
      rfl
    rw [found] at foundToo
    cases foundToo
    omega

theorem heldListeners_perm
    (matched : bus.Matched) :
    bus.heldListeners.Perm bus.registeredListeners :=
  (List.perm_ext_iff_of_nodup matched.nodup_heldListeners
    (List.Nodup.of_map _ matched.ids)).mpr fun _ => matched.mem_heldListeners

/-- The nodes together have as many listeners as the table. -/
theorem sum_listenerCount
    (matched : bus.Matched) :
    (bus.index.nodes.map Node.listenerCount).sum = bus.registeredListeners.length := by
  rw [← matched.heldListeners_perm.length_eq, heldListeners, List.length_flatMap]
  rfl

end Matched
end Bus
end EventRelay
