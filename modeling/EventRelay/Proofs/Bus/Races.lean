import EventRelay.Proofs.Bus.Accounts

/-!
# Registering races unregistering

Calls begin and go on in any order, and in between nodes are made, arrays are read and posts are
counted. The accounts are kept throughout. So when all calls have finished, the table and the
nodes agree, and the gauge tells the number of registered listeners.
-/

namespace EventRelay
namespace Traffic

open Call (Fits)

variable {β : Type} {used : List ListenerId} {bus later : Bus β} {call : Call β}

namespace Accounted

/-- A call that comes in addition takes no account away. -/
theorem add
    {calls : List (Call β)}
    (accounted : Accounted used bus calls)
    {more : List ListenerId}
    (grows : used ⊆ more)
    (separate : Separate more (call :: calls))
    (fits : call.Fits bus)
    (owes : call.owes = 0) :
    Accounted more bus (call :: calls) where
  stocked := accounted.stocked.mono grows
  separate := separate
  fits := List.forall_mem_cons.mpr ⟨fits, accounted.fits⟩
  registered entry isRegistered :=
    (accounted.registered entry isRegistered).imp_right fun ⟨other, isCall, promises⟩ =>
      ⟨other, List.mem_cons_of_mem _ isCall, promises⟩
  held node entry isHeld :=
    (accounted.held node entry isHeld).imp_right fun ⟨other, isCall, answers⟩ =>
      ⟨other, List.mem_cons_of_mem _ isCall, answers⟩
  gauge metrics isKept := by
    rw [List.map_cons, List.sum_cons, owes, Int.zero_add]
    exact accounted.gauge metrics isKept

theorem beginCommit
    {calls : List (Call β)}
    (accounted : Accounted used bus calls)
    (key : Key)
    {pending : Pending β}
    (ready : Ready ⟨bus, used, calls⟩ pending) :
    Accounted (used ++ pending.map fun entry => entry.2.id) bus
      (.claiming key pending :: calls) := by
  have separate := accounted.separate
  apply accounted.add (List.subset_append_left _ _)
  case separate =>
    refine ⟨?_, ?_, List.nodup_append.mpr ⟨ready.ids, separate.apart, ?_⟩, ?_⟩
    · refine List.forall_mem_cons.mpr ⟨fun entry isPending => ?_, fun other isCall own isOwn => ?_⟩
      · exact List.mem_append_right _ (List.mem_map_of_mem isPending)
      · exact List.mem_append_left _ (separate.brought other isCall own isOwn)
    · refine List.forall_mem_cons.mpr ⟨nofun, fun other isCall id isRemoved => ?_⟩
      exact List.mem_append_left _ (separate.removing other isCall id isRemoved)
    · intro id isNew other isOld same
      obtain ⟨entry, isPending, rfl⟩ := List.mem_map.mp isNew
      obtain ⟨old, isCall, isOwn⟩ := List.mem_flatMap.mp isOld
      obtain ⟨own, isBrought, rfl⟩ := List.mem_map.mp isOwn
      exact ready.unused entry isPending (same ▸ separate.brought old isCall own isBrought)
    · refine List.forall_mem_cons.mpr ⟨fun entry isPending => ?_, fun other isCall own isOwn => ?_⟩
      · refine List.forall_mem_cons.mpr ⟨nofun, fun other isCall isRemoved => ?_⟩
        exact ready.unused entry isPending (separate.removing other isCall _ isRemoved)
      · refine List.forall_mem_cons.mpr ⟨nofun, ?_⟩
        exact separate.unclaimed other isCall own isOwn
  case fits =>
    refine ⟨.refl _, ready.node, ?_, ?_, nofun, nofun⟩
    · intro entry isPending node held isHeld same
      exact ready.unused entry isPending (same ▸ accounted.stocked.held node held isHeld)
    · intro entry isPending registered isRegistered same
      exact ready.unused entry isPending
        (same ▸ accounted.stocked.registered registered isRegistered)
  case owes => rfl

theorem beginUnregister
    {calls : List (Call β)}
    (accounted : Accounted used bus calls)
    (key : Key) :
    Accounted used bus (.taking key :: calls) := by
  have separate := accounted.separate
  refine accounted.add (List.Subset.refl _) ⟨?_, ?_, separate.apart, ?_⟩
    (fits_of_not_brings rfl nofun) rfl
  · exact List.forall_mem_cons.mpr ⟨nofun, separate.brought⟩
  · exact List.forall_mem_cons.mpr ⟨nofun, separate.removing⟩
  · refine List.forall_mem_cons.mpr ⟨nofun, fun other isCall entry isUnclaimed => ?_⟩
    exact List.forall_mem_cons.mpr ⟨nofun, separate.unclaimed other isCall entry isUnclaimed⟩

theorem aside
    {calls : List (Call β)}
    (accounted : Accounted used bus calls)
    (retains : bus.Retains later) :
    Accounted used later calls where
  stocked := accounted.stocked.retains retains
  separate := accounted.separate
  fits other isCall := (accounted.fits other isCall).later (fun _ _ => retains.lookup)
    (fun _ _ isHeld => .inl (retains.stores.mp isHeld))
    fun _ isRecord => .inl (retains.table ▸ isRecord)
  registered := by
    simp only [retains.registeredListeners, retains.stores]
    exact accounted.registered
  held := by
    simp only [retains.registeredListeners, retains.stores]
    exact accounted.held
  gauge := by
    intro metrics isKept
    obtain ⟨before, wasKept, same⟩ := retains.gauge metrics isKept
    rw [same, retains.registeredListeners]
    exact accounted.gauge before wasKept

end Accounted

theorem Aside.retains
    {bus later : Bus β}
    (aside : Aside bus later)
    (coherent : bus.index.Coherent) :
    bus.Retains later := by
  have metered {change : Metrics → Metrics}
      (same : ∀ metrics, (change metrics).listeners = metrics.listeners) :
      bus.Retains (bus.meter change) := by
    refine ⟨coherent, id, fun _ _ => rfl, rfl, fun metrics isKept => ?_⟩
    obtain ⟨before, wasKept, rfl⟩ := Option.map_eq_some_iff.mp isKept
    exact ⟨before, wasKept, same before⟩
  cases aside with
  | grow grows =>
      exact ⟨coherent.of_growsTo grows, grows.lookup?, grows.ownAt, rfl,
        fun metrics isKept => ⟨metrics, isKept, rfl⟩⟩
  | refresh id =>
      exact ⟨(coherent.refresh id).1,
        (Index.lookup?_of_frame_eq (Index.frame_refresh bus.index id) _).trans,
        Index.ownAt_refresh bus.index id, rfl, fun metrics isKept => ⟨metrics, isKept, rfl⟩⟩
  | start =>
      exact ⟨coherent, id, fun _ _ => rfl, rfl, fun metrics isKept => ⟨metrics, isKept, rfl⟩⟩
  | recordPost ran => exact metered fun _ => rfl
  | recordFailure => exact metered fun _ => rfl

/-- Whatever happens next, the accounts are kept. -/
theorem Accounted.step
    {before after : Traffic β}
    (accounted : Accounted before.used before.bus before.calls)
    (step : Step before after) :
    Accounted after.used after.bus after.calls := by
  cases step with
  | commit key ready =>
      exact (accounted.beginCommit key ready).perm (List.perm_append_singleton _ _).symm
  | unregister _ key =>
      exact (accounted.beginUnregister key).perm (List.perm_append_singleton _ _).symm
  | advance bus used before call after =>
      exact (accounted.perm List.perm_middle).advance.perm List.perm_middle.symm
  | aside used calls aside => exact accounted.aside (aside.retains accounted.stocked.coherent)

theorem Accounted.run
    {before after : Traffic β}
    (accounted : Accounted before.used before.bus before.calls)
    (run : Run before after) :
    Accounted after.used after.bus after.calls := by
  induction run with
  | refl => exact accounted
  | tail _ last inductionHypothesis => exact inductionHypothesis.step last

end Traffic

/-! ## When all calls have finished -/

namespace Bus

/-- The table and the nodes agree, and the gauge is right. -/
structure Settled (bus : Bus β) : Prop where
  coherent : bus.index.Coherent
  /-- No key is taken twice. -/
  keys : (bus.registrations.map Prod.fst).Nodup
  /-- No identity is registered twice. -/
  ids : (bus.registeredListeners.map Listener.id).Nodup
  /-- A node holds listeners for its kind, each at its priority. -/
  placed : ∀ node priority, ∀ entry ∈ bus.index.ownAt node priority,
    bus.index.lookup? entry.kind.id = some node ∧ entry.priority = priority
  /-- The nodes hold the listeners of the records, each once. -/
  held : bus.heldListeners.Perm bus.registeredListeners
  /-- The gauge tells their number. -/
  gauge : ∀ metrics ∈ bus.metrics?, metrics.listeners = bus.registeredListeners.length

theorem mem_heldListeners_iff
    {bus : Bus β}
    {entry : Listener β} :
    entry ∈ bus.heldListeners ↔ ∃ node, bus.index.Stores node entry := by
  rw [heldListeners, List.mem_flatMap]
  constructor
  · rintro ⟨node, isNode, isOwn⟩
    obtain ⟨id, present⟩ := List.mem_iff_getElem?.mp isNode
    obtain ⟨priority, isHeld⟩ := mem_ownListeners.mp isOwn
    refine ⟨id, priority, ?_⟩
    rwa [Index.ownAt_of_node? present]
  · rintro ⟨id, priority, isHeld⟩
    cases present : bus.index.node? id with
    | none =>
        rw [Index.ownAt, present] at isHeld
        cases isHeld
    | some node =>
        rw [Index.ownAt_of_node? present] at isHeld
        exact ⟨node, List.mem_of_getElem? present, mem_ownListeners.mpr ⟨priority, isHeld⟩⟩

/-- If no node holds a listener twice and each listener has its place, no listener is held
twice. -/
theorem nodup_heldListeners
    {bus : Bus β}
    (placed : ∀ node priority, ∀ entry ∈ bus.index.ownAt node priority,
      bus.index.lookup? entry.kind.id = some node ∧ entry.priority = priority)
    (once : ∀ node priority, (bus.index.ownAt node priority).Nodup) :
    bus.heldListeners.Nodup := by
  rw [heldListeners, List.nodup_flatMap]
  constructor
  · intro node isNode
    obtain ⟨id, present⟩ := List.mem_iff_getElem?.mp isNode
    rw [Node.ownListeners, PerPriority.toList, List.flatMap_map, List.nodup_flatMap]
    simp only [← Index.ownAt_of_node? present]
    refine ⟨fun priority _ => once id priority, ?_⟩
    have distinct : Priority.all.Nodup := by decide
    refine distinct.imp fun apart entry isFirst isSecond => apart ?_
    exact (placed id _ entry isFirst).2.symm.trans (placed id _ entry isSecond).2
  · rw [List.pairwise_iff_getElem]
    intro first second inFirst inSecond before entry isFirst isSecond
    obtain ⟨level, isFirst⟩ := mem_ownListeners.mp isFirst
    obtain ⟨other, isSecond⟩ := mem_ownListeners.mp isSecond
    rw [← Index.ownAt_of_node? (List.getElem?_eq_getElem inFirst)] at isFirst
    rw [← Index.ownAt_of_node? (List.getElem?_eq_getElem inSecond)] at isSecond
    have found := (placed first level entry isFirst).1
    rw [(placed second other entry isSecond).1] at found
    cases found
    omega

namespace Settled

variable {bus : Bus β}

/-- A new bus has nothing to agree on. -/
theorem create
    (config : BusConfig)
    (forcesChecks : Bool)
    {metrics? : Option Metrics}
    (atZero : ∀ metrics ∈ metrics?, metrics.listeners = 0) :
    (Bus.create config forcesChecks metrics? : Bus β).Settled where
  coherent := .empty _
  keys := .nil
  ids := .nil
  placed := nofun
  held := .nil
  gauge := atZero

/-- Where tables and buckets match, a right gauge is all that is left to ask for. -/
theorem of_matched
    (matched : bus.Matched)
    (gauge : ∀ metrics ∈ bus.metrics?, metrics.listeners = bus.registeredListeners.length) :
    bus.Settled where
  coherent := matched.coherent
  keys := matched.keys
  ids := matched.ids
  placed := by
    intro id priority entry isHeld
    cases present : bus.index.node? id with
    | none =>
        rw [Index.ownAt, present] at isHeld
        cases isHeld
    | some node =>
        rw [Index.ownAt_of_node? present] at isHeld
        obtain ⟨-, sameKind, level⟩ := (matched.mem_bucket present).mp isHeld
        refine ⟨matched.coherent.arena.lookup?_iff.mpr ?_, level⟩
        rw [present, sameKind]
        rfl
  held := matched.heldListeners_perm
  gauge := gauge

/-- While no call is under way the accounts are what the table and the nodes agree on. -/
theorem accounted
    (settled : bus.Settled)
    {used : List ListenerId}
    (areUsed : ∀ entry ∈ bus.registeredListeners, entry.id ∈ used) :
    Traffic.Accounted used bus [] where
  stocked := by
    have isRegistered {node : Nat} {entry : Listener β} (isHeld : bus.index.Stores node entry) :
        entry ∈ bus.registeredListeners :=
      settled.held.subset (mem_heldListeners_iff.mpr ⟨node, isHeld⟩)
    refine ⟨settled.coherent, settled.keys, settled.ids, settled.placed, ?_, areUsed,
      fun node entry isHeld => areUsed entry (isRegistered isHeld)⟩
    intro id priority
    cases present : bus.index.node? id with
    | none =>
        rw [Index.ownAt, present]
        exact .nil
    | some node =>
        have nodup := settled.held.nodup_iff.mpr (List.Nodup.of_map _ settled.ids)
        have own := (List.nodup_flatMap.mp nodup).1 node (List.mem_of_getElem? present)
        rw [Node.ownListeners, PerPriority.toList, List.flatMap_map, List.nodup_flatMap] at own
        rw [Index.ownAt_of_node? present]
        exact own.1 priority (Priority.mem_all priority)
  separate := ⟨nofun, nofun, .nil, nofun⟩
  fits := nofun
  registered entry isRegistered :=
    .inl (mem_heldListeners_iff.mp (settled.held.symm.subset isRegistered))
  held node entry isHeld :=
    .inl (settled.held.subset (mem_heldListeners_iff.mpr ⟨node, isHeld⟩))
  gauge metrics isKept := (Int.add_zero _).trans (settled.gauge metrics isKept)

end Settled
end Bus

namespace Traffic

theorem Accounted.settled
    {used : List ListenerId}
    {bus : Bus β}
    {calls : List (Call β)}
    (accounted : Accounted used bus calls)
    (allFinished : ∀ call ∈ calls, call = .finished) :
    bus.Settled where
  coherent := accounted.stocked.coherent
  keys := accounted.stocked.keys
  ids := accounted.stocked.ids
  placed := accounted.stocked.placed
  held := by
    have stocked := accounted.stocked
    refine (List.perm_ext_iff_of_nodup (Bus.nodup_heldListeners stocked.placed stocked.once)
      (List.Nodup.of_map _ stocked.ids)).mpr fun entry => ?_
    rw [Bus.mem_heldListeners_iff]
    constructor
    · rintro ⟨node, isHeld⟩
      refine (accounted.held node entry isHeld).resolve_right ?_
      rintro ⟨call, isCall, answers⟩
      rw [allFinished call isCall] at answers
      exact answers
    · intro isRegistered
      refine (accounted.registered entry isRegistered).resolve_right ?_
      rintro ⟨call, isCall, promises⟩
      rw [allFinished call isCall] at promises
      exact Call.not_promises rfl entry promises
  gauge := by
    intro metrics isKept
    have balance := accounted.gauge metrics isKept
    have nothing : (calls.map Call.owes).sum = 0 := by
      refine List.sum_eq_zero fun amount isOwed => ?_
      obtain ⟨call, isCall, rfl⟩ := List.mem_map.mp isOwed
      rw [allFinished call isCall]
      rfl
    rwa [nothing, Int.add_zero] at balance

/-- Any number of commits and unregisterings, of any keys and interleaved in any way, begin on a
bus that is settled. When all of them have finished, it is settled again. -/
theorem Run.settles
    {before after : Traffic β}
    (run : Run before after)
    (settled : before.bus.Settled)
    (areUsed : ∀ entry ∈ before.bus.registeredListeners, entry.id ∈ before.used)
    (idle : before.calls = [])
    (isOver : after.IsOver) :
    after.bus.Settled := by
  have accounted := settled.accounted areUsed
  rw [← idle] at accounted
  exact (accounted.run run).settled isOver

/-! ### Two commits of one key, and an unregistering between them -/

open Index.Reachable (alarm sampleListener)

/-- The call at a position takes its next step. -/
def advanceAt (traffic : Traffic β) (position : Nat) : Traffic β :=
  match traffic.calls[position]? with
  | some call =>
      ⟨(call.advance traffic.bus).1, traffic.used,
        traffic.calls.set position (call.advance traffic.bus).2⟩
  | none => traffic

/-- Calls take their steps in a given order. -/
theorem run_foldl_advanceAt
    (traffic : Traffic β)
    (order : List Nat) :
    traffic.Run (order.foldl advanceAt traffic) := by
  induction order generalizing traffic with
  | nil => exact .refl
  | cons position rest inductionHypothesis =>
      refine .trans ?_ (inductionHypothesis _)
      unfold advanceAt
      split
      case h_1 call isAt =>
        obtain ⟨inside, rfl⟩ := List.getElem?_eq_some_iff.mp isAt
        have step := Step.advance traffic.bus traffic.used (traffic.calls.take position)
          traffic.calls[position] (traffic.calls.drop (position + 1))
        rw [List.getElem_cons_drop, List.take_append_drop] at step
        rw [List.set_eq_take_append_cons_drop, if_pos inside]
        exact .single step
      case h_2 => exact .refl

/-- A key that two commits take one after the other. -/
def warden : Key := .type "Warden"

/-- A metered bus on which alarms have their node. -/
def quiet : Bus Unit :=
  (Bus.create {} false (some ⟨"watch", 0, 0, 0, 0⟩)).withIndex
    ((Index.empty false).insert alarm none).1

/-- What the first commit brings. -/
def firstShift : Pending Unit := [(0, sampleListener 1 alarm .high)]

/-- What the second one brings. -/
def secondShift : Pending Unit := [(0, sampleListener 2 alarm .low)]

/-- Two commits and an unregistering have begun. -/
def crowded : Traffic Unit :=
  ⟨quiet, [⟨1⟩, ⟨2⟩],
    [.claiming warden firstShift, .taking warden, .claiming warden secondShift]⟩

/-- The first commit has its key taken away and given to the second, and withdraws. -/
def relieved : Traffic Unit :=
  [0, 1, 2, 1, 1, 1, 2, 0, 0, 2, 0, 0, 0, 2].foldl advanceAt crowded

theorem settled_quiet : quiet.Settled where
  coherent := by
    have linked :
        alarm.parent?.map (fun parent => (Index.empty false : Index Unit).lookup? parent.id) =
          (none : Option Nat).map some := rfl
    exact Index.Coherent.insert (.empty false) rfl linked
  keys := .nil
  ids := .nil
  placed := by
    intro node priority entry isHeld
    rw [quiet, Bus.index_withIndex, Index.ownAt_insert] at isHeld
    cases isHeld
  held := .nil
  gauge := by
    rintro _ ⟨⟩
    rfl

theorem run_crowded : Run ⟨quiet, [], []⟩ crowded := by
  have ready : Ready ⟨quiet, [], []⟩ firstShift := ⟨by decide, by decide, by decide⟩
  have readyToo : Ready ⟨quiet, [⟨1⟩], [.claiming warden firstShift, .taking warden]⟩ secondShift :=
    ⟨by decide, by decide, by decide⟩
  have first : Step ⟨quiet, [], []⟩ ⟨quiet, [⟨1⟩], [.claiming warden firstShift]⟩ :=
    .commit warden ready
  have second : Step ⟨quiet, [⟨1⟩], [.claiming warden firstShift]⟩
      ⟨quiet, [⟨1⟩], [.claiming warden firstShift, .taking warden]⟩ :=
    .unregister _ warden
  have third : Step ⟨quiet, [⟨1⟩], [.claiming warden firstShift, .taking warden]⟩ crowded :=
    .commit warden readyToo
  exact .tail (.tail (.single first) second) third

theorem Run.settles_relieved :
    Run ⟨quiet, [], []⟩ relieved ∧ quiet.Settled ∧ relieved.IsOver ∧ relieved.bus.Settled ∧
      relieved.bus.registrations = [(warden, secondShift.map Prod.snd)] := by
  have run : Run ⟨quiet, [], []⟩ relieved := run_crowded.trans (run_foldl_advanceAt _ _)
  have calls : relieved.calls = [.finished, .finished, .finished] := rfl
  have isOver : relieved.IsOver := by
    rw [IsOver, calls]
    simp
  exact ⟨run, settled_quiet, isOver,
    run.settles settled_quiet (List.forall_mem_nil _) rfl isOver, rfl⟩

end Traffic
end EventRelay
