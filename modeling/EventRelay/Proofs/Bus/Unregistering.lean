import EventRelay.Proofs.Bus.Carried
import EventRelay.Proofs.Bus.Enrollment
import EventRelay.Proofs.Hierarchy.Purging

/-!
# Removing a record

What is registered under a key is removed as a whole: the record from the table, and each of its
listeners from the bucket that holds it. All that is left is as it was. On a bus that has come
about by operations on it, in whichever order, a listener of the record stands in one bucket
only, and no other listener has its identity, so that purging by identities removes exactly the
listeners of the record.

Counts in the metrics do not matter for this, and so a bus is looked at without its metrics.
-/

namespace EventRelay

variable {σ τ β : Type}

namespace Bus

/-- The bus with nothing counted. -/
def withoutMetrics (bus : Bus β) : Bus β := { bus with metrics? := none }

theorem commit_withoutMetrics
    (bus : Bus β)
    (key : Key)
    (pending : Pending β) :
    (bus.commit key pending).withoutMetrics = bus.withoutMetrics.commit key pending := by
  have sameTable : bus.withoutMetrics.isRegistered key = bus.isRegistered key := rfl
  unfold commit
  rw [sameTable]
  split <;> rfl

theorem unregister_withoutMetrics
    (bus : Bus β)
    (key : Key) :
    (bus.unregister key).withoutMetrics = bus.withoutMetrics.unregister key := by
  have sameTable : bus.withoutMetrics.registered? key = bus.registered? key := rfl
  unfold unregister
  rw [sameTable]
  split <;> rfl

theorem nodeFor_withoutMetrics
    {bus grown : Bus β}
    {kind : Kind}
    {id : Nat}
    (made : bus.nodeFor kind = .ok (grown, id)) :
    bus.withoutMetrics.nodeFor kind = .ok (grown.withoutMetrics, id) := by
  obtain ⟨index, madeIndex, rfl⟩ := nodeFor_eq_ok made
  have found : bus.withoutMetrics.index.nodeFor kind = .ok (index, id) := madeIndex
  rw [nodeFor, found]
  rfl

end Bus

namespace Host

/-- The bus with nothing counted, and the number of identities issued so far. -/
def bare (host : Host σ β) (state : σ) : Bus β × Nat :=
  ((host.bus state).withoutMetrics, host.issued state)

/-- From one state to the other table and nodes stay in order. -/
def Tidy (host : Host σ β) (before after : σ) : Prop :=
  Bus.Ledger (host.bare before) → Bus.Evolves (host.bare before) (host.bare after)

section Order

variable {host : Host σ β} {first last : σ}

theorem bare_modify
    (lawful : host.Lawful)
    (change : Bus β → Bus β)
    (state : σ) :
    host.bare (host.modify change state) =
      ((change (host.bus state)).withoutMetrics, host.issued state) := by
  rw [bare, lawful.bus_modify, modify, lawful.issued_withBus]

theorem Tidy.aside
    (sameBus : host.bus last = host.bus first)
    (fewer : host.issued first ≤ host.issued last) :
    host.Tidy first last := by
  intro ledger
  rw [bare, bare, sameBus]
  exact ledger.issue fewer

theorem Tidy.trans
    {middle : σ}
    (earlier : host.Tidy first middle)
    (later : host.Tidy middle last) :
    host.Tidy first last := fun ledger =>
  have onward := earlier ledger
  onward.trans (later onward.ledger)

theorem Tidy.of_steps
    (steps : Relation.ReflTransGen host.Tidy first last) :
    host.Tidy first last := by
  induction steps with
  | refl => exact .aside rfl (Nat.le_refl _)
  | tail _ step inductionHypothesis => exact inductionHypothesis.trans step

theorem carries_tidy (lawful : host.Lawful) : host.Carries host.Tidy where
  unchanged state := .aside rfl (Nat.le_refl _)
  composed := .trans
  readies :=
    { note notice state := .aside (lawful.bus_note ..) (Nat.le_of_eq (lawful.issued_note ..).symm)
      issue state := by
        refine .aside (lawful.bus_withIssued _ state) ?_
        change host.issued state ≤ host.issued (host.withIssued (host.issued state + 1) state)
        rw [lawful.issued_withIssued]
        exact Nat.le_succ _
      grow state _ made ledger := by
        rw [bare, bare, lawful.bus_withBus, lawful.issued_withBus]
        exact ledger.nodeFor (Bus.nodeFor_withoutMetrics made) }
  refresh id state ledger := by
    rw [bare_modify lawful]
    exact ledger.refresh id
  unregister key state ledger := by
    rw [bare_modify lawful, Bus.unregister_withoutMetrics]
    exact ledger.unregister key
  start state ledger := by
    rw [bare_modify lawful]
    exact ledger.start
  commit key madeAll ledger := by
    rw [bare_modify lawful, Bus.commit_withoutMetrics]
    refine (madeAll.batch Tidy.of_steps (fun _ => rfl) (fun _ => rfl) (fun state => ?_)
      ledger).commit key
    exact Prod.ext (congrArg Bus.withoutMetrics (lawful.bus_withIssued ..))
      (lawful.issued_withIssued ..)

/-- Table and nodes of every bus that has come about by operations on it are in order. -/
theorem Performs.ledger
    {known : Kind → Prop}
    (performs : host.Performs (host.openTerms known) first last)
    (lawful : host.Lawful)
    {config : BusConfig}
    {forcesChecks : Bool}
    {metrics? : Option Metrics}
    (new : host.bus first = Bus.create config forcesChecks metrics?) :
    Bus.Ledger (host.bare last) := by
  have tidy : host.Tidy first last := by
    refine (carries_tidy lawful).of_performs (fun ran state ledger => ?_)
      (fun state ledger => ?_) lawful (fun _ _ fewer sameBus => .aside sameBus fewer) performs
    · rw [bare_modify lawful]
      exact ledger.issue (Nat.le_refl _)
    · rw [bare_modify lawful]
      exact ledger.issue (Nat.le_refl _)
  have inOrder : Bus.Ledger ((Bus.create config forcesChecks none : Bus β), host.issued first) := by
    refine .create config forcesChecks ?_ _
    exact nofun
  refine (tidy ?_).ledger
  rw [bare, new]
  exact inOrder

end Order

end Host

/-! ## Removals -/

namespace Bus

/-- What is registered under a key has been removed, and nothing else. -/
structure Removes (bus : Bus β) (key : Key) (listeners : List (Listener β)) (after : Bus β) :
    Prop where
  /-- The record is gone, and the others stay in their order. -/
  table : ∃ earlier later, bus.registrations = earlier ++ (key, listeners) :: later ∧
    after.registrations = earlier ++ later
  records : ∀ other, after.registered? other = if other = key then none else bus.registered? other
  /-- Every bucket keeps its other entries in their order. -/
  buckets : ∀ id priority, after.index.ownAt id priority =
    (bus.index.ownAt id priority).filter fun entry =>
      !(listeners.map Listener.id).contains entry.id
  /-- The listeners of the record are those that have gone. -/
  gone : ∀ id priority, ∀ entry ∈ bus.index.ownAt id priority,
    entry ∈ after.index.ownAt id priority ↔ entry ∉ listeners
  held : (after.heldListeners ++ listeners).Perm bus.heldListeners
  /-- Nodes become later by what is lost on the way up from them. -/
  nodes : ∀ id, after.index.node? id = (bus.index.node? id).map fun node =>
    (node.removeAll (listeners.map Listener.id)).raised
      (bus.index.losers (listeners.map Listener.id) id).length
  /-- A node is left alone if nothing is. -/
  untouched : ∀ id, (∀ above ∈ bus.index.lineage id, ∀ priority,
    ∀ entry ∈ bus.index.ownAt above priority, entry ∉ listeners) →
      after.index.node? id = bus.index.node? id
  frame : after.index.frame = bus.index.frame
  /-- All else that the bus holds is as it was, but for the gauge of registered listeners. -/
  rest : after = { bus with
    registrations := after.registrations
    index := after.index
    metrics? := bus.metrics?.map (Metrics.removeListeners · listeners.length) }

/-- A bus is as it was before something was registered, but for nodes that have been made. -/
structure Restores (bus later : Bus β) : Prop where
  table : later.registrations = bus.registrations
  /-- Events of every kind meet what they met before. -/
  arrays : ∀ kind, Kind.Consistent (fun other => other ∈ later.index.kinds ∨ other = kind) →
    later.index.arrayFor kind = bus.index.arrayFor kind

theorem registrations_unregister_commit
    {bus : Bus β}
    {key : Key}
    (free : bus.isRegistered key = false)
    (pending : Pending β) :
    ((bus.commit key pending).unregister key).registrations = bus.registrations := by
  rw [unregister, registered?_commit free, registrations_meter]
  change (bus.commit key pending).registrations.filter (fun entry => entry.1 ≠ key) = _
  have others : bus.registrations.filter (fun entry => entry.1 ≠ key) = bus.registrations := by
    refine List.filter_eq_self.mpr fun record isRecord => decide_eq_true fun isKey => ?_
    exact key_not_mem free (List.mem_map.mpr ⟨record, isRecord, isKey⟩)
  rw [registrations_commit free, List.filter_append, others]
  simp

/-- What is registered under other keys stays. -/
theorem registered?_unregister
    {bus : Bus β}
    (keys : (bus.registrations.map Prod.fst).Nodup)
    {key : Key}
    {listeners : List (Listener β)}
    (found : bus.registered? key = some listeners)
    (other : Key) :
    (bus.unregister key).registered? other =
      if other = key then none else bus.registered? other := by
  obtain ⟨earlier, later, before, after⟩ := exists_split_of_registered? keys found
  rw [registered?, registered?, before, after]
  split
  case isTrue same =>
    refine List.lookup_eq_none_iff.mpr fun record isRecord => ?_
    rw [same, bne_iff_ne]
    exact (key_ne_of_mem_others keys before isRecord).symm
  case isFalse differs =>
    have passes : (other == key) = false := by simpa using differs
    rw [List.lookup_append, List.lookup_append, List.lookup_cons, passes]

namespace Matched

variable {bus : Bus β} {key : Key} {listeners : List (Listener β)}

/-- Whether a kind has a node or not, it has the entries that are registered for it. -/
theorem entriesOf
    (matched : bus.Matched)
    (kindId : String)
    (priority : Priority) :
    bus.index.entriesOf kindId priority =
      bus.registeredListeners.filter (Listener.isFor kindId priority) := by
  unfold Index.entriesOf
  cases found : bus.index.lookup? kindId with
  | none => exact (matched.filter_isFor_eq_nil found priority).symm
  | some id =>
      obtain ⟨node, present, rfl⟩ := matched.coherent.arena.exists_of_lookup? found
      exact matched.buckets present priority

/-- An identity is that of one listener only. -/
theorem mem_ids_iff
    (matched : bus.Matched)
    (found : bus.registered? key = some listeners)
    {id : Nat}
    {priority : Priority}
    {entry : Listener β}
    (isHeld : entry ∈ bus.index.ownAt id priority) :
    entry.id ∈ listeners.map Listener.id ↔ entry ∈ listeners := by
  refine ⟨fun isListed => ?_, List.mem_map_of_mem⟩
  obtain ⟨other, isOther, sameId⟩ := List.mem_map.mp isListed
  have otherRegistered : other ∈ bus.registeredListeners := by
    obtain ⟨before, after, table, -⟩ := exists_split_of_registered? matched.keys found
    rw [registeredListeners, table]
    simp [isOther]
  have entryRegistered : entry ∈ bus.registeredListeners := by
    cases present : bus.index.node? id with
    | none =>
        rw [Index.ownAt, present] at isHeld
        cases isHeld
    | some node =>
        rw [matched.buckets present] at isHeld
        exact List.mem_of_mem_filter isHeld
  exact List.inj_on_of_nodup_map matched.ids otherRegistered entryRegistered sameId ▸ isOther

theorem removes
    (matched : bus.Matched)
    (found : bus.registered? key = some listeners) :
    bus.Removes key listeners (bus.unregister key) := by
  have index : (bus.unregister key).index = bus.index.purge (listeners.map Listener.id) := by
    rw [Bus.unregister, found, index_meter]
  have arena := matched.coherent.arena
  have buckets (id : Nat) (priority : Priority) :
      (bus.unregister key).index.ownAt id priority =
        (bus.index.ownAt id priority).filter fun entry =>
          !(listeners.map Listener.id).contains entry.id := by
    rw [index, Index.ownAt_purge]
  obtain ⟨earlier, later, before, after⟩ := exists_split_of_registered? matched.keys found
  constructor
  case table => exact ⟨earlier, later, before, after⟩
  case records => exact registered?_unregister matched.keys found
  case buckets => exact buckets
  case gone =>
    intro id priority entry isHeld
    rw [buckets, List.mem_filter, and_iff_right isHeld, ← matched.mem_ids_iff found isHeld]
    simp
  case held =>
    refine ((matched.unregister key).heldListeners_perm.append_right listeners).trans
      (.trans ?_ matched.heldListeners_perm.symm)
    rw [registeredListeners, registeredListeners, before, after]
    simp only [List.flatMap_append, List.flatMap_cons, List.append_assoc]
    exact List.perm_append_comm.append_left _
  case nodes =>
    intro id
    rw [index, arena.node?_purge]
  case untouched =>
    intro id free
    rw [index]
    refine arena.node?_purge_of_losers_eq_nil ?_
    refine List.eq_nil_iff_forall_not_mem.mpr fun above isLoser => ?_
    obtain ⟨isAbove, priority, entry, isHeld, isListed⟩ := Index.mem_losers_iff.mp isLoser
    exact free above isAbove priority entry isHeld ((matched.mem_ids_iff found isHeld).mp isListed)
  case frame => rw [index, Index.frame_purge]
  case rest =>
    rw [Bus.unregister, found]
    rfl

end Matched
end Bus

namespace Host

/-- Something is registered under a key. -/
inductive Registers (host : Host σ β) (key : Key) (state after : σ) : Prop
  /-- The methods of an object are, or the functions of a type. -/
  | enroll {τ : Type} (subscriber : SubscriberClass τ β) (object? : Option τ) :
      host.enroll key subscriber object? state = (.ok (), after) →
      Registers host key state after
  /-- A single listener is, under its own identity. -/
  | addListener (kind : Kind) (priority : Priority) (receivesCanceled : Bool)
      (description : String) (body : β) {id : ListenerId} :
      key = .listener id →
      host.addListener kind priority receivesCanceled description body state = (.ok id, after) →
      Registers host key state after

section Removing

variable {host : Host σ β} {known : Kind → Prop} {first state after : σ} {key : Key}

theorem unregister_of_free
    (free : (host.bus state).isRegistered key = false) :
    host.unregister key state = (false, state) := by
  rw [Bus.isRegistered, Option.isSome_eq_false_iff, Option.isNone_iff_eq_none] at free
  rw [unregister, free]

theorem unregister_of_registered
    (lawful : host.Lawful)
    {listeners : List (Listener β)}
    (found : (host.bus state).registered? key = some listeners) :
    (host.unregister key state).1 = true ∧
      host.view (host.unregister key state).2 =
        ((host.bus state).unregister key, host.issued state) := by
  rw [unregister, found]
  exact ⟨rfl, (lawful.view_note ..).trans (lawful.view_modify ..)⟩

/-- What is registered has been made ready before. -/
theorem Registers.commits
    (registers : host.Registers key state after)
    (lawful : host.Lawful)
    (still : host.StillChecker)
    (free : (host.bus state).isRegistered key = false) :
    ∃ pending ready, Bus.Prepares (fun _ => True) (fun _ => True) (host.view state) pending
        (host.view ready) ∧
      host.bus after = (host.bus ready).commit key pending := by
  have committed (name : String) (pending : Pending β) (ready : σ) :
      host.bus (host.commit key name pending ready).2 = (host.bus ready).commit key pending :=
    congrArg Prod.fst (view_commit lawful key name pending ready)
  cases registers with
  | enroll subscriber object? ended =>
      rw [enroll_eq, registerAs, Action.bind_of_ok (Action.look_apply _ state), free,
        if_neg Bool.false_ne_true] at ended
      rcases @prepare_cases _ _ _ host (fun _ => True) (fun _ => True) lawful still
          (fun _ _ _ => trivial) subscriber (Shape.of object?) object? (fun _ _ _ _ _ _ => trivial)
          state with
        ⟨pending, ready, made, -, prepares⟩ | ⟨stop, _, _, refused, -⟩
      · rw [Action.bind_of_ok made, commit_eq_ok] at ended
        cases ended
        exact ⟨pending, ready, prepares, committed ..⟩
      · rw [Action.bind_of_error refused] at ended
        cases ended
  | addListener kind priority receivesCanceled description body isKey ended =>
      subst isKey
      rw [Host.addListener] at ended
      rcases @checkTarget_cases _ _ host (fun _ => True) (fun _ => True) _ _ state still
          (fun _ _ _ => trivial) .start kind with
        ⟨checked, passed, concrete, -, prepares⟩ | ⟨stop, _, refused, -⟩
      case inr =>
        rw [Action.bind_of_error refused] at ended
        cases ended
      rw [Action.bind_of_ok passed] at ended
      rcases nodeFor_cases lawful prepares trivial with
        ⟨node, made, found, hasNode, prepares⟩ | ⟨stop, refused⟩
      case inr =>
        rw [Action.bind_of_error refused] at ended
        cases ended
      rw [Action.bind_of_ok found] at ended
      obtain ⟨listener, created, isNew, prepares⟩ := newListener_eq lawful prepares trivial concrete
        trivial hasNode priority receivesCanceled description body
      rw [Action.bind_of_ok isNew, Action.bind_of_ok (commit_eq_ok ..)] at ended
      cases ended
      exact ⟨_, created, prepares, committed ..⟩

theorem Registers.tidy
    (registers : host.Registers key state after)
    (lawful : host.Lawful)
    (still : host.StillChecker) :
    host.Tidy state after := by
  have checks (kind : Kind) (state : σ) : host.Tidy state (host.checker kind state).2 :=
    .aside (still kind state).1 (still kind state).2
  cases registers with
  | enroll subscriber object? ended =>
      have registered := (carries_tidy lawful).registerAs checks lawful key subscriber
        (Shape.of object?) object? state
      rwa [← enroll_eq, ended] at registered
  | addListener kind priority receivesCanceled description body isKey ended =>
      have added := (carries_tidy lawful).addListener checks lawful kind priority receivesCanceled
        description body state
      rwa [ended] at added

/-- A registration is undone when its record is removed. -/
theorem Registers.restores
    (registers : host.Registers key state after)
    (lawful : host.Lawful)
    (still : host.StillChecker)
    (free : (host.bus state).isRegistered key = false)
    (ledger : Bus.Ledger (host.bare state))
    (reachable : (host.bus state).index.Reachable) :
    (host.unregister key after).1 = true ∧
      (host.bus state).Restores (host.bus (host.unregister key after).2) := by
  obtain ⟨pending, ready, prepares, committed⟩ := registers.commits lawful still free
  obtain ⟨grows, sameBus⟩ := prepares.grows
  have sameBus : host.bus ready = (host.bus state).withIndex (host.bus ready).index := sameBus
  have stillFree : (host.bus ready).isRegistered key = false := by
    rw [sameBus]
    exact free
  have found : (host.bus after).registered? key = some (pending.map Prod.snd) := by
    rw [committed, Bus.registered?_commit stillFree]
  obtain ⟨answer, seen⟩ := unregister_of_registered lawful found
  have removed : host.bus (host.unregister key after).2 = (host.bus after).unregister key :=
    congrArg Prod.fst seen
  have table :
      ((host.bus after).unregister key).registrations = (host.bus state).registrations := by
    rw [committed, Bus.registrations_unregister_commit stillFree, sameBus]
    rfl
  rw [removed]
  refine ⟨answer, table, fun kind consistent => ?_⟩
  have before : (host.bus state).Matched := ledger.matched.congr rfl rfl
  have afterwards : (host.bus after).Matched :=
    (registers.tidy lawful still ledger).ledger.matched.congr rfl rfl
  have laterReachable : ((host.bus after).unregister key).index.Reachable := by
    rw [committed]
    exact Bus.reachable_unregister
      (Bus.reachable_commit (prepares.index_reachable reachable) key pending) key
  refine reachable.arrayFor_congr laterReachable (fun kindId priority => ?_) ?_ consistent
  · rw [(afterwards.unregister key).entriesOf, before.entriesOf, Bus.registeredListeners, table,
      Bus.registeredListeners]
  · refine consistent.mono fun other isOther => isOther.imp_left fun old => ?_
    rw [committed, Index.kinds_of_frame_eq (Bus.frame_unregister ..),
      Index.kinds_of_frame_eq (Bus.frame_commit ..)]
    exact grows.kinds_extend.subset old

/-- On every bus that has come about by operations on it, a removal tells whether the key is
registered. If it is, the record and its listeners are removed and nothing else, and only nodes
on whose way up something is lost become later. If it is not, and so after a first removal,
nothing changes. A registration under a free key that is followed by the removal of its record
leaves what events of each kind meet as it was before, unless the checker uses the bus. -/
theorem Performs.unregisters_exactly
    (performs : host.Performs (host.openTerms known) first state)
    (lawful : host.Lawful)
    {config : BusConfig}
    {forcesChecks : Bool}
    {metrics? : Option Metrics}
    (new : host.bus first = Bus.create config forcesChecks metrics?)
    (key : Key) :
    (host.unregister key state).1 = (host.bus state).isRegistered key ∧
      ((host.bus state).isRegistered key = false → host.unregister key state = (false, state)) ∧
      (∀ listeners, (host.bus state).registered? key = some listeners →
        (host.bus state).Removes key listeners (host.bus (host.unregister key state).2) ∧
          host.issued (host.unregister key state).2 = host.issued state) ∧
      host.unregister key (host.unregister key state).2 = (false, (host.unregister key state).2) ∧
      ((host.bus state).isRegistered key = false → host.StillChecker →
        ∀ after, host.Registers key state after →
          (host.unregister key after).1 = true ∧
            (host.bus state).Restores (host.bus (host.unregister key after).2)) := by
  have ledger := performs.ledger lawful new
  have matched : (host.bus state).Matched := ledger.matched.congr rfl rfl
  have removes (listeners : List (Listener β))
      (found : (host.bus state).registered? key = some listeners) :
      (host.bus state).Removes key listeners (host.bus (host.unregister key state).2) ∧
        host.issued (host.unregister key state).2 = host.issued state := by
    obtain ⟨sameBus, sameIssued⟩ := Prod.ext_iff.mp (unregister_of_registered lawful found).2
    have sameBus : host.bus (host.unregister key state).2 = (host.bus state).unregister key :=
      sameBus
    rw [sameBus]
    exact ⟨matched.removes found, sameIssued⟩
  refine ⟨?_, unregister_of_free, removes, ?_, fun free still after registers => ?_⟩
  · cases free : (host.bus state).isRegistered key with
    | false => rw [unregister_of_free free]
    | true =>
        obtain ⟨listeners, found⟩ := Option.isSome_iff_exists.mp free
        exact (unregister_of_registered lawful found).1
  · refine unregister_of_free ?_
    cases free : (host.bus state).isRegistered key with
    | false => rwa [unregister_of_free free]
    | true =>
        obtain ⟨listeners, found⟩ := Option.isSome_iff_exists.mp free
        rw [Bus.isRegistered, (removes listeners found).1.records, if_pos rfl]
        rfl
  · exact registers.restores lawful still free ledger (performs.filed lawful new).reachable

end Removing

/-! ### A class that is registered and removed -/

open Index.Reachable (alarm drill)
open FailsToRegister (heard taking impostor)

/-- Besides the listener for alarms, a class is registered that listens to drills and alarms. -/
def joined : Bus Unit × Nat := ((calm Unit).registerType (.type "Valid") valid heard).2

/-- The class has been removed. -/
def parted : Bus Unit × Nat := ((calm Unit).unregister (.type "Valid") joined).2

theorem registers_joined : (calm Unit).Registers (.type "Valid") heard joined :=
  .enroll valid none (Action.eq_ok_of_toOption (by decide +kernel))

theorem performs_joined :
    (calm Unit).Performs ((calm Unit).openTerms Heard) (Bus.create {} false none, 0) joined := by
  have areKnown : TakesKnown Heard valid := takesKnown_taking [drill, alarm] (by simp [Heard])
  refine .trans performs_heard (.registerType _ _ ?_ fun _ state => .refl state)
  intro method isMethod param belongs kind isEvent
  exact ⟨areKnown method isMethod param belongs kind isEvent, fun _ _ _ => trivial⟩

/-- The removal of the class makes the node of alarms later once and that of drills, which stands
below and has lost a listener as well, twice. Then nothing is left to be removed, and drills meet
what they met before. -/
theorem Performs.unregisters_exactly_parted :
    (calm Unit).Performs ((calm Unit).openTerms Heard) (Bus.create {} false none, 0) heard ∧
      (calm Unit).Performs ((calm Unit).openTerms Heard) (Bus.create {} false none, 0) joined ∧
      (calm Unit).unregister (.type "Valid") heard = (false, heard) ∧
      (calm Unit).Registers (.type "Valid") heard joined ∧
      ((calm Unit).unregister (.type "Valid") joined).1 = true ∧
      (∃ listeners, joined.1.registered? (.type "Valid") = some listeners ∧
        joined.1.Removes (.type "Valid") listeners parted.1) ∧
      (joined.1.index.generation? 0, parted.1.index.generation? 0) = (some 3, some 4) ∧
      (joined.1.index.generation? 1, parted.1.index.generation? 1) = (some 3, some 5) ∧
      (calm Unit).unregister (.type "Valid") parted = (false, parted) ∧
      parted.1.index.arrayFor drill = heard.1.index.arrayFor drill := by
  have lawful := lawful_calm Unit
  obtain ⟨-, unchanged, -, -, restores⟩ :=
    performs_heard.unregisters_exactly lawful rfl (.type "Valid")
  obtain ⟨answer, -, removes, again, -⟩ :=
    performs_joined.unregisters_exactly lawful rfl (.type "Valid")
  have free : heard.1.isRegistered (.type "Valid") = false := by decide +kernel
  have taken : joined.1.isRegistered (.type "Valid") = true := by decide +kernel
  obtain ⟨listeners, found⟩ := Option.isSome_iff_exists.mp taken
  have restored := (restores free (stillChecker_calm Unit) joined registers_joined).2
  refine ⟨performs_heard, performs_joined, unchanged free, registers_joined, answer.trans taken,
    ⟨listeners, found, (removes listeners found).1⟩, by decide +kernel, by decide +kernel, again,
    restored.arrays drill (consistent_heard.mono ?_)⟩
  have kinds : parted.1.index.kinds = [alarm, drill] := by decide +kernel
  intro kind isOne
  change kind ∈ parted.1.index.kinds ∨ kind = drill at isOne
  simp only [kinds, List.mem_cons, List.not_mem_nil, or_false] at isOne
  rcases isOne with (rfl | rfl) | rfl
  · exact .inl rfl
  · exact .inr (.inl rfl)
  · exact .inr (.inl rfl)

/-- The listener that a checker adds while it is asked about a class stays when the class is
removed. And where two kinds share an identity, the node that has been made for one of them stays
and decides what events of the other meet. -/
theorem Registers.exists_remainder :
    (recruiting.Lawful ∧ ∃ start after,
      recruiting.bus start = Bus.create {} false none ∧
      (recruiting.bus start).isRegistered (.type "Valid") = false ∧
      recruiting.Registers (.type "Valid") start after ∧
      ((recruiting.bus start).index.arrayFor alarm).toOption.map List.length = some 0 ∧
      ((recruiting.bus (recruiting.unregister (.type "Valid") after).2).index.arrayFor
        alarm).toOption.map List.length = some 1) ∧
    heard.1.isRegistered (.type "Valid") = false ∧
      (calm Unit).Registers (.type "Valid") heard joined ∧
      (heard.1.index.arrayFor impostor).toOption.map List.length = some 0 ∧
      (parted.1.index.arrayFor impostor).toOption.map List.length = some 1 := by
  constructor
  · have lawful : recruiting.Lawful :=
      ⟨fun _ _ => rfl, fun _ _ => rfl, fun _ _ => rfl, fun _ _ => rfl, fun _ _ => rfl,
        fun _ _ => rfl⟩
    refine ⟨lawful, (Bus.create {} false none, 0), _, rfl, by decide +kernel,
      .enroll ⟨"Valid", [taking alarm], []⟩ none (Action.eq_ok_of_toOption (by decide +kernel)),
      ?_, ?_⟩
    · decide +kernel
    · decide +kernel
  · exact ⟨by decide +kernel, registers_joined, by decide +kernel, by decide +kernel⟩

end Host
end EventRelay
