import EventRelay.Proofs.Bus.Stock
import Mathlib.Algebra.BigOperators.Group.List.Basic
import Mathlib.Algebra.Ring.Int.Defs

/-!
# Accounts of calls under way

A listener may be in the table and not yet at its node, or at its node and no longer in the table.
But then a call accounts for it, one that is still to insert it or one that is still to take it
out. Every step of every call keeps these accounts.
-/

namespace EventRelay

variable {β : Type}

namespace Call

open Bus (distinctIds)

/-! ## What a call accounts for -/

/-- The listeners that a call brings, until it is done with inserting them. -/
def brought : Call β → Pending β
  | .claiming _ pending => pending
  | .counting _ pending => pending
  | .inserting _ pending _ => pending
  | _ => []

/-- Those of them that it is still to insert. -/
def waiting : Call β → Pending β
  | .claiming _ pending => pending
  | .counting _ pending => pending
  | .inserting _ _ rest => rest
  | _ => []

/-- Those of them that the table does not hold yet. -/
def unclaimed : Call β → Pending β
  | .claiming _ pending => pending
  | _ => []

/-- The key under which a call has put its listeners into the table. -/
def key? : Call β → Option Key
  | .counting key _ => some key
  | .inserting key _ _ => some key
  | _ => none

/-- Identities of the listeners that a call takes out of the nodes. -/
def removing : Call β → List ListenerId
  | .withdrawing pending _ => distinctIds pending
  | .looking listeners => listeners.map Listener.id
  | .sweeping listeners _ => listeners.map Listener.id
  | _ => []

/-- If the listener that a node holds is not in the table, the call will come by and remove it
from there. -/
def AnswersFor : Call β → Nat → Listener β → Prop
  | .inserting _ pending _, node, entry => (node, entry) ∈ pending
  | .withdrawing pending rest, node, entry =>
      entry.id ∈ distinctIds pending ∧ node ∈ rest.map Prod.fst
  | .looking listeners, _, entry => entry.id ∈ listeners.map Listener.id
  | .sweeping listeners nodes, node, entry =>
      entry.id ∈ listeners.map Listener.id ∧ node ∈ nodes
  | _, _, _ => False

/-- The listener is in the table, and the call will insert it. -/
def Promises (call : Call β) (entry : Listener β) : Prop :=
  call.key?.isSome ∧ ∃ node, (node, entry) ∈ call.waiting

/-- What a call has changed in the table and not yet in the gauge. -/
def owes : Call β → Int
  | .counting _ pending => (distinctIds pending).length
  | .looking listeners => -listeners.length
  | .sweeping listeners _ => -listeners.length
  | _ => 0

/-- The call is one that still brings listeners. -/
def brings : Call β → Bool
  | .claiming .. => true
  | .counting .. => true
  | .inserting .. => true
  | _ => false

theorem brought_eq_nil
    {call : Call β}
    (done : call.brings = false) :
    call.brought = [] := by
  cases call with
  | claiming | counting | inserting => cases done
  | _ => rfl

theorem waiting_eq_nil
    {call : Call β}
    (done : call.brings = false) :
    call.waiting = [] := by
  cases call with
  | claiming | counting | inserting => cases done
  | _ => rfl

theorem unclaimed_eq_nil
    {call : Call β}
    (done : call.brings = false) :
    call.unclaimed = [] := by
  cases call with
  | claiming | counting | inserting => cases done
  | _ => rfl

theorem key?_eq_none
    {call : Call β}
    (done : call.brings = false) :
    call.key? = none := by
  cases call with
  | claiming | counting | inserting => cases done
  | _ => rfl

theorem not_promises
    {call : Call β}
    (done : call.brings = false)
    (entry : Listener β) :
    ¬ call.Promises entry := by
  rw [Promises, key?_eq_none done]
  exact fun promises => absurd promises.1 (by decide)

theorem mem_brought_of_mem_unclaimed
    {call : Call β}
    {entry : Nat × Listener β}
    (isUnclaimed : entry ∈ call.unclaimed) :
    entry ∈ call.brought := by
  cases call with
  | claiming key pending => exact isUnclaimed
  | _ => cases isUnclaimed

/-- A call and the bus that it works on. -/
structure Fits (bus : Bus β) (call : Call β) : Prop where
  waiting : call.waiting.Sublist call.brought
  /-- What is to be inserted goes to the nodes of its kinds. -/
  node : ∀ entry ∈ call.waiting, bus.index.lookup? entry.2.kind.id = some entry.1
  /-- What is to be inserted is at no node yet. -/
  absent : ∀ entry ∈ call.waiting, ∀ node held, bus.index.Stores node held →
    held.id ≠ entry.2.id
  /-- What is to be claimed is in no record yet. -/
  untaken : ∀ entry ∈ call.unclaimed, ∀ registered ∈ bus.registeredListeners,
    registered.id ≠ entry.2.id
  /-- What has been claimed is in no record but that of the call. -/
  record : ∀ key ∈ call.key?, ∀ record ∈ bus.registrations, ∀ registered ∈ record.2,
    ∀ entry ∈ call.brought, registered.id = entry.2.id →
      record = (key, call.brought.map Prod.snd)
  /-- What is removed is in no record any more. -/
  gone : ∀ id ∈ call.removing, ∀ registered ∈ bus.registeredListeners, registered.id ≠ id

end Call

/-- A call still fits when others have changed the bus and kept away from its listeners. -/
theorem Call.Fits.later
    {bus later : Bus β}
    {call : Call β}
    (fits : call.Fits bus)
    (nodes : ∀ kindId node, bus.index.lookup? kindId = some node →
      later.index.lookup? kindId = some node)
    (held : ∀ node entry, later.index.Stores node entry →
      bus.index.Stores node entry ∨ ∀ own ∈ call.waiting, entry.id ≠ own.2.id)
    (table : ∀ record ∈ later.registrations, record ∈ bus.registrations ∨
      ∀ entry ∈ record.2, (∀ own ∈ call.brought, entry.id ≠ own.2.id) ∧
        entry.id ∉ call.removing) :
    call.Fits later where
  waiting := fits.waiting
  node own isWaiting := nodes _ _ (fits.node own isWaiting)
  absent := by
    intro own isWaiting node entry isHeld
    rcases held node entry isHeld with before | apart
    · exact fits.absent own isWaiting node entry before
    · exact apart own isWaiting
  untaken := by
    intro own isUnclaimed entry isRegistered
    obtain ⟨record, isRecord, isEntry⟩ := Bus.mem_registeredListeners.mp isRegistered
    rcases table record isRecord with before | apart
    · exact fits.untaken own isUnclaimed entry
        (Bus.mem_registeredListeners.mpr ⟨record, before, isEntry⟩)
    · exact (apart entry isEntry).1 own (Call.mem_brought_of_mem_unclaimed isUnclaimed)
  record := by
    intro key isKey record isRecord entry isEntry own isOwn same
    rcases table record isRecord with before | apart
    · exact fits.record key isKey record before entry isEntry own isOwn same
    · exact absurd same ((apart entry isEntry).1 own isOwn)
  gone := by
    rintro _ isRemoved entry isRegistered rfl
    obtain ⟨record, isRecord, isEntry⟩ := Bus.mem_registeredListeners.mp isRegistered
    rcases table record isRecord with before | apart
    · exact fits.gone _ isRemoved entry
        (Bus.mem_registeredListeners.mpr ⟨record, before, isEntry⟩) rfl
    · exact (apart entry isEntry).2 isRemoved

namespace Traffic

open Call (Fits)

/-- Calls do not get in each other's way: no two bring the same listener, and none removes what
another is still to claim. -/
structure Separate (used : List ListenerId) (calls : List (Call β)) : Prop where
  brought : ∀ call ∈ calls, ∀ entry ∈ call.brought, entry.2.id ∈ used
  removing : ∀ call ∈ calls, ∀ id ∈ call.removing, id ∈ used
  apart : (calls.flatMap fun call => call.brought.map fun entry => entry.2.id).Nodup
  unclaimed : ∀ call ∈ calls, ∀ entry ∈ call.unclaimed, ∀ other ∈ calls,
    entry.2.id ∉ other.removing

/-- The accounts of a bus on which calls are under way. -/
structure Accounted (used : List ListenerId) (bus : Bus β) (calls : List (Call β)) : Prop where
  stocked : bus.Stocked used
  separate : Separate used calls
  fits : ∀ call ∈ calls, call.Fits bus
  /-- What is registered is at a node or will be. -/
  registered : ∀ entry ∈ bus.registeredListeners,
    (∃ node, bus.index.Stores node entry) ∨ ∃ call ∈ calls, call.Promises entry
  /-- What is at a node is registered or will be removed. -/
  held : ∀ node entry, bus.index.Stores node entry →
    entry ∈ bus.registeredListeners ∨ ∃ call ∈ calls, call.AnswersFor node entry
  gauge : ∀ metrics ∈ bus.metrics?,
    metrics.listeners + (calls.map Call.owes).sum = bus.registeredListeners.length

/-! ## What replacing a call keeps -/

section Replacing

variable {used : List ListenerId} {bus later : Bus β} {call next : Call β}
  {others : List (Call β)}

namespace Separate

theorem perm
    {calls shuffled : List (Call β)}
    (separate : Separate used calls)
    (same : calls.Perm shuffled) :
    Separate used shuffled where
  brought other isCall := separate.brought other (same.mem_iff.mpr isCall)
  removing other isCall := separate.removing other (same.mem_iff.mpr isCall)
  apart := (same.flatMap_right _).nodup_iff.mp separate.apart
  unclaimed other isCall entry isUnclaimed another isAnother :=
    separate.unclaimed other (same.mem_iff.mpr isCall) entry isUnclaimed another
      (same.mem_iff.mpr isAnother)

theorem nodup_brought
    (separate : Separate used (call :: others)) :
    (call.brought.map fun entry => entry.2.id).Nodup :=
  (List.nodup_append.mp separate.apart).1

/-- What a call brings no other call brings. -/
theorem ne_brought
    (separate : Separate used (call :: others))
    {entry : Nat × Listener β}
    (isBrought : entry ∈ call.brought)
    {other : Call β}
    (isOther : other ∈ others)
    {own : Nat × Listener β}
    (isOwn : own ∈ other.brought) :
    entry.2.id ≠ own.2.id :=
  (List.nodup_append.mp separate.apart).2.2 _ (List.mem_map_of_mem isBrought) _
    (List.mem_flatMap.mpr ⟨other, isOther, List.mem_map_of_mem isOwn⟩)

theorem replace
    (separate : Separate used (call :: others))
    (brought : next.brought.Sublist call.brought)
    (claimed : next.unclaimed = [])
    (removing : ∀ id ∈ next.removing, id ∈ used ∧
      ∀ other ∈ others, ∀ entry ∈ other.unclaimed, entry.2.id ≠ id) :
    Separate used (next :: others) where
  brought := by
    refine List.forall_mem_cons.mpr ⟨fun entry isBrought => ?_, ?_⟩
    · exact separate.brought call List.mem_cons_self entry (brought.subset isBrought)
    · exact fun other isOther => separate.brought other (List.mem_cons_of_mem _ isOther)
  removing := by
    refine List.forall_mem_cons.mpr ⟨fun id isRemoved => (removing id isRemoved).1, ?_⟩
    exact fun other isOther => separate.removing other (List.mem_cons_of_mem _ isOther)
  apart := separate.apart.sublist ((brought.map _).append_right _)
  unclaimed := by
    refine List.forall_mem_cons.mpr ⟨fun entry isUnclaimed => ?_, ?_⟩
    · rw [claimed] at isUnclaimed
      cases isUnclaimed
    · intro other isOther entry isUnclaimed
      refine List.forall_mem_cons.mpr ⟨fun isRemoved => ?_, fun another isAnother => ?_⟩
      · exact (removing _ isRemoved).2 other isOther entry isUnclaimed rfl
      · exact separate.unclaimed other (List.mem_cons_of_mem _ isOther) entry isUnclaimed another
          (List.mem_cons_of_mem _ isAnother)

end Separate

/-- A call that brings nothing fits if what it removes is in no record. -/
theorem fits_of_not_brings
    (done : call.brings = false)
    (gone : ∀ id ∈ call.removing, ∀ registered ∈ bus.registeredListeners, registered.id ≠ id) :
    call.Fits bus := by
  refine ⟨?_, ?_, ?_, ?_, ?_, gone⟩
  · rw [Call.waiting_eq_nil done]
    exact List.nil_sublist _
  · rw [Call.waiting_eq_nil done]
    nofun
  · rw [Call.waiting_eq_nil done]
    nofun
  · rw [Call.unclaimed_eq_nil done]
    nofun
  · rw [Call.key?_eq_none done]
    nofun

namespace Accounted

theorem perm
    {calls shuffled : List (Call β)}
    (accounted : Accounted used bus calls)
    (same : calls.Perm shuffled) :
    Accounted used bus shuffled where
  stocked := accounted.stocked
  separate := accounted.separate.perm same
  fits other isCall := accounted.fits other (same.mem_iff.mpr isCall)
  registered entry isRegistered :=
    (accounted.registered entry isRegistered).imp_right fun ⟨other, isCall, promises⟩ =>
      ⟨other, same.mem_iff.mp isCall, promises⟩
  held node entry isHeld :=
    (accounted.held node entry isHeld).imp_right fun ⟨other, isCall, answers⟩ =>
      ⟨other, same.mem_iff.mp isCall, answers⟩
  gauge metrics isKept := by
    rw [← (same.map Call.owes).sum_eq]
    exact accounted.gauge metrics isKept

/-- A call goes on, and the listener lists and the table stay as they are. -/
theorem goOn
    (accounted : Accounted used bus (call :: others))
    (sameIndex : later.index = bus.index)
    (sameTable : later.registrations = bus.registrations)
    (fits : next.Fits bus)
    (brought : next.brought.Sublist call.brought)
    (claimed : next.unclaimed = [])
    (removing : ∀ id ∈ next.removing, id ∈ used ∧
      ∀ other ∈ others, ∀ entry ∈ other.unclaimed, entry.2.id ≠ id)
    (promises : ∀ entry ∈ bus.registeredListeners, call.Promises entry → next.Promises entry)
    (answers : ∀ node entry, bus.index.Stores node entry → call.AnswersFor node entry →
      entry ∈ bus.registeredListeners ∨ next.AnswersFor node entry)
    (gauge : ∀ metrics ∈ later.metrics?, ∃ before ∈ bus.metrics?,
      metrics.listeners + next.owes = before.listeners + call.owes) :
    Accounted used later (next :: others) := by
  have sameListeners : later.registeredListeners = bus.registeredListeners := by
    rw [Bus.registeredListeners, sameTable, Bus.registeredListeners]
  have keeps {other : Call β} (fitsBefore : other.Fits bus) : other.Fits later := by
    refine fitsBefore.later ?_ ?_ ?_
    · exact fun _ _ found => sameIndex ▸ found
    · exact fun _ _ isHeld => .inl (sameIndex ▸ isHeld)
    · exact fun _ isRecord => .inl (sameTable ▸ isRecord)
  refine ⟨accounted.stocked.congr sameIndex sameTable,
    accounted.separate.replace brought claimed removing, ?_, ?_, ?_, ?_⟩
  · refine List.forall_mem_cons.mpr ⟨keeps fits, fun other isOther => keeps ?_⟩
    exact accounted.fits other (List.mem_cons_of_mem _ isOther)
  · intro entry isRegistered
    rw [sameListeners] at isRegistered
    rw [sameIndex, List.exists_mem_cons_iff]
    refine (accounted.registered entry isRegistered).imp_right fun promised => ?_
    rw [List.exists_mem_cons_iff] at promised
    exact promised.imp_left (promises entry isRegistered)
  · intro node entry isHeld
    rw [sameIndex] at isHeld
    rw [sameListeners, List.exists_mem_cons_iff]
    rcases accounted.held node entry isHeld with isRegistered | answered
    · exact .inl isRegistered
    · rw [List.exists_mem_cons_iff] at answered
      rcases answered with here | elsewhere
      · exact (answers node entry isHeld here).imp_right .inl
      · exact .inr (.inr elsewhere)
  · intro metrics isKept
    obtain ⟨before, wasKept, same⟩ := gauge metrics isKept
    have balance := accounted.gauge before wasKept
    rw [List.map_cons, List.sum_cons] at balance ⊢
    rw [sameListeners]
    omega

/-- A commit puts its listeners into the table. -/
theorem claim
    {key : Key}
    {pending : Pending β}
    (accounted : Accounted used bus (.claiming key pending :: others))
    (free : bus.isRegistered key = false) :
    Accounted used (bus.addRecord key (pending.map Prod.snd))
      (.counting key pending :: others) := by
  have fits := accounted.fits _ List.mem_cons_self
  have separate := accounted.separate
  have ids : ((pending.map Prod.snd).map Listener.id).Nodup := by
    rw [List.map_map]
    exact separate.nodup_brought
  refine ⟨accounted.stocked.addRecord free ids ?_ ?_,
    separate.replace (.refl _) rfl nofun, ?_, ?_, ?_, ?_⟩
  · intro listener isNew
    obtain ⟨entry, isPending, rfl⟩ := List.mem_map.mp isNew
    exact fits.untaken entry isPending
  · intro listener isNew
    obtain ⟨entry, isPending, rfl⟩ := List.mem_map.mp isNew
    exact separate.brought _ List.mem_cons_self entry isPending
  · refine List.forall_mem_cons.mpr
      ⟨⟨fits.waiting, fits.node, fits.absent, nofun, ?_, nofun⟩, fun other isOther => ?_⟩
    · -- Nobody else has a record with these listeners.
      rintro _ ⟨⟩ record isRecord registered isEntry entry isPending same
      rcases List.mem_append.mp isRecord with old | new
      · have isRegistered := Bus.mem_registeredListeners.mpr ⟨record, old, isEntry⟩
        exact absurd same (fits.untaken entry isPending registered isRegistered)
      · exact List.mem_singleton.mp new
    · refine (accounted.fits other (List.mem_cons_of_mem _ isOther)).later
        (fun _ _ => id) (fun _ _ => .inl) fun record isRecord => ?_
      rcases List.mem_append.mp isRecord with old | new
      · exact .inl old
      · cases List.mem_singleton.mp new
        refine .inr fun listener isNew => ?_
        obtain ⟨entry, isPending, rfl⟩ := List.mem_map.mp isNew
        exact ⟨fun own => separate.ne_brought isPending isOther,
          separate.unclaimed _ List.mem_cons_self entry isPending other
            (List.mem_cons_of_mem _ isOther)⟩
  · intro entry isRegistered
    rw [List.exists_mem_cons_iff]
    rw [Bus.registeredListeners_addRecord, List.mem_append] at isRegistered
    rcases isRegistered with old | new
    · refine (accounted.registered entry old).imp_right fun promised => ?_
      rw [List.exists_mem_cons_iff] at promised
      exact .inr (promised.resolve_left fun promises => Bool.false_ne_true promises.1)
    · obtain ⟨⟨node, _⟩, isPending, rfl⟩ := List.mem_map.mp new
      exact .inr (.inl ⟨rfl, node, isPending⟩)
  · intro node entry isHeld
    rw [Bus.registeredListeners_addRecord, List.mem_append, List.exists_mem_cons_iff]
    rcases accounted.held node entry isHeld with isRegistered | answered
    · exact .inl (.inl isRegistered)
    · rw [List.exists_mem_cons_iff] at answered
      exact .inr (.inr (answered.resolve_left id))
  · intro metrics isKept
    have balance := accounted.gauge metrics isKept
    rw [List.map_cons, List.sum_cons] at balance ⊢
    rw [Bus.registeredListeners_addRecord, List.length_append, List.length_map]
    have count : (Bus.distinctIds pending).length = pending.length :=
      Bus.length_distinctIds separate.nodup_brought
    simp only [Call.owes] at balance ⊢
    omega

/-- A commit inserts a listener into its node. -/
theorem insert
    {key : Key}
    {node : Nat}
    {listener : Listener β}
    {pending rest : Pending β}
    (accounted : Accounted used bus (.inserting key pending ((node, listener) :: rest) :: others)) :
    Accounted used (bus.withIndex (bus.index.register node listener.priority listener))
      (.inserting key pending rest :: others) := by
  have fits := accounted.fits _ List.mem_cons_self
  have separate := accounted.separate
  have isWaiting : (node, listener) ∈ (node, listener) :: rest := List.mem_cons_self
  have isPending : (node, listener) ∈ pending := fits.waiting.subset isWaiting
  have found := fits.node _ isWaiting
  have waits : ((node, listener) :: rest).Sublist pending := fits.waiting
  have distinct := separate.nodup_brought.sublist (waits.map _)
  have stores {other : Nat} {entry : Listener β} :
      (bus.index.register node listener.priority listener).Stores other entry ↔
        bus.index.Stores other entry ∨ node = other ∧ entry = listener :=
    Index.stores_register (accounted.stocked.lt_size found) listener.priority listener
  have lookup := Index.lookup?_of_frame_eq
    (Index.frame_register bus.index node listener.priority listener)
  refine ⟨accounted.stocked.register found ?_ ?_, separate.replace (.refl _) rfl nofun,
    ?_, ?_, ?_, accounted.gauge⟩
  · exact fun isHeld => fits.absent _ isWaiting node listener isHeld rfl
  · exact separate.brought _ List.mem_cons_self _ isPending
  · refine List.forall_mem_cons.mpr
      ⟨⟨(List.sublist_cons_self _ _).trans waits, ?_, ?_, nofun, fits.record, nofun⟩, ?_⟩
    · intro own isLeft
      exact (lookup _).trans (fits.node own (List.mem_cons_of_mem _ isLeft))
    · intro own isLeft other entry isHeld
      rcases stores.mp isHeld with before | ⟨-, rfl⟩
      · exact fits.absent own (List.mem_cons_of_mem _ isLeft) other entry before
      · exact fun same => (List.nodup_cons.mp distinct).1
          (List.mem_map.mpr ⟨own, isLeft, same.symm⟩)
    · intro other isOther
      refine (accounted.fits other (List.mem_cons_of_mem _ isOther)).later
        (fun _ _ => (lookup _).trans) ?_ fun _ => .inl
      intro place entry isHeld
      refine (stores.mp isHeld).imp_right ?_
      rintro ⟨-, rfl⟩ own isOwn
      exact separate.ne_brought isPending isOther
        ((accounted.fits other (List.mem_cons_of_mem _ isOther)).waiting.subset isOwn)
  · intro entry isRegistered
    rw [List.exists_mem_cons_iff]
    rcases accounted.registered entry isRegistered with ⟨place, isHeld⟩ | promised
    · exact .inl ⟨place, stores.mpr (.inl isHeld)⟩
    · rw [List.exists_mem_cons_iff] at promised
      rcases promised with ⟨-, place, isNext⟩ | elsewhere
      · rcases List.mem_cons.mp isNext with here | later
        · cases here
          exact .inl ⟨node, stores.mpr (.inr ⟨rfl, rfl⟩)⟩
        · exact .inr (.inl ⟨rfl, place, later⟩)
      · exact .inr (.inr elsewhere)
  · intro place entry isHeld
    rw [List.exists_mem_cons_iff]
    rcases stores.mp isHeld with before | ⟨rfl, rfl⟩
    · have known := accounted.held place entry before
      rwa [List.exists_mem_cons_iff] at known
    · exact .inr (.inl isPending)

/-- A call takes the listeners that it removes out of a node. -/
theorem remove
    (accounted : Accounted used bus (call :: others))
    (node : Nat)
    (done : call.brings = false)
    (stillDone : next.brings = false)
    (sameRemoved : next.removing = call.removing)
    (answers : ∀ place entry, call.AnswersFor place entry →
      next.AnswersFor place entry ∨ place = node ∧ entry.id ∈ call.removing)
    (owes : next.owes = call.owes) :
    Accounted used (bus.withIndex (bus.index.unregisterAll node call.removing))
      (next :: others) := by
  have gone := (accounted.fits _ List.mem_cons_self).gone
  have stores {other : Nat} {entry : Listener β} :
      (bus.index.unregisterAll node call.removing).Stores other entry ↔
        bus.index.Stores other entry ∧ (node = other → entry.id ∉ call.removing) :=
    Index.stores_unregisterAll bus.index node call.removing
  have lookup := Index.lookup?_of_frame_eq
    (Index.frame_unregisterAll bus.index node call.removing)
  refine ⟨accounted.stocked.unregisterAll node _, accounted.separate.replace ?_ ?_ ?_,
    ?_, ?_, ?_, ?_⟩
  · rw [Call.brought_eq_nil stillDone]
    exact List.nil_sublist _
  · exact Call.unclaimed_eq_nil stillDone
  · intro id isRemoved
    rw [sameRemoved] at isRemoved
    refine ⟨accounted.separate.removing _ List.mem_cons_self id isRemoved, ?_⟩
    rintro other isOther entry isUnclaimed rfl
    exact accounted.separate.unclaimed other (List.mem_cons_of_mem _ isOther) entry isUnclaimed _
      List.mem_cons_self isRemoved
  · refine List.forall_mem_cons.mpr ⟨fits_of_not_brings stillDone ?_, fun other isOther => ?_⟩
    · rw [sameRemoved]
      exact gone
    · exact (accounted.fits other (List.mem_cons_of_mem _ isOther)).later
        (fun _ _ => (lookup _).trans) (fun _ _ isHeld => .inl (stores.mp isHeld).1)
        fun _ => .inl
  · intro entry isRegistered
    rw [List.exists_mem_cons_iff]
    rcases accounted.registered entry isRegistered with ⟨place, isHeld⟩ | promised
    · exact .inl ⟨place, stores.mpr ⟨isHeld, fun _ isRemoved =>
        gone _ isRemoved entry isRegistered rfl⟩⟩
    · rw [List.exists_mem_cons_iff] at promised
      exact .inr (.inr (promised.resolve_left (Call.not_promises done entry)))
  · intro place entry isHeld
    obtain ⟨before, spared⟩ := stores.mp isHeld
    rw [List.exists_mem_cons_iff]
    refine (accounted.held place entry before).imp_right fun answered => ?_
    rw [List.exists_mem_cons_iff] at answered
    rcases answered with here | elsewhere
    · rcases answers place entry here with later | ⟨rfl, isRemoved⟩
      · exact .inl later
      · exact absurd isRemoved (spared rfl)
    · exact .inr elsewhere
  · intro metrics isKept
    rw [List.map_cons, owes]
    exact accounted.gauge metrics isKept

/-- An unregistering takes a record out of the table. -/
theorem take
    {key : Key}
    {listeners : List (Listener β)}
    (accounted : Accounted used bus (.taking key :: others))
    (found : bus.registered? key = some listeners) :
    Accounted used (bus.dropRecord key) (.looking listeners :: others) := by
  obtain ⟨before, after, table, left⟩ :=
    Bus.exists_split_of_registered? accounted.stocked.keys found
  have remaining : (bus.dropRecord key).registrations = before ++ after := by
    rw [← left, Bus.unregister, found]
    rfl
  have wasListed : bus.registeredListeners =
      before.flatMap Prod.snd ++ (listeners ++ after.flatMap Prod.snd) := by
    rw [Bus.registeredListeners, table, List.flatMap_append, List.flatMap_cons]
  have listed : (bus.dropRecord key).registeredListeners =
      before.flatMap Prod.snd ++ after.flatMap Prod.snd := by
    rw [Bus.registeredListeners, remaining, List.flatMap_append]
  have split {entry : Listener β} : entry ∈ bus.registeredListeners ↔
      entry ∈ (bus.dropRecord key).registeredListeners ∨ entry ∈ listeners := by
    rw [wasListed, listed]
    simp only [List.mem_append]
    tauto
  have wasRecord {record : Key × List (Listener β)}
      (isRecord : record ∈ (bus.dropRecord key).registrations) : record ∈ bus.registrations :=
    List.mem_of_mem_filter isRecord
  have apart : ∀ entry ∈ (bus.dropRecord key).registeredListeners, ∀ taken ∈ listeners,
      entry.id ≠ taken.id := by
    have ids := accounted.stocked.ids
    have shuffled : bus.registeredListeners.Perm
        ((bus.dropRecord key).registeredListeners ++ listeners) := by
      rw [wasListed, listed, List.append_assoc]
      exact List.perm_append_comm.append_left _
    rw [(shuffled.map _).nodup_iff, List.map_append] at ids
    intro entry isLeft taken isTaken
    exact (List.nodup_append.mp ids).2.2 _ (List.mem_map_of_mem isLeft) _
      (List.mem_map_of_mem isTaken)
  refine ⟨accounted.stocked.dropRecord key,
    accounted.separate.replace (List.nil_sublist _) rfl ?_, ?_, ?_, ?_, ?_⟩
  · intro id isTaken
    obtain ⟨entry, isEntry, rfl⟩ := List.mem_map.mp isTaken
    have wasRegistered := split.mpr (.inr isEntry)
    refine ⟨accounted.stocked.registered entry wasRegistered, ?_⟩
    intro other isOther own isUnclaimed same
    exact (accounted.fits other (List.mem_cons_of_mem _ isOther)).untaken own isUnclaimed entry
      wasRegistered same.symm
  · refine List.forall_mem_cons.mpr ⟨fits_of_not_brings rfl ?_, fun other isOther => ?_⟩
    · intro id isTaken entry isLeft
      obtain ⟨taken, isEntry, rfl⟩ := List.mem_map.mp isTaken
      exact apart entry isLeft taken isEntry
    · exact (accounted.fits other (List.mem_cons_of_mem _ isOther)).later
        (fun _ _ => id) (fun _ _ => .inl) fun _ isRecord => .inl (wasRecord isRecord)
  · intro entry isLeft
    rw [List.exists_mem_cons_iff]
    refine (accounted.registered entry (split.mpr (.inl isLeft))).imp_right fun promised => ?_
    rw [List.exists_mem_cons_iff] at promised
    exact .inr (promised.resolve_left (Call.not_promises rfl entry))
  · intro node entry isHeld
    rw [List.exists_mem_cons_iff]
    rcases accounted.held node entry isHeld with wasRegistered | answered
    · rcases split.mp wasRegistered with isLeft | isTaken
      · exact .inl isLeft
      · exact .inr (.inl (List.mem_map_of_mem isTaken))
    · rw [List.exists_mem_cons_iff] at answered
      exact .inr (.inr (answered.resolve_left id))
  · intro metrics isKept
    have balance := accounted.gauge metrics isKept
    rw [List.map_cons, List.sum_cons] at balance ⊢
    rw [wasListed] at balance
    rw [listed]
    simp only [Call.owes, List.length_append] at balance ⊢
    omega

/-- A call ends that no listener needs any more. -/
theorem finish
    (accounted : Accounted used bus (call :: others))
    (sameIndex : later.index = bus.index)
    (sameTable : later.registrations = bus.registrations)
    (promises : ∀ entry, ¬ call.Promises entry)
    (answers : ∀ node entry, bus.index.Stores node entry → call.AnswersFor node entry →
      entry ∈ bus.registeredListeners)
    (gauge : ∀ metrics ∈ later.metrics?, ∃ before ∈ bus.metrics?,
      metrics.listeners = before.listeners + call.owes) :
    Accounted used later (.finished :: others) := by
  apply accounted.goOn sameIndex sameTable
  case fits => exact fits_of_not_brings rfl nofun
  case brought => exact List.nil_sublist _
  case claimed => rfl
  case removing => nofun
  case promises => exact fun entry _ promised => absurd promised (promises entry)
  case answers => exact fun node entry isHeld answered => .inl (answers node entry isHeld answered)
  case gauge =>
    intro metrics isKept
    obtain ⟨before, wasKept, same⟩ := gauge metrics isKept
    exact ⟨before, wasKept, (Int.add_zero _).trans same⟩

/-- A commit that finds its record in the table is done; one that does not starts to withdraw. -/
theorem lookAgain
    {key : Key}
    {pending : Pending β}
    (accounted : Accounted used bus (.inserting key pending [] :: others)) :
    Accounted used bus
      ((if bus.keepsAny key (Bus.distinctIds pending) then .finished
        else .withdrawing pending pending) :: others) := by
  have fits := accounted.fits _ List.mem_cons_self
  have keys := accounted.stocked.keys
  split
  case isTrue kept =>
    obtain ⟨current, found, anyKept⟩ := (Option.any_eq_true ..).mp kept
    obtain ⟨entry, isEntry, isOwn⟩ := List.any_eq_true.mp anyKept
    obtain ⟨own, isPending, same⟩ := Bus.mem_distinctIds.mp (List.contains_iff_mem.mp isOwn)
    have isRecord := Bus.mem_of_registered? found
    have record := fits.record key rfl _ isRecord entry isEntry own isPending same.symm
    apply accounted.finish rfl rfl
    case promises => exact fun _ ⟨_, _, isWaiting⟩ => nomatch isWaiting
    case answers =>
      intro node held _ answered
      refine Bus.mem_registeredListeners.mpr ⟨_, isRecord, ?_⟩
      rw [record]
      exact List.mem_map_of_mem answered
    case gauge => exact fun metrics isKept => ⟨metrics, isKept, (Int.add_zero _).symm⟩
  case isFalse lost =>
    have gone : ∀ id ∈ Bus.distinctIds pending, ∀ entry ∈ bus.registeredListeners,
        entry.id ≠ id := by
      rintro _ isOwn entry isRegistered rfl
      obtain ⟨own, isPending, same⟩ := Bus.mem_distinctIds.mp isOwn
      obtain ⟨record, isRecord, isEntry⟩ := Bus.mem_registeredListeners.mp isRegistered
      obtain rfl := fits.record key rfl record isRecord entry isEntry own isPending same.symm
      refine lost ((Option.any_eq_true ..).mpr ⟨_, Bus.registered?_of_mem keys isRecord, ?_⟩)
      exact List.any_eq_true.mpr ⟨entry, isEntry, List.contains_iff_mem.mpr isOwn⟩
    apply accounted.goOn rfl rfl
    case fits => exact fits_of_not_brings rfl gone
    case brought => exact List.nil_sublist _
    case claimed => rfl
    case removing =>
      intro id isOwn
      obtain ⟨own, isPending, rfl⟩ := Bus.mem_distinctIds.mp isOwn
      refine ⟨accounted.separate.brought _ List.mem_cons_self own isPending, ?_⟩
      intro other isOther entry isUnclaimed same
      exact accounted.separate.ne_brought isPending isOther
        (Call.mem_brought_of_mem_unclaimed isUnclaimed) same.symm
    case promises => exact fun _ _ ⟨_, _, isWaiting⟩ => nomatch isWaiting
    case answers =>
      intro node entry _ isPending
      exact .inr ⟨Bus.mem_distinctIds.mpr ⟨_, isPending, rfl⟩, List.mem_map_of_mem isPending⟩
    case gauge => exact fun metrics isKept => ⟨metrics, isKept, rfl⟩

/-- Every step of a call keeps the accounts. -/
theorem advance
    (accounted : Accounted used bus (call :: others)) :
    Accounted used (call.advance bus).1 ((call.advance bus).2 :: others) := by
  have fits := accounted.fits _ List.mem_cons_self
  cases call with
  | claiming key pending =>
      rw [Call.advance]
      cases free : bus.isRegistered key with
      | true =>
          rw [if_pos rfl]
          exact accounted.finish rfl rfl (fun _ promised => Bool.false_ne_true promised.1)
            (fun _ _ _ => False.elim)
            fun metrics isKept => ⟨metrics, isKept, (Int.add_zero _).symm⟩
      | false =>
          rw [if_neg Bool.false_ne_true]
          exact accounted.claim free
  | counting key pending =>
      rw [Call.advance]
      apply accounted.goOn (Bus.index_meter ..) (Bus.registrations_meter ..)
      case fits =>
        exact ⟨fits.waiting, fits.node, fits.absent, List.forall_mem_nil _, fits.record,
          List.forall_mem_nil _⟩
      case brought => exact .refl _
      case claimed => rfl
      case removing => exact List.forall_mem_nil _
      case promises => exact fun _ _ => id
      case answers => exact fun _ _ _ => False.elim
      case gauge =>
        intro metrics isKept
        obtain ⟨before, wasKept, rfl⟩ := Option.map_eq_some_iff.mp isKept
        exact ⟨before, wasKept, Int.add_zero _⟩
  | inserting key pending rest =>
      cases rest with
      | nil => exact accounted.lookAgain
      | cons entry rest => exact accounted.insert
  | withdrawing pending rest =>
      cases rest with
      | nil =>
          exact accounted.finish rfl rfl (Call.not_promises rfl)
            (fun _ _ _ answered => absurd answered.2 List.not_mem_nil)
            fun metrics isKept => ⟨metrics, isKept, (Int.add_zero _).symm⟩
      | cons entry rest =>
          refine accounted.remove entry.1 rfl rfl rfl ?_ rfl
          rintro place held ⟨isRemoved, isNext⟩
          rcases List.mem_cons.mp isNext with here | later
          · exact .inr ⟨here, isRemoved⟩
          · exact .inl ⟨isRemoved, later⟩
  | taking key =>
      rw [Call.advance]
      cases found : bus.registered? key with
      | none =>
          exact accounted.finish rfl rfl (Call.not_promises rfl) (fun _ _ _ => False.elim)
            fun metrics isKept => ⟨metrics, isKept, (Int.add_zero _).symm⟩
      | some listeners => exact accounted.take found
  | looking listeners =>
      apply accounted.goOn rfl rfl
      case fits => exact fits_of_not_brings rfl fits.gone
      case brought => exact .refl _
      case claimed => rfl
      case removing =>
        intro id isRemoved
        refine ⟨accounted.separate.removing _ List.mem_cons_self id isRemoved, ?_⟩
        rintro other isOther entry isUnclaimed rfl
        exact accounted.separate.unclaimed other (List.mem_cons_of_mem _ isOther) entry
          isUnclaimed _ List.mem_cons_self isRemoved
      case promises => exact fun entry _ promised => absurd promised (Call.not_promises rfl entry)
      case answers =>
        rintro node entry ⟨priority, isHeld⟩ answered
        have found := (accounted.stocked.placed node priority entry isHeld).1
        exact .inr ⟨answered, List.mem_range.mpr (accounted.stocked.lt_size found)⟩
      case gauge => exact fun metrics isKept => ⟨metrics, isKept, rfl⟩
  | sweeping listeners nodes =>
      cases nodes with
      | nil =>
          refine accounted.finish rfl rfl (Call.not_promises rfl)
            (fun _ _ _ answered => absurd answered.2 List.not_mem_nil) fun metrics isKept => ?_
          obtain ⟨before, wasKept, rfl⟩ := Option.map_eq_some_iff.mp isKept
          exact ⟨before, wasKept, Int.sub_eq_add_neg⟩
      | cons node rest =>
          refine accounted.remove node rfl rfl rfl ?_ rfl
          rintro place held ⟨isRemoved, isNext⟩
          rcases List.mem_cons.mp isNext with here | later
          · exact .inr ⟨here, isRemoved⟩
          · exact .inl ⟨isRemoved, later⟩
  | finished => exact accounted

/-! ## Beginning a call, and what happens besides -/

end Accounted
end Replacing
end Traffic
end EventRelay
