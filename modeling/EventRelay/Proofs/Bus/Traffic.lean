import EventRelay.Proofs.Bus.Ledger
import Mathlib.Logic.Relation

/-!
# Registrations side by side

A commit and the removal of what a key has registered both change the table and the nodes, which
are locked apart. So either can be interrupted between any two of its steps. Here each is a
call that advances by one such step at a time, and on one bus any number of calls are under way.
A call that nobody interrupts does to the bus what `Bus.commit` and `Bus.unregister` do.
-/

namespace EventRelay

variable {β : Type}

namespace Bus

/-- Appends a record to the table. -/
def addRecord (bus : Bus β) (key : Key) (listeners : List (Listener β)) : Bus β :=
  { bus with registrations := bus.registrations ++ [(key, listeners)] }

/-- Takes the record of a key out of the table. -/
def dropRecord (bus : Bus β) (key : Key) : Bus β :=
  { bus with registrations := bus.registrations.filter fun record => record.1 ≠ key }

/-- The record of a key holds one of the listeners. -/
def keepsAny (bus : Bus β) (key : Key) (listeners : List ListenerId) : Bool :=
  (bus.registered? key).any fun current =>
    current.any fun entry => listeners.contains entry.id

@[simp] theorem keepsAny_withIndex (bus : Bus β) (index : Index β) (key : Key)
    (listeners : List ListenerId) :
    (bus.withIndex index).keepsAny key listeners = bus.keepsAny key listeners := rfl

@[simp] theorem keepsAny_meter (bus : Bus β) (change : Metrics → Metrics) (key : Key)
    (listeners : List ListenerId) :
    (bus.meter change).keepsAny key listeners = bus.keepsAny key listeners := rfl

theorem mem_distinctIds
    {pending : Pending β}
    {id : ListenerId} :
    id ∈ distinctIds pending ↔ ∃ entry ∈ pending, entry.2.id = id := by
  rw [distinctIds, List.mem_eraseDups, List.mem_map]

/-- A record that a commit has made holds one of its listeners if there is any. -/
theorem keepsAny_of_registered?
    {bus : Bus β}
    {key : Key}
    {pending : Pending β}
    (found : bus.registered? key = some (pending.map Prod.snd)) :
    bus.keepsAny key (distinctIds pending) = !pending.isEmpty := by
  rw [keepsAny, found, Option.any_some]
  cases pending with
  | nil => rfl
  | cons entry rest =>
      have listed : entry.2.id ∈ distinctIds (entry :: rest) :=
        mem_distinctIds.mpr ⟨entry, List.mem_cons_self, rfl⟩
      simp [listed]

theorem registered?_addRecord
    {bus : Bus β}
    {key : Key}
    (free : bus.isRegistered key = false)
    (listeners : List (Listener β)) :
    (bus.addRecord key listeners).registered? key = some listeners := by
  have absent : bus.registrations.lookup key = none := by
    rwa [isRegistered, registered?, Option.isSome_eq_false_iff, Option.isNone_iff_eq_none] at free
  rw [registered?, addRecord, List.lookup_append, absent]
  simp

end Bus

/-- A call that changes what is registered, by the step that it takes next. -/
inductive Call (β : Type) where
  /-- A commit takes its key, if that is free. -/
  | claiming (key : Key) (pending : Pending β)
  /-- It counts its listeners. -/
  | counting (key : Key) (pending : Pending β)
  /-- It adds the rest of its listeners to their nodes and then looks up its key again. -/
  | inserting (key : Key) (pending rest : Pending β)
  /-- Its record is gone, and it takes its listeners out of the nodes again. -/
  | withdrawing (pending rest : Pending β)
  /-- An unregistering takes the record of its key out of the table. -/
  | taking (key : Key)
  /-- It looks which nodes there are. -/
  | looking (listeners : List (Listener β))
  /-- It takes the listeners out of these nodes and then counts them. -/
  | sweeping (listeners : List (Listener β)) (nodes : List Nat)
  | finished

namespace Call

open Bus (distinctIds)

/-- One step of a call. -/
def advance (bus : Bus β) : Call β → Bus β × Call β
  | .claiming key pending =>
      if bus.isRegistered key then (bus, .finished)
      else (bus.addRecord key (pending.map Prod.snd), .counting key pending)
  | .counting key pending =>
      (bus.meter (Metrics.addListeners · (distinctIds pending).length),
        .inserting key pending pending)
  | .inserting key pending ((node, listener) :: rest) =>
      (bus.withIndex (bus.index.register node listener.priority listener),
        .inserting key pending rest)
  | .inserting key pending [] =>
      (bus, if bus.keepsAny key (distinctIds pending) then .finished
        else .withdrawing pending pending)
  | .withdrawing pending ((node, _) :: rest) =>
      (bus.withIndex (bus.index.unregisterAll node (distinctIds pending)),
        .withdrawing pending rest)
  | .withdrawing _ [] => (bus, .finished)
  | .taking key =>
      match bus.registered? key with
      | none => (bus, .finished)
      | some listeners => (bus.dropRecord key, .looking listeners)
  | .looking listeners => (bus, .sweeping listeners (List.range bus.index.size))
  | .sweeping listeners (node :: rest) =>
      (bus.withIndex (bus.index.unregisterAll node (listeners.map Listener.id)),
        .sweeping listeners rest)
  | .sweeping listeners [] =>
      (bus.meter (Metrics.removeListeners · listeners.length), .finished)
  | .finished => (bus, .finished)

/-! ## Calls that nobody interrupts -/

/-- A call advances while nothing else happens. -/
inductive Alone : Bus β × Call β → Bus β × Call β → Prop
  | refl (state : Bus β × Call β) : Alone state state
  | step {bus : Bus β} {call : Call β} {last : Bus β × Call β} :
      Alone (call.advance bus) last → Alone (bus, call) last

namespace Alone

theorem inserts
    (bus : Bus β)
    (key : Key)
    (pending rest : Pending β)
    {last : Bus β × Call β}
    (goesOn :
      Alone (bus.withIndex (Bus.insertAll bus.index rest), .inserting key pending []) last) :
    Alone (bus, .inserting key pending rest) last := by
  induction rest generalizing bus with
  | nil => exact goesOn
  | cons entry rest inductionHypothesis => exact .step (inductionHypothesis _ goesOn)

theorem sweeps
    (bus : Bus β)
    (listeners : List (Listener β))
    (nodes : List Nat) :
    Alone (bus, .sweeping listeners nodes)
      ((bus.withIndex (nodes.foldl
          (fun current node => current.unregisterAll node (listeners.map Listener.id))
          bus.index)).meter (Metrics.removeListeners · listeners.length), .finished) := by
  induction nodes generalizing bus with
  | nil => exact .step (.refl _)
  | cons node rest inductionHypothesis => exact .step (inductionHypothesis _)

/-- A commit that nobody interrupts finds its record still in the table. -/
theorem commits
    (bus : Bus β)
    (key : Key)
    (pending : Pending β) :
    Alone (bus, .claiming key pending) (bus.commit key pending, .finished) := by
  cases free : bus.isRegistered key with
  | true =>
      refine .step ?_
      rw [advance, if_pos free, Bus.commit, if_pos free]
      exact .refl _
  | false =>
      refine .step ?_
      rw [advance, free, if_neg Bool.false_ne_true]
      refine .step (inserts _ key pending pending (.step ?_))
      have kept :=
        Bus.keepsAny_of_registered? (Bus.registered?_addRecord free (pending.map Prod.snd))
      rw [advance, Bus.keepsAny_withIndex, Bus.keepsAny_meter, kept, Bus.commit, free,
        if_neg Bool.false_ne_true]
      -- Without listeners the record counts as gone, but then there is nothing to take out.
      cases pending with
      | nil => exact .step (.refl _)
      | cons entry rest => exact .refl _

theorem unregisters
    (bus : Bus β)
    (key : Key) :
    Alone (bus, .taking key) (bus.unregister key, .finished) := by
  refine .step ?_
  cases found : bus.registered? key with
  | none =>
      rw [advance, Bus.unregister, found]
      exact .refl _
  | some listeners =>
      rw [advance, Bus.unregister, found]
      exact .step (sweeps _ listeners _)

theorem withdraws
    (bus : Bus β)
    (pending rest : Pending β) :
    ∃ later, Alone (bus, .withdrawing pending rest) (later, .finished) := by
  induction rest generalizing bus with
  | nil => exact ⟨bus, .step (.refl _)⟩
  | cons entry rest inductionHypothesis =>
      obtain ⟨later, goesOn⟩ := inductionHypothesis _
      exact ⟨later, .step goesOn⟩

theorem looksAgain
    (bus : Bus β)
    (key : Key)
    (pending : Pending β) :
    ∃ later, Alone (bus, .inserting key pending []) (later, .finished) := by
  cases kept : bus.keepsAny key (distinctIds pending) with
  | true =>
      refine ⟨bus, .step ?_⟩
      rw [advance, if_pos kept]
      exact .refl _
  | false =>
      obtain ⟨later, goesOn⟩ := withdraws bus pending pending
      refine ⟨later, .step ?_⟩
      rw [advance, kept, if_neg Bool.false_ne_true]
      exact goesOn

/-- Wherever a call is, it comes to its end. -/
theorem exists_finished
    (bus : Bus β)
    (call : Call β) :
    ∃ later, Alone (bus, call) (later, .finished) := by
  have inserting (bus : Bus β) (key : Key) (pending rest : Pending β) :
      ∃ later, Alone (bus, .inserting key pending rest) (later, .finished) := by
    obtain ⟨later, goesOn⟩ := looksAgain _ key pending
    exact ⟨later, inserts bus key pending rest goesOn⟩
  cases call with
  | claiming key pending => exact ⟨_, commits bus key pending⟩
  | counting key pending =>
      obtain ⟨later, goesOn⟩ := inserting _ key pending pending
      exact ⟨later, .step goesOn⟩
  | inserting key pending rest => exact inserting bus key pending rest
  | withdrawing pending rest => exact withdraws bus pending rest
  | taking key => exact ⟨_, unregisters bus key⟩
  | looking listeners => exact ⟨_, .step (sweeps bus listeners _)⟩
  | sweeping listeners nodes => exact ⟨_, sweeps bus listeners nodes⟩
  | finished => exact ⟨bus, .refl _⟩

end Alone
end Call

/-! ## Many calls on one bus -/

/-- A bus with the calls that are under way on it. -/
structure Traffic (β : Type) where
  bus : Bus β
  /-- Identities of the listeners that calls have brought so far or that the bus began with. -/
  used : List ListenerId
  calls : List (Call β)

namespace Traffic

/-- What commits may bring: listeners with identities of their own, each with the node of its
kind. -/
structure Ready (traffic : Traffic β) (pending : Pending β) : Prop where
  ids : (pending.map fun entry => entry.2.id).Nodup
  unused : ∀ entry ∈ pending, entry.2.id ∉ traffic.used
  node : ∀ entry ∈ pending, traffic.bus.index.lookup? entry.2.kind.id = some entry.1

/-- What else happens to a bus while listeners come and go: nodes are made, arrays are read, the
bus is started, and posts are counted. -/
inductive Aside : Bus β → Bus β → Prop
  | grow {bus : Bus β} {index : Index β} :
      bus.index.GrowsTo (fun _ => True) index → Aside bus (bus.withIndex index)
  | refresh (bus : Bus β) (id : Nat) : Aside bus (bus.refresh id)
  | start (bus : Bus β) : Aside bus bus.start
  | recordPost (bus : Bus β) (ran : Nat) : Aside bus (bus.recordPost ran)
  | recordFailure (bus : Bus β) : Aside bus bus.recordFailure

/-- A call begins, one of the calls takes its next step, or something else happens. -/
inductive Step : Traffic β → Traffic β → Prop
  | commit {traffic : Traffic β} (key : Key) {pending : Pending β} :
      traffic.Ready pending →
      Step traffic
        ⟨traffic.bus, traffic.used ++ pending.map fun entry => entry.2.id,
          traffic.calls ++ [.claiming key pending]⟩
  | unregister (traffic : Traffic β) (key : Key) :
      Step traffic ⟨traffic.bus, traffic.used, traffic.calls ++ [.taking key]⟩
  | advance (bus : Bus β) (used : List ListenerId) (before : List (Call β)) (call : Call β)
      (after : List (Call β)) :
      Step ⟨bus, used, before ++ call :: after⟩
        ⟨(call.advance bus).1, used, before ++ (call.advance bus).2 :: after⟩
  | aside {bus later : Bus β} (used : List ListenerId) (calls : List (Call β)) :
      Aside bus later → Step ⟨bus, used, calls⟩ ⟨later, used, calls⟩

/-- Steps one after the other, of whichever calls. -/
abbrev Run : Traffic β → Traffic β → Prop := Relation.ReflTransGen Step

/-- Every call has taken its last step. -/
def IsOver (traffic : Traffic β) : Prop := ∀ call ∈ traffic.calls, call = .finished

/-- While one call goes on alone the others stay where they are. -/
theorem Run.of_alone
    {first last : Bus β × Call β}
    (alone : Call.Alone first last)
    (used : List ListenerId)
    (before after : List (Call β)) :
    Run ⟨first.1, used, before ++ first.2 :: after⟩ ⟨last.1, used, before ++ last.2 :: after⟩ := by
  induction alone with
  | refl state => exact .refl
  | step _ inductionHypothesis =>
      exact .head (.advance _ used before _ after) inductionHypothesis

/-- Wherever calls are, all of them can come to their ends. -/
theorem exists_run_isOver
    (traffic : Traffic β) :
    ∃ later, traffic.Run later ∧ later.IsOver := by
  obtain ⟨bus, used, calls⟩ := traffic
  suffices ends : ∀ before : List (Call β), (∀ call ∈ before, call = .finished) →
      ∃ later, Run ⟨bus, used, before ++ calls⟩ later ∧ later.IsOver from ends [] nofun
  induction calls generalizing bus with
  | nil =>
      intro before finished
      rw [List.append_nil]
      exact ⟨_, .refl, finished⟩
  | cons call rest inductionHypothesis =>
      intro before finished
      obtain ⟨next, alone⟩ := Call.Alone.exists_finished bus call
      obtain ⟨later, run, isOver⟩ :=
        inductionHypothesis next (before ++ [.finished]) fun other isCall =>
          (List.mem_append.mp isCall).elim (finished other) List.mem_singleton.mp
      rw [List.append_assoc] at run
      exact ⟨later, (Run.of_alone alone used before rest).trans run, isOver⟩

end Traffic
end EventRelay
