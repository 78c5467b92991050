import EventRelay.Proofs.Bus.Reached
import EventRelay.Proofs.Bus.Storage

/-!
# Order of dispatch

The array that events of a kind meet lists every listener registered for the kind or for a
kind above it, each once. Higher priorities come first, then listeners for more specific
kinds, then those that were made earlier.
-/

namespace EventRelay

variable {σ β : Type}

/-- Number of steps from a kind up to the one with an identity. -/
def Kind.stepsTo (id : String) : Kind → Nat
  | .root _ => 0
  | .child own parent => if own.id = id then 0 else parent.stepsTo id + 1

/-- For events of a kind, one listener comes before another. -/
def Listener.Precedes (kind : Kind) (first second : Listener β) : Prop :=
  first.priority.ordinal < second.priority.ordinal ∨
    first.priority = second.priority ∧
      (kind.stepsTo first.kind.id < kind.stepsTo second.kind.id ∨
        kind.stepsTo first.kind.id = kind.stepsTo second.kind.id ∧
          first.id.value < second.id.value)

/-- A registered listener in the form that events of a kind meet. -/
def Listener.formFor (kind : Kind) (entry : Listener β) : Listener β :=
  if kind.isCancellable then entry else entry.unchecked

namespace Listener

@[simp] theorem id_formFor (kind : Kind) (entry : Listener β) :
    (entry.formFor kind).id = entry.id := by
  unfold formFor
  split <;> rfl

@[simp] theorem kind_formFor (kind : Kind) (entry : Listener β) :
    (entry.formFor kind).kind = entry.kind := by
  unfold formFor
  split <;> rfl

@[simp] theorem priority_formFor (kind : Kind) (entry : Listener β) :
    (entry.formFor kind).priority = entry.priority := by
  unfold formFor
  split <;> rfl

@[simp] theorem description_formFor (kind : Kind) (entry : Listener β) :
    (entry.formFor kind).description = entry.description := by
  unfold formFor
  split <;> rfl

@[simp] theorem receivesCanceled_formFor (kind : Kind) (entry : Listener β) :
    (entry.formFor kind).receivesCanceled = entry.receivesCanceled := by
  unfold formFor
  split <;> rfl

theorem checksCancellation_formFor (kind : Kind) (entry : Listener β) :
    (entry.formFor kind).checksCancellation =
      (entry.checksCancellation && kind.isCancellable) := by
  unfold formFor
  cases kind.isCancellable <;> simp [unchecked]

end Listener

/-! ## Steps between kinds -/

namespace Kind

/-- Going up from a kind, one meets its ancestors in order of their distance. -/
theorem pairwise_stepsTo
    {kind : Kind}
    (consistent : ∀ above ∈ kind.ancestors, ∀ other ∈ kind.ancestors,
      above.id = other.id → above = other) :
    kind.ancestors.Pairwise fun near far => kind.stepsTo near.id < kind.stepsTo far.id := by
  induction kind with
  | root own => exact List.pairwise_singleton _ _
  | child own parent inductionHypothesis =>
      have others {above : Kind} (isAbove : above ∈ parent.ancestors) : own.id ≠ above.id := by
        intro sameId
        have same := consistent (.child own parent) List.mem_cons_self above
          (List.mem_cons_of_mem _ isAbove) sameId
        have lower := depth_le_of_mem_ancestors isAbove
        rw [← same, depth] at lower
        omega
      refine List.pairwise_cons.mpr ⟨fun above isAbove => ?_, ?_⟩
      · have own_steps : stepsTo (Kind.id (.child own parent)) (.child own parent) = 0 :=
          if_pos rfl
        rw [own_steps, stepsTo, if_neg (others isAbove)]
        omega
      · refine List.Pairwise.imp_of_mem ?_ (inductionHypothesis fun above isAbove other isOther =>
          consistent above (List.mem_cons_of_mem _ isAbove) other (List.mem_cons_of_mem _ isOther))
        intro near far isNear isFar closer
        rw [stepsTo, stepsTo, if_neg (others isNear), if_neg (others isFar)]
        omega

end Kind

/-! ## Arranging listeners -/

section Arranging

/-- The listeners for a kind and for the kinds above it, priority by priority, and from the
most specific kind upwards at each priority. -/
def arranged (kind : Kind) (entries : List (Listener β)) : List (Listener β) :=
  Priority.all.flatMap fun priority =>
    kind.ancestors.flatMap fun above => entries.filter (Listener.isFor above.id priority)

variable {kind : Kind} {entries : List (Listener β)}

theorem Listener.isFor_iff
    {kindId : String}
    {priority : Priority}
    {entry : Listener β} :
    entry.isFor kindId priority = true ↔ entry.kind.id = kindId ∧ entry.priority = priority :=
  decide_eq_true_iff

/-- A bucket has only listeners for its kind and priority. -/
theorem Listener.eq_of_mem_bucket
    {kindId : String}
    {priority : Priority}
    {entry : Listener β}
    (inBucket : entry ∈ entries.filter (Listener.isFor kindId priority)) :
    entry.kind.id = kindId ∧ entry.priority = priority :=
  Listener.isFor_iff.mp (List.mem_filter.mp inBucket).2

theorem mem_arranged
    {entry : Listener β} :
    entry ∈ arranged kind entries ↔
      entry ∈ entries ∧ ∃ above ∈ kind.ancestors, entry.kind.id = above.id := by
  simp only [arranged, List.mem_flatMap, List.mem_filter, Listener.isFor_iff]
  constructor
  · rintro ⟨priority, -, above, isAbove, isEntry, sameId, -⟩
    exact ⟨isEntry, above, isAbove, sameId⟩
  · rintro ⟨isEntry, above, isAbove, sameId⟩
    exact ⟨entry.priority, Priority.mem_all _, above, isAbove, isEntry, sameId, rfl⟩

/-- The arrangement is in the order of dispatch. -/
theorem pairwise_arranged
    (consistent : ∀ above ∈ kind.ancestors, ∀ other ∈ kind.ancestors,
      above.id = other.id → above = other)
    (ascending : entries.Pairwise fun first second => first.id.value < second.id.value) :
    (arranged kind entries).Pairwise (Listener.Precedes kind) := by
  have priorities : Priority.all.Pairwise fun first second => first.ordinal < second.ordinal := by
    decide
  refine List.pairwise_flatMap.mpr ⟨fun priority _ => ?_, ?_⟩
  · refine List.pairwise_flatMap.mpr ⟨fun above _ => ?_, ?_⟩
    · -- Within one bucket only the identities differ.
      refine List.Pairwise.imp_of_mem ?_ (ascending.filter _)
      intro first second isFirst isSecond older
      obtain ⟨firstKind, firstPriority⟩ := Listener.eq_of_mem_bucket isFirst
      obtain ⟨secondKind, secondPriority⟩ := Listener.eq_of_mem_bucket isSecond
      exact .inr ⟨firstPriority.trans secondPriority.symm,
        .inr ⟨by rw [firstKind, secondKind], older⟩⟩
    · refine (Kind.pairwise_stepsTo consistent).imp ?_
      intro near far closer first isFirst second isSecond
      obtain ⟨firstKind, firstPriority⟩ := Listener.eq_of_mem_bucket isFirst
      obtain ⟨secondKind, secondPriority⟩ := Listener.eq_of_mem_bucket isSecond
      exact .inr ⟨firstPriority.trans secondPriority.symm, .inl (by rwa [firstKind, secondKind])⟩
  · refine priorities.imp ?_
    intro higher lower before first isFirst second isSecond
    obtain ⟨_, _, inHigher⟩ := List.mem_flatMap.mp isFirst
    obtain ⟨_, _, inLower⟩ := List.mem_flatMap.mp isSecond
    rw [← (Listener.eq_of_mem_bucket inHigher).2,
      ← (Listener.eq_of_mem_bucket inLower).2] at before
    exact .inl before

theorem Listener.Precedes.ne
    {first second : Listener β}
    (precedes : Listener.Precedes kind first second) :
    first ≠ second := by
  rintro rfl
  rcases precedes with higher | ⟨-, closer | ⟨-, older⟩⟩
  · omega
  · omega
  · omega

/-- Where kinds are told apart by their identities, the arrangement has exactly the listeners
for the kind and for those above it, each once. -/
theorem arranged_perm
    {known : Kind → Prop}
    (consistent : Kind.Consistent known)
    (isKnown : known kind)
    (areKnown : ∀ entry ∈ entries, known entry.kind)
    (ascending : entries.Pairwise fun first second => first.id.value < second.id.value) :
    (arranged kind entries).Perm (entries.filter fun entry => entry.kind ∈ kind.ancestors) := by
  have distinct : entries.Nodup := by
    refine ascending.imp ?_
    rintro first _ older rfl
    omega
  have arrangedDistinct : (arranged kind entries).Nodup :=
    (pairwise_arranged (consistent kind kind isKnown isKnown) ascending).imp Listener.Precedes.ne
  refine (List.perm_ext_iff_of_nodup arrangedDistinct (distinct.filter _)).mpr fun entry => ?_
  rw [mem_arranged, List.mem_filter, decide_eq_true_iff]
  refine and_congr_right fun isEntry => ?_
  constructor
  · rintro ⟨above, isAbove, sameId⟩
    rwa [consistent.eq_of_id_eq (.self (areKnown entry isEntry)) (.of_mem_ancestors isKnown isAbove)
      sameId]
  · exact fun isAbove => ⟨entry.kind, isAbove, rfl⟩

end Arranging

/-! ## The array of a kind -/

theorem Index.dispatchForm_eq_map
    (index : Index β)
    {kind : Kind}
    {id : Nat}
    (form : index.declaresCancellable id = kind.isCancellable)
    (entries : List (Listener β)) :
    index.dispatchForm id entries = entries.map (Listener.formFor kind) := by
  rw [dispatchForm, form]
  unfold Listener.formFor
  split
  case isTrue => rw [List.map_id']
  case isFalse => rfl

namespace Bus
namespace Stored

variable {known accepts : Kind → Prop} {bus : Bus β} {issued : Nat}

/-- What a bus has stored decides what is gathered for a node. -/
theorem gathered_eq
    (stored : Stored known accepts (bus, issued))
    (consistent : Kind.Consistent known)
    {id : Nat}
    {node : Node β}
    (present : bus.index.node? id = some node) :
    bus.index.gathered id = arranged node.kind bus.registeredListeners := by
  have fewer : Kind.Consistent (· ∈ bus.index.kinds) := consistent.within.mono stored.kinds
  rw [Index.gathered, arranged, ← stored.coherent.arena.lineageKinds_eq fewer present]
  exact List.flatMap_congr fun priority _ =>
    stored.coherent.arena.gatheredAt_eq_flatMap_lineageKinds
      (fun isPresent => stored.buckets isPresent priority) id

/-- The array of a kind's node is the arrangement of the registered listeners, each in the
form that events of the kind meet. -/
theorem recomputed_eq
    (stored : Stored known accepts (bus, issued))
    (consistent : Kind.Consistent known)
    {kind : Kind}
    (isKnown : known kind)
    {id : Nat}
    (hasNode : bus.index.lookup? kind.id = some id) :
    bus.index.recomputed id =
      (arranged kind bus.registeredListeners).map (Listener.formFor kind) := by
  obtain ⟨node, present, rfl⟩ := stored.coherent.arena.exists_kind_of_lookup? consistent
    stored.kinds (.self isKnown) hasNode
  have fewer : Kind.Consistent (· ∈ bus.index.kinds) := consistent.within.mono stored.kinds
  have form : bus.index.declaresCancellable id = node.kind.isCancellable :=
    stored.coherent.arena.declaresCancellable_eq fewer present
  rw [Index.recomputed, bus.index.dispatchForm_eq_map form, stored.gathered_eq consistent present]

end Stored
end Bus

namespace Host

theorem flattened_apply
    (host : Host σ β)
    (id : Nat)
    (state : σ) :
    host.flattened id state =
      (.ok ((host.bus (host.refresh id state)).index.cacheOf id).listeners,
        host.refresh id state) := rfl

/-- What a new bus stores still fits together in every state reached from it. -/
theorem Reaches.stored
    {host : Host σ β}
    {known accepts : Kind → Prop}
    {first state : σ}
    (reaches : host.Reaches known first state)
    (lawful : host.Lawful)
    (still : host.StillChecker)
    (acceptsOnly : host.AcceptsOnly accepts)
    {config : BusConfig}
    {forcesChecks : Bool}
    {metrics? : Option Metrics}
    (new : host.bus first = Bus.create config forcesChecks metrics?) :
    Bus.Stored known accepts (host.view state) := by
  refine Bus.Stored.changes ?_ (reaches.changes lawful still acceptsOnly)
  rw [view, new]
  exact .create config forcesChecks metrics? _

/-- Reading a node whose cache is coherent gives what recomputing gives. -/
theorem flattened_of_coherent
    {host : Host σ β}
    (lawful : host.Lawful)
    {state : σ}
    (coherent : (host.bus state).index.Coherent)
    {id : Nat}
    {node : Node β}
    (present : (host.bus state).index.node? id = some node) :
    host.flattened id state =
      (.ok ((host.bus state).index.recomputed id), host.refresh id state) := by
  have refreshed : host.bus (host.refresh id state) = (host.bus state).refresh id :=
    congrArg Prod.fst (view_refresh lawful id state)
  have read : (((host.bus state).refresh id).index.cacheOf id).listeners =
      (host.bus state).index.recomputed id := (coherent.current_refresh present).listeners
  rw [flattened_apply, refreshed, read]

/-- Asking for the node of a kind leaves what is stored. -/
theorem stored_of_nodeFor
    {host : Host σ β}
    {known accepts : Kind → Prop}
    {state : σ}
    (lawful : host.Lawful)
    (stored : Bus.Stored known accepts (host.view state))
    {kind : Kind}
    (isKnown : known kind)
    {id : Nat}
    {made : σ}
    (found : host.nodeFor kind state = (.ok id, made)) :
    Bus.Stored known accepts (host.view made) ∧
      (host.bus made).index.lookup? kind.id = some id ∧
      (host.bus made).registeredListeners = (host.bus state).registeredListeners := by
  have grown : (host.bus made).index.lookup? kind.id = some id ∧
      Bus.Prepares known accepts (host.view state) [] (host.view made) := by
    rcases nodeFor_cases lawful .start isKnown with ⟨_, _, asked, ready⟩ | ⟨_, refused⟩
    · rw [found] at asked
      cases asked
      exact ready
    · rw [found] at refused
      cases refused
  obtain ⟨hasNode, prepares⟩ := grown
  have sameBus : host.bus made = (host.bus state).withIndex (host.bus made).index :=
    prepares.grows.2
  refine ⟨stored.of_prepares prepares, hasNode, ?_⟩
  rw [sameBus]
  rfl

/-- The array of a kind, read at the node that has been found or made for it. -/
theorem flattened_of_stored
    {host : Host σ β}
    {known accepts : Kind → Prop}
    {state : σ}
    (lawful : host.Lawful)
    (stored : Bus.Stored known accepts (host.view state))
    (consistent : Kind.Consistent known)
    {kind : Kind}
    (isKnown : known kind)
    {id : Nat}
    {made : σ}
    (found : host.nodeFor kind state = (.ok id, made)) :
    host.flattened id made =
      (.ok ((arranged kind (host.bus state).registeredListeners).map (Listener.formFor kind)),
        host.refresh id made) := by
  obtain ⟨storedMade, hasNode, sameTable⟩ := stored_of_nodeFor lawful stored isKnown found
  obtain ⟨node, present, -⟩ := storedMade.coherent.arena.exists_of_lookup? hasNode
  have recomputed : (host.bus made).index.recomputed id =
      (arranged kind (host.bus made).registeredListeners).map (Listener.formFor kind) :=
    storedMade.recomputed_eq consistent isKnown hasNode
  rw [flattened_of_coherent lawful storedMade.coherent present, recomputed, sameTable]

/-- In every reached state, the array of a kind has exactly the registered listeners for the
kind and for the kinds above it, each once, in the order of dispatch; and an entry checks for
cancellation exactly if its listener does not want canceled events and events of the kind can
be canceled. -/
theorem Reaches.flattened_perm_pairwise
    {host : Host σ β}
    {known : Kind → Prop}
    {first state : σ}
    (reaches : host.Reaches known first state)
    (lawful : host.Lawful)
    (still : host.StillChecker)
    (consistent : Kind.Consistent known)
    {config : BusConfig}
    {forcesChecks : Bool}
    {metrics? : Option Metrics}
    (new : host.bus first = Bus.create config forcesChecks metrics?)
    {kind : Kind}
    (isKnown : known kind)
    {id : Nat}
    {made : σ}
    (found : host.nodeFor kind state = (.ok id, made)) :
    ∃ listeners after, host.flattened id made = (.ok listeners, after) ∧
      listeners.Perm
        (((host.bus state).registeredListeners.filter fun entry =>
          entry.kind ∈ kind.ancestors).map (Listener.formFor kind)) ∧
      listeners.Pairwise (Listener.Precedes kind) ∧
      (listeners.map Listener.id).Nodup ∧
      ∀ entry ∈ listeners,
        entry.checksCancellation = (!entry.receivesCanceled && kind.isCancellable) := by
  have stored : Bus.Stored known (fun _ => True) (host.view state) :=
    reaches.stored lawful still (fun _ _ _ => trivial) new
  have ascending : (host.bus state).registeredListeners.Pairwise fun first second =>
      first.id.value < second.id.value := stored.ascending
  have admitted := stored.admitted
  change ∀ entry ∈ (host.bus state).registeredListeners, _ at admitted
  have perm := arranged_perm consistent isKnown
    (fun entry isEntry => (admitted entry isEntry).known) ascending
  have ordered := pairwise_arranged (consistent kind kind isKnown isKnown) ascending
  refine ⟨_, _, flattened_of_stored lawful stored consistent isKnown found, perm.map _, ?_, ?_, ?_⟩
  · refine List.pairwise_map.mpr (ordered.imp fun precedes => ?_)
    simpa only [Listener.Precedes, Listener.priority_formFor, Listener.kind_formFor,
      Listener.id_formFor] using precedes
  · rw [List.map_map]
    have sameIds : Listener.id ∘ Listener.formFor kind = (Listener.id : Listener β → ListenerId) :=
      funext fun entry => entry.id_formFor kind
    rw [sameIds, (perm.map Listener.id).nodup_iff]
    refine List.pairwise_map.mpr ((ascending.filter _).imp ?_)
    intro older younger isOlder sameId
    rw [sameId] at isOlder
    omega
  · intro entry isEntry
    obtain ⟨registered, isArranged, rfl⟩ := List.mem_map.mp isEntry
    have form := (admitted registered (mem_arranged.mp isArranged).1).form
    rw [registered.checksCancellation_formFor, registered.receivesCanceled_formFor, form]

/-! ### A listener that is made while another one runs -/

open Index.Reachable (alarm drill)

/-- Some bodies make a listener for drills when they run. -/
def recruit (recruits : Bool) : Handler (Bus Bool × Nat) := fun (event, state) =>
  (.ok (), event,
    if recruits then ((calm Bool).addListener drill .high true "" false state).2 else state)

/-- A listener for alarms that recruits hears one, and then a second one is made. -/
def rehearsed : Bus Bool × Nat :=
  let first := ((calm Bool).addListener alarm .normal false "" true (Bus.create {} false none, 0)).2
  let recruiting := (calm Bool).withCode recruit (calm Bool).handle
  let heard := (recruiting.post (.last ⟨alarm, 0, none⟩, first)).2.2
  ((calm Bool).addListener alarm .high true "" false heard).2

/-- The only kinds of the rehearsal. -/
def Rehearsed (kind : Kind) : Prop := kind = alarm ∨ kind = drill

theorem consistent_rehearsed : Kind.Consistent Rehearsed := by
  rintro first second (rfl | rfl) (rfl | rfl) <;> decide

theorem reaches_rehearsed :
    (calm Bool).Reaches Rehearsed (Bus.create {} false none, 0) rehearsed := by
  refine .trans (.trans (.addListener _ _ _ _ _ (.inl rfl)) (.post _ (.inl rfl) ?_ ?_ ?_))
    (.addListener _ _ _ _ _ (.inl rfl))
  · exact fun _ _ _ isKnown => isKnown
  · intro recruits event state _
    cases recruits with
    | true => exact .addListener _ _ _ _ state (.inr rfl)
    | false => exact .refl state
  · exact fun _ state _ => .refl state

/-- A drill meets the listener made during the alarm first, then the others; only the first
listener for alarms checks for cancellation. -/
theorem Reaches.flattened_perm_pairwise_rehearsed :
    (calm Bool).Reaches Rehearsed (Bus.create {} false none, 0) rehearsed ∧
      ∃ id made listeners after, (calm Bool).nodeFor drill rehearsed = (.ok id, made) ∧
        (calm Bool).flattened id made = (.ok listeners, after) ∧
        listeners.map (fun entry => (entry.id.value, entry.checksCancellation)) =
          [(2, false), (3, false), (1, true)] ∧
        listeners.Pairwise (Listener.Precedes drill) := by
  have answer : ((calm Bool).nodeFor drill rehearsed).1.toOption = some 1 := by decide +kernel
  have array : ((calm Bool).flattened 1 ((calm Bool).nodeFor drill rehearsed).2).1.toOption.map
      (List.map fun entry => (entry.id.value, entry.checksCancellation)) =
        some [(2, false), (3, false), (1, true)] := by decide +kernel
  obtain ⟨made, found⟩ := Action.exists_of_toOption answer
  obtain ⟨listeners, after, read, -, ordered, -, -⟩ :=
    Reaches.flattened_perm_pairwise reaches_rehearsed (lawful_calm Bool) (stillChecker_calm Bool)
      consistent_rehearsed rfl (.inr rfl) found
  rw [found, read] at array
  exact ⟨reaches_rehearsed, 1, made, listeners, after, found, read, Option.some.inj array, ordered⟩

end Host
end EventRelay
