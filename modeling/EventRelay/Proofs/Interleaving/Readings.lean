import EventRelay.Proofs.Interleaving.Recency

/-!
# Readings under way

Whoever rebuilds an array begins to read the parent after the generation of the node was captured.
So the array of the parent is recent at that moment, the new array is recent too, and it is valid
when it is stored. All caches are valid at every moment, and a reading gives away an array that is
recent at the moment when it began.
-/

namespace EventRelay

variable {β : Type}

/-- Where the cache of a node comes from: the node has just been published, or the cache was there,
or a reading has just stored it. -/
theorem Crowd.Step.cache_back
    {crowd after : Crowd β}
    (step : Step crowd after)
    (sound : crowd.Sound)
    {id : Nat}
    {node : Node β}
    (present : after.site.index.node? id = some node) :
    (crowd.site.index.node? id = none ∧ node.cache.generation < node.generation) ∨
      (∃ before, crowd.site.index.node? id = some before ∧ node.cache = before.cache) ∨
      ∃ (number : Nat) (request : Request β) (below : List (Nat × Nat)),
        crowd.tasks[number]? = some ⟨request, .reading id (.storing node.cache) below⟩ := by
  cases step with
  | begin => exact .inr (.inl ⟨node, present, rfl⟩)
  | @advance number task later next isTask advances =>
      rcases (Does.of_advance advances).node_cases (sound.suits isTask) present with
        ⟨rfl, making, seen, -, rfl⟩ | ⟨before, was, -, sameCache | ⟨below, isStoring⟩, -⟩
      · exact .inl ⟨Index.node?_size _, Nat.one_pos⟩
      · exact .inr (.inl ⟨before, was, sameCache⟩)
      · obtain ⟨request, stage⟩ := task
        cases isStoring
        exact .inr (.inr ⟨number, request, below, isTask⟩)

namespace History

variable {history : History β} {now early late begun current number id : Nat}

/-- A task began to read the node that it was asked to read. -/
structure Begins (history : History β) (now number begun id : Nat) : Prop where
  inTime : begun ≤ now
  asked : (history.crowdAt now).Asked number (.flattened id)
  published : id < (history.indexAt begun).size
  latest : ∀ {start}, (history.crowdAt start).tasks.length ≤ number → start ≤ begun

/-- A node began to be read on behalf of nodes below it, each after its generation was captured. -/
def Serves (history : History β) (now number : Nat) : Nat → Nat → List (Nat × Nat) → Prop
  | begun, id, [] => history.Begins now number begun id
  | begun, id, (low, generation) :: below =>
      ((history.indexAt now).node? low).bind Node.parent? = some id ∧
        ∃ captured ≤ begun, history.StandsAt captured low generation ∧
          ∃ earlier ≤ captured, history.Serves now number earlier low below

/-- The generation of a node was captured after its reading began. -/
structure Captures (history : History β) (begun current id generation captured : Nat) : Prop where
  since : begun ≤ captured
  inTime : captured ≤ current
  stands : history.StandsAt captured id generation

/-- What is known of a node that is being read. -/
def Knows (history : History β) (now begun current id : Nat) : Reading β → Prop
  | .loaded cache => history.Valid now id cache
  | .captured generation => ∃ captured, history.Captures begun current id generation captured
  | .climbing generation => ∃ captured, history.Captures begun current id generation captured
  | .inheriting generation inherited? =>
      ∃ captured, history.Captures begun current id generation captured ∧
        Option.Rel (history.Recent now captured)
          (((history.indexAt now).node? id).bind Node.parent?) inherited?
  | .storing array =>
      ∃ captured, history.Captures begun current id array.generation captured ∧
        history.Recent now captured id array
  | _ => True

/-- What is known of a task. -/
def Upholds (history : History β) (now number current : Nat) : Stage β → Prop
  | .reading id place below =>
      ∃ begun ≤ current, history.Serves now number begun id below ∧
        history.Knows now begun current id place
  | .read array =>
      ∃ begun id, history.Begins now number begun id ∧ history.Recent now begun id array
  | _ => True

theorem Captures.later
    {generation captured : Nat}
    (captures : history.Captures begun early id generation captured)
    (isLater : early ≤ late) :
    history.Captures begun late id generation captured :=
  { captures with inTime := Nat.le_trans captures.inTime isLater }

/-- What is known of a task stays known. -/
theorem Upholds.later
    {stage : Stage β}
    (upholds : history.Upholds now number early stage)
    (isLater : early ≤ late) :
    history.Upholds now number late stage := by
  cases stage with
  | reading id place below =>
      obtain ⟨begun, inTime, serves, knows⟩ := upholds
      refine ⟨begun, Nat.le_trans inTime isLater, serves, ?_⟩
      cases place with
      | captured | climbing =>
          obtain ⟨captured, captures⟩ := knows
          exact ⟨captured, captures.later isLater⟩
      | inheriting | storing =>
          obtain ⟨captured, captures, recent⟩ := knows
          exact ⟨captured, captures.later isLater, recent⟩
      | _ => exact knows
  | read array => exact upholds
  | _ => trivial

theorem upholds_handOver
    (history : History β)
    (now number current id : Nat)
    (waiting : List Kind) :
    history.Upholds now number current (.handOver id waiting) := by
  cases waiting <;> trivial

/-- An array that is recent at the moment when its reading began may be delivered. -/
theorem upholds_deliver
    {below : List (Nat × Nat)}
    (serves : history.Serves now number begun id below)
    (inTime : begun ≤ current)
    {array : Flattened β}
    (recent : history.Recent now begun id array) :
    history.Upholds now number current (.deliver array below) := by
  cases below with
  | nil => exact ⟨begun, id, serves, recent⟩
  | cons entry rest =>
      obtain ⟨isAbove, captured, isCaptured, stands, earlier, isEarlier, waiting⟩ := serves
      have captures : history.Captures earlier current entry.1 entry.2 captured :=
        ⟨isEarlier, Nat.le_trans isCaptured inTime, stands⟩
      refine ⟨earlier, Nat.le_trans isEarlier captures.inTime, waiting, captured, captures, ?_⟩
      rw [isAbove]
      exact .some (recent.earlier isCaptured)

/-- What is known of a task after its step. -/
theorem upholds_next
    {later : Site β}
    {request : Request β}
    {stage next : Stage β}
    (inTime : current ≤ now)
    (caches : ∀ {id node}, (history.indexAt current).node? id = some node →
      history.Valid now id node.cache)
    (upholds : history.Upholds now number current stage)
    (does : Does (history.crowdAt current).site request stage later next) :
    history.Upholds now number (current + 1) next := by
  have isLater := Nat.le_succ current
  have parent {id : Nat} {node : Node β}
      (present : (history.indexAt current).node? id = some node) :
      ((history.indexAt now).node? id).bind Node.parent? = node.parent? :=
    (history.ages inTime).parent present
  cases does with
  | find | leave | publish => exact upholds_handOver ..
  | load present =>
      obtain ⟨begun, sofar, serves, -⟩ := upholds
      exact ⟨begun, Nat.le_trans sofar isLater, serves, caches present⟩
  | hit present fresh =>
      obtain ⟨begun, sofar, serves, valid⟩ := upholds
      have recent := valid present (Nat.le_of_eq fresh.symm)
      exact upholds_deliver serves (Nat.le_trans sofar isLater) (recent.earlier sofar)
  | miss | lock =>
      obtain ⟨begun, sofar, serves, -⟩ := upholds
      exact ⟨begun, Nat.le_trans sofar isLater, serves, trivial⟩
  | capture present =>
      obtain ⟨begun, sofar, serves, -⟩ := upholds
      exact ⟨begun, Nat.le_trans sofar isLater, serves, current, sofar, isLater, _,
        present, rfl⟩
  | hitLocked present =>
      obtain ⟨begun, sofar, serves, captured, captures⟩ := upholds
      obtain ⟨node, wasNode, same⟩ := captures.stands
      have recent := caches present wasNode (Nat.le_of_eq same)
      exact upholds_deliver serves (Nat.le_trans sofar isLater) (recent.earlier captures.since)
  | missLocked => exact Upholds.later upholds isLater
  | climb present isAbove published =>
      obtain ⟨begun, sofar, serves, captured, captures⟩ := upholds
      exact ⟨current, isLater, ⟨(parent present).trans isAbove, captured, captures.inTime,
        captures.stands, begun, captures.since, serves⟩, trivial⟩
  | @atTop _ _ _ node _ present isTop =>
      obtain ⟨begun, sofar, serves, captured, captures⟩ := upholds
      refine ⟨begun, Nat.le_trans sofar isLater, serves, captured, captures.later isLater, ?_⟩
      rw [parent present]
      cases isAbove : node.parent? with
      | none => exact .none
      | some above =>
          have lower := (history.sound current).shaped.parent_lt_size present isAbove
          exact absurd lower (Nat.not_lt.mpr (isTop above isAbove))
  | gather present =>
      obtain ⟨begun, sofar, serves, captured, captures, inherits⟩ := upholds
      rw [parent present] at inherits
      exact ⟨begun, Nat.le_trans sofar isLater, serves, captured, captures.later isLater,
        .flatten captures.inTime inTime present inherits _ _⟩
  | store =>
      obtain ⟨begun, sofar, serves, captured, captures, recent⟩ := upholds
      exact upholds_deliver serves (Nat.le_trans sofar isLater) (recent.earlier captures.since)
  | _ => trivial

/-! ## At every moment -/

/-- Caches are valid, and tasks have in their hands what they need. -/
structure Upheld (history : History β) (now current : Nat) : Prop where
  caches : ∀ {id node}, (history.indexAt current).node? id = some node →
    history.Valid now id node.cache
  tasks : ∀ {number request stage}, history.taskAt? current number = some ⟨request, stage⟩ →
    history.Upholds now number current stage

namespace Upheld

/-- The cache of a new node counts for no generation of the node. -/
theorem valid_of_new
    {node : Node β}
    (absent : (history.indexAt current).node? id = none)
    (present : (history.indexAt (current + 1)).node? id = some node)
    (outdated : node.cache.generation < node.generation) :
    history.Valid now id node.cache := by
  intro moment after isAfter atMost
  rcases Nat.lt_or_ge current moment with isLater | isEarlier
  · obtain ⟨other, isOther, aged⟩ := (history.ages isLater).node present
    rw [isAfter] at isOther
    cases isOther
    have grown := aged.generation
    omega
  · obtain ⟨other, isOther, -⟩ := (history.ages isEarlier).node isAfter
    rw [absent] at isOther
    cases isOther

theorem caches_next
    (upheld : history.Upheld now current)
    {node : Node β}
    (present : (history.indexAt (current + 1)).node? id = some node) :
    history.Valid now id node.cache := by
  rcases history.goesOn current with same | step
  · rw [indexAt, same] at present
    exact upheld.caches present
  · rcases step.cache_back (history.sound current) present with ⟨absent, outdated⟩ |
      ⟨before, was, sameCache⟩ | ⟨number, request, below, isStoring⟩
    · exact valid_of_new absent present outdated
    · rw [sameCache]
      exact upheld.caches was
    · obtain ⟨_, -, -, captured, captures, recent⟩ := upheld.tasks isStoring
      exact recent.valid captures.stands

theorem tasks_next
    (upheld : history.Upheld now current)
    (inTime : current + 1 ≤ now)
    {request : Request β}
    {stage : Stage β}
    (isTask : history.taskAt? (current + 1) number = some ⟨request, stage⟩) :
    history.Upholds now number (current + 1) stage := by
  rcases task_back isTask with wasTask | ⟨before, wasTask, does⟩ | ⟨isNew, rfl, isFor⟩
  · exact (upheld.tasks wasTask).later (Nat.le_succ current)
  · exact upholds_next (Nat.le_of_succ_le inTime) upheld.caches (upheld.tasks wasTask) does
  · cases request with
    | flattened id =>
        refine ⟨current + 1, Nat.le_refl _, ⟨inTime, ?_, ?_, fun {start} early => ?_⟩, trivial⟩
        · exact (history.run inTime).asked ⟨_, isTask⟩
        · exact Nat.lt_of_lt_of_le isFor (history.ages (Nat.le_succ current)).size_le
        · -- The task is there from the next moment on.
          refine Nat.le_of_not_lt fun isLater => ?_
          have inside := (List.getElem?_eq_some_iff.mp isTask).1
          have grown := (history.run (Nat.le_of_lt isLater)).length_le
          omega
    | _ => trivial

theorem of_le
    (history : History β)
    (inTime : current ≤ now) :
    history.Upheld now current := by
  induction current with
  | zero =>
      constructor
      · intro id node present
        rw [indexAt, history.starts] at present
        cases present
      · intro number request stage isTask
        rw [taskAt?, history.starts] at isTask
        cases isTask
  | succ current inductionHypothesis =>
      have before := inductionHypothesis (Nat.le_of_succ_le inTime)
      exact ⟨before.caches_next, before.tasks_next inTime⟩

end Upheld

/-- What a reading that begins after some moment returns: each bucket as it was after all changes
of it from which tasks had returned by then. -/
theorem exists_composes
    {start reader : Nat}
    {array : Flattened β}
    (begins : (history.crowdAt start).tasks.length ≤ reader)
    (isRead : history.taskAt? now reader = some ⟨.flattened id, .read array⟩) :
    ∃ read, history.Composes now read id array ∧
      ∀ {teller root request taken},
        history.taskAt? start teller = some ⟨request, .marking taken []⟩ →
        request.Alters taken root → root ∈ (history.indexAt now).lineage id →
        (history.crowdAt (read root)).HasChanged teller := by
  obtain ⟨begun, asked, beginning, read, composes, knows⟩ :=
    (Upheld.of_le history (Nat.le_refl now)).tasks isRead
  obtain ⟨stage, isTask⟩ := beginning.asked
  rw [taskAt?, isTask] at isRead
  cases isRead
  refine ⟨read, composes, fun isReturned alters isAbove =>
    knows ⟨_, _, _, _, isReturned, alters⟩ ?_⟩
  have stillReturned := (history.run (beginning.latest begins)).returned isReturned
  have shaped := (history.sound begun).shaped
  have sameLineage := (history.ages beginning.inTime).lineage
    (fun present isAbove =>
      ⟨shaped.parent_lt present isAbove, shaped.parent_lt_size present isAbove⟩)
    beginning.published
  exact told_of_returned stillReturned alters (sameLineage ▸ isAbove)

end History
end EventRelay
