import EventRelay.Proofs.Interleaving.Making

/-!
# Histories

A history is an interleaving of tasks, moment by moment. Tasks keep their places and their
requests, and what a task has done stays done: a bucket that it has changed, what it has taken out
of it, and that it has returned. The tree of an earlier moment is a part of the tree of a later
one.
-/

namespace EventRelay

variable {β : Type}

namespace Stage

/-- The task is to change a bucket or has changed one. -/
def isChange : Stage β → Bool
  | .changing => true
  | .marking _ _ => true
  | _ => false

theorem isChange_handOver (id : Nat) (waiting : List Kind) :
    (handOver id waiting : Stage β).isChange = false := by
  cases waiting <;> rfl

theorem isChange_deliver (array : Flattened β) (below : List (Nat × Nat)) :
    (deliver array below).isChange = false := by
  cases below <;> rfl

end Stage

namespace Does

variable {site later : Site β} {request : Request β} {stage next : Stage β}

theorem isChange_eq
    (does : Does site request stage later next) :
    next.isChange = stage.isChange := by
  cases does with
  | find | leave | publish => exact Stage.isChange_handOver ..
  | hit | hitLocked | store => exact Stage.isChange_deliver ..
  | _ => rfl

/-- No step leads back to the change of a bucket. -/
theorem next_ne_changing
    (does : Does site request stage later next) :
    next ≠ .changing := by
  intro same
  have isChange : stage.isChange = true := by rw [← does.isChange_eq, same, Stage.isChange]
  cases stage with
  | changing | marking => cases does <;> cases same
  | _ => cases isChange

/-- What has been taken out of a bucket is known from the change on. -/
theorem marking_back
    {taken : List (Listener β)}
    {errands : List Errand}
    (does : Does site request stage later (.marking taken errands)) :
    stage = .changing ∨ ∃ left, stage = .marking taken left := by
  have isChange : stage.isChange = true := by rw [← does.isChange_eq, Stage.isChange]
  cases stage with
  | changing => exact .inl rfl
  | marking given left => cases does <;> exact .inr ⟨_, rfl⟩
  | _ => cases isChange

end Does

namespace Crowd

variable {crowd after later : Crowd β} {number : Nat}

/-- A task was asked to do this. -/
def Asked (number : Nat) (request : Request β) (crowd : Crowd β) : Prop :=
  ∃ stage, crowd.tasks[number]? = some ⟨request, stage⟩

/-- A task is past the change of a bucket. -/
def HasChanged (number : Nat) (crowd : Crowd β) : Prop :=
  ∃ task, crowd.tasks[number]? = some task ∧ task.stage ≠ .changing

theorem Asked.request_eq
    {crowd : Crowd β}
    {number : Nat}
    {request : Request β}
    (asked : crowd.Asked number request) :
    (crowd.tasks.map Task.request)[number]? = some request := by
  obtain ⟨stage, isTask⟩ := asked
  rw [List.getElem?_map, isTask]
  rfl

theorem hasChanged_of_marking
    {request : Request β}
    {taken : List (Listener β)}
    {errands : List Errand}
    (isTask : crowd.tasks[number]? = some ⟨request, .marking taken errands⟩) :
    crowd.HasChanged number :=
  ⟨_, isTask, nofun⟩

/-! ## Single steps -/

namespace Step

theorem length_le
    (step : Step crowd after) :
    crowd.tasks.length ≤ after.tasks.length := by
  cases step with
  | begin => simp
  | advance => simp

/-- A task stays where it is or takes a step of its own. -/
theorem task
    (step : Step crowd after)
    {request : Request β}
    {stage : Stage β}
    (isTask : crowd.tasks[number]? = some ⟨request, stage⟩) :
    ∃ next, after.tasks[number]? = some ⟨request, next⟩ ∧
      (next = stage ∨ Does crowd.site request stage after.site next) := by
  cases step with
  | begin => exact ⟨stage, getElem?_of_append isTask _, .inl rfl⟩
  | @advance other mover later next isMover advances =>
      by_cases same : other = number
      · subst same
        rw [isTask] at isMover
        cases isMover
        exact ⟨next, List.getElem?_set_self (List.getElem?_eq_some_iff.mp isTask).1,
          .inr (.of_advance advances)⟩
      · exact ⟨stage, (List.getElem?_set_ne same).trans isTask, .inl rfl⟩

/-- Where a task comes from: it has not moved, or it has taken a step of its own, or it has just
begun. -/
theorem task_back
    (step : Step crowd after)
    {request : Request β}
    {stage : Stage β}
    (isTask : after.tasks[number]? = some ⟨request, stage⟩) :
    crowd.tasks[number]? = some ⟨request, stage⟩ ∨
      (∃ before, crowd.tasks[number]? = some ⟨request, before⟩ ∧
        Does crowd.site request before after.site stage) ∨
      crowd.tasks.length ≤ number ∧ stage = request.firstStage ∧
        request.IsFor crowd.site.index := by
  cases step with
  | begin isFor =>
      rcases task_of_append isTask with isOld | ⟨rfl, isNew⟩
      · exact .inl isOld
      · cases isNew
        exact .inr (.inr ⟨Nat.le_refl _, rfl, isFor⟩)
  | @advance other mover later next isMover advances =>
      rcases task_of_set isTask with ⟨rfl, moved⟩ | ⟨-, wasTask⟩
      · cases moved
        exact .inr (.inl ⟨mover.stage, isMover, .of_advance advances⟩)
      · exact .inl wasTask

theorem ages
    (step : Step crowd after)
    (sound : crowd.Sound) :
    crowd.site.index.Ages after.site.index := by
  cases step with
  | begin => exact .refl _
  | advance isTask advances => exact (Does.of_advance advances).ages (sound.suits isTask)

/-- Where a node comes from: it was there, or it has just been published below one that was. -/
theorem node_back
    (step : Step crowd after)
    (sound : crowd.Sound)
    {id : Nat}
    {node : Node β}
    (present : after.site.index.node? id = some node) :
    (∃ before, crowd.site.index.node? id = some before ∧ Index.NodeAges before node) ∨
      crowd.site.index.node? id = none ∧
        ∀ parent, node.parent? = some parent → parent < crowd.site.index.size := by
  cases step with
  | begin => exact .inl ⟨node, present, .refl node⟩
  | @advance number task later next isTask advances =>
      have suits := sound.suits isTask
      rcases (Does.of_advance advances).node_cases suits present with
        ⟨rfl, making, seen, isPublishing, rfl⟩ | ⟨before, was, aged, -⟩
      · rw [isPublishing] at suits
        exact .inr ⟨Index.node?_size _, suits.1.2⟩
      · exact .inl ⟨before, was, aged⟩

end Step

/-! ## Runs -/

namespace Run

theorem length_le
    (run : Run crowd later) :
    crowd.tasks.length ≤ later.tasks.length := by
  induction run with
  | refl => exact Nat.le_refl _
  | tail _ last inductionHypothesis => exact Nat.le_trans inductionHypothesis last.length_le

theorem ages
    (run : Run crowd later)
    (sound : crowd.Sound) :
    crowd.site.index.Ages later.site.index := by
  induction run with
  | refl => exact .refl _
  | tail before last inductionHypothesis =>
      exact inductionHypothesis.trans (last.ages (sound.run before))

/-- What every step of a task keeps, a run keeps. -/
theorem keeps
    (run : Run crowd later)
    {request : Request β}
    {kept : Stage β → Prop}
    (steps : ∀ {site after : Site β} {stage next : Stage β}, kept stage →
      Does site request stage after next → kept next)
    {stage : Stage β}
    (isTask : crowd.tasks[number]? = some ⟨request, stage⟩)
    (holds : kept stage) :
    ∃ now, later.tasks[number]? = some ⟨request, now⟩ ∧ kept now := by
  induction run with
  | refl => exact ⟨stage, isTask, holds⟩
  | tail _ last inductionHypothesis =>
      obtain ⟨between, isBetween, holdsBetween⟩ := inductionHypothesis
      obtain ⟨next, isNext, rfl | does⟩ := last.task isBetween
      · exact ⟨next, isNext, holdsBetween⟩
      · exact ⟨next, isNext, steps holdsBetween does⟩

/-- A task keeps its request. -/
theorem asked
    (run : Run crowd later)
    {request : Request β}
    (asked : crowd.Asked number request) :
    later.Asked number request := by
  obtain ⟨stage, isTask⟩ := asked
  obtain ⟨now, isNow, -⟩ :
      ∃ now, later.tasks[number]? = some ⟨request, now⟩ ∧ True :=
    run.keeps (fun _ _ => trivial) isTask trivial
  exact ⟨now, isNow⟩

/-- A bucket that has been changed stays so. -/
theorem changed
    (run : Run crowd later)
    (changed : crowd.HasChanged number) :
    later.HasChanged number := by
  obtain ⟨task, isTask, hasChanged⟩ := changed
  obtain ⟨now, isNow, still⟩ := run.keeps (fun _ does => does.next_ne_changing) isTask hasChanged
  exact ⟨_, isNow, still⟩

/-- A task that has returned from its change stays where it is. -/
theorem returned
    (run : Run crowd later)
    {request : Request β}
    {taken : List (Listener β)}
    (isTask : crowd.tasks[number]? = some ⟨request, .marking taken []⟩) :
    later.tasks[number]? = some ⟨request, .marking taken []⟩ := by
  have stays {site after : Site β} {stage next : Stage β} (is : stage = .marking taken [])
      (does : Does site request stage after next) : next = .marking taken [] := by
    subst is
    cases does
  obtain ⟨now, isNow, rfl⟩ := run.keeps stays isTask rfl
  exact isNow

/-- What has been taken out of a bucket stays known. -/
theorem taken
    (run : Run crowd later)
    {request : Request β}
    {taken : List (Listener β)}
    {errands : List Errand}
    (isTask : crowd.tasks[number]? = some ⟨request, .marking taken errands⟩) :
    ∃ left, later.tasks[number]? = some ⟨request, .marking taken left⟩ := by
  have stays {site after : Site β} {stage next : Stage β}
      (is : ∃ left, stage = .marking taken left) (does : Does site request stage after next) :
      ∃ left, next = .marking taken left := by
    obtain ⟨left, rfl⟩ := is
    cases does <;> exact ⟨_, rfl⟩
  obtain ⟨now, isNow, left, rfl⟩ := run.keeps stays isTask ⟨errands, rfl⟩
  exact ⟨left, isNow⟩

end Run

theorem Reachable.run
    (reachable : crowd.Reachable)
    (run : Run crowd later) :
    later.Reachable := by
  obtain ⟨tracksPhases, before⟩ := reachable
  exact ⟨tracksPhases, before.trans run⟩

end Crowd

/-! ## Moment by moment -/

/-- What becomes of the listener lists while tasks are at work on them. Between two moments there
is one step, or nothing happens. -/
structure History (β : Type) where
  crowdAt : Nat → Crowd β
  tracksPhases : Bool
  starts : crowdAt 0 = .empty tracksPhases
  goesOn : ∀ moment, crowdAt (moment + 1) = crowdAt moment ∨
    (crowdAt moment).Step (crowdAt (moment + 1))

namespace History

variable {history : History β} {moment early late number id : Nat} {request : Request β}
  {stage : Stage β}

/-- The nodes at a moment. -/
abbrev indexAt (history : History β) (moment : Nat) : Index β :=
  (history.crowdAt moment).site.index

/-- A task at a moment, if it has begun. -/
abbrev taskAt? (history : History β) (moment number : Nat) : Option (Task β) :=
  (history.crowdAt moment).tasks[number]?

theorem run
    (history : History β)
    (isLater : early ≤ late) :
    (history.crowdAt early).Run (history.crowdAt late) := by
  induction isLater with
  | refl => exact .refl
  | step _ inductionHypothesis =>
      rcases history.goesOn _ with same | step
      · rw [same]
        exact inductionHypothesis
      · exact inductionHypothesis.tail step

theorem reachable (history : History β) (moment : Nat) : (history.crowdAt moment).Reachable :=
  ⟨history.tracksPhases, history.starts ▸ history.run (Nat.zero_le moment)⟩

theorem sound (history : History β) (moment : Nat) : (history.crowdAt moment).Sound :=
  (history.reachable moment).sound

theorem ages
    (history : History β)
    (isLater : early ≤ late) :
    (history.indexAt early).Ages (history.indexAt late) :=
  (history.run isLater).ages (history.sound early)

/-- Where a task comes from. -/
theorem task_back
    (isTask : history.taskAt? (moment + 1) number = some ⟨request, stage⟩) :
    history.taskAt? moment number = some ⟨request, stage⟩ ∨
      (∃ before, history.taskAt? moment number = some ⟨request, before⟩ ∧
        Does (history.crowdAt moment).site request before (history.crowdAt (moment + 1)).site
          stage) ∨
      (history.crowdAt moment).tasks.length ≤ number ∧ stage = request.firstStage ∧
        request.IsFor (history.indexAt moment) := by
  rcases history.goesOn moment with same | step
  · rw [taskAt?, same] at isTask
    exact .inl isTask
  · exact step.task_back isTask

/-- Where a node comes from. -/
theorem node_back
    {node : Node β}
    (present : (history.indexAt (moment + 1)).node? id = some node) :
    (∃ before, (history.indexAt moment).node? id = some before ∧ Index.NodeAges before node) ∨
      (history.indexAt moment).node? id = none ∧
        ∀ parent, node.parent? = some parent → parent < (history.indexAt moment).size := by
  rcases history.goesOn moment with same | step
  · rw [indexAt, same] at present
    exact .inl ⟨node, present, .refl node⟩
  · exact step.node_back (history.sound moment) present

/-- Whoever has asked for a change or a reading has the node. -/
theorem isFor
    (isTask : history.taskAt? moment number = some ⟨request, stage⟩) :
    request.IsFor (history.indexAt moment) := by
  induction moment generalizing stage with
  | zero =>
      rw [taskAt?, history.starts] at isTask
      cases isTask
  | succ moment inductionHypothesis =>
      have lasts (isFor : request.IsFor (history.indexAt moment)) :
          request.IsFor (history.indexAt (moment + 1)) := by
        have sizes := (history.ages (Nat.le_succ moment)).size_le
        cases request with
        | nodeFor kind => trivial
        | _ => exact Nat.lt_of_lt_of_le isFor sizes
      rcases task_back isTask with wasTask | ⟨before, wasTask, -⟩ | ⟨-, -, isFor⟩
      · exact lasts (inductionHypothesis wasTask)
      · exact lasts (inductionHypothesis wasTask)
      · exact lasts isFor

/-- At some moment a bucket has been changed that was to be changed. -/
theorem exists_change
    (changed : (history.crowdAt late).HasChanged number)
    (asked : (history.crowdAt late).Asked number request)
    (isChange : request.firstStage = .changing) :
    ∃ moment < late, history.taskAt? moment number = some ⟨request, .changing⟩ ∧
      (history.crowdAt (moment + 1)).HasChanged number ∧
      ∃ next, Does (history.crowdAt moment).site request .changing
        (history.crowdAt (moment + 1)).site next := by
  obtain ⟨task, isChanged, hasChanged⟩ := changed
  obtain ⟨stage, isTask⟩ := asked
  rw [isTask] at isChanged
  cases isChanged
  induction late generalizing stage with
  | zero =>
      rw [history.starts] at isTask
      cases isTask
  | succ late inductionHypothesis =>
      rcases task_back isTask with wasTask | ⟨before, wasTask, does⟩ | ⟨-, rfl, -⟩
      · obtain ⟨moment, isEarlier, change⟩ := inductionHypothesis stage wasTask hasChanged
        exact ⟨moment, Nat.lt_succ_of_lt isEarlier, change⟩
      · by_cases isChanging : before = .changing
        · subst isChanging
          exact ⟨late, Nat.lt_succ_self late, wasTask, ⟨_, isTask, hasChanged⟩, stage, does⟩
        · obtain ⟨moment, isEarlier, change⟩ := inductionHypothesis before wasTask isChanging
          exact ⟨moment, Nat.lt_succ_of_lt isEarlier, change⟩
      · exact absurd isChange hasChanged

/-- A task that has changed its bucket was asked for what it is asked for at any other moment. -/
theorem asked_of_hasChanged
    (changed : (history.crowdAt moment).HasChanged number)
    {other : Nat}
    (asked : (history.crowdAt other).Asked number request) :
    (history.crowdAt moment).Asked number request := by
  obtain ⟨⟨given, stage⟩, isTask, -⟩ := changed
  have same {last : Nat} (first : (history.crowdAt last).Asked number given)
      (second : (history.crowdAt last).Asked number request) : given = request := by
    obtain ⟨_, isFirst⟩ := first
    obtain ⟨_, isSecond⟩ := second
    rw [isFirst] at isSecond
    cases isSecond
    rfl
  rcases Nat.le_total moment other with isLater | isEarlier
  · exact ⟨stage, same ((history.run isLater).asked ⟨_, isTask⟩) asked ▸ isTask⟩
  · exact (history.run isEarlier).asked asked

/-- One task changes its bucket before another one does. -/
def Precedes (history : History β) (first second : Nat) : Prop :=
  ∃ moment, (history.crowdAt moment).HasChanged first ∧
    ¬ (history.crowdAt moment).HasChanged second

theorem Precedes.not_precedes
    {first second : Nat}
    (precedes : history.Precedes first second) :
    ¬ history.Precedes second first := by
  obtain ⟨early, firstChanged, secondNot⟩ := precedes
  rintro ⟨late, secondChanged, firstNot⟩
  rcases Nat.le_total early late with isLater | isLater
  · exact firstNot ((history.run isLater).changed firstChanged)
  · exact secondNot ((history.run isLater).changed secondChanged)

end History

/-- Whatever tasks can come to belongs to a history. -/
theorem Crowd.Reachable.exists_history
    {crowd : Crowd β}
    (reachable : crowd.Reachable) :
    ∃ (history : History β) (moment : Nat), history.crowdAt moment = crowd := by
  obtain ⟨tracksPhases, run⟩ := reachable
  induction run with
  | refl => exact ⟨⟨fun _ => .empty tracksPhases, tracksPhases, rfl, fun _ => .inl rfl⟩, 0, rfl⟩
  | @tail middle crowd _ last inductionHypothesis =>
      obtain ⟨history, reached, rfl⟩ := inductionHypothesis
      refine ⟨⟨fun moment => if moment ≤ reached then history.crowdAt moment else crowd,
        history.tracksPhases, ?_, fun moment => ?_⟩, reached + 1, if_neg (by omega)⟩
      · rw [if_pos (Nat.zero_le _)]
        exact history.starts
      · rcases Nat.lt_trichotomy moment reached with before | rfl | after
        · rw [if_pos (by omega), if_pos (by omega)]
          exact history.goesOn moment
        · rw [if_neg (by omega), if_pos (Nat.le_refl _)]
          exact .inr last
        · rw [if_neg (by omega), if_neg (by omega)]
          exact .inl rfl

/-! ## Schedules -/

/-- What happens next: a task begins, or the task at a position goes on. -/
inductive Turn (β : Type) where
  | begin (request : Request β)
  | advance (number : Nat)

namespace Crowd

/-- One turn, unless it has to wait. -/
def turn (crowd : Crowd β) : Turn β → Crowd β
  | .begin request =>
      if request.IsFor crowd.site.index then
        ⟨crowd.site, crowd.tasks ++ [⟨request, request.firstStage⟩]⟩
      else crowd
  | .advance number =>
      match crowd.tasks[number]? with
      | some task =>
          match task.advance crowd.site with
          | some (later, next) => ⟨later, crowd.tasks.set number ⟨task.request, next⟩⟩
          | none => crowd
      | none => crowd

theorem turn_or
    (crowd : Crowd β)
    (turn : Turn β) :
    crowd.turn turn = crowd ∨ crowd.Step (crowd.turn turn) := by
  cases turn with
  | begin request =>
      rw [Crowd.turn]
      split
      case isTrue isFor => exact .inr (.begin crowd isFor)
      case isFalse => exact .inl rfl
  | advance number =>
      rw [Crowd.turn]
      split
      case h_1 task isTask =>
        split
        case h_1 later next advances => exact .inr (.advance isTask advances)
        case h_2 => exact .inl rfl
      case h_2 => exact .inl rfl

end Crowd

/-- The history in which turns are taken in a given order. -/
def History.ofTurns (tracksPhases : Bool) (turns : List (Turn β)) : History β where
  crowdAt moment := (turns.take moment).foldl Crowd.turn (.empty tracksPhases)
  tracksPhases := tracksPhases
  starts := rfl
  goesOn := by
    intro moment
    cases isTurn : turns[moment]? with
    | none =>
        rw [List.take_add_one, isTurn, Option.toList_none, List.append_nil]
        exact .inl rfl
    | some turn =>
        rw [List.take_add_one, isTurn, List.foldl_append]
        exact Crowd.turn_or _ turn

end EventRelay
