import EventRelay.Proofs.Interleaving.Histories

/-!
# Entries of buckets along a run

An entry comes into a bucket by a task that was asked to add it, and goes by one that was asked to
remove it. So it stays where it is as long as nobody begins to remove it, and does not come back
unless it is added again.
-/

namespace EventRelay

variable {β : Type}

namespace Index

variable {index : Index β} {id changed : Nat} {priority given : Priority}

theorem ownAt_update
    (index : Index β)
    (changed id : Nat)
    (change : Node β → Node β)
    (priority : Priority) :
    (index.update changed change).ownAt id priority =
      if changed = id then
        match index.node? id with
        | some node => ((change node).buckets.get priority).listeners
        | none => []
      else index.ownAt id priority := by
  rw [ownAt, node?_update]
  by_cases same : changed = id
  · rw [if_pos same, if_pos same]
    cases index.node? id <;> rfl
  · rw [if_neg same, if_neg same]
    rfl

theorem mem_ownAt_add
    {listener entry : Listener β}
    (isEntry : entry ∈
      (index.update changed fun node => node.add given listener).ownAt id priority) :
    entry ∈ index.ownAt id priority ∨ changed = id ∧ given = priority ∧ listener = entry := by
  rw [ownAt_update] at isEntry
  split at isEntry
  case isTrue same =>
    cases present : index.node? id with
    | none =>
        rw [present] at isEntry
        cases isEntry
    | some node =>
        rw [ownAt_of_node? present]
        simp only [present, Node.add, PerPriority.get_set] at isEntry
        split at isEntry
        case isTrue samePriority =>
          subst samePriority
          rcases List.mem_append.mp isEntry with old | new
          · exact .inl old
          · exact .inr ⟨same, rfl, (List.mem_singleton.mp new).symm⟩
        case isFalse => exact .inl isEntry
  case isFalse => exact .inl isEntry

theorem mem_ownAt_add_of_mem
    {listener entry : Listener β}
    (isEntry : entry ∈ index.ownAt id priority) :
    entry ∈ (index.update changed fun node => node.add given listener).ownAt id priority := by
  rw [ownAt_update]
  split
  case isTrue =>
    cases present : index.node? id with
    | none =>
        rw [ownAt, present] at isEntry
        cases isEntry
    | some node =>
        rw [ownAt_of_node? present] at isEntry
        simp only [Node.add, PerPriority.get_set]
        split
        case isTrue samePriority =>
          subst samePriority
          exact List.mem_append_left _ isEntry
        case isFalse => exact isEntry
  case isFalse => exact isEntry

/-- A listener that has been added to a node is there. -/
theorem mem_ownAt_add_self
    (old : id < index.size)
    (listener : Listener β) :
    listener ∈ (index.update id fun node => node.add priority listener).ownAt id priority := by
  obtain ⟨node, present⟩ := exists_node? old
  rw [ownAt_update, if_pos rfl, present]
  simp [Node.add]

theorem ownAt_removeAll
    (index : Index β)
    (changed id : Nat)
    (listeners : List ListenerId)
    (priority : Priority) :
    (index.update changed fun node => node.removeAll listeners).ownAt id priority =
      if changed = id then
        (index.ownAt id priority).filter fun entry => !listeners.contains entry.id
      else index.ownAt id priority := by
  rw [ownAt_update]
  split
  case isTrue =>
    cases present : index.node? id with
    | none =>
        rw [ownAt, present]
        rfl
    | some node =>
        rw [ownAt_of_node? present]
        simp only [Node.removeAll, PerPriority.get_map, Bucket.removeAll]
  case isFalse => rfl

end Index

namespace Does

variable {site later : Site β} {request : Request β} {stage next : Stage β} {id : Nat}
  {priority : Priority} {entry : Listener β}

/-- Only a change of a bucket changes buckets. -/
theorem ownAt_of_ne
    (does : Does site request stage later next)
    (suits : stage.Suits site.index request)
    (other : stage ≠ .changing) :
    later.index.ownAt id priority = site.index.ownAt id priority := by
  cases present : later.index.node? id with
  | none =>
      have absent : site.index.node? id = none := by
        cases was : site.index.node? id with
        | none => rfl
        | some node =>
            obtain ⟨after, isAfter, -⟩ := (does.ages suits).node was
            rw [present] at isAfter
            cases isAfter
      rw [Index.ownAt, Index.ownAt, present, absent]
  | some node =>
      rw [Index.ownAt_of_node? present]
      rcases does.node_cases suits present with ⟨rfl, making, seen, -, rfl⟩ |
        ⟨before, was, -, -, sameBuckets | isChanging⟩
      · rw [Index.ownAt_of_size_le (Nat.le_refl _), Index.newNode, Node.create,
          PerPriority.get_ofFn, Bucket.empty]
      · rw [Index.ownAt_of_node? was, sameBuckets]
      · exact absurd isChanging other

/-- An entry was in its bucket before the step, or the step has added it. -/
theorem entry_comes
    (does : Does site request stage later next)
    (suits : stage.Suits site.index request)
    (isEntry : entry ∈ later.index.ownAt id priority) :
    entry ∈ site.index.ownAt id priority ∨
      stage = .changing ∧ request = .register id priority entry := by
  by_cases isChanging : stage = .changing
  · subst isChanging
    cases does with
    | add changed given listener =>
        rcases Index.mem_ownAt_add isEntry with old | ⟨rfl, rfl, rfl⟩
        · exact .inl old
        · exact .inr ⟨rfl, rfl⟩
    | takeOut changed listeners =>
        refine .inl ?_
        change entry ∈ (site.index.update _ _).ownAt id priority at isEntry
        rw [Index.ownAt_removeAll] at isEntry
        split at isEntry
        case isTrue => exact List.mem_of_mem_filter isEntry
        case isFalse => exact isEntry
  · rw [does.ownAt_of_ne suits isChanging] at isEntry
    exact .inl isEntry

/-- An entry stays in its bucket, unless the step removes it. -/
theorem entry_goes
    (does : Does site request stage later next)
    (suits : stage.Suits site.index request)
    (isEntry : entry ∈ site.index.ownAt id priority) :
    entry ∈ later.index.ownAt id priority ∨
      ∃ listeners, stage = .changing ∧ request = .unregisterAll id listeners ∧
        entry.id ∈ listeners := by
  by_cases isChanging : stage = .changing
  · subst isChanging
    cases does with
    | add changed given listener => exact .inl (Index.mem_ownAt_add_of_mem isEntry)
    | takeOut changed listeners =>
        change entry ∈ (site.index.update _ _).ownAt id priority ∨ _
        rw [Index.ownAt_removeAll]
        split
        case isTrue same =>
          subst same
          by_cases removed : entry.id ∈ listeners
          · exact .inr ⟨listeners, rfl, rfl, removed⟩
          · exact .inl (List.mem_filter.mpr ⟨isEntry, by simpa using removed⟩)
        case isFalse => exact .inl isEntry
  · rw [does.ownAt_of_ne suits isChanging]
    exact .inl isEntry

/-- What a task adds is in the bucket. -/
theorem mem_of_register
    (does : Does site (.register id priority entry) .changing later next)
    (published : id < site.index.size) :
    entry ∈ later.index.ownAt id priority := by
  cases does
  exact Index.mem_ownAt_add_self published entry

/-- What a task takes out of a bucket has one of the identities that it was asked to remove. -/
theorem mem_of_mem_taken
    {ids : List ListenerId}
    {taken : List (Listener β)}
    {errands : List Errand}
    (does : Does site (.unregisterAll id ids) .changing later (.marking taken errands))
    (isTaken : entry ∈ taken) :
    entry.id ∈ ids := by
  cases does
  unfold Index.entriesWith at isTaken
  split at isTaken
  case h_1 node present => simpa using (List.mem_filter.mp isTaken).2
  case h_2 => cases isTaken

theorem not_mem_of_taken
    {ids : List ListenerId}
    (does : Does site (.unregisterAll id ids) .changing later next)
    (isListed : entry.id ∈ ids) :
    entry ∉ later.index.ownAt id priority := by
  cases does
  change entry ∉ (site.index.update _ _).ownAt id priority
  rw [Index.ownAt_removeAll, if_pos rfl]
  simp [isListed]

end Does

namespace Crowd

variable {crowd after : Crowd β} {id : Nat} {priority : Priority} {entry : Listener β}

theorem not_hasChanged
    {number : Nat}
    {request : Request β}
    (isChanging : crowd.tasks[number]? = some ⟨request, .changing⟩) :
    ¬ crowd.HasChanged number := by
  rintro ⟨task, isTask, hasChanged⟩
  rw [isChanging] at isTask
  cases isTask
  exact hasChanged rfl

theorem Step.entry_comes
    (step : Step crowd after)
    (sound : crowd.Sound)
    (isEntry : entry ∈ after.site.index.ownAt id priority) :
    entry ∈ crowd.site.index.ownAt id priority ∨
      ∃ adder : Nat, crowd.tasks[adder]? = some ⟨.register id priority entry, .changing⟩ := by
  cases step with
  | begin => exact .inl isEntry
  | @advance number task later next isTask advances =>
      obtain ⟨request, stage⟩ := task
      rcases (Does.of_advance advances).entry_comes (sound.suits isTask) isEntry with was |
        ⟨rfl, rfl⟩
      · exact .inl was
      · exact .inr ⟨number, isTask⟩

theorem Step.entry_goes
    (step : Step crowd after)
    (sound : crowd.Sound)
    (isEntry : entry ∈ crowd.site.index.ownAt id priority) :
    entry ∈ after.site.index.ownAt id priority ∨
      ∃ (remover : Nat) (ids : List ListenerId),
        crowd.tasks[remover]? = some ⟨.unregisterAll id ids, .changing⟩ ∧
          after.HasChanged remover ∧ entry.id ∈ ids := by
  cases step with
  | begin => exact .inl isEntry
  | @advance number task later next isTask advances =>
      obtain ⟨request, stage⟩ := task
      have does := Does.of_advance advances
      rcases does.entry_goes (sound.suits isTask) isEntry with stays | ⟨ids, rfl, rfl, isListed⟩
      · exact .inl stays
      · have inside := (List.getElem?_eq_some_iff.mp isTask).1
        exact .inr ⟨number, ids, isTask,
          ⟨_, List.getElem?_set_self inside, does.next_ne_changing⟩, isListed⟩

end Crowd

namespace History

variable {history : History β} {moment early late id : Nat} {priority : Priority}
  {entry : Listener β}

/-- An entry has been in its bucket at the moment before, or a task has added it since. -/
theorem entry_comes
    (isEntry : entry ∈ (history.indexAt (moment + 1)).ownAt id priority) :
    entry ∈ (history.indexAt moment).ownAt id priority ∨
      ∃ adder, history.taskAt? moment adder = some ⟨.register id priority entry, .changing⟩ := by
  rcases history.goesOn moment with same | step
  · rw [indexAt, same] at isEntry
    exact .inl isEntry
  · exact step.entry_comes (history.sound moment) isEntry

/-- An entry is in its bucket at the next moment, or a task has removed it. -/
theorem entry_goes
    (isEntry : entry ∈ (history.indexAt moment).ownAt id priority) :
    entry ∈ (history.indexAt (moment + 1)).ownAt id priority ∨
      ∃ remover ids, history.taskAt? moment remover = some ⟨.unregisterAll id ids, .changing⟩ ∧
        (history.crowdAt (moment + 1)).HasChanged remover ∧ entry.id ∈ ids := by
  rcases history.goesOn moment with same | step
  · rw [indexAt, same]
    exact .inl isEntry
  · exact step.entry_goes (history.sound moment) isEntry

/-- An entry that nobody begins to remove stays in its bucket. -/
theorem entry_stays
    (isLater : early ≤ late)
    (isEntry : entry ∈ (history.indexAt early).ownAt id priority)
    (done : ∀ {remover ids}, (history.crowdAt late).Asked remover (.unregisterAll id ids) →
      entry.id ∈ ids → (history.crowdAt late).HasChanged remover →
      (history.crowdAt early).HasChanged remover) :
    entry ∈ (history.indexAt late).ownAt id priority := by
  induction isLater with
  | refl => exact isEntry
  | @step middle isLater inductionHypothesis =>
      have goesOn := history.run (Nat.le_succ middle)
      have still := inductionHypothesis fun asked isListed changed =>
        done (goesOn.asked asked) isListed (goesOn.changed changed)
      rcases entry_goes still with stays | ⟨remover, ids, isChanging, changed, isListed⟩
      · exact stays
      · -- The removal would have changed the bucket before.
        have before := (history.run isLater).changed
          (done (goesOn.asked ⟨_, isChanging⟩) isListed changed)
        exact absurd before (Crowd.not_hasChanged isChanging)

/-- A removal that has left an entry in its bucket has changed the bucket before. -/
theorem hasChanged_of_entry
    (isEntry : entry ∈ (history.indexAt (moment + 1)).ownAt id priority)
    {remover : Nat}
    {ids : List ListenerId}
    (asked : (history.crowdAt (moment + 1)).Asked remover (.unregisterAll id ids))
    (isListed : entry.id ∈ ids)
    (changed : (history.crowdAt (moment + 1)).HasChanged remover) :
    (history.crowdAt moment).Asked remover (.unregisterAll id ids) ∧
      (history.crowdAt moment).HasChanged remover := by
  obtain ⟨stage, isTask⟩ := asked
  obtain ⟨task, isChanged, hasChanged⟩ := changed
  rw [isTask] at isChanged
  cases isChanged
  rcases task_back isTask with wasTask | ⟨before, wasTask, does⟩ | ⟨-, rfl, -⟩
  · exact ⟨⟨_, wasTask⟩, _, wasTask, hasChanged⟩
  · refine ⟨⟨_, wasTask⟩, _, wasTask, fun isChanging => ?_⟩
    cases isChanging
    exact does.not_mem_of_taken isListed isEntry
  · exact absurd rfl hasChanged

/-- Every entry has been added by a task, after all removals of it that have changed the bucket so
far. -/
theorem exists_adder
    (isEntry : entry ∈ (history.indexAt moment).ownAt id priority) :
    ∃ adder, (history.crowdAt moment).Asked adder (.register id priority entry) ∧
      ∀ {remover ids}, (history.crowdAt moment).Asked remover (.unregisterAll id ids) →
        entry.id ∈ ids → (history.crowdAt moment).HasChanged remover →
        history.Precedes remover adder := by
  induction moment with
  | zero =>
      rw [indexAt, history.starts] at isEntry
      cases isEntry
  | succ moment inductionHypothesis =>
      have goesOn := history.run (Nat.le_succ moment)
      rcases entry_comes isEntry with was | ⟨adder, isChanging⟩
      · obtain ⟨adder, added, after⟩ := inductionHypothesis was
        refine ⟨adder, goesOn.asked added, fun asked isListed changed => ?_⟩
        obtain ⟨wasAsked, wasChanged⟩ := hasChanged_of_entry isEntry asked isListed changed
        exact after wasAsked isListed wasChanged
      · refine ⟨adder, goesOn.asked ⟨_, isChanging⟩, fun asked isListed changed => ?_⟩
        exact ⟨moment, (hasChanged_of_entry isEntry asked isListed changed).2,
          Crowd.not_hasChanged isChanging⟩

/-- A removal takes out only what it was asked to remove. -/
theorem mem_of_mem_taken
    {remover : Nat}
    {ids : List ListenerId}
    {taken : List (Listener β)}
    {errands : List Errand}
    (isTask : history.taskAt? moment remover =
      some ⟨.unregisterAll id ids, .marking taken errands⟩)
    (isTaken : entry ∈ taken) :
    entry.id ∈ ids := by
  induction moment generalizing errands with
  | zero =>
      rw [taskAt?, history.starts] at isTask
      cases isTask
  | succ moment inductionHypothesis =>
      rcases task_back isTask with wasTask | ⟨before, wasTask, does⟩ | ⟨-, begins, -⟩
      · exact inductionHypothesis wasTask
      · rcases does.marking_back with rfl | ⟨left, rfl⟩
        · exact does.mem_of_mem_taken isTaken
        · exact inductionHypothesis wasTask
      · cases begins

end History
end EventRelay
