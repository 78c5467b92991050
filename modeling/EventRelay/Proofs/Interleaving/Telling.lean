import EventRelay.Proofs.Interleaving.Entries

/-!
# What nodes have been told

A task that has changed a bucket tells the node and everything below it. A node that is published
below one that has been told counts as told too, since its first array is still to be built.

While a task tells, an errand is left for each node without the news below one that has them. So
when it has returned, everything below the changed node has been told. From then on nothing is
told to a node without its generation being counted up.
-/

namespace EventRelay

variable {β : Type}

/-- What a change has taken out of a bucket shows that it has made a difference to the node. -/
inductive Request.Alters : Request β → List (Listener β) → Nat → Prop
  | add {id : Nat} {priority : Priority} {listener : Listener β} {taken : List (Listener β)} :
      Alters (.register id priority listener) taken id
  | takeOut {id : Nat} {ids : List ListenerId} {taken : List (Listener β)} :
      taken ≠ [] → Alters (.unregisterAll id ids) taken id

namespace Does

variable {site later : Site β} {request : Request β} {taken : List (Listener β)}
  {errands rest : List Errand} {id : Nat}

/-- Whoever has made a difference to a node begins with telling it. -/
theorem errands_of_alters
    (does : Does site request .changing later (.marking taken errands))
    (alters : request.Alters taken id) :
    errands = [.bump id] := by
  cases alters with
  | add =>
      cases does
      rfl
  | takeOut some =>
      cases does
      exact if_neg fun nothing => some (List.isEmpty_iff.mp nothing)

theorem errands_of_bump
    (does : Does site request (.marking taken (.bump id :: rest)) later (.marking taken errands)) :
    errands = .spread id :: rest := by
  cases does
  rfl

/-- Telling a node counts its generation up. -/
theorem generation_of_bump
    {next : Stage β}
    (does : Does site request (.marking taken (.bump id :: rest)) later next)
    {node : Node β}
    (present : site.index.node? id = some node) :
    later.index.node? id = some node.invalidate := by
  cases does
  change (site.index.update _ _).node? id = _
  rw [Index.node?_update, if_pos rfl, present]
  rfl

end Does

/-! ## What is still to be told -/

variable {index after : Index β} {told more : Nat → Prop} {root : Nat} {errands rest : List Errand}

/-- An errand concerns a node at or below the root. -/
def Errand.Leads (index : Index β) (told : Nat → Prop) (root : Nat) : Errand → Prop
  | .bump id => ∃ node, index.node? id = some node ∧
      (id = root ∨ ∃ parent, node.parent? = some parent ∧ told parent)
  | .spread id => told id
  | .visit id => ∃ parent above, index.node? parent = some above ∧ id ∈ above.children ∧
      told parent

/-- Every node below one that has been told has been told too, or an errand leads to it. -/
structure Spreads (index : Index β) (told : Nat → Prop) (root : Nat) (errands : List Errand) :
    Prop where
  begun : told root ∨ .bump root ∈ errands
  below : ∀ {id child node}, told id → index.node? child = some node → node.parent? = some id →
    told child ∨ .spread id ∈ errands ∨ .visit child ∈ errands ∨ .bump child ∈ errands
  leads : ∀ errand ∈ errands, errand.Leads index told root

theorem Errand.Leads.later
    {errand : Errand}
    (leads : errand.Leads index told root)
    (ages : index.Ages after)
    (keeps : ∀ {id}, told id → more id) :
    errand.Leads after more root := by
  cases errand with
  | bump id =>
      obtain ⟨node, present, from_⟩ := leads
      obtain ⟨next, isNext, aged⟩ := ages.node present
      refine ⟨next, isNext, from_.imp_right ?_⟩
      rintro ⟨parent, isAbove, isTold⟩
      exact ⟨parent, aged.parent.trans isAbove, keeps isTold⟩
  | spread id => exact keeps leads
  | visit id =>
      obtain ⟨parent, above, present, isChild, isTold⟩ := leads
      obtain ⟨next, isNext, aged⟩ := ages.node present
      exact ⟨parent, next, isNext, aged.children isChild, keeps isTold⟩

namespace Spreads

/-- Nodes have been published; those below told ones count as told. -/
theorem later
    (spreads : Spreads index told root errands)
    (ages : index.Ages after)
    (keeps : ∀ {id}, told id → more id)
    (only : ∀ {id}, more id → told id ∨ index.node? id = none)
    (nodes : ∀ {child node parent}, after.node? child = some node → node.parent? = some parent →
      parent < index.size ∧
        ((∃ before, index.node? child = some before ∧ before.parent? = some parent) ∨
          (told parent → more child))) :
    Spreads after more root errands where
  begun := spreads.begun.imp_left keeps
  below := by
    intro id child node isMore present isAbove
    obtain ⟨published, comes⟩ := nodes present isAbove
    obtain ⟨parent, isParent⟩ := Index.exists_node? published
    have isTold : told id := (only isMore).resolve_right (by simp [isParent])
    rcases comes with ⟨before, was, wasAbove⟩ | new
    · exact (spreads.below isTold was wasAbove).imp_left keeps
    · exact .inl (new isTold)
  leads errand isErrand := (spreads.leads errand isErrand).later ages keeps

/-- A node has been told. -/
theorem bump
    {id : Nat}
    (spreads : Spreads index told root (.bump id :: rest)) :
    Spreads index (fun other => told other ∨ other = id) root (.spread id :: rest) where
  begun := by
    rcases spreads.begun with isTold | isErrand
    · exact .inl (.inl isTold)
    · rcases List.mem_cons.mp isErrand with same | isLater
      · cases same
        exact .inl (.inr rfl)
      · exact .inr (List.mem_cons_of_mem _ isLater)
  below := by
    intro parent child node isTold present isAbove
    rcases isTold with isTold | rfl
    · have cases := spreads.below isTold present isAbove
      simp only [List.mem_cons, reduceCtorEq, false_or, Errand.bump.injEq] at cases ⊢
      tauto
    · exact .inr (.inl List.mem_cons_self)
  leads := by
    refine List.forall_mem_cons.mpr ⟨.inr rfl, fun errand isErrand => ?_⟩
    exact (spreads.leads errand (List.mem_cons_of_mem _ isErrand)).later (.refl index) .inl

/-- The children of a node have been read. -/
theorem spread
    {id : Nat}
    (spreads : Spreads index told root (.spread id :: rest))
    (listed : ∀ {id node parent}, index.node? id = some node → node.parent? = some parent →
      ∃ above, index.node? parent = some above ∧ id ∈ above.children) :
    Spreads index told root ((index.childrenOf id).map .visit ++ rest) where
  begun := spreads.begun.imp_right fun isErrand =>
    List.mem_append_right _ (by simpa using isErrand)
  below := by
    intro parent child node isTold present isAbove
    rcases spreads.below isTold present isAbove with done | isErrand | isErrand | isErrand
    · exact .inl done
    · rcases List.mem_cons.mp isErrand with same | isLater
      · cases same
        obtain ⟨above, isPresent, isChild⟩ := listed present isAbove
        refine .inr (.inr (.inl (List.mem_append_left _ (List.mem_map_of_mem ?_))))
        rwa [Index.childrenOf, isPresent]
      · exact .inr (.inl (List.mem_append_right _ isLater))
    · exact .inr (.inr (.inl (List.mem_append_right _ (by simpa using isErrand))))
    · exact .inr (.inr (.inr (List.mem_append_right _ (by simpa using isErrand))))
  leads := by
    intro errand isErrand
    rcases List.mem_append.mp isErrand with new | old
    · obtain ⟨child, isChild, rfl⟩ := List.mem_map.mp new
      rw [Index.childrenOf] at isChild
      split at isChild
      case h_1 above present =>
        exact ⟨id, above, present, isChild, spreads.leads _ List.mem_cons_self⟩
      case h_2 => cases isChild
    · exact spreads.leads errand (List.mem_cons_of_mem _ old)

/-- A child that is published has been looked up. -/
theorem visit
    {id : Nat}
    (spreads : Spreads index told root (.visit id :: rest))
    {announced : Nat → Prop}
    (shaped : index.Shaped announced)
    (published : id < index.size) :
    Spreads index told root (.bump id :: rest) where
  begun := spreads.begun.imp_right fun isErrand =>
    List.mem_cons_of_mem _ (by simpa using isErrand)
  below := by
    intro parent child node isTold present isAbove
    have cases := spreads.below isTold present isAbove
    simp only [List.mem_cons, reduceCtorEq, false_or, Errand.visit.injEq] at cases ⊢
    tauto
  leads := by
    refine List.forall_mem_cons.mpr ⟨?_, fun errand isErrand =>
      spreads.leads errand (List.mem_cons_of_mem _ isErrand)⟩
    obtain ⟨parent, above, present, isChild, isTold⟩ := spreads.leads _ List.mem_cons_self
    obtain ⟨node, isNode⟩ := Index.exists_node? published
    refine ⟨node, isNode, .inr ⟨parent, ?_, isTold⟩⟩
    rcases shaped.children present isChild with isLinked | ⟨isNext, -⟩
    · rw [isNode] at isLinked
      exact isLinked
    · omega

/-- A child that is not published needs no telling. -/
theorem pass
    {id : Nat}
    (spreads : Spreads index told root (.visit id :: rest))
    (beyond : index.size ≤ id) :
    Spreads index told root rest where
  begun := by simpa using spreads.begun
  below := by
    intro parent child node isTold present isAbove
    have differs : child ≠ id :=
      Nat.ne_of_lt (Nat.lt_of_lt_of_le (Index.node?_lt_size present) beyond)
    simpa [differs] using spreads.below isTold present isAbove
  leads errand isErrand := spreads.leads errand (List.mem_cons_of_mem _ isErrand)

/-- The task that tells takes a step. -/
theorem advance
    {site after : Site β}
    {request : Request β}
    {taken : List (Listener β)}
    {left : List Errand}
    (spreads : Spreads site.index told root left)
    (does : Does site request (.marking taken left) after (.marking taken errands))
    {announced : Nat → Prop}
    (shaped : site.index.Shaped announced) :
    Spreads site.index (fun id => told id ∨ ∃ rest, left = .bump id :: rest) root errands := by
  cases does with
  | bump id rest => simpa [eq_comm] using spreads.bump
  | spread id rest => simpa using spreads.spread shaped.listed
  | visit published => simpa using spreads.visit shaped published
  | pass beyond => simpa using spreads.pass beyond

/-- When there is nothing left to tell, everything below the root has been told. -/
theorem told_of_mem_lineage
    (spreads : Spreads index told root [])
    {announced : Nat → Prop}
    (shaped : index.Shaped announced)
    {id : Nat}
    (isBelow : root ∈ index.lineage id) :
    told id := by
  induction id using Nat.strongRecOn with
  | ind id inductionHypothesis =>
      cases present : index.node? id with
      | none =>
          rw [Index.lineage, present] at isBelow
          cases isBelow
      | some node =>
          rcases (shaped.mem_lineage_iff present).mp isBelow with rfl | ⟨parent, isAbove, higher⟩
          · exact spreads.begun.resolve_right List.not_mem_nil
          · have isTold := inductionHypothesis parent (shaped.parent_lt present isAbove) higher
            simpa using spreads.below isTold present isAbove

end Spreads

/-! ## Told nodes -/

namespace History

variable {history : History β} {teller moment early late id : Nat} {request : Request β}
  {taken : List (Listener β)}

/-- By a moment a node has been told of what a task has changed. -/
inductive Told (history : History β) (teller : Nat) : Nat → Nat → Prop
  | bump {moment id : Nat} {request : Request β} {taken : List (Listener β)}
      {rest : List Errand} :
      history.taskAt? moment teller = some ⟨request, .marking taken (.bump id :: rest)⟩ →
      history.taskAt? (moment + 1) teller = some ⟨request, .marking taken (.spread id :: rest)⟩ →
      history.Told teller (moment + 1) id
  | publish {moment id parent : Nat} {node : Node β} :
      history.Told teller moment parent →
      (history.indexAt moment).node? id = none →
      (history.indexAt (moment + 1)).node? id = some node → node.parent? = some parent →
      history.Told teller (moment + 1) id
  | still {moment id : Nat} :
      history.Told teller moment id → history.Told teller (moment + 1) id

/-- A task has changed the bucket of a node, so that it tells. -/
def Alters (history : History β) (teller root : Nat) : Prop :=
  ∃ (moment : Nat) (request : Request β) (taken : List (Listener β)) (errands : List Errand),
    history.taskAt? moment teller = some ⟨request, .marking taken errands⟩ ∧
      request.Alters taken root

namespace Told

theorem later
    (told : history.Told teller early id)
    (isLater : early ≤ late) :
    history.Told teller late id := by
  induction isLater with
  | refl => exact told
  | step _ inductionHypothesis => exact inductionHypothesis.still

/-- Nothing is told before the change. -/
theorem marking
    (told : history.Told teller moment id) :
    ∃ (request : Request β) (taken : List (Listener β)) (errands : List Errand),
      history.taskAt? moment teller = some ⟨request, .marking taken errands⟩ := by
  induction told with
  | bump _ isTask => exact ⟨_, _, _, isTask⟩
  | @publish moment _ _ _ _ _ _ _ inductionHypothesis
  | @still moment _ _ inductionHypothesis =>
      obtain ⟨request, taken, errands, isTask⟩ := inductionHypothesis
      obtain ⟨left, isLater⟩ := (history.run (Nat.le_succ moment)).taken isTask
      exact ⟨request, taken, left, isLater⟩

theorem hasChanged
    (told : history.Told teller moment id) :
    (history.crowdAt moment).HasChanged teller := by
  obtain ⟨request, taken, errands, isTask⟩ := told.marking
  exact Crowd.hasChanged_of_marking isTask

/-- How a node has come to be told at the last step. -/
theorem back
    (told : history.Told teller (moment + 1) id) :
    history.Told teller moment id ∨ (history.indexAt moment).node? id = none ∨
      ∃ (request : Request β) (taken : List (Listener β)) (rest : List Errand),
        history.taskAt? moment teller = some ⟨request, .marking taken (.bump id :: rest)⟩ ∧
          history.taskAt? (moment + 1) teller =
            some ⟨request, .marking taken (.spread id :: rest)⟩ := by
  cases told with
  | bump isTask isNext => exact .inr (.inr ⟨_, _, _, isTask, isNext⟩)
  | publish _ absent => exact .inr (.inl absent)
  | still told => exact .inl told

end Told

section Spreading

variable {root : Nat} {errands left : List Errand}

/-- A task that has just changed a bucket is about to tell the node. -/
theorem spreads_of_change
    (wasTask : history.taskAt? moment teller = some ⟨request, .changing⟩)
    (isTask : history.taskAt? (moment + 1) teller = some ⟨request, .marking taken [.bump root]⟩)
    (alters : request.Alters taken root) :
    Spreads (history.indexAt (moment + 1)) (history.Told teller (moment + 1)) root
      [.bump root] := by
  have untold {id : Nat} (told : history.Told teller moment id) : False :=
    Crowd.not_hasChanged wasTask told.hasChanged
  refine ⟨.inr (List.mem_singleton_self _), fun told => ?_, fun errand isErrand => ?_⟩
  · cases told with
    | bump isBump =>
        rw [wasTask] at isBump
        cases isBump
    | publish told => exact (untold told).elim
    | still told => exact (untold told).elim
  · cases List.mem_singleton.mp isErrand
    have published : root < (history.indexAt (moment + 1)).size := by
      have isFor := isFor isTask
      cases alters <;> exact isFor
    obtain ⟨node, present⟩ := Index.exists_node? published
    exact ⟨node, present, .inl rfl⟩

/-- The task that tells has not moved. -/
theorem spreads_still
    (spreads : Spreads (history.indexAt moment) (history.Told teller moment) root errands)
    (wasTask : history.taskAt? moment teller = some ⟨request, .marking taken errands⟩)
    (isTask : history.taskAt? (moment + 1) teller = some ⟨request, .marking taken errands⟩) :
    Spreads (history.indexAt (moment + 1)) (history.Told teller (moment + 1)) root errands := by
  refine spreads.later (history.ages (Nat.le_succ moment)) .still (fun told => ?_)
    fun present isAbove => ?_
  · rcases told.back with was | absent | ⟨_, _, rest, isBump, isSpread⟩
    · exact .inl was
    · exact .inr absent
    · rw [wasTask] at isBump
      rw [isTask] at isSpread
      cases isBump
      cases isSpread
  · rcases node_back present with ⟨before, was, aged⟩ | ⟨absent, published⟩
    · have wasAbove := aged.parent.symm.trans isAbove
      have lower := (history.sound moment).shaped.parent_lt_size was wasAbove
      exact ⟨lower, .inl ⟨before, was, wasAbove⟩⟩
    · exact ⟨published _ isAbove, .inr fun told => .publish told absent present isAbove⟩

/-- The task that tells has taken a step. -/
theorem spreads_advance
    (spreads : Spreads (history.indexAt moment) (history.Told teller moment) root left)
    (wasTask : history.taskAt? moment teller = some ⟨request, .marking taken left⟩)
    (isTask : history.taskAt? (moment + 1) teller = some ⟨request, .marking taken errands⟩)
    (does : Does (history.crowdAt moment).site request (.marking taken left)
      (history.crowdAt (moment + 1)).site (.marking taken errands)) :
    Spreads (history.indexAt (moment + 1)) (history.Told teller (moment + 1)) root errands := by
  have sound := history.sound moment
  refine (spreads.advance does sound.shaped).later (history.ages (Nat.le_succ moment)) ?_ ?_
    fun present isAbove => ?_
  · rintro id (told | ⟨rest, rfl⟩)
    · exact told.still
    · obtain rfl := does.errands_of_bump
      exact .bump wasTask isTask
  · intro id told
    rcases told.back with was | absent | ⟨_, _, rest, isBump, -⟩
    · exact .inl (.inl was)
    · exact .inr absent
    · rw [wasTask] at isBump
      cases isBump
      exact .inl (.inr ⟨rest, rfl⟩)
  · rcases does.node_cases (sound.suits wasTask) present with
      ⟨-, making, seen, isPublishing, -⟩ | ⟨before, was, aged, -⟩
    · cases isPublishing
    · have wasAbove := aged.parent.symm.trans isAbove
      exact ⟨sound.shaped.parent_lt_size was wasAbove, .inl ⟨before, was, wasAbove⟩⟩

/-- While a task tells, errands lead to the nodes that have to be told. -/
theorem spreads
    (isTask : history.taskAt? moment teller = some ⟨request, .marking taken errands⟩)
    (alters : request.Alters taken root) :
    Spreads (history.indexAt moment) (history.Told teller moment) root errands := by
  induction moment generalizing errands with
  | zero =>
      rw [taskAt?, history.starts] at isTask
      cases isTask
  | succ moment inductionHypothesis =>
      rcases task_back isTask with wasTask | ⟨before, wasTask, does⟩ | ⟨-, begins, -⟩
      · exact spreads_still (inductionHypothesis wasTask) wasTask isTask
      · rcases does.marking_back with rfl | ⟨left, rfl⟩
        · obtain rfl := does.errands_of_alters alters
          exact spreads_of_change wasTask isTask alters
        · exact spreads_advance (inductionHypothesis wasTask) wasTask isTask does
      · cases request <;> cases begins

/-- A task that has returned has told everything below the node that it has changed. -/
theorem told_of_returned
    (isReturned : history.taskAt? moment teller = some ⟨request, .marking taken []⟩)
    (alters : request.Alters taken root)
    (isBelow : root ∈ (history.indexAt moment).lineage id) :
    history.Told teller moment id :=
  (spreads isReturned alters).told_of_mem_lineage (history.sound moment).shaped isBelow

/-- What a task has taken out stays the same from its change on. -/
theorem marking_unique
    {other : Request β}
    {given : List (Listener β)}
    (first : history.taskAt? early teller = some ⟨request, .marking taken errands⟩)
    (second : history.taskAt? late teller = some ⟨other, .marking given left⟩) :
    request = other ∧ taken = given := by
  rcases Nat.le_total early late with isLater | isLater
  · obtain ⟨rest, isTask⟩ := (history.run isLater).taken first
    rw [taskAt?, isTask] at second
    cases second
    exact ⟨rfl, rfl⟩
  · obtain ⟨rest, isTask⟩ := (history.run isLater).taken second
    rw [taskAt?, isTask] at first
    cases first
    exact ⟨rfl, rfl⟩

/-- Where a node has been told, its parent has been told before, up to the node that has been
changed. -/
theorem Told.parent
    (told : history.Told teller moment id)
    (alters : history.Alters teller root) :
    id = root ∨ ∃ node parent, (history.indexAt moment).node? id = some node ∧
      node.parent? = some parent ∧ history.Told teller moment parent := by
  induction told with
  | @bump moment id request taken rest isTask isNext =>
      obtain ⟨other, request, taken, errands, isOther, alters⟩ := alters
      obtain ⟨rfl, rfl⟩ := marking_unique isTask isOther
      obtain ⟨node, present, isRoot | ⟨parent, isAbove, told⟩⟩ :=
        (spreads isTask alters).leads _ List.mem_cons_self
      · exact .inl isRoot
      · obtain ⟨after, isAfter, aged⟩ := (history.ages (Nat.le_succ moment)).node present
        exact .inr ⟨after, parent, isAfter, aged.parent.trans isAbove, told.still⟩
  | publish told _ present isAbove => exact .inr ⟨_, _, present, isAbove, told.still⟩
  | @still moment id _ inductionHypothesis =>
      refine inductionHypothesis.imp_right ?_
      rintro ⟨node, parent, present, isAbove, told⟩
      obtain ⟨after, isAfter, aged⟩ := (history.ages (Nat.le_succ moment)).node present
      exact ⟨after, parent, isAfter, aged.parent.trans isAbove, told.still⟩

/-- As long as its generation stays the same, a node is told nothing new. -/
theorem Told.of_generation_le
    (told : history.Told teller late id)
    (isLater : early ≤ late)
    {node after : Node β}
    (present : (history.indexAt early).node? id = some node)
    (isAfter : (history.indexAt late).node? id = some after)
    (atMost : after.generation ≤ node.generation) :
    history.Told teller early id := by
  induction isLater generalizing after with
  | refl => exact told
  | @step middle isLater inductionHypothesis =>
      obtain ⟨between, isBetween, aged⟩ := (history.ages isLater).node present
      obtain ⟨last, isLast, agedMore⟩ := (history.ages (Nat.le_succ middle)).node isBetween
      rw [isAfter] at isLast
      cases isLast
      rcases told.back with was | absent | ⟨_, _, rest, isBump, isSpread⟩
      · exact inductionHypothesis was isBetween (Nat.le_trans agedMore.generation atMost)
      · rw [isBetween] at absent
        cases absent
      · -- The generation would have been counted up.
        rcases task_back isSpread with same | ⟨before, wasTask, does⟩ | ⟨-, begins, -⟩
        · rw [isBump] at same
          cases same
        · rw [isBump] at wasTask
          cases wasTask
          have counted := does.generation_of_bump isBetween
          rw [isAfter] at counted
          cases counted
          have grown := Nat.le_trans atMost aged.generation
          exact absurd grown (Nat.not_succ_le_self _)
        · cases ‹Request β› <;> cases begins

end Spreading
end History
end EventRelay
