import EventRelay.Proofs.Interleaving.Nodes

/-!
# Making nodes one at a time

The task that makes a node is alone in doing so. What it has seen of the published nodes stays
true until it publishes its own, and so does what every task has been told about the node of its
kind.
-/

namespace EventRelay

variable {β : Type}

/-- The lowest of the kinds that wait for the node of a kind. -/
def lowestOf (kind : Kind) : List Kind → Kind
  | [] => kind
  | low :: waiting => lowestOf low waiting

/-- A node is being made for the kind that was asked for or for one above it. -/
def Making.IsFor (making : Making) (index : Index β) (request : Request β) : Prop :=
  request = .nodeFor (lowestOf making.kind making.waiting) ∧
    ∀ parent, making.parent? = some parent → parent < index.size

namespace Stage

/-- The task may make a node now. -/
def isMaking : Stage β → Bool
  | .checking _ => true
  | .linking _ _ => true
  | .publishing _ _ => true
  | _ => false

/-- The node that its parent already lists and that is not published yet. -/
def announced? : Stage β → Option Making
  | .publishing making _ => some making
  | _ => none

/-- What a task knows about the published nodes. -/
def Suits (index : Index β) (request : Request β) : Stage β → Prop
  | .seeking kind waiting => request = .nodeFor (lowestOf kind waiting)
  | .queuing making => making.IsFor index request
  | .checking making => making.IsFor index request
  | .linking making seen =>
      making.IsFor index request ∧ seen = index.snapshot ∧ index.lookup? making.kind.id = none
  | .publishing making seen =>
      making.IsFor index request ∧ seen = index.snapshot ∧
        index.lookup? making.kind.id = none ∧
        ∀ parent, making.parent? = some parent →
          ∃ above, index.node? parent = some above ∧ index.size ∈ above.children
  | .answered (.ok id) => ∃ kind, request = .nodeFor kind ∧ index.lookup? kind.id = some id
  | _ => True

theorem Suits.of_ages
    {index later : Index β}
    {request : Request β}
    {stage : Stage β}
    (suits : stage.Suits index request)
    (ages : index.Ages later)
    (still : stage.isMaking = true → later.snapshot = index.snapshot) :
    stage.Suits later request := by
  have isFor {making : Making} (before : making.IsFor index request) :
      making.IsFor later request :=
    ⟨before.1, fun parent isAbove => Nat.lt_of_lt_of_le (before.2 parent isAbove) ages.size_le⟩
  have absent {kindId : String} (same : later.snapshot = index.snapshot)
      (unknown : index.lookup? kindId = none) : later.lookup? kindId = none := by
    have sameSlots : later.slots = index.slots := congrArg Snapshot.slots same
    rw [Index.lookup?, sameSlots]
    exact unknown
  cases stage with
  | queuing making => exact isFor suits
  | checking making => exact isFor suits
  | linking making seen =>
      obtain ⟨before, seenThen, unknown⟩ := suits
      exact ⟨isFor before, seenThen.trans (still rfl).symm, absent (still rfl) unknown⟩
  | publishing making seen =>
      obtain ⟨before, seenThen, unknown, listed⟩ := suits
      have sameSize : later.size = index.size := congrArg Snapshot.size (still rfl)
      refine ⟨isFor before, seenThen.trans (still rfl).symm, absent (still rfl) unknown, ?_⟩
      intro parent isAbove
      obtain ⟨above, present, isChild⟩ := listed parent isAbove
      obtain ⟨after, isAfter, aged⟩ := ages.node present
      exact ⟨after, isAfter, sameSize ▸ aged.children isChild⟩
  | answered result =>
      cases result with
      | ok id =>
          obtain ⟨kind, asked, known⟩ := suits
          exact ⟨kind, asked, ages.lookup known⟩
      | error error => trivial
  | seeking kind waiting => exact suits
  | changing | marking | reading | read => trivial

/-- Handing the node of a kind over suits the kinds that wait for it. -/
theorem suits_handOver
    {index : Index β}
    {request : Request β}
    {kind : Kind}
    {waiting : List Kind}
    {id : Nat}
    (asked : request = .nodeFor (lowestOf kind waiting))
    (known : index.lookup? kind.id = some id)
    (published : id < index.size) :
    (handOver id waiting : Stage β).Suits index request := by
  cases waiting with
  | nil => exact ⟨kind, asked, known⟩
  | cons low rest =>
      refine ⟨asked, fun parent isAbove => ?_⟩
      cases isAbove
      exact published

theorem isMaking_handOver
    (id : Nat)
    (waiting : List Kind) :
    (handOver id waiting : Stage β).isMaking = false := by
  cases waiting <;> rfl

theorem isMaking_deliver
    (array : Flattened β)
    (below : List (Nat × Nat)) :
    (deliver array below).isMaking = false := by
  cases below <;> rfl

theorem isMaking_of_announced?
    {stage : Stage β}
    {making : Making}
    (announces : stage.announced? = some making) :
    stage.isMaking = true := by
  cases stage with
  | publishing => rfl
  | _ => cases announces

theorem announced?_eq_none
    {stage : Stage β}
    (idle : stage.isMaking = false) :
    stage.announced? = none := by
  cases announces : stage.announced? with
  | none => rfl
  | some making =>
      rw [isMaking_of_announced? announces] at idle
      cases idle

theorem suits_deliver
    (index : Index β)
    (request : Request β)
    (array : Flattened β)
    (below : List (Nat × Nat)) :
    (deliver array below).Suits index request := by
  cases below <;> trivial

end Stage

namespace Does

variable {site later : Site β} {request : Request β} {stage next : Stage β}

/-- A step that neither links nor publishes changes no link. -/
theorem frame_or
    (does : Does site request stage later next) :
    stage.announced? = none ∧ next.announced? = none ∧ later.index.frame = site.index.frame ∨
      (∃ making seen, stage = .linking making seen ∧ next = .publishing making seen ∧
        later.index = site.index.link making.parent? seen.size) ∨
      ∃ making seen, stage = .publishing making seen ∧
        later.index = site.index.publish seen making.kind making.parent? ∧
        next = .handOver seen.size making.waiting := by
  cases does with
  | add id priority listener =>
      exact .inl ⟨rfl, rfl, Index.frame_update (fun node => node.frame_add priority listener) _ id⟩
  | takeOut id listeners =>
      exact .inl ⟨rfl, rfl, Index.frame_update (fun node => node.frame_removeAll listeners) _ id⟩
  | bump id rest => exact .inl ⟨rfl, rfl, Index.frame_update Node.frame_invalidate _ id⟩
  | @store _ id below array =>
      have keeps (node : Node β) : ({ node with cache := array } : Node β).frame = node.frame := rfl
      exact .inl ⟨rfl, Stage.announced?_eq_none (Stage.isMaking_deliver ..),
        Index.frame_update keeps site.index id⟩
  | link => exact .inr (.inl ⟨_, _, rfl, rfl, rfl⟩)
  | publish => exact .inr (.inr ⟨_, _, rfl, rfl, rfl⟩)
  | find | leave => exact .inl ⟨rfl, Stage.announced?_eq_none (Stage.isMaking_handOver ..), rfl⟩
  | hit | hitLocked => exact .inl ⟨rfl, Stage.announced?_eq_none (Stage.isMaking_deliver ..), rfl⟩
  | _ => exact .inl ⟨rfl, rfl, rfl⟩

theorem ages
    (does : Does site request stage later next)
    (suits : stage.Suits site.index request) :
    site.index.Ages later.index := by
  cases does with
  | add id priority listener =>
      exact .update _ id fun _ => ⟨rfl, rfl, Nat.le_refl _, List.Subset.refl _⟩
  | takeOut id listeners =>
      exact .update _ id fun _ => ⟨rfl, rfl, Nat.le_refl _, List.Subset.refl _⟩
  | bump id rest =>
      exact .update _ id fun _ => ⟨rfl, rfl, Nat.le_succ _, List.Subset.refl _⟩
  | store => exact .update _ _ fun _ => ⟨rfl, rfl, Nat.le_refl _, List.Subset.refl _⟩
  | link => exact .link ..
  | publish =>
      obtain ⟨-, rfl, -⟩ := suits
      exact .publish ..
  | _ => exact .refl _

/-- Only the task whose turn it is publishes a node. -/
theorem snapshot_eq
    (does : Does site request stage later next)
    (idle : stage.isMaking = false) :
    later.index.snapshot = site.index.snapshot := by
  rcases does.frame_or with ⟨-, -, same⟩ | ⟨making, seen, rfl, -⟩ | ⟨making, seen, rfl, -⟩
  · exact Index.snapshot_of_frame_eq same
  · cases idle
  · cases idle

/-- Who makes nodes takes turns: a task has nothing to do with it, or it begins, or goes on, or
ends. -/
theorem turn
    (does : Does site request stage later next) :
    stage.isMaking = false ∧ next.isMaking = false ∧ later.finalizing = site.finalizing ∨
      stage.isMaking = false ∧ site.finalizing = false ∧ later.finalizing = true ∨
      stage.isMaking = true ∧ next.isMaking = true ∧ later.finalizing = site.finalizing ∨
      stage.isMaking = true ∧ next.isMaking = false := by
  cases does with
  | find => exact .inl ⟨rfl, Stage.isMaking_handOver .., rfl⟩
  | enter free => exact .inr (.inl ⟨rfl, free, rfl⟩)
  | remain | link => exact .inr (.inr (.inl ⟨rfl, rfl, rfl⟩))
  | leave | publish => exact .inr (.inr (.inr ⟨rfl, Stage.isMaking_handOver ..⟩))
  | hit | hitLocked | store => exact .inl ⟨rfl, Stage.isMaking_deliver .., rfl⟩
  | _ => exact .inl ⟨rfl, rfl, rfl⟩

/-- After its step a task still knows what it needs. -/
theorem suits
    (does : Does site request stage later next)
    (before : stage.Suits site.index request)
    {announced : Nat → Prop}
    (shaped : site.index.Shaped announced) :
    next.Suits later.index request := by
  cases does with
  | find known => exact Stage.suits_handOver before known (shaped.lt_size_of_lookup? known)
  | goUp => exact before
  | queue => exact ⟨before, nofun⟩
  | enter => exact before
  | leave known => exact Stage.suits_handOver before.1 known (shaped.lt_size_of_lookup? known)
  | remain absent => exact ⟨before, rfl, absent⟩
  | @link _ making seen =>
      obtain ⟨isFor, rfl, absent⟩ := before
      have sameSize : (site.index.link making.parent? site.index.snapshot.size).size =
          site.index.size := congrArg Snapshot.size (Index.snapshot_link ..)
      refine ⟨⟨isFor.1, fun parent isAbove => ?_⟩, (Index.snapshot_link ..).symm,
        (Index.lookup?_link ..).trans absent, fun parent isAbove => ?_⟩
      · exact sameSize.symm ▸ isFor.2 parent isAbove
      · obtain ⟨above, present⟩ := Index.exists_node? (isFor.2 parent isAbove)
        refine ⟨above.addChild site.index.size, ?_, ?_⟩
        · rw [Index.node?_link, if_pos isAbove, present]
          rfl
        · rw [sameSize]
          exact List.mem_append_right _ (List.mem_singleton_self _)
  | @publish _ making seen =>
      obtain ⟨isFor, rfl, absent, -⟩ := before
      refine Stage.suits_handOver isFor.1 ?_ ?_
      · exact Index.lookup?_publish_self absent _
      · rw [Index.size_publish]
        exact Nat.lt_succ_self _
  | hit | hitLocked | store => exact Stage.suits_deliver ..
  | _ => trivial

/-- Where a node comes from: it has just been published, or it was there before the step. Only
storing touches its cache, and only a change of a bucket touches its buckets. -/
theorem node_cases
    (does : Does site request stage later next)
    (suits : stage.Suits site.index request)
    {id : Nat}
    {node : Node β}
    (present : later.index.node? id = some node) :
    (id = site.index.size ∧ ∃ making seen, stage = .publishing making seen ∧
      node = site.index.newNode making.kind making.parent?) ∨
      ∃ before, site.index.node? id = some before ∧ Index.NodeAges before node ∧
        (node.cache = before.cache ∨ ∃ below, stage = .reading id (.storing node.cache) below) ∧
        (node.buckets = before.buckets ∨ stage = .changing) := by
  have same (was : site.index.node? id = some node) :
      ∃ before, site.index.node? id = some before ∧ Index.NodeAges before node ∧
        (node.cache = before.cache ∨ ∃ below, stage = .reading id (.storing node.cache) below) ∧
        (node.buckets = before.buckets ∨ stage = .changing) :=
    ⟨node, was, .refl node, .inl rfl, .inl rfl⟩
  cases does with
  | add other priority listener =>
      refine .inr ?_
      change (site.index.update _ _).node? id = _ at present
      rw [Index.node?_update] at present
      split at present
      case isTrue =>
        obtain ⟨before, was, rfl⟩ := Option.map_eq_some_iff.mp present
        exact ⟨before, was, ⟨rfl, rfl, Nat.le_refl _, List.Subset.refl _⟩, .inl rfl, .inr rfl⟩
      case isFalse => exact same present
  | takeOut other listeners =>
      refine .inr ?_
      change (site.index.update _ _).node? id = _ at present
      rw [Index.node?_update] at present
      split at present
      case isTrue =>
        obtain ⟨before, was, rfl⟩ := Option.map_eq_some_iff.mp present
        exact ⟨before, was, ⟨rfl, rfl, Nat.le_refl _, List.Subset.refl _⟩, .inl rfl, .inr rfl⟩
      case isFalse => exact same present
  | bump other rest =>
      refine .inr ?_
      change (site.index.update _ _).node? id = _ at present
      rw [Index.node?_update] at present
      split at present
      case isTrue =>
        obtain ⟨before, was, rfl⟩ := Option.map_eq_some_iff.mp present
        exact ⟨before, was, ⟨rfl, rfl, Nat.le_succ _, List.Subset.refl _⟩, .inl rfl, .inl rfl⟩
      case isFalse => exact same present
  | link =>
      refine .inr ?_
      change (site.index.link _ _).node? id = _ at present
      rw [Index.node?_link] at present
      split at present
      case isTrue =>
        obtain ⟨before, was, rfl⟩ := Option.map_eq_some_iff.mp present
        exact ⟨before, was, ⟨rfl, rfl, Nat.le_refl _, List.subset_append_left _ _⟩, .inl rfl,
          .inl rfl⟩
      case isFalse => exact same present
  | publish =>
      obtain ⟨-, rfl, -⟩ := suits
      change (site.index.publish _ _ _).node? id = _ at present
      rw [Index.node?_publish] at present
      split at present
      case isTrue new =>
        cases present
        exact .inl ⟨new, _, _, rfl, rfl⟩
      case isFalse => exact .inr (same present)
  | @store _ other below array =>
      refine .inr ?_
      change (site.index.update _ _).node? id = _ at present
      rw [Index.node?_update] at present
      split at present
      case isTrue here =>
        subst here
        obtain ⟨before, was, rfl⟩ := Option.map_eq_some_iff.mp present
        exact ⟨before, was, ⟨rfl, rfl, Nat.le_refl _, List.Subset.refl _⟩, .inr ⟨below, rfl⟩,
          .inl rfl⟩
      case isFalse => exact same present
  | _ => exact .inr (same present)

end Does

namespace Crowd

/-- A node already lists the child that is about to be published. -/
def Announces (crowd : Crowd β) (id : Nat) : Prop :=
  ∃ (number : Nat) (request : Request β) (making : Making) (seen : Snapshot),
    crowd.tasks[number]? = some ⟨request, .publishing making seen⟩ ∧ making.parent? = some id

/-- What holds of the nodes and of the tasks that ask for them. -/
structure Sound (crowd : Crowd β) : Prop where
  shaped : crowd.site.index.Shaped crowd.Announces
  /-- One task at a time makes a node. -/
  alone : ∀ {first second : Nat} {one other : Task β}, crowd.tasks[first]? = some one →
    crowd.tasks[second]? = some other → one.stage.isMaking = true →
    other.stage.isMaking = true → first = second
  finalizing : ∀ {number : Nat} {task : Task β}, crowd.tasks[number]? = some task →
    task.stage.isMaking = true → crowd.site.finalizing = true
  suits : ∀ {number : Nat} {task : Task β}, crowd.tasks[number]? = some task →
    task.stage.Suits crowd.site.index task.request

/-- A task after a step is the one that took it, or it is where it was. -/
theorem task_of_set
    {tasks : List (Task β)}
    {number other : Nat}
    {changed task : Task β}
    (isTask : (tasks.set number changed)[other]? = some task) :
    other = number ∧ task = changed ∨ other ≠ number ∧ tasks[other]? = some task := by
  rw [List.getElem?_set] at isTask
  split at isTask
  case isTrue same =>
    split at isTask
    case isTrue => exact .inl ⟨same.symm, (Option.some.inj isTask).symm⟩
    case isFalse => cases isTask
  case isFalse differs => exact .inr ⟨fun same => differs same.symm, isTask⟩

theorem task_of_append
    {tasks : List (Task β)}
    {number : Nat}
    {new task : Task β}
    (isTask : (tasks ++ [new])[number]? = some task) :
    tasks[number]? = some task ∨ number = tasks.length ∧ task = new := by
  grind

theorem getElem?_of_append
    {tasks : List (Task β)}
    {number : Nat}
    {task : Task β}
    (isTask : tasks[number]? = some task)
    (more : List (Task β)) :
    (tasks ++ more)[number]? = some task := by
  rw [List.getElem?_append_left (List.getElem?_eq_some_iff.mp isTask).1]
  exact isTask

namespace Sound

variable {crowd : Crowd β}

theorem empty (tracksPhases : Bool) : (Crowd.empty tracksPhases : Crowd β).Sound where
  shaped := .empty tracksPhases
  alone := nofun
  finalizing := nofun
  suits := nofun

theorem begin
    (sound : crowd.Sound)
    (request : Request β) :
    Sound ⟨crowd.site, crowd.tasks ++ [⟨request, request.firstStage⟩]⟩ := by
  have idle : request.firstStage.isMaking = false := by cases request <;> rfl
  have suits : request.firstStage.Suits crowd.site.index request := by
    cases request with
    | nodeFor kind => rfl
    | _ => trivial
  have old {number : Nat} {task : Task β}
      (isTask : (crowd.tasks ++ [⟨request, request.firstStage⟩])[number]? = some task)
      (isMaking : task.stage.isMaking = true) : crowd.tasks[number]? = some task := by
    rcases task_of_append isTask with isOld | ⟨-, rfl⟩
    · exact isOld
    · rw [idle] at isMaking
      cases isMaking
  constructor
  case shaped =>
    refine sound.shaped.mono ?_
    rintro id ⟨number, request, making, seen, isTask, isAbove⟩
    exact ⟨number, request, making, seen, getElem?_of_append isTask _, isAbove⟩
  case alone =>
    intro first second one other isOne isOther making makingToo
    exact sound.alone (old isOne making) (old isOther makingToo) making makingToo
  case finalizing =>
    intro number task isTask making
    exact sound.finalizing (old isTask making) making
  case suits =>
    intro number task isTask
    rcases task_of_append isTask with isOld | ⟨-, rfl⟩
    · exact sound.suits isOld
    · exact suits

section Advancing

variable {number : Nat} {request : Request β} {stage next : Stage β} {later : Site β}

/-- The links after a step. -/
theorem shaped_advance
    (sound : crowd.Sound)
    (isTask : crowd.tasks[number]? = some ⟨request, stage⟩)
    (does : Does crowd.site request stage later next) :
    later.index.Shaped (Announces ⟨later, crowd.tasks.set number ⟨request, next⟩⟩) := by
  have inside : number < crowd.tasks.length := (List.getElem?_eq_some_iff.mp isTask).1
  have keeps (quiet : stage.announced? = none) (id : Nat)
      (announces : crowd.Announces id) :
      Announces ⟨later, crowd.tasks.set number ⟨request, next⟩⟩ id := by
    obtain ⟨other, asked, making, seen, isOther, isAbove⟩ := announces
    have differs : number ≠ other := by
      rintro rfl
      rw [isTask] at isOther
      cases isOther
      cases quiet
    exact ⟨other, asked, making, seen, (List.getElem?_set_ne differs).trans isOther, isAbove⟩
  rcases does.frame_or with ⟨quiet, -, same⟩ | ⟨making, seen, rfl, rfl, linked⟩ |
    ⟨making, seen, rfl, published, -⟩
  · exact (sound.shaped.mono (keeps quiet)).of_frame_eq same
  · obtain ⟨-, rfl, -⟩ := sound.suits isTask
    rw [linked]
    refine (sound.shaped.link making.parent?).mono ?_
    rintro id (announced | isAbove)
    · exact keeps rfl id announced
    · exact ⟨number, request, making, _, List.getElem?_set_self inside, isAbove⟩
  · obtain ⟨-, rfl, absent, listed⟩ := sound.suits isTask
    rw [published]
    refine sound.shaped.publish ?_ absent listed _
    rintro id ⟨other, asked, othersMaking, seen, isOther, isAbove⟩
    obtain rfl := sound.alone isTask isOther rfl rfl
    rw [isTask] at isOther
    cases isOther
    exact isAbove

theorem advance
    (sound : crowd.Sound)
    (isTask : crowd.tasks[number]? = some ⟨request, stage⟩)
    (does : Does crowd.site request stage later next) :
    Sound ⟨later, crowd.tasks.set number ⟨request, next⟩⟩ := by
  have ages := does.ages (sound.suits isTask)
  -- Nobody else makes a node while the task does so or begins to.
  have others {other : Nat} {task : Task β} (isOther : crowd.tasks[other]? = some task)
      (differs : other ≠ number) (making : task.stage.isMaking = true) :
      stage.isMaking = false ∧ next.isMaking = false ∧
        later.finalizing = crowd.site.finalizing := by
    have taken := sound.finalizing isOther making
    rcases does.turn with idle | ⟨-, free, -⟩ | ⟨mine, -⟩ | ⟨mine, -⟩
    · exact idle
    · rw [free] at taken
      cases taken
    · exact absurd (sound.alone isOther isTask making mine) differs
    · exact absurd (sound.alone isOther isTask making mine) differs
  constructor
  case shaped => exact sound.shaped_advance isTask does
  case alone =>
    intro first second one other isOne isOther making makingToo
    rcases task_of_set isOne with ⟨rfl, rfl⟩ | ⟨differs, wasOne⟩
    · rcases task_of_set isOther with ⟨rfl, -⟩ | ⟨differs, wasOther⟩
      · rfl
      · rw [(others wasOther differs makingToo).2.1] at making
        cases making
    · rcases task_of_set isOther with ⟨rfl, rfl⟩ | ⟨-, wasOther⟩
      · rw [(others wasOne differs making).2.1] at makingToo
        cases makingToo
      · exact sound.alone wasOne wasOther making makingToo
  case finalizing =>
    intro other task isOther making
    rcases task_of_set isOther with ⟨rfl, rfl⟩ | ⟨differs, wasOther⟩
    · rcases does.turn with ⟨-, idle, -⟩ | ⟨-, -, taken⟩ | ⟨mine, -, kept⟩ | ⟨-, idle⟩
      · rw [idle] at making
        cases making
      · exact taken
      · exact kept.trans (sound.finalizing isTask mine)
      · rw [idle] at making
        cases making
    · exact (others wasOther differs making).2.2.trans (sound.finalizing wasOther making)
  case suits =>
    intro other task isOther
    rcases task_of_set isOther with ⟨rfl, rfl⟩ | ⟨differs, wasOther⟩
    · exact does.suits (sound.suits isTask) sound.shaped
    · exact (sound.suits wasOther).of_ages ages fun making =>
        does.snapshot_eq (others wasOther differs making).1

end Advancing

theorem step
    {after : Crowd β}
    (sound : crowd.Sound)
    (step : Step crowd after) :
    after.Sound := by
  cases step with
  | begin request => exact sound.begin _
  | advance isTask advances => exact sound.advance isTask (.of_advance advances)

theorem run
    {after : Crowd β}
    (sound : crowd.Sound)
    (run : Run crowd after) :
    after.Sound := by
  induction run with
  | refl => exact sound
  | tail _ last inductionHypothesis => exact inductionHypothesis.step last

end Sound

theorem Reachable.sound
    {crowd : Crowd β}
    (reachable : crowd.Reachable) :
    crowd.Sound := by
  obtain ⟨tracksPhases, run⟩ := reachable
  exact (Sound.empty tracksPhases).run run

end Crowd
end EventRelay
