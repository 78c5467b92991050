import EventRelay.Proofs.Hierarchy.UnderWay
import EventRelay.Proofs.Interleaving.Making

/-!
# The tree that tasks have built

However tasks are interleaved, the nodes that are published at a moment are those that operations
make one after the other, and besides them at most the next one is listed as a child. For a task
makes a node only below the node of the parent kind, which it has been given before, and only
after it has found nothing wrong with the kinds above.
-/

namespace EventRelay

variable {β : Type}

namespace Index

/-- What linking adds to a frame depends on the frame alone. -/
theorem frame_link
    {first second : Index β}
    (sameFrame : first.frame = second.frame)
    (parent? : Option Nat)
    (child : Nat) :
    (first.link parent? child).frame = (second.link parent? child).frame := by
  cases parent? with
  | none => exact sameFrame
  | some parent =>
      have adds (node? : Option (Node β)) :
          (node?.map fun node => node.addChild child).map Node.frame =
            (node?.map Node.frame).map fun (id, kind, above?, info, children) =>
              (id, kind, above?, info, children ++ [child]) := by
        rw [Option.map_map, Option.map_map]
        rfl
      have sameNodes : (first.link (some parent) child).nodes.map Node.frame =
          (second.link (some parent) child).nodes.map Node.frame := by
        refine List.ext_getElem? fun id => ?_
        rw [List.getElem?_map, List.getElem?_map, ← node?, ← node?, node?_link, node?_link]
        split
        case isTrue => rw [adds, adds, frame_node? sameFrame]
        case isFalse => exact frame_node? sameFrame id
      have sameTracking : first.tracksPhases = second.tracksPhases :=
        tracksPhases_of_frame_eq sameFrame
      have sameSlots : first.slots = second.slots := congrArg (fun frame => frame.2.1) sameFrame
      exact Prod.ext sameTracking (Prod.ext sameSlots sameNodes)

/-- What publishing adds to a frame depends on the frame alone. -/
theorem frame_publish
    {first second : Index β}
    (sameFrame : first.frame = second.frame)
    (seen : Snapshot)
    (kind : Kind)
    (parent? : Option Nat) :
    (first.publish seen kind parent?).frame = (second.publish seen kind parent?).frame := by
  have sameTracking := tracksPhases_of_frame_eq sameFrame
  have sameNodes : first.nodes.map Node.frame = second.nodes.map Node.frame :=
    congrArg (fun frame => frame.2.2) sameFrame
  have sameInfo : (parent?.bind first.node?).map Node.info =
      (parent?.bind second.node?).map Node.info := by
    cases parent? with
    | none => rfl
    | some parent =>
        have sameEntry := congrArg (Option.map fun frame => frame.2.2.2.1)
          (frame_node? sameFrame parent)
        rw [Option.map_map, Option.map_map] at sameEntry
        exact sameEntry
  simp only [frame, publish, sameTracking, sameInfo, List.map_append, List.map_take, sameNodes]

end Index

/-! ## Who waits for whose node -/

/-- Each kind waits for the node of the one before it, which is its parent and below which it may
stand. -/
def AwaitEachOther (kind : Kind) : List Kind → Prop
  | [] => True
  | low :: waiting =>
      (∃ own, low = .child own kind) ∧ Index.brokenAncestor? kind = none ∧
        AwaitEachOther low waiting

/-- The node is to be made where a single operation makes it. -/
inductive Making.Grounded (index : Index β) : Making → Prop
  | root (own : Descriptor) {waiting : List Kind} :
      AwaitEachOther (.root own) waiting → Grounded index ⟨.root own, none, waiting⟩
  | child (own : Descriptor) {parent : Kind} {id : Nat} {waiting : List Kind} :
      Index.brokenAncestor? parent = none → index.lookup? parent.id = some id →
      AwaitEachOther (.child own parent) waiting →
      Grounded index ⟨.child own parent, some id, waiting⟩

namespace Making.Grounded

variable {index : Index β} {making : Making}

theorem waiting
    (grounded : making.Grounded index) :
    AwaitEachOther making.kind making.waiting := by
  cases grounded with
  | root own awaiting => exact awaiting
  | child own sound known awaiting => exact awaiting

theorem mono
    (grounded : making.Grounded index)
    {other : Index β}
    (keeps : ∀ {kindId id}, index.lookup? kindId = some id → other.lookup? kindId = some id) :
    making.Grounded other := by
  cases grounded with
  | root own awaiting => exact .root own awaiting
  | child own sound known awaiting => exact .child own sound (keeps known) awaiting

theorem nodeFor_eq
    (grounded : making.Grounded index)
    (absent : index.lookup? making.kind.id = none) :
    index.nodeFor making.kind = .ok (index.insert making.kind making.parent?) := by
  cases grounded with
  | root own awaiting =>
      change index.lookup? own.id = none at absent
      simp only [Index.nodeFor, absent]
  | child own sound known awaiting => exact Index.nodeFor_child absent sound known

end Making.Grounded

namespace Stage

/-- Nodes are to be made where a single operation makes them. -/
def Grounded (index : Index β) : Stage β → Prop
  | .seeking kind waiting => AwaitEachOther kind waiting
  | .queuing making => making.Grounded index
  | .checking making => making.Grounded index
  | .linking making _ => making.Grounded index
  | .publishing making _ => making.Grounded index
  | _ => True

theorem Grounded.of_ages
    {index later : Index β}
    {stage : Stage β}
    (grounded : stage.Grounded index)
    (ages : index.Ages later) :
    stage.Grounded later := by
  cases stage with
  | seeking => exact grounded
  | queuing | checking | linking | publishing => exact Making.Grounded.mono grounded ages.lookup
  | changing | marking | answered | reading | read => trivial

theorem grounded_handOver
    {index : Index β}
    {kind : Kind}
    {waiting : List Kind}
    {id : Nat}
    (awaiting : AwaitEachOther kind waiting)
    (known : index.lookup? kind.id = some id) :
    (handOver id waiting : Stage β).Grounded index := by
  cases waiting with
  | nil => trivial
  | cons low rest =>
      obtain ⟨⟨own, rfl⟩, sound, others⟩ := awaiting
      exact .child own sound known others

theorem grounded_deliver
    (index : Index β)
    (array : Flattened β)
    (below : List (Nat × Nat)) :
    (deliver array below).Grounded index := by
  cases below <;> trivial

end Stage

theorem Does.grounded
    {site later : Site β}
    {request : Request β}
    {stage next : Stage β}
    (does : Does site request stage later next)
    (before : stage.Grounded site.index)
    (suits : stage.Suits site.index request) :
    next.Grounded later.index := by
  cases does with
  | find known => exact Stage.grounded_handOver before known
  | goUp sound => exact ⟨⟨_, rfl⟩, sound, before⟩
  | queue => exact .root _ before
  | enter | remain => exact before
  | leave known => exact Stage.grounded_handOver before.waiting known
  | link => exact Making.Grounded.mono before (Index.Ages.link ..).lookup
  | publish =>
      obtain ⟨-, rfl, absent, -⟩ := suits
      exact Stage.grounded_handOver before.waiting (Index.lookup?_publish_self absent _)
  | hit | hitLocked | store => exact Stage.grounded_deliver ..
  | _ => trivial

/-! ## What tasks have built -/

namespace Crowd

/-- The nodes are those of an index that operations have brought about one after the other. A
child is listed besides them while a task is about to publish it. -/
structure StandsOn (crowd : Crowd β) (settled : Index β) : Prop where
  reachable : settled.Reachable
  quiet : (∀ {number : Nat} {task : Task β}, crowd.tasks[number]? = some task →
    task.stage.announced? = none) → crowd.site.index.frame = settled.frame
  announced : ∀ {number : Nat} {task : Task β} {making : Making},
    crowd.tasks[number]? = some task → task.stage.announced? = some making →
    crowd.site.index.frame = (settled.link making.parent? settled.size).frame
  grounded : ∀ {number : Nat} {task : Task β}, crowd.tasks[number]? = some task →
    task.stage.Grounded crowd.site.index

namespace StandsOn

variable {crowd : Crowd β} {settled : Index β}

theorem empty (tracksPhases : Bool) :
    (Crowd.empty tracksPhases : Crowd β).StandsOn (.empty tracksPhases) where
  reachable := .new tracksPhases
  quiet _ := rfl
  announced := nofun
  grounded := nofun

theorem underWay
    (stands : crowd.StandsOn settled) :
    settled.UnderWay crowd.site.index := by
  by_cases quiet : ∀ (number : Nat) (task : Task β), crowd.tasks[number]? = some task →
      task.stage.announced? = none
  · exact (Index.UnderWay.refl settled).of_frame_eq (stands.quiet (quiet _ _))
  · push Not at quiet
    obtain ⟨number, task, isTask, announces⟩ := quiet
    obtain ⟨making, isAnnounced⟩ := Option.ne_none_iff_exists'.mp announces
    exact ⟨making.parent?, stands.announced isTask isAnnounced⟩

theorem begin
    (stands : crowd.StandsOn settled)
    (request : Request β) :
    StandsOn ⟨crowd.site, crowd.tasks ++ [⟨request, request.firstStage⟩]⟩ settled := by
  have silent : request.firstStage.announced? = none := by cases request <;> rfl
  constructor
  case reachable => exact stands.reachable
  case quiet =>
    exact fun quiet => stands.quiet fun isTask => quiet (getElem?_of_append isTask _)
  case announced =>
    intro number task making isTask announces
    rcases task_of_append isTask with isOld | ⟨-, rfl⟩
    · exact stands.announced isOld announces
    · rw [silent] at announces
      cases announces
  case grounded =>
    intro number task isTask
    rcases task_of_append isTask with isOld | ⟨-, rfl⟩
    · exact stands.grounded isOld
    · cases request <;> trivial

section Advancing

variable {number : Nat} {request : Request β} {stage next : Stage β} {later : Site β}
  {making : Making} {seen : Snapshot}

theorem grounded_advance
    (stands : crowd.StandsOn settled)
    (sound : crowd.Sound)
    (isTask : crowd.tasks[number]? = some ⟨request, stage⟩)
    (does : Does crowd.site request stage later next)
    {other : Nat}
    {task : Task β}
    (isOther : (crowd.tasks.set number ⟨request, next⟩)[other]? = some task) :
    task.stage.Grounded later.index := by
  rcases task_of_set isOther with ⟨rfl, rfl⟩ | ⟨-, wasOther⟩
  · exact does.grounded (stands.grounded isTask) (sound.suits isTask)
  · exact (stands.grounded wasOther).of_ages (does.ages (sound.suits isTask))

/-- A step changes no link, and what is announced stays announced. -/
theorem stays
    (stands : crowd.StandsOn settled)
    (sound : crowd.Sound)
    (isTask : crowd.tasks[number]? = some ⟨request, stage⟩)
    (does : Does crowd.site request stage later next)
    (silent : stage.announced? = none)
    (silentNext : next.announced? = none)
    (sameFrame : later.index.frame = crowd.site.index.frame) :
    StandsOn ⟨later, crowd.tasks.set number ⟨request, next⟩⟩ settled where
  reachable := stands.reachable
  quiet := by
    intro quiet
    refine sameFrame.trans (stands.quiet fun {other task} isOther => ?_)
    by_cases here : other = number
    · subst here
      rw [isTask] at isOther
      cases isOther
      exact silent
    · exact quiet ((List.getElem?_set_ne (Ne.symm here)).trans isOther)
  announced := by
    intro other task making isOther announces
    rcases task_of_set isOther with ⟨-, rfl⟩ | ⟨-, wasOther⟩
    · rw [silentNext] at announces
      cases announces
    · exact sameFrame.trans (stands.announced wasOther announces)
  grounded := stands.grounded_advance sound isTask does

/-- The next node is announced while no other one is. -/
theorem links
    (stands : crowd.StandsOn settled)
    (sound : crowd.Sound)
    (isTask : crowd.tasks[number]? = some ⟨request, .linking making seen⟩)
    (does : Does crowd.site request (.linking making seen) later (.publishing making seen))
    (linked : later.index = crowd.site.index.link making.parent? seen.size) :
    StandsOn ⟨later, crowd.tasks.set number ⟨request, .publishing making seen⟩⟩ settled := by
  obtain ⟨-, rfl, -⟩ := sound.suits isTask
  have wasQuiet : crowd.site.index.frame = settled.frame := by
    refine stands.quiet fun {other task} isOther => ?_
    cases announces : task.stage.announced? with
    | none => rfl
    | some others =>
        obtain rfl := sound.alone isTask isOther rfl (Stage.isMaking_of_announced? announces)
        rw [isTask] at isOther
        cases isOther
        cases announces
  have sameFrame : later.index.frame = (settled.link making.parent? settled.size).frame := by
    rw [linked, Index.snapshot, Index.size_of_frame_eq wasQuiet]
    exact Index.frame_link wasQuiet _ _
  constructor
  case reachable => exact stands.reachable
  case quiet =>
    intro quiet
    cases quiet (List.getElem?_set_self (List.getElem?_eq_some_iff.mp isTask).1)
  case announced =>
    intro other task others isOther announces
    rcases task_of_set isOther with ⟨-, rfl⟩ | ⟨differs, wasOther⟩
    · cases announces
      exact sameFrame
    · exact absurd (sound.alone wasOther isTask (Stage.isMaking_of_announced? announces) rfl)
        differs
  case grounded => exact stands.grounded_advance sound isTask does

/-- What is published is the node that a single operation makes. -/
theorem publishes
    (stands : crowd.StandsOn settled)
    (sound : crowd.Sound)
    (isTask : crowd.tasks[number]? = some ⟨request, .publishing making seen⟩)
    (does : Does crowd.site request (.publishing making seen) later
      (.handOver seen.size making.waiting))
    (published : later.index = crowd.site.index.publish seen making.kind making.parent?) :
    StandsOn ⟨later, crowd.tasks.set number ⟨request, .handOver seen.size making.waiting⟩⟩
      (settled.insert making.kind making.parent?).1 := by
  obtain ⟨-, rfl, absent, -⟩ := sound.suits isTask
  have wasLinked := stands.announced isTask rfl
  have sameLookup (kindId : String) :
      crowd.site.index.lookup? kindId = settled.lookup? kindId :=
    (Index.lookup?_of_frame_eq wasLinked kindId).trans (Index.lookup?_link ..)
  have sameSnapshot : crowd.site.index.snapshot = settled.snapshot := by
    rw [Index.snapshot_of_frame_eq wasLinked, Index.snapshot_link]
  have grounded : making.Grounded settled :=
    Making.Grounded.mono (stands.grounded isTask) fun known => sameLookup _ ▸ known
  constructor
  case reachable =>
    exact .nodeFor stands.reachable (grounded.nodeFor_eq (sameLookup _ ▸ absent))
  case quiet =>
    intro _
    change later.index.frame = _
    rw [published, sameSnapshot, Index.frame_publish wasLinked, Index.publish_link]
  case announced =>
    intro other task others isOther announces
    rcases task_of_set isOther with ⟨-, rfl⟩ | ⟨differs, wasOther⟩
    · rw [Stage.announced?_eq_none (Stage.isMaking_handOver ..)] at announces
      cases announces
    · exact absurd (sound.alone wasOther isTask (Stage.isMaking_of_announced? announces) rfl)
        differs
  case grounded => exact stands.grounded_advance sound isTask does

theorem advance
    (stands : crowd.StandsOn settled)
    (sound : crowd.Sound)
    (isTask : crowd.tasks[number]? = some ⟨request, stage⟩)
    (does : Does crowd.site request stage later next) :
    ∃ settled', StandsOn ⟨later, crowd.tasks.set number ⟨request, next⟩⟩ settled' := by
  rcases does.frame_or with ⟨silent, silentNext, sameFrame⟩ | ⟨making, seen, rfl, rfl, linked⟩ |
    ⟨making, seen, rfl, published, rfl⟩
  · exact ⟨settled, stands.stays sound isTask does silent silentNext sameFrame⟩
  · exact ⟨settled, stands.links sound isTask does linked⟩
  · exact ⟨_, stands.publishes sound isTask does published⟩

end Advancing

end StandsOn

/-- At every moment an operation is under way on an index that operations have brought about one
after the other. -/
theorem Reachable.exists_underWay
    {crowd : Crowd β}
    (reachable : crowd.Reachable) :
    ∃ settled : Index β, settled.Reachable ∧ settled.UnderWay crowd.site.index := by
  obtain ⟨tracksPhases, run⟩ := reachable
  have stands : ∃ settled : Index β, crowd.StandsOn settled := by
    induction run with
    | refl => exact ⟨_, .empty tracksPhases⟩
    | tail before last inductionHypothesis =>
        obtain ⟨settled, stands⟩ := inductionHypothesis
        cases last with
        | begin => exact ⟨settled, stands.begin _⟩
        | advance isTask advances =>
            have sound := (Sound.empty tracksPhases).run before
            exact stands.advance sound isTask (.of_advance advances)
  obtain ⟨settled, stands⟩ := stands
  exact ⟨settled, stands.reachable, stands.underWay⟩

end Crowd
end EventRelay
