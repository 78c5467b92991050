import EventRelay.Proofs.Hierarchy.Buckets
import EventRelay.Proofs.Interleaving.Tasks

/-!
# What single steps do

Every step that a task can take is listed once, with what the task must have seen for it. Whatever
the step, nodes stay where they are, their kinds and parents stay the same, and generations and
lists of children only grow.
-/

namespace EventRelay

variable {β : Type}

/-- The steps that a task can take on a site, from one stage to the next. -/
inductive Does (site : Site β) : Request β → Stage β → Site β → Stage β → Prop
  | add (id : Nat) (priority : Priority) (listener : Listener β) :
      Does site (.register id priority listener) .changing
        (site.update id fun node => node.add priority listener) (.marking [] [.bump id])
  | takeOut (id : Nat) (listeners : List ListenerId) :
      Does site (.unregisterAll id listeners) .changing
        (site.update id fun node => node.removeAll listeners)
        (.marking (site.index.entriesWith id listeners)
          (if (site.index.entriesWith id listeners).isEmpty then [] else [.bump id]))
  | bump {request : Request β} {taken : List (Listener β)} (id : Nat) (rest : List Errand) :
      Does site request (.marking taken (.bump id :: rest)) (site.update id Node.invalidate)
        (.marking taken (.spread id :: rest))
  | spread {request : Request β} {taken : List (Listener β)} (id : Nat) (rest : List Errand) :
      Does site request (.marking taken (.spread id :: rest)) site
        (.marking taken ((site.index.childrenOf id).map .visit ++ rest))
  | visit {request : Request β} {taken : List (Listener β)} {id : Nat} {rest : List Errand} :
      id < site.index.size →
      Does site request (.marking taken (.visit id :: rest)) site
        (.marking taken (.bump id :: rest))
  | pass {request : Request β} {taken : List (Listener β)} {id : Nat} {rest : List Errand} :
      site.index.size ≤ id →
      Does site request (.marking taken (.visit id :: rest)) site (.marking taken rest)
  | find {request : Request β} {kind : Kind} {waiting : List Kind} {id : Nat} :
      site.index.lookup? kind.id = some id →
      Does site request (.seeking kind waiting) site (.handOver id waiting)
  | refuse {request : Request β} {own : Descriptor} {parent : Kind} {waiting : List Kind}
      {error : BusError} :
      Does site request (.seeking (.child own parent) waiting) site (.answered (.error error))
  | goUp {request : Request β} {own : Descriptor} {parent : Kind} {waiting : List Kind} :
      Index.brokenAncestor? parent = none →
      Does site request (.seeking (.child own parent) waiting) site
        (.seeking parent (.child own parent :: waiting))
  | queue {request : Request β} {own : Descriptor} {waiting : List Kind} :
      Does site request (.seeking (.root own) waiting) site (.queuing ⟨.root own, none, waiting⟩)
  | enter {request : Request β} {making : Making} :
      site.finalizing = false →
      Does site request (.queuing making) { site with finalizing := true } (.checking making)
  | leave {request : Request β} {making : Making} {id : Nat} :
      site.index.lookup? making.kind.id = some id →
      Does site request (.checking making) { site with finalizing := false }
        (.handOver id making.waiting)
  | remain {request : Request β} {making : Making} :
      site.index.lookup? making.kind.id = none →
      Does site request (.checking making) site (.linking making site.index.snapshot)
  | link {request : Request β} {making : Making} {seen : Snapshot} :
      Does site request (.linking making seen)
        { site with index := site.index.link making.parent? seen.size } (.publishing making seen)
  | publish {request : Request β} {making : Making} {seen : Snapshot} :
      Does site request (.publishing making seen)
        { site with
          index := site.index.publish seen making.kind making.parent?
          finalizing := false }
        (.handOver seen.size making.waiting)
  | load {request : Request β} {id : Nat} {node : Node β} {below : List (Nat × Nat)} :
      site.index.node? id = some node →
      Does site request (.reading id .start below) site (.reading id (.loaded node.cache) below)
  | hit {request : Request β} {id : Nat} {node : Node β} {below : List (Nat × Nat)}
      {cache : Flattened β} :
      site.index.node? id = some node → cache.generation = node.generation →
      Does site request (.reading id (.loaded cache) below) site (.deliver cache below)
  | miss {request : Request β} {id : Nat} {below : List (Nat × Nat)} {cache : Flattened β} :
      Does site request (.reading id (.loaded cache) below) site (.reading id .stale below)
  | lock {request : Request β} {id : Nat} {below : List (Nat × Nat)} :
      Does site request (.reading id .stale below) (site.lock id) (.reading id .locked below)
  | capture {request : Request β} {id : Nat} {node : Node β} {below : List (Nat × Nat)} :
      site.index.node? id = some node →
      Does site request (.reading id .locked below) site
        (.reading id (.captured node.generation) below)
  | hitLocked {request : Request β} {id : Nat} {node : Node β} {below : List (Nat × Nat)} :
      site.index.node? id = some node →
      Does site request (.reading id (.captured node.cache.generation) below) (site.unlock id)
        (.deliver node.cache below)
  | missLocked {request : Request β} {id generation : Nat} {below : List (Nat × Nat)} :
      Does site request (.reading id (.captured generation) below) site
        (.reading id (.climbing generation) below)
  | climb {request : Request β} {id generation parent : Nat} {node : Node β}
      {below : List (Nat × Nat)} :
      site.index.node? id = some node → node.parent? = some parent → parent < site.index.size →
      Does site request (.reading id (.climbing generation) below) site
        (.reading parent .start ((id, generation) :: below))
  | atTop {request : Request β} {id generation : Nat} {node : Node β}
      {below : List (Nat × Nat)} :
      site.index.node? id = some node →
      (∀ parent, node.parent? = some parent → site.index.size ≤ parent) →
      Does site request (.reading id (.climbing generation) below) site
        (.reading id (.inheriting generation none) below)
  | gather {request : Request β} {id generation : Nat} {node : Node β}
      {below : List (Nat × Nat)} {inherited? : Option (Flattened β)} :
      site.index.node? id = some node →
      Does site request (.reading id (.inheriting generation inherited?) below) site
        (.reading id
          (.storing ({ node with generation := generation }.flatten site.index.tracksPhases
            inherited?)) below)
  | store {request : Request β} {id : Nat} {below : List (Nat × Nat)} {array : Flattened β} :
      Does site request (.reading id (.storing array) below)
        ((site.update id fun node => { node with cache := array }).unlock id)
        (.deliver array below)

namespace Does

variable {site later : Site β} {request : Request β} {next : Stage β}

theorem of_change
    (changes : request.change site = some (later, next)) :
    Does site request .changing later next := by
  cases request with
  | register id priority listener =>
      cases changes
      exact .add id priority listener
  | unregisterAll id listeners =>
      cases changes
      exact .takeOut id listeners
  | nodeFor kind => cases changes
  | flattened id => cases changes

theorem of_perform
    (taken : List (Listener β))
    (errand : Errand)
    (rest : List Errand) :
    Does site request (.marking taken (errand :: rest)) (errand.perform site).1
      (.marking taken ((errand.perform site).2 ++ rest)) := by
  cases errand with
  | bump id => exact .bump id rest
  | spread id => exact .spread id rest
  | visit id =>
      by_cases published : id < site.index.size
      · simp only [Errand.perform, if_pos published]
        exact .visit published
      · simp only [Errand.perform, if_neg published]
        exact .pass (Nat.le_of_not_lt published)

theorem of_seek
    (kind : Kind)
    (waiting : List Kind) :
    Does site request (.seeking kind waiting) site (seek site waiting kind) := by
  unfold seek
  split
  case h_1 id known => exact .find known
  case h_2 =>
    split
    case h_1 own => exact .queue
    case h_2 own parent =>
      split
      case h_1 ancestor broken => exact .refuse
      case h_2 sound => exact .goUp sound

theorem of_check
    (making : Making) :
    Does site request (.checking making) (making.check site).1 (making.check site).2 := by
  unfold Making.check
  split
  case h_1 id known => exact .leave known
  case h_2 absent => exact .remain absent

theorem of_reading
    {id : Nat}
    {node : Node β}
    {below : List (Nat × Nat)}
    {reading : Reading β}
    (present : site.index.node? id = some node)
    (advances : reading.advance site id node below = some (later, next)) :
    Does site request (.reading id reading below) later next := by
  cases reading with
  | start =>
      cases advances
      exact .load present
  | loaded cache =>
      cases advances
      split
      case isTrue fresh => exact .hit present fresh
      case isFalse => exact .miss
  | stale =>
      rw [Reading.advance] at advances
      split at advances
      case isTrue => cases advances
      case isFalse =>
        cases advances
        exact .lock
  | locked =>
      cases advances
      exact .capture present
  | captured generation =>
      rw [Reading.advance] at advances
      split at advances
      case isTrue fresh =>
        cases advances
        subst fresh
        exact .hitLocked present
      case isFalse =>
        cases advances
        exact .missLocked
  | climbing generation =>
      cases advances
      split
      case h_1 parent isAbove =>
        obtain ⟨isParent, published⟩ := Option.filter_eq_some_iff.mp isAbove
        exact .climb present isParent (of_decide_eq_true published)
      case h_2 isTop =>
        refine .atTop present fun parent isParent => Nat.le_of_not_lt fun published => ?_
        rw [isParent, Option.filter_some, if_pos (decide_eq_true published)] at isTop
        cases isTop
  | inheriting generation inherited? =>
      cases advances
      exact .gather present
  | storing array =>
      cases advances
      exact .store

/-- A task takes one of these steps. -/
theorem of_advance
    {task : Task β}
    (advances : task.advance site = some (later, next)) :
    Does site task.request task.stage later next := by
  obtain ⟨request, stage⟩ := task
  cases stage with
  | changing => exact of_change advances
  | marking taken errands =>
      cases errands with
      | nil => cases advances
      | cons errand rest =>
          cases advances
          exact of_perform taken errand rest
  | seeking kind waiting =>
      cases advances
      exact of_seek kind waiting
  | queuing making =>
      simp only [Task.advance] at advances
      split at advances
      case isTrue => cases advances
      case isFalse free =>
        cases advances
        exact .enter (Bool.eq_false_iff.mpr free)
  | checking making =>
      obtain ⟨rfl, rfl⟩ := Prod.ext_iff.mp (Option.some.inj advances)
      exact of_check making
  | linking making seen =>
      cases advances
      exact .link
  | publishing making seen =>
      cases advances
      exact .publish
  | answered result => cases advances
  | reading id reading below =>
      simp only [Task.advance] at advances
      split at advances
      case h_1 node present => exact of_reading present advances
      case h_2 => cases advances
  | read array => cases advances

end Does
end EventRelay
