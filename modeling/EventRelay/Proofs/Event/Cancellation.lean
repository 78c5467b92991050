import EventRelay.Scenario.Session.Event

/-!
# One canceled state

Any part of an event may have room for a canceled state, and several parts of one event may.
Only the room nearest to the root is ever read or written, so that an event and all its views
that reach up to it are canceled together. A view that stands above all room has no canceled
state, whatever happens below it.
-/

namespace EventRelay
namespace Event

/-- An event with more specific parts put below it. -/
def extendBy (below : List Part) (event : Event) : Event := below.foldr extend event

/-- Some part has room for the canceled state. -/
def HasRoom (event : Event) : Prop := ∃ part ∈ event.parts, part.flag ≠ none

/-- The part nearest to the root that has room for the canceled state, with the parts on
either side of it. -/
structure StoredAt (event : Event) (lower : List Part) (holder : Part) (upper : List Part) :
    Prop where
  parts : event.parts = lower ++ holder :: upper
  room : holder.flag ≠ none
  above : ∀ part ∈ upper, part.flag = none

/-- Sets the canceled state through a view, which is then put back. -/
def cancelIn (id : String) (state : Bool) (event : Event) :
    Option (Except BusError Unit × Event) :=
  (event.view? id).map fun view =>
    let (outcome, changed) := Scenario.EventSession.cancel state view
    (outcome, putView id changed event)

/-! ## Parts -/

@[simp] theorem parts_last (part : Part) : (last part).parts = [part] := rfl

@[simp] theorem parts_extend (part : Part) (base : Event) :
    (extend part base).parts = part :: base.parts := rfl

theorem parts_extendBy (below : List Part) (event : Event) :
    (extendBy below event).parts = below ++ event.parts := by
  induction below with
  | nil => rfl
  | cons part below inductionHypothesis => exact congrArg (part :: ·) inductionHypothesis

/-- A view is what stands above some of the parts, and it is put back there. -/
theorem exists_extendBy
    {id : String}
    {event view : Event}
    (isView : event.view? id = some view) :
    ∃ below, event = extendBy below view ∧
      ∀ changed, putView id changed event = extendBy below changed := by
  induction event with
  | last part =>
      rw [view?] at isView
      split at isView
      case isTrue same =>
        cases isView
        exact ⟨[], rfl, fun changed => by rw [putView, if_pos same]; rfl⟩
      case isFalse => cases isView
  | extend part base inductionHypothesis =>
      rw [view?] at isView
      split at isView
      case isTrue same =>
        cases isView
        exact ⟨[], rfl, fun changed => by rw [putView, if_pos same]; rfl⟩
      case isFalse other =>
        obtain ⟨below, isBase, putBack⟩ := inductionHypothesis isView
        refine ⟨part :: below, congrArg (extend part) isBase, fun changed => ?_⟩
        rw [putView, if_neg other, putBack]
        rfl

/-- Where no two parts are of one kind, each part can be viewed together with all above it. -/
theorem exists_view?_of_parts
    {event : Event}
    (apart : (event.parts.map fun part => part.kind.id).Nodup)
    {below above : List Part}
    {part : Part}
    (parts : event.parts = below ++ part :: above) :
    ∃ view, event.view? part.kind.id = some view ∧ view.parts = part :: above := by
  induction event generalizing below with
  | last only =>
      rw [parts_last, List.singleton_eq_append_iff] at parts
      obtain ⟨-, isPart⟩ | ⟨-, isNil⟩ := parts
      · cases isPart
        exact ⟨_, by rw [view?, if_pos rfl], rfl⟩
      · cases isNil
  | extend first base inductionHypothesis =>
      rw [parts_extend] at parts apart
      rw [List.map_cons, List.nodup_cons] at apart
      cases below with
      | nil =>
          cases parts
          exact ⟨_, by rw [view?, if_pos rfl], rfl⟩
      | cons lowest below =>
          obtain ⟨rfl, higher⟩ := List.cons.inj parts
          have other : first.kind.id ≠ part.kind.id := fun same =>
            apart.1 (List.mem_map.mpr ⟨part, by simp [higher], same.symm⟩)
          rw [view?, if_neg other]
          exact inductionHypothesis apart.2 higher

/-! ## Where the state is stored -/

theorem not_hasRoom_iff {event : Event} :
    ¬ event.HasRoom ↔ ∀ part ∈ event.parts, part.flag = none := by
  simp [HasRoom]

theorem exists_storedAt_or_not_hasRoom (event : Event) :
    (∃ lower holder upper, event.StoredAt lower holder upper) ∨ ¬ event.HasRoom := by
  induction event with
  | last part =>
      by_cases room : part.flag = none
      · right
        simp [HasRoom, room]
      · exact .inl ⟨[], part, [], rfl, room, by simp⟩
  | extend part base inductionHypothesis =>
      obtain ⟨lower, holder, upper, stored⟩ | without := inductionHypothesis
      · exact .inl ⟨part :: lower, holder, upper, congrArg (part :: ·) stored.parts, stored.room,
          stored.above⟩
      · by_cases room : part.flag = none
        · right
          simpa [HasRoom, room] using without
        · left
          refine ⟨[], part, base.parts, rfl, room, fun above isAbove => ?_⟩
          exact not_hasRoom_iff.mp without above isAbove

/-- More specific parts do not change which part stores the state. -/
theorem StoredAt.extendBy
    {view : Event}
    {lower upper : List Part}
    {holder : Part}
    (stored : view.StoredAt lower holder upper)
    (below : List Part) :
    (extendBy below view).StoredAt (below ++ lower) holder upper where
  parts := by rw [parts_extendBy, stored.parts, List.append_assoc]
  room := stored.room
  above := stored.above

/-- Only one part stores the state. -/
theorem StoredAt.unique
    {event : Event}
    {lower lower' upper upper' : List Part}
    {holder holder' : Part}
    (stored : event.StoredAt lower holder upper)
    (stored' : event.StoredAt lower' holder' upper') :
    lower = lower' ∧ holder = holder' ∧ upper = upper' := by
  have same : lower ++ holder :: upper = lower' ++ holder' :: upper' :=
    stored.parts.symm.trans stored'.parts
  obtain ⟨between, rfl, rest⟩ | ⟨between, rfl, rest⟩ := List.append_eq_append_iff.mp same
  · cases between with
    | nil => simpa using rest
    | cons first between =>
        obtain ⟨rfl, rfl⟩ := List.cons.inj rest
        exact absurd (stored.above holder' (by simp)) stored'.room
  · cases between with
    | nil => simpa [eq_comm] using rest
    | cons first between =>
        obtain ⟨rfl, rfl⟩ := List.cons.inj rest
        exact absurd (stored'.above holder (by simp)) stored.room

/-! ## Reading and writing -/

theorem flag?_of_not_hasRoom
    {event : Event}
    (without : ¬ event.HasRoom) :
    event.flag? = none := by
  rw [not_hasRoom_iff] at without
  induction event with
  | last part => exact without part (by simp)
  | extend part base inductionHypothesis =>
      have above := inductionHypothesis fun other isAbove => without other (by simp [isAbove])
      rw [flag?, above]
      exact without part (by simp)

theorem setFlag?_of_not_hasRoom
    {event : Event}
    (without : ¬ event.HasRoom)
    (state : Bool) :
    event.setFlag? state = none := by
  rw [not_hasRoom_iff] at without
  induction event with
  | last part => rw [setFlag?, without part (by simp), Option.map_none]
  | extend part base inductionHypothesis =>
      have above := inductionHypothesis fun other isAbove => without other (by simp [isAbove])
      rw [setFlag?, above, without part (by simp), Option.map_none]

/-- In a longer chain the state is stored in the first part only if nothing above has room. -/
theorem storedAt_extend
    {part : Part}
    {base : Event}
    {lower upper : List Part}
    {holder : Part}
    (stored : (extend part base).StoredAt lower holder upper) :
    (lower = [] ∧ holder = part ∧ upper = base.parts ∧ ¬ base.HasRoom) ∨
      ∃ rest, lower = part :: rest ∧ base.StoredAt rest holder upper := by
  have parts := stored.parts
  cases lower with
  | nil =>
      obtain ⟨rfl, rfl⟩ := List.cons.inj parts
      exact .inl ⟨rfl, rfl, rfl, not_hasRoom_iff.mpr stored.above⟩
  | cons first rest =>
      obtain ⟨rfl, higher⟩ := List.cons.inj parts
      exact .inr ⟨rest, rfl, higher, stored.room, stored.above⟩

theorem storedAt_last
    {part : Part}
    {lower upper : List Part}
    {holder : Part}
    (stored : (last part).StoredAt lower holder upper) :
    lower = [] ∧ holder = part ∧ upper = [] := by
  have parts := stored.parts
  rw [parts_last, List.singleton_eq_append_iff] at parts
  simpa [eq_comm] using parts

namespace StoredAt

variable {event : Event} {lower upper : List Part} {holder : Part}

theorem flag?_eq (stored : event.StoredAt lower holder upper) : event.flag? = holder.flag := by
  induction event generalizing lower with
  | last part =>
      obtain ⟨rfl, rfl, rfl⟩ := storedAt_last stored
      rfl
  | extend part base inductionHypothesis =>
      obtain ⟨rfl, rfl, rfl, without⟩ | ⟨rest, rfl, higher⟩ := storedAt_extend stored
      · rw [flag?, flag?_of_not_hasRoom without]
      · obtain ⟨state, isState⟩ := Option.ne_none_iff_exists'.mp stored.room
        rw [flag?, inductionHypothesis higher, isState]

theorem setFlag?_eq
    (stored : event.StoredAt lower holder upper)
    (state : Bool) :
    ∃ changed, event.setFlag? state = some changed ∧
      changed.StoredAt lower { holder with flag := some state } upper := by
  induction event generalizing lower with
  | last part =>
      obtain ⟨rfl, rfl, rfl⟩ := storedAt_last stored
      obtain ⟨before, isBefore⟩ := Option.ne_none_iff_exists'.mp stored.room
      exact ⟨_, by rw [setFlag?, isBefore, Option.map_some], rfl, by simp, stored.above⟩
  | extend part base inductionHypothesis =>
      obtain ⟨rfl, rfl, rfl, without⟩ | ⟨rest, rfl, higher⟩ := storedAt_extend stored
      · obtain ⟨before, isBefore⟩ := Option.ne_none_iff_exists'.mp stored.room
        exact ⟨_, by rw [setFlag?, setFlag?_of_not_hasRoom without, isBefore, Option.map_some],
          rfl, by simp, stored.above⟩
      · obtain ⟨changed, isChanged, storedAbove⟩ := inductionHypothesis higher
        exact ⟨extend part changed, by rw [setFlag?, isChanged], storedAbove.extendBy [part]⟩

end StoredAt

/-- All reads and writes of an event's canceled state go to the state that one part stores. -/
structure SharesState (event : Event) (lower : List Part) (holder : Part) (upper : List Part) :
    Prop where
  /-- Reading finds that state. -/
  reads : event.flag? = holder.flag
  /-- Writing changes that state and nothing else. -/
  writes : ∀ state, ∃ changed, event.setFlag? state = some changed ∧
    changed.parts = lower ++ { holder with flag := some state } :: upper
  /-- A view with any room reaches up to that state. Setting it through the view succeeds and
  changes nothing else, and then the event and all views that reach up to it agree. -/
  through : ∀ id view, event.view? id = some view → view.HasRoom →
    holder :: upper <:+ view.parts ∧
      ∀ state, ∃ after, event.cancelIn id state = some (.ok (), after) ∧
        after.parts = lower ++ { holder with flag := some state } :: upper ∧
        after.isCanceled = state ∧
        ∀ other seen, after.view? other = some seen →
          { holder with flag := some state } :: upper <:+ seen.parts → seen.isCanceled = state

namespace StoredAt

variable {event : Event} {lower upper : List Part} {holder : Part}

theorem isCanceled_eq
    {state : Bool}
    (stored : event.StoredAt lower holder upper)
    (isState : holder.flag = some state) :
    event.isCanceled = state := by
  rw [isCanceled, stored.flag?_eq, isState, Option.getD_some]

/-- Whatever contains the part that stores the state stores it there. -/
theorem of_suffix
    {view : Event}
    (stored : event.StoredAt lower holder upper)
    (contains : holder :: upper <:+ view.parts) :
    ∃ rest, view.StoredAt rest holder upper := by
  obtain ⟨rest, isRest⟩ := contains
  exact ⟨rest, isRest.symm, stored.room, stored.above⟩

theorem sharesState (stored : event.StoredAt lower holder upper) :
    event.SharesState lower holder upper := by
  constructor
  case reads => exact stored.flag?_eq
  case writes =>
    intro state
    obtain ⟨changed, isChanged, storedAfter⟩ := stored.setFlag?_eq state
    exact ⟨changed, isChanged, storedAfter.parts⟩
  case through =>
    intro id view isView room
    obtain ⟨below, rfl, putBack⟩ := exists_extendBy isView
    -- The view stores its state where the whole event does.
    obtain ⟨rest, holder', upper', storedView⟩ | without := view.exists_storedAt_or_not_hasRoom
    case inr => exact absurd room without
    obtain ⟨rfl, rfl, rfl⟩ := stored.unique (storedView.extendBy below)
    refine ⟨⟨rest, storedView.parts.symm⟩, fun state => ?_⟩
    obtain ⟨changed, isChanged, storedChanged⟩ := storedView.setFlag?_eq state
    have storedAfter := storedChanged.extendBy below
    refine ⟨_, ?_, storedAfter.parts, storedAfter.isCanceled_eq rfl, fun other seen _ reaches => ?_⟩
    · rw [cancelIn, isView, Option.map_some, Scenario.EventSession.cancel, setCanceled, isChanged]
      exact congrArg (fun after => some (Except.ok (), after)) (putBack changed)
    · obtain ⟨_, storedSeen⟩ := storedAfter.of_suffix reaches
      exact storedSeen.isCanceled_eq rfl

end StoredAt

/-- A view without any room refuses to be canceled, which changes nothing, and it counts as
not canceled. -/
theorem cancelIn_of_not_hasRoom
    {id : String}
    {event view : Event}
    (isView : event.view? id = some view)
    (without : ¬ view.HasRoom)
    (state : Bool) :
    event.cancelIn id state = some (.error (.notCancellable view.kind.name), event) ∧
      view.isCanceled = false := by
  obtain ⟨below, isEvent, putBack⟩ := exists_extendBy isView
  constructor
  · rw [cancelIn, isView, Option.map_some, Scenario.EventSession.cancel, setCanceled,
      setFlag?_of_not_hasRoom without]
    exact congrArg (fun after => some (_, after)) ((putBack view).trans isEvent.symm)
  · rw [isCanceled, flag?_of_not_hasRoom without, Option.getD_none]

/-- An event either has no room for a canceled state at all, or there is one part whose state
the event shares with all views that have room. Views without room have no canceled state. If
no two parts are of one kind, there is a view for each part. -/
theorem shares_canceled_state (event : Event) :
    ((¬ event.HasRoom ∧ event.flag? = none ∧ ∀ state, event.setFlag? state = none) ∨
      ∃ lower holder upper, event.StoredAt lower holder upper ∧
        event.SharesState lower holder upper) ∧
      (∀ id view, event.view? id = some view → ¬ view.HasRoom → ∀ state,
        event.cancelIn id state = some (.error (.notCancellable view.kind.name), event) ∧
          view.isCanceled = false) ∧
      ((event.parts.map fun part => part.kind.id).Nodup →
        ∀ below part above, event.parts = below ++ part :: above →
          ∃ view, event.view? part.kind.id = some view ∧ view.parts = part :: above) := by
  refine ⟨?_, fun _ _ => cancelIn_of_not_hasRoom, fun apart _ _ _ => exists_view?_of_parts apart⟩
  obtain ⟨lower, holder, upper, stored⟩ | without := event.exists_storedAt_or_not_hasRoom
  · exact .inr ⟨lower, holder, upper, stored, stored.sharesState⟩
  · exact .inl ⟨without, flag?_of_not_hasRoom without, setFlag?_of_not_hasRoom without⟩

/-! ### An evacuation -/

/-- Notices cannot be canceled, warnings can. An evacuation declares a second state, which is
not used, and an evacuation at night none. -/
def evacuation : Event :=
  let notice : Kind := .root ⟨"Notice", "Notice", true, false, []⟩
  let warning : Kind := .child ⟨"Warning", "Warning", false, true, []⟩ notice
  let plain : Kind := .child ⟨"Evacuation", "Evacuation", false, true, []⟩ warning
  let atNight : Kind := .child ⟨"NightEvacuation", "NightEvacuation", false, false, []⟩ plain
  extend ⟨atNight, 4, none⟩
    (extend ⟨plain, 3, some true⟩ (extend ⟨warning, 2, some false⟩ (last ⟨notice, 1, none⟩)))

/-- All four parts can be viewed. The evacuation is not canceled although the second state says
so, and the notice in it cannot be canceled. -/
theorem shares_canceled_state_evacuation :
    (evacuation.parts.map fun part => part.kind.id).Nodup ∧
      (∀ below part above, evacuation.parts = below ++ part :: above →
        ∃ view, evacuation.view? part.kind.id = some view ∧ view.parts = part :: above) ∧
      evacuation.isCanceled = false ∧
      evacuation.cancelIn "Notice" true =
        some (.error (.notCancellable "Notice"), evacuation) := by
  have apart : (evacuation.parts.map fun part => part.kind.id).Nodup := by decide
  obtain ⟨-, refused, viewable⟩ := shares_canceled_state evacuation
  have withoutRoom (view : Event) (isView : evacuation.view? "Notice" = some view) :
      ¬ view.HasRoom := by
    cases isView
    simp [HasRoom]
  exact ⟨apart, viewable apart, by decide,
    (refused "Notice" _ rfl (withoutRoom _ rfl) true).1⟩

end Event

/-- A session sets the canceled state of a view in this way. -/
theorem Scenario.EventSession.perform_cancelIn
    (catalog : Catalog)
    (event : Event)
    (kind : String)
    (state : Bool) :
    perform catalog event (.cancelIn kind state) =
      match event.cancelIn (catalog.kind kind).id state with
      | some (outcome, after) => (.canceled (some outcome), after)
      | none => (.canceled none, event) := by
  rw [perform, Event.cancelIn]
  cases event.view? (catalog.kind kind).id <;> rfl

end EventRelay
