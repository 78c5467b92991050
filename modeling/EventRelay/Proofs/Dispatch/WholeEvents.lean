import EventRelay.Typed

/-!
# Whole events

An event is whole if each of its parts whose kind names a parent embeds a part of the parent
kind. Such an event can be viewed as every kind above its own, and the view is the part of
that kind.

Whoever is given a view can change the values in it, but not of which kinds its parts are. So
an event stays whole while typed listeners change it.
-/

namespace EventRelay
namespace Event

/-- Every part whose kind names a parent embeds a part of that kind. -/
def Whole : Event → Prop
  | last part => part.kind.parent? = none
  | extend part base => ∀ parent, part.kind.parent? = some parent → base.kind = parent ∧ base.Whole

/-- The kinds of the parts, the most specific first. -/
def partKinds (event : Event) : List Kind := event.parts.map Part.kind

@[simp] theorem partKinds_last (part : Part) : (last part).partKinds = [part.kind] := rfl

@[simp] theorem partKinds_extend
    (part : Part)
    (base : Event) :
    (extend part base).partKinds = part.kind :: base.partKinds := rfl

theorem kind_eq_of_partKinds_eq
    {event changed : Event}
    (sameParts : changed.partKinds = event.partKinds) :
    changed.kind = event.kind := by
  cases event <;> cases changed <;> exact (List.cons.inj sameParts).1

/-- The parts of a whole event go through all kinds above its own. -/
theorem Whole.begins_with_ancestors
    {event : Event}
    (whole : event.Whole) :
    event.kind.ancestors <+: event.partKinds := by
  induction event with
  | last part =>
      change part.kind.ancestors <+: [part.kind]
      cases kindCase : part.kind with
      | root own => exact List.prefix_rfl
      | child own parent =>
          have parentless : part.kind.parent? = none := whole
          rw [kindCase] at parentless
          cases parentless
  | extend part base inductionHypothesis =>
      change part.kind.ancestors <+: part.kind :: base.partKinds
      cases kindCase : part.kind with
      | root own => simp [Kind.ancestors]
      | child own parent =>
          obtain ⟨sameKind, wholeBase⟩ := whole parent (by rw [kindCase]; rfl)
          have higher := inductionHypothesis wholeBase
          rw [sameKind] at higher
          exact List.cons_prefix_cons.mpr ⟨rfl, higher⟩

/-- Which view is found shows in the kinds of the parts. -/
theorem map_kind_view?
    (event : Event)
    (id : String) :
    (event.view? id).map kind = event.partKinds.find? fun kind => kind.id = id := by
  induction event with
  | last part =>
      rw [view?, partKinds_last, List.find?_singleton]
      by_cases same : part.kind.id = id <;> simp [same, kind, own]
  | extend part base inductionHypothesis =>
      rw [view?, partKinds_extend, List.find?_cons]
      by_cases same : part.kind.id = id
      · simp [same, kind, own]
      · simpa [same] using inductionHypothesis

/-- A whole event can be viewed as any kind above its own, if no two of these share an
identity. -/
theorem exists_view?
    {event : Event}
    {kind above : Kind}
    (parts : kind.ancestors <+: event.partKinds)
    (isAbove : above ∈ kind.ancestors)
    (apart : ∀ other ∈ kind.ancestors, other.id = above.id → other = above) :
    ∃ view, event.view? above.id = some view ∧ view.kind = above := by
  have sought : (kind.ancestors.find? fun other => other.id = above.id).isSome = true :=
    List.find?_isSome.mpr ⟨above, isAbove, by simp⟩
  obtain ⟨found, isFound⟩ := Option.isSome_iff_exists.mp sought
  have same : found = above :=
    apart found (List.mem_of_find?_eq_some isFound) (by simpa using List.find?_some isFound)
  have viewed := event.map_kind_view? above.id
  rw [(List.IsPrefix.find?_eq_some parts isFound), same] at viewed
  exact Option.map_eq_some_iff.mp viewed

/-- Putting a view back replaces it by parts of the same kinds. -/
theorem partKinds_putView
    {id : String}
    {event view changed : Event}
    (isView : event.view? id = some view)
    (sameParts : changed.partKinds = view.partKinds) :
    (putView id changed event).partKinds = event.partKinds := by
  induction event with
  | last part =>
      rw [view?] at isView
      split at isView
      case isTrue same =>
        cases isView
        rw [putView, if_pos same, sameParts]
      case isFalse => cases isView
  | extend part base inductionHypothesis =>
      rw [view?] at isView
      split at isView
      case isTrue same =>
        cases isView
        rw [putView, if_pos same, sameParts]
      case isFalse other =>
        rw [putView, if_neg other, partKinds_extend, inductionHypothesis isView, partKinds_extend]

theorem kind_id_of_view?
    {id : String}
    {event view : Event}
    (isView : event.view? id = some view) :
    view.kind.id = id := by
  have found := event.map_kind_view? id
  rw [isView, Option.map_some] at found
  simpa using List.find?_some found.symm

end Event

/-! ## Typed handlers -/

namespace Handler

variable {σ : Type}

/-- A handler for the events of a kind may change their values, but not of which kinds their
parts are. -/
def KeepsParts (kind : Kind) (handler : Handler σ) : Prop :=
  ∀ view state, view.kind.id = kind.id →
    (handler (view, state)).2.1.partKinds = Event.partKinds view

theorem KeepsParts.forKind
    {kind : Kind}
    {handler : Handler σ}
    (keeps : handler.KeepsParts kind)
    (event : Event)
    (state : σ) :
    (forKind kind handler (event, state)).2.1.partKinds = event.partKinds := by
  cases isView : event.view? kind.id with
  | none => rw [forKind_of_view?_eq_none isView]
  | some view =>
      rw [forKind_of_view?_eq_some isView]
      exact Event.partKinds_putView isView (keeps view state (Event.kind_id_of_view? isView))

end Handler
end EventRelay
