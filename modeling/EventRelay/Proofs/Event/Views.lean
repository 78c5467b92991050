import EventRelay.Proofs.Dispatch.WholeEvents
import EventRelay.Proofs.Event.Cancellation
import Mathlib.Data.List.Nodup
import Mathlib.Data.List.Perm.Subperm

/-!
# Views as paths

A view of an event is what stands above some of its parts, so it is found by a path from the
most specific part upward. Reading a view and changing it in its place follow the same path.

If the parts go upward through the hierarchy, two paths one after the other lead where the
second leads alone, unless it would have to go down again. What is changed through one view is
then seen through all views that contain the changed part.
-/

namespace EventRelay
namespace Kind

/-- No two kinds from this one upward share an identity. -/
def Distinct (kind : Kind) : Prop := (kind.ancestors.map id).Nodup

instance (kind : Kind) : Decidable kind.Distinct :=
  inferInstanceAs (Decidable (kind.ancestors.map id).Nodup)

theorem ancestors_suffix
    {low high : Kind}
    (above : high ∈ low.ancestors) :
    high.ancestors <:+ low.ancestors := by
  induction low with
  | root own =>
      obtain rfl := List.mem_singleton.mp above
      exact List.suffix_rfl
  | child own parent inductionHypothesis =>
      rcases List.mem_cons.mp above with rfl | higher
      · exact List.suffix_rfl
      · exact (inductionHypothesis higher).trans (List.suffix_cons _ _)

/-- Each kind above a kind stands above all those between them. -/
theorem pairwise_ancestors (kind : Kind) :
    kind.ancestors.Pairwise fun lower upper => upper ∈ lower.ancestors ∧ upper ≠ lower := by
  induction kind with
  | root own => exact List.pairwise_singleton _ _
  | child own parent inductionHypothesis =>
      refine List.pairwise_cons.mpr ⟨fun upper isAbove => ?_, inductionHypothesis⟩
      refine ⟨List.mem_cons_of_mem _ isAbove, fun same => ?_⟩
      have upward := depth_le_of_mem_ancestors isAbove
      rw [same, depth] at upward
      omega

/-- Two kinds are not above each other. -/
theorem eq_of_mem_ancestors
    {first second : Kind}
    (below : second ∈ first.ancestors)
    (above : first ∈ second.ancestors) :
    first = second := by
  cases first with
  | root own => exact (List.mem_singleton.mp below).symm
  | child own parent =>
      rcases List.mem_cons.mp below with same | higher
      · exact same.symm
      · have upward := depth_le_of_mem_ancestors higher
        have downward := depth_le_of_mem_ancestors above
        rw [depth] at downward
        omega

theorem Distinct.eq
    {kind first second : Kind}
    (distinct : kind.Distinct)
    (isFirst : first ∈ kind.ancestors)
    (isSecond : second ∈ kind.ancestors)
    (same : first.id = second.id) :
    first = second :=
  List.inj_on_of_nodup_map distinct isFirst isSecond same

theorem Distinct.above
    {kind above : Kind}
    (distinct : kind.Distinct)
    (isAbove : above ∈ kind.ancestors) :
    above.Distinct :=
  List.Nodup.sublist ((ancestors_suffix isAbove).sublist.map id) distinct

end Kind

namespace Event

/-- Changes the view as a kind in its place, if there is that view. -/
def edit? (id : String) (change : Event → Event) : Event → Option Event
  | last part => if part.kind.id = id then some (change (last part)) else none
  | extend part base =>
      if part.kind.id = id then some (change (extend part base))
      else (base.edit? id change).map (extend part)

/-- Each part is of a kind above those of all parts below it. -/
structure Stacked (event : Event) : Prop where
  upward : event.partKinds.Pairwise fun lower upper => upper ∈ lower.ancestors ∧ upper ≠ lower
  distinct : event.kind.Distinct

/-! ## One path for reading and changing -/

theorem edit?_eq
    (event : Event)
    (id : String)
    (change : Event → Event) :
    event.edit? id change = (event.view? id).map fun view => putView id (change view) event := by
  induction event with
  | last part =>
      rw [edit?, view?]
      split
      case isTrue same => rw [Option.map_some, putView, if_pos same]
      case isFalse => rfl
  | extend part base inductionHypothesis =>
      rw [edit?, view?]
      split
      case isTrue same => rw [Option.map_some, putView, if_pos same]
      case isFalse other =>
        rw [inductionHypothesis, Option.map_map]
        congr 1
        funext view
        rw [Function.comp_apply, putView, if_neg other]

/-- Changing a view in its place leaves what is below it. -/
theorem exists_edit?
    {id : String}
    {event view : Event}
    (isView : event.view? id = some view) :
    ∃ below, event = extendBy below view ∧
      ∀ change, event.edit? id change = some (extendBy below (change view)) := by
  obtain ⟨below, isEvent, putBack⟩ := exists_extendBy isView
  refine ⟨below, isEvent, fun change => ?_⟩
  rw [edit?_eq, isView, Option.map_some, putBack]

theorem changeView_eq
    (event : Event)
    (id : String)
    (change : Event → Event) :
    event.changeView id change = (event.edit? id change).getD event := by
  rw [changeView, edit?_eq]
  cases event.view? id <;> rfl

/-! ## Which views there are -/

theorem view?_eq_none_iff
    {event : Event}
    {id : String} :
    event.view? id = none ↔ ∀ kind ∈ event.partKinds, kind.id ≠ id := by
  rw [← Option.map_eq_none_iff (f := kind), map_kind_view?, List.find?_eq_none]
  simp

@[simp] theorem view?_self (event : Event) : event.view? event.kind.id = some event := by
  cases event <;> exact if_pos rfl

theorem kind_mem_partKinds (event : Event) : event.kind ∈ event.partKinds := by
  cases event <;> exact List.mem_cons_self

theorem partKinds_extendBy
    (below : List Part)
    (event : Event) :
    (extendBy below event).partKinds = below.map Part.kind ++ event.partKinds := by
  rw [partKinds, parts_extendBy, List.map_append, partKinds]

theorem mem_partKinds_extendBy
    {below : List Part}
    {event : Event}
    {kind : Kind} :
    kind ∈ (extendBy below event).partKinds ↔
      (∃ part ∈ below, part.kind = kind) ∨ kind ∈ event.partKinds := by
  rw [partKinds_extendBy, List.mem_append, List.mem_map]

/-- Parts of other kinds put below an event hide none of its views. -/
theorem view?_extendBy
    {below : List Part}
    {id : String}
    (other : ∀ part ∈ below, part.kind.id ≠ id)
    (event : Event) :
    (extendBy below event).view? id = event.view? id := by
  induction below with
  | nil => rfl
  | cons part below inductionHypothesis =>
      change (extend part (extendBy below event)).view? id = _
      rw [view?, if_neg (other part List.mem_cons_self)]
      exact inductionHypothesis fun part isPart => other part (List.mem_cons_of_mem _ isPart)

namespace Stacked

variable {event view : Event} {id : String} {below : List Part}

theorem mem_ancestors
    (stacked : event.Stacked)
    {kind : Kind}
    (isPart : kind ∈ event.partKinds) :
    kind ∈ event.kind.ancestors := by
  have upward := stacked.upward
  cases event with
  | last part =>
      rw [partKinds_last, List.mem_singleton] at isPart
      exact isPart ▸ Kind.self_mem_ancestors _
  | extend part base =>
      rcases List.mem_cons.mp isPart with rfl | higher
      · exact Kind.self_mem_ancestors _
      · exact ((List.pairwise_cons.mp upward).1 kind higher).1

/-- A whole event has one part for each kind from its own upward. -/
theorem partKinds_eq
    (stacked : event.Stacked)
    (whole : event.Whole) :
    event.partKinds = event.kind.ancestors := by
  have once : event.partKinds.Nodup := stacked.upward.imp fun ordered => ordered.2.symm
  have all : event.partKinds ⊆ event.kind.ancestors := fun _ => stacked.mem_ancestors
  exact (whole.begins_with_ancestors.eq_of_length_le
    (List.subperm_of_subset once all).length_le).symm

theorem isViewableAs_iff
    (stacked : event.Stacked)
    (whole : event.Whole) :
    event.isViewableAs id = true ↔ ∃ kind ∈ event.kind.ancestors, kind.id = id := by
  rw [isViewableAs, Option.isSome_iff_ne_none, Ne, view?_eq_none_iff,
    stacked.partKinds_eq whole]
  simp

/-- The parts of a view are parts of the event, and the kind of the view stands above what is
below the view. -/
theorem of_extendBy
    (stacked : (extendBy below view).Stacked) :
    view.Stacked ∧ ∀ part ∈ below, view.kind ∈ part.kind.ancestors ∧ view.kind ≠ part.kind := by
  have upward := stacked.upward
  rw [partKinds_extendBy, List.pairwise_append] at upward
  obtain ⟨-, upwardView, across⟩ := upward
  have isAbove : view.kind ∈ (extendBy below view).kind.ancestors :=
    stacked.mem_ancestors (mem_partKinds_extendBy.mpr (.inr view.kind_mem_partKinds))
  refine ⟨⟨upwardView, stacked.distinct.above isAbove⟩, fun part isPart => ?_⟩
  exact across part.kind (List.mem_map_of_mem isPart) view.kind view.kind_mem_partKinds

/-- Nothing below a view is of the kind of the view or of one above it. -/
theorem id_ne_of_below
    (stacked : (extendBy below view).Stacked)
    {part : Part}
    (isPart : part ∈ below)
    {kind : Kind}
    (isAbove : kind ∈ view.kind.ancestors) :
    part.kind.id ≠ kind.id := by
  intro same
  obtain ⟨above, other⟩ := stacked.of_extendBy.2 part isPart
  have low : part.kind ∈ (extendBy below view).kind.ancestors :=
    stacked.mem_ancestors (mem_partKinds_extendBy.mpr (.inl ⟨part, isPart, rfl⟩))
  have high := Kind.mem_ancestors_trans low (Kind.mem_ancestors_trans above isAbove)
  have sameKind := stacked.distinct.eq low high same
  exact other (Kind.eq_of_mem_ancestors (sameKind ▸ isAbove) above)

theorem view?_eq_view?
    (stacked : event.Stacked)
    (isView : event.view? id = some view)
    {kind : Kind}
    (isAbove : kind ∈ view.kind.ancestors) :
    view.view? kind.id = event.view? kind.id := by
  obtain ⟨below, rfl, -⟩ := exists_edit? isView
  exact (view?_extendBy (fun _ isPart => stacked.id_ne_of_below isPart isAbove) view).symm

/-- Nothing in a view is of a more specific kind. -/
theorem view?_eq_none
    (stacked : event.Stacked)
    {kind : Kind}
    (distinct : kind.Distinct)
    (isBelow : event.kind ∈ kind.ancestors)
    (other : kind ≠ event.kind) :
    event.view? kind.id = none := by
  refine view?_eq_none_iff.mpr fun part isPart same => ?_
  have high := stacked.mem_ancestors isPart
  have sameKind : part = kind :=
    distinct.eq (Kind.mem_ancestors_trans isBelow high) (Kind.self_mem_ancestors kind) same
  exact other (Kind.eq_of_mem_ancestors isBelow (sameKind ▸ high))

/-! ## Changes through a view -/

/-- No two parts are of kinds of one identity. -/
theorem nodup_ids
    (stacked : event.Stacked) :
    (event.partKinds.map Kind.id).Nodup := by
  refine List.Pairwise.map _ (fun _ _ separate => separate) ?_
  refine stacked.upward.imp_of_mem fun isLower isUpper ordered same => ?_
  exact ordered.2
    (stacked.distinct.eq (stacked.mem_ancestors isUpper) (stacked.mem_ancestors isLower) same.symm)

end Stacked

/-- Through another view an event cannot be viewed as its own kind. -/
theorem bind_view?_eq_none
    {event : Event}
    {id : String}
    (apart : (event.partKinds.map Kind.id).Nodup)
    (other : event.kind.id ≠ id) :
    (event.view? id).bind (view? event.kind.id) = none := by
  refine Option.bind_eq_none_iff.mpr fun view isView => ?_
  obtain ⟨below, isEvent, -⟩ := exists_edit? isView
  cases below with
  | nil =>
      cases isEvent
      exact absurd (kind_id_of_view? isView) other
  | cons part below =>
      cases isEvent
      refine view?_eq_none_iff.mpr fun kind isPart same => ?_
      have isHigher : kind ∈ (extendBy below view).partKinds :=
        mem_partKinds_extendBy.mpr (.inr isPart)
      exact (List.nodup_cons.mp apart).1 (List.mem_map.mpr ⟨kind, isHigher, same⟩)

/-- A changed view is seen through the views that contain it, and through no others. -/
theorem bind_view?_extendBy
    {below : List Part}
    {view : Event}
    {change : Event → Event}
    (apart : (view.partKinds.map Kind.id).Nodup)
    (sameParts : (change view).partKinds = view.partKinds)
    (others : ∀ part ∈ below, part.kind.id ≠ view.kind.id)
    (id : String) :
    ((extendBy below (change view)).view? id).bind (view? view.kind.id) =
      (((extendBy below view).view? id).bind (view? view.kind.id)).map change := by
  have sameKind : (change view).kind = view.kind := kind_eq_of_partKinds_eq sameParts
  have whole : (change view).view? view.kind.id = some (change view) :=
    sameKind ▸ view?_self (change view)
  induction below with
  | nil =>
      by_cases same : view.kind.id = id
      · subst same
        change ((change view).view? view.kind.id).bind _ =
          ((view.view? view.kind.id).bind _).map change
        simp [whole]
      · have hidden := bind_view?_eq_none (sameParts ▸ apart) (sameKind ▸ same)
        rw [sameKind] at hidden
        exact hidden.trans (congrArg (Option.map change) (bind_view?_eq_none apart same)).symm
  | cons part below inductionHypothesis =>
      have higher := fun other isPart => others other (List.mem_cons_of_mem part isPart)
      change ((extend part (extendBy below (change view))).view? id).bind _ =
        (((extend part (extendBy below view)).view? id).bind _).map change
      rw [view?, view?]
      split
      case isTrue =>
        have seen (event : Event) :
            (extend part (extendBy below event)).view? view.kind.id = event.view? view.kind.id :=
          view?_extendBy others event
        simp only [Option.bind_some, seen, whole, view?_self, Option.map_some]
      case isFalse => exact inductionHypothesis higher

/-! ## Views of one event -/

/-- What a view of an event has to do with the other views of the event. -/
structure SharesViews (event view : Event) : Prop where
  /-- For a kind that is not more specific it does not matter which of the two is viewed. -/
  upward : ∀ kind ∈ view.kind.ancestors, view.view? kind.id = event.view? kind.id
  /-- There is no way back to a more specific kind. -/
  downward : ∀ kind : Kind, kind.Distinct → view.kind ∈ kind.ancestors → kind ≠ view.kind →
    view.view? kind.id = none
  /-- What is changed through the view is read through every view that contains it. -/
  changed : ∀ change, (change view).partKinds = view.partKinds →
    ∃ after, event.edit? view.kind.id change = some after ∧
      ∀ id, (after.view? id).bind (view? view.kind.id) =
        ((event.view? id).bind (view? view.kind.id)).map change
  /-- Changing the view's own part changes nothing else. -/
  own : ∀ part, ∃ below above after, event.edit? view.kind.id (withOwn part) = some after ∧
    event.parts = below ++ view.own :: above ∧ after.parts = below ++ part :: above

theorem parts_withOwn
    (event : Event)
    (part : Part) :
    ∃ above, event.parts = event.own :: above ∧ (event.withOwn part).parts = part :: above := by
  cases event with
  | last own => exact ⟨[], rfl, rfl⟩
  | extend own base => exact ⟨base.parts, rfl, rfl⟩

theorem Stacked.sharesViews
    {event view : Event}
    {id : String}
    (stacked : event.Stacked)
    (isView : event.view? id = some view) :
    event.SharesViews view := by
  obtain rfl : view.kind.id = id := kind_id_of_view? isView
  obtain ⟨below, isEvent, edited⟩ := exists_edit? isView
  obtain ⟨stackedView, -⟩ := (isEvent ▸ stacked).of_extendBy
  constructor
  case upward => exact fun kind isAbove => stacked.view?_eq_view? isView isAbove
  case downward => exact fun kind => stackedView.view?_eq_none
  case changed =>
    intro change sameParts
    refine ⟨_, edited change, fun sought => ?_⟩
    have others : ∀ part ∈ below, part.kind.id ≠ view.kind.id := fun part isPart =>
      (isEvent ▸ stacked).id_ne_of_below isPart (Kind.self_mem_ancestors view.kind)
    rw [bind_view?_extendBy stackedView.nodup_ids sameParts others, isEvent]
  case own =>
    intro part
    obtain ⟨above, before, after⟩ := view.parts_withOwn part
    refine ⟨below, above, _, edited (withOwn part), ?_, ?_⟩
    · rw [isEvent, parts_extendBy, before]
    · rw [parts_extendBy, after]

/-- Reading and changing a view follow one path to one part. If each part stands above those
below it, a whole event has a view for each kind from its own upward and for no other, and its
views fit together. -/
theorem views_follow_one_path (event : Event) :
    (∀ id,
      (event.view? id = none ∧ ∀ change, event.edit? id change = none) ∨
        ∃ below view, event.view? id = some view ∧ event = extendBy below view ∧
          ∀ change, event.edit? id change = some (extendBy below (change view))) ∧
      (∀ id change, event.changeView id change = (event.edit? id change).getD event) ∧
      (event.Stacked →
        (event.Whole → ∀ id,
          event.isViewableAs id = true ↔ ∃ kind ∈ event.kind.ancestors, kind.id = id) ∧
        ∀ id view, event.view? id = some view → event.SharesViews view) := by
  refine ⟨fun id => ?_, event.changeView_eq, fun stacked => ⟨?_, ?_⟩⟩
  · cases isView : event.view? id with
    | none => exact .inl ⟨rfl, fun change => by rw [edit?_eq, isView, Option.map_none]⟩
    | some view =>
        obtain ⟨below, isEvent, edited⟩ := exists_edit? isView
        exact .inr ⟨below, view, rfl, isEvent, edited⟩
  · exact fun whole _ => stacked.isViewableAs_iff whole
  · exact fun _ _ => stacked.sharesViews

/-! ### A warning within an evacuation -/

/-- All four kinds of an evacuation at night can be viewed. The warning raised through its view
is read through the evacuation, whose other parts are as before. -/
theorem views_follow_one_path_evacuation :
    evacuation.Stacked ∧ evacuation.Whole ∧
      (evacuation.isViewableAs "Notice" = true ↔
        ∃ kind ∈ evacuation.kind.ancestors, kind.id = "Notice") ∧
      ∃ view, evacuation.view? "Warning" = some view ∧ evacuation.SharesViews view := by
  have stacked : evacuation.Stacked := ⟨by decide, by decide⟩
  have whole : evacuation.Whole := by
    simp [evacuation, Whole, kind, own]
  obtain ⟨-, -, agree⟩ := views_follow_one_path evacuation
  obtain ⟨viewable, shares⟩ := agree stacked
  exact ⟨stacked, whole, viewable whole "Notice", _, rfl, shares "Warning" _ rfl⟩

example :
    (evacuation.edit? "Warning" (setValue 7)).map (fun after => after.parts.map Part.value) =
      some [4, 3, 7, 1] := by decide

/-! ## Fresh events -/

theorem ancestors_begin_with_fresh
    (layout : Kind → Layout)
    (values : String → Int)
    (kind : Kind) :
    (fresh layout values kind).partKinds <+: kind.ancestors := by
  induction kind with
  | root own => exact List.prefix_rfl
  | child own parent inductionHypothesis =>
      simp only [fresh]
      split
      case isTrue => exact List.cons_prefix_cons.mpr ⟨rfl, inductionHypothesis⟩
      case isFalse => exact ⟨parent.ancestors, rfl⟩

@[simp] theorem kind_fresh
    (layout : Kind → Layout)
    (values : String → Int)
    (kind : Kind) :
    (fresh layout values kind).kind = kind := by
  cases kind with
  | root own => rfl
  | child own parent =>
      simp only [fresh]
      split <;> rfl

/-- A fresh event goes upward through the hierarchy however its kinds are laid out. -/
theorem stacked_fresh
    (layout : Kind → Layout)
    (values : String → Int)
    {kind : Kind}
    (distinct : kind.Distinct) :
    (fresh layout values kind).Stacked where
  upward := kind.pairwise_ancestors.sublist (ancestors_begin_with_fresh layout values kind).sublist
  distinct := by rwa [kind_fresh]

/-- A fresh event is whole if every part embeds the part of the parent kind. -/
theorem whole_fresh
    {layout : Kind → Layout}
    (embeds : ∀ kind, (layout kind).embedsParent = true)
    (values : String → Int)
    (kind : Kind) :
    (fresh layout values kind).Whole := by
  induction kind with
  | root own => rfl
  | child own parent inductionHypothesis =>
      simp only [fresh, embeds, if_true]
      intro above isParent
      cases isParent
      exact ⟨kind_fresh layout values parent, inductionHypothesis⟩

end Event

/-- A typed listener changes the event's view as its kind. -/
theorem Handler.forKind_changeView
    {σ : Type}
    (kind : Kind)
    (handler : Handler σ)
    (event : Event)
    (state : σ) :
    (forKind kind handler (event, state)).2.1 =
      event.changeView kind.id fun view => (handler (view, state)).2.1 := by
  rw [Event.changeView]
  cases isView : event.view? kind.id with
  | none => rw [forKind_of_view?_eq_none isView]
  | some view => rw [forKind_of_view?_eq_some isView]

end EventRelay
