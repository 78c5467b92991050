import EventRelay.Metrics
import Mathlib.Data.List.Infix
import Mathlib.Data.List.Nodup

/-!
# Registering metrics

The metrics of a bus are registered one by one, and a registration that fails undoes nothing.
All the same it never leaves a part of them behind. The names of the four metrics are made of one
stem and four endings, and no ending is the end of another one. So a name tells its stem and its
ending, metrics of different stems never share a name, and whoever finds the first name free finds
all four of them free.
-/

namespace EventRelay

/-! ## Names -/

namespace Metrics

/-- What the names of the four metrics end with, in the order in which they are registered. -/
def endings : List String :=
  ["_posts_total", "_listener_invocations_total", "_listener_failures_total",
    "_registered_listeners"]

theorem map_name_families (metrics : Metrics) :
    metrics.families.map Family.name = endings.map (metrics.stem ++ ·) := rfl

/-- No ending is the end of another one. -/
theorem eq_of_isSuffix :
    ∀ first ∈ endings, ∀ second ∈ endings,
      first.toList <:+ second.toList → first = second := by
  decide

/-- A name tells its stem and its ending. -/
theorem eq_of_append_eq
    {stem other first second : String}
    (isFirst : first ∈ endings)
    (isSecond : second ∈ endings)
    (sameName : stem ++ first = other ++ second) :
    stem = other ∧ first = second := by
  have sameLetters : stem.toList ++ first.toList = other.toList ++ second.toList := by
    rw [← String.toList_append, sameName, String.toList_append]
  have sameEnding : first = second := by
    have firstEnds : first.toList <:+ other.toList ++ second.toList := ⟨_, sameLetters⟩
    rcases List.suffix_or_suffix_of_suffix firstEnds (List.suffix_append _ _) with
      isSuffix | isSuffix
    · exact eq_of_isSuffix first isFirst second isSecond isSuffix
    · exact (eq_of_isSuffix second isSecond first isFirst isSuffix).symm
  subst sameEnding
  exact ⟨String.toList_injective (List.append_cancel_right sameLetters), rfl⟩

theorem mem_names_iff
    {metrics : Metrics}
    {name : String} :
    name ∈ metrics.families.map Family.name ↔
      ∃ ending ∈ endings, name = metrics.stem ++ ending := by
  rw [map_name_families, List.mem_map]
  exact exists_congr fun ending => and_congr_right fun _ => eq_comm

theorem nodup_names (metrics : Metrics) :
    (metrics.families.map Family.name).Nodup := by
  rw [map_name_families]
  refine List.Nodup.map_on ?_ (by decide)
  intro first isFirst second isSecond sameName
  exact (eq_of_append_eq isFirst isSecond sameName).2

/-- Metrics that share a name share their stem. -/
theorem stem_eq_of_mem_names
    {metrics other : Metrics}
    {name : String}
    (isName : name ∈ metrics.families.map Family.name)
    (isOther : name ∈ other.families.map Family.name) :
    metrics.stem = other.stem := by
  obtain ⟨first, isFirst, rfl⟩ := mem_names_iff.mp isName
  obtain ⟨second, isSecond, sameName⟩ := mem_names_iff.mp isOther
  exact (eq_of_append_eq isFirst isSecond sameName).1

end Metrics

namespace Registry

/-! ## One registration -/

theorem takes_iff
    {registry : Registry}
    {name : String} :
    registry.takes name = true ↔ name ∈ registry.families.map Family.name := by
  simp [takes]

/-- Metrics whose names are free and distinct are all added. -/
theorem addAll_of_free
    {registry : Registry}
    {families : List Family}
    (free : ∀ family ∈ families, registry.takes family.name = false)
    (distinct : (families.map Family.name).Nodup) :
    registry.addAll families = (⟨registry.families ++ families⟩, true) := by
  induction families generalizing registry with
  | nil => rw [addAll, List.append_nil]
  | cons family rest inductionHypothesis =>
      obtain ⟨isFree, restFree⟩ := List.forall_mem_cons.mp free
      obtain ⟨isNew, restDistinct⟩ := List.nodup_cons.mp distinct
      have stillFree : ∀ other ∈ rest,
          Registry.takes ⟨registry.families ++ [family]⟩ other.name = false := by
        intro other isOther
        have differs : family.name ≠ other.name := by
          intro sameName
          exact isNew (sameName ▸ List.mem_map_of_mem isOther)
        have notTaken := restFree other isOther
        simp only [takes, List.any_append, List.any_cons, List.any_nil, Bool.or_false] at notTaken ⊢
        rw [notTaken, Bool.false_or, decide_eq_false differs]
      rw [addAll, isFree, if_neg Bool.false_ne_true, inductionHypothesis stillFree restDistinct,
        List.append_assoc, List.singleton_append]

/-- A registration fails at once where the first name is taken. -/
theorem register_of_taken
    {registry : Registry}
    {metrics : Metrics}
    (taken : ∀ name ∈ metrics.families.map Family.name, registry.takes name = true) :
    registry.register metrics = (registry, false) := by
  have firstTaken := taken _ List.mem_cons_self
  rw [register, Metrics.families, addAll, if_pos firstTaken]

theorem register_of_free
    {registry : Registry}
    {metrics : Metrics}
    (free : ∀ name ∈ metrics.families.map Family.name, registry.takes name = false) :
    registry.register metrics = (⟨registry.families ++ metrics.families⟩, true) :=
  addAll_of_free (fun _ isFamily => free _ (List.mem_map_of_mem isFamily)) metrics.nodup_names

/-! ## Registrations one after the other -/

/-- What a registry that was empty holds after some metrics were registered in order, whether or
not this failed for some of them. -/
def afterAll (earlier : List Metrics) : Registry :=
  earlier.foldl (fun registry metrics => (registry.register metrics).1) empty

/-- Metrics of this stem have been registered, and their registration did not fail. -/
def Registered (earlier : List Metrics) (stem : String) : Prop :=
  ∃ before metrics after, earlier = before ++ metrics :: after ∧ metrics.stem = stem ∧
    ((afterAll before).register metrics).2 = true

theorem afterAll_append_singleton
    (earlier : List Metrics)
    (metrics : Metrics) :
    afterAll (earlier ++ [metrics]) = ((afterAll earlier).register metrics).1 := by
  rw [afterAll, List.foldl_append]
  rfl

/-- The names that a registry holds are all the names of the stems that were tried. -/
def Holds (registry : Registry) (earlier : List Metrics) : Prop :=
  ∀ name, registry.takes name = true ↔
    ∃ metrics ∈ earlier, name ∈ metrics.families.map Family.name

theorem Holds.taken
    {registry : Registry}
    {earlier : List Metrics}
    (holds : registry.Holds earlier)
    {metrics other : Metrics}
    (isEarlier : other ∈ earlier)
    (sameStem : other.stem = metrics.stem) :
    ∀ name ∈ metrics.families.map Family.name, registry.takes name = true := by
  intro name isName
  refine (holds name).mpr ⟨other, isEarlier, ?_⟩
  rwa [Metrics.map_name_families, sameStem, ← Metrics.map_name_families]

theorem Holds.free
    {registry : Registry}
    {earlier : List Metrics}
    (holds : registry.Holds earlier)
    {metrics : Metrics}
    (isNew : ∀ other ∈ earlier, other.stem ≠ metrics.stem) :
    ∀ name ∈ metrics.families.map Family.name, registry.takes name = false := by
  intro name isName
  refine Bool.not_eq_true _ ▸ fun isTaken => ?_
  obtain ⟨other, isEarlier, isOther⟩ := (holds name).mp isTaken
  exact isNew other isEarlier (Metrics.stem_eq_of_mem_names isOther isName)

theorem Holds.register
    {registry : Registry}
    {earlier : List Metrics}
    (holds : registry.Holds earlier)
    (metrics : Metrics) :
    (registry.register metrics).1.Holds (earlier ++ [metrics]) := by
  intro name
  by_cases isKnown : ∃ other ∈ earlier, other.stem = metrics.stem
  case pos =>
    obtain ⟨other, isEarlier, sameStem⟩ := isKnown
    have taken := holds.taken isEarlier sameStem
    rw [register_of_taken taken, holds name]
    simp only [List.mem_append, List.mem_singleton, or_and_right, exists_or, exists_eq_left]
    exact (or_iff_left_of_imp fun isName => (holds name).mp (taken name isName)).symm
  case neg =>
    have isNew : ∀ other ∈ earlier, other.stem ≠ metrics.stem := by
      intro other isEarlier sameStem
      exact isKnown ⟨other, isEarlier, sameStem⟩
    have grown : Registry.takes ⟨registry.families ++ metrics.families⟩ name = true ↔
        registry.takes name = true ∨ name ∈ metrics.families.map Family.name := by
      rw [takes_iff, takes_iff, List.map_append, List.mem_append]
    rw [register_of_free (holds.free isNew), grown, holds name]
    simp only [List.mem_append, List.mem_singleton, or_and_right, exists_or, exists_eq_left]

theorem holds_afterAll (earlier : List Metrics) :
    (afterAll earlier).Holds earlier := by
  induction earlier using List.reverseRecOn with
  | nil => simp [Holds, afterAll, empty, takes]
  | append_singleton earlier metrics inductionHypothesis =>
      rw [afterAll_append_singleton]
      exact inductionHypothesis.register metrics

/-- The first of all tries with a stem does not fail. -/
theorem registered_iff
    {earlier : List Metrics}
    {stem : String} :
    Registered earlier stem ↔ ∃ other ∈ earlier, other.stem = stem := by
  constructor
  · rintro ⟨before, metrics, after, rfl, sameStem, -⟩
    exact ⟨metrics, List.mem_append_right _ List.mem_cons_self, sameStem⟩
  · rintro ⟨other, isEarlier, sameStem⟩
    have isKnown : (earlier.find? fun metrics => metrics.stem = stem).isSome = true :=
      List.find?_isSome.mpr ⟨other, isEarlier, decide_eq_true sameStem⟩
    obtain ⟨metrics, isFirst⟩ := Option.isSome_iff_exists.mp isKnown
    obtain ⟨isOfStem, before, after, split, othersBefore⟩ :=
      List.find?_eq_some_iff_append.mp isFirst
    have ofStem : metrics.stem = stem := of_decide_eq_true isOfStem
    refine ⟨before, metrics, after, split, ofStem, ?_⟩
    rw [register_of_free ((holds_afterAll before).free fun other isBefore => ?_)]
    rw [ofStem]
    simpa using othersBefore other isBefore

/-- Whatever metrics were registered before in a registry that held nothing, metrics fail to be
registered exactly if some with the same stem have been registered there. Then the registry stays
as it is, and otherwise all four of them are added. -/
theorem registers_all_or_none
    (earlier : List Metrics)
    (metrics : Metrics) :
    (((afterAll earlier).register metrics).2 = false ↔ Registered earlier metrics.stem) ∧
      (((afterAll earlier).register metrics).2 = false →
        ((afterAll earlier).register metrics).1 = afterAll earlier) ∧
      (((afterAll earlier).register metrics).2 = true →
        ((afterAll earlier).register metrics).1.families =
          (afterAll earlier).families ++ metrics.families) := by
  have holds := holds_afterAll earlier
  by_cases isKnown : ∃ other ∈ earlier, other.stem = metrics.stem
  case pos =>
    obtain ⟨other, isEarlier, sameStem⟩ := isKnown
    rw [register_of_taken (holds.taken isEarlier sameStem)]
    exact ⟨⟨fun _ => registered_iff.mpr ⟨other, isEarlier, sameStem⟩, fun _ => rfl⟩,
      fun _ => rfl, nofun⟩
  case neg =>
    have isNew : ∀ other ∈ earlier, other.stem ≠ metrics.stem := by
      intro other isEarlier sameStem
      exact isKnown ⟨other, isEarlier, sameStem⟩
    rw [register_of_free (holds.free isNew)]
    exact ⟨⟨nofun, fun registered => absurd (registered_iff.mp registered) isKnown⟩, nofun,
      fun _ => rfl⟩

end Registry
end EventRelay
