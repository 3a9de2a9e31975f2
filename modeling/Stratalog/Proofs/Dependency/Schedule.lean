import Stratalog.Proofs.Dependency.Stratification

/-!
# Schedules

The strata that some predicates require are those their own strata depend on, directly or through
others. Listed by level each stands after all it depends on, so going through the list from the
front finds everything a stratum reads finished.
-/

namespace Stratalog.Stratification

variable {strata : Stratification} {predicates : List Predicate} {ids : List Nat} {i d : Nat}
  {name : String}

/-- Whether each stratum listed comes after those it depends on. -/
def Scheduled (strata : Stratification) (ids : List Nat) : Prop :=
  ∀ before i after, ids = before ++ i :: after → ∀ d ∈ (strata.stratum i).dependsOn, d ∈ before

/-- The first of the strata listed are scheduled if all are. -/
theorem Scheduled.of_append {rest : List Nat} (h : strata.Scheduled (ids ++ rest)) :
    strata.Scheduled ids := by
  rintro before i after rfl d hd
  exact h before i (after ++ rest) (by simp) d hd

/-- A stratum by its position. -/
theorem stratum_eq_getElem (hi : i < strata.strata.length) : strata.stratum i = strata.strata[i] := by
  rw [stratum, List.getD_eq_getElem?_getD, List.getElem?_eq_getElem hi, Option.getD_some]

/-- A stratum is one that stands at some position. -/
theorem mem_strata_iff {stratum : Stratum} :
    stratum ∈ strata.strata ↔ ∃ i < strata.strata.length, strata.stratum i = stratum := by
  rw [List.mem_iff_getElem]
  constructor
  · rintro ⟨i, hi, rfl⟩
    exact ⟨i, hi, stratum_eq_getElem hi⟩
  · rintro ⟨i, hi, rfl⟩
    exact ⟨i, hi, (stratum_eq_getElem hi).symm⟩

/-- The stratum that is found for a predicate is one of the strata and holds the predicate. -/
theorem mem_of_stratumOf? {stratum : Stratum} (h : strata.stratumOf? name = some stratum) :
    stratum ∈ strata.strata ∧ name ∈ stratum.predicates := by
  have hcontains : stratum.contains name = true :=
    List.find?_some (p := fun other : Stratum => other.contains name) h
  exact ⟨List.mem_reverse.1 (List.mem_of_find?_eq_some h), List.contains_iff_mem.1 hcontains⟩

/-- The stratum of a derived predicate is found. -/
theorem Sound.stratumOf?_eq (h : strata.Sound predicates) (hi : i < strata.strata.length)
    (hname : name ∈ (strata.stratum i).predicates) :
    (strata.stratumOf? name).map Stratum.id = some i := by
  have hsome : (strata.stratumOf? name).isSome = true := by
    rw [stratumOf?, List.find?_isSome]
    exact ⟨strata.stratum i, List.mem_reverse.2 (mem_strata_iff.2 ⟨i, hi, rfl⟩),
      List.contains_iff_mem.2 hname⟩
  obtain ⟨found, hfound⟩ := Option.isSome_iff_exists.1 hsome
  obtain ⟨hlisted, hmem⟩ := mem_of_stratumOf? hfound
  obtain ⟨j, hj, rfl⟩ := mem_strata_iff.1 hlisted
  have heq : i = j := (h.together i hi name hname j hj name hmem).2 (Together.refl predicates name)
  rw [hfound, Option.map_some, h.id j hj, heq]

/-- A stratum that is found is one, and holds the predicate it was found for. -/
theorem Layered.of_stratumOf? (h : strata.Layered)
    (hfound : (strata.stratumOf? name).map Stratum.id = some i) :
    i < strata.strata.length ∧ name ∈ (strata.stratum i).predicates := by
  obtain ⟨found, hfind, rfl⟩ := Option.map_eq_some_iff.1 hfound
  obtain ⟨hlisted, hmem⟩ := mem_of_stratumOf? hfind
  obtain ⟨j, hj, rfl⟩ := mem_strata_iff.1 hlisted
  rw [h.id j hj]
  exact ⟨hj, hmem⟩

/-- Strata depend on strata. -/
theorem Layered.closed_dependsOn (h : strata.Layered) :
    Digraph.Closed (fun i => (strata.stratum i).dependsOn) strata.strata.length :=
  fun i hi d hd => (h.below i hi d hd).1.trans hi

/-- The order is by level, then by identifier. -/
theorem precedes_iff {a b : Nat} : strata.precedes a b = true ↔
    (strata.stratum a).level < (strata.stratum b).level ∨
      (strata.stratum a).level = (strata.stratum b).level ∧ a ≤ b := by
  simp [precedes]

/-- Putting strata in order lists the same strata. -/
@[simp] theorem mem_inOrder : i ∈ strata.inOrder ids ↔ i ∈ ids := by
  rw [inOrder, List.mem_mergeSort]

/-- Strata that are put in order follow each other by level, then by identifier. -/
theorem pairwise_inOrder (strata : Stratification) (ids : List Nat) :
    (strata.inOrder ids).Pairwise fun a b => strata.precedes a b = true := by
  refine List.pairwise_mergeSort (fun a b c hab hbc => ?_) (fun a b => ?_) ids
  · rw [precedes_iff] at hab hbc ⊢
    omega
  · rw [Bool.or_eq_true, precedes_iff, precedes_iff]
    omega

/-- By level each stratum comes after those it depends on. -/
theorem Layered.scheduled_of_pairwise (h : strata.Layered)
    (hlt : ∀ i ∈ ids, i < strata.strata.length)
    (hclosed : ∀ i ∈ ids, ∀ d ∈ (strata.stratum i).dependsOn, d ∈ ids)
    (hsorted : ids.Pairwise fun a b => (strata.stratum a).level ≤ (strata.stratum b).level) :
    strata.Scheduled ids := by
  intro before i after hsplit d hd
  have hi : i ∈ ids := hsplit ▸ List.mem_append_right _ List.mem_cons_self
  obtain ⟨hlower, hlevel⟩ := h.below i (hlt i hi) d hd
  have hlisted : d ∈ before ++ i :: after := hsplit ▸ hclosed i hi d hd
  rcases List.mem_append.1 hlisted with hbefore | hlater
  · exact hbefore
  · rw [hsplit] at hsorted
    rcases List.mem_cons.1 hlater with rfl | hlater
    · exact absurd hlower (lt_irrefl d)
    · have hle := List.rel_of_pairwise_cons (List.pairwise_append.1 hsorted).2.1 hlater
      exact absurd hlevel (Nat.not_lt.2 hle)

/-- Strata that are put in order come after those they depend on. -/
theorem Layered.scheduled_inOrder (h : strata.Layered)
    (hlt : ∀ i ∈ ids, i < strata.strata.length)
    (hclosed : ∀ i ∈ ids, ∀ d ∈ (strata.stratum i).dependsOn, d ∈ ids) :
    strata.Scheduled (strata.inOrder ids) := by
  refine h.scheduled_of_pairwise (fun i hi => hlt i (mem_inOrder.1 hi))
    (fun i hi d hd => mem_inOrder.2 (hclosed i (mem_inOrder.1 hi) d hd))
    ((pairwise_inOrder strata ids).imp fun hprecedes => ?_)
  rw [precedes_iff] at hprecedes
  omega

section Required

variable {roots : List String}

/-- The strata required are those of the roots and all that these depend on, however indirectly. -/
theorem Layered.mem_required_iff (h : strata.Layered) : i ∈ strata.required roots ↔
    ∃ root ∈ roots, ∃ stratum, strata.stratumOf? root = some stratum ∧
      Digraph.Leads (fun i => (strata.stratum i).dependsOn) stratum.id i := by
  have hstarts : ∀ r ∈ roots.filterMap fun name => (strata.stratumOf? name).map Stratum.id,
      r < strata.strata.length := fun r hr =>
    let ⟨_, _, hfound⟩ := List.mem_filterMap.1 hr
    (h.of_stratumOf? hfound).1
  rw [required, mem_inOrder, Digraph.mem_reach_iff h.closed_dependsOn hstarts]
  simp only [List.mem_filterMap, Option.map_eq_some_iff]
  constructor
  · rintro ⟨_, ⟨root, hroot, stratum, hfound, rfl⟩, hlead⟩
    exact ⟨root, hroot, stratum, hfound, hlead⟩
  · rintro ⟨root, hroot, stratum, hfound, hlead⟩
    exact ⟨_, ⟨root, hroot, stratum, hfound, rfl⟩, hlead⟩

/-- What is required is among the strata. -/
theorem Layered.lt_of_mem_required (h : strata.Layered) (hi : i ∈ strata.required roots) :
    i < strata.strata.length := by
  obtain ⟨root, -, stratum, hfound, hlead⟩ := h.mem_required_iff.1 hi
  have hroot : (strata.stratumOf? root).map Stratum.id = some stratum.id := by rw [hfound]; rfl
  exact h.closed_dependsOn.lt_of_leads (h.of_stratumOf? hroot).1 hlead

/-- What a required stratum depends on is required. -/
theorem Layered.mem_required_of_dependsOn (h : strata.Layered) (hi : i ∈ strata.required roots)
    (hd : d ∈ (strata.stratum i).dependsOn) : d ∈ strata.required roots := by
  obtain ⟨root, hroot, stratum, hfound, hlead⟩ := h.mem_required_iff.1 hi
  exact h.mem_required_iff.2 ⟨root, hroot, stratum, hfound, hlead.tail hd⟩

/-- The strata required come after those they depend on. -/
theorem Layered.scheduled_required (h : strata.Layered) (roots : List String) :
    strata.Scheduled (strata.required roots) := by
  refine h.scheduled_inOrder (fun i hi => ?_) fun i hi d hd => ?_
  · exact h.lt_of_mem_required (mem_inOrder.2 hi)
  · exact mem_inOrder.1 (h.mem_required_of_dependsOn (mem_inOrder.2 hi) hd)

/-- The strata required are those of the roots and all they depend on, each after those it depends
on. -/
theorem Sound.required_spec (h : strata.Sound predicates) (roots : List String) :
    (∀ i ∈ strata.required roots, i < strata.strata.length) ∧
      (∀ name ∈ roots, ∀ i < strata.strata.length, name ∈ (strata.stratum i).predicates →
        i ∈ strata.required roots) ∧
      (∀ i ∈ strata.required roots, ∀ d ∈ (strata.stratum i).dependsOn,
        d ∈ strata.required roots) ∧
      strata.Scheduled (strata.required roots) := by
  refine ⟨fun i => h.lt_of_mem_required, fun name hname i hi hin => ?_,
    fun i hi d => h.mem_required_of_dependsOn hi, h.scheduled_required roots⟩
  obtain ⟨stratum, hfound, rfl⟩ := Option.map_eq_some_iff.1 (h.stratumOf?_eq hi hin)
  exact h.mem_required_iff.2 ⟨name, hname, stratum, hfound, .refl⟩

end Required

end Stratalog.Stratification
