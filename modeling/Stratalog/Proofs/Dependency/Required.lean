import Stratalog.Proofs.Dependency.Levels

/-!
# Required strata

The strata that some names require are those their own strata depend on, in however many steps, and no
others. They are listed by level and then by identifier, each once, so that each comes after those it
depends on. Names of no derived predicate ask for nothing, and asking for several names at once asks for
what each of them asks for.

None of this takes predicates to have names of their own: where a name is defined twice, its stratum is the
last one that has it.
-/

namespace Stratalog.Stratification

variable {strata : Stratification} {predicates : List Predicate} {roots others : List String} {i : Nat}
  {name : String}

/-- One stratum comes before another by level, then by identifier. -/
def Before (strata : Stratification) (a b : Nat) : Prop :=
  (strata.stratum a).level < (strata.stratum b).level ∨
    (strata.stratum a).level = (strata.stratum b).level ∧ a < b

/-- The strata required follow each other, and none is listed twice. -/
theorem pairwise_required (strata : Stratification) (roots : List String) :
    (strata.required roots).Pairwise strata.Before := by
  have hnodup : (strata.required roots).Nodup :=
    (List.mergeSort_perm _ _).nodup_iff.2 (Digraph.nodup_reach _ _ _)
  refine ((pairwise_inOrder strata _).and hnodup).imp fun ⟨hprecedes, hne⟩ => ?_
  rw [precedes_iff] at hprecedes
  unfold Before
  omega

/-- Several names at once require what each of them requires. -/
theorem Layered.mem_required_append_iff (h : strata.Layered) :
    i ∈ strata.required (roots ++ others) ↔ i ∈ strata.required roots ∨ i ∈ strata.required others := by
  simp only [h.mem_required_iff, List.mem_append, or_and_right, exists_or]

/-- The predicates of a stratum are derived. -/
theorem name_mem_of_mem_predicates (hi : i < (ofPredicates predicates).strata.length)
    (hname : name ∈ ((ofPredicates predicates).stratum i).predicates) :
    name ∈ predicates.map Predicate.name :=
  (predicates_sublist hi).subset hname

/-- The names that have a stratum are those of the derived predicates. -/
theorem exists_stratumOf?_iff :
    (∃ stratum, (ofPredicates predicates).stratumOf? name = some stratum) ↔
      name ∈ predicates.map Predicate.name := by
  constructor
  · rintro ⟨stratum, hfound⟩
    obtain ⟨hlisted, hname⟩ := mem_of_stratumOf? hfound
    obtain ⟨i, hi, rfl⟩ := mem_strata_iff.1 hlisted
    exact name_mem_of_mem_predicates hi hname
  · intro hname
    obtain ⟨i, hi, hmem⟩ := exists_mem_predicates hname
    rw [← Option.isSome_iff_exists, stratumOf?, List.find?_isSome]
    exact ⟨_, List.mem_reverse.2 (mem_strata_iff.2 ⟨i, hi, rfl⟩), List.contains_iff_mem.2 hmem⟩

/-- What makes a list the strata that some names require: it holds what their strata lead to along
dependences, in increasing order, and each stratum after all it depends on. -/
structure Schedules (strata : Stratification) (roots : List String) (ids : List Nat) : Prop where
  needed : ∀ i, i ∈ ids ↔ ∃ root ∈ roots, ∃ stratum, strata.stratumOf? root = some stratum ∧
    Relation.ReflTransGen strata.Below stratum.id i
  listed : ∀ i ∈ ids, i < strata.strata.length
  nodup : ids.Nodup
  increasing : ids.Pairwise strata.Before
  scheduled : strata.Scheduled ids

/-- Whatever the predicates, the strata that names require are those their strata lead to, in an order
in which they can be evaluated. -/
theorem required_schedules (predicates : List Predicate) (roots others : List String) :
    (∀ name, (∃ stratum, (ofPredicates predicates).stratumOf? name = some stratum) ↔
        name ∈ predicates.map Predicate.name) ∧
      (∀ name stratum, (ofPredicates predicates).stratumOf? name = some stratum →
        name ∈ stratum.predicates ∧ (ofPredicates predicates).strata[stratum.id]? = some stratum) ∧
      (ofPredicates predicates).Schedules roots ((ofPredicates predicates).required roots) ∧
      ∀ i, i ∈ (ofPredicates predicates).required (roots ++ others) ↔
        i ∈ (ofPredicates predicates).required roots ∨ i ∈ (ofPredicates predicates).required others := by
  have hlayered := layered_ofPredicates predicates
  refine ⟨fun name => exists_stratumOf?_iff, fun name stratum hfound => ?_,
    ⟨fun i => hlayered.mem_required_iff, fun i => hlayered.lt_of_mem_required, ?_,
      pairwise_required _ roots, hlayered.scheduled_required roots⟩,
    fun i => hlayered.mem_required_append_iff⟩
  · obtain ⟨hlisted, hname⟩ := mem_of_stratumOf? hfound
    obtain ⟨i, hi, rfl⟩ := mem_strata_iff.1 hlisted
    rw [hlayered.id i hi, stratum_eq_getElem hi]
    exact ⟨stratum_eq_getElem hi ▸ hname, List.getElem?_eq_getElem hi⟩
  · refine (pairwise_required _ roots).imp fun {a b} hbefore heq => ?_
    subst heq
    rcases hbefore with hlevel | ⟨-, hlt⟩
    · exact lt_irrefl _ hlevel
    · exact lt_irrefl _ hlt

end Stratalog.Stratification
