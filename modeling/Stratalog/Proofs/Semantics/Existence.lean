import Mathlib.Order.FixedPoints
import Stratalog.Proofs.Dependency.Stratification

/-!
# Existence of perfect models

A perfect model is put together from the strata, lowest first. Each stratum adds the least rows
closed under the rules of its members over what was put together before, and later strata leave
these rows alone.
-/

namespace Stratalog

variable {render : Value → String} {base : Interpretation} {predicates : List Predicate}
  {strata : Stratification} {i j : Nat} {name : String}

namespace Stratification

/-- The predicates that a stratum names. -/
def members (strata : Stratification) (predicates : List Predicate) (i : Nat) : List Predicate :=
  predicates.filter fun predicate => predicate.name ∈ (strata.stratum i).predicates

/-- The least rows of the members of a stratum, over the rows of everything else. -/
def least [PatternEngine] (render : Value → String) (strata : Stratification)
    (predicates : List Predicate) (i : Nat)
    (fixed : Interpretation) : Interpretation :=
  OrderHom.lfp ⟨consequences render (strata.members predicates i) fixed,
    fun _ _ => consequences_mono⟩

/-- What is put together from the first strata. Predicates of later ones have no rows yet. -/
def layers [PatternEngine] (render : Value → String) (base : Interpretation) (strata : Stratification)
    (predicates : List Predicate) : Nat → Interpretation
  | 0 => Interpretation.overlay (predicates.map Predicate.name) base ⊥
  | i + 1 => Interpretation.overlay (strata.stratum i).predicates
      (layers render base strata predicates i)
      (strata.least render predicates i (layers render base strata predicates i))

/-- The members of a stratum have the names of the stratum. -/
theorem Sound.mem_map_members (h : strata.Sound predicates) (hi : i < strata.strata.length) :
    name ∈ (strata.members predicates i).map Predicate.name ↔
      name ∈ (strata.stratum i).predicates := by
  simp only [members, List.mem_map, List.mem_filter, decide_eq_true_eq]
  constructor
  · rintro ⟨predicate, ⟨-, hname⟩, rfl⟩
    exact hname
  · intro hname
    obtain ⟨predicate, hmem, rfl⟩ := List.mem_map.1 (h.member i hi name hname)
    exact ⟨predicate, ⟨hmem, hname⟩, rfl⟩

/-- The members of a stratum are the class of each of them. -/
theorem Sound.mem_members_iff (h : strata.Sound predicates) (hi : i < strata.strata.length)
    (hname : name ∈ (strata.stratum i).predicates) (predicate : Predicate) :
    predicate ∈ strata.members predicates i ↔ predicate ∈ classOf predicates name := by
  simp only [members, mem_classOf, List.mem_filter, decide_eq_true_eq]
  exact and_congr_right fun hmem => h.mem_iff_together hi hname hmem

/-- What the strata from one on do not name is left alone by them. -/
theorem layers_of_not_mem [PatternEngine] (hij : i ≤ j)
    (hname : ∀ k, i ≤ k → k < j → name ∉ (strata.stratum k).predicates) :
    layers render base strata predicates j name = layers render base strata predicates i name := by
  induction j, hij using Nat.le_induction with
  | base => rfl
  | succ j hij ih =>
    rw [layers, Interpretation.overlay, if_neg (hname j hij (Nat.lt_succ_self j))]
    exact ih fun k hik hkj => hname k hik (Nat.lt_succ_of_lt hkj)

/-- A predicate keeps the rows that its own stratum gave it. -/
theorem Sound.layers_of_mem [PatternEngine] (h : strata.Sound predicates) (hij : i < j)
    (hj : j ≤ strata.strata.length) (hname : name ∈ (strata.stratum i).predicates) :
    layers render base strata predicates j name =
      strata.least render predicates i (layers render base strata predicates i) name := by
  have hlater : ∀ k, i + 1 ≤ k → k < j → name ∉ (strata.stratum k).predicates := by
    intro k hik hkj hother
    have heq := (h.together i (by omega) name hname k (by omega) name hother).2 (Together.refl _ _)
    omega
  rw [layers_of_not_mem hij hlater, layers, Interpretation.overlay, if_pos hname]

/-- What is not derived has the rows of the base. -/
theorem Sound.layers_base [PatternEngine] (h : strata.Sound predicates) (hj : j ≤ strata.strata.length)
    (hname : name ∉ predicates.map Predicate.name) :
    layers render base strata predicates j name = base name := by
  have hnone : ∀ k, 0 ≤ k → k < j → name ∉ (strata.stratum k).predicates := fun k _ hk hin =>
    hname (h.member k (by omega) name hin)
  rw [layers_of_not_mem (Nat.zero_le j) hnone, layers, Interpretation.overlay, if_neg hname]

/-- What a class reads from outside it is derived in a lower stratum, or not derived. -/
theorem Sound.lower_of_classOf (h : strata.Sound predicates) (hi : i < strata.strata.length)
    (hname : name ∈ (strata.stratum i).predicates) {predicate : Predicate}
    (hmem : predicate ∈ classOf predicates name) {read : String × Polarity}
    (hread : read ∈ predicate.reads) (hderived : read.1 ∈ predicates.map Predicate.name)
    (hnot : read.1 ∉ (classOf predicates name).map Predicate.name) :
    ∃ d < i, read.1 ∈ (strata.stratum d).predicates := by
  have hclass := h.mem_members_iff hi hname
  have hreader := (hclass predicate).2 hmem
  simp only [members, List.mem_filter, decide_eq_true_eq] at hreader
  have houtside : read.1 ∉ (strata.stratum i).predicates := by
    rw [← h.mem_map_members hi]
    simpa only [List.mem_map, hclass] using hnot
  obtain ⟨d, -, hlt, hlower⟩ := h.lower_of_reads hi hreader.1 hreader.2 hread hderived houtside
  exact ⟨d, hlt, hlower⟩

variable [PatternEngine]

/-- What the members of a stratum read from outside is in place before the stratum. -/
theorem Sound.layers_of_reads (h : strata.Sound predicates) (hi : i < strata.strata.length)
    {predicate : Predicate} (hmem : predicate ∈ strata.members predicates i)
    {read : String × Polarity} (hread : read ∈ predicate.reads)
    (hnot : read.1 ∉ (strata.members predicates i).map Predicate.name) :
    layers render base strata predicates strata.strata.length read.1 =
      layers render base strata predicates i read.1 := by
  rw [h.mem_map_members hi] at hnot
  simp only [members, List.mem_filter, decide_eq_true_eq] at hmem
  by_cases hderived : read.1 ∈ predicates.map Predicate.name
  · obtain ⟨d, -, hlt, hin⟩ := h.lower_of_reads hi hmem.1 hmem.2 hread hderived hnot
    rw [h.layers_of_mem hlt hi.le hin, h.layers_of_mem (hlt.trans hi) le_rfl hin]
  · rw [h.layers_base le_rfl hderived, h.layers_base hi.le hderived]

/-- Least rows are had by the members only. -/
theorem Sound.only_least (h : strata.Sound predicates) (hi : i < strata.strata.length)
    (fixed : Interpretation) :
    (strata.least render predicates i fixed).only (strata.stratum i).predicates =
      strata.least render predicates i fixed := by
  funext name
  ext row
  refine and_iff_right_of_imp fun hrow => ?_
  rw [least, ← OrderHom.map_lfp] at hrow
  by_contra hname
  have hempty : consequences render (strata.members predicates i) fixed
      (strata.least render predicates i fixed) name = ∅ :=
    consequences_eq_empty (mt (h.mem_map_members hi).1 hname)
  exact Set.eq_empty_iff_forall_notMem.1 hempty row hrow

/-- What the strata put together is a perfect model. -/
theorem Sound.perfectModel_layers (h : strata.Sound predicates) (render : Value → String)
    (base : Interpretation) : PerfectModel render base predicates
      (layers render base strata predicates strata.strata.length) := by
  refine ⟨fun name hname => h.layers_base le_rfl hname, fun name hname hpositive => ?_⟩
  obtain ⟨i, hi, hin⟩ := h.covers name hname
  have hclass := h.mem_members_iff hi hin
  have hpositiveMembers : PositiveWithin (strata.members predicates i) := by
    intro predicate hpredicate read hread hread'
    refine hpositive predicate ((hclass predicate).1 hpredicate) read hread ?_
    obtain ⟨other, hother, heq⟩ := List.mem_map.1 hread'
    exact List.mem_map.2 ⟨other, (hclass other).1 hother, heq⟩
  have honly : (layers render base strata predicates strata.strata.length).only
      ((classOf predicates name).map Predicate.name) =
        strata.least render predicates i (layers render base strata predicates i) := by
    rw [← h.only_least hi]
    funext other
    ext row
    have hother : other ∈ (classOf predicates name).map Predicate.name ↔
        other ∈ (strata.stratum i).predicates := by
      rw [← h.mem_map_members hi]
      simp only [List.mem_map, hclass]
    simp only [Interpretation.only, Set.mem_ofPred_eq, hother]
    refine and_congr_right fun hmem => ?_
    rw [h.layers_of_mem hi le_rfl hmem]
  have hoperator (X : Interpretation) :
      consequences render (classOf predicates name)
          (layers render base strata predicates strata.strata.length) X =
        consequences render (strata.members predicates i)
          (layers render base strata predicates i) X := by
    rw [← consequences_congr_members hclass]
    exact consequences_congr hpositiveMembers
      (fun predicate hmem read hread hnot => h.layers_of_reads hi hmem hread hnot) X
  simp only [hoperator, honly]
  exact OrderHom.isLeast_lfp_le ⟨consequences render (strata.members predicates i)
    (layers render base strata predicates i), fun _ _ => consequences_mono⟩

/-- Where every class has a meaning, perfect models agree. -/
theorem Sound.perfectModel_unique (h : strata.Sound predicates)
    (hpositive : ∀ name ∈ predicates.map Predicate.name, PositiveWithin (classOf predicates name))
    {M M' : Interpretation} (hM : PerfectModel render base predicates M)
    (hM' : PerfectModel render base predicates M') : M = M' := by
  have hstratum : ∀ i < strata.strata.length, ∀ name ∈ (strata.stratum i).predicates,
      M name = M' name := by
    intro i
    induction i using Nat.strong_induction_on with
    | _ i ih =>
      intro hi name hin
      have hname := h.member i hi name hin
      have hoperator (X : Interpretation) :
          consequences render (classOf predicates name) M X =
            consequences render (classOf predicates name) M' X := by
        refine consequences_congr (hpositive name hname) (fun predicate hmem read hread hnot => ?_) X
        by_cases hderived : read.1 ∈ predicates.map Predicate.name
        · obtain ⟨d, hlt, hlower⟩ := h.lower_of_classOf hi hin hmem hread hderived hnot
          exact ih d hlt (hlt.trans hi) read.1 hlower
        · rw [hM.base read.1 hderived, hM'.base read.1 hderived]
      have hleast := hM.derived name hname (hpositive name hname)
      simp only [hoperator] at hleast
      have honly := hleast.unique (hM'.derived name hname (hpositive name hname))
      have hself : name ∈ (classOf predicates name).map Predicate.name :=
        mem_map_classOf.2 ⟨hname, Together.refl predicates name⟩
      ext row
      have hrow := Set.ext_iff.1 (congrFun honly name) row
      simpa only [Interpretation.only, Set.mem_ofPred_eq, hself, true_and] using hrow
  funext name
  by_cases hname : name ∈ predicates.map Predicate.name
  · obtain ⟨i, hi, hin⟩ := h.covers name hname
    exact hstratum i hi name hin
  · rw [hM.base name hname, hM'.base name hname]

end Stratification

/-- Derived predicates with names of their own have a perfect model. -/
theorem exists_perfectModel [PatternEngine] (hnodup : (predicates.map Predicate.name).Nodup)
    (render : Value → String) (base : Interpretation) :
    ∃ M, PerfectModel render base predicates M :=
  ⟨_, (Stratification.sound_ofPredicates hnodup).perfectModel_layers render base⟩

end Stratalog
