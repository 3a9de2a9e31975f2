import Stratalog.Proofs.Dependency.Reading

/-!
# Levels

A stratum depends on exactly the other strata that its members read. Each of these is on a lower level,
and some of them on the next lower one, so the level of a stratum is the length of the longest chain of
dependencies that goes down from it. Strata on one level never depend on each other, however indirectly.

Together with what is known of strata otherwise this settles what the strata of a list of predicates are.
-/

namespace Stratalog

/-- A maximum over a start is the start or an item. -/
theorem foldl_max_eq_or_mem (items : List Nat) (start : Nat) :
    items.foldl max start = start ∨ items.foldl max start ∈ items := by
  induction items generalizing start with
  | nil => exact Or.inl rfl
  | cons item rest ih =>
    rw [List.foldl_cons]
    rcases ih (max start item) with hstart | hmem
    · rw [hstart]
      rcases max_choice start item with hmax | hmax
      · exact Or.inl hmax
      · rw [hmax]
        exact Or.inr List.mem_cons_self
    · exact Or.inr (List.mem_cons_of_mem _ hmem)

namespace Stratification

variable {predicates : List Predicate} {strata : Stratification} {i j d : Nat} {name : String}

/-- A stratum depends directly on another. -/
def Below (strata : Stratification) (i d : Nat) : Prop :=
  d ∈ (strata.stratum i).dependsOn

/-- Strata each of which depends directly on the next one, all below a given stratum. -/
def DescendsFrom (strata : Stratification) (i : Nat) (chain : List Nat) : Prop :=
  (i :: chain).IsChain strata.Below

/-- The strata hold every predicate once. -/
theorem Sound.perm_names (h : strata.Sound predicates)
    (hnodup : (predicates.map Predicate.name).Nodup) :
    (strata.strata.flatMap Stratum.predicates).Perm (predicates.map Predicate.name) := by
  refine (List.perm_ext_iff_of_nodup (List.nodup_flatMap.2 ⟨fun stratum hmem => ?_, ?_⟩) hnodup).2
    fun name => ?_
  · obtain ⟨i, hi, rfl⟩ := mem_strata_iff.1 hmem
    exact h.nodup i hi
  · refine List.pairwise_iff_getElem.2 fun i j hi hj hlt name hname hother => ?_
    rw [← stratum_eq_getElem hi] at hname
    rw [← stratum_eq_getElem hj] at hother
    have heq : i = j := (h.together i hi name hname j hj name hother).2 (Together.refl predicates name)
    omega
  · rw [List.mem_flatMap]
    constructor
    · rintro ⟨stratum, hmem, hname⟩
      obtain ⟨i, hi, rfl⟩ := mem_strata_iff.1 hmem
      exact h.member i hi name hname
    · intro hname
      obtain ⟨i, hi, hin⟩ := h.covers name hname
      exact ⟨_, mem_strata_iff.2 ⟨i, hi, rfl⟩, hin⟩

/-- The stratum of a predicate is the one that holds it. -/
theorem Sound.stratumOf?_eq_some_iff (h : strata.Sound predicates) {stratum : Stratum} :
    strata.stratumOf? name = some stratum ↔ stratum ∈ strata.strata ∧ name ∈ stratum.predicates := by
  refine ⟨mem_of_stratumOf?, fun ⟨hmem, hname⟩ => ?_⟩
  obtain ⟨i, hi, rfl⟩ := mem_strata_iff.1 hmem
  obtain ⟨found, hfind, hid⟩ := Option.map_eq_some_iff.1 (h.stratumOf?_eq hi hname)
  obtain ⟨hlisted, -⟩ := mem_of_stratumOf? hfind
  obtain ⟨j, hj, rfl⟩ := mem_strata_iff.1 hlisted
  rw [h.id j hj] at hid
  rw [hfind, hid]

/-- The strata that a stratum depends on are listed in increasing order, each once. -/
theorem pairwise_dependsOn (hi : i < (ofPredicates predicates).strata.length) :
    ((ofPredicates predicates).stratum i).dependsOn.Pairwise (· < ·) := by
  obtain ⟨members, hmembers⟩ := exists_members hi
  rw [stratum_eq hmembers, DependencyGraph.stratumOf]
  exact pairwise_lt_mergeSort (nodup_eraseDups _)

/-- A stratum depends directly on the other strata of which its members read a member. -/
theorem below_iff (hnodup : (predicates.map Predicate.name).Nodup)
    (hi : i < (ofPredicates predicates).strata.length) :
    (ofPredicates predicates).Below i d ↔ d < (ofPredicates predicates).strata.length ∧ d ≠ i ∧
      ∃ a ∈ ((ofPredicates predicates).stratum i).predicates,
        ∃ b ∈ ((ofPredicates predicates).stratum d).predicates, Reads predicates a b := by
  constructor
  · intro hd
    have hlt := (lt_of_mem_dependsOn hi hd).1
    obtain ⟨members, hmembers⟩ := exists_members hi
    obtain ⟨hclasses, hall, -⟩ := components_spec hnodup
    obtain ⟨-, r, -, hclass⟩ := hclasses i members hmembers
    rw [Below, stratum_eq hmembers] at hd
    obtain ⟨u, hu, v, hnext, -, rfl⟩ := mem_dependsOn_iff.1 hd
    have hu' := ((hclass u).1 hu).1
    have hv := DependencyGraph.closed_next hnodup u hu' v hnext
    obtain ⟨others, hothers, hmem⟩ := exists_componentOf (hall v hv)
    have hua := List.getElem?_eq_getElem hu'
    have hvb := List.getElem?_eq_getElem hv
    exact ⟨hlt.trans hi, hlt.ne, _, (mem_predicates_iff hnodup hmembers).2 ⟨u, hu, hua⟩, _,
      (mem_predicates_iff hnodup hothers).2 ⟨v, hmem, hvb⟩,
      (DependencyGraph.mem_next_iff hnodup hua hvb).1 hnext⟩
  · rintro ⟨hd, hne, a, ha, b, hb, hreads⟩
    have hnot : b ∉ ((ofPredicates predicates).stratum i).predicates := fun hin =>
      hne ((eq_iff_together hnodup hd hb hi hin).2 (Together.refl predicates b))
    obtain ⟨other, hother, hin⟩ := exists_dependsOn hnodup hi ha hreads hnot
    have hlt := (lt_of_mem_dependsOn hi hother).1.trans hi
    rwa [Below, (eq_iff_together hnodup hd hb hlt hin).2 (Together.refl predicates b)]

/-- The level is the greatest of those next above the strata depended on. -/
theorem level_eq (hi : i < (ofPredicates predicates).strata.length) :
    ((ofPredicates predicates).stratum i).level =
      (((ofPredicates predicates).stratum i).dependsOn.map fun d =>
        ((ofPredicates predicates).stratum d).level + 1).foldl max 0 := by
  obtain ⟨members, hmembers⟩ := exists_members hi
  have hstratum := stratum_eq hmembers
  have hbefore : ∀ d ∈ ((ofPredicates predicates).stratum i).dependsOn,
      ((ofPredicates predicates).strata.take i).getD d default =
        (ofPredicates predicates).stratum d := fun d hd => by
    rw [stratum, List.getD_eq_getElem?_getD, List.getD_eq_getElem?_getD,
      List.getElem?_take_of_lt (lt_of_mem_dependsOn hi hd).1]
  have hlevel : ((ofPredicates predicates).stratum i).level =
      (((ofPredicates predicates).stratum i).dependsOn.map fun d =>
        (((ofPredicates predicates).strata.take i).getD d default).level + 1).foldl max 0 := by
    rw [hstratum]
    rfl
  rw [hlevel]
  exact congrArg (List.foldl max 0) (List.map_congr_left fun d hd => by rw [hbefore d hd])

/-- Whatever a stratum depends on, however indirectly, is on a lower level. -/
theorem Sound.level_lt_of_transGen (h : strata.Sound predicates) (hi : i < strata.strata.length)
    (hbelow : Relation.TransGen strata.Below i j) :
    (strata.stratum j).level < (strata.stratum i).level := by
  induction hbelow using Relation.TransGen.head_induction_on with
  | single hstep => exact (h.below _ hi _ hstep).2
  | head hstep _ ih =>
    obtain ⟨hlower, hlevel⟩ := h.below _ hi _ hstep
    exact (ih (hlower.trans hi)).trans hlevel

/-- A chain that goes down from a stratum is no longer than its level. -/
theorem Sound.length_le_level (h : strata.Sound predicates) (hi : i < strata.strata.length)
    {chain : List Nat} (hchain : strata.DescendsFrom i chain) :
    chain.length ≤ (strata.stratum i).level := by
  induction chain generalizing i with
  | nil => exact Nat.zero_le _
  | cons d rest ih =>
    obtain ⟨hstep, hrest⟩ := List.isChain_cons_cons.1 hchain
    obtain ⟨hlower, hlevel⟩ := h.below i hi d hstep
    exact (Nat.succ_le_succ (ih (hlower.trans hi) hrest)).trans hlevel

/-- Some chain that goes down from a stratum is as long as its level. -/
theorem exists_descendsFrom (hnodup : (predicates.map Predicate.name).Nodup)
    (hi : i < (ofPredicates predicates).strata.length) :
    ∃ chain, (ofPredicates predicates).DescendsFrom i chain ∧
      chain.length = ((ofPredicates predicates).stratum i).level := by
  induction i using Nat.strongRecOn with
  | ind i ih =>
    have hlevel := level_eq hi
    rcases foldl_max_eq_or_mem (((ofPredicates predicates).stratum i).dependsOn.map fun d =>
      ((ofPredicates predicates).stratum d).level + 1) 0 with hzero | hmem
    · exact ⟨[], List.isChain_singleton i, by rw [hlevel, hzero, List.length_nil]⟩
    · obtain ⟨d, hd, htop⟩ := List.mem_map.1 hmem
      obtain ⟨hlower, -⟩ := (sound_ofPredicates hnodup).below i hi d hd
      obtain ⟨chain, hchain, hlength⟩ := ih d hlower (hlower.trans hi)
      exact ⟨d :: chain, List.isChain_cons_cons.2 ⟨hd, hchain⟩,
        by rw [hlevel, ← htop, List.length_cons, hlength]⟩

/-- What makes strata those of a list of predicates: they share out the names, two predicates stand in
one stratum when chains of mentions lead from each to the other, and the rest of what a stratum says of
itself is true of its members. -/
structure Stratifies (strata : Stratification) (predicates : List Predicate) : Prop where
  partition : (strata.strata.flatMap Stratum.predicates).Perm (predicates.map Predicate.name)
  nonempty : ∀ i < strata.strata.length, (strata.stratum i).predicates ≠ []
  together : ∀ i < strata.strata.length, ∀ a ∈ (strata.stratum i).predicates,
    ∀ j < strata.strata.length, ∀ b ∈ (strata.stratum j).predicates,
      i = j ↔ LeadsTo predicates a b ∧ LeadsTo predicates b a
  id : ∀ i < strata.strata.length, (strata.stratum i).id = i
  listed : ∀ i < strata.strata.length, (strata.stratum i).dependsOn.Pairwise (· < ·)
  dependsOn : ∀ i < strata.strata.length, ∀ d, strata.Below i d ↔
    d < strata.strata.length ∧ d ≠ i ∧ ∃ a ∈ (strata.stratum i).predicates,
      ∃ b ∈ (strata.stratum d).predicates, ∃ polarity, Uses predicates polarity a b
  lower : ∀ i < strata.strata.length, ∀ d, strata.Below i d →
    d < i ∧ (strata.stratum d).level < (strata.stratum i).level
  level : ∀ i < strata.strata.length,
    IsGreatest {n | ∃ chain, strata.DescendsFrom i chain ∧ chain.length = n} (strata.stratum i).level
  apart : ∀ i < strata.strata.length, ∀ j < strata.strata.length,
    (strata.stratum i).level = (strata.stratum j).level → ¬Relation.TransGen strata.Below i j
  recursive : ∀ i < strata.strata.length, (strata.stratum i).recursive = true ↔
    ∃ a ∈ (strata.stratum i).predicates, ∃ b ∈ (strata.stratum i).predicates,
      ∃ polarity, Uses predicates polarity a b
  stratumOf? : ∀ name stratum, strata.stratumOf? name = some stratum ↔
    stratum ∈ strata.strata ∧ name ∈ stratum.predicates

/-- Predicates with names of their own are stratified. -/
theorem stratifies_ofPredicates (hnodup : (predicates.map Predicate.name).Nodup) :
    (ofPredicates predicates).Stratifies predicates := by
  have hsound := sound_ofPredicates hnodup
  refine ⟨hsound.perm_names hnodup, hsound.nonempty, fun i hi a ha j hj b hb => ?_, hsound.id,
    fun i hi => pairwise_dependsOn hi, fun i hi d => ?_, hsound.below, fun i hi => ⟨?_, ?_⟩,
    fun i hi j hj hlevel hbelow => ?_, fun i hi => ?_, fun name stratum => ?_⟩
  · rw [leadsTo_eq]
    exact hsound.together i hi a ha j hj b hb
  · rw [below_iff hnodup hi]
    simp only [reads_iff_uses]
  · exact exists_descendsFrom hnodup hi
  · rintro n ⟨chain, hchain, rfl⟩
    exact hsound.length_le_level hi hchain
  · exact absurd hlevel (hsound.level_lt_of_transGen hi hbelow).ne'
  · simp only [← reads_iff_uses]
    refine ⟨exists_reads_of_recursive hnodup hi, fun ⟨a, ha, b, hb, hreads⟩ => ?_⟩
    by_contra hnot
    exact hsound.recursive i hi (by simpa using hnot) a ha b hb hreads
  · exact hsound.stratumOf?_eq_some_iff

/-- Numbers at an odd and at an even distance from zero, those at no even one, and how many of these
there are; each predicate stands before those it reads. -/
def parity : List Predicate :=
  [{ name := "tally", columns := [⟨"count", .int⟩]
     rules := [⟨[.var "n"], [.aggregate "n" .count none [] [.atom ⟨"uneven", [.var "x"]⟩]]⟩] },
    { name := "uneven", columns := [⟨"number", .int⟩]
      rules := [⟨[.var "x"], [.atom ⟨"number", [.var "x"]⟩, .negated ⟨"even", [.var "x"]⟩]⟩] },
    { name := "odd", columns := [⟨"number", .int⟩]
      rules := [⟨[.var "y"], [.atom ⟨"even", [.var "x"]⟩, .atom ⟨"next", [.var "x", .var "y"]⟩]⟩] },
    { name := "even", columns := [⟨"number", .int⟩]
      rules := [⟨[.const (.int 0)], []⟩,
        ⟨[.var "y"], [.atom ⟨"odd", [.var "x"]⟩, .atom ⟨"next", [.var "x", .var "y"]⟩]⟩] }]

/-- The odd and the even numbers are found together, then the others, then their number. -/
theorem stratifies_parity : (parity.map Predicate.name).Nodup ∧
    (ofPredicates parity).strata =
      [⟨0, ["odd", "even"], true, [], 0⟩, ⟨1, ["uneven"], false, [0], 1⟩,
        ⟨2, ["tally"], false, [1], 2⟩] ∧ (ofPredicates parity).Stratifies parity :=
  ⟨by decide, by decide +kernel, stratifies_ofPredicates (by decide)⟩

end Stratification

end Stratalog
