import Stratalog.Proofs.Session.Scheduling
import Stratalog.Proofs.Simulation.Publication

/-!
# Strata in another order

Strata of one level do not read each other. Where nothing but a budget can stop an evaluation, each of
them therefore finds the same rows, fails or does not fail, and counts as much, whichever of the others
came before. The indices that these have built by then may be others, and the rows may stand in another
order.

So the strata of each level may be gone through in any order.
-/

namespace Stratalog.Session

open Evaluation Eval

variable {program : Program} {strata : Stratification} {context : Context}
  {start other : Failures × Workspace} {failures failures' : Failures}
  {left right : Workspace} {i j : Nat} {ids ids' : List Nat}

/-- Whether a stratum is recorded as failed. -/
def Failed (failures : Failures) (i : Nat) : Prop :=
  (failures.lookup i).isSome = true

instance (failures : Failures) (i : Nat) : Decidable (Failed failures i) :=
  inferInstanceAs (Decidable (_ = true))

/-- Failures and workspaces that cannot be told apart but by the faults, by the order of rows and by
indices. -/
structure Matches (start other : Failures × Workspace) : Prop where
  failed : ∀ i, Failed other.1 i ↔ Failed start.1 i
  base : ∀ name : String,
    other.2.base[name]?.map Relation.outline = start.2.base[name]?.map Relation.outline
  slots : ∀ name : String, other.2.slots[name]?.map (Option.map Relation.outline) =
    start.2.slots[name]?.map (Option.map Relation.outline)
  coherent : start.2.Coherent
  coherent' : other.2.Coherent
  counters : other.2.counters = start.2.counters

namespace Matches

theorem refl (h : start.2.Coherent) : Matches start start :=
  ⟨fun _ => Iff.rfl, fun _ => rfl, fun _ => rfl, h, h, rfl⟩

theorem symm (h : Matches start other) : Matches other start :=
  ⟨fun i => (h.failed i).symm, fun name => (h.base name).symm, fun name => (h.slots name).symm,
    h.coherent', h.coherent, h.counters.symm⟩

theorem trans {last : Failures × Workspace} (h : Matches start other) (h' : Matches other last) :
    Matches start last :=
  ⟨fun i => (h'.failed i).trans (h.failed i), fun name => (h'.base name).trans (h.base name),
    fun name => (h'.slots name).trans (h.slots name), h.coherent, h'.coherent',
    h'.counters.trans h.counters⟩

end Matches

/-- A failure is recorded on top of others. -/
theorem failed_append {fault : Fault} :
    Failed (failures ++ [(i, fault)]) j ↔ Failed failures j ∨ j = i := by
  rw [Failed, Failed, List.lookup_append, Option.isSome_or, Bool.or_eq_true]
  refine or_congr_right ?_
  by_cases hji : j = i
  · simp [hji]
  · simp [List.lookup_cons, beq_false_of_ne hji, hji]

/-- A failure is found among strata exactly when one of them is recorded as failed. -/
theorem isSome_firstFailure? :
    (firstFailure? failures ids).isSome = true ↔ ∃ i ∈ ids, Failed failures i := by
  rw [firstFailure?, List.findSome?_isSome_iff]
  rfl

/-- The names that the evaluation of a stratum looks at: its members and what they read. -/
def namesOf (program : Program) (strata : Stratification) (i : Nat) : Set String :=
  {name | name ∈ (strata.stratum i).predicates ∨
    ∃ predicate ∈ program.membersOf (strata.stratum i), ∃ read ∈ predicate.reads, read.1 = name}

/-- A stratum fails as one below it, or is evaluated, from both of two workspaces or from neither. -/
theorem pairs_attempt [PatternEngine] (hquiet : context.IsQuiet) (hleft : left.Coherent)
    (hright : right.Coherent)
    (hbase : ∀ name ∈ namesOf program strata i,
      right.base[name]?.map Relation.outline = left.base[name]?.map Relation.outline)
    (hslots : ∀ name ∈ namesOf program strata i, right.slots[name]?.map (Option.map Relation.outline) =
      left.slots[name]?.map (Option.map Relation.outline))
    (hfailed : ∀ d ∈ (strata.stratum i).dependsOn, Failed failures' d ↔ Failed failures d) :
    Eval.Pairs True (attempt program strata context failures i)
      (attempt program strata context failures' i) left right
      (fun _ _ => (Pairing.within context left right _ hbase hslots).Heirs
        (strata.stratum i).predicates)
      ((Pairing.within context left right _ hbase hslots).Heirs (strata.stratum i).predicates) := by
  let p := Pairing.within context left right _ hbase hslots
  have hmembers : ∀ name ∈ (strata.stratum i).predicates, name ∈ p.names := fun _ => Or.inl
  have hcovers : p.Covers (program.membersOf (strata.stratum i)) :=
    fun predicate hpredicate rule hrule read hread =>
      Or.inr ⟨predicate, hpredicate, read, List.mem_flatMap.2 ⟨rule, hrule, hread⟩, rfl⟩
  have hsome : (firstFailure? failures' (strata.stratum i).dependsOn).isSome =
      (firstFailure? failures (strata.stratum i).dependsOn).isSome := by
    rw [Bool.eq_iff_iff, isSome_firstFailure?, isSome_firstFailure?]
    exact exists_congr fun d => and_congr_right (hfailed d)
  unfold attempt
  cases hfound : firstFailure? failures (strata.stratum i).dependsOn with
  | some fault =>
    rw [hfound] at hsome
    obtain ⟨fault', hfault'⟩ := Option.isSome_iff_exists.1 hsome
    rw [hfault']
    exact Eval.pairs_throw
      ((p.kin_of_isQuiet hleft hright (fun _ => hquiet) hquiet).heirs hmembers)
  | none =>
    rw [hfound] at hsome
    rw [Option.not_isSome_iff_eq_none.1 (Bool.eq_false_iff.1 hsome)]
    exact p.pairs_ensureStratum hleft hright (fun _ => hquiet) hquiet hcovers hmembers

/-- Going through one stratum, from failures and workspaces that look the same to it, records its
failure on both sides or on neither. -/
theorem goThrough_singleton_spec [PatternEngine] (program : Program) (strata : Stratification) (i : Nat)
    (hquiet : context.IsQuiet) (hleft : start.2.Coherent) (hright : other.2.Coherent)
    (hbase : ∀ name ∈ namesOf program strata i,
      other.2.base[name]?.map Relation.outline = start.2.base[name]?.map Relation.outline)
    (hslots : ∀ name ∈ namesOf program strata i,
      other.2.slots[name]?.map (Option.map Relation.outline) =
        start.2.slots[name]?.map (Option.map Relation.outline))
    (hfailed : ∀ d ∈ (strata.stratum i).dependsOn, Failed other.1 d ↔ Failed start.1 d) :
    ∃ fails : Prop,
      (∀ j, Failed (goThrough program strata context [i] start).1 j ↔
        Failed start.1 j ∨ fails ∧ j = i) ∧
      (∀ j, Failed (goThrough program strata context [i] other).1 j ↔
        Failed other.1 j ∨ fails ∧ j = i) ∧
      (Pairing.within context start.2 other.2 _ hbase hslots).Heirs (strata.stratum i).predicates
        (goThrough program strata context [i] start).2
        (goThrough program strata context [i] other).2 := by
  obtain ⟨failures, left⟩ := start
  obtain ⟨failures', right⟩ := other
  have hpairs := pairs_attempt hquiet hleft hright hbase hslots hfailed
  rw [goThrough_cons, goThrough_cons]
  rcases hrun : (attempt program strata context failures i).run.run left with ⟨fault | _, last⟩
  · obtain ⟨fault', last', hrun', hheirs⟩ := hpairs.of_error trivial hrun
    rw [hrun']
    exact ⟨True, fun j => by rw [true_and]; exact failed_append,
      fun j => by rw [true_and]; exact failed_append, hheirs⟩
  · obtain ⟨_, last', hrun', hheirs⟩ := hpairs.of_ok hrun
    rw [hrun']
    exact ⟨False, fun j => by rw [false_and, or_false]; rfl,
      fun j => by rw [false_and, or_false]; rfl, hheirs⟩

/-- Going through one stratum fills no slots but those of its members. -/
theorem fills_goThrough_singleton [PatternEngine] (program : Program) (strata : Stratification) (i : Nat)
    (hquiet : context.IsQuiet) (h : start.2.Coherent) :
    start.2.Fills (strata.stratum i).predicates
      (goThrough program strata context [i] start).2 := by
  obtain ⟨-, -, -, hheirs⟩ := goThrough_singleton_spec program strata i hquiet h h
    (fun _ _ => rfl) (fun _ _ => rfl) fun _ _ => Iff.rfl
  exact hheirs.fillsLeft

/-- Going through one stratum records a failure for no other. -/
theorem failed_goThrough_singleton [PatternEngine] (hne : j ≠ i) (start : Failures × Workspace) :
    Failed (goThrough program strata context [i] start).1 j ↔ Failed start.1 j := by
  obtain ⟨failures, workspace⟩ := start
  rw [goThrough_cons]
  rcases (attempt program strata context failures i).run.run workspace with ⟨fault | _, last⟩
  · exact failed_append.trans (or_iff_left hne)
  · exact Iff.rfl

/-- What cannot be told apart cannot be told apart after going through the same strata. -/
theorem Matches.goThrough [PatternEngine] (h : Matches start other) (program : Program)
    (strata : Stratification) (hquiet : context.IsQuiet) (ids : List Nat) :
    Matches (Session.goThrough program strata context ids start)
      (Session.goThrough program strata context ids other) := by
  induction ids generalizing start other with
  | nil => exact h
  | cons i rest ih =>
    rw [← List.singleton_append, goThrough_append, goThrough_append]
    refine ih ?_
    obtain ⟨fails, hstart, hother, hheirs⟩ := goThrough_singleton_spec program strata i
      hquiet h.coherent h.coherent' (fun name _ => h.base name) (fun name _ => h.slots name)
      fun d _ => h.failed d
    obtain ⟨gain, hgain, hgain'⟩ := hheirs.gain
    refine ⟨fun j => by rw [hstart, hother, h.failed], fun name => ?_, fun name => ?_,
      hheirs.fillsLeft.coherent, hheirs.fillsRight.coherent, ?_⟩
    · rw [Relation.map_outline_of_bare (hheirs.fillsLeft.base name),
        Relation.map_outline_of_bare (hheirs.fillsRight.base name)]
      exact h.base name
    · by_cases hname : name ∈ (strata.stratum i).predicates
      · exact hheirs.slots name hname
      · rw [Relation.map_map_outline_of_bare (hheirs.fillsLeft.slots name hname),
          Relation.map_map_outline_of_bare (hheirs.fillsRight.slots name hname)]
        exact h.slots name
    · rw [hgain, hgain']
      exact congrArg (· + gain) h.counters

/-- A stratum looks at no members of another one that it does not depend on. -/
theorem not_mem_of_mem_namesOf (hnodup : (program.predicates.map Predicate.name).Nodup)
    (hsound : strata.Sound program.predicates) (hi : i < strata.strata.length)
    (hj : j < strata.strata.length) (hne : i ≠ j) (hdepends : i ∉ (strata.stratum j).dependsOn)
    {name : String} (hname : name ∈ namesOf program strata j) :
    name ∉ (strata.stratum i).predicates := by
  have hsame {k : Nat} (hk : k < strata.strata.length) (hin : name ∈ (strata.stratum k).predicates)
      (hmem : name ∈ (strata.stratum i).predicates) : i = k :=
    (hsound.together i hi name hmem k hk name hin).2 (Together.refl _ _)
  intro hmem
  rcases hname with hown | ⟨predicate, hpredicate, read, hread, rfl⟩
  · exact hne (hsame hj hown hmem)
  · obtain ⟨hpredicate, hmember⟩ := (Program.mem_membersOf hnodup).1 hpredicate
    by_cases hown : read.1 ∈ (strata.stratum j).predicates
    · exact hne (hsame hj hown hmem)
    · obtain ⟨d, hd, hlt, hin⟩ := hsound.lower_of_reads hj hpredicate hmember hread
        (hsound.member i hi _ hmem) hown
      exact hdepends (hsame (hlt.trans hj) hin hmem ▸ hd)

variable [PatternEngine]

/-- Two strata that do not depend on each other may be gone through in either order. -/
theorem matches_swap (hquiet : context.IsQuiet)
    (hnodup : (program.predicates.map Predicate.name).Nodup)
    (hsound : strata.Sound program.predicates) (hcoherent : start.2.Coherent)
    (hi : i < strata.strata.length) (hj : j < strata.strata.length)
    (hij : i ∉ (strata.stratum j).dependsOn) (hji : j ∉ (strata.stratum i).dependsOn) :
    Matches (goThrough program strata context [i, j] start)
      (goThrough program strata context [j, i] start) := by
  by_cases hne : i = j
  · subst hne
    exact (Matches.refl hcoherent).goThrough program strata hquiet _
  · have hfi := fills_goThrough_singleton program strata i hquiet hcoherent
    have hfj := fills_goThrough_singleton program strata j hquiet hcoherent
    -- Each is gone through from the start and after the other.
    obtain ⟨failsj, hj₀, hj₁, hheirsj⟩ := goThrough_singleton_spec program strata j hquiet
      hcoherent hfi.coherent (fun name _ => Relation.map_outline_of_bare (hfi.base name))
      (fun name hname => Relation.map_map_outline_of_bare
        (hfi.slots name (not_mem_of_mem_namesOf hnodup hsound hi hj hne hij hname)))
      fun d hd => failed_goThrough_singleton (ne_of_mem_of_not_mem hd hij) start
    obtain ⟨failsi, hi₀, hi₁, hheirsi⟩ := goThrough_singleton_spec program strata i hquiet
      hcoherent hfj.coherent (fun name _ => Relation.map_outline_of_bare (hfj.base name))
      (fun name hname => Relation.map_map_outline_of_bare
        (hfj.slots name (not_mem_of_mem_namesOf hnodup hsound hj hi (Ne.symm hne) hji hname)))
      fun d hd => failed_goThrough_singleton (ne_of_mem_of_not_mem hd hji) start
    rw [← List.singleton_append (l := [j]), ← List.singleton_append (l := [i]), goThrough_append,
      goThrough_append]
    refine ⟨fun k => ?_, fun name => ?_, fun name => ?_, hheirsj.fillsRight.coherent,
      hheirsi.fillsRight.coherent, ?_⟩
    · rw [hi₁, hj₁, hi₀, hj₀, or_right_comm]
    · rw [Relation.map_outline_of_bare (hheirsi.fillsRight.base name),
        Relation.map_outline_of_bare (hheirsj.fillsRight.base name)]
      exact Relation.map_outline_of_bare ((hfj.base name).trans (hfi.base name).symm)
    · by_cases hmemi : name ∈ (strata.stratum i).predicates
      · have hmemj : name ∉ (strata.stratum j).predicates := fun hmem =>
          not_mem_of_mem_namesOf hnodup hsound hi hj hne hij (Or.inl hmem) hmemi
        rw [hheirsi.slots name hmemi,
          Relation.map_map_outline_of_bare (hheirsj.fillsRight.slots name hmemj)]
        rfl
      · rw [Relation.map_map_outline_of_bare (hheirsi.fillsRight.slots name hmemi)]
        by_cases hmemj : name ∈ (strata.stratum j).predicates
        · exact (hheirsj.slots name hmemj).symm
        · rw [Relation.map_map_outline_of_bare (hheirsj.fillsRight.slots name hmemj)]
          exact Relation.map_map_outline_of_bare
            ((hfj.slots name hmemj).trans (hfi.slots name hmemi).symm)
    · obtain ⟨gain, hgain, hgain'⟩ := hheirsi.gain
      obtain ⟨gainj, hgainj, hgainj'⟩ := hheirsj.gain
      rw [hgain', hgainj']
      change (goThrough program strata context [j] start).2.counters + gain =
        (goThrough program strata context [i] start).2.counters + gainj
      rw [hgain, hgainj]
      exact add_right_comm _ _ _

/-- A stratum may be gone through before others of its level. -/
theorem matches_move (hquiet : context.IsQuiet)
    (hnodup : (program.predicates.map Predicate.name).Nodup)
    (hsound : strata.Sound program.predicates) (hcoherent : start.2.Coherent)
    (hi : i < strata.strata.length) (hids : ∀ j ∈ ids, j < strata.strata.length ∧
      (strata.stratum j).level = (strata.stratum i).level) :
    Matches (goThrough program strata context (ids ++ [i]) start)
      (goThrough program strata context (i :: ids) start) := by
  induction ids generalizing start with
  | nil => exact (Matches.refl hcoherent).goThrough program strata hquiet _
  | cons j rest ih =>
    obtain ⟨⟨hj, hlevel⟩, hrest⟩ := List.forall_mem_cons.1 hids
    -- Neither depends on the other, for what a stratum depends on is of a lower level.
    have hij : i ∉ (strata.stratum j).dependsOn := fun hmem =>
      absurd (hsound.below j hj i hmem).2 (hlevel ▸ lt_irrefl _)
    have hji : j ∉ (strata.stratum i).dependsOn := fun hmem =>
      absurd (hsound.below i hi j hmem).2 (hlevel ▸ lt_irrefl _)
    have hswap := (matches_swap hquiet hnodup hsound hcoherent hj hi hji hij).goThrough program strata
      hquiet rest
    have hfills := fills_goThrough_singleton program strata j hquiet hcoherent
    have hmove := ih hfills.coherent hrest
    simp only [← goThrough_append, List.cons_append, List.nil_append] at hswap hmove
    exact hmove.trans hswap

/-- The strata of each level may be gone through in any order. -/
theorem matches_of_perm (hquiet : context.IsQuiet)
    (hnodup : (program.predicates.map Predicate.name).Nodup)
    (hsound : strata.Sound program.predicates) (hcoherent : start.2.Coherent)
    (hids : ∀ i ∈ ids, i < strata.strata.length) (hperm : ids.Perm ids')
    (hsorted : ids.Pairwise fun a b => (strata.stratum a).level ≤ (strata.stratum b).level)
    (hsorted' : ids'.Pairwise fun a b => (strata.stratum a).level ≤ (strata.stratum b).level) :
    Matches (goThrough program strata context ids start)
      (goThrough program strata context ids' start) := by
  induction ids generalizing ids' start with
  | nil =>
    rw [← hperm.nil_eq]
    exact .refl hcoherent
  | cons i rest ih =>
    obtain ⟨hi, hrest⟩ := List.forall_mem_cons.1 hids
    obtain ⟨hfirst, hsorted⟩ := List.pairwise_cons.1 hsorted
    obtain ⟨before, after, rfl⟩ := List.append_of_mem (hperm.mem_iff.1 List.mem_cons_self)
    have hrestPerm : rest.Perm (before ++ after) := (hperm.trans List.perm_middle).cons_inv
    obtain ⟨-, -, hbefore⟩ := List.pairwise_append.1 hsorted'
    -- What comes before the stratum in the second list comes after it in the first.
    have hlevel : ∀ j ∈ before, j < strata.strata.length ∧
        (strata.stratum j).level = (strata.stratum i).level := by
      intro j hj
      have hmem : j ∈ rest := hrestPerm.mem_iff.2 (List.mem_append_left _ hj)
      exact ⟨hrest j hmem, le_antisymm (hbefore j hj i List.mem_cons_self) (hfirst j hmem)⟩
    have hfills := fills_goThrough_singleton program strata i hquiet hcoherent
    have hsublist : (before ++ after).Sublist (before ++ i :: after) :=
      (List.sublist_cons_self i after).append_left before
    have hsame := ih hfills.coherent hrest hrestPerm hsorted (hsorted'.sublist hsublist)
    have hmove := (matches_move hquiet hnodup hsound hcoherent hi hlevel).goThrough program strata
      hquiet after
    simp only [← goThrough_append, List.cons_append, List.nil_append, List.append_assoc]
      at hsame hmove
    exact hsame.trans (Matches.symm hmove)

end Stratalog.Session
