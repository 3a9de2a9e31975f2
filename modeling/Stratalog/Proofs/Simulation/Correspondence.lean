import Stratalog.Proofs.Session.Serving

/-!
# Corresponding strata

Two programs may hold the same stratum under different numbers. Strata correspond when they have the
same members and read the same: themselves, base relations, and strata below that correspond again.
Every stratum of a program corresponds to itself.
-/

namespace Stratalog

/-- A relation between the strata of two programs, under which strata have the same members, and what
they read is a member, or derived in neither program, or a member of related strata below. -/
structure Correspondence (program : Program) (strata : Stratification) (program' : Program)
    (strata' : Stratification) (R : Nat → Nat → Prop) : Prop where
  lt : ∀ {i i' : Nat}, R i i' → i < strata.strata.length
  lt' : ∀ {i i' : Nat}, R i i' → i' < strata'.strata.length
  predicates : ∀ {i i' : Nat}, R i i' →
    (strata'.stratum i').predicates = (strata.stratum i).predicates
  members : ∀ {i i' : Nat}, R i i' →
    program'.membersOf (strata'.stratum i') = program.membersOf (strata.stratum i)
  recursive : ∀ {i i' : Nat}, R i i' →
    (strata'.stratum i').recursive = (strata.stratum i).recursive
  reads : ∀ {i i' : Nat}, R i i' → ∀ predicate ∈ program.membersOf (strata.stratum i),
    ∀ read ∈ predicate.reads, read.1 ∈ (strata.stratum i).predicates ∨
      (read.1 ∉ program.predicates.map Predicate.name ∧
        read.1 ∉ program'.predicates.map Predicate.name) ∨
      ∃ d ∈ (strata.stratum i).dependsOn, ∃ d' ∈ (strata'.stratum i').dependsOn,
        R d d' ∧ read.1 ∈ (strata.stratum d).predicates
  lower : ∀ {i i' : Nat}, R i i' → ∀ d ∈ (strata.stratum i).dependsOn,
    ∃ d' ∈ (strata'.stratum i').dependsOn, R d d'
  lower' : ∀ {i i' : Nat}, R i i' → ∀ d' ∈ (strata'.stratum i').dependsOn,
    ∃ d ∈ (strata.stratum i).dependsOn, R d d'

/-- Two prepared queries ask the same of related strata. -/
structure PreparedQuery.Corresponds (prepared prepared' : PreparedQuery) (program : Program)
    (strata : Stratification) (program' : Program) (R : Nat → Nat → Prop) : Prop where
  query : prepared'.query = prepared.query
  schema : prepared'.schema = prepared.schema
  needed : ∀ d' ∈ prepared'.strata, ∃ d ∈ prepared.strata, R d d'
  reads : ∀ name ∈ prepared.query.reads,
    (name ∉ program.predicates.map Predicate.name ∧
      name ∉ program'.predicates.map Predicate.name) ∨
    ∃ d ∈ prepared.strata, ∃ d' ∈ prepared'.strata,
      R d d' ∧ name ∈ (strata.stratum d).predicates

namespace Correspondence

variable {program program' : Program} {strata strata' : Stratification} {R : Nat → Nat → Prop}

/-- The strata of a program correspond to themselves. -/
theorem refl (hnodup : (program.predicates.map Predicate.name).Nodup)
    (hsound : strata.Sound program.predicates) :
    Correspondence program strata program strata
      fun i i' => i' = i ∧ i < strata.strata.length where
  lt hR := hR.2
  lt' hR := hR.1 ▸ hR.2
  predicates hR := hR.1 ▸ rfl
  members hR := hR.1 ▸ rfl
  recursive hR := hR.1 ▸ rfl
  reads {i i'} hR predicate hpredicate read hread := by
    obtain ⟨rfl, hi⟩ := hR
    obtain ⟨hmem, hname⟩ := (Program.mem_membersOf hnodup).1 hpredicate
    by_cases hown : read.1 ∈ (strata.stratum i').predicates
    · exact Or.inl hown
    · by_cases hderived : read.1 ∈ program.predicates.map Predicate.name
      · obtain ⟨d, hd, hlt, hin⟩ := hsound.lower_of_reads hi hmem hname hread hderived hown
        exact Or.inr (Or.inr ⟨d, hd, d, hd, ⟨rfl, hlt.trans hi⟩, hin⟩)
      · exact Or.inr (Or.inl ⟨hderived, hderived⟩)
  lower {i i'} hR d hd := by
    obtain ⟨rfl, hi⟩ := hR
    exact ⟨d, hd, rfl, (hsound.below _ hi d hd).1.trans hi⟩
  lower' {i i'} hR d hd := by
    obtain ⟨rfl, hi⟩ := hR
    exact ⟨d, hd, rfl, (hsound.below _ hi d hd).1.trans hi⟩

end Correspondence

end Stratalog
