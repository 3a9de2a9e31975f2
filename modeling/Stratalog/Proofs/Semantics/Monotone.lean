import Stratalog.Proofs.Semantics.Existence

/-!
# Positive predicates are monotone

A literal that reads predicates positively goes on to hold when these hold more rows. So names that are
read positively, directly and through the rules of derived predicates, have no fewer rows in a perfect
model over more facts. Other names may gain rows or lose them.
-/

namespace Stratalog

variable {render : Value → String} {base base' : Interpretation} {predicates members : List Predicate}
  {names : Set String} {I J X M M' : Interpretation} {name : String}

/-- A literal that reads predicates positively goes on to hold when these hold more. -/
theorem Literal.Holds.mono [PatternEngine] {literal : Literal} {σ : Assignment}
    (hpositive : ∀ read ∈ literal.reads, read.2 = .positive)
    (hmore : ∀ read ∈ literal.reads, I read.1 ⊆ J read.1) (hholds : literal.Holds render I σ) :
    literal.Holds render J σ := by
  have hnothing (hreads : literal.reads = []) : literal.Holds render J σ :=
    (holds_congr_of_reads (by simp [hreads])).1 hholds
  cases literal with
  | atom a =>
    simp only [Holds] at hholds ⊢
    obtain ⟨row, hrow, hmatches⟩ := hholds
    exact ⟨row, hmore (a.predicate, .positive) List.mem_cons_self hrow, hmatches⟩
  | negated a => cases hpositive (a.predicate, .negative) List.mem_cons_self
  | compare op left right => exact hnothing rfl
  | assign var expr => exact hnothing rfl
  | aggregate result function target groupBy body =>
    -- Nothing that stands inside an aggregate is read positively, so this one reads nothing.
    refine hnothing (List.eq_nil_iff_forall_not_mem.2 fun read hread => ?_)
    have hpolarity := hpositive read hread
    rw [reads] at hread
    obtain ⟨_, -, rfl⟩ := List.mem_map.1 hread
    cases hpolarity

/-- Predicates that read positively have more consequences where more is fixed. -/
theorem consequences_mono_fixed [PatternEngine]
    (hpositive : ∀ predicate ∈ members, ∀ read ∈ predicate.reads, read.2 = .positive)
    (hmore : ∀ predicate ∈ members, ∀ read ∈ predicate.reads,
      read.1 ∉ members.map Predicate.name → I read.1 ⊆ J read.1) :
    consequences render members I X ≤ consequences render members J X := by
  rintro name row ⟨predicate, hpredicate, hname, rule, hrule, σ, hbody, hhead⟩
  refine ⟨predicate, hpredicate, hname, rule, hrule, σ, fun literal hliteral => ?_, hhead⟩
  have hread : ∀ read ∈ literal.reads, read ∈ predicate.reads :=
    fun read => Predicate.mem_reads hrule hliteral
  have hpolarity : ∀ read ∈ literal.reads, read.2 = .positive :=
    fun read hin => hpositive predicate hpredicate read (hread read hin)
  have hholds := (Literal.holds_overlay_iff fun read hin _ => hpolarity read hin).2
    (hbody literal hliteral)
  refine (Literal.holds_overlay_iff fun read hin _ => hpolarity read hin).1
    (hholds.mono hpolarity fun read hin => ?_)
  unfold Interpretation.overlay
  split
  next => exact subset_rfl
  next hother => exact hmore predicate hpredicate read (hread read hin) hother

/-- Derived predicates of some names read nothing but these names, and read them positively. -/
structure ReadPositively (predicates : List Predicate) (names : Set String) : Prop where
  positive : ∀ predicate ∈ predicates, predicate.name ∈ names → ∀ read ∈ predicate.reads,
    read.2 = .positive
  closed : ∀ predicate ∈ predicates, predicate.name ∈ names → ∀ read ∈ predicate.reads,
    read.1 ∈ names

namespace ReadPositively

/-- What such a name depends on is such a name. -/
theorem mem_of_dependsOn (h : ReadPositively predicates names) {a b : String} (ha : a ∈ names)
    (hdepends : DependsOn predicates a b) : b ∈ names := by
  induction hdepends with
  | refl => exact ha
  | tail _ hreads ih =>
    obtain ⟨predicate, hmem, rfl, ⟨polarity, hread⟩, -⟩ := hreads
    exact h.closed predicate hmem ih _ hread

/-- The class of such a name reads positively, and such names alone. -/
theorem of_mem_classOf (h : ReadPositively predicates names) (hname : name ∈ names) :
    ∀ predicate ∈ classOf predicates name, ∀ read ∈ predicate.reads,
      read.2 = .positive ∧ read.1 ∈ names := by
  intro predicate hpredicate read hread
  obtain ⟨hmem, htogether⟩ := mem_classOf.1 hpredicate
  have hin := h.mem_of_dependsOn hname htogether.1
  exact ⟨h.positive predicate hmem hin read hread, h.closed predicate hmem hin read hread⟩

/-- Names that are read positively have no fewer rows in a perfect model over more facts. -/
theorem perfectModel_mono [PatternEngine] (h : ReadPositively predicates names) {strata : Stratification}
    (hstrata : strata.Sound predicates) (hbase : ∀ name ∈ names, base name ⊆ base' name)
    (hM : PerfectModel render base predicates M) (hM' : PerfectModel render base' predicates M') :
    ∀ name ∈ names, M name ⊆ M' name := by
  have hstratum : ∀ i < strata.strata.length, ∀ name ∈ (strata.stratum i).predicates,
      name ∈ names → M name ⊆ M' name := by
    intro i
    induction i using Nat.strong_induction_on with
    | _ i ih =>
      intro hi name hin hname
      have hderived := hstrata.member i hi name hin
      have hclass := h.of_mem_classOf hname
      have hpositive : PositiveWithin (classOf predicates name) :=
        fun predicate hmem read hread _ => (hclass predicate hmem read hread).1
      have hfixed : consequences render (classOf predicates name) M ≤
          consequences render (classOf predicates name) M' := by
        refine fun X => consequences_mono_fixed
          (fun predicate hmem read hread => (hclass predicate hmem read hread).1)
          fun predicate hmem read hread hnot => ?_
        have hread' := (hclass predicate hmem read hread).2
        by_cases hother : read.1 ∈ predicates.map Predicate.name
        · obtain ⟨d, hlt, hlower⟩ := hstrata.lower_of_classOf hi hin hmem hread hother hnot
          exact ih d hlt (hlt.trans hi) read.1 hlower hread'
        · rw [hM.base read.1 hother, hM'.base read.1 hother]
          exact hbase read.1 hread'
      -- What the larger model has of the class is closed under its rules over the smaller one.
      have hclosed := (hM'.derived name hderived hpositive).1
      have hle := (hM.derived name hderived hpositive).2 ((hfixed _).trans hclosed)
      intro row hrow
      have hself : name ∈ (classOf predicates name).map Predicate.name :=
        mem_map_classOf.2 ⟨hderived, Together.refl predicates name⟩
      exact (hle name ⟨hself, hrow⟩).2
  intro name hname
  by_cases hderived : name ∈ predicates.map Predicate.name
  · obtain ⟨i, hi, hin⟩ := hstrata.covers name hderived
    exact hstratum i hi name hin hname
  · rw [hM.base name hderived, hM'.base name hderived]
    exact hbase name hname

end ReadPositively

/-- A query that reads predicates positively has no fewer answers where these have more rows. -/
theorem Query.Answers.mono [PatternEngine] {query : Query} {row : Row}
    (hpositive : ∀ read ∈ Literal.readsOfAll query.body, read.2 = .positive)
    (hmore : ∀ read ∈ Literal.readsOfAll query.body, M read.1 ⊆ M' read.1)
    (h : query.Answers render M row) : query.Answers render M' row := by
  obtain ⟨σ, hbody, hrow⟩ := h
  exact ⟨σ, fun literal hliteral => (hbody literal hliteral).mono
    (fun read hread => hpositive read (Literal.mem_readsOfAll hliteral hread))
    fun read hread => hmore read (Literal.mem_readsOfAll hliteral hread), hrow⟩

end Stratalog
