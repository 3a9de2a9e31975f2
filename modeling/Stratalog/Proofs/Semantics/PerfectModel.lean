import Mathlib.Logic.Relation
import Stratalog.Proofs.Semantics.Consequence

/-!
# Perfect models

Predicates that depend on each other form a class. A perfect model gives base relations the rows of
the store and each class the least rows closed under its rules, where whatever lies outside the
class is read from the model itself. A class that reads one of its members under a negation or an
aggregate has no such meaning, and a perfect model says nothing about it.
-/

namespace Stratalog

/-- A derived predicate reads another one in some rule. -/
def Reads (predicates : List Predicate) (reader read : String) : Prop :=
  ∃ predicate ∈ predicates, predicate.name = reader ∧
    (∃ polarity, (read, polarity) ∈ predicate.reads) ∧ read ∈ predicates.map Predicate.name

/-- A derived predicate reads another one, directly or through others, or is the same. -/
def DependsOn (predicates : List Predicate) : String → String → Prop :=
  Relation.ReflTransGen (Reads predicates)

/-- Two derived predicates depend on each other. -/
def Together (predicates : List Predicate) (a b : String) : Prop :=
  DependsOn predicates a b ∧ DependsOn predicates b a

open Classical in
/-- The predicates that depend on a predicate and on which it depends. -/
noncomputable def classOf (predicates : List Predicate) (name : String) : List Predicate :=
  predicates.filter fun predicate => Together predicates name predicate.name

/-- Whether predicates read each other in positive atoms only. -/
def PositiveWithin (predicates : List Predicate) : Prop :=
  ∀ predicate ∈ predicates, ∀ read ∈ predicate.reads,
    read.1 ∈ predicates.map Predicate.name → read.2 = .positive

/-- What an interpretation says about some names, and nothing else. -/
def Interpretation.only (names : List String) (I : Interpretation) : Interpretation := fun name =>
  {row | name ∈ names ∧ row ∈ I name}

/-- A model that is as said of base relations and least on each class of predicates that has a
meaning. -/
structure PerfectModel [PatternEngine] (render : Value → String) (base : Interpretation)
    (predicates : List Predicate) (M : Interpretation) : Prop where
  base : ∀ name, name ∉ predicates.map Predicate.name → M name = base name
  derived : ∀ name ∈ predicates.map Predicate.name, PositiveWithin (classOf predicates name) →
    IsLeast {X | consequences render (classOf predicates name) M X ≤ X}
      (M.only ((classOf predicates name).map Predicate.name))

/-- A row is an answer when some assignment satisfies the body and gives each selection its value. -/
def Query.Answers [PatternEngine] (render : Value → String) (query : Query) (M : Interpretation)
    (row : Row) : Prop :=
  ∃ σ : Assignment, (∀ literal ∈ query.body, literal.Holds render M σ) ∧
    List.Forall₂ (fun item value => item.expr.value render σ = some value) query.select row

variable {render : Value → String} {predicates members : List Predicate} {a b name : String}
  {fixed fixed' X M : Interpretation}

theorem Together.refl (predicates : List Predicate) (a : String) : Together predicates a a :=
  ⟨.refl, .refl⟩

/-- The class of a name holds the predicates that depend on it and on which it depends. -/
theorem mem_classOf {predicate : Predicate} : predicate ∈ classOf predicates name ↔
    predicate ∈ predicates ∧ Together predicates name predicate.name := by
  simp [classOf]

/-- The names of a class are derived names that depend on each other. -/
theorem mem_map_classOf : b ∈ (classOf predicates a).map Predicate.name ↔
    b ∈ predicates.map Predicate.name ∧ Together predicates a b := by
  simp only [List.mem_map, mem_classOf]
  constructor
  · rintro ⟨predicate, ⟨hmem, htogether⟩, rfl⟩
    exact ⟨⟨predicate, hmem, rfl⟩, htogether⟩
  · rintro ⟨⟨predicate, hmem, rfl⟩, htogether⟩
    exact ⟨predicate, ⟨hmem, htogether⟩, rfl⟩

variable [PatternEngine]

/-- Consequences depend on which predicates there are, not on their order. -/
theorem consequences_congr_members {others : List Predicate}
    (h : ∀ predicate, predicate ∈ members ↔ predicate ∈ others) (fixed X : Interpretation) :
    consequences render members fixed X = consequences render others fixed X := by
  have hnames (name : String) :
      name ∈ members.map Predicate.name ↔ name ∈ others.map Predicate.name := by
    simp only [List.mem_map, h]
  have hoverlay : Interpretation.overlay (members.map Predicate.name) fixed X =
      Interpretation.overlay (others.map Predicate.name) fixed X := by
    funext name
    simp only [Interpretation.overlay, hnames]
  have hliteral (literal : Literal) (σ : Assignment) :
      literal.HoldsOver render (members.map Predicate.name) fixed X σ ↔
        literal.HoldsOver render (others.map Predicate.name) fixed X σ := by
    cases literal with
    | atom a => simp only [Literal.HoldsOver, hoverlay]
    | _ => rfl
  funext name
  simp only [consequences, h, hliteral]

/-- A perfect model is least on the predicates of a class, in whatever order they are listed. -/
theorem PerfectModel.isLeast (h : PerfectModel render fixed predicates M)
    (hname : name ∈ predicates.map Predicate.name)
    (hmembers : ∀ predicate, predicate ∈ members ↔
      predicate ∈ predicates ∧ Together predicates name predicate.name)
    (hpositive : PositiveWithin members) :
    IsLeast {X | consequences render members M X ≤ X}
      (M.only (members.map Predicate.name)) := by
  have hclass (predicate : Predicate) :
      predicate ∈ members ↔ predicate ∈ classOf predicates name := by
    rw [hmembers, mem_classOf]
  have hnames (other : String) : other ∈ members.map Predicate.name ↔
      other ∈ (classOf predicates name).map Predicate.name := by
    simp only [List.mem_map, hclass]
  have honly : M.only (members.map Predicate.name) =
      M.only ((classOf predicates name).map Predicate.name) := by
    funext other
    simp only [Interpretation.only, hnames]
  have hpositiveClass : PositiveWithin (classOf predicates name) := fun predicate hpredicate read
      hread hin => hpositive predicate ((hclass predicate).2 hpredicate) read hread
    ((hnames read.1).2 hin)
  simp only [honly, consequences_congr_members hclass]
  exact h.derived name hname hpositiveClass

/-- Answers depend on the rows of what is read. -/
theorem Query.answers_congr {query : Query} {row : Row} (h : ∀ name ∈ query.reads, X name = M name) :
    query.Answers render X row ↔ query.Answers render M row := by
  refine exists_congr fun σ => and_congr_left fun _ => forall_congr' fun literal =>
    imp_congr_right fun hliteral => Literal.holds_congr_of_reads fun read hread => ?_
  exact h read.1 (mem_reads hliteral hread)

/-- Consequences depend on the rows of what is read from outside. -/
theorem consequences_congr (hpositive : PositiveWithin members)
    (h : ∀ predicate ∈ members, ∀ read ∈ predicate.reads,
      read.1 ∉ members.map Predicate.name → fixed read.1 = fixed' read.1) (X : Interpretation) :
    consequences render members fixed X = consequences render members fixed' X := by
  have hliteral {predicate : Predicate} (hpredicate : predicate ∈ members) {rule : Rule}
      (hrule : rule ∈ predicate.rules) {literal : Literal} (hmem : literal ∈ rule.body)
      (σ : Assignment) : literal.HoldsOver render (members.map Predicate.name) fixed X σ ↔
        literal.HoldsOver render (members.map Predicate.name) fixed' X σ := by
    have hread : ∀ read ∈ literal.reads, read ∈ predicate.reads :=
      fun read => Predicate.mem_reads hrule hmem
    have hpolarity : ∀ read ∈ literal.reads, read.1 ∈ members.map Predicate.name →
        read.2 = .positive := fun read hin => hpositive predicate hpredicate read (hread read hin)
    rw [← Literal.holds_overlay_iff hpolarity, ← Literal.holds_overlay_iff hpolarity]
    refine Literal.holds_congr_of_reads fun read hin => ?_
    unfold Interpretation.overlay
    split
    · rfl
    next hother => exact h predicate hpredicate read (hread read hin) hother
  funext name
  ext row
  refine exists_congr fun predicate => and_congr_right fun hpredicate => and_congr_right fun _ => ?_
  refine exists_congr fun rule => and_congr_right fun hrule => exists_congr fun σ => ?_
  refine and_congr_left fun _ => forall_congr' fun literal => imp_congr_right fun hmem => ?_
  exact hliteral hpredicate hrule hmem σ

end Stratalog
