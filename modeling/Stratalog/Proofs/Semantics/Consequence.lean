import Mathlib.Order.FixedPoints
import Stratalog.Program.Basic
import Stratalog.Proofs.Semantics.Body

/-!
# Immediate consequences

The rules of some predicates give, for rows already held, the rows of their heads. Positive atoms
read the rows held by these predicates; other predicates, negations and aggregates read what is
fixed. This operator is monotone, so its iterates from nothing grow towards its least fixpoint.

Rows that are new in a round use, in some positive atom, a row that was new in the round before.
-/

namespace Stratalog

/-- The value of a term of a rule head. -/
def Term.value (σ : Assignment) : Term → Value
  | .var name => σ name
  | .const constant => constant
  | .wildcard => default

/-- The row that a rule derives under an assignment. -/
def Rule.headRow (rule : Rule) (σ : Assignment) : Row :=
  rule.head.map (Term.value σ)

/-- What members hold read from `grown`, and everything else from `fixed`. -/
def Interpretation.overlay (members : List String) (fixed grown : Interpretation) :
    Interpretation := fun name =>
  if name ∈ members then grown name else fixed name

namespace Literal

/-- Whether a literal holds when its positive atoms read the rows of members from `grown`. -/
def HoldsOver [PatternEngine] (render : Value → String) (members : List String)
    (fixed grown : Interpretation) :
    Literal → Assignment → Prop
  | .atom a, σ =>
    Literal.Holds render (Interpretation.overlay members fixed grown) (.atom a) σ
  | literal, σ => literal.Holds render fixed σ

end Literal

/-- The rows derived in one step by the rules of some predicates. -/
def consequences [PatternEngine] (render : Value → String) (predicates : List Predicate)
    (fixed grown : Interpretation) : Interpretation := fun name =>
  {row | ∃ predicate ∈ predicates, predicate.name = name ∧ ∃ rule ∈ predicate.rules,
    ∃ σ : Assignment, (∀ literal ∈ rule.body,
      literal.HoldsOver render (predicates.map Predicate.name) fixed grown σ) ∧
        rule.headRow σ = row}

variable {render : Value → String} {members : List String} {predicates : List Predicate}
  {fixed grown : Interpretation} {X Y D : Interpretation}

/-- More rows read give no fewer rows held. -/
theorem overlay_mono (h : X ≤ Y) :
    Interpretation.overlay members fixed X ≤ Interpretation.overlay members fixed Y := by
  intro name
  unfold Interpretation.overlay
  split
  · exact h name
  · exact le_rfl

/-- A literal that holds goes on to hold when members hold more. -/
theorem Literal.HoldsOver.mono [PatternEngine] {literal : Literal} {σ : Assignment} (h : X ≤ Y)
    (hholds : literal.HoldsOver render members fixed X σ) :
    literal.HoldsOver render members fixed Y σ := by
  cases literal with
  | atom a =>
    simp only [HoldsOver, Holds] at hholds ⊢
    obtain ⟨row, hrow, hmatches⟩ := hholds
    exact ⟨row, overlay_mono h _ hrow, hmatches⟩
  | _ => exact hholds

/-- A literal that reads members in no other way than through a positive atom holds with the
members laid over what is fixed when it holds over them. -/
theorem Literal.holds_overlay_iff [PatternEngine] {literal : Literal} {σ : Assignment}
    (hreads : ∀ read ∈ literal.reads, read.1 ∈ members → read.2 = .positive) :
    literal.Holds render (Interpretation.overlay members fixed X) σ ↔
      literal.HoldsOver render members fixed X σ := by
  have hfixed (hpolarity : ∀ read ∈ literal.reads, read.2 ≠ .positive) :
      literal.Holds render (Interpretation.overlay members fixed X) σ ↔
        literal.Holds render fixed σ := by
    refine holds_congr_of_reads fun read hread => ?_
    have hother : read.1 ∉ members := fun hmember =>
      hpolarity read hread (hreads read hread hmember)
    rw [Interpretation.overlay, if_neg hother]
  cases literal with
  | atom a => rfl
  | negated a => exact hfixed (by simp [reads])
  | compare op left right => exact hfixed (by simp [reads])
  | assign var expr => exact hfixed (by simp [reads])
  | aggregate result function target groupBy body =>
    refine hfixed fun read hread => ?_
    rw [reads] at hread
    obtain ⟨inner, -, rfl⟩ := List.mem_map.1 hread
    simp

/-- More rows held give no fewer consequences. -/
theorem consequences_mono [PatternEngine] (h : X ≤ Y) :
    consequences render predicates fixed X ≤ consequences render predicates fixed Y := by
  intro name row hrow
  obtain ⟨predicate, hpredicate, hname, rule, hrule, σ, hbody, hhead⟩ := hrow
  exact ⟨predicate, hpredicate, hname, rule, hrule, σ,
    fun literal hliteral => (hbody literal hliteral).mono h, hhead⟩

/-- Only the given predicates have consequences. -/
theorem consequences_eq_empty [PatternEngine] {name : String} (h : name ∉ predicates.map Predicate.name) :
    consequences render predicates fixed grown name = ∅ := by
  refine Set.eq_empty_iff_forall_notMem.2 fun row hrow => h ?_
  obtain ⟨predicate, hpredicate, hname, -⟩ := hrow
  exact List.mem_map.2 ⟨predicate, hpredicate, hname⟩

/-- The iterates of the consequences grow. -/
theorem iterate_consequences_le_succ [PatternEngine] (render : Value → String) (predicates : List Predicate)
    (fixed : Interpretation) (k : Nat) :
    (consequences render predicates fixed)^[k] ⊥ ≤
      (consequences render predicates fixed)^[k + 1] ⊥ := by
  induction k with
  | zero => exact bot_le
  | succ k ih =>
    rw [Function.iterate_succ_apply', Function.iterate_succ_apply' _ (k + 1)]
    exact consequences_mono ih

/-- The iterates stay below everything closed under the rules. -/
theorem iterate_consequences_le [PatternEngine] (h : consequences render predicates fixed X ≤ X) (k : Nat) :
    (consequences render predicates fixed)^[k] ⊥ ≤ X := by
  induction k with
  | zero => exact bot_le
  | succ k ih =>
    rw [Function.iterate_succ_apply']
    exact (consequences_mono ih).trans h

/-- An iterate that has no further consequences is the least closed set. -/
theorem isLeast_of_isFixedPt [PatternEngine] {k : Nat} (h : Function.IsFixedPt
    (consequences render predicates fixed) ((consequences render predicates fixed)^[k] ⊥)) :
    IsLeast {X | consequences render predicates fixed X ≤ X}
      ((consequences render predicates fixed)^[k] ⊥) :=
  ⟨h.le, fun _ hX => iterate_consequences_le hX k⟩

/-- The positions of the atoms that read a member. -/
theorem mem_recursivePositions {rule : Rule} {i : Nat} :
    i ∈ rule.recursivePositions members ↔
      ∃ a : Atom, rule.body[i]? = some (.atom a) ∧ a.predicate ∈ members := by
  simp only [Rule.recursivePositions, List.mem_filterMap, Prod.exists, List.mem_zipIdx_iff_getElem?]
  constructor
  · rintro ⟨literal, j, hget, hfound⟩
    cases literal with
    | atom a =>
      dsimp only at hfound
      split at hfound
      next hmember =>
        cases hfound
        exact ⟨a, hget, by simpa using hmember⟩
      next => cases hfound
    | _ => cases hfound
  · rintro ⟨a, hget, hmember⟩
    refine ⟨.atom a, i, hget, ?_⟩
    dsimp only
    rw [if_pos (by simpa using hmember)]

variable [PatternEngine]

/-- Whether the literals of a body hold when the atom at one position reads `new` for members and
the others read `grown`. -/
def HoldsThrough (render : Value → String) (members : List String)
    (fixed grown new : Interpretation) (body : List Literal) (position : Nat) (σ : Assignment) :
    Prop :=
  ∀ (i : Nat) (literal : Literal), body[i]? = some literal →
    literal.HoldsOver render members fixed (if position = i then new else grown) σ

/-- A body that holds over `X` but not over the part `Y` of it has an atom that reads a member and
holds through a row of `X` outside `Y`. -/
theorem exists_holdsThrough {rule : Rule} {σ : Assignment}
    (hX : ∀ literal ∈ rule.body, literal.HoldsOver render members fixed X σ)
    (hY : ¬∀ literal ∈ rule.body, literal.HoldsOver render members fixed Y σ) :
    ∃ position ∈ rule.recursivePositions members, ∃ a : Atom,
      rule.body[position]? = some (.atom a) ∧
        (∃ row, row ∈ X a.predicate ∧ row ∉ Y a.predicate) ∧
          HoldsThrough render members fixed X (fun name => X name \ Y name) rule.body position σ := by
  push Not at hY
  obtain ⟨literal, hliteral, hnot⟩ := hY
  have hholds := hX literal hliteral
  cases literal with
  | atom a =>
    simp only [Literal.HoldsOver, Literal.Holds, not_exists, not_and] at hholds hnot
    obtain ⟨row, hrow, hmatches⟩ := hholds
    have hnotY : row ∉ Interpretation.overlay members fixed Y a.predicate := fun hmem =>
      hnot row hmem hmatches
    have hmember : a.predicate ∈ members := by
      by_contra hother
      unfold Interpretation.overlay at hrow hnotY
      rw [if_neg hother] at hrow hnotY
      exact hnotY hrow
    obtain ⟨position, hlt, hget⟩ := List.getElem_of_mem hliteral
    have hposition : rule.body[position]? = some (.atom a) := by
      rw [List.getElem?_eq_getElem hlt, hget]
    have hrowX : row ∈ X a.predicate := by simpa [Interpretation.overlay, hmember] using hrow
    have hrowY : row ∉ Y a.predicate := by simpa [Interpretation.overlay, hmember] using hnotY
    refine ⟨position, mem_recursivePositions.2 ⟨a, hposition, hmember⟩, a, hposition,
      ⟨row, hrowX, hrowY⟩, fun i other hother => ?_⟩
    split
    next heq =>
      subst heq
      rw [hposition] at hother
      cases hother
      simp only [Literal.HoldsOver, Literal.Holds]
      exact ⟨row, by simp [Interpretation.overlay, hmember, hrowX, hrowY], hmatches⟩
    next => exact hX other (List.mem_of_getElem? hother)
  | _ => exact absurd hholds hnot

/-- What holds through a position holds when all atoms read the larger set. -/
theorem HoldsThrough.holdsOver {body : List Literal} {position : Nat} {σ : Assignment}
    (hD : D ≤ X) (h : HoldsThrough render members fixed X D body position σ) :
    ∀ literal ∈ body, literal.HoldsOver render members fixed X σ := by
  intro literal hliteral
  obtain ⟨i, hlt, rfl⟩ := List.getElem_of_mem hliteral
  have hholds := h i _ (List.getElem?_eq_getElem hlt)
  split at hholds
  · exact hholds.mono hD
  · exact hholds

/-- The rows derived through a growth: some atom that reads a member reads the growth. -/
def growth (render : Value → String) (predicates : List Predicate)
    (fixed grown new : Interpretation) : Interpretation := fun name =>
  {row | ∃ predicate ∈ predicates, predicate.name = name ∧ ∃ rule ∈ predicate.rules,
    ∃ position ∈ rule.recursivePositions (predicates.map Predicate.name), ∃ σ : Assignment,
      HoldsThrough render (predicates.map Predicate.name) fixed grown new rule.body position σ ∧
        rule.headRow σ = row}

/-- Consequences that are new come through the growth of the round before: everything else was
derived before. -/
theorem consequences_diff_eq (hX : X = consequences render predicates fixed Y) (name : String) :
    consequences render predicates fixed X name \ X name =
      growth render predicates fixed X (fun name => X name \ Y name) name \ X name := by
  ext row
  simp only [Set.mem_sdiff]
  refine and_congr_left fun hnew => ?_
  constructor
  · rintro ⟨predicate, hpredicate, rfl, rule, hrule, σ, hbody, rfl⟩
    have hnot : ¬∀ literal ∈ rule.body,
        literal.HoldsOver render (predicates.map Predicate.name) fixed Y σ := by
      intro hold
      refine hnew ?_
      rw [hX]
      exact ⟨predicate, hpredicate, rfl, rule, hrule, σ, hold, rfl⟩
    obtain ⟨position, hposition, -, -, -, hthrough⟩ := exists_holdsThrough hbody hnot
    exact ⟨predicate, hpredicate, rfl, rule, hrule, position, hposition, σ, hthrough, rfl⟩
  · rintro ⟨predicate, hpredicate, rfl, rule, hrule, position, -, σ, hthrough, rfl⟩
    exact ⟨predicate, hpredicate, rfl, rule, hrule, σ,
      hthrough.holdsOver fun _ => Set.sdiff_subset, rfl⟩

/-- From nothing only rules that read no member derive rows. -/
theorem mem_consequences_bot {name : String} {row : Row} :
    row ∈ consequences render predicates fixed ⊥ name ↔
      ∃ predicate ∈ predicates, predicate.name = name ∧ ∃ rule ∈ predicate.rules,
        rule.recursivePositions (predicates.map Predicate.name) = [] ∧
          ∃ σ : Assignment, (∀ literal ∈ rule.body,
            literal.HoldsOver render (predicates.map Predicate.name) fixed ⊥ σ) ∧
              rule.headRow σ = row := by
  constructor
  · rintro ⟨predicate, hpredicate, hname, rule, hrule, σ, hbody, hhead⟩
    refine ⟨predicate, hpredicate, hname, rule, hrule, ?_, σ, hbody, hhead⟩
    refine List.eq_nil_iff_forall_not_mem.2 fun position hposition => ?_
    obtain ⟨a, hget, hmember⟩ := mem_recursivePositions.1 hposition
    have hatom := hbody _ (List.mem_of_getElem? hget)
    simp only [Literal.HoldsOver, Literal.Holds] at hatom
    obtain ⟨row, hrow, -⟩ := hatom
    simp [Interpretation.overlay, hmember] at hrow
  · rintro ⟨predicate, hpredicate, hname, rule, hrule, -, σ, hbody, hhead⟩
    exact ⟨predicate, hpredicate, hname, rule, hrule, σ, hbody, hhead⟩

/-- Where no rule reads a member the consequences do not depend on what members hold. -/
theorem consequences_eq_of_not_recursive
    (h : ∀ predicate ∈ predicates, ∀ rule ∈ predicate.rules,
      rule.recursivePositions (predicates.map Predicate.name) = []) (X Y : Interpretation) :
    consequences render predicates fixed X = consequences render predicates fixed Y := by
  have hone (X Y : Interpretation) :
      consequences render predicates fixed X ≤ consequences render predicates fixed Y := by
    rintro name row ⟨predicate, hpredicate, hname, rule, hrule, σ, hbody, hhead⟩
    refine ⟨predicate, hpredicate, hname, rule, hrule, σ, ?_, hhead⟩
    by_contra hnot
    obtain ⟨position, hposition, -⟩ := exists_holdsThrough hbody hnot
    rw [h predicate hpredicate rule hrule] at hposition
    exact List.not_mem_nil hposition
  exact le_antisymm (hone X Y) (hone Y X)

end Stratalog
