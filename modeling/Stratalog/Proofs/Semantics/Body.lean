import Stratalog.PatternEngine
import Stratalog.Proofs.Semantics.Group
import Stratalog.Program.Literal

/-!
# The meaning of bodies

An interpretation says which rows each predicate holds. Under it and an assignment every literal
holds or fails. Wildcards are existential, under a negation too; a comparison or assignment with
an undefined side fails; an aggregate folds over the assignments of its own body, each taken once.

A literal depends on the variables it mentions and on the predicates it reads, and on nothing else.
-/

namespace Stratalog

/-- The rows that each predicate holds. -/
abbrev Interpretation := String → Set Row

/-- Whether a term may stand where a value stands. -/
def Term.Agrees (σ : Assignment) : Term → Value → Prop
  | .var name, value => σ name = value
  | .const constant, value => constant = value
  | .wildcard, _ => True

/-- Whether the arguments of an atom agree with a row. -/
def Atom.Matches (σ : Assignment) (atom : Atom) (row : Row) : Prop :=
  List.Forall₂ (Term.Agrees σ) atom.args row

/-- Whether two values stand in the relation that an operator names. -/
def CompareOp.Relates [PatternEngine] (op : CompareOp) (a b : Value) : Prop :=
  match op with
  | .matches => ∃ subject text isFoundIn, a = .string subject ∧ b = .string text ∧
      PatternEngine.compile? text = some isFoundIn ∧ isFoundIn subject = true
  | op => op.holds a b = true

/-- Whether an assignment says nothing of variables other than those listed. -/
def Assignment.IsOver (σ : Assignment) (vars : List String) : Prop :=
  ∀ name, name ∉ vars → σ name = default

namespace Literal

/-- The variables that connect a literal to the conjunction around it. -/
def scope : Literal → List String
  | .atom a | .negated a => a.vars
  | .compare _ left right => left.vars ++ right.vars
  | .assign var expr => var :: expr.vars
  | .aggregate result _ _ groupBy _ => groupBy ++ [result]

/-- The variables of a conjunction. -/
def scopeOfAll (body : List Literal) : List String :=
  body.flatMap scope

mutual

/-- Whether a literal holds. -/
def Holds [PatternEngine] (render : Value → String) (I : Interpretation) : Literal → Assignment → Prop
  | .atom a, σ => ∃ row ∈ I a.predicate, a.Matches σ row
  | .negated a, σ => ¬∃ row ∈ I a.predicate, a.Matches σ row
  | .compare op left right, σ => ∃ a b, left.value render σ = some a ∧
      right.value render σ = some b ∧ op.Relates a b
  | .assign var expr, σ => expr.value render σ = some (σ var)
  | .aggregate result function target groupBy body, σ =>
    function.Folds (!groupBy.isEmpty)
      {τ | τ.IsOver (scopeOfAll body) ∧ HoldsAll render I body τ ∧ ∀ name ∈ groupBy, τ name = σ name}
      (fun τ => target.bind (·.value render τ)) (σ result)

/-- Whether every literal of a conjunction holds. -/
def HoldsAll [PatternEngine] (render : Value → String) (I : Interpretation) :
    List Literal → Assignment → Prop
  | [], _ => True
  | literal :: rest, σ => Holds render I literal σ ∧ HoldsAll render I rest σ

end

/-- To prove a property of all literals, prove it of an aggregate from the literals inside. -/
@[elab_as_elim]
theorem induction {motive : Literal → Prop} (atom : ∀ a, motive (.atom a))
    (negated : ∀ a, motive (.negated a))
    (compare : ∀ op left right, motive (.compare op left right))
    (assign : ∀ var expr, motive (.assign var expr))
    (aggregate : ∀ result function target groupBy body, (∀ literal ∈ body, motive literal) →
      motive (.aggregate result function target groupBy body))
    (literal : Literal) : motive literal :=
  @Literal.rec motive (fun body => ∀ literal ∈ body, motive literal) atom negated compare assign
    aggregate (fun _ hliteral => absurd hliteral List.not_mem_nil)
    (fun _ _ ihhead ihrest => List.forall_mem_cons.2 ⟨ihhead, ihrest⟩) literal

variable {render : Value → String} {I J : Interpretation} {σ τ : Assignment}

/-- A conjunction holds when each of its literals does. -/
theorem holdsAll_iff [PatternEngine] {body : List Literal} :
    HoldsAll render I body σ ↔ ∀ literal ∈ body, literal.Holds render I σ := by
  induction body with
  | nil => simp [HoldsAll]
  | cons literal rest ih => rw [HoldsAll, ih, List.forall_mem_cons]

end Literal

/-- Whether an atom matches a row depends on its variables alone. -/
theorem Atom.matches_congr {σ τ : Assignment} {atom : Atom} {row : Row}
    (h : ∀ name ∈ atom.vars, σ name = τ name) : atom.Matches σ row ↔ atom.Matches τ row := by
  have hagrees : ∀ term ∈ atom.args, ∀ value, term.Agrees σ value ↔ term.Agrees τ value := by
    intro term hterm value
    cases term with
    | var name =>
      have hname : name ∈ atom.vars := List.mem_filterMap.2 ⟨.var name, hterm, rfl⟩
      rw [Term.Agrees, Term.Agrees, h name hname]
    | const constant => rfl
    | wildcard => rfl
  rw [Matches, Matches, List.forall₂_iff_get, List.forall₂_iff_get]
  refine and_congr_right fun hlength => forall_congr' fun i => ?_
  refine forall_congr' fun hi => forall_congr' fun hi' => ?_
  exact hagrees _ (List.get_mem _ _) _

variable [PatternEngine]

namespace Literal

variable {render : Value → String} {I J : Interpretation} {σ τ : Assignment}

/-- Whether a literal holds depends on the variables in its scope alone. -/
theorem holds_congr {literal : Literal} (h : ∀ name ∈ literal.scope, σ name = τ name) :
    literal.Holds render I σ ↔ literal.Holds render I τ := by
  cases literal with
  | atom a =>
    simp only [Holds, Atom.matches_congr h]
  | negated a =>
    simp only [Holds, Atom.matches_congr h]
  | compare op left right =>
    have hleft := left.value_congr render fun name hname => h name (List.mem_append_left _ hname)
    have hright := right.value_congr render fun name hname => h name (List.mem_append_right _ hname)
    rw [Holds, Holds, hleft, hright]
  | assign var expr =>
    have hexpr := expr.value_congr render fun name hname => h name (List.mem_cons_of_mem _ hname)
    rw [Holds, Holds, hexpr, h var List.mem_cons_self]
  | aggregate result function target groupBy body =>
    have hresult : σ result = τ result := h result (by simp [scope])
    have hgroup (ρ : Assignment) :
        (∀ name ∈ groupBy, ρ name = σ name) ↔ ∀ name ∈ groupBy, ρ name = τ name := by
      refine forall_congr' fun name => imp_congr_right fun hname => ?_
      rw [h name (by simp [scope, hname])]
    simp only [Holds, hresult, hgroup]

/-- Whether a literal holds depends on the predicates it reads alone. -/
theorem holds_congr_of_reads {literal : Literal} {σ : Assignment}
    (h : ∀ read ∈ literal.reads, I read.1 = J read.1) :
    literal.Holds render I σ ↔ literal.Holds render J σ := by
  induction literal using induction generalizing σ with
  | atom a =>
    have ha : I a.predicate = J a.predicate := h (a.predicate, .positive) (by simp [reads])
    rw [Holds, Holds, ha]
  | negated a =>
    have ha : I a.predicate = J a.predicate := h (a.predicate, .negative) (by simp [reads])
    rw [Holds, Holds, ha]
  | compare op left right => simp only [Holds]
  | assign var expr => simp only [Holds]
  | aggregate result function target groupBy body ih =>
    have hbody (τ : Assignment) : HoldsAll render I body τ ↔ HoldsAll render J body τ := by
      rw [holdsAll_iff, holdsAll_iff]
      refine forall_congr' fun literal => imp_congr_right fun hliteral => ?_
      exact ih literal hliteral fun read hread =>
        h (read.1, .aggregate) (mem_reads_aggregate hliteral hread)
    simp only [Holds, hbody]

end Literal

namespace RowTest

variable {vars : List String} {op : CompareOp} {left right : Expr} {test : RowTest}

/-- A compiled comparison passes the row of an assignment exactly when the comparison holds. -/
theorem holds_compile (render : Value → String) (I : Interpretation)
    (h : compile vars.idxOf? op left right = .ok test) (σ : Assignment) :
    test.holds render (vars.map σ) = true ↔ (Literal.compare op left right).Holds render I σ := by
  have hcompare (hop : op ≠ .matches) {a b : SlotExpr}
      (ha : SlotExpr.compile vars.idxOf? left = .ok a)
      (hb : SlotExpr.compile vars.idxOf? right = .ok b) :
      (RowTest.compare op a b).holds render (vars.map σ) = true ↔
        (Literal.compare op left right).Holds render I σ := by
    rw [holds, SlotExpr.eval_compile_map render ha, SlotExpr.eval_compile_map render hb,
      Literal.Holds]
    cases hl : left.value render σ <;> cases hr : right.value render σ <;> simp [CompareOp.Relates]
  unfold compile at h
  split at h
  next text =>
    split at h
    next isFoundIn hpattern =>
      obtain ⟨a, ha, rfl⟩ := map_eq_ok.1 h
      rw [holds, SlotExpr.eval_compile_map render ha, Literal.Holds]
      rcases hl : left.value render σ with _ | (_ | subject | _ | _) <;>
        simp [CompareOp.Relates, Expr.value, hpattern]
    next => cases h
  next => cases h
  next hop _ =>
    obtain ⟨a, ha, h⟩ := bind_eq_ok.1 h
    obtain ⟨b, hb, h⟩ := bind_eq_ok.1 h
    cases h
    exact hcompare hop ha hb

/-- A compiled comparison refers to columns of the layout only. -/
theorem fits_compile (h : compile vars.idxOf? op left right = .ok test) :
    test.fits vars.length = true := by
  have hcolumn : ∀ name column, vars.idxOf? name = some column → column < vars.length :=
    fun _ _ hfound => (List.idxOf?_eq_some_iff.1 hfound).1
  unfold compile at h
  split at h
  next =>
    split at h
    next =>
      obtain ⟨a, ha, rfl⟩ := map_eq_ok.1 h
      exact SlotExpr.fits_compile hcolumn ha
    next => cases h
  next => cases h
  next =>
    obtain ⟨a, ha, h⟩ := bind_eq_ok.1 h
    obtain ⟨b, hb, h⟩ := bind_eq_ok.1 h
    cases h
    rw [fits, SlotExpr.fits_compile hcolumn ha, SlotExpr.fits_compile hcolumn hb, Bool.and_self]

end RowTest

end Stratalog
