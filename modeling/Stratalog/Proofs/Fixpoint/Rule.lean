import Stratalog.Evaluation.Fixpoint
import Stratalog.Proofs.Plan.Completion
import Stratalog.Proofs.Semantics.Consequence
import Stratalog.Proofs.Typing.Program

/-!
# Evaluating one rule

A rule that passed its check derives the rows of its head for the assignments that satisfy its
body. Its body can be planned and its head can be read off the table, so only a table grown too
large stops it where everything it reads can be read.
-/

namespace Stratalog

namespace Evaluation

open Eval

variable {context : Context} {start workspace : Workspace} {catalog : Catalog}

/-- A head without wildcards whose variables have columns can be read off a row. -/
theorem exists_headParts {vars : List String} {head : List Term}
    (h : ∀ term ∈ head, term ≠ .wildcard ∧ ∀ name, term = .var name → name ∈ vars) :
    ∃ parts, headParts vars head = .ok parts ∧ (∀ part ∈ parts, part.fits vars.length = true) ∧
      ∀ σ : Assignment, leftKey parts (vars.map σ) = head.map (Term.value σ) := by
  induction head with
  | nil => exact ⟨[], rfl, by simp, fun _ => rfl⟩
  | cons term rest ih =>
    obtain ⟨hterm, hrest⟩ := List.forall_mem_cons.1 h
    obtain ⟨parts, hparts, hfits, hread⟩ := ih hrest
    cases term with
    | var name =>
      have hname : name ∈ vars := hterm.2 name rfl
      obtain ⟨column, hcolumn⟩ := Option.isSome_iff_exists.1 (List.isSome_idxOf?.2 hname)
      have hcell (σ : Assignment) : Row.cell (vars.map σ) column = σ name :=
        Assignment.cell_map_of_idxOf σ hcolumn
      have hlt : column < vars.length := (List.idxOf?_eq_some_iff.1 hcolumn).1
      refine ⟨.column column :: parts, by rw [headParts, hcolumn, hparts]; rfl,
        List.forall_mem_cons.2 ⟨by simpa [KeyPart.fits] using hlt, hfits⟩, fun σ => ?_⟩
      have hothers := hread σ
      rw [leftKey] at hothers ⊢
      rw [List.map_cons, List.map_cons, hothers, KeyPart.read, hcell, Term.value]
    | const value =>
      refine ⟨.const value :: parts, by rw [headParts, hparts]; rfl,
        List.forall_mem_cons.2 ⟨rfl, hfits⟩, fun σ => ?_⟩
      have hothers := hread σ
      rw [leftKey] at hothers ⊢
      rw [List.map_cons, List.map_cons, hothers, KeyPart.read, Term.value]
    | wildcard => exact absurd rfl hterm.1

/-- Whether everything that the body of a rule reads can be read. -/
def Feeds (workspace : Workspace) (rule : Rule) : Prop :=
  workspace.Readable ((Literal.readsOfAll rule.body).map Prod.fst)

/-- The head rows of a rule for the assignments that satisfy its body in a workspace; the atom at
`deltaAt`, if given, reads the growth of a member. -/
def headsIn [PatternEngine] (context : Context) (workspace : Workspace) (rule : Rule)
    (deltaAt : Option Nat) :
    Set Row :=
  {row | ∃ σ : Assignment, workspace.Satisfies context.entities.render rule.body deltaAt σ ∧
    rule.headRow σ = row}

/-- Evaluating a checked rule gives the rows of its head for the assignments that satisfy its
body. -/
theorem ensures_evaluateRule [PatternEngine] (hconforms : start.Conforms catalog)
    (hkept : start.Kept workspace)
    {rule : Rule} {width : Nat} (hrule : rule.Checked catalog width) {deltaAt : Option Nat}
    (hdelta : ∀ i, deltaAt = some i → ∃ atom, rule.body[i]? = some (.atom atom)) :
    (evaluateRule context rule deltaAt).Ensures workspace
      (fun rows after => start.Kept after ∧ (∀ row ∈ rows, row.length = width) ∧
        ∀ row, row ∈ rows ↔ row ∈ headsIn context start rule deltaAt)
      fun fault after => start.Kept after ∧ (Feeds start rule → fault.IsTupleLimit) := by
  obtain ⟨hlength, site, env, hbody, hhead⟩ := hrule
  unfold evaluateRule
  refine ensures_body hconforms hkept hbody hdelta
    (fun table after hafter hvars hlists => ?_) fun _ _ hafter hfault => ⟨hafter, hfault⟩
  have hcolumns : ∀ term ∈ rule.head, term ≠ .wildcard ∧ ∀ name, term = .var name →
      name ∈ table.vars := fun term hterm =>
    ⟨(hhead term hterm).1, fun name heq => (hvars name).2 ((hhead term hterm).2 name heq)⟩
  obtain ⟨parts, hparts, hfits, hread⟩ := exists_headParts hcolumns
  have hbounds : headFits table rule.head = true := by
    simp only [headFits, hparts, Except.toOption, Option.all_some, List.all_eq_true]
    intro row hrow
    rw [hlists.length row hrow]
    exact hfits
  rw [ensures_bind]
  refine ensures_noteBounds hbounds ?_
  rw [headRows, hparts, ensures_lift]
  refine ⟨fun rows heq => ?_, fun fault heq => by cases heq⟩
  cases heq
  refine ⟨hafter, fun row hrow => ?_, fun row => ?_⟩
  · obtain ⟨binding, hbinding, rfl⟩ := List.mem_map.1 hrow
    rw [hlists.eq_map_ofRow hbinding, hread, List.length_map, hlength]
  · rw [List.mem_map]
    constructor
    · rintro ⟨binding, hbinding, rfl⟩
      refine ⟨_, (hlists.mem_iff (hlists.length _ hbinding)).1 hbinding, ?_⟩
      rw [Rule.headRow, ← hread, ← hlists.eq_map_ofRow hbinding]
    · rintro ⟨σ, hσ, rfl⟩
      exact ⟨_, (hlists.mem σ).2 hσ, hread σ⟩

end Evaluation

end Stratalog
