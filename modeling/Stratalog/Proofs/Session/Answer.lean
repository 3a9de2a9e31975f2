import Stratalog.Proofs.Plan.Completion
import Stratalog.Proofs.Relation.Sorted
import Stratalog.Proofs.Semantics.PerfectModel
import Stratalog.Proofs.Typing.Program
import Stratalog.Session

/-!
# Answering a query

A checked query whose reads succeed is answered by the rows of its selections, for the assignments
that satisfy its body and give every selection a value. The rows stand in strictly increasing order.
Only a table grown too large stops it.
-/

namespace Stratalog

open Evaluation Eval

variable {context : Context} {workspace : Workspace} {catalog : Catalog} {vars : List String}
  {select : List Selection}

namespace Evaluation

/-- Selections over bound variables compile, and refer to columns of the table. -/
theorem exists_compileSelections
    (h : ∀ item ∈ select, ∀ name ∈ item.expr.vars, name ∈ vars) :
    ∃ exprs, compileSelections vars.idxOf? select = .ok exprs ∧
      (∀ expr ∈ exprs, expr.fits vars.length = true) ∧
        ∀ (render : Value → String) (σ : Assignment) (row : Row),
          selectRow render (vars.map σ) exprs = some row ↔
            List.Forall₂ (fun item value => item.expr.value render σ = some value) select row := by
  induction select with
  | nil => exact ⟨[], rfl, by simp, fun render σ row => by simp [selectRow, eq_comm]⟩
  | cons item rest ih =>
    obtain ⟨hitem, hrest⟩ := List.forall_mem_cons.1 h
    obtain ⟨exprs, hexprs, hfits, hselect⟩ := ih hrest
    have hok : (SlotExpr.compile vars.idxOf? item.expr).isOk = true :=
      (SlotExpr.isOk_compile _ _).2 fun name hname => List.isSome_idxOf?.2 (hitem name hname)
    obtain ⟨expr, hexpr⟩ := isOk_iff.1 hok
    have hexprFits : expr.fits vars.length = true :=
      SlotExpr.fits_compile (fun _ _ hfound => (List.idxOf?_eq_some_iff.1 hfound).1) hexpr
    refine ⟨expr :: exprs, ?_, List.forall_mem_cons.2 ⟨hexprFits, hfits⟩, fun render σ row => ?_⟩
    · rw [compileSelections, hexpr, hexprs]
      rfl
    · rw [selectRow, SlotExpr.eval_compile_map render hexpr, List.forall₂_cons_left_iff]
      simp only [Option.bind_eq_bind, Option.bind_eq_some_iff, Option.pure_def, Option.some.injEq]
      constructor
      · rintro ⟨value, hvalue, others, hothers, rfl⟩
        exact ⟨value, others, hvalue, (hselect render σ others).1 hothers, rfl⟩
      · rintro ⟨value, others, hvalue, hothers, rfl⟩
        exact ⟨value, hvalue, others, (hselect render σ others).2 hothers, rfl⟩

end Evaluation

variable [PatternEngine]

/-- A result lists the answers to a query under an interpretation, in strictly increasing order. -/
def ResultSet.Lists (result : ResultSet) (render : Value → String) (query : Query)
    (I : Interpretation) : Prop :=
  result.rows.Pairwise (fun a b => compare a b = .lt) ∧
    ∀ row, row ∈ result.rows ↔ query.Answers render I row

/-- Results that list the same answers have the same rows. -/
theorem ResultSet.Lists.rows_eq {result other : ResultSet} {render : Value → String} {query : Query}
    {I : Interpretation} (h : result.Lists render query I) (hother : other.Lists render query I) :
    result.rows = other.rows :=
  Row.eq_of_pairwise_lt h.1 hother.1 fun row => (h.2 row).trans (hother.2 row).symm

namespace Session

/-- A checked query whose reads succeed is answered by exactly its answers, in strictly increasing
order. -/
theorem ensures_evaluateQuery (hconforms : workspace.Conforms catalog)
    (hcoherent : workspace.Coherent) {prepared : PreparedQuery} {schema : Schema}
    (hquery : Typing.checkQuery catalog prepared.query = .ok schema)
    (hreadable : workspace.Readable prepared.query.reads) :
    (evaluateQuery context prepared).Ensures workspace
      (fun result after => workspace.Kept after ∧
        result.Lists context.entities.render prepared.query (workspace.denotes false))
      fun fault after => workspace.Kept after ∧ fault.IsTupleLimit := by
  obtain ⟨site, env, hbody, hselect⟩ := Typing.checked_of_checkQuery hquery
  unfold evaluateQuery
  refine ensures_body hconforms (Workspace.Kept.refl hcoherent) hbody (by simp)
    (fun table after hafter hvars hlists => ?_) fun _ _ hafter hfault => ⟨hafter, hfault hreadable⟩
  have hcolumns : ∀ item ∈ prepared.query.select, ∀ name ∈ item.expr.vars, name ∈ table.vars :=
    fun item hitem name hname => (hvars name).2 (hselect item hitem name hname)
  obtain ⟨exprs, hexprs, hfits, hrows⟩ := exists_compileSelections hcolumns
  have hbounds : selectFits table prepared.query.select = true := by
    simp only [selectFits, hexprs, Except.toOption, Option.all_some, List.all_eq_true]
    intro row hrow
    rw [hlists.length row hrow]
    exact hfits
  rw [ensures_bind]
  refine ensures_noteBounds hbounds ?_
  rw [selectRows, hexprs, ensures_bind, ensures_lift]
  refine ⟨fun rows heq => ?_, fun fault heq => by cases heq⟩
  cases heq
  rw [ensures_bind, ensures_lift]
  refine ⟨fun _ _ => ?_, fun fault hfault => ⟨hafter, isTupleLimit_of_checkSize hfault⟩⟩
  rw [ensures_pure]
  refine ⟨hafter, Row.pairwise_sortDistinct _, fun row => ?_⟩
  change row ∈ Row.sortDistinct _ ↔ _
  rw [Row.mem_sortDistinct, List.mem_filterMap]
  constructor
  · rintro ⟨binding, hbinding, hvalue⟩
    have hsatisfied := (hlists.mem_iff (hlists.length _ hbinding)).1 hbinding
    rw [hlists.eq_map_ofRow hbinding, hrows] at hvalue
    exact ⟨_, Workspace.satisfies_none_iff.1 hsatisfied, hvalue⟩
  · rintro ⟨σ, hsatisfied, hvalue⟩
    refine ⟨table.vars.map σ, ?_, (hrows _ σ row).2 hvalue⟩
    exact (hlists.mem σ).2 (Workspace.satisfies_none_iff.2 hsatisfied)

end Session

end Stratalog
