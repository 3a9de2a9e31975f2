import Stratalog.Proofs.Simulation.Stratum
import Stratalog.Session

/-!
# Queries side by side

From twins, a prepared query is answered by the same rows. They are sorted at the end, so the two
answers are equal and not only the same up to order.
-/

namespace Stratalog

open Evaluation

/-- Sorting and leaving out repeats leaves no more rows. -/
theorem Row.length_sortDistinct_le (rows : List Row) : (sortDistinct rows).length ≤ rows.length :=
  ((nodup_sortDistinct rows).subperm fun _ => mem_sortDistinct.1).length_le

namespace Pairing

variable {p : Pairing} {members : List String} {left right : Workspace}

/-- Selections from the same bindings in another order are the same rows in another order. -/
theorem map_ofList_selectRows {table table' : BindingTable} (hvars : table'.vars = table.vars)
    (hrows : table.rows.Perm table'.rows) (select : List Selection) :
    (selectRows p.second table' select).map Multiset.ofList =
      (selectRows p.first table select).map Multiset.ofList := by
  unfold selectRows
  rw [hvars, p.entities]
  cases compileSelections table.vars.idxOf? select with
  | error fault => rfl
  | ok exprs => exact congrArg Except.ok (Multiset.coe_eq_coe.2 (hrows.symm.filterMap _))

/-- A query is answered alike, within the budget of the first context. -/
theorem pairs_evaluateQuery [PatternEngine] (h : p.Twins members left right)
    {prepared prepared' : PreparedQuery}
    (hquery : prepared'.query = prepared.query) (hschema : prepared'.schema = prepared.schema)
    (hreads : ∀ name ∈ prepared.query.reads, name ∈ p.names) :
    p.Pairs members (Session.evaluateQuery p.first prepared)
      (Session.evaluateQuery p.second prepared') left right fun result result' =>
        result' = result ∧ result.rows.length ≤ p.first.settings.maxTuples := by
  have hnames : ∀ read ∈ Literal.readsOfAll prepared.query.body, read.1 ∈ p.names :=
    fun read hread => hreads read.1 (List.mem_map_of_mem hread)
  unfold Session.evaluateQuery
  rw [hquery, hschema]
  refine Eval.pairs_get_bind (pairs_ofBody_bind h hnames fun plan hplan => ?_)
  refine (pairs_runPlan h hplan).bind fun table table' l r ⟨hvars, hvars', hrows⟩ hnext => ?_
  refine (pairs_noteBounds hnext _ _).bind fun _ _ l r _ hnoted => ?_
  refine Eval.pairs_lift_bind (map_ofList_selectRows (hvars'.trans hvars.symm) hrows _) hnoted.toKin
    fun found found' _ _ heq => ?_
  have hperm : found'.Perm found := Multiset.coe_eq_coe.1 heq
  refine (pairs_checkSize hnoted hperm.length_eq _ _).bind fun _ _ _ _ hsize hlast =>
    pairs_pure hlast ⟨?_, (Row.length_sortDistinct_le found).trans hsize⟩
  unfold ResultSet.ofRows
  rw [Row.sortDistinct_of_perm hperm]

end Pairing

end Stratalog
