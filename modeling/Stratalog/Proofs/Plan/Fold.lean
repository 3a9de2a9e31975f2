import Stratalog.Proofs.Plan.Table

/-!
# Folding a table

An aggregate folds the table of its own body group by group. Because the table lists each
assignment of the body once, the rows of the fold are the grouping values with the result that the
aggregate has for the set of assignments in the group.
-/

namespace Stratalog

variable {inner : Plan} {groupBy : List String} {keys : List Nat} {result : String}

/-- Picking the grouping columns gives the values of the grouping variables. -/
theorem pick_groupColumns (h : inner.groupColumns result groupBy = .ok keys) (σ : Assignment) :
    Row.pick (inner.vars.map σ) keys = groupBy.map σ := by
  induction groupBy generalizing keys with
  | nil =>
    cases h
    rfl
  | cons name rest ih =>
    rw [Plan.groupColumns] at h
    split at h
    next column hcolumn =>
      obtain ⟨others, hrest, rfl⟩ := map_eq_ok.1 h
      have hcell := Assignment.cell_map_of_idxOf σ hcolumn
      have hothers := ih hrest
      rw [Row.pick] at hothers ⊢
      rw [List.map_cons, List.map_cons, hcell, hothers]
    next => cases h

/-- There is one grouping column per grouping variable. -/
theorem length_groupColumns (h : inner.groupColumns result groupBy = .ok keys) :
    keys.length = groupBy.length := by
  have hpick := congrArg List.length (pick_groupColumns h fun _ => default)
  simpa using hpick

/-- The grouping columns are columns of the table. -/
theorem lt_of_mem_groupColumns (h : inner.groupColumns result groupBy = .ok keys) :
    ∀ column ∈ keys, column < inner.vars.length := by
  induction groupBy generalizing keys with
  | nil =>
    cases h
    simp
  | cons name rest ih =>
    rw [Plan.groupColumns] at h
    split at h
    next column hcolumn =>
      obtain ⟨others, hrest, rfl⟩ := map_eq_ok.1 h
      exact List.forall_mem_cons.2 ⟨(List.idxOf?_eq_some_iff.1 hcolumn).1, ih hrest⟩
    next => cases h

/-- The compiled target has the value of the target. -/
theorem eval_compileTarget {target : Option Expr} {compiled : Option SlotExpr}
    (h : inner.compileTarget target = .ok compiled) (render : Value → String) (σ : Assignment) :
    compiled.bind (·.eval render (inner.vars.map σ)) = target.bind (·.value render σ) := by
  cases target with
  | none =>
    cases h
    rfl
  | some expr =>
    obtain ⟨slots, hslots, rfl⟩ := map_eq_ok.1 h
    exact SlotExpr.eval_compile_map render hslots σ

open Evaluation

variable {rows : List Row} {Q : Assignment → Prop} {target : Option Expr}
  {compiled : Option SlotExpr}

/-- Every row of a fold is the grouping values and the result. -/
theorem length_foldRows {context : Context} {label : String} {function : FoldFunction}
    (hkeys : inner.groupColumns result groupBy = .ok keys) {row : Row}
    (hrow : row ∈ (foldRows context label function keys compiled rows).rows) :
    row.length = groupBy.length + 1 := by
  have hlength := length_groupColumns hkeys
  obtain ⟨key, value, rfl, hkey, -⟩ := mem_foldGroups.1 hrow
  rw [List.length_append, List.length_singleton, ← hlength]
  rcases hkey with hkey | hkey
  · cases keys with
    | nil =>
      obtain rfl : key = [] := by simpa [openedGroups] using hkey
      rfl
    | cons => simp [openedGroups] at hkey
  · simp only [List.map_map, List.mem_map, Function.comp_apply] at hkey
    obtain ⟨_, -, rfl⟩ := hkey
    simp

/-- The assignments of the rows in one group. -/
def groupListing (vars : List String) (keys : List Nat) (key : Row) (rows : List Row) :
    List Assignment :=
  (rows.filter fun row => row.pick keys = key).map (Assignment.ofRow vars)

/-- The listing of a group lists each assignment once. -/
theorem nodup_groupListing (h : (⟨inner.vars, rows⟩ : BindingTable).Lists Q) (keys : List Nat)
    (key : Row) : (groupListing inner.vars keys key rows).Nodup := by
  refine List.Nodup.map_on (fun a ha b hb heq => ?_) (h.nodup.filter _)
  rw [h.eq_map_ofRow (List.mem_filter.1 ha).1, h.eq_map_ofRow (List.mem_filter.1 hb).1, heq]

/-- The listing of a group lists the assignments of the body that agree on the grouping variables. -/
theorem mem_groupListing (h : (⟨inner.vars, rows⟩ : BindingTable).Lists Q)
    (hkeys : inner.groupColumns result groupBy = .ok keys) (σ τ : Assignment) :
    τ ∈ groupListing inner.vars keys (groupBy.map σ) rows ↔
      τ.IsOver inner.vars ∧ Q τ ∧ ∀ name ∈ groupBy, τ name = σ name := by
  simp only [groupListing, List.mem_map, List.mem_filter, decide_eq_true_eq]
  constructor
  · rintro ⟨row, ⟨hrow, hpick⟩, rfl⟩
    rw [h.eq_map_ofRow hrow, pick_groupColumns hkeys, List.map_inj_left] at hpick
    exact ⟨fun name hname => Assignment.ofRow_of_not_mem hname,
      (h.mem_iff (h.length row hrow)).1 hrow, hpick⟩
  · rintro ⟨hover, hQ, hgroup⟩
    refine ⟨inner.vars.map τ, ⟨(h.mem τ).2 hQ, ?_⟩, ?_⟩
    · rw [pick_groupColumns hkeys, List.map_inj_left]
      exact hgroup
    · funext name
      by_cases hname : name ∈ inner.vars
      · exact Assignment.ofRow_map τ hname
      · rw [Assignment.ofRow_of_not_mem hname, hover name hname]

/-- A group is open when it has an assignment, or when there is no grouping. -/
theorem mem_openedGroups_or_iff (vars : List String) {key : Row} (hkey : key.length = keys.length)
    (rows : List Row) :
    (key ∈ openedGroups (!keys.isEmpty) ∨ key ∈ rows.map fun row => row.pick keys) ↔
      ((!keys.isEmpty) = true → groupListing vars keys key rows ≠ []) := by
  have hlisting : groupListing vars keys key rows ≠ [] ↔
      key ∈ rows.map fun row => row.pick keys := by
    simp [groupListing]
  rw [hlisting]
  cases keys with
  | nil =>
    obtain rfl : key = [] := List.length_eq_zero_iff.1 hkey
    simp [openedGroups]
  | cons => simp [openedGroups]

/-- The grouping values with a result are a row of the fold exactly when the aggregate has that
result for the group. -/
theorem mem_foldRows {context : Context} {label : String} {function : FoldFunction}
    (h : (⟨inner.vars, rows⟩ : BindingTable).Lists Q)
    (hkeys : inner.groupColumns result groupBy = .ok keys)
    (htarget : inner.compileTarget target = .ok compiled) (σ : Assignment) :
    groupBy.map σ ++ [σ result] ∈ (foldRows context label function keys compiled rows).rows ↔
      function.Folds (!groupBy.isEmpty)
        {τ | τ.IsOver inner.vars ∧ Q τ ∧ ∀ name ∈ groupBy, τ name = σ name}
        (fun τ => target.bind (·.value context.entities.render τ)) (σ result) := by
  have hset : {τ : Assignment | τ.IsOver inner.vars ∧ Q τ ∧ ∀ name ∈ groupBy, τ name = σ name} =
      {τ | τ ∈ groupListing inner.vars keys (groupBy.map σ) rows} := by
    ext τ
    exact (mem_groupListing h hkeys σ τ).symm
  have hgrouped : (!groupBy.isEmpty) = !keys.isEmpty := by
    have hlength := length_groupColumns hkeys
    cases keys <;> cases groupBy <;> simp_all
  have hvalues : valuesUnder (groupBy.map σ) (rows.map fun row =>
      (row.pick keys, compiled.bind (·.eval context.entities.render row))) =
        (groupListing inner.vars keys (groupBy.map σ) rows).map
          fun τ => target.bind (·.value context.entities.render τ) := by
    rw [valuesUnder, groupListing, List.filter_map, List.map_map, List.map_map]
    refine List.map_congr_left fun row hrow => ?_
    have hmap := h.eq_map_ofRow (List.mem_filter.1 hrow).1
    have heval := eval_compileTarget htarget context.entities.render
      (Assignment.ofRow inner.vars row)
    rw [← hmap] at heval
    exact heval
  have hkey : (groupBy.map σ).length = keys.length := by simp [length_groupColumns hkeys]
  have hopened := mem_openedGroups_or_iff inner.vars hkey rows
  rw [hset, folds_iff_foldValue function _ (nodup_groupListing h keys _), ← hvalues, hgrouped,
    ← hopened, foldRows]
  refine mem_foldGroups.trans ?_
  simp only [List.map_map]
  constructor
  · rintro ⟨key, value, heq, hkey, hvalue⟩
    obtain ⟨rfl, hlast⟩ := List.append_inj' heq rfl
    obtain rfl : σ result = value := by simpa using hlast
    exact ⟨hkey, hvalue⟩
  · rintro ⟨hkey, hvalue⟩
    exact ⟨_, _, rfl, hkey, hvalue⟩

end Stratalog
