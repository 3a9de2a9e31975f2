import Stratalog.Proofs.Plan.Arguments

/-!
# Tables of assignments

A table lists a property of assignments when its rows are, each once, the values that assignments
with the property give to its variables. Every step of a plan turns a table that lists one property
into a table that lists a stronger one over more variables.
-/

namespace Stratalog

namespace BindingTable

/-- The rows are the values that assignments with the property give to the variables, each once. -/
structure Lists (table : BindingTable) (P : Assignment → Prop) : Prop where
  nodup_vars : table.vars.Nodup
  nodup : table.rows.Nodup
  length : ∀ row ∈ table.rows, row.length = table.vars.length
  mem : ∀ σ : Assignment, table.vars.map σ ∈ table.rows ↔ P σ

variable {table : BindingTable} {P Q : Assignment → Prop}

/-- A table lists equivalent properties alike. -/
theorem Lists.congr (h : table.Lists P) (hiff : ∀ σ, P σ ↔ Q σ) : table.Lists Q :=
  ⟨h.nodup_vars, h.nodup, h.length, fun σ => (h.mem σ).trans (hiff σ)⟩

/-- Every row is what its assignment gives to the variables. -/
theorem Lists.eq_map_ofRow (h : table.Lists P) {row : Row} (hrow : row ∈ table.rows) :
    row = table.vars.map (Assignment.ofRow table.vars row) :=
  (Assignment.map_ofRow h.nodup_vars (h.length row hrow)).symm

/-- A row as wide as the table belongs to it exactly when its assignment has the property. -/
theorem Lists.mem_iff (h : table.Lists P) {row : Row} (hlength : row.length = table.vars.length) :
    row ∈ table.rows ↔ P (Assignment.ofRow table.vars row) := by
  rw [← h.mem, Assignment.map_ofRow h.nodup_vars hlength]

/-- The table with no columns and one row lists every assignment. -/
theorem lists_start : (⟨[], [[]]⟩ : BindingTable).Lists fun _ => True :=
  ⟨List.nodup_nil, by simp, by simp, by simp⟩

/-- A table without rows lists any property that no assignment has. -/
theorem lists_nil {vars : List String} (hvars : vars.Nodup) (hnone : ∀ σ, ¬P σ) :
    (⟨vars, []⟩ : BindingTable).Lists P :=
  ⟨hvars, List.nodup_nil, by simp, fun σ => by simpa using hnone σ⟩

/-- A table without rows lists a property that no assignment has. -/
theorem Lists.not_of_isEmpty (h : table.Lists P) (hempty : table.rows.isEmpty = true)
    (σ : Assignment) : ¬P σ := by
  rw [← h.mem, List.isEmpty_iff.1 hempty]
  exact List.not_mem_nil

/-- Some rows of a table list the stronger property that picks them. -/
theorem Lists.sublist (h : table.Lists P) {rows : List Row} (hrows : rows.Sublist table.rows)
    (hmem : ∀ σ, table.vars.map σ ∈ table.rows → (table.vars.map σ ∈ rows ↔ Q σ)) :
    (⟨table.vars, rows⟩ : BindingTable).Lists fun σ => P σ ∧ Q σ := by
  refine ⟨h.nodup_vars, h.nodup.sublist hrows, fun row hrow => h.length row (hrows.subset hrow),
    fun σ => ?_⟩
  constructor
  · intro hrow
    have htable := hrows.subset hrow
    exact ⟨(h.mem σ).1 htable, (hmem σ htable).1 hrow⟩
  · rintro ⟨hP, hQ⟩
    exact (hmem σ ((h.mem σ).2 hP)).2 hQ

/-- The rows that pass a test list the assignments that pass it too. -/
theorem Lists.filter (h : table.Lists P) {test : Row → Bool}
    (htest : ∀ σ, test (table.vars.map σ) = true ↔ Q σ) :
    (⟨table.vars, table.rows.filter test⟩ : BindingTable).Lists fun σ => P σ ∧ Q σ :=
  h.sublist List.filter_sublist fun σ hrow => by rw [List.mem_filter, ← htest σ]; simp [hrow]

/-- The rows extended by a value list the assignments that give the value to a new variable. -/
theorem Lists.bind (h : table.Lists P) {var : String} (hvar : var ∉ table.vars)
    {value : Row → Option Value} {meaning : Assignment → Option Value}
    (hvalue : ∀ σ, value (table.vars.map σ) = meaning σ) :
    (⟨table.vars ++ [var],
      table.rows.filterMap fun row => (value row).map fun v => row ++ [v]⟩ : BindingTable).Lists
        fun σ => P σ ∧ meaning σ = some (σ var) := by
  refine ⟨?_, ?_, fun row hrow => ?_, fun σ => ?_⟩
  · rw [List.nodup_append]
    refine ⟨h.nodup_vars, by simp, fun a ha b hb => ?_⟩
    rintro rfl
    obtain rfl : a = var := by simpa using hb
    exact hvar ha
  · refine h.nodup.filterMap fun a b row ha hb => ?_
    simp only [Option.mem_def, Option.map_eq_some_iff] at ha hb
    obtain ⟨v, -, rfl⟩ := ha
    obtain ⟨w, -, heq⟩ := hb
    exact (List.append_inj' heq rfl).1.symm
  · simp only [List.mem_filterMap, Option.map_eq_some_iff] at hrow
    obtain ⟨old, hold, v, -, rfl⟩ := hrow
    simp [h.length old hold]
  · simp only [List.mem_filterMap, Option.map_eq_some_iff, List.map_append, List.map_cons,
      List.map_nil]
    constructor
    · rintro ⟨old, hold, v, hv, heq⟩
      obtain ⟨rfl, hlast⟩ := List.append_inj' heq rfl
      obtain rfl : v = σ var := by simpa using hlast
      exact ⟨(h.mem σ).1 hold, (hvalue σ).symm.trans hv⟩
    · rintro ⟨hP, hmeaning⟩
      exact ⟨_, (h.mem σ).2 hP, σ var, (hvalue σ).trans hmeaning, rfl⟩

open Evaluation

/-- A table joined with a relation through the arguments of an atom. -/
abbrev joined (table : BindingTable) (right : Relation) (terms : List Term) (limit : Nat) :
    JoinResult :=
  joinThrough table.rows right (argSlots table.vars.idxOf? terms) limit

/-- A join within its limit gives the rows of the nested loop. -/
theorem perm_joinThrough {right : Relation} {terms : List Term} {limit : Nat}
    (hright : right.Coherent)
    (hlimit : (table.joined right terms limit).report.truncated = false) :
    (table.joined right terms limit).rows.Perm
      (nestedLoop table.rows ((keyColumns (argSlots table.vars.idxOf? terms)).map Prod.fst)
        right.rows ((keyColumns (argSlots table.vars.idxOf? terms)).map Prod.snd)
        (extendRow (argSlots table.vars.idxOf? terms).zipIdx)) :=
  joinRows_perm hright (by simp) hlimit

/-- A row that comes out of a pair extends the left one by one cell for each new variable. -/
theorem Lists.of_extendRow (h : table.Lists P) {terms : List Term} {left right row : Row}
    (hleft : left ∈ table.rows)
    (hrow : extendRow (argSlots table.vars.idxOf? terms).zipIdx left right = some row) :
    ∃ σ : Assignment, left = table.vars.map σ ∧
      row = (table.vars ++ newVars table.vars [] terms).map σ := by
  have hnodup := nodup_append_newVars h.nodup_vars terms
  unfold extendRow at hrow
  split at hrow
  next =>
    cases hrow
    have hcells : (freshCells (argSlotsFrom table.vars.idxOf? 0 [] terms).zipIdx right).length =
        (newVars table.vars [] terms).length := length_freshCells
    have hlength : (left ++ freshCells (argSlots table.vars.idxOf? terms).zipIdx right).length =
        (table.vars ++ newVars table.vars [] terms).length := by
      rw [List.length_append, List.length_append, h.length left hleft, argSlots, hcells]
    have hmap := Assignment.map_ofRow hnodup hlength
    refine ⟨_, ?_, hmap.symm⟩
    rw [List.map_append] at hmap
    exact (List.append_inj hmap (by simp [h.length left hleft])).1.symm
  next => cases hrow

/-- A join within its limit gives the bindings for which some row of the relation matches. -/
theorem Lists.mem_joinThrough (h : table.Lists P) {right : Relation} {terms : List Term}
    {limit : Nat} (hright : right.Coherent) (hlength : ∀ r ∈ right.rows, r.length = terms.length)
    (hlimit : (table.joined right terms limit).report.truncated = false) (σ : Assignment) :
    (table.vars ++ newVars table.vars [] terms).map σ ∈ (table.joined right terms limit).rows ↔
      P σ ∧ ∃ r ∈ right.rows, List.Forall₂ (Term.Agrees σ) terms r := by
  rw [(perm_joinThrough hright hlimit).mem_iff, mem_nestedLoop]
  constructor
  · rintro ⟨left, hleft, r, hr, hkey, hrow⟩
    obtain ⟨τ, rfl, heq⟩ := h.of_extendRow hleft hrow
    have hvars : table.vars.map σ = table.vars.map τ := by
      rw [List.map_append, List.map_append] at heq
      exact (List.append_inj heq (by simp)).1
    rw [← hvars] at hleft hkey hrow
    exact ⟨(h.mem σ).1 hleft, r, hr, (extendRow_iff_forall₂ (hlength r hr)).1 ⟨hkey, hrow⟩⟩
  · rintro ⟨hP, r, hr, hagrees⟩
    obtain ⟨hkey, hrow⟩ := (extendRow_iff_forall₂ (hlength r hr)).2 hagrees
    exact ⟨_, (h.mem σ).2 hP, r, hr, hkey, hrow⟩

/-- Without wildcards a join gives no row twice. -/
theorem Lists.nodup_joinThrough (h : table.Lists P) {right : Relation} {terms : List Term}
    {limit : Nat} (hright : right.Coherent) (hnodup : right.rows.Nodup)
    (hlength : ∀ r ∈ right.rows, r.length = terms.length) (hwild : Term.wildcard ∉ terms)
    (hlimit : (table.joined right terms limit).report.truncated = false) :
    (table.joined right terms limit).rows.Nodup := by
  rw [(perm_joinThrough hright hlimit).nodup_iff, nestedLoop, List.nodup_flatMap]
  constructor
  · intro left hleft
    unfold List.Nodup
    rw [List.pairwise_filterMap]
    refine (hnodup.filter _).imp_of_mem fun {r r'} hr hr' hne row hrow row' hrow' heq => hne ?_
    rw [List.mem_filter, decide_eq_true_eq] at hr hr'
    subst heq
    obtain ⟨σ, rfl, rfl⟩ := h.of_extendRow hleft hrow
    exact forall₂_agrees_unique hwild
      ((extendRow_iff_forall₂ (hlength r hr.1)).1 ⟨hr.2, hrow⟩)
      ((extendRow_iff_forall₂ (hlength r' hr'.1)).1 ⟨hr'.2, hrow'⟩)
  · refine h.nodup.imp_of_mem fun {first second} hfirst hsecond hne row hrow hrow' => hne ?_
    obtain ⟨r, -, hr⟩ := List.mem_filterMap.1 hrow
    obtain ⟨r', -, hr'⟩ := List.mem_filterMap.1 hrow'
    obtain ⟨σ, rfl, rfl⟩ := h.of_extendRow hfirst hr
    obtain ⟨τ, rfl, heq⟩ := h.of_extendRow hsecond hr'
    rw [List.map_append, List.map_append] at heq
    exact (List.append_inj heq (by simp)).1

/-- A join lists the bindings for which some row of the relation matches, wildcards or not. -/
theorem Lists.join (h : table.Lists P) {right : Relation} {terms : List Term} (limit : Nat)
    (hright : right.Coherent) (hnodup : right.rows.Nodup)
    (hlength : ∀ r ∈ right.rows, r.length = terms.length)
    (hlimit : (table.joined right terms limit).report.truncated = false) :
    (⟨table.vars ++ newVars table.vars [] terms,
      if (argSlots table.vars.idxOf? terms).contains .wildcard then
        Row.sortDistinct (table.joined right terms limit).rows
      else (table.joined right terms limit).rows⟩ : BindingTable).Lists
        fun σ => P σ ∧ ∃ r ∈ right.rows, List.Forall₂ (Term.Agrees σ) terms r := by
  have hvars := nodup_append_newVars h.nodup_vars terms
  have hrows : ∀ row ∈ (table.joined right terms limit).rows,
      row.length = (table.vars ++ newVars table.vars [] terms).length := by
    intro row hrow
    obtain ⟨left, hleft, r, hr, hkey, hemit⟩ :=
      mem_nestedLoop.1 ((perm_joinThrough hright hlimit).mem_iff.1 hrow)
    obtain ⟨σ, -, rfl⟩ := h.of_extendRow hleft hemit
    simp
  have hmem := h.mem_joinThrough hright hlength hlimit
  by_cases hwild : Term.wildcard ∈ terms
  · have hcontains : (argSlots table.vars.idxOf? terms).contains .wildcard = true := by
      simpa [argSlots] using wildcard_mem_argSlotsFrom.2 hwild
    rw [if_pos hcontains]
    exact ⟨hvars, Row.nodup_sortDistinct _, fun row hrow => hrows row (Row.mem_sortDistinct.1 hrow),
      fun σ => Row.mem_sortDistinct.trans (hmem σ)⟩
  · have hcontains : ¬(argSlots table.vars.idxOf? terms).contains .wildcard = true := by
      rw [List.contains_iff_mem, argSlots, wildcard_mem_argSlotsFrom]
      exact hwild
    rw [if_neg hcontains]
    exact ⟨hvars, h.nodup_joinThrough hright hnodup hlength hwild hlimit, hrows, hmem⟩

/-- An antijoin lists the bindings for which no row of the relation matches, where the atom has all
its variables bound. -/
theorem Lists.reject (h : table.Lists P) {right : Relation} {terms : List Term}
    (hright : right.Coherent) (hlength : ∀ r ∈ right.rows, r.length = terms.length)
    (hbound : ∀ name, Term.var name ∈ terms → name ∈ table.vars) :
    (⟨table.vars, (antijoinRows table.rows
      ((keyColumns (argSlots table.vars.idxOf? terms)).map Prod.fst) right
      ((keyColumns (argSlots table.vars.idxOf? terms)).map Prod.snd)).1⟩ : BindingTable).Lists
        fun σ => P σ ∧ ¬∃ r ∈ right.rows, List.Forall₂ (Term.Agrees σ) terms r := by
  refine h.sublist (antijoinRows_sublist _ _ _ _) fun σ hσ => ?_
  rw [mem_antijoinRows hright (by simp), and_iff_right hσ, not_iff_not]
  refine exists_congr fun r => and_congr_right fun hr => ?_
  exact keys_iff_forall₂ (hlength r hr) hbound

end BindingTable

end Stratalog
