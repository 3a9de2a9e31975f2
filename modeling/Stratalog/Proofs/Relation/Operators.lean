import Stratalog.Algebra.Operators
import Stratalog.Proofs.Outcome
import Stratalog.Proofs.Relation.Join
import Stratalog.Proofs.Semantics.Group

/-!
# Operators on sets of rows

A relation presents a set of rows when it lists each of them once, its schema accepts them all, and its
indices do not mislead. Each operator of relational algebra, given relations that present sets, presents
the set that the operator is meant to give. Selection, join, antijoin and aggregation leave no repeats
by themselves: joined rows come apart again because all left rows are equally wide, and the rows of
different groups differ in their keys.
-/

namespace Stratalog

namespace Schema

variable {schema left right : Schema} {row l r : Row}

/-- Picked columns accept the picked values of an accepted row. -/
theorem accepts_pick {columns : List Nat} (h : schema.accepts row = true)
    (hcolumns : ∀ c ∈ columns, c < schema.arity) :
    (schema.pick columns).accepts (row.pick columns) = true := by
  have htypes : row.map Value.type = schema.columns.map Column.type := by
    simpa [accepts, types] using h
  rw [accepts, beq_iff_eq, types, pick, Row.pick, List.map_map, List.map_map]
  refine List.map_congr_left fun c hc => ?_
  have hcolumn : c < schema.columns.length := hcolumns c hc
  have hcell : c < row.length := by rwa [length_of_accepts h]
  have hget := List.getElem_of_eq htypes (i := c) (by simpa using hcell)
  simpa [Row.cell, List.getD_eq_getElem?_getD, hcolumn, hcell] using hget

/-- Columns side by side accept accepted rows side by side. -/
theorem accepts_append (hl : left.accepts l = true) (hr : right.accepts r = true) :
    (left.append right).accepts (l ++ r) = true := by
  rw [accepts, beq_iff_eq, types] at hl hr ⊢
  rw [append, List.map_append, List.map_append, hl, hr]

end Schema

namespace Row

/-- Two rows have the same values in the paired columns. -/
def Agree (on : List (Nat × Nat)) (l r : Row) : Prop :=
  ∀ pair ∈ on, l.cell pair.1 = r.cell pair.2

/-- The concatenations of rows that agree on the paired columns. -/
def joined (on : List (Nat × Nat)) (M N : Set Row) : Set Row :=
  {row | ∃ l ∈ M, ∃ r ∈ N, Agree on l r ∧ row = l ++ r}

/-- The rows that agree with no row of the other side. -/
def unmatched (on : List (Nat × Nat)) (M N : Set Row) : Set Row :=
  {l ∈ M | ¬∃ r ∈ N, Agree on l r}

/-- One row per group: the values grouped by, then the folded value. There is a group for all values
that occur in the columns grouped by, and a single group where no columns are given. -/
def aggregated (groupBy : List Nat) (function : FoldFunction) (target : Option Nat) (M : Set Row) :
    Set Row :=
  {row | ∃ key result, row = key ++ [result] ∧ key.length = groupBy.length ∧
    (groupBy ≠ [] → ∃ r ∈ M, r.pick groupBy = key) ∧
      function.Yields {r ∈ M | r.pick groupBy = key} (fun r => target.map r.cell) result}

/-- Keys are equal exactly when the rows agree. -/
theorem pick_eq_leftKey_iff {on : List (Nat × Nat)} {l r : Row} :
    r.pick (on.map Prod.snd) = leftKey (on.map fun pair => .column pair.1) l ↔ Agree on l r := by
  rw [pick, leftKey, List.map_map, List.map_map, eq_comm]
  exact List.map_inj_left

end Row

/-- The nested loop over rows of equal width gives no concatenation twice. -/
theorem nodup_nestedLoop_append {left right : List Row} {keys : List KeyPart} {columns : List Nat}
    {width : Nat} (hleft : left.Nodup) (hright : right.Nodup)
    (hwidth : ∀ l ∈ left, l.length = width) :
    (nestedLoop left keys right columns fun l r => some (l ++ r)).Nodup := by
  refine List.nodup_flatMap.2 ⟨fun l _ => ?_, hleft.pairwise_of_forall_ne fun l hl l' hl' hne => ?_⟩
  · refine List.Nodup.filterMap (fun r r' row hr hr' => ?_) (hright.filter _)
    rw [Option.mem_some_iff] at hr hr'
    exact List.append_cancel_left (hr.trans hr'.symm)
  · intro row hrow hrow'
    obtain ⟨r, -, hr⟩ := List.mem_filterMap.1 hrow
    obtain ⟨r', -, hr'⟩ := List.mem_filterMap.1 hrow'
    rw [Option.some.injEq] at hr hr'
    exact hne (List.append_inj (hr.trans hr'.symm) ((hwidth l hl).trans (hwidth l' hl').symm)).1

namespace Relation

/-- A relation lists a set of rows: each once, all accepted by its schema. -/
structure Presents (relation : Relation) (M : Set Row) : Prop where
  coherent : relation.Coherent
  nodup : relation.rows.Nodup
  accepts : ∀ row ∈ relation.rows, relation.schema.accepts row = true
  mem : ∀ row, row ∈ relation.rows ↔ row ∈ M

variable {relation next left right : Relation} {M N : Set Row}

/-- What a relation presents is the set of its rows. -/
theorem Presents.rows_eq (h : relation.Presents M) : {row | row ∈ relation.rows} = M :=
  Set.ext h.mem

/-- The rows of a relation are as wide as its schema. -/
theorem Presents.length_eq (h : relation.Presents M) {row : Row} (hrow : row ∈ relation.rows) :
    row.length = relation.arity :=
  Schema.length_of_accepts (h.accepts row hrow)

/-- Distinct accepted rows make a relation that presents them. -/
theorem presents_ofDistinct {name : String} {schema : Schema} {rows : List Row} (hnodup : rows.Nodup)
    (haccepts : ∀ row ∈ rows, schema.accepts row = true) (hmem : ∀ row, row ∈ rows ↔ row ∈ M) :
    (ofDistinct name schema rows).Presents M :=
  ⟨coherent_ofDistinct name schema rows, hnodup, haccepts, hmem⟩

/-- Accepted rows, repeats left out, make a relation that presents them. -/
theorem presents_ofRows {name : String} {schema : Schema} {rows : List Row}
    (haccepts : ∀ row ∈ rows, schema.accepts row = true) (hmem : ∀ row, row ∈ rows ↔ row ∈ M) :
    (ofRows name schema rows).Presents M :=
  presents_ofDistinct (Row.nodup_distinct rows)
    (fun row hrow => haccepts row ((Row.mem_distinct rows row).1 hrow))
    fun row => (Row.mem_distinct rows row).trans (hmem row)

/-- Selection filters. -/
theorem Presents.select (h : relation.Presents M) (test : Row → Bool) :
    (relation.select test).Presents {row ∈ M | test row = true} := by
  refine presents_ofDistinct (h.nodup.filter test) (fun row hrow => ?_) fun row => ?_
  · exact h.accepts row (List.mem_of_mem_filter hrow)
  · rw [List.mem_filter, h.mem]
    rfl

/-- Projection maps onto the columns. -/
theorem Presents.project (h : relation.Presents M) {columns : List Nat}
    (hproject : relation.project columns = .ok next) :
    next.Presents ((fun row => row.pick columns) '' M) := by
  unfold Relation.project at hproject
  split at hproject
  next => cases hproject
  next hrange =>
    cases hproject
    have hcolumns : ∀ c ∈ columns, c < relation.arity := by
      simpa using List.find?_eq_none.1 hrange
    refine presents_ofRows (fun row hrow => ?_) fun row => ?_
    · obtain ⟨held, hheld, rfl⟩ := List.mem_map.1 hrow
      exact Schema.accepts_pick (h.accepts held hheld) hcolumns
    · rw [List.mem_map, Set.mem_image]
      exact exists_congr fun held => and_congr_left fun _ => h.mem held

/-- Two lists of columns of one length differ in no column exactly when their types are the same. -/
theorem differingColumn?_eq_none_iff {columns others : List Column} (position : Nat)
    (hlength : columns.length = others.length) :
    differingColumn? position columns others = none ↔
      columns.map Column.type = others.map Column.type := by
  induction columns generalizing others position with
  | nil =>
    obtain rfl : others = [] := List.length_eq_zero_iff.1 hlength.symm
    simp [differingColumn?]
  | cons column columns ih =>
    obtain _ | ⟨other, others⟩ := others
    · simp at hlength
    have hrest : columns.length = others.length := by simpa using hlength
    rw [differingColumn?, List.map_cons, List.map_cons, List.cons.injEq]
    split
    next htype => rw [ih (position + 1) hrest, and_iff_right htype]
    next htype => simp [htype]

/-- Union unites. -/
theorem Presents.union (hleft : left.Presents M) (hright : right.Presents N)
    (hunion : left.union right = .ok next) : next.Presents (M ∪ N) := by
  unfold Relation.union at hunion
  split at hunion
  next harity =>
    split at hunion
    next => cases hunion
    next hsame =>
      cases hunion
      have htypes : left.schema.types = right.schema.types :=
        (differingColumn?_eq_none_iff 0 harity).1 hsame
      refine presents_ofRows (fun row hrow => ?_) fun row => ?_
      · rcases List.mem_append.1 hrow with hrow | hrow
        · exact hleft.accepts row hrow
        · have haccepts := hright.accepts row hrow
          rwa [Schema.accepts, ← htypes] at haccepts
      · rw [List.mem_append, hleft.mem, hright.mem]
        rfl
  next => cases hunion

/-- A join that was not cut short gives every concatenation of rows that agree. -/
theorem Presents.join (hleft : left.Presents M) (hright : right.Presents N) {on : List (Nat × Nat)}
    {limit : Nat} (hwhole : (left.join right on limit).2.1.truncated = false) :
    (left.join right on limit).1.Presents (Row.joined on M N) := by
  have hperm := joinRows_perm hright.coherent (by simp) hwhole
  have hmem (row : Row) : row ∈ (left.join right on limit).1.rows ↔
      ∃ l ∈ left.rows, ∃ r ∈ right.rows, Row.Agree on l r ∧ l ++ r = row := by
    refine hperm.mem_iff.trans (mem_nestedLoop.trans ?_)
    simp only [Row.pick_eq_leftKey_iff, Option.some.injEq]
  refine presents_ofDistinct (hperm.nodup_iff.2 ?_) (fun row hrow => ?_) fun row => ?_
  · exact nodup_nestedLoop_append hleft.nodup hright.nodup fun l hl => hleft.length_eq hl
  · obtain ⟨l, hl, r, hr, -, rfl⟩ := (hmem row).1 hrow
    exact Schema.accepts_append (hleft.accepts l hl) (hright.accepts r hr)
  · refine (hmem row).trans ?_
    simp only [hleft.mem, hright.mem]
    exact exists_congr fun l => and_congr_right fun _ => exists_congr fun r => and_congr_right fun _ =>
      and_congr_right fun _ => eq_comm

/-- An antijoin keeps the rows without a partner. -/
theorem Presents.antijoin (hleft : left.Presents M) (hright : right.Presents N)
    (on : List (Nat × Nat)) : (left.antijoin right on).1.Presents (Row.unmatched on M N) := by
  have hkept := antijoinRows_sublist left.rows (on.map fun pair => .column pair.1) right
    (on.map Prod.snd)
  refine presents_ofDistinct (hleft.nodup.sublist hkept) (fun row hrow => ?_) fun row => ?_
  · exact hleft.accepts row (hkept.subset hrow)
  · refine (mem_antijoinRows hright.coherent (by simp)).trans ?_
    simp only [Row.pick_eq_leftKey_iff, hleft.mem, hright.mem]
    rfl

/-- The left rows that take part in a join. -/
def takingPart (left right : Relation) (on : List (Nat × Nat)) (limit : Nat) : Set Row :=
  {l | l ∈ left.rows ∧ ∃ r ∈ right.rows, l ++ r ∈ (left.join right on limit).1.rows}

/-- A left row takes part in a join exactly when an antijoin does not keep it. -/
theorem Presents.mem_takingPart_iff (hleft : left.Presents M) (hright : right.Presents N)
    {on : List (Nat × Nat)} {limit : Nat}
    (hwhole : (left.join right on limit).2.1.truncated = false) {l : Row} (hl : l ∈ left.rows) :
    l ∈ left.takingPart right on limit ↔ l ∉ (left.antijoin right on).1.rows := by
  rw [takingPart, Set.mem_ofPred_eq, and_iff_right hl, (hleft.antijoin hright on).mem]
  simp only [(hleft.join hright hwhole).mem, hright.mem]
  constructor
  · rintro ⟨r, -, l', hl', r', hr', hagree, heq⟩ ⟨-, hnone⟩
    have hwidth : l.length = l'.length :=
      (hleft.length_eq hl).trans (hleft.length_eq ((hleft.mem l').2 hl')).symm
    obtain ⟨rfl, rfl⟩ := List.append_inj heq hwidth
    exact hnone ⟨r, hr', hagree⟩
  · intro hnot
    by_contra hnone
    refine hnot ⟨(hleft.mem l).1 hl, fun ⟨r, hr, hagree⟩ => hnone ⟨r, hr, l, ?_, r, hr, hagree, rfl⟩⟩
    exact (hleft.mem l).1 hl

/-- The values under a key are those of the rows with the key. -/
theorem valuesUnder_rows (rows : List Row) (groupBy : List Nat) (target : Option Nat) (key : Row) :
    valuesUnder key (rows.map fun row => (row.pick groupBy, target.map row.cell)) =
      (rows.filter fun row => row.pick groupBy = key).map fun row => target.map row.cell := by
  rw [valuesUnder, List.filter_map, List.map_map]
  rfl

/-- The type given to a folded column is that of the values folded to. -/
theorem type_of_foldType {function : FoldFunction} {target : Option Nat} {type : ColumnType}
    (h : relation.Presents M) (htarget : ∀ t ∈ target, t < relation.arity)
    (htype : relation.foldType function target = .ok type) {group : Set Row}
    (hgroup : ∀ row ∈ group, row ∈ relation.rows) {result : Value}
    (hresult : function.Yields group (fun row => target.map row.cell) result) :
    result.type = type := by
  have hcell : ∀ row ∈ relation.rows, ∀ t < relation.arity,
      (row.cell t).type = (relation.schema.type? t).getD .int := fun row hrow t ht => by
    have htypes : row.map Value.type = relation.schema.columns.map Column.type := by
      simpa [Schema.accepts, Schema.types] using h.accepts row hrow
    have hcolumn : t < relation.schema.columns.length := ht
    have hwide : t < row.length := by rwa [h.length_eq hrow]
    have hget := List.getElem_of_eq htypes (i := t) (by simpa using hwide)
    simpa [Row.cell, List.getD_eq_getElem?_getD, Schema.type?, hcolumn, hwide] using hget
  have hbest : function = .min ∨ function = .max → result.type = type := by
    intro hfunction
    have hvalue : ∃ row ∈ group, target.map row.cell = some result := by
      rcases hfunction with rfl | rfl
      · exact hresult.1
      · exact hresult.1
    obtain ⟨row, hrow, hvalue⟩ := hvalue
    obtain ⟨t, rfl, rfl⟩ := Option.map_eq_some_iff.1 hvalue
    rw [hcell row (hgroup row hrow) t (htarget t rfl)]
    rcases hfunction with rfl | rfl
    · exact Except.ok.inj htype
    · exact Except.ok.inj htype
  cases function with
  | count =>
    cases htype
    rw [show result = _ from hresult]
    rfl
  | sum =>
    have hint : type = .int := by
      cases target with
      | none => cases htype
      | some t =>
        rw [foldType] at htype
        split at htype
        · exact (Except.ok.inj htype).symm
        · cases htype
    rw [show result = _ from hresult, hint]
    rfl
  | min => exact hbest (Or.inl rfl)
  | max => exact hbest (Or.inr rfl)

/-- Aggregation folds groups. -/
theorem Presents.aggregate (h : relation.Presents M) {groupBy : List Nat} {function : FoldFunction}
    {target : Option Nat} (haggregate : relation.aggregate groupBy function target = .ok next) :
    next.Presents (Row.aggregated groupBy function target M) := by
  unfold Relation.aggregate at haggregate
  split at haggregate
  next => cases haggregate
  next hrange =>
    obtain ⟨type, htype, rfl⟩ := map_eq_ok.1 haggregate
    have hcolumns : ∀ c ∈ groupBy ++ target.toList, c < relation.arity := by
      simpa using List.find?_eq_none.1 hrange
    have hset (key : Row) : {r ∈ M | r.pick groupBy = key} =
        {r | r ∈ relation.rows.filter fun r => r.pick groupBy = key} := by
      ext r
      simp [h.mem]
    have hmem (row : Row) : row ∈ foldGroups function (!groupBy.isEmpty) (relation.rows.map fun row =>
        (row.pick groupBy, target.map row.cell)) ↔ row ∈ Row.aggregated groupBy function target M := by
      rw [mem_foldGroups]
      refine exists_congr fun key => exists_congr fun result => and_congr_right fun _ => ?_
      rw [hset, yields_iff_foldValue function (h.nodup.filter _), valuesUnder_rows, ← and_assoc]
      refine and_congr_left fun _ => ?_
      have hkeys : key ∈ (relation.rows.map fun row =>
          (row.pick groupBy, target.map row.cell)).map Prod.fst ↔ ∃ r ∈ M, r.pick groupBy = key := by
        simp [h.mem]
      rw [hkeys]
      cases groupBy with
      | nil => simp [openedGroups, Row.pick]
      | cons c rest =>
        simp only [openedGroups, List.isEmpty_cons, Bool.not_false, if_pos, List.not_mem_nil, false_or,
          ne_eq, reduceCtorEq, not_false_iff, true_imp_iff]
        refine (and_iff_right_of_imp ?_).symm
        rintro ⟨r, -, rfl⟩
        exact Row.length_pick r _
    refine presents_ofDistinct (nodup_foldGroups _ _ _) (fun row hrow => ?_) hmem
    obtain ⟨key, result, rfl, hlength, hkey, hresult⟩ := (hmem row).1 hrow
    refine Schema.accepts_append ?_ ?_
    · by_cases hgrouped : groupBy = []
      · subst hgrouped
        rw [List.length_eq_zero_iff.1 hlength]
        rfl
      · obtain ⟨r, hr, rfl⟩ := hkey hgrouped
        exact Schema.accepts_pick (h.accepts r ((h.mem r).2 hr)) fun c hc =>
          hcolumns c (List.mem_append_left _ hc)
    · have hfits := type_of_foldType h (fun t ht => hcolumns t (by simp_all)) htype
        (fun r hr => (h.mem r).2 hr.1) hresult
      simp [Schema.accepts, Schema.types, hfits]

/-- The rows that folding nothing gives where there is no grouping. -/
def foldedNothing : FoldFunction → List Row
  | .count | .sum => [[.int 0]]
  | .min | .max => []

/-- Over nothing and without grouping, counts and sums are zero and there is nothing best. -/
theorem rows_aggregate_nil {function : FoldFunction} {target : Option Nat} (hrows : relation.rows = [])
    (haggregate : relation.aggregate [] function target = .ok next) :
    next.rows = foldedNothing function := by
  unfold Relation.aggregate at haggregate
  split at haggregate
  next => cases haggregate
  next =>
    obtain ⟨type, -, rfl⟩ := map_eq_ok.1 haggregate
    rw [hrows]
    cases function <;> rfl

end Relation

end Stratalog
