import Mathlib.Data.List.Dedup
import Mathlib.Data.List.GetD
import Mathlib.Data.List.Nodup
import Stratalog.Proofs.Relation.Join
import Stratalog.Proofs.Store.Built

/-!
# Relations that are looked up and grow

Indices come about when a lookup, a membership test or a join first asks for them, and from then on
are extended by the rows that are appended. In whatever order this happens, a relation carries one index
for each list of columns that was looked up, and that is the index of all of its rows.
-/

namespace Stratalog

namespace Index

/-- The positions with a key, counted from the first row, in increasing order. -/
theorem positions_eq_map (columns : List Nat) (key : Row) (position : Nat) (rows : List Row) :
    positions columns key position rows =
      ((List.range rows.length).filter fun i => (rows.getD i []).pick columns = key).map
        (position + ·) := by
  induction rows generalizing position with
  | nil => rfl
  | cons row rest ih =>
    have hrest : ((List.range rest.length).map Nat.succ).filter
        (fun i => ((row :: rest).getD i []).pick columns = key) =
          ((List.range rest.length).filter
            fun i => (rest.getD i []).pick columns = key).map Nat.succ := by
      simp [List.filter_map, Function.comp_def]
    have hshift (i : Nat) : position + 1 + i = position + Nat.succ i := by omega
    rw [positions, ih, List.length_cons, List.range_succ_eq_map, List.filter_cons, hrest]
    by_cases hkey : row.pick columns = key <;> simp [hkey, hshift]

/-- A built index finds the numbers of the rows with a key, in increasing order. -/
theorem find_build_eq_filter (columns : List Nat) (rows : List Row) (key : Row) :
    (build columns rows).find key =
      (List.range rows.length).filter fun i => (rows.getD i []).pick columns = key := by
  simp [find_build, positions_eq_map]

/-- A built index knows the keys that lead to some row. -/
theorem hasKey_build_iff_find (columns : List Nat) (rows : List Row) (key : Row) :
    (build columns rows).hasKey key = true ↔ (build columns rows).find key ≠ [] := by
  rw [hasKey_build, find_build_eq_filter, Ne, List.filter_eq_nil_iff]
  simp only [List.mem_range, decide_eq_true_eq, not_forall, not_not]
  constructor
  · rintro ⟨row, hrow, hkey⟩
    obtain ⟨i, hi, rfl⟩ := List.getElem_of_mem hrow
    exact ⟨i, hi, by rwa [List.getD_eq_getElem _ _ hi]⟩
  · rintro ⟨i, hi, hkey⟩
    rw [List.getD_eq_getElem _ _ hi] at hkey
    exact ⟨rows[i], List.getElem_mem hi, hkey⟩

end Index

namespace Relation

/-- Relations that operations lead to, with the rows they were given and the lists of columns that were
looked up, the latest first. -/
inductive Grown : Relation → List Row → List (List Nat) → Prop where
  | ofRows {name : String} {schema : Schema} {rows : List Row} :
      (∀ row ∈ rows, row.length = schema.arity) →
        Grown (.ofRows name schema rows) (Row.distinct rows) []
  | checked {name : String} {schema : Schema} {rows : List Row} {relation : Relation} :
      Relation.checked name schema rows = .ok relation → Grown relation (Row.distinct rows) []
  | empty (name : String) (schema : Schema) : Grown (.empty name schema) [] []
  | index {relation : Relation} {rows : List Row} {lookups : List (List Nat)} (columns : List Nat) :
      Grown relation rows lookups → Grown (relation.index columns).2 rows (columns :: lookups)
  | contains {relation : Relation} {rows : List Row} {lookups : List (List Nat)} (row : Row) :
      Grown relation rows lookups → Grown (relation.contains row).2 rows
        (if row.length = relation.arity then relation.allColumns :: lookups else lookups)
  | join {relation : Relation} {rows : List Row} {lookups : List (List Nat)} (left : List Row)
      (keys : List KeyPart) (columns : List Nat) (limit : Nat) (emit : Row → Row → Option Row) :
      Grown relation rows lookups → Grown (joinRows left keys relation columns limit emit).right rows
        (if (joinRows left keys relation columns limit emit).report.strategy = .indexProbe
          then columns :: lookups else lookups)
  | antijoin {relation : Relation} {rows : List Row} {lookups : List (List Nat)} (left : List Row)
      (keys : List KeyPart) (columns : List Nat) :
      Grown relation rows lookups → Grown (antijoinRows left keys relation columns).2 rows
        (if rows = [] ∨ columns = [] then lookups else columns :: lookups)
  | extend {relation : Relation} {rows : List Row} {lookups : List (List Nat)} {fresh : List Row} :
      Grown relation rows lookups → (∀ row ∈ fresh, row.length = relation.arity) → fresh.Nodup →
        (∀ row ∈ fresh, row ∉ rows) → Grown (relation.extend fresh) (rows ++ fresh) lookups

/-- A relation holds some rows, of its arity and distinct, and one index of them for each list of columns
that was looked up. It has counted every row once for each of these. -/
structure Keeps (relation : Relation) (rows : List Row) (lookups : List (List Nat)) : Prop where
  rows_eq : relation.rows = rows
  length : ∀ row ∈ rows, row.length = relation.arity
  nodup : rows.Nodup
  coherent : relation.Coherent
  columns : ∀ columns, columns ∈ relation.indices.map Index.columns ↔ columns ∈ lookups
  once : (relation.indices.map Index.columns).Nodup
  indexedRows : relation.indexedRows = relation.indexCount * relation.size

variable {relation : Relation} {rows fresh : List Row} {lookups : List (List Nat)}
  {columns : List Nat} {name : String} {schema : Schema}

/-- An index is found by its columns. -/
theorem hasIndex_iff : relation.hasIndex columns = true ↔
    columns ∈ relation.indices.map Index.columns := by
  rw [hasIndex, index?, List.find?_isSome, List.mem_map]
  exact exists_congr fun index => and_congr_right fun _ => beq_iff_eq

/-- A relation as it is made keeps its rows and has no indices. -/
theorem keeps_ofDistinct (hlength : ∀ row ∈ rows, row.length = schema.arity) (hnodup : rows.Nodup) :
    (ofDistinct name schema rows).Keeps rows [] where
  rows_eq := rfl
  length := hlength
  nodup := hnodup
  coherent := coherent_ofDistinct name schema rows
  columns _ := Iff.rfl
  once := List.nodup_nil
  indexedRows := (Nat.zero_mul _).symm

namespace Keeps

/-- Looking up an index that is there changes nothing; otherwise the relation has one index more. -/
theorem index (h : relation.Keeps rows lookups) (columns : List Nat) :
    (relation.index columns).2.Keeps rows (columns :: lookups) := by
  have hcoherent := h.coherent.snd_index columns
  rw [Relation.index] at hcoherent ⊢
  split
  next index hfound =>
    have hheld : columns ∈ relation.indices.map Index.columns :=
      hasIndex_iff.1 (by rw [hasIndex, hfound]; rfl)
    refine { h with columns := fun other => ?_ }
    rw [h.columns, List.mem_cons, or_iff_right_of_imp]
    rintro rfl
    exact (h.columns other).1 hheld
  next hnone =>
    rw [hnone] at hcoherent
    have hmissing : columns ∉ relation.indices.map Index.columns :=
      mt hasIndex_iff.2 (by rw [hasIndex, hnone]; exact Bool.false_ne_true)
    exact {
      rows_eq := h.rows_eq
      length := h.length
      nodup := h.nodup
      coherent := hcoherent
      columns := fun other => by
        rw [List.map_append, List.map_singleton, Index.columns_build, List.mem_append,
          List.mem_singleton, h.columns, List.mem_cons, or_comm]
      once := by
        rw [List.map_append, List.map_singleton, Index.columns_build, ← List.concat_eq_append]
        exact h.once.concat hmissing
      indexedRows := by
        simp only [indexCount, List.length_append, List.length_singleton, size, h.indexedRows]
        rw [Nat.add_mul, Nat.one_mul] }

/-- Appending fresh rows keeps the indices and extends each of them. -/
theorem extend (h : relation.Keeps rows lookups) (hlength : ∀ row ∈ fresh, row.length = relation.arity)
    (hnodup : fresh.Nodup) (hfresh : ∀ row ∈ fresh, row ∉ rows) :
    (relation.extend fresh).Keeps (rows ++ fresh) lookups where
  rows_eq := congrArg (· ++ fresh) h.rows_eq
  length := List.forall_mem_append.2 ⟨h.length, hlength⟩
  nodup := h.nodup.append hnodup fun row hrow hin => hfresh row hin hrow
  coherent := h.coherent.extend fresh
  columns other := by
    rw [← h.columns]
    simp [Relation.extend]
  once := by
    simpa [Relation.extend, Function.comp_def] using h.once
  indexedRows := by
    simp only [Relation.extend, indexCount, size, List.length_map, List.length_append, h.indexedRows]
    rw [Nat.mul_add, Nat.mul_comm fresh.length]

/-- A membership test looks up all columns if the row is as long as the rows held. -/
theorem contains (h : relation.Keeps rows lookups) (row : Row) :
    (relation.contains row).2.Keeps rows
      (if row.length = relation.arity then relation.allColumns :: lookups else lookups) := by
  rw [Relation.contains]
  split
  · exact h.index relation.allColumns
  · exact h

/-- A join looks up the columns it is on when it probes an index. -/
theorem join (h : relation.Keeps rows lookups) (left : List Row) (keys : List KeyPart)
    (columns : List Nat) (limit : Nat) (emit : Row → Row → Option Row) :
    (joinRows left keys relation columns limit emit).right.Keeps rows
      (if (joinRows left keys relation columns limit emit).report.strategy = .indexProbe
        then columns :: lookups else lookups) := by
  rw [joinRows]
  cases chooseStrategy left.length relation columns with
  | indexProbe => exact h.index columns
  | buildLeft => exact h
  | cartesian => exact h

/-- An antijoin looks up the columns it is on unless it needs no index. -/
theorem antijoin (h : relation.Keeps rows lookups) (left : List Row) (keys : List KeyPart)
    (columns : List Nat) :
    (antijoinRows left keys relation columns).2.Keeps rows
      (if rows = [] ∨ columns = [] then lookups else columns :: lookups) := by
  have hempty : relation.isEmpty = true ↔ rows = [] := by
    rw [isEmpty, h.rows_eq, List.isEmpty_iff]
  simp only [antijoinRows, hempty, List.isEmpty_iff]
  by_cases hrows : rows = []
  · rw [if_pos hrows, if_pos (Or.inl hrows)]
    exact h
  by_cases hcolumns : columns = []
  · rw [if_neg hrows, if_pos hcolumns, if_pos (Or.inr hcolumns)]
    exact h
  · rw [if_neg hrows, if_neg hcolumns, if_neg (not_or.2 ⟨hrows, hcolumns⟩)]
    exact h.index columns

/-- There are as many indices as different lists of columns that were looked up. -/
theorem indexCount_eq (h : relation.Keeps rows lookups) :
    relation.indexCount = lookups.dedup.length := by
  have hperm : (relation.indices.map Index.columns).Perm lookups.dedup :=
    (List.perm_ext_iff_of_nodup h.once (List.nodup_dedup lookups)).2 fun columns => by
      rw [h.columns, List.mem_dedup]
  rw [indexCount, ← hperm.length_eq, List.length_map]

end Keeps

/-- Whatever operations lead to a relation, it keeps its rows and their indices. -/
theorem keeps_of_grown (h : Grown relation rows lookups) : relation.Keeps rows lookups := by
  induction h with
  | @ofRows name schema rows hlength =>
    exact keeps_ofDistinct (fun row hrow => hlength row ((Row.mem_distinct rows row).1 hrow))
      (Row.nodup_distinct rows)
  | @checked name schema rows relation hchecked =>
    obtain ⟨hclean, rfl⟩ := checked_eq_ok_iff.1 hchecked
    refine keeps_ofDistinct (fun row hrow => ?_) (Row.nodup_distinct rows)
    exact FactStore.length_of_rowFault? (hclean row ((Row.mem_distinct rows row).1 hrow))
  | empty name schema => exact keeps_ofDistinct (fun _ hrow => absurd hrow List.not_mem_nil) .nil
  | index columns _ ih => exact ih.index columns
  | contains row _ ih => exact ih.contains row
  | join left keys columns limit emit _ ih => exact ih.join left keys columns limit emit
  | antijoin left keys columns _ ih => exact ih.antijoin left keys columns
  | extend _ hlength hnodup hfresh ih => exact ih.extend hlength hnodup hfresh

/-- Let a relation be looked up, tested for membership, joined and extended by fresh rows, in any order.
Each index it carries is the one built over all of its rows: a key leads to the numbers of the rows that
carry it, in increasing order. There is exactly one index for each list of columns that was ever looked
up, and every row was counted once for each of them. A row is found to belong to the relation exactly
when it was given to it. -/
theorem indices_agree (h : Grown relation rows lookups) :
    relation.rows = rows ∧
      (∀ index ∈ relation.indices, index = Index.build index.columns rows ∧ ∀ key,
        index.find key = (List.range rows.length).filter
          (fun i => (rows.getD i []).pick index.columns = key) ∧
        (index.hasKey key = true ↔ index.find key ≠ [])) ∧
      (∀ columns, (relation.index columns).1 = Index.build columns rows) ∧
      (∀ row, (relation.contains row).1 = true ↔ row ∈ rows) ∧
      (∀ columns, relation.hasIndex columns = true ↔ columns ∈ lookups) ∧
      relation.indexCount = lookups.dedup.length ∧
      relation.indexedRows = relation.indexCount * relation.size := by
  have hkeeps := keeps_of_grown h
  obtain rfl := hkeeps.rows_eq
  refine ⟨rfl, fun index hindex => ?_, hkeeps.coherent.fst_index,
    hkeeps.coherent.fst_contains hkeeps.length, fun columns => hasIndex_iff.trans (hkeeps.columns columns),
    hkeeps.indexCount_eq, hkeeps.indexedRows⟩
  have hbuild := hkeeps.coherent index hindex
  refine ⟨hbuild, fun key => ⟨?_, ?_⟩⟩
  · conv_lhs => rw [hbuild]
    exact Index.find_build_eq_filter _ _ _
  · rw [hbuild]
    exact Index.hasKey_build_iff_find _ _ _

/-- Roads between towns, with one given twice. -/
def roads : Relation :=
  .ofRows "road" ⟨[⟨"from", .int⟩, ⟨"to", .int⟩]⟩
    [[.int 1, .int 2], [.int 2, .int 3], [.int 1, .int 2]]

/-- The roads, looked up by where they begin, joined on both ends, extended, and tested for one. -/
def roadsOnward : Relation :=
  (((joinRows [[.int 2]] [.column 0, .column 0] (roads.index [0]).2 [1, 0] unlimited
    fun _ road => some road).right.extend [[.int 1, .int 4]]).contains [.int 1, .int 4]).2

/-- The road that came last is found by where it begins, after the one given first. -/
theorem indices_agree_roads : Grown roadsOnward [[.int 1, .int 2], [.int 2, .int 3], [.int 1, .int 4]]
      [[0, 1], [1, 0], [0]] ∧
    ((roadsOnward.index [0]).1.find [.int 1] = [0, 2]) ∧
      (roadsOnward.contains [.int 1, .int 4]).1 = true ∧ roadsOnward.hasIndex [0, 1] = true ∧
        roadsOnward.indexCount = 3 ∧ roadsOnward.indexedRows = 9 := by
  have hdistinct : Row.distinct [[.int 1, .int 2], [.int 2, .int 3], [.int 1, .int 2]] =
      [[.int 1, .int 2], [.int 2, .int 3]] := by decide +kernel
  have hroads : Grown roads [[.int 1, .int 2], [.int 2, .int 3]] [] :=
    hdistinct ▸ Grown.ofRows (by decide)
  have hjoined := (hroads.index [0]).join [[.int 2]] [.column 0, .column 0] [1, 0] unlimited
    fun _ road => some road
  rw [if_pos (by decide +kernel)] at hjoined
  have hextended : Grown (extend _ [[.int 1, .int 4]]) _ _ :=
    hjoined.extend (by decide +kernel) (by decide) (by decide)
  have htested := hextended.contains [.int 1, .int 4]
  rw [if_pos (by decide +kernel)] at htested
  have hgrown : Grown roadsOnward [[.int 1, .int 2], [.int 2, .int 3], [.int 1, .int 4]]
      [[0, 1], [1, 0], [0]] := htested
  obtain ⟨-, -, hindex, hcontains, hhas, hcount, hrows⟩ := indices_agree hgrown
  have hcount : roadsOnward.indexCount = 3 := hcount
  refine ⟨hgrown, ?_, (hcontains _).2 (by decide), (hhas _).2 (by decide), hcount, ?_⟩
  · rw [hindex]
    decide +kernel
  · rw [hrows, hcount]
    rfl

end Relation

end Stratalog
