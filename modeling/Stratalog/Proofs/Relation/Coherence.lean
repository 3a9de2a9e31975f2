import Mathlib.Data.List.Basic
import Stratalog.Evaluation.Run

/-!
# Indices that speak of the rows held

A relation is coherent when each index it carries is the index of its rows. Relations start
without indices, and building an index or appending rows keeps them coherent, so a lookup finds
exactly the rows with the key and membership is found through the index over all columns.
-/

namespace Stratalog

namespace Row

/-- Picking gives one value per column listed. -/
@[simp] theorem length_pick (row : Row) (columns : List Nat) :
    (row.pick columns).length = columns.length := by
  simp [pick]

/-- Picking every column of a row in order gives the row. -/
theorem pick_range (row : Row) : row.pick (List.range row.length) = row := by
  refine List.ext_getElem (by simp) fun i hi _ => ?_
  have hlt : i < row.length := by simpa using hi
  simp [pick, cell, hlt]

end Row

namespace Index

/-- Every position listed is that of a row. -/
theorem lt_of_mem_positions {columns : List Nat} {key : Row} {position i : Nat} {rows : List Row}
    (h : i ∈ positions columns key position rows) : i < position + rows.length := by
  induction rows generalizing position with
  | nil => simp [positions] at h
  | cons row rest ih =>
    rw [positions] at h
    rw [List.length_cons]
    split at h
    · rcases List.mem_cons.1 h with rfl | h
      · omega
      · have := ih h
        omega
    · have := ih h
      omega

/-- Reading items at the positions listed is reading the items whose row carries the key. -/
theorem filterMap_positions {β γ : Type} {columns : List Nat} {key : Row} {position : Nat}
    {items : List γ} {toRow : γ → Row} {atPosition : Nat → Option β} {atItem : γ → Option β}
    (h : ∀ i, (hi : i < items.length) → atPosition (position + i) = atItem items[i]) :
    (positions columns key position (items.map toRow)).filterMap atPosition =
      (items.filter fun item => (toRow item).pick columns = key).filterMap atItem := by
  induction items generalizing position with
  | nil => rfl
  | cons item rest ih =>
    have hfirst : atPosition position = atItem item := h 0 (Nat.succ_pos _)
    have hrest : (positions columns key (position + 1) (rest.map toRow)).filterMap atPosition =
        (rest.filter fun item => (toRow item).pick columns = key).filterMap atItem := by
      refine ih fun i hi => ?_
      have := h (i + 1) (by simpa using hi)
      rwa [show position + (i + 1) = position + 1 + i by omega, List.getElem_cons_succ] at this
    by_cases hkey : (toRow item).pick columns = key
    · simp [positions, hkey, hfirst, hrest, List.filterMap_cons]
    · simp [positions, hkey, hrest]

/-- Recording a row makes its key known and no other. -/
theorem hasKey_add (index : Index) (row : Row) (position : Nat) (key : Row) :
    (index.add row position).hasKey key = (row.pick index.columns == key || index.hasKey key) := by
  by_cases h : row.pick index.columns = key <;> simp [add, hasKey, Std.TreeMap.contains_alter, h]

/-- Recording rows makes their keys known and no others. -/
theorem hasKey_addAll (index : Index) (position : Nat) (rows : List Row) (key : Row) :
    (index.addAll position rows).hasKey key ↔
      index.hasKey key ∨ ∃ row ∈ rows, row.pick index.columns = key := by
  induction rows generalizing index position with
  | nil => simp [addAll]
  | cons row rest ih =>
    have hcolumns : (index.add row position).columns = index.columns := rfl
    rw [addAll, ih, hasKey_add, hcolumns]
    simp only [Bool.or_eq_true, beq_iff_eq, List.exists_mem_cons_iff]
    tauto

/-- A built index knows exactly the keys of its rows. -/
theorem hasKey_build (columns : List Nat) (rows : List Row) (key : Row) :
    (build columns rows).hasKey key ↔ ∃ row ∈ rows, row.pick columns = key := by
  rw [build, hasKey_addAll]
  simp [hasKey]

/-- A built index is over the columns asked for. -/
@[simp] theorem columns_build (columns : List Nat) (rows : List Row) :
    (build columns rows).columns = columns := by
  simp [build]

/-- Recording rows in two parts is recording them in one. -/
theorem addAll_append (index : Index) (position : Nat) (rows fresh : List Row) :
    index.addAll position (rows ++ fresh) =
      (index.addAll position rows).addAll (position + rows.length) fresh := by
  induction rows generalizing index position with
  | nil => rfl
  | cons row rest ih =>
    rw [List.cons_append, addAll, ih, addAll, List.length_cons]
    congr 1
    omega

/-- A bucket lists the positions that a lookup finds. -/
theorem toList_of_mem_buckets {index : Index} {entry : Row × Array Nat}
    (h : entry ∈ index.buckets.toList) : entry.2.toList = index.find entry.1 := by
  have hget : index.buckets[entry.1]? = some entry.2 :=
    Std.TreeMap.mem_toList_iff_getElem?_eq_some.1 h
  rw [find, Std.TreeMap.getD_eq_getD_getElem?, hget, Option.getD_some]

end Index

namespace Relation

/-- Each index carried is the index of the rows held. -/
def Coherent (relation : Relation) : Prop :=
  ∀ index ∈ relation.indices, index = Index.build index.columns relation.rows

/-- A relation without indices is coherent. -/
theorem coherent_ofDistinct (name : String) (schema : Schema) (rows : List Row) :
    (ofDistinct name schema rows).Coherent := by
  simp [Coherent, ofDistinct]

/-- Asking for an index gives the index of the rows held. -/
theorem Coherent.fst_index {relation : Relation} (h : relation.Coherent) (columns : List Nat) :
    (relation.index columns).1 = Index.build columns relation.rows := by
  rw [index]
  split
  next index hfound =>
    have hcolumns : index.columns = columns := by simpa using List.find?_some hfound
    have hmem : index ∈ relation.indices := List.mem_of_find?_eq_some hfound
    exact hcolumns ▸ h index hmem
  next => rfl

/-- Asking for an index leaves a relation coherent. -/
theorem Coherent.snd_index {relation : Relation} (h : relation.Coherent) (columns : List Nat) :
    (relation.index columns).2.Coherent := by
  rw [index]
  split
  next => exact h
  next =>
    intro index hmem
    rcases List.mem_append.1 hmem with hmem | hmem
    · exact h index hmem
    · rw [List.mem_singleton] at hmem
      subst hmem
      simp

/-- Appending rows leaves a relation coherent. -/
theorem Coherent.extend {relation : Relation} (h : relation.Coherent) (fresh : List Row) :
    (relation.extend fresh).Coherent := by
  intro index hmem
  obtain ⟨old, hold, rfl⟩ := List.mem_map.1 hmem
  have heq := h old hold
  change old.addAll relation.rows.length fresh =
    Index.build (old.addAll relation.rows.length fresh).columns (relation.rows ++ fresh)
  rw [Index.columns_addAll, Index.build, Index.addAll_append, Nat.zero_add, ← Index.build, ← heq]

/-- Testing membership leaves a relation coherent. -/
theorem Coherent.snd_contains {relation : Relation} (h : relation.Coherent) (row : Row) :
    (relation.contains row).2.Coherent := by
  rw [contains]
  split
  · exact h.snd_index _
  · exact h

/-- The membership test says whether a row is held, where all rows held have full length. -/
theorem Coherent.fst_contains {relation : Relation} (h : relation.Coherent)
    (hlength : ∀ row ∈ relation.rows, row.length = relation.arity) (row : Row) :
    (relation.contains row).1 = true ↔ row ∈ relation.rows := by
  rw [contains]
  split
  next hrow =>
    have hpick : ∀ held ∈ relation.rows, held.pick relation.allColumns = held := by
      intro held hheld
      rw [allColumns, ← hlength held hheld, Row.pick_range]
    change (relation.index relation.allColumns).1.hasKey row = true ↔ _
    rw [h.fst_index, Index.hasKey_build]
    constructor
    · rintro ⟨held, hheld, rfl⟩
      rwa [hpick held hheld]
    · exact fun hheld => ⟨row, hheld, hpick row hheld⟩
  next hrow =>
    have hnot : row ∉ relation.rows := fun hmem => hrow (hlength row hmem)
    simp [hnot]

/-- The indices of a coherent relation list positions of its rows only. -/
theorem Coherent.indicesFit {relation : Relation} (h : relation.Coherent) :
    relation.indicesFit = true := by
  simp only [Relation.indicesFit, List.all_eq_true, decide_eq_true_eq]
  intro index hindex entry hentry i hi
  rw [Index.toList_of_mem_buckets hentry, h index hindex, Index.find_build] at hi
  have hlt := Index.lt_of_mem_positions hi
  rwa [Nat.zero_add] at hlt

end Relation

end Stratalog
