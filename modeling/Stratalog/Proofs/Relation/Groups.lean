import Mathlib.Data.List.Nodup
import Stratalog.Algebra.Fold

/-!
# Folded groups

Folding items gives one row for each group that has a folded value: each key that occurs among
the items, and the empty key where there is no grouping. The value is the fold of the values that
stand under the key, in the order of the items.
-/

namespace Stratalog

/-- The values that stand under a key, in order. -/
def valuesUnder (key : Row) (items : List (Row × Option Value)) : List (Option Value) :=
  (items.filter fun item => item.1 = key).map Prod.snd

/-- The state reached by taking in values in order. -/
def foldState (function : FoldFunction) (values : List (Option Value)) : Accumulator :=
  values.foldl (Accumulator.add function) (Accumulator.start function)

/-- The folded value of a group, if it has one. -/
def foldValue (function : FoldFunction) (values : List (Option Value)) : Option Value :=
  (foldState function values).finish

/-- One more item adds its value under its own key alone. -/
theorem valuesUnder_concat (key : Row) (items : List (Row × Option Value))
    (item : Row × Option Value) :
    valuesUnder key (items ++ [item]) =
      if item.1 = key then valuesUnder key items ++ [item.2] else valuesUnder key items := by
  by_cases h : item.1 = key <;> simp [valuesUnder, h]

/-- Nothing stands under a key that does not occur. -/
theorem valuesUnder_eq_nil {key : Row} {items : List (Row × Option Value)}
    (h : key ∉ items.map Prod.fst) : valuesUnder key items = [] := by
  rw [valuesUnder, List.map_eq_nil_iff, List.filter_eq_nil_iff]
  intro item hitem hkey
  exact h (List.mem_map.2 ⟨item, hitem, by simpa using hkey⟩)

namespace Groups

/-- The groups hold what the items taken in so far say; those of `opened` were there before. -/
structure Collects (function : FoldFunction) (opened : List Row)
    (items : List (Row × Option Value)) (groups : Groups) : Prop where
  nodup : groups.keys.toList.Nodup
  mem_keys : ∀ key, key ∈ groups.keys.toList ↔ key ∈ opened ∨ key ∈ items.map Prod.fst
  state : ∀ key, groups.states[key]? =
    if key ∈ groups.keys.toList then some (foldState function (valuesUnder key items)) else none

variable {function : FoldFunction} {opened : List Row} {items : List (Row × Option Value)}
  {groups : Groups}

/-- A group has a state exactly when it is open. -/
theorem Collects.contains (h : groups.Collects function opened items) (key : Row) :
    groups.states.contains key = true ↔ key ∈ groups.keys.toList := by
  rw [Std.TreeMap.contains_eq_isSome_getElem?, h.state]
  split <;> simp_all

/-- Opening the group of a key keeps all else and makes the key known. -/
theorem Collects.start (h : groups.Collects function opened items) (key : Row) :
    (groups.start function key).keys.toList.Nodup ∧
      (∀ k, k ∈ (groups.start function key).keys.toList ↔ k = key ∨ k ∈ groups.keys.toList) ∧
      ∀ k, (groups.start function key).states[k]? =
        if k ∈ (groups.start function key).keys.toList then
          some (foldState function (valuesUnder k items)) else none := by
  rw [Groups.start]
  split
  next hopen =>
    have hmem := (h.contains key).1 hopen
    refine ⟨h.nodup, fun k => ⟨Or.inr, ?_⟩, h.state⟩
    rintro (rfl | hk)
    · exact hmem
    · exact hk
  next hopen =>
    have hnot : key ∉ groups.keys.toList := fun hmem => hopen ((h.contains key).2 hmem)
    have hnil : valuesUnder key items = [] :=
      valuesUnder_eq_nil fun hmem => hnot ((h.mem_keys key).2 (Or.inr hmem))
    refine ⟨?_, fun k => ?_, fun k => ?_⟩
    · rw [Array.toList_push, List.nodup_append]
      exact ⟨h.nodup, by simp, by rintro a ha b hb rfl; simp_all⟩
    · simp [or_comm]
    · rw [Std.TreeMap.getElem?_insert]
      by_cases hk : key = k
      · subst hk
        simp [hnil, foldState]
      · have hne : ¬k = key := fun heq => hk heq.symm
        simp [h.state, hk, hne]

/-- Taking in an item keeps the groups true to the items. -/
theorem Collects.add (h : groups.Collects function opened items) (item : Row × Option Value) :
    (groups.add function item).Collects function opened (items ++ [item]) := by
  obtain ⟨hnodup, hkeys, hstate⟩ := h.start item.1
  refine ⟨hnodup, fun key => ?_, fun key => ?_⟩
  · change key ∈ (groups.start function item.1).keys.toList ↔ _
    rw [hkeys, h.mem_keys, List.map_append, List.mem_append]
    simp only [List.map_cons, List.map_nil, List.mem_singleton]
    tauto
  · change ((groups.start function item.1).states.modify item.1 _)[key]? =
      if key ∈ (groups.start function item.1).keys.toList then _ else _
    rw [Std.TreeMap.getElem?_modify, valuesUnder_concat]
    by_cases hkey : item.1 = key
    · subst hkey
      have hmem : item.1 ∈ (groups.start function item.1).keys.toList := (hkeys _).2 (Or.inl rfl)
      simp [hstate, hmem, foldState]
    · simp [hstate, hkey]

/-- Taking in a list of items keeps the groups true to the items. -/
theorem Collects.foldl (h : groups.Collects function opened items)
    (more : List (Row × Option Value)) :
    (more.foldl (Groups.add function) groups).Collects function opened (items ++ more) := by
  induction more generalizing groups items with
  | nil => simpa using h
  | cons item rest ih => simpa using ih (h.add item)

/-- The rows of the groups are the keys with their folded values. -/
theorem Collects.mem_rows (h : groups.Collects function opened items) (row : Row) :
    row ∈ groups.rows ↔ ∃ key value, row = key ++ [value] ∧
      (key ∈ opened ∨ key ∈ items.map Prod.fst) ∧
        foldValue function (valuesUnder key items) = some value := by
  simp only [Groups.rows, List.mem_filterMap, Option.map_eq_some_iff, Option.bind_eq_some_iff]
  constructor
  · rintro ⟨key, hkey, value, ⟨state, hstate, hvalue⟩, rfl⟩
    rw [h.state, if_pos hkey, Option.some.injEq] at hstate
    subst hstate
    exact ⟨key, value, rfl, (h.mem_keys key).1 hkey, hvalue⟩
  · rintro ⟨key, value, rfl, hkey, hvalue⟩
    have hmem := (h.mem_keys key).2 hkey
    exact ⟨key, hmem, value, ⟨_, by rw [h.state, if_pos hmem], hvalue⟩, rfl⟩

/-- No two groups give the same row. -/
theorem Collects.nodup_rows (h : groups.Collects function opened items) : groups.rows.Nodup := by
  refine List.Nodup.filterMap (fun a b row ha hb => ?_) h.nodup
  simp only [Option.mem_def, Option.map_eq_some_iff] at ha hb
  obtain ⟨v, -, rfl⟩ := ha
  obtain ⟨w, -, heq⟩ := hb
  exact (List.append_inj' heq rfl).1.symm

end Groups

/-- The groups an aggregate starts from: the empty key where there is no grouping. -/
def openedGroups (grouped : Bool) : List Row :=
  if grouped then [] else [[]]

/-- After all items the groups hold what the items say. -/
theorem collects_foldGroups (function : FoldFunction) (grouped : Bool)
    (items : List (Row × Option Value)) :
    ∃ groups : Groups, groups.Collects function (openedGroups grouped) items ∧
      foldGroups function grouped items = groups.rows := by
  have hempty : Groups.Collects function [] [] {} := ⟨by simp, by simp, by simp⟩
  have hstart : (if grouped then ({} : Groups) else Groups.start function {} []).Collects function
      (openedGroups grouped) [] := by
    cases grouped with
    | true => exact hempty
    | false =>
      obtain ⟨hnodup, hkeys, hstate⟩ := hempty.start []
      exact ⟨hnodup, fun key => by simp [hkeys, openedGroups], hstate⟩
  exact ⟨_, by simpa using hstart.foldl items, rfl⟩

/-- A row comes out of a fold exactly when it is a key of the items with its folded value. -/
theorem mem_foldGroups {function : FoldFunction} {grouped : Bool}
    {items : List (Row × Option Value)} {row : Row} :
    row ∈ foldGroups function grouped items ↔ ∃ key value, row = key ++ [value] ∧
      (key ∈ openedGroups grouped ∨ key ∈ items.map Prod.fst) ∧
        foldValue function (valuesUnder key items) = some value := by
  obtain ⟨groups, hgroups, heq⟩ := collects_foldGroups function grouped items
  rw [heq]
  exact hgroups.mem_rows row

/-- The rows of a fold are pairwise distinct. -/
theorem nodup_foldGroups (function : FoldFunction) (grouped : Bool)
    (items : List (Row × Option Value)) : (foldGroups function grouped items).Nodup := by
  obtain ⟨groups, hgroups, heq⟩ := collects_foldGroups function grouped items
  rw [heq]
  exact hgroups.nodup_rows

end Stratalog
