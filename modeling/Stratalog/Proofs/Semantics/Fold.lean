import Mathlib.Data.List.Perm.Basic
import Stratalog.Proofs.Semantics.Group

/-!
# Folds in any order

The rows that come out of a fold are determined by the items alone: by the keys they carry and, for
each key, by the values that stand under it. Neither the order of the items nor the order in which
groups were opened has a part in it, because the result of a group is defined without any order.
-/

namespace Stratalog

variable {function : FoldFunction} {grouped : Bool} {items others : List (Row × Option Value)}

/-- The items have a group of the key: some carry it, or it is the empty key and there is no
grouping. -/
def HasGroup (grouped : Bool) (items : List (Row × Option Value)) (key : Row) : Prop :=
  key ∈ items.map Prod.fst ∨ grouped = false ∧ key = []

/-- A value stands under a key when an item carries both. -/
theorem mem_valuesUnder {key : Row} {value : Option Value} :
    value ∈ valuesUnder key items ↔ (key, value) ∈ items := by
  simp [valuesUnder]

/-- A fold has one row for each group with a result: the key and the result. -/
theorem mem_foldGroups_iff_gives {row : Row} :
    row ∈ foldGroups function grouped items ↔ ∃ key result, row = key ++ [result] ∧
      HasGroup grouped items key ∧ function.Gives (valuesUnder key items) result := by
  have hopened (key : Row) : key ∈ openedGroups grouped ∨ key ∈ items.map Prod.fst ↔
      HasGroup grouped items key := by
    cases grouped <;> simp [openedGroups, HasGroup, or_comm]
  simp only [mem_foldGroups, hopened, foldValue_eq_some_iff]

/-- A key and a value are a row of a fold when the value is the result of the group of the key. -/
theorem concat_mem_foldGroups {key : Row} {result : Value} :
    key ++ [result] ∈ foldGroups function grouped items ↔
      HasGroup grouped items key ∧ function.Gives (valuesUnder key items) result := by
  rw [mem_foldGroups_iff_gives]
  constructor
  · rintro ⟨key', result', heq, h⟩
    obtain ⟨rfl, hresult⟩ := List.append_inj' heq rfl
    obtain rfl : result = result' := by simpa using hresult
    exact h
  · exact fun h => ⟨key, result, rfl, h⟩

/-- Values have a result, except that there is no least and no greatest of none. -/
theorem FoldFunction.exists_gives_iff {values : List (Option Value)} :
    (∃ result, function.Gives values result) ↔
      (function = .min ∨ function = .max → ∃ value, some value ∈ values) := by
  constructor
  · rintro ⟨result, hresult⟩ (rfl | rfl) <;> exact ⟨result, hresult.1⟩
  · intro h
    by_cases hfunction : function = .min ∨ function = .max
    · obtain ⟨value, hvalue⟩ := h hfunction
      obtain ⟨best, hstate, hbest⟩ := isBest_foldState hfunction values
      cases best with
      | none =>
        have hmem : value ∈ values.flatMap Option.toList :=
          List.mem_flatMap.2 ⟨some value, hvalue, by simp⟩
        rw [show values.flatMap Option.toList = [] from hbest] at hmem
        exact absurd hmem List.not_mem_nil
      | some best =>
        exact ⟨best, (foldValue_eq_some_iff function values best).1 (by rw [foldValue, hstate]; rfl)⟩
    · cases function with
      | count => exact ⟨_, rfl⟩
      | sum => exact ⟨_, rfl⟩
      | min => exact absurd (Or.inl rfl) hfunction
      | max => exact absurd (Or.inr rfl) hfunction

/-- Equal values in another order fold to the same value. -/
theorem foldValue_of_perm (function : FoldFunction) {values values' : List (Option Value)}
    (h : values.Perm values') : foldValue function values = foldValue function values' := by
  have hbest (hfunction : function = .min ∨ function = .max) :
      foldValue function values = foldValue function values' := by
    refine Option.ext fun value => ?_
    rw [foldValue_best_iff hfunction, foldValue_best_iff hfunction]
    simp only [h.mem_iff]
  cases function with
  | count => rw [foldValue, foldValue, foldState_count, foldState_count, h.length_eq]
  | sum => rw [foldValue, foldValue, foldState_sum, foldState_sum, (h.map number).sum_eq]
  | min => exact hbest (Or.inl rfl)
  | max => exact hbest (Or.inr rfl)

/-- Equal items in another order fold to the same rows. -/
theorem foldGroups_perm (function : FoldFunction) (grouped : Bool)
    {items items' : List (Row × Option Value)} (h : items.Perm items') :
    (foldGroups function grouped items).Perm (foldGroups function grouped items') := by
  refine (List.perm_ext_iff_of_nodup (nodup_foldGroups _ _ _) (nodup_foldGroups _ _ _)).2
    fun row => ?_
  have hvalue (key : Row) : foldValue function (valuesUnder key items) =
      foldValue function (valuesUnder key items') :=
    foldValue_of_perm function ((h.filter _).map _)
  rw [mem_foldGroups, mem_foldGroups]
  simp only [hvalue, (h.map Prod.fst).mem_iff]

/-- No two rows of a fold are of one group. -/
theorem nodup_keys_foldGroups (function : FoldFunction) (grouped : Bool)
    (items : List (Row × Option Value)) :
    ((foldGroups function grouped items).map List.dropLast).Nodup := by
  refine List.Nodup.map_on (fun row hrow other hother heq => ?_) (nodup_foldGroups ..)
  obtain ⟨key, value, rfl, -, hvalue⟩ := mem_foldGroups.1 hrow
  obtain ⟨key', value', rfl, -, hvalue'⟩ := mem_foldGroups.1 hother
  rw [List.dropLast_concat, List.dropLast_concat] at heq
  subst heq
  rw [hvalue, Option.some.injEq] at hvalue'
  rw [hvalue']

/-- A sum of nothing is zero. -/
theorem gives_sum_of_absent {values : List (Option Value)} (h : ∀ value, some value ∉ values) :
    FoldFunction.Gives .sum values (.int 0) := by
  have hzero : ∀ n ∈ values.map number, n = 0 := by
    rw [List.forall_mem_map]
    rintro (_ | value) hvalue
    · rfl
    · exact absurd hvalue (h value)
  rw [FoldFunction.Gives, List.sum_eq_zero hzero]
  rfl

/-- The rows of a fold are those of any permutation of its items, one for a group: the key, then the
result of the values under the key. Each group has a result, except that one without a value has no
least and no greatest; its sum is zero. Short of two to the power of sixty-three items, the count is
exact. -/
theorem folds_in_any_order (function : FoldFunction) (grouped : Bool)
    (items others : List (Row × Option Value)) (h : items.Perm others) :
    (foldGroups function grouped items).Perm (foldGroups function grouped others) ∧
      ((foldGroups function grouped items).map List.dropLast).Nodup ∧
      (∀ row, row ∈ foldGroups function grouped items ↔ ∃ key result, row = key ++ [result] ∧
        HasGroup grouped items key ∧ function.Gives (valuesUnder key items) result) ∧
      (∀ key, HasGroup grouped items key →
        ((∃ result, key ++ [result] ∈ foldGroups function grouped items) ↔
          (function = .min ∨ function = .max → ∃ value, (key, some value) ∈ items)) ∧
        (function = .sum → (∀ value, (key, some value) ∉ items) →
          key ++ [.int 0] ∈ foldGroups function grouped items) ∧
        (function = .count → items.length < 2 ^ 63 → ∃ count : Int64,
          key ++ [.int count] ∈ foldGroups function grouped items ∧
            count.toInt = (valuesUnder key items).length)) := by
  refine ⟨foldGroups_perm function grouped h, nodup_keys_foldGroups ..,
    fun row => mem_foldGroups_iff_gives, fun key hkey => ⟨?_, ?_, ?_⟩⟩
  · simp only [concat_mem_foldGroups, and_iff_right hkey, FoldFunction.exists_gives_iff,
      mem_valuesUnder]
  · rintro rfl habsent
    exact concat_mem_foldGroups.2
      ⟨hkey, gives_sum_of_absent fun value => mt mem_valuesUnder.1 (habsent value)⟩
  · rintro rfl hlength
    have hle : (valuesUnder key items).length ≤ items.length := by
      rw [valuesUnder, List.length_map]
      exact List.length_filter_le ..
    exact ⟨_, concat_mem_foldGroups.2 ⟨hkey, rfl⟩, Int64.toInt_ofNat_of_lt (by omega)⟩

/-- Two marks of one key that exceed the words together, and between them a key without a mark. -/
def marks : List (Row × Option Value) :=
  [([.string "a"], some (.int Int64.maxValue)), ([.string "b"], none),
    ([.string "a"], some (.int 1))]

/-- Read backwards, the sum of the marks wraps to the lowest word as well. The key without a mark has
the sum zero, and no least mark. -/
theorem folds_in_any_order_marks :
    marks.Perm marks.reverse ∧
      (foldGroups .sum true marks).Perm (foldGroups .sum true marks.reverse) ∧
      [.string "a", .int Int64.minValue] ∈ foldGroups .sum true marks ∧
      [.string "b", .int 0] ∈ foldGroups .sum true marks ∧
      ¬∃ result, [.string "b", result] ∈ foldGroups .min true marks := by
  have hreverse : marks.Perm marks.reverse := marks.reverse_perm.symm
  obtain ⟨hperm, -, hmem, hgroup⟩ := folds_in_any_order .sum true marks marks.reverse hreverse
  have hleast := (folds_in_any_order .min true marks marks.reverse hreverse).2.2.2 [.string "b"]
    (.inl (by decide))
  refine ⟨hreverse, hperm, ?_, ?_, ?_⟩
  · have hsum : (Value.int Int64.minValue) = .int (Int64.ofInt
        ((valuesUnder [.string "a"] marks).map number).sum) := by decide +kernel
    exact (hmem _).2 ⟨[.string "a"], _, rfl, .inl (by decide), hsum⟩
  · exact (hgroup [.string "b"] (.inl (by decide))).2.1 rfl (by simp [marks])
  · exact fun hresult => absurd (hleast.1.1 hresult (.inl rfl)) (by simp [marks])

end Stratalog
