import Mathlib.Data.List.Nodup
import Stratalog.Value

/-!
# Listings without repeats

Two ways of leaving out repeats are used: keeping first occurrences, and sorting the rows and
keeping one of each run of equals. Both keep the members and list each once; the second lists them
in strictly increasing order.
-/

namespace Stratalog

/-- Keeping first occurrences lists everything once. -/
theorem nodup_eraseDups {α : Type} [BEq α] [LawfulBEq α] (items : List α) :
    items.eraseDups.Nodup := by
  induction hlength : items.length using Nat.strongRecOn generalizing items with
  | ind n ih =>
    cases items with
    | nil => simp
    | cons item rest =>
      rw [List.eraseDups_cons, List.nodup_cons]
      have hshorter : (rest.filter fun other => !other == item).length < n := by
        have := List.length_filter_le (fun other => !other == item) rest
        rw [List.length_cons] at hlength
        omega
      refine ⟨fun hmem => ?_, ih _ hshorter _ rfl⟩
      rw [List.mem_eraseDups, List.mem_filter] at hmem
      simp at hmem

/-- Where nothing repeats, keeping first occurrences keeps everything. -/
theorem eraseDups_eq_self {α : Type} [BEq α] [LawfulBEq α] {items : List α} (h : items.Nodup) :
    items.eraseDups = items := by
  induction items with
  | nil => rfl
  | cons item rest ih =>
    obtain ⟨hitem, hrest⟩ := List.nodup_cons.1 h
    have hfilter : (rest.filter fun other => !other == item) = rest := by
      refine List.filter_eq_self.2 fun other hother => ?_
      have hne : other ≠ item := fun heq => hitem (heq ▸ hother)
      simpa using hne
    rw [List.eraseDups_cons, hfilter, ih hrest]

/-- Numbers that do not repeat are strictly increasing once they are sorted. -/
theorem pairwise_lt_mergeSort {numbers : List Nat} (h : numbers.Nodup) :
    numbers.mergeSort.Pairwise (· < ·) := by
  have hle : numbers.mergeSort.Pairwise (· ≤ ·) := by
    refine (List.pairwise_mergeSort (fun a b c hab hbc => ?_) (fun a b => ?_) _).imp fun hab => ?_
    · simpa using Nat.le_trans (of_decide_eq_true hab) (of_decide_eq_true hbc)
    · simpa using Nat.le_total a b
    · simpa using hab
  have hne : numbers.mergeSort.Nodup := (List.mergeSort_perm _ _).nodup_iff.2 h
  exact (hle.and hne).imp fun h => Nat.lt_of_le_of_ne h.1 h.2

namespace Row

/-- Keeping one of each run keeps the members. -/
theorem mem_eraseRepsLoop (row first : Row) (rest kept : List Row) :
    row ∈ List.eraseRepsBy.loop (· == ·) first rest kept ↔
      row ∈ kept ∨ row = first ∨ row ∈ rest := by
  induction rest generalizing first kept with
  | nil => simp [List.eraseRepsBy.loop, or_comm]
  | cons next rest ih =>
    rw [List.eraseRepsBy.loop]
    cases h : first == next with
    | true =>
      obtain rfl : first = next := by simpa using h
      simp only [ih, List.mem_cons]
      tauto
    | false =>
      simp only [ih, List.mem_cons]
      tauto

/-- Keeping one of each run of a sorted list lists the members in strictly increasing order. -/
theorem pairwise_eraseRepsLoop {first : Row} {rest kept : List Row}
    (hkept : (kept.reverse ++ [first]).Pairwise fun a b => compare a b = .lt)
    (hrest : (first :: rest).Pairwise fun a b => (compare a b).isLE = true) :
    (List.eraseRepsBy.loop (· == ·) first rest kept).Pairwise fun a b => compare a b = .lt := by
  induction rest generalizing first kept with
  | nil => simpa [List.eraseRepsBy.loop] using hkept
  | cons next rest ih =>
    obtain ⟨hfirst, htail⟩ := List.pairwise_cons.1 hrest
    rw [List.eraseRepsBy.loop]
    cases h : first == next with
    | true =>
      obtain rfl : first = next := by simpa using h
      exact ih hkept htail
    | false =>
      refine ih ?_ htail
      have hne : compare first next ≠ .eq := by
        intro heq
        rw [Std.LawfulEqOrd.eq_of_compare heq] at h
        simp at h
      have hlt : compare first next = .lt := by
        have hle := hfirst next List.mem_cons_self
        revert hle hne
        cases compare first next <;> simp
      rw [List.reverse_cons, List.pairwise_append]
      refine ⟨hkept, by simp, fun a ha b hb => ?_⟩
      obtain rfl : b = next := by simpa using hb
      rcases List.mem_append.1 ha with ha | ha
      · have hafirst := (List.pairwise_append.1 hkept).2.2 a ha first (by simp)
        exact Std.TransCmp.lt_trans hafirst hlt
      · obtain rfl : a = first := by simpa using ha
        exact hlt

/-- Sorting and leaving out repeats keeps the members. -/
@[simp] theorem mem_sortDistinct {row : Row} {rows : List Row} :
    row ∈ sortDistinct rows ↔ row ∈ rows := by
  have hsort : row ∈ sort rows ↔ row ∈ rows := by simp [sort]
  rw [sortDistinct, List.eraseReps, ← hsort]
  cases sort rows with
  | nil => simp [List.eraseRepsBy]
  | cons first rest =>
    rw [List.eraseRepsBy, mem_eraseRepsLoop]
    simp

/-- Sorting lists the rows in increasing order. -/
theorem pairwise_sort (rows : List Row) :
    (sort rows).Pairwise fun a b => (compare a b).isLE = true := by
  refine List.pairwise_mergeSort (fun a b c hab hbc => ?_) (fun a b => ?_) rows
  · exact Std.TransCmp.isLE_trans hab hbc
  · have hswap : compare b a = (compare a b).swap := Std.OrientedOrd.eq_swap
    rw [hswap]
    cases compare a b <;> simp

/-- Sorted listings are the same exactly when one lists the rows of the other. -/
theorem sort_eq_iff_perm {rows others : List Row} : sort rows = sort others ↔ rows.Perm others := by
  have hrows : (sort rows).Perm rows := List.mergeSort_perm _ _
  have hothers : (sort others).Perm others := List.mergeSort_perm _ _
  constructor
  · intro h
    exact (hrows.symm.trans (h ▸ List.Perm.refl _)).trans hothers
  · intro h
    refine ((hrows.trans h).trans hothers.symm).eq_of_pairwise (fun a b _ _ hab hba => ?_)
      (pairwise_sort rows) (pairwise_sort others)
    exact Std.LawfulEqOrd.eq_of_compare (Std.OrientedCmp.isLE_antisymm hab hba)

/-- Sorting and leaving out repeats lists the rows in strictly increasing order. -/
theorem pairwise_sortDistinct (rows : List Row) :
    (sortDistinct rows).Pairwise fun a b => compare a b = .lt := by
  have hsort := pairwise_sort rows
  rw [sortDistinct, List.eraseReps]
  cases hrows : sort rows with
  | nil => simp [List.eraseRepsBy]
  | cons first rest =>
    rw [List.eraseRepsBy]
    exact pairwise_eraseRepsLoop (by simp) (hrows ▸ hsort)

/-- Rows in strictly increasing order are distinct. -/
theorem nodup_of_pairwise_lt {rows : List Row} (h : rows.Pairwise fun a b => compare a b = .lt) :
    rows.Nodup := by
  refine h.imp fun {a b} hlt heq => ?_
  have hself : compare b b = .eq := Std.ReflCmp.compare_self
  rw [heq, hself] at hlt
  cases hlt

/-- Sorting and leaving out repeats lists each row once. -/
theorem nodup_sortDistinct (rows : List Row) : (sortDistinct rows).Nodup :=
  nodup_of_pairwise_lt (pairwise_sortDistinct rows)

/-- There is one way to list rows in strictly increasing order. -/
theorem eq_of_pairwise_lt {rows others : List Row}
    (h : rows.Pairwise fun a b => compare a b = .lt)
    (hothers : others.Pairwise fun a b => compare a b = .lt)
    (hmem : ∀ row, row ∈ rows ↔ row ∈ others) : rows = others := by
  have hperm : rows.Perm others :=
    (List.perm_ext_iff_of_nodup (nodup_of_pairwise_lt h) (nodup_of_pairwise_lt hothers)).2 hmem
  refine hperm.eq_of_pairwise (fun a b _ _ hab hba => ?_) h hothers
  rw [Std.OrientedOrd.eq_swap, hba] at hab
  cases hab

end Row

end Stratalog
