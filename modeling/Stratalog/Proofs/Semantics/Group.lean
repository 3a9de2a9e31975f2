import Mathlib.Algebra.BigOperators.Finprod
import Mathlib.Data.Set.Card
import Stratalog.Proofs.Relation.Groups
import Stratalog.Proofs.Semantics.Expression

/-!
# The meaning of aggregates

An aggregate folds the values that an expression takes over a set of assignments. The count and
the sum are those of the set, reduced to sixty-four bits; the least and the greatest value are
among the values taken. Where there is grouping an empty group has no result at all.

Folding any listing of the set without repeats gives this result.
-/

namespace Stratalog

/-- The integer held, zero where there is none. -/
def number : Option Value → Int
  | some (.int n) => n.toInt
  | _ => 0

/-- The result of folding the values that the members of a set have. -/
def FoldFunction.Yields {α : Type} (function : FoldFunction) (group : Set α)
    (value : α → Option Value) (result : Value) : Prop :=
  match function with
  | .count => result = .int (Int64.ofNat group.ncard)
  | .sum => result = .int (Int64.ofInt (∑ᶠ a ∈ group, number (value a)))
  | .min => (∃ a ∈ group, value a = some result) ∧
      ∀ a ∈ group, ∀ other, value a = some other → (compare result other).isLE
  | .max => (∃ a ∈ group, value a = some result) ∧
      ∀ a ∈ group, ∀ other, value a = some other → (compare other result).isLE

/-- The result of an aggregate over a group of assignments, of which an empty one has none where there is
grouping. -/
def FoldFunction.Folds (function : FoldFunction) (grouped : Bool) (group : Set Assignment)
    (value : Assignment → Option Value) (result : Value) : Prop :=
  (grouped → group.Nonempty) ∧ function.Yields group value result

/-- Counting takes in every item. -/
theorem foldState_count (values : List (Option Value)) :
    foldState .count values = .count (Int64.ofNat values.length) := by
  have h (n : Int64) : values.foldl (Accumulator.add .count) (.count n) =
      .count (n + Int64.ofNat values.length) := by
    induction values generalizing n with
    | nil => simp
    | cons value rest ih =>
      rw [List.foldl_cons, Accumulator.add, ih, List.length_cons, Nat.add_comm, Int64.ofNat_add,
        Int64.add_assoc]
      rfl
  rw [foldState, Accumulator.start, h]
  simp

/-- Summing adds the integers up and reduces the sum. -/
theorem foldState_sum (values : List (Option Value)) :
    foldState .sum values = .sum (Int64.ofInt (values.map number).sum) := by
  have h (n : Int64) : values.foldl (Accumulator.add .sum) (.sum n) =
      .sum (n + Int64.ofInt (values.map number).sum) := by
    induction values generalizing n with
    | nil => simp
    | cons value rest ih =>
      have hstep : Accumulator.add .sum (.sum n) value = .sum (n + Int64.ofInt (number value)) := by
        rcases value with _ | (_ | _ | _ | _) <;> simp [Accumulator.add, number]
      rw [List.foldl_cons, hstep, ih, List.map_cons, List.sum_cons, Int64.ofInt_add,
        Int64.add_assoc]
  rw [foldState, Accumulator.start, h]
  simp

/-- The best of some candidates: one of them that no other improves on. -/
def IsBest (function : FoldFunction) (candidates : List Value) : Option Value → Prop
  | none => candidates = []
  | some best => best ∈ candidates ∧
      ∀ other ∈ candidates, Accumulator.improves function other best = false

/-- A value does not improve on the least so far when it is no less. -/
theorem improves_min_eq_false {other best : Value} :
    Accumulator.improves .min other best = false ↔ (compare best other).isLE := by
  have hswap : compare other best = (compare best other).swap := Std.OrientedOrd.eq_swap
  rw [Accumulator.improves, hswap]
  cases compare best other <;> decide

/-- A value does not improve on the greatest so far when it is no greater. -/
theorem improves_max_eq_false {other best : Value} :
    Accumulator.improves .max other best = false ↔ (compare other best).isLE := by
  change (compare other best).isGT = false ↔ _
  cases compare other best <;> decide

/-- A value that improves on another is no worse than what the other is no worse than. -/
theorem improves_trans {function : FoldFunction} (hfunction : function = .min ∨ function = .max)
    {other held value : Value} (hother : Accumulator.improves function other held = false)
    (hvalue : Accumulator.improves function value held = true) :
    Accumulator.improves function other value = false := by
  rcases hfunction with rfl | rfl
  · rw [improves_min_eq_false] at hother ⊢
    rw [Accumulator.improves, Ordering.isLT_iff_eq_lt] at hvalue
    exact Std.TransOrd.isLE_trans (Ordering.isLE_of_eq_lt hvalue) hother
  · rw [improves_max_eq_false] at hother ⊢
    have hgt : compare value held = .gt := Ordering.isGT_iff_eq_gt.1 hvalue
    exact Std.TransOrd.isLE_trans hother (Ordering.isLE_of_eq_lt (Std.OrientedCmp.lt_of_gt hgt))

/-- No value improves on itself. -/
theorem improves_self (function : FoldFunction) (value : Value) :
    Accumulator.improves function value value = false := by
  cases function <;> simp [Accumulator.improves]

/-- Taking in a value keeps the best of the candidates. -/
theorem IsBest.add {function : FoldFunction} (hfunction : function = .min ∨ function = .max)
    {candidates : List Value} {held : Option Value} (h : IsBest function candidates held)
    (value : Option Value) :
    ∃ best, Accumulator.add function (.best held) value = .best best ∧
      IsBest function (candidates ++ value.toList) best := by
  rcases value with _ | value
  · exact ⟨held, rfl, by simpa using h⟩
  rcases held with _ | held
  · refine ⟨some value, rfl, ?_⟩
    have hnil : candidates = [] := h
    subst hnil
    exact ⟨by simp, by simpa using improves_self function value⟩
  obtain ⟨hmem, hbest⟩ := h
  by_cases himproves : Accumulator.improves function value held = true
  · refine ⟨some value, by rw [Accumulator.add, if_pos himproves], by simp, fun other hother => ?_⟩
    rcases List.mem_append.1 hother with hother | hother
    · exact improves_trans hfunction (hbest other hother) himproves
    · obtain rfl : other = value := by simpa using hother
      exact improves_self function other
  · refine ⟨some held, by rw [Accumulator.add, if_neg himproves], by simp [hmem],
      fun other hother => ?_⟩
    rcases List.mem_append.1 hother with hother | hother
    · exact hbest other hother
    · obtain rfl : other = value := by simpa using hother
      simpa using himproves

/-- Taking in all values finds the best of them. -/
theorem isBest_foldState {function : FoldFunction} (hfunction : function = .min ∨ function = .max)
    (values : List (Option Value)) :
    ∃ best, foldState function values = .best best ∧
      IsBest function (values.flatMap Option.toList) best := by
  have h : ∀ candidates held, IsBest function candidates held →
      ∃ best, values.foldl (Accumulator.add function) (.best held) = .best best ∧
        IsBest function (candidates ++ values.flatMap Option.toList) best := by
    induction values with
    | nil => exact fun candidates held hheld => ⟨held, rfl, by simpa using hheld⟩
    | cons value rest ih =>
      intro candidates held hheld
      obtain ⟨best, hstep, hbest⟩ := hheld.add hfunction value
      obtain ⟨final, hrest, hfinal⟩ := ih _ best hbest
      exact ⟨final, by rw [List.foldl_cons, hstep, hrest], by simpa using hfinal⟩
  have hstart : Accumulator.start function = .best none := by
    rcases hfunction with rfl | rfl <;> rfl
  obtain ⟨best, hfold, hbest⟩ := h [] none rfl
  exact ⟨best, by rw [foldState, hstart, hfold], hbest⟩

/-- The folded value is the best of the values where it is sought for. -/
theorem foldValue_best_iff {function : FoldFunction}
    (hfunction : function = .min ∨ function = .max) (values : List (Option Value))
    (result : Value) : foldValue function values = some result ↔
      some result ∈ values ∧
        ∀ other, some other ∈ values → Accumulator.improves function other result = false := by
  have hmem (v : Value) : v ∈ values.flatMap Option.toList ↔ some v ∈ values := by
    simp [List.mem_flatMap]
  obtain ⟨best, hstate, hbest⟩ := isBest_foldState hfunction values
  rw [foldValue, hstate, Accumulator.finish]
  simp only [← hmem]
  constructor
  · rintro rfl
    exact hbest
  · rintro ⟨hresult, hothers⟩
    rcases best with _ | best
    · rw [show values.flatMap Option.toList = [] from hbest] at hresult
      exact absurd hresult List.not_mem_nil
    have h₁ := hothers best hbest.1
    have h₂ := hbest.2 result hresult
    have heq : compare best result = .eq := by
      rcases hfunction with rfl | rfl
      · rw [improves_min_eq_false] at h₁ h₂
        exact Std.OrientedCmp.isLE_antisymm h₂ h₁
      · rw [improves_max_eq_false] at h₁ h₂
        exact Std.OrientedCmp.isLE_antisymm h₁ h₂
    rw [Std.LawfulEqOrd.eq_of_compare heq]

/-- The result of folding values, of which some may be missing. The count is of all of them, the sum
of those present; the least and the greatest value are present themselves. -/
def FoldFunction.Gives (function : FoldFunction) (values : List (Option Value)) (result : Value) :
    Prop :=
  match function with
  | .count => result = .int (Int64.ofNat values.length)
  | .sum => result = .int (Int64.ofInt (values.map number).sum)
  | .min => some result ∈ values ∧ ∀ other, some other ∈ values → (compare result other).isLE
  | .max => some result ∈ values ∧ ∀ other, some other ∈ values → (compare other result).isLE

/-- Folding values in any order gives their result. -/
theorem foldValue_eq_some_iff (function : FoldFunction) (values : List (Option Value))
    (result : Value) :
    foldValue function values = some result ↔ function.Gives values result := by
  cases function with
  | count => simp [foldValue, foldState_count, Accumulator.finish, FoldFunction.Gives, eq_comm]
  | sum => simp [foldValue, foldState_sum, Accumulator.finish, FoldFunction.Gives, eq_comm]
  | min =>
    rw [foldValue_best_iff (Or.inl rfl)]
    simp only [improves_min_eq_false, FoldFunction.Gives]
  | max =>
    rw [foldValue_best_iff (Or.inr rfl)]
    simp only [improves_max_eq_false, FoldFunction.Gives]

/-- Folding a listing of a set, each member once, gives the result of the set. -/
theorem yields_iff_foldValue {α : Type} (function : FoldFunction) {listing : List α}
    (hnodup : listing.Nodup) (value : α → Option Value) (result : Value) :
    function.Yields {a | a ∈ listing} value result ↔
      foldValue function (listing.map value) = some result := by
  classical
  have hset : {a | a ∈ listing} = ↑listing.toFinset := by
    ext a
    simp
  rw [foldValue_eq_some_iff]
  cases function with
  | count =>
    have hcard : {a | a ∈ listing}.ncard = listing.length := by
      rw [hset, Set.ncard_coe_finset, List.toFinset_card_of_nodup hnodup]
    rw [FoldFunction.Yields, FoldFunction.Gives, hcard, List.length_map]
  | sum =>
    have hsum : ∑ᶠ a ∈ {a | a ∈ listing}, number (value a) =
        ((listing.map value).map number).sum := by
      rw [hset, finsum_mem_coe_finset, List.sum_toFinset _ hnodup, List.map_map]
      rfl
    rw [FoldFunction.Yields, FoldFunction.Gives, hsum]
  | min => simp [FoldFunction.Yields, FoldFunction.Gives, forall_comm (α := Value)]
  | max => simp [FoldFunction.Yields, FoldFunction.Gives, forall_comm (α := Value)]

/-- Folding a listing of a group, each assignment once, gives the result of the group. -/
theorem folds_iff_foldValue (function : FoldFunction) (grouped : Bool)
    {listing : List Assignment} (hnodup : listing.Nodup) (value : Assignment → Option Value)
    (result : Value) :
    function.Folds grouped {σ | σ ∈ listing} value result ↔
      (grouped → listing ≠ []) ∧ foldValue function (listing.map value) = some result := by
  have hnonempty : {σ | σ ∈ listing}.Nonempty ↔ listing ≠ [] :=
    ⟨fun ⟨_, hσ⟩ => List.ne_nil_of_mem hσ, List.exists_mem_of_ne_nil _⟩
  rw [FoldFunction.Folds, hnonempty, yields_iff_foldValue function hnodup]

end Stratalog
