import Mathlib.Data.Multiset.Bind
import Stratalog.Algebra.Join
import Stratalog.Proofs.Relation.Coherence

/-!
# Joins as nested loops

Whatever way the pairs of a join are enumerated, a join that stays within its limit gives the rows
of the nested loop over both sides, up to order. An antijoin gives the left rows for which the
nested loop would find no partner. Neither changes the relation read, indices apart.
-/

namespace Stratalog

/-- Every pair of rows whose keys agree, handed to `emit`. -/
def nestedLoop (left : List Row) (keys : List KeyPart) (right : List Row) (columns : List Nat)
    (emit : Row → Row → Option Row) : List Row :=
  left.flatMap fun l => (right.filter fun r => r.pick columns = leftKey keys l).filterMap (emit l)

/-- A row comes out of the nested loop exactly when a pair with agreeing keys gives it. -/
theorem mem_nestedLoop {left right : List Row} {keys : List KeyPart} {columns : List Nat}
    {emit : Row → Row → Option Row} {row : Row} :
    row ∈ nestedLoop left keys right columns emit ↔
      ∃ l ∈ left, ∃ r ∈ right, r.pick columns = leftKey keys l ∧ emit l r = some row := by
  simp [nestedLoop, and_assoc]

/-- A left key has one value per component. -/
@[simp] theorem length_leftKey (keys : List KeyPart) (row : Row) :
    (leftKey keys row).length = keys.length := by
  simp [leftKey]

/-- What is left of the rows of consecutive probes when no probe is made after the limit is passed:
all of them, or those up to the probe that passes it. -/
inductive CutAt (limit : Nat) (probes : List (List Row)) : List Row → Prop where
  | whole (hall : probes.flatten.length ≤ limit) : CutAt limit probes probes.flatten
  | past {before after : List (List Row)} {probe : List Row}
      (hprobes : probes = before ++ probe :: after) (hbefore : before.flatten.length ≤ limit)
      (hpast : limit < (before.flatten ++ probe).length) :
      CutAt limit probes (before.flatten ++ probe)

namespace CutAt

variable {limit : Nat} {probes : List (List Row)} {rows : List Row}

/-- A probe made within the limit comes before what the probes after it leave. -/
theorem cons {first : List Row} (hfirst : first.length ≤ limit)
    (h : CutAt (limit - first.length) probes rows) : CutAt limit (first :: probes) (first ++ rows) := by
  cases h with
  | whole hall =>
    rw [← List.flatten_cons]
    exact whole (by rw [List.flatten_cons, List.length_append]; omega)
  | @past before after probe hprobes hbefore hpast =>
    rw [← List.append_assoc, ← List.flatten_cons]
    rw [List.length_append] at hpast
    refine past (congrArg (first :: ·) hprobes) ?_ ?_ <;>
      simp only [List.flatten_cons, List.length_append] <;> omega

/-- The limit is passed exactly when all probes together pass it. -/
theorem limit_lt_iff (h : CutAt limit probes rows) :
    limit < rows.length ↔ limit < probes.flatten.length := by
  cases h with
  | whole hall => exact Iff.rfl
  | past hprobes hbefore hpast =>
    refine iff_of_true hpast (hpast.trans_le ?_)
    rw [hprobes, List.flatten_append, List.flatten_cons]
    simp only [List.length_append]
    omega

/-- Within the limit nothing is cut. -/
theorem eq_flatten (h : CutAt limit probes rows) (hlimit : rows.length ≤ limit) :
    rows = probes.flatten := by
  cases h with
  | whole hall => rfl
  | past hprobes hbefore hpast => exact absurd hlimit hpast.not_ge

/-- What is left is left in its order. -/
theorem sublist (h : CutAt limit probes rows) : rows.Sublist probes.flatten := by
  cases h with
  | whole hall => exact .refl _
  | @past before after probe hprobes hbefore hpast =>
    rw [hprobes, List.flatten_append, List.flatten_cons, ← List.append_assoc]
    exact List.sublist_append_left _ _

/-- Only the last probe goes past the limit. -/
theorem exists_probe (h : CutAt limit probes rows) (hlimit : limit < rows.length) :
    ∃ probe ∈ probes, rows.length ≤ limit + probe.length := by
  cases h with
  | whole hall => exact absurd hall hlimit.not_ge
  | @past before after probe hprobes hbefore hpast =>
    refine ⟨probe, hprobes ▸ List.mem_append_right before List.mem_cons_self, ?_⟩
    rw [List.length_append]
    omega

end CutAt

/-- Rows that a join with a limit may give for a list of pairs, when its single probes find what is
listed, and whether it says that it was truncated. -/
structure GivesWithin (limit : Nat) (pairs : List Row) (probes : List (List Row)) (rows : List Row)
    (truncated : Bool) : Prop where
  truncated_iff : truncated = true ↔ limit < pairs.length
  perm : truncated = false → rows.Perm pairs
  subperm : truncated = true → rows.Subperm pairs
  exceeds : truncated = true → limit < rows.length
  overshoot : truncated = true → ∃ probe ∈ probes, rows.length ≤ limit + probe.length

/-- Rows cut at the limit are such rows. -/
theorem CutAt.givesWithin {limit : Nat} {pairs : List Row} {probes : List (List Row)}
    {rows : List Row} (h : CutAt limit probes rows) (hpairs : probes.flatten.Perm pairs) :
    GivesWithin limit pairs probes rows (decide (limit < rows.length)) where
  truncated_iff := by rw [decide_eq_true_iff, h.limit_lt_iff, hpairs.length_eq]
  perm hwithin := by
    rw [h.eq_flatten (Nat.not_lt.1 (of_decide_eq_false hwithin))]
    exact hpairs
  subperm _ := h.sublist.subperm.trans hpairs.subperm
  exceeds := of_decide_eq_true
  overshoot hpast := h.exists_probe (of_decide_eq_true hpast)

/-- Probing within a limit cuts the rows of the probes at what the limit leaves. -/
theorem cutAt_probeWithin {α : Type} {limit produced : Nat} (hproduced : produced ≤ limit)
    (probe : α → List Row) (items : List α) :
    CutAt (limit - produced) (items.map probe) (probeWithin limit probe produced items) := by
  induction items generalizing produced with
  | nil => exact CutAt.whole (Nat.zero_le _)
  | cons item rest ih =>
    have hstep : probeWithin limit probe produced (item :: rest) =
        probe item ++ probeWithin limit probe (produced + (probe item).length) rest := by
      rw [probeWithin, if_neg hproduced.not_gt]
    rw [hstep, List.map_cons]
    by_cases hnext : produced + (probe item).length ≤ limit
    · exact CutAt.cons (by omega) (Nat.sub_sub _ _ _ ▸ ih hnext)
    · have hspent : probeWithin limit probe (produced + (probe item).length) rest = [] := by
        cases rest with
        | nil => rfl
        | cons next later => rw [probeWithin, if_pos (by omega)]
      rw [hspent, List.append_nil]
      have hfirst : probe item :: rest.map probe = [] ++ probe item :: rest.map probe := rfl
      exact CutAt.past hfirst (Nat.zero_le _) (by simp only [List.flatten_nil, List.nil_append]; omega)

/-- Probing an index of the rows finds the partners of a row in order. -/
theorem probeIndex_build (keys : List KeyPart) (columns : List Nat) (rows : List Row)
    (emit : Row → Row → Option Row) (l : Row) :
    probeIndex (Index.build columns rows) rows.toArray keys emit l =
      (rows.filter fun r => r.pick columns = leftKey keys l).filterMap (emit l) := by
  have h : (Index.positions columns (leftKey keys l) 0 (rows.map id)).filterMap
      (fun i => emit l (rows.toArray.getD i [])) =
        (rows.filter fun r => r.pick columns = leftKey keys l).filterMap (emit l) :=
    Index.filterMap_positions (by intro i hi; simp [hi])
  rwa [List.map_id, ← Index.find_build] at h

/-- The buckets of the left rows give the partners of a key in order. -/
theorem filterMap_bucketLeft (keys : List KeyPart) (left : List Row) (key : Row)
    (emit : Row → Option Row) :
    ((bucketLeft keys left).find key).filterMap (fun i => emit (left.toArray.getD i [])) =
      (left.filter fun l => leftKey keys l = key).filterMap emit := by
  have hpick (l : Row) : (leftKey keys l).pick (List.range keys.length) = leftKey keys l := by
    simpa using Row.pick_range (leftKey keys l)
  have h : (Index.positions (List.range keys.length) key 0 (left.map (leftKey keys))).filterMap
      (fun i => emit (left.toArray.getD i [])) =
        (left.filter fun l => (leftKey keys l).pick (List.range keys.length) = key).filterMap emit :=
    Index.filterMap_positions (by intro i hi; simp [hi])
  rw [bucketLeft, Index.find_build, h]
  simp only [hpick]

/-- Against a single right row the nested loop goes through the left rows with its key. -/
theorem nestedLoop_singleton (left : List Row) (keys : List KeyPart) (r : Row) (columns : List Nat)
    (emit : Row → Row → Option Row) :
    nestedLoop left keys [r] columns emit =
      (left.filter fun l => leftKey keys l = r.pick columns).filterMap fun l => emit l r := by
  induction left with
  | nil => rfl
  | cons l rest ih =>
    have hstep : nestedLoop (l :: rest) keys [r] columns emit =
        nestedLoop [l] keys [r] columns emit ++ nestedLoop rest keys [r] columns emit := by
      simp [nestedLoop]
    rw [hstep, ih]
    by_cases hkey : leftKey keys l = r.pick columns
    · cases hemit : emit l r <;> simp [nestedLoop, hkey, hemit]
    · simp [nestedLoop, hkey, Ne.symm hkey]

/-- Going through the right rows first gives the same pairs as going through the left first. -/
theorem flatMap_nestedLoop_perm (left : List Row) (keys : List KeyPart) (right : List Row)
    (columns : List Nat) (emit : Row → Row → Option Row) :
    (right.flatMap fun r => nestedLoop left keys [r] columns emit).Perm
      (nestedLoop left keys right columns emit) := by
  have hpair (l : Row) : (right.filter fun r => r.pick columns = leftKey keys l).filterMap (emit l) =
      right.flatMap fun r => ([r].filter fun r => r.pick columns = leftKey keys l).filterMap
        (emit l) := by
    rw [← List.filterMap_flatMap, ← List.filter_flatMap, List.flatMap_singleton']
  simp only [nestedLoop, hpair]
  rw [← Multiset.coe_eq_coe]
  simp only [← Multiset.coe_bind]
  exact Multiset.bind_bind _ _

/-- The rows of a join whose pairs are enumerated in a given way. -/
def JoinStrategy.rows (strategy : JoinStrategy) (left : List Row) (keys : List KeyPart)
    (right : Relation) (columns : List Nat) (limit : Nat) (emit : Row → Row → Option Row) :
    List Row :=
  match strategy with
  | .cartesian => probeWithin limit (fun l => right.rows.filterMap (emit l)) 0 left
  | .indexProbe =>
    probeWithin limit (probeIndex (right.index columns).1 right.rows.toArray keys emit) 0 left
  | .buildLeft =>
    probeWithin limit (fun r => ((bucketLeft keys left).find (r.pick columns)).filterMap
      fun i => emit (left.toArray.getD i []) r) 0 right.rows

/-- The product serves joins without keys alone; the other ways serve every join. -/
def JoinStrategy.Serves (strategy : JoinStrategy) (columns : List Nat) : Prop :=
  strategy = .cartesian → columns = []

/-- What the single probes of a join have to find: the partners of each left row or, where the left
rows are bucketed, those of each right row. -/
def JoinStrategy.probes (strategy : JoinStrategy) (left : List Row) (keys : List KeyPart)
    (right : List Row) (columns : List Nat) (emit : Row → Row → Option Row) : List (List Row) :=
  match strategy with
  | .buildLeft => right.map fun r => nestedLoop left keys [r] columns emit
  | .cartesian | .indexProbe => left.map fun l => nestedLoop [l] keys right columns emit

/-- A join enumerates its pairs in the way it chose. -/
theorem rows_joinRows (left : List Row) (keys : List KeyPart) (right : Relation)
    (columns : List Nat) (limit : Nat) (emit : Row → Row → Option Row) :
    (joinRows left keys right columns limit emit).rows =
      (chooseStrategy left.length right columns).rows left keys right columns limit emit := by
  rw [joinRows]
  cases chooseStrategy left.length right columns <;> rfl

/-- The product is chosen for joins without keys alone. -/
theorem eq_nil_of_cartesian {leftSize : Nat} {right : Relation} {columns : List Nat}
    (h : chooseStrategy leftSize right columns = .cartesian) : columns = [] := by
  by_contra hne
  rw [chooseStrategy, if_neg (by simpa using hne)] at h
  split at h <;> contradiction

/-- A join is truncated exactly when it gave more rows than its limit. -/
theorem truncated_joinRows (left : List Row) (keys : List KeyPart) (right : Relation)
    (columns : List Nat) (limit : Nat) (emit : Row → Row → Option Row) :
    (joinRows left keys right columns limit emit).report.truncated =
      decide (limit < (joinRows left keys right columns limit emit).rows.length) := rfl

/-- The way chosen serves the join it is chosen for. -/
theorem serves_chooseStrategy (leftSize : Nat) (right : Relation) (columns : List Nat) :
    (chooseStrategy leftSize right columns).Serves columns :=
  eq_nil_of_cartesian

/-- The single probes find the rows of the nested loop between them. -/
theorem JoinStrategy.flatten_probes_perm (strategy : JoinStrategy) (left : List Row)
    (keys : List KeyPart) (right : List Row) (columns : List Nat) (emit : Row → Row → Option Row) :
    (strategy.probes left keys right columns emit).flatten.Perm
      (nestedLoop left keys right columns emit) := by
  have hleft : (left.map fun l => nestedLoop [l] keys right columns emit).flatten =
      nestedLoop left keys right columns emit := by
    simp [nestedLoop, List.flatMap_def]
  cases strategy with
  | cartesian => exact hleft ▸ List.Perm.refl _
  | indexProbe => exact hleft ▸ List.Perm.refl _
  | buildLeft =>
    rw [probes, ← List.flatMap_def]
    exact flatMap_nestedLoop_perm left keys right columns emit

/-- A join gives the rows of its single probes, cut at its limit. -/
theorem JoinStrategy.cutAt_rows {strategy : JoinStrategy} {right : Relation} {columns : List Nat}
    {keys : List KeyPart} (hserves : strategy.Serves columns) (hright : right.Coherent)
    (hkeys : keys.length = columns.length) (left : List Row) (limit : Nat)
    (emit : Row → Row → Option Row) :
    CutAt limit (strategy.probes left keys right.rows columns emit)
      (strategy.rows left keys right columns limit emit) := by
  rw [← Nat.sub_zero limit]
  cases strategy with
  | cartesian =>
    obtain rfl : columns = [] := hserves rfl
    obtain rfl : keys = [] := List.length_eq_zero_iff.1 hkeys
    have hprobe : (fun l => nestedLoop [l] [] right.rows [] emit) =
        fun l => right.rows.filterMap (emit l) := by
      simp [nestedLoop, leftKey, Row.pick]
    rw [probes, hprobe]
    exact cutAt_probeWithin (Nat.zero_le _) _ left
  | indexProbe =>
    have hprobe : (fun l => nestedLoop [l] keys right.rows columns emit) =
        probeIndex (right.index columns).1 right.rows.toArray keys emit := by
      rw [hright.fst_index]
      simp [nestedLoop, funext (probeIndex_build keys columns right.rows emit)]
    rw [probes, hprobe]
    exact cutAt_probeWithin (Nat.zero_le _) _ left
  | buildLeft =>
    have hprobe : (fun r => nestedLoop left keys [r] columns emit) =
        fun r => ((bucketLeft keys left).find (r.pick columns)).filterMap
          fun i => emit (left.toArray.getD i []) r :=
      funext fun r => (nestedLoop_singleton left keys r columns emit).trans
        (filterMap_bucketLeft keys left (r.pick columns) fun l => emit l r).symm
    rw [probes, hprobe]
    exact cutAt_probeWithin (Nat.zero_le _) _ right.rows

/-- In whatever way that serves the join its pairs are enumerated, what comes out agrees with the nested
loop. -/
theorem JoinStrategy.givesWithin {strategy : JoinStrategy} {right : Relation} {columns : List Nat}
    {keys : List KeyPart} (hserves : strategy.Serves columns) (hright : right.Coherent)
    (hkeys : keys.length = columns.length) (left : List Row) (limit : Nat)
    (emit : Row → Row → Option Row) :
    GivesWithin limit (nestedLoop left keys right.rows columns emit)
      (strategy.probes left keys right.rows columns emit)
      (strategy.rows left keys right columns limit emit)
      (decide (limit < (strategy.rows left keys right columns limit emit).length)) :=
  (cutAt_rows hserves hright hkeys left limit emit).givesWithin
    (strategy.flatten_probes_perm left keys right.rows columns emit)

/-- What comes out in the way that a join chooses agrees with the nested loop. -/
theorem joinRows_givesWithin {right : Relation} {columns : List Nat} {keys : List KeyPart}
    (hright : right.Coherent) (hkeys : keys.length = columns.length) (left : List Row) (limit : Nat)
    (emit : Row → Row → Option Row) :
    GivesWithin limit (nestedLoop left keys right.rows columns emit)
      ((joinRows left keys right columns limit emit).report.strategy.probes left keys right.rows
        columns emit)
      (joinRows left keys right columns limit emit).rows
      (joinRows left keys right columns limit emit).report.truncated := by
  rw [truncated_joinRows, rows_joinRows]
  exact JoinStrategy.givesWithin (serves_chooseStrategy _ _ _) hright hkeys left limit emit

/-- A join within its limit gives the rows of the nested loop. -/
theorem joinRows_perm {left : List Row} {keys : List KeyPart} {right : Relation}
    {columns : List Nat} {limit : Nat} {emit : Row → Row → Option Row} (hright : right.Coherent)
    (hkeys : keys.length = columns.length)
    (hlimit : (joinRows left keys right columns limit emit).report.truncated = false) :
    (joinRows left keys right columns limit emit).rows.Perm
      (nestedLoop left keys right.rows columns emit) :=
  (joinRows_givesWithin hright hkeys left limit emit).perm hlimit

/-- A join hands the relation on as it is, or with the index it built. -/
theorem joinRows_right (left : List Row) (keys : List KeyPart) (right : Relation)
    (columns : List Nat) (limit : Nat) (emit : Row → Row → Option Row) :
    (joinRows left keys right columns limit emit).right = right ∨
      (joinRows left keys right columns limit emit).right = (right.index columns).2 := by
  rw [joinRows]
  cases chooseStrategy left.length right columns
  · exact Or.inr rfl
  · exact Or.inl rfl
  · exact Or.inl rfl

/-- An antijoin keeps the rows whose key no row of the relation carries. -/
theorem fst_antijoinRows {keys : List KeyPart} {right : Relation} {columns : List Nat}
    (hright : right.Coherent) (hkeys : keys.length = columns.length) (left : List Row) :
    (antijoinRows left keys right columns).1 =
      left.filter fun l => ¬∃ r ∈ right.rows, r.pick columns = leftKey keys l := by
  rw [antijoinRows]
  split
  next hempty =>
    have hrows : right.rows = [] := by simpa [Relation.isEmpty] using hempty
    simp [hrows]
  next hempty =>
    split
    next hcolumns =>
      have hnil : columns = [] := by simpa using hcolumns
      have hkeysNil : keys = [] := List.length_eq_zero_iff.1 (by simp [hkeys, hnil])
      have hrows : right.rows ≠ [] := by simpa [Relation.isEmpty] using hempty
      obtain ⟨r, hr⟩ := List.exists_mem_of_ne_nil _ hrows
      refine (List.filter_eq_nil_iff.2 fun l _ hl => ?_).symm
      exact of_decide_eq_true hl ⟨r, hr, by simp [hnil, hkeysNil, Row.pick, leftKey]⟩
    next hcolumns =>
      change left.filter (fun row => !(right.index columns).1.hasKey (leftKey keys row)) = _
      refine List.filter_congr fun l _ => ?_
      rw [hright.fst_index, Bool.eq_iff_iff, Bool.not_eq_true', ← Bool.not_eq_true,
        Index.hasKey_build, decide_eq_true_iff]

/-- An antijoin keeps the left rows for which the nested loop finds no partner. -/
theorem mem_antijoinRows {left : List Row} {keys : List KeyPart} {right : Relation}
    {columns : List Nat} (hright : right.Coherent) (hkeys : keys.length = columns.length)
    {l : Row} :
    l ∈ (antijoinRows left keys right columns).1 ↔
      l ∈ left ∧ ¬∃ r ∈ right.rows, r.pick columns = leftKey keys l := by
  rw [fst_antijoinRows hright hkeys, List.mem_filter, decide_eq_true_iff]

/-- An antijoin keeps left rows in their order. -/
theorem antijoinRows_sublist (left : List Row) (keys : List KeyPart) (right : Relation)
    (columns : List Nat) : (antijoinRows left keys right columns).1.Sublist left := by
  rw [antijoinRows]
  split
  · exact List.Sublist.refl _
  · split
    · exact List.nil_sublist _
    · exact List.filter_sublist

/-- An antijoin hands the relation on as it is, or with the index it built. -/
theorem antijoinRows_right (left : List Row) (keys : List KeyPart) (right : Relation)
    (columns : List Nat) :
    (antijoinRows left keys right columns).2 = right ∨
      (antijoinRows left keys right columns).2 = (right.index columns).2 := by
  rw [antijoinRows]
  split
  · exact Or.inl rfl
  · split
    · exact Or.inl rfl
    · exact Or.inr rfl

end Stratalog
