import Mathlib.Algebra.GroupWithZero.Nat
import Mathlib.Logic.Relation
import Stratalog.Proofs.Relation.Join
import Stratalog.Settings

/-!
# Joins on several workers

The probes of a large join are spread over workers, which keep one count of the rows that came out. A worker
looks at the count before it probes and adds what it found afterwards, so that others may begin in between:
more of them go past the limit than one after another would. What came out stands in the order of the probes,
whoever was done first.

Since the count only grows, a probe is passed over only if the join ends as truncated. So the workers make no
difference to whether a join is truncated, and none to the rows of one that is not.
-/

namespace Stratalog

/-- How far a probe has come. -/
inductive Stage where
  | waiting
  | underway
  | done
  | passedOver
  deriving DecidableEq, Repr

/-- How many steps a probe still takes. -/
def Stage.stepsLeft : Stage → Nat
  | .waiting => 2
  | .underway => 1
  | .done | .passedOver => 0

/-- A probe and the rows it finds. -/
structure Probe where
  found : List Row
  stage : Stage := .waiting

/-- The rows that a probe has given. -/
def Probe.given (probe : Probe) : List Row :=
  if probe.stage = .done then probe.found else []

/-- Probes in their order, and how many rows came out. -/
structure Spread where
  probes : List Probe
  emitted : Nat := 0

namespace Spread

/-- Probes that find certain rows, before the first of them. -/
def start (found : List (List Row)) : Spread where
  probes := found.map fun rows => { found := rows }

/-- The rows that came out, in the order of the probes. -/
def rows (spread : Spread) : List Row :=
  spread.probes.flatMap Probe.given

/-- One step of some worker: it lets a probe begin, passes one over since the limit is passed, or adds what
one found. -/
inductive Step (limit : Nat) : Spread → Spread → Prop where
  | begin {before after : List Probe} {found : List Row} {emitted : Nat} (h : emitted ≤ limit) :
      Step limit ⟨before ++ ⟨found, .waiting⟩ :: after, emitted⟩
        ⟨before ++ ⟨found, .underway⟩ :: after, emitted⟩
  | pass {before after : List Probe} {found : List Row} {emitted : Nat} (h : limit < emitted) :
      Step limit ⟨before ++ ⟨found, .waiting⟩ :: after, emitted⟩
        ⟨before ++ ⟨found, .passedOver⟩ :: after, emitted⟩
  | finish {before after : List Probe} {found : List Row} {emitted : Nat} :
      Step limit ⟨before ++ ⟨found, .underway⟩ :: after, emitted⟩
        ⟨before ++ ⟨found, .done⟩ :: after, emitted + found.length⟩

/-- Whether every probe is done or was passed over. -/
def IsOver (spread : Spread) : Prop :=
  ∀ probe ∈ spread.probes, probe.stage = .done ∨ probe.stage = .passedOver

/-- The end of a spread join: what came out, and whether that is more than the limit. -/
def Ends (limit : Nat) (found : List (List Row)) (rows : List Row) (truncated : Bool) : Prop :=
  ∃ final : Spread, Relation.ReflTransGen (Step limit) (start found) final ∧ final.IsOver ∧
    rows = final.rows ∧ truncated = decide (limit < final.emitted)

/-- What holds all along: the probes find what they do, the count is that of the rows that came out, and
nothing is passed over before the limit is passed. -/
structure Keeps (limit : Nat) (found : List (List Row)) (spread : Spread) : Prop where
  found : spread.probes.map Probe.found = found
  emitted : spread.emitted = spread.rows.length
  passed : ∀ probe ∈ spread.probes, probe.stage = .passedOver → limit < spread.emitted

variable {limit : Nat} {found : List (List Row)} {spread next : Spread} {rows : List Row}
  {truncated : Bool}

theorem keeps_start (limit : Nat) (found : List (List Row)) : (start found).Keeps limit found where
  found := by
    rw [start, List.map_map]
    exact List.map_id found
  emitted := by
    have hnone : (start found).rows = [] := by
      refine List.flatMap_eq_nil_iff.2 fun probe hprobe => ?_
      obtain ⟨rows, -, rfl⟩ := List.mem_map.1 hprobe
      rfl
    rw [hnone]
    rfl
  passed probe hprobe hpassed := by
    obtain ⟨rows, -, rfl⟩ := List.mem_map.1 hprobe
    cases hpassed

/-- Each step keeps what holds all along. -/
theorem Keeps.step (h : spread.Keeps limit found) (hstep : Step limit spread next) :
    next.Keeps limit found := by
  obtain ⟨hfound, hemitted, hpassed⟩ := h
  cases hstep with
  | begin hwithin =>
    refine ⟨by simpa using hfound, by simpa [rows, Probe.given] using hemitted, fun probe hprobe hover => ?_⟩
    simp only [List.mem_append, List.mem_cons] at hprobe hpassed
    rcases hprobe with hprobe | rfl | hprobe
    · exact hpassed probe (.inl hprobe) hover
    · cases hover
    · exact hpassed probe (.inr (.inr hprobe)) hover
  | pass hpast =>
    exact ⟨by simpa using hfound, by simpa [rows, Probe.given] using hemitted, fun _ _ _ => hpast⟩
  | finish =>
    refine ⟨by simpa using hfound, ?_, fun probe hprobe hover => ?_⟩
    · simp only [rows, Probe.given, List.flatMap_append, List.flatMap_cons, List.length_append] at hemitted ⊢
      simp only [reduceCtorEq, if_false, List.length_nil, if_true] at hemitted ⊢
      omega
    · simp only [List.mem_append, List.mem_cons] at hprobe hpassed
      refine lt_of_lt_of_le ?_ (Nat.le_add_right _ _)
      rcases hprobe with hprobe | rfl | hprobe
      · exact hpassed probe (.inl hprobe) hover
      · cases hover
      · exact hpassed probe (.inr (.inr hprobe)) hover

/-- So does every run. -/
theorem Keeps.run (h : spread.Keeps limit found) (hrun : Relation.ReflTransGen (Step limit) spread next) :
    next.Keeps limit found := by
  induction hrun with
  | refl => exact h
  | tail _ hstep ih => exact ih.step hstep

/-- What came out is part of what the probes find, in order. -/
theorem Keeps.sublist (h : spread.Keeps limit found) : spread.rows.Sublist found.flatten := by
  rw [← h.found, ← List.flatMap_def, rows]
  refine List.Sublist.flatMap_right _ fun probe _ => ?_
  unfold Probe.given
  split
  · exact List.Sublist.refl _
  · exact List.nil_sublist _

/-- If the limit is kept to the end, all that the probes find has come out. -/
theorem Keeps.rows_eq (h : spread.Keeps limit found) (hover : spread.IsOver)
    (hwithin : spread.emitted ≤ limit) : spread.rows = found.flatten := by
  rw [← h.found, ← List.flatMap_def, rows]
  refine List.flatMap_congr fun probe hprobe => if_pos ?_
  exact (hover probe hprobe).resolve_right fun hpassed => (h.passed probe hprobe hpassed).not_ge hwithin

/-- A spread join is truncated exactly when its probes find more rows than the limit. -/
theorem Ends.truncated_iff (h : Ends limit found rows truncated) :
    truncated = true ↔ limit < found.flatten.length := by
  obtain ⟨final, hrun, hover, -, rfl⟩ := h
  have hkeeps := (keeps_start limit found).run hrun
  rw [decide_eq_true_iff]
  refine ⟨fun hpast => ?_, fun hpast => ?_⟩
  · rw [hkeeps.emitted] at hpast
    exact hpast.trans_le hkeeps.sublist.length_le
  · by_contra hwithin
    have hall := hkeeps.rows_eq hover (Nat.not_lt.1 hwithin)
    rw [hkeeps.emitted, hall] at hwithin
    exact hwithin hpast

/-- A spread join that is not truncated gives all that its probes find, in order. -/
theorem Ends.eq_flatten (h : Ends limit found rows truncated) (hwithin : truncated = false) :
    rows = found.flatten := by
  obtain ⟨final, hrun, hover, rfl, rfl⟩ := h
  exact ((keeps_start limit found).run hrun).rows_eq hover (Nat.not_lt.1 (of_decide_eq_false hwithin))

/-- How many steps the probes still take. -/
def stepsLeft (spread : Spread) : Nat :=
  (spread.probes.map fun probe => probe.stage.stepsLeft).sum

/-- As long as it is not over, some step can be taken, and fewer are left after it. -/
theorem exists_step (limit : Nat) (h : ¬spread.IsOver) :
    ∃ next, Step limit spread next ∧ next.stepsLeft < spread.stepsLeft := by
  obtain ⟨probes, emitted⟩ := spread
  simp only [IsOver, not_forall, not_or] at h
  obtain ⟨⟨found, stage⟩, hprobe, hdone, hpassed⟩ := h
  obtain ⟨before, after, rfl⟩ := List.append_of_mem hprobe
  have hless {later : Stage} {counted : Nat} (hlater : later.stepsLeft < stage.stepsLeft) :
      stepsLeft ⟨before ++ ⟨found, later⟩ :: after, counted⟩ <
        stepsLeft ⟨before ++ ⟨found, stage⟩ :: after, emitted⟩ := by
    simp only [stepsLeft, List.map_append, List.map_cons, List.sum_append, List.sum_cons]
    omega
  cases stage with
  | waiting =>
    rcases Nat.lt_or_ge limit emitted with hpast | hwithin
    · exact ⟨_, .pass hpast, hless (by decide)⟩
    · exact ⟨_, .begin hwithin, hless (by decide)⟩
  | underway => exact ⟨_, .finish, hless (by decide)⟩
  | done => exact absurd rfl hdone
  | passedOver => exact absurd rfl hpassed

/-- So whatever was done until then, it comes to an end. -/
theorem exists_isOver (limit : Nat) (spread : Spread) :
    ∃ final, Relation.ReflTransGen (Step limit) spread final ∧ final.IsOver := by
  induction hleft : spread.stepsLeft using Nat.strongRecOn generalizing spread with
  | ind left ih =>
    by_cases hover : spread.IsOver
    · exact ⟨spread, .refl, hover⟩
    · obtain ⟨next, hstep, hless⟩ := exists_step limit hover
      obtain ⟨final, hrun, hfinal⟩ := ih _ (hleft ▸ hless) next rfl
      exact ⟨final, .head hstep hrun, hfinal⟩

end Spread

/-- Whether a join is spread: there are workers, and there is enough to probe. -/
def JoinStrategy.isSpread (strategy : JoinStrategy) (settings : Settings) (left right : Nat) : Bool :=
  let enough := fun size => max settings.parallelJoinThreshold 1 ≤ size
  1 < settings.threads &&
    match strategy with
    | .cartesian => enough (left * right) && 1 < left
    | .indexProbe => enough left
    | .buildLeft => enough right

/-- What a join may give under some settings, and whether it says that it was truncated. -/
def JoinsTo (settings : Settings) (left : List Row) (keys : List KeyPart) (right : Relation)
    (columns : List Nat) (limit : Nat) (emit : Row → Row → Option Row) (rows : List Row)
    (truncated : Bool) : Prop :=
  let strategy := chooseStrategy left.length right columns
  let single := joinRows left keys right columns limit emit
  if strategy.isSpread settings left.length right.size then
    Spread.Ends limit (strategy.probes left keys right.rows columns emit) rows truncated
  else rows = single.rows ∧ truncated = single.report.truncated

/-- Workers make no difference to a join. However many there are and in whatever order they come, it ends,
it is truncated when it is so without them, and otherwise gives the same rows in the same order. -/
theorem joinRows_agrees_with_spread {right : Relation} {columns : List Nat} {keys : List KeyPart}
    (hright : right.Coherent) (hkeys : keys.length = columns.length) (settings : Settings)
    (left : List Row) (limit : Nat) (emit : Row → Row → Option Row) :
    (∃ rows truncated, JoinsTo settings left keys right columns limit emit rows truncated) ∧
      ∀ rows truncated, JoinsTo settings left keys right columns limit emit rows truncated →
        truncated = (joinRows left keys right columns limit emit).report.truncated ∧
          (truncated = false → rows = (joinRows left keys right columns limit emit).rows) := by
  have hcut := JoinStrategy.cutAt_rows (serves_chooseStrategy left.length right columns) hright hkeys
    left limit emit
  rw [← rows_joinRows] at hcut
  by_cases hspread :
      (chooseStrategy left.length right columns).isSpread settings left.length right.size = true
  · simp only [JoinsTo, hspread, if_true]
    refine ⟨?_, fun rows truncated hends => ?_⟩
    · obtain ⟨final, hrun, hover⟩ := Spread.exists_isOver limit (Spread.start
        ((chooseStrategy left.length right columns).probes left keys right.rows columns emit))
      exact ⟨_, _, final, hrun, hover, rfl, rfl⟩
    · have hsame : truncated = (joinRows left keys right columns limit emit).report.truncated := by
        rw [truncated_joinRows, Bool.eq_iff_iff, hends.truncated_iff, decide_eq_true_iff, hcut.limit_lt_iff]
      refine ⟨hsame, fun hwithin => ?_⟩
      rw [hends.eq_flatten hwithin]
      rw [hsame, truncated_joinRows] at hwithin
      exact (hcut.eq_flatten (Nat.not_lt.1 (of_decide_eq_false hwithin))).symm
  · simp only [JoinsTo, hspread]
    refine ⟨⟨_, _, rfl, rfl⟩, fun rows truncated => ?_⟩
    rintro ⟨rfl, rfl⟩
    exact ⟨rfl, fun _ => rfl⟩

end Stratalog
