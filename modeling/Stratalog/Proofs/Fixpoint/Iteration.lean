import Mathlib.Order.BooleanAlgebra.Set
import Stratalog.Proofs.Fixpoint.Advance

/-!
# Rounds and naive iteration

After each round the members hold exactly what naive iteration of the immediate consequences has
found by then: no derivation is missed by looking only at what is new, and none comes early or
late. So the rounds of a stratum end where naive iteration ends, with its least fixpoint.
-/

namespace Stratalog

/-- Whether a fault is what a checkpoint can raise, for a cancellation or a deadline. -/
def Context.Interrupts (context : Context) (fault : Fault) : Prop :=
  ∃ i, (context.noticing (context.observe i)).checkpoint = .error fault

namespace Evaluation

open Eval

variable {context : Context} {outer workspace : Workspace} {predicates : List Predicate}
  {catalog : Catalog} {X Y D : Interpretation} {rows : RowsByName} {stratum : Stratum}

/-- What naive iteration finds in a number of steps from nothing. -/
def naive [PatternEngine] (context : Context) (predicates : List Predicate) (outer : Workspace) (k : Nat) :
    Interpretation :=
  (consequences context.entities.render predicates outer.settled)^[k] ⊥

/-- One more step of naive iteration adds the consequences. -/
theorem naive_succ [PatternEngine] (k : Nat) : naive context predicates outer (k + 1) =
    consequences context.entities.render predicates outer.settled
      (naive context predicates outer k) :=
  Function.iterate_succ_apply' _ _ _

/-- Naive iteration only adds. -/
theorem naive_le_succ [PatternEngine] (k : Nat) :
    naive context predicates outer k ≤ naive context predicates outer (k + 1) :=
  iterate_consequences_le_succ _ _ _ k

/-- Naive iteration finds rows of members only. -/
theorem naive_eq_empty [PatternEngine] {name : String} (hname : name ∉ predicates.map Predicate.name)
    (k : Nat) :
    naive context predicates outer k name = ∅ := by
  cases k with
  | zero => rfl
  | succ k =>
    rw [naive_succ]
    exact consequences_eq_empty hname

/-- What the workspace and the last rows are after the round of a number, counted from zero: the
members hold what naive iteration has found, and the rows are what it found last. -/
structure AfterRound [PatternEngine] (context : Context) (outer : Workspace)
    (predicates : List Predicate) (k : Nat)
    (rows : RowsByName) (workspace : Workspace) : Prop where
  growing : ∃ D, Growing outer predicates (naive context predicates outer (k + 1)) D workspace
  rows : rows.Lists predicates fun predicate =>
    naive context predicates outer (k + 1) predicate.name \
      naive context predicates outer k predicate.name

/-- Passing a checkpoint changes nothing; it may raise a fault. -/
theorem ensures_pass (h : workspace.Coherent) {answered : Unit → Workspace → Prop}
    {failed : Fault → Workspace → Prop} (hok : ∀ after, workspace.Kept after → answered () after)
    (herror : ∀ fault after, workspace.Kept after → context.Interrupts fault → failed fault after) :
    context.pass.Ensures workspace answered failed := by
  have hkept : workspace.Kept { workspace with checkpoints := workspace.checkpoints + 1 } :=
    ⟨⟨fun _ => rfl, fun _ => rfl, fun _ => rfl, fun _ => rfl⟩,
      ⟨h.base, h.slots, h.growing, h.delta⟩, rfl⟩
  unfold Context.pass
  simp only [ensures_bind, ensures_get, ensures_modify, ensures_lift]
  exact ⟨fun _ _ => hok _ hkept, fun fault hfault => herror fault _ hkept ⟨_, hfault⟩⟩

/-- The members absorb what is new in a larger set. -/
theorem ensures_absorb_diff (hmembers : (predicates.map Predicate.name).Nodup)
    (h : Growing outer predicates X D workspace) (hXY : X ≤ Y)
    (hnone : ∀ name, name ∉ predicates.map Predicate.name → Y name = ∅)
    (hrows : rows.Lists predicates fun predicate => Y predicate.name \ X predicate.name) :
    (absorb context rows).Ensures workspace (fun _ after => Growing outer predicates Y D after)
      fun fault after => outer.Encloses after ∧ fault.IsTupleLimit := by
  have hunion : X ⊔ rows.rowsOf = Y := by
    funext name
    by_cases hname : name ∈ predicates.map Predicate.name
    · obtain ⟨predicate, hmem, rfl⟩ := List.mem_map.1 hname
      change X predicate.name ∪ rows.rowsOf predicate.name = Y predicate.name
      rw [hrows.mem predicate hmem, Set.union_sdiff_cancel (hXY predicate.name)]
    · change X name ∪ rows.rowsOf name = Y name
      have hX : X name = ∅ := Set.subset_eq_empty (hXY name) (hnone name hname)
      rw [hrows.rowsOf_eq_empty hname, hX, hnone name hname, Set.union_empty]
  rw [← hunion]
  exact ensures_absorb_lists hmembers h hrows fun predicate _ row hrow => hrow.2

/-- The first round finds what rules derive from nothing. -/
theorem ensures_openRounds [PatternEngine] (hready : Ready catalog predicates outer)
    (h : Growing outer predicates ⊥ ⊥ workspace) :
    (openRounds context predicates).Ensures workspace
      (fun rows after => AfterRound context outer predicates 0 rows after)
      fun fault after => outer.Encloses after ∧
        (fault.IsTupleLimit ∨ context.Interrupts fault) := by
  unfold openRounds
  rw [ensures_bind]
  refine ensures_pass h.encloses.coherent (fun start hkept => ?_) fun fault after hkept hfault =>
    ⟨h.encloses.trans hkept, Or.inr hfault⟩
  rw [ensures_bind]
  refine ((h.of_kept hkept).ensures_startRound hready).mono
    (fun rows found hfound => ?_) fun _ _ hfault => ⟨hfault.1, Or.inl hfault.2⟩
  obtain ⟨hgrowing, hlists⟩ := hfound
  have hrows : rows.Lists predicates fun predicate =>
      naive context predicates outer 1 predicate.name \
        naive context predicates outer 0 predicate.name := by
    refine ⟨hlists.nodup, hlists.each, fun predicate hmem => ?_⟩
    rw [hlists.mem predicate hmem]
    ext row
    rw [naive_succ]
    simp only [Set.mem_sdiff, naive, Function.iterate_zero, id, mem_consequences_bot]
    constructor
    · rintro ⟨rule, hrule, hstart, σ, hσ⟩
      exact ⟨⟨predicate, hmem, rfl, rule, hrule, hstart, σ, hσ⟩, id⟩
    · rintro ⟨⟨other, hother, hname, rule, hrule, hstart, σ, hσ⟩, -⟩
      obtain rfl : other = predicate := List.inj_on_of_nodup_map hready.nodup hother hmem hname
      exact ⟨rule, hrule, hstart, σ, hσ⟩
  rw [ensures_bind]
  refine (ensures_absorb_diff hready.nodup hgrowing bot_le (fun name hname => naive_eq_empty hname 1)
    hrows).mono (fun _ after hafter => ?_) fun _ _ hfault => ⟨hfault.1, Or.inl hfault.2⟩
  rw [ensures_pure]
  exact ⟨⟨⊥, hafter⟩, hrows⟩

/-- The rows of a round, as relations, are what the members grew by. -/
theorem growing_deltaOf (hmembers : (predicates.map Predicate.name).Nodup)
    (h : Growing outer predicates X D workspace) {S : Predicate → Set Row}
    (hrows : rows.Lists predicates S) :
    Growing outer predicates X rows.rowsOf { workspace with delta := deltaOf workspace rows } := by
  have hget (name : String) (relation : Relation) :
      (deltaOf workspace rows)[name]? = some relation ↔ ∃ list, (name, list) ∈ rows ∧
        relation = Relation.ofDistinct name
          (((workspace.growing[name]?).map Relation.schema).getD {}) list := by
    unfold deltaOf
    rw [getElem?_ofList_iff, List.mem_map]
    · constructor
      · rintro ⟨⟨_, list⟩, hlist, ⟨⟩⟩
        exact ⟨list, hlist, rfl⟩
      · rintro ⟨list, hlist, rfl⟩
        exact ⟨_, hlist, rfl⟩
    · rw [List.map_map]
      exact hrows.nodup
  refine ⟨h.encloses.replace h.encloses.coherent.growing fun name relation hrelation => ?_,
    h.members, h.complete, h.rows, fun name relation hrelation => ?_, ?_⟩
  · obtain ⟨list, -, rfl⟩ := (hget name relation).1 hrelation
    exact Relation.coherent_ofDistinct _ _ _
  · obtain ⟨list, hlist, rfl⟩ := (hget name relation).1 hrelation
    obtain ⟨hnodup, -, predicate, hmem, rfl, hlength⟩ := hrows.each _ hlist
    refine ⟨predicate, hmem, rfl, rfl, ?_, hnodup, hlength⟩
    obtain ⟨held, hheld⟩ := h.complete predicate hmem
    obtain ⟨holder, hholder, hname, hof⟩ := h.members _ _ hheld
    obtain rfl : holder = predicate := List.inj_on_of_nodup_map hmembers hholder hmem hname
    change ((workspace.growing[holder.name]?).map Relation.schema).getD {} = holder.schema
    rw [hheld]
    exact hof.schema
  · funext name
    ext row
    constructor
    · rintro ⟨relation, hrelation, hrow⟩
      obtain ⟨list, hlist, rfl⟩ := (hget name relation).1 hrelation
      exact ⟨list, hlist, hrow⟩
    · rintro ⟨list, hlist, hrow⟩
      exact ⟨_, (hget name _).2 ⟨list, hlist, rfl⟩, hrow⟩

variable [PatternEngine]

/-- The rows of a round are what naive iteration found last. -/
theorem AfterRound.rowsOf_eq {k : Nat} (h : AfterRound context outer predicates k rows workspace) :
    rows.rowsOf = fun name =>
      naive context predicates outer (k + 1) name \ naive context predicates outer k name := by
  funext name
  by_cases hname : name ∈ predicates.map Predicate.name
  · obtain ⟨predicate, hmem, rfl⟩ := List.mem_map.1 hname
    exact h.rows.mem predicate hmem
  · rw [h.rows.rowsOf_eq_empty hname, naive_eq_empty hname, Set.empty_sdiff]

/-- A later round finds what is derived through what the round before found. -/
theorem ensures_nextRound (hready : Ready catalog predicates outer) {k : Nat}
    (h : AfterRound context outer predicates k rows workspace) :
    (nextRound context predicates rows).Ensures workspace
      (fun rows after => AfterRound context outer predicates (k + 1) rows after)
      fun fault after => outer.Encloses after ∧
        (fault.IsTupleLimit ∨ context.Interrupts fault) := by
  obtain ⟨⟨D, hheld⟩, hlast⟩ := h
  unfold nextRound
  rw [ensures_bind]
  refine ensures_pass hheld.encloses.coherent (fun start hkept => ?_) fun fault after hkept hfault =>
    ⟨hheld.encloses.trans hkept, Or.inr hfault⟩
  have hstart := growing_deltaOf hready.nodup (hheld.of_kept hkept) hlast
  rw [AfterRound.rowsOf_eq ⟨⟨D, hheld⟩, hlast⟩] at hstart
  simp only [ensures_bind, ensures_modify]
  refine (hstart.ensures_deriveRound hready).mono
    (fun next found hfound => ?_) fun _ _ hfault => ⟨hfault.1, Or.inl hfault.2⟩
  obtain ⟨hgrowing, hlists⟩ := hfound
  have hrows : next.Lists predicates fun predicate =>
      naive context predicates outer (k + 1 + 1) predicate.name \
        naive context predicates outer (k + 1) predicate.name := by
    refine ⟨hlists.nodup, hlists.each, fun predicate hmem => ?_⟩
    rw [hlists.mem predicate hmem, naive_succ (k + 1), consequences_diff_eq (naive_succ k)]
    ext row
    simp only [Set.mem_sdiff]
    refine and_congr_left fun _ => ?_
    constructor
    · rintro ⟨rule, hrule, i, hi, σ, hσ⟩
      exact ⟨predicate, hmem, rfl, rule, hrule, i, hi, σ, hσ⟩
    · rintro ⟨other, hother, hname, rule, hrule, i, hi, σ, hσ⟩
      obtain rfl : other = predicate := List.inj_on_of_nodup_map hready.nodup hother hmem hname
      exact ⟨rule, hrule, i, hi, σ, hσ⟩
  refine (ensures_absorb_diff hready.nodup hgrowing (naive_le_succ (k + 1))
    (fun name hname => naive_eq_empty hname (k + 1 + 1)) hrows).mono
    (fun _ after hafter => ?_) fun _ _ hfault => ⟨hfault.1, Or.inl hfault.2⟩
  rw [ensures_pure]
  exact ⟨⟨_, hafter⟩, hrows⟩

/-- The rounds up to the one of a number, counted from zero, even past one that finds nothing. -/
def rounds (context : Context) (predicates : List Predicate) : Nat → Eval RowsByName
  | 0 => openRounds context predicates
  | k + 1 => do nextRound context predicates (← rounds context predicates k)

/-- Semi-naive rounds keep step with naive iteration. -/
theorem ensures_rounds (hready : Ready catalog predicates outer)
    (h : Growing outer predicates ⊥ ⊥ workspace) (k : Nat) :
    (rounds context predicates k).Ensures workspace
      (fun rows after => AfterRound context outer predicates k rows after)
      fun fault after => outer.Encloses after ∧
        (fault.IsTupleLimit ∨ context.Interrupts fault) := by
  induction k with
  | zero => exact ensures_openRounds hready h
  | succ k ih =>
    rw [rounds, ensures_bind]
    exact ih.mono (fun rows after hafter => ensures_nextRound hready hafter) fun _ _ => id

/-- Whether the round of a number, counted from zero, is one to end with: it is the only one, or it
finds nothing new. -/
def Settles (context : Context) (stratum : Stratum) (predicates : List Predicate)
    (outer : Workspace) (k : Nat) : Prop :=
  stratum.recursive = true →
    naive context predicates outer (k + 1) = naive context predicates outer k

/-- A round finds no rows exactly when naive iteration finds nothing new in it. -/
theorem AfterRound.eq_nil_iff {k : Nat} (h : AfterRound context outer predicates k rows workspace) :
    rows = [] ↔ naive context predicates outer (k + 1) = naive context predicates outer k := by
  constructor
  · rintro rfl
    refine le_antisymm (fun name => ?_) (naive_le_succ k)
    by_cases hname : name ∈ predicates.map Predicate.name
    · obtain ⟨predicate, hmem, rfl⟩ := List.mem_map.1 hname
      have hnone := h.rows.mem predicate hmem
      rw [← Set.sdiff_eq_empty, ← hnone]
      exact Set.eq_empty_iff_forall_notMem.2 fun row ⟨list, hlist, _⟩ => List.not_mem_nil hlist
    · rw [naive_eq_empty hname]
      exact Set.empty_subset _
  · intro heq
    refine h.rows.eq_nil fun predicate _ row hrow => ?_
    rw [heq, Set.sdiff_self] at hrow
    exact hrow

/-- The loop goes on after a round exactly when the round is not one to end with. -/
theorem AfterRound.stops_iff {k : Nat} (h : AfterRound context outer predicates k rows workspace) :
    (!stratum.recursive || rows.isEmpty) = true ↔ Settles context stratum predicates outer k := by
  rw [Settles, ← h.eq_nil_iff, Bool.or_eq_true, List.isEmpty_iff]
  cases stratum.recursive <;> simp

/-- The loop ends with the first round to end with, if that comes soon enough. -/
theorem ensures_iterate (hready : Ready catalog predicates outer) {fuel k : Nat}
    (h : AfterRound context outer predicates k rows workspace) :
    (iterate context stratum predicates fuel (k + 1) rows).Ensures workspace
      (fun count after => ∃ m rows, count = m + 1 ∧ AfterRound context outer predicates m rows after ∧
        k ≤ m ∧ m ≤ k + fuel ∧ Settles context stratum predicates outer m ∧
          ∀ j, k ≤ j → j < m → ¬Settles context stratum predicates outer j)
      fun fault after => outer.Encloses after ∧
        (fault.IsTupleLimit ∨ context.Interrupts fault ∨
          fault = .resourceExhausted (.rounds stratum.id stratum.predicates
              context.settings.maxRounds) ∧
            ∀ j, k ≤ j → j ≤ k + fuel → ¬Settles context stratum predicates outer j) := by
  induction fuel generalizing k rows workspace with
  | zero =>
    rw [iterate]
    split
    next hstops =>
      rw [ensures_pure]
      exact ⟨k, rows, rfl, h, le_rfl, le_rfl, h.stops_iff.1 hstops, by omega⟩
    next hgoes =>
      rw [ensures_throw]
      obtain ⟨D, hheld⟩ := h.growing
      refine ⟨hheld.encloses, Or.inr (Or.inr ⟨rfl, fun j hkj hj => ?_⟩)⟩
      obtain rfl : j = k := by omega
      exact fun hsettles => hgoes (h.stops_iff.2 hsettles)
  | succ fuel ih =>
    rw [iterate]
    split
    next hstops =>
      rw [ensures_pure]
      exact ⟨k, rows, rfl, h, le_rfl, by omega, h.stops_iff.1 hstops, by omega⟩
    next hgoes =>
      have hnot : ¬Settles context stratum predicates outer k :=
        fun hsettles => hgoes (h.stops_iff.2 hsettles)
      rw [ensures_bind]
      refine (ensures_nextRound hready h).mono (fun next after hafter => ?_)
        fun _ _ hfault => ⟨hfault.1, hfault.2.imp id Or.inl⟩
      refine (ih hafter).mono (fun count last hlast => ?_) fun fault last hfault => ?_
      · obtain ⟨m, found, rfl, hround, hkm, hm, hsettles, hbefore⟩ := hlast
        refine ⟨m, found, rfl, hround, by omega, by omega, hsettles, fun j hkj hj => ?_⟩
        by_cases heq : j = k
        · exact heq ▸ hnot
        · exact hbefore j (by omega) hj
      · obtain ⟨hencloses, hlimit | hinterrupt | ⟨rfl, hnever⟩⟩ := hfault
        · exact ⟨hencloses, Or.inl hlimit⟩
        · exact ⟨hencloses, Or.inr (Or.inl hinterrupt)⟩
        · refine ⟨hencloses, Or.inr (Or.inr ⟨rfl, fun j hkj hj => ?_⟩)⟩
          by_cases heq : j = k
          · exact heq ▸ hnot
          · exact hnever j (by omega) (by omega)

end Evaluation

end Stratalog
