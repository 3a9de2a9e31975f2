import Stratalog.Proofs.Plan.Placement
import Stratalog.Proofs.Plan.Steps

/-!
# Plans solve their bodies

A plan solves a property when running its steps lists the assignments with that property. The empty
plan solves the trivial property, and placing a literal adds that the literal holds. So however a
body was ordered, its plan lists the assignments under which every literal holds, and the plans
inside its aggregates do the same for theirs.
-/

namespace Stratalog

open Evaluation Eval

variable {context : Context} {start : Workspace} {names : List String} {catalog : Catalog}
  {plan after : Plan} {P Q : Assignment → Prop}

/-- Running the steps of a plan lists the assignments with a property. -/
structure Plan.Solves (context : Context) (start : Workspace) (names : List String) (plan : Plan)
    (P : Assignment → Prop) : Prop where
  nodup : plan.vars.Nodup
  yields : Yields start names (runSteps context [[]] plan.steps) plan.vars P

namespace Plan

/-- The empty plan solves the property that every assignment has. -/
theorem solves_start : Plan.Solves context start names {} fun _ => True := by
  refine ⟨List.nodup_nil, fun workspace hkept => ?_⟩
  rw [runSteps, ensures_pure]
  exact ⟨hkept, BindingTable.lists_start⟩

/-- A plan solves equivalent properties alike. -/
theorem Solves.congr (h : plan.Solves context start names P) (hiff : ∀ σ, P σ ↔ Q σ) :
    plan.Solves context start names Q :=
  ⟨h.nodup, h.yields.congr hiff⟩

/-- Running one more step is running the step on the rows so far, unless there are none. -/
theorem ensures_runSteps_concat {workspace : Workspace} {steps : List Step} {step : Step}
    {rows : List Row} {answered : List Row → Workspace → Prop} {failed : Fault → Workspace → Prop}
    (h : (runSteps context rows steps).Ensures workspace
      (fun rows after => if rows.isEmpty then answered rows after
        else (runStep context rows step).Ensures after answered failed) failed) :
    (runSteps context rows (steps ++ [step])).Ensures workspace answered failed := by
  induction steps generalizing rows workspace with
  | nil =>
    rw [runSteps, ensures_pure] at h
    rw [List.nil_append, runSteps]
    split at h
    next hempty =>
      rw [if_pos hempty, ensures_pure]
      exact h
    next hempty =>
      rw [if_neg hempty, ensures_bind]
      exact h.mono (fun rows final hrows => by rw [runSteps, ensures_pure]; exact hrows) fun _ _ => id
  | cons first rest ih =>
    rw [runSteps] at h
    rw [List.cons_append, runSteps]
    split at h
    next hempty =>
      rw [if_pos hempty]
      rw [ensures_pure, if_pos hempty] at h
      exact ensures_pure.2 h
    next hempty =>
      rw [if_neg hempty, ensures_bind]
      rw [ensures_bind] at h
      exact h.mono (fun _ _ hrest => ih hrest) fun _ _ => id

/-- A plan with one more step solves what the step makes of its table. -/
theorem Solves.push (h : plan.Solves context start names P) {step : Step} {vars : List String}
    (hvars : (plan.vars ++ vars).Nodup)
    (hstep : ∀ rows, (⟨plan.vars, rows⟩ : BindingTable).Lists P →
      Yields start names (runStep context rows step) (plan.vars ++ vars) fun σ => P σ ∧ Q σ) :
    (plan.push step vars).Solves context start names fun σ => P σ ∧ Q σ := by
  refine ⟨hvars, fun workspace hkept => ensures_runSteps_concat ?_⟩
  refine (h.yields workspace hkept).mono (fun rows after hrows => ?_) fun _ _ => id
  obtain ⟨hafter, hlists⟩ := hrows
  split
  next hempty =>
    have hnil : rows = [] := List.isEmpty_iff.1 hempty
    subst hnil
    exact ⟨hafter, BindingTable.lists_nil hvars fun σ hσ => hlists.not_of_isEmpty rfl σ hσ.1⟩
  next => exact hstep rows hlists after hafter

end Plan

variable [PatternEngine]

/-- What is known of a waiting literal: it is well formed and reads named predicates, only atoms
read a growth, and the plan of an aggregate solves its body. -/
structure Waiting.Sound (context : Context) (start : Workspace) (names : List String)
    (catalog : Catalog) (w : Waiting) : Prop where
  wellFormed : w.literal.WellFormed catalog
  reads : ∀ read ∈ w.literal.reads, read.1 ∈ names
  delta : w.delta = true → ∃ atom, w.literal = .atom atom
  inner : ∀ result function target groupBy body,
    w.literal = .aggregate result function target groupBy body → ∀ inner, w.inner = .ok inner →
      (∀ name, name ∈ inner.vars ↔ name ∈ Literal.scopeOfAll body) ∧
        inner.Solves context start names
          (Literal.HoldsAll context.entities.render (start.denotes false) body)

/-- Whether the literal that waits holds. -/
def Waiting.Holds (context : Context) (start : Workspace) (w : Waiting) (σ : Assignment) : Prop :=
  w.literal.Holds context.entities.render (start.denotes w.delta) σ

namespace Plan

/-- Placing a test adds that the test holds. -/
theorem Solves.pushTest (h : plan.Solves context start names P) {literal : Literal}
    (hready : literal.isReadyTest plan.binds = true) (hpush : plan.pushTest literal = .ok after)
    (I : Interpretation) : after.Solves context start names
      fun σ => P σ ∧ literal.Holds context.entities.render I σ := by
  have hnodup : (plan.vars ++ []).Nodup := by simpa using h.nodup
  cases literal with
  | compare op left right =>
    obtain ⟨test, htest, rfl⟩ := map_eq_ok.1 hpush
    refine h.push hnodup fun rows hrows => ?_
    rw [List.append_nil]
    exact yields_filter hrows (RowTest.fits_compile htest) (RowTest.holds_compile _ I htest)
  | assign var expr =>
    obtain ⟨compiled, hcompiled, rfl⟩ := map_eq_ok.1 hpush
    have hvar : var ∈ plan.vars := mem_of_isReadyTest hready var List.mem_cons_self
    obtain ⟨column, hcolumn⟩ := Option.isSome_iff_exists.1 (List.isSome_idxOf?.2 hvar)
    have hlt : column < plan.vars.length := (List.idxOf?_eq_some_iff.1 hcolumn).1
    have hlayout : plan.layout var = some column := hcolumn
    rw [hlayout, Option.getD_some]
    refine h.push hnodup fun rows hrows => ?_
    rw [List.append_nil]
    refine yields_filter hrows ?_ fun σ => ?_
    · have hfits := SlotExpr.fits_compile
        (fun _ _ hfound => (List.idxOf?_eq_some_iff.1 hfound).1) hcompiled
      simp [RowTest.equality, RowTest.fits, SlotExpr.fits, hlt, hfits]
    · have hcell : (plan.vars.map σ)[column]? = some (σ var) := by
        obtain ⟨_, heq, -⟩ := List.idxOf?_eq_some_iff.1 hcolumn
        rw [List.getElem?_map, List.getElem?_eq_getElem hlt, heq, Option.map_some]
      rw [RowTest.equality, RowTest.holds, SlotExpr.eval, hcell,
        SlotExpr.eval_compile_map _ hcompiled, Literal.Holds]
      cases expr.value context.entities.render σ with
      | none => simp
      | some value =>
        simp only [CompareOp.holds, beq_iff_eq, Option.some.injEq]
        exact eq_comm
  | atom a => cases hready
  | negated a => cases hready
  | aggregate => cases hready

/-- Placing a binding adds that the literal holds. -/
theorem Solves.pushBinding (h : plan.Solves context start names P) {literal : Literal}
    {var : String} {expr : Expr} (hbinding : literal.binding? plan.binds = some (var, expr))
    (hpush : plan.pushBinding var expr = .ok after) (I : Interpretation) :
    after.Solves context start names fun σ => P σ ∧ literal.Holds context.entities.render I σ := by
  obtain ⟨hoffer, hnew, -⟩ := Literal.offers_of_binding hbinding
  have hvar : var ∉ plan.vars := by simpa [binds] using hnew
  have hnodup : (plan.vars ++ [var]).Nodup := by
    rw [List.nodup_append]
    refine ⟨h.nodup, by simp, fun a ha b hb => ?_⟩
    rintro rfl
    obtain rfl : a = var := by simpa using hb
    exact hvar ha
  obtain ⟨compiled, hcompiled, rfl⟩ := map_eq_ok.1 hpush
  refine h.push hnodup fun rows hrows => (yields_bind hrows hvar hcompiled).congr fun σ =>
    and_congr_right fun _ => ?_
  rcases hoffer with rfl | rfl | rfl
  · rfl
  · simp [Literal.Holds, Expr.value, CompareOp.Relates, CompareOp.holds]
  · simp [Literal.Holds, Expr.value, CompareOp.Relates, CompareOp.holds]

/-- Placing an atom or aggregate adds that it holds. -/
theorem Solves.pushJoin (hconforms : start.Conforms catalog)
    (h : plan.Solves context start names P) {w : Waiting}
    (hw : w.Sound context start names catalog) (hjoin : w.literal.isJoin = true)
    (hpush : plan.pushJoin w = .ok after) :
    after.Solves context start names fun σ => P σ ∧ w.Holds context start σ := by
  have hnodup (terms : List Term) : (plan.vars ++ freshVars plan terms).Nodup := by
    rw [freshVars_eq_newVars]
    exact nodup_append_newVars h.nodup terms
  unfold Waiting.Holds
  cases hliteral : w.literal with
  | atom atom =>
    simp only [Plan.pushJoin, hliteral] at hpush
    cases hpush
    have hfits : atom.Fits catalog := by simpa [hliteral, Literal.WellFormed] using hw.wellFormed
    have hname : atom.predicate ∈ names := by simpa [hliteral, Literal.reads] using hw.reads
    refine h.push (hnodup _) fun rows hrows => ?_
    rw [freshVars_eq_newVars]
    exact (yields_join hconforms hrows hfits hname w.delta).congr fun σ => by rw [Literal.Holds]
  | aggregate result function target groupBy body =>
    simp only [Plan.pushJoin, hliteral] at hpush
    obtain ⟨inner, hinner, hpush⟩ := bind_eq_ok.1 hpush
    unfold pushAggregate at hpush
    obtain ⟨keys, hkeys, hpush⟩ := bind_eq_ok.1 hpush
    obtain ⟨compiled, hcompiled, hpush⟩ := bind_eq_ok.1 hpush
    cases hpush
    obtain ⟨hvars, hsolves⟩ := hw.inner _ _ _ _ _ hliteral inner hinner
    have hdelta : w.delta = false := by
      by_contra hfull
      obtain ⟨atom, hatom⟩ := hw.delta (by simpa using hfull)
      rw [hliteral] at hatom
      cases hatom
    have hover (τ : Assignment) : τ.IsOver inner.vars ↔ τ.IsOver (Literal.scopeOfAll body) := by
      simp only [Assignment.IsOver, hvars]
    refine h.push (hnodup _) fun rows hrows => ?_
    rw [freshVars_eq_newVars]
    refine (yields_fold hrows hsolves.yields hkeys hcompiled _ function).congr fun σ => ?_
    rw [Literal.Holds, hdelta]
    simp only [hover]
  | negated a => simp [hliteral, Literal.isJoin] at hjoin
  | compare op left right => simp [hliteral, Literal.isJoin] at hjoin
  | assign var expr => simp [hliteral, Literal.isJoin] at hjoin

/-- Placing a literal adds that it holds. -/
theorem Solves.placed (hconforms : start.Conforms catalog)
    (h : plan.Solves context start names P) {w : Waiting}
    (hw : w.Sound context start names catalog) (hplaced : plan.Placed w after) :
    after.Solves context start names fun σ => P σ ∧ w.Holds context start σ := by
  cases hplaced with
  | test hready hpush => exact h.pushTest hready hpush _
  | binding hbinding hpush => exact h.pushBinding hbinding hpush _
  | @negation atom hliteral hready =>
    have hdelta : w.delta = false := by
      by_contra hfull
      obtain ⟨other, hother⟩ := hw.delta (by simpa using hfull)
      rw [hliteral] at hother
      cases hother
    have hfits : atom.Fits catalog := by simpa [hliteral, Literal.WellFormed] using hw.wellFormed
    have hname : atom.predicate ∈ names := by simpa [hliteral, Literal.reads] using hw.reads
    refine h.push (by simpa using h.nodup) fun rows hrows => ?_
    rw [List.append_nil]
    refine (yields_negate hconforms hrows hfits hname hready).congr fun σ => ?_
    rw [Waiting.Holds, hliteral, hdelta, Literal.Holds]
  | join hjoin hpush => exact h.pushJoin hconforms hw hjoin hpush

end Plan

end Stratalog
