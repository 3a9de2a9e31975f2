import Stratalog.Proofs.Postcondition
import Stratalog.Session

/-!
# Going through strata

Strata are gone through one after the other. Each is passed over because a stratum below it failed, or
is evaluated, unless it is finished already, and then may fail itself. What holds at first and is kept
up in each of these cases holds in the end. That all strata are found finished is not a case of its
own: going through them would change nothing.
-/

namespace Stratalog.Session

open Eval

variable [PatternEngine] {program : Program} {strata : Stratification} {context : Context}
  {workspace : Workspace} {failures : Failures} {ids : List Nat}

/-- What is kept up by every stratum that is gone through is kept up by going through all. -/
theorem evaluateEach_induction (Good : List Nat → Failures → Workspace → Prop)
    (hinherit : ∀ before i after failures workspace fault, ids = before ++ i :: after →
      Good before failures workspace →
        firstFailure? failures (strata.stratum i).dependsOn = some fault →
          Good (before ++ [i]) (failures ++ [(i, fault)]) workspace)
    (hevaluate : ∀ before i after failures workspace, ids = before ++ i :: after →
      Good before failures workspace →
        firstFailure? failures (strata.stratum i).dependsOn = none →
          (ensureStratum program strata context i).Ensures workspace
            (fun _ last => Good (before ++ [i]) failures last)
            fun fault last => Good (before ++ [i]) (failures ++ [(i, fault)]) last)
    (before rest : List Nat) (hids : ids = before ++ rest)
    (hstart : Good before failures workspace) :
    ∃ found last, (evaluateEach program strata context failures rest).run workspace = (found, last) ∧
      Good ids found last := by
  induction rest generalizing before failures workspace with
  | nil =>
    rw [List.append_nil] at hids
    exact ⟨failures, workspace, rfl, hids ▸ hstart⟩
  | cons i rest ih =>
    have hnext : ids = (before ++ [i]) ++ rest := by simp [hids]
    rw [evaluateEach]
    cases hfailure : firstFailure? failures (strata.stratum i).dependsOn with
    | some fault =>
      exact ih _ hnext (hinherit before i rest failures workspace fault hids hstart hfailure)
    | none =>
      have hensures := hevaluate before i rest failures workspace hids hstart hfailure
      rw [StateT.run_bind]
      rcases hrun : (ensureStratum program strata context i).run.run workspace with
        ⟨fault | answer, last⟩
      · exact ih _ hnext (hensures.of_error hrun)
      · exact ih _ hnext (hensures.of_ok hrun)

/-- What is tried for a stratum that is gone through: it fails as a stratum below it did, or is
evaluated. -/
def attempt (program : Program) (strata : Stratification) (context : Context)
    (failures : Failures) (i : Nat) : Eval Unit :=
  match firstFailure? failures (strata.stratum i).dependsOn with
  | some fault => throw fault
  | none => ensureStratum program strata context i

/-- The failures and the workspace to which going through strata leads from others. -/
def goThrough (program : Program) (strata : Stratification) (context : Context) (ids : List Nat)
    (start : Failures × Workspace) : Failures × Workspace :=
  (evaluateEach program strata context start.1 ids).run start.2

/-- Going through one stratum is trying it, and recording its failure. -/
theorem goThrough_cons (i : Nat) (rest : List Nat) (failures : Failures) (workspace : Workspace) :
    goThrough program strata context (i :: rest) (failures, workspace) =
      match (attempt program strata context failures i).run.run workspace with
      | (.error fault, after) =>
        goThrough program strata context rest (failures ++ [(i, fault)], after)
      | (.ok (), after) => goThrough program strata context rest (failures, after) := by
  rw [goThrough, evaluateEach, attempt]
  cases firstFailure? failures (strata.stratum i).dependsOn with
  | some fault => rfl
  | none =>
    rw [StateT.run_bind]
    rcases (ensureStratum program strata context i).run.run workspace with ⟨_ | _, _⟩ <;> rfl

/-- Strata may be gone through in two parts. -/
theorem goThrough_append (first second : List Nat) (start : Failures × Workspace) :
    goThrough program strata context (first ++ second) start =
      goThrough program strata context second (goThrough program strata context first start) := by
  induction first generalizing start with
  | nil => rfl
  | cons i rest ih =>
    obtain ⟨failures, workspace⟩ := start
    rw [List.cons_append, goThrough_cons, goThrough_cons]
    rcases (attempt program strata context failures i).run.run workspace with ⟨_ | _, _⟩ <;>
      exact ih _

/-- Going through finished strata changes nothing. -/
theorem evaluateEach_of_isPublished
    (h : ∀ i ∈ ids, isPublished strata workspace i = true) :
    (evaluateEach program strata context [] ids).run workspace = ([], workspace) := by
  induction ids with
  | nil => rfl
  | cons i rest ih =>
    obtain ⟨hi, hrest⟩ := List.forall_mem_cons.1 h
    have hnone : firstFailure? [] (strata.stratum i).dependsOn = none :=
      List.findSome?_eq_none_iff.2 fun _ _ => rfl
    have hrun : (ensureStratum program strata context i).run.run workspace = (.ok (), workspace) := by
      unfold ensureStratum
      rw [run_bind]
      change (if isPublished strata workspace i = true then _ else _ : Eval Unit).run.run _ = _
      rw [if_pos hi]
      rfl
    rw [evaluateEach, hnone, StateT.run_bind]
    change StateT.run (match (ensureStratum program strata context i).run.run workspace with
      | (outcome, _) => _) _ = _
    rw [hrun]
    exact ih hrest

/-- Evaluating strata is going through them. -/
theorem run_evaluateStrata (program : Program) (strata : Stratification) (context : Context)
    (ids : List Nat) (workspace : Workspace) :
    (evaluateStrata program strata context ids).run workspace =
      (evaluateEach program strata context [] ids).run workspace := by
  unfold evaluateStrata
  rw [StateT.run_bind]
  change StateT.run (if ids.all (isPublished strata workspace) = true then return []
    else evaluateEach program strata context [] ids) workspace = _
  split
  next hall => exact (evaluateEach_of_isPublished (List.all_eq_true.1 hall)).symm
  next => rfl

end Stratalog.Session
