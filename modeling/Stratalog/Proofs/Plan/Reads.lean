import Mathlib.Data.Set.Basic
import Stratalog.Proofs.Plan.Body

/-!
# What a plan reads

A plan reads the predicates its body reads, inside aggregates too, and no others. The sizes that
guide it are those of the same predicates, so sizes that differ elsewhere lead to the same plan, or
to the same fault.
-/

namespace Stratalog

namespace Step

mutual

/-- The predicates a step reads, those read inside an aggregate included. -/
def reads : Step → List String
  | .join predicate _ _ => [predicate]
  | .fold _ _ inner _ _ _ => readsOfAll inner
  | .negate predicate _ => [predicate]
  | .filter _ | .bind _ => []

/-- The predicates that steps read. -/
def readsOfAll : List Step → List String
  | [] => []
  | step :: rest => step.reads ++ readsOfAll rest

end

/-- What a list of steps reads is what each of them reads. -/
theorem readsOfAll_eq_flatMap (steps : List Step) : readsOfAll steps = steps.flatMap reads := by
  induction steps with
  | nil => rfl
  | cons step rest ih => simp [readsOfAll, ih]

end Step

variable {names : Set String} {plan after : Plan} {sizeOf sizeOf' : SizeOf}

/-- A plan reads no predicates but those named. -/
def Plan.ReadsWithin (names : Set String) (plan : Plan) : Prop :=
  ∀ name ∈ Step.readsOfAll plan.steps, name ∈ names

/-- A waiting literal reads no predicates but those named, nor does the plan inside it. -/
structure Waiting.ReadsWithin (names : Set String) (w : Waiting) : Prop where
  literal : ∀ read ∈ w.literal.reads, read.1 ∈ names
  inner : ∀ inner, w.inner = .ok inner → inner.ReadsWithin names

namespace Plan

/-- One more step adds what it reads. -/
theorem ReadsWithin.push (h : plan.ReadsWithin names) {step : Step}
    (hstep : ∀ name ∈ step.reads, name ∈ names) (vars : List String) :
    (plan.push step vars).ReadsWithin names := by
  intro name hname
  change name ∈ Step.readsOfAll (plan.steps ++ [step]) at hname
  rw [Step.readsOfAll_eq_flatMap, List.flatMap_append, ← Step.readsOfAll_eq_flatMap,
    List.mem_append] at hname
  rcases hname with hname | hname
  · exact h name hname
  · exact hstep name (by simpa using hname)

/-- Placing a literal adds what it reads. -/
theorem ReadsWithin.placed [PatternEngine] (h : plan.ReadsWithin names) {w : Waiting}
    (hw : w.ReadsWithin names)
    (hplaced : plan.Placed w after) : after.ReadsWithin names := by
  cases hplaced with
  | test hready hpush =>
    unfold pushTest at hpush
    split at hpush
    · obtain ⟨_, -, rfl⟩ := map_eq_ok.1 hpush
      exact h.push (by simp [Step.reads]) _
    · obtain ⟨_, -, rfl⟩ := map_eq_ok.1 hpush
      exact h.push (by simp [Step.reads]) _
    · cases hpush
      exact h
  | binding hbinding hpush =>
    obtain ⟨_, -, rfl⟩ := map_eq_ok.1 hpush
    exact h.push (by simp [Step.reads]) _
  | negation hliteral hready =>
    refine h.push (fun name hname => ?_) _
    obtain rfl := List.mem_singleton.1 hname
    exact hw.literal (_, .negative) (by simp [hliteral, Literal.reads])
  | join hjoin hpush =>
    unfold pushJoin at hpush
    split at hpush
    next atom hliteral =>
      cases hpush
      refine h.push (fun name hname => ?_) _
      obtain rfl := List.mem_singleton.1 hname
      exact hw.literal (_, .positive) (by simp [hliteral, Literal.reads])
    next result function target groupBy body hliteral =>
      obtain ⟨inner, hinner, hpush⟩ := bind_eq_ok.1 hpush
      unfold pushAggregate at hpush
      obtain ⟨keys, -, hpush⟩ := bind_eq_ok.1 hpush
      obtain ⟨compiled, -, hpush⟩ := bind_eq_ok.1 hpush
      cases hpush
      refine h.push (fun name hname => hw.inner inner hinner name ?_) _
      rwa [Step.reads] at hname
    next =>
      cases hpush
      exact h

/-- Placing all that waits adds what the waiting literals read. -/
theorem ReadsWithin.arrange [PatternEngine] {fuel : Nat} {waiting : List Waiting}
    (hplan : plan.ReadsWithin names) (hwaiting : ∀ w ∈ waiting, w.ReadsWithin names)
    (h : Plan.arrange sizeOf fuel plan waiting = .ok after) : after.ReadsWithin names := by
  induction fuel generalizing plan waiting with
  | zero =>
    have heq : Plan.arrange sizeOf 0 plan waiting = .ok plan := by cases waiting <;> rfl
    rw [heq] at h
    cases h
    exact hplan
  | succ fuel ih =>
    cases waiting with
    | nil =>
      rw [Plan.arrange] at h
      cases h
      exact hplan
    | cons first others =>
      rw [Plan.arrange] at h
      · obtain ⟨⟨next, rest⟩, hadvance, h⟩ := bind_eq_ok.1 h
        obtain ⟨w, hperm, hplaced⟩ := advance_cases hadvance
        have hw : w.ReadsWithin names := hwaiting w (hperm.mem_iff.2 List.mem_cons_self)
        exact ih (hplan.placed hw hplaced)
          (fun other hother => hwaiting other (hperm.mem_iff.2 (List.mem_cons_of_mem _ hother))) h
      · simp

/-- The empty plan reads nothing. -/
theorem readsWithin_start : Plan.ReadsWithin names {} := by
  simp [ReadsWithin, Step.readsOfAll]

/-- The plan inside a literal reads what the literal reads. -/
theorem readsWithin_waiting [PatternEngine] (sizeOf : SizeOf) (literal : Literal) :
    (∀ read ∈ literal.reads, read.1 ∈ names) →
      Waiting.ReadsWithin names ⟨literal, false, ofAggregate sizeOf literal⟩ := by
  induction literal using Literal.induction with
  | aggregate result function target groupBy body ih =>
    refine fun hreads => ⟨hreads, fun inner hinner => ?_⟩
    rw [ofAggregate, waitingOf_eq_map] at hinner
    refine readsWithin_start.arrange (fun w hw => ?_) hinner
    obtain ⟨literal, hliteral, rfl⟩ := List.mem_map.1 hw
    exact ih literal hliteral fun read hread =>
      hreads (read.1, .aggregate) (Literal.mem_reads_aggregate hliteral hread)
  | _ =>
    refine fun hreads => ⟨hreads, fun inner hinner => ?_⟩
    cases hinner
    exact readsWithin_start

/-- The plan of a body reads what the body reads. -/
theorem readsWithin_ofBody [PatternEngine] {body : List Literal} {deltaAt : Option Nat}
    (hreads : ∀ read ∈ Literal.readsOfAll body, read.1 ∈ names)
    (h : Plan.ofBody sizeOf body deltaAt = .ok plan) : plan.ReadsWithin names := by
  refine readsWithin_start.arrange (fun w hw => ?_) h
  obtain ⟨i, literal, hliteral, rfl⟩ := mem_waiting_ofBody.1 hw
  have hw := readsWithin_waiting sizeOf literal fun read hread =>
    hreads read (Literal.mem_readsOfAll (List.mem_of_getElem? hliteral) hread)
  exact ⟨hw.literal, hw.inner⟩

/-- Scores depend on the sizes of what is read. -/
theorem scores_congr (hsizes : ∀ name ∈ names, ∀ delta, sizeOf' name delta = sizeOf name delta)
    {waiting : List Waiting} (hwaiting : ∀ w ∈ waiting, ∀ read ∈ w.literal.reads, read.1 ∈ names) :
    plan.scores sizeOf' waiting = plan.scores sizeOf waiting := by
  induction waiting with
  | nil => rfl
  | cons w rest ih =>
    obtain ⟨hw, hrest⟩ := List.forall_mem_cons.1 hwaiting
    have hscore : plan.score sizeOf' w = plan.score sizeOf w := by
      unfold score
      split
      next atom hliteral =>
        rw [hsizes atom.predicate (hw (_, .positive) (by simp [hliteral, Literal.reads]))]
      next => rfl
      next => rfl
    rw [scores, scores, hscore, ih hrest]

variable [PatternEngine]

/-- Placing what waits depends on the sizes of what is read. -/
theorem arrange_congr (hsizes : ∀ name ∈ names, ∀ delta, sizeOf' name delta = sizeOf name delta)
    {fuel : Nat} {waiting : List Waiting}
    (hwaiting : ∀ w ∈ waiting, ∀ read ∈ w.literal.reads, read.1 ∈ names) :
    Plan.arrange sizeOf' fuel plan waiting = Plan.arrange sizeOf fuel plan waiting := by
  induction fuel generalizing plan waiting with
  | zero => cases waiting <;> rfl
  | succ fuel ih =>
    cases waiting with
    | nil => rfl
    | cons first others =>
      have hadvance : plan.advance sizeOf' (first :: others) =
          plan.advance sizeOf (first :: others) := by
        unfold advance
        rw [scores_congr hsizes hwaiting]
      rw [Plan.arrange, Plan.arrange, hadvance]
      · cases hnext : plan.advance sizeOf (first :: others) with
        | error fault => rfl
        | ok found =>
          obtain ⟨next, rest⟩ := found
          obtain ⟨w, hperm, -⟩ := advance_cases hnext
          exact ih fun other hother =>
            hwaiting other (hperm.mem_iff.2 (List.mem_cons_of_mem _ hother))
      all_goals simp

/-- The plan inside a literal depends on the sizes of what the literal reads. -/
theorem ofAggregate_congr (hsizes : ∀ name ∈ names, ∀ delta, sizeOf' name delta = sizeOf name delta)
    (literal : Literal) : (∀ read ∈ literal.reads, read.1 ∈ names) →
      ofAggregate sizeOf' literal = ofAggregate sizeOf literal := by
  induction literal using Literal.induction with
  | aggregate result function target groupBy body ih =>
    intro hreads
    have hbody : ∀ literal ∈ body, ∀ read ∈ literal.reads, read.1 ∈ names :=
      fun literal hliteral read hread =>
        hreads (read.1, .aggregate) (Literal.mem_reads_aggregate hliteral hread)
    have hwaiting : waitingOf sizeOf' body = waitingOf sizeOf body := by
      rw [waitingOf_eq_map, waitingOf_eq_map]
      refine List.map_congr_left fun literal hliteral => ?_
      rw [ih literal hliteral (hbody literal hliteral)]
    rw [ofAggregate, ofAggregate, hwaiting]
    refine arrange_congr hsizes fun w hw => ?_
    rw [waitingOf_eq_map] at hw
    obtain ⟨literal, hliteral, rfl⟩ := List.mem_map.1 hw
    exact hbody literal hliteral
  | _ => exact fun _ => rfl

/-- The plan of a body depends on the sizes of what the body reads. -/
theorem ofBody_congr (hsizes : ∀ name ∈ names, ∀ delta, sizeOf' name delta = sizeOf name delta)
    {body : List Literal} (hreads : ∀ read ∈ Literal.readsOfAll body, read.1 ∈ names)
    (deltaAt : Option Nat) : Plan.ofBody sizeOf' body deltaAt = Plan.ofBody sizeOf body deltaAt := by
  have hwaiting : waitingOf sizeOf' body = waitingOf sizeOf body := by
    rw [waitingOf_eq_map, waitingOf_eq_map]
    refine List.map_congr_left fun literal hliteral => ?_
    rw [ofAggregate_congr hsizes literal fun read hread =>
      hreads read (Literal.mem_readsOfAll hliteral hread)]
  rw [ofBody, ofBody, hwaiting]
  refine arrange_congr hsizes fun w hw => ?_
  obtain ⟨i, literal, hliteral, rfl⟩ := mem_waiting_ofBody.1 hw
  exact fun read hread => hreads read (Literal.mem_readsOfAll (List.mem_of_getElem? hliteral) hread)

end Plan

end Stratalog
