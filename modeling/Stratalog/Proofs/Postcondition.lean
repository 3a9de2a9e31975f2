import Stratalog.Evaluation.Workspace

/-!
# Postconditions of evaluations

An evaluation started in a workspace ends in another, with an answer or with a fault. `Ensures`
says what holds in either case. It is computed along the evaluation, so that a composed one is
understood from its parts.
-/

namespace Stratalog

variable {α β : Type}

/-- In the given workspace an evaluation ends as `answered` says, or fails as `failed` says. -/
def Eval.Ensures (evaluation : Eval α) (workspace : Workspace)
    (answered : α → Workspace → Prop) (failed : Fault → Workspace → Prop) : Prop :=
  match evaluation.run.run workspace with
  | (.ok answer, after) => answered answer after
  | (.error fault, after) => failed fault after

namespace Eval

variable {evaluation : Eval α} {workspace after : Workspace}
  {answered answered' : α → Workspace → Prop} {failed failed' : Fault → Workspace → Prop}

/-- What is ensured holds of an answer that was given. -/
theorem Ensures.of_ok {answer : α} (h : evaluation.Ensures workspace answered failed)
    (hrun : evaluation.run.run workspace = (.ok answer, after)) : answered answer after := by
  rw [Ensures, hrun] at h
  exact h

/-- What is ensured holds of a fault that occurred. -/
theorem Ensures.of_error {fault : Fault} (h : evaluation.Ensures workspace answered failed)
    (hrun : evaluation.run.run workspace = (.error fault, after)) : failed fault after := by
  rw [Ensures, hrun] at h
  exact h

/-- An evaluation ensures what holds of its answer and of its fault. -/
theorem ensures_of_forall
    (hok : ∀ answer after, evaluation.run.run workspace = (.ok answer, after) →
      answered answer after)
    (herror : ∀ fault after, evaluation.run.run workspace = (.error fault, after) →
      failed fault after) : evaluation.Ensures workspace answered failed := by
  rw [Ensures]
  split
  next answer after h => exact hok answer after h
  next fault after h => exact herror fault after h

/-- An evaluation that answers ensures what holds of its answer. -/
theorem ensures_of_ok {answer : α} (hrun : evaluation.run.run workspace = (.ok answer, after))
    (h : answered answer after) : evaluation.Ensures workspace answered failed := by
  rw [Ensures, hrun]
  exact h

/-- An evaluation that does not fail gives an answer. -/
theorem Ensures.exists_ok (h : evaluation.Ensures workspace answered fun _ _ => False) :
    ∃ answer after, evaluation.run.run workspace = (.ok answer, after) ∧ answered answer after := by
  rcases hrun : evaluation.run.run workspace with ⟨fault | answer, after⟩
  · exact (h.of_error hrun).elim
  · exact ⟨answer, after, rfl, h.of_ok hrun⟩

/-- An evaluation ensures that it ran as it did. -/
theorem ensures_run : evaluation.Ensures workspace
    (fun answer after => evaluation.run.run workspace = (.ok answer, after))
    fun fault after => evaluation.run.run workspace = (.error fault, after) :=
  ensures_of_forall (fun _ _ hrun => hrun) fun _ _ hrun => hrun

/-- Weaker postconditions are ensured as well. -/
theorem Ensures.mono (h : evaluation.Ensures workspace answered failed)
    (hok : ∀ answer after, answered answer after → answered' answer after)
    (herror : ∀ fault after, failed fault after → failed' fault after) :
    evaluation.Ensures workspace answered' failed' :=
  ensures_of_forall (fun _ _ hrun => hok _ _ (h.of_ok hrun))
    fun _ _ hrun => herror _ _ (h.of_error hrun)

/-- Two postconditions that are ensured hold together. -/
theorem Ensures.and (h : evaluation.Ensures workspace answered failed)
    (h' : evaluation.Ensures workspace answered' failed') :
    evaluation.Ensures workspace (fun answer after => answered answer after ∧ answered' answer after)
      (fun fault after => failed fault after ∧ failed' fault after) :=
  ensures_of_forall (fun _ _ hrun => ⟨h.of_ok hrun, h'.of_ok hrun⟩)
    fun _ _ hrun => ⟨h.of_error hrun, h'.of_error hrun⟩

@[simp] theorem ensures_pure {answer : α} :
    (pure answer : Eval α).Ensures workspace answered failed ↔ answered answer workspace :=
  Iff.rfl

@[simp] theorem ensures_throw {fault : Fault} :
    (throw fault : Eval α).Ensures workspace answered failed ↔ failed fault workspace :=
  Iff.rfl

@[simp] theorem ensures_get {answered : Workspace → Workspace → Prop} :
    (get : Eval Workspace).Ensures workspace answered failed ↔ answered workspace workspace :=
  Iff.rfl

@[simp] theorem ensures_set {answered : PUnit → Workspace → Prop} :
    (set after : Eval PUnit).Ensures workspace answered failed ↔ answered ⟨⟩ after :=
  Iff.rfl

@[simp] theorem ensures_modify {change : Workspace → Workspace}
    {answered : PUnit → Workspace → Prop} :
    (modify change : Eval PUnit).Ensures workspace answered failed ↔
      answered ⟨⟩ (change workspace) :=
  Iff.rfl

/-- A computation without workspace ensures what holds of its outcome. -/
@[simp] theorem ensures_lift {outcome : Except Fault α} :
    (liftM outcome : Eval α).Ensures workspace answered failed ↔
      (∀ answer, outcome = .ok answer → answered answer workspace) ∧
        ∀ fault, outcome = .error fault → failed fault workspace := by
  cases outcome with
  | error fault =>
    change failed fault workspace ↔ _
    simp
  | ok answer =>
    change answered answer workspace ↔ _
    simp

/-- A computation that cannot fail ensures what holds of its answer. -/
@[simp] theorem ensures_state {step : StateM Workspace α} :
    (liftM step : Eval α).Ensures workspace answered failed ↔
      answered (step.run workspace).1 (step.run workspace).2 :=
  Iff.rfl

/-- A composed evaluation runs its second part where its first part answered. -/
theorem run_bind {next : α → Eval β} : (evaluation >>= next).run.run workspace =
    match evaluation.run.run workspace with
    | (.ok answer, after) => (next answer).run.run after
    | (.error fault, after) => (.error fault, after) := by
  change (evaluation.run >>= ExceptT.bindCont next).run workspace = _
  rw [StateT.run_bind]
  change (match evaluation.run.run workspace with | (a, s) => _) = _
  rcases evaluation.run.run workspace with ⟨_ | _, _⟩ <;> rfl

/-- A composed evaluation answers exactly when both parts do. -/
theorem run_bind_eq_ok {next : α → Eval β} {answer : β} :
    (evaluation >>= next).run.run workspace = (.ok answer, after) ↔
      ∃ first between, evaluation.run.run workspace = (.ok first, between) ∧
        (next first).run.run between = (.ok answer, after) := by
  rw [run_bind]
  rcases evaluation.run.run workspace with ⟨_ | first, between⟩
  · constructor
    · exact nofun
    · rintro ⟨_, _, ⟨⟩, _⟩
  · constructor
    · exact fun h => ⟨first, between, rfl, h⟩
    · rintro ⟨_, _, ⟨⟩, h⟩
      exact h

/-- A composed evaluation ensures what its second part does after its first. -/
@[simp] theorem ensures_bind {next : α → Eval β} {answered : β → Workspace → Prop} :
    (evaluation >>= next).Ensures workspace answered failed ↔
      evaluation.Ensures workspace
        (fun answer after => (next answer).Ensures after answered failed) failed := by
  rw [Ensures, run_bind, Ensures]
  rcases evaluation.run.run workspace with ⟨_ | _, _⟩ <;> rfl

/-- Evaluations that go on alike after whatever the first part ensures run alike. -/
theorem run_bind_congr {first next : α → Eval β}
    (h : evaluation.Ensures workspace answered failed)
    (hnext : ∀ answer after, answered answer after →
      (first answer).run.run after = (next answer).run.run after) :
    (evaluation >>= first).run.run workspace = (evaluation >>= next).run.run workspace := by
  rw [run_bind, run_bind]
  rcases hrun : evaluation.run.run workspace with ⟨_ | answer, after⟩
  · rfl
  · exact hnext answer after (h.of_ok hrun)

end Eval

end Stratalog
