import Stratalog.Proofs.Postcondition
import Stratalog.Session

/-!
# What evaluations do not count

Only finishing a stratum adds to the numbers of strata, predicates and tuples. Whatever else an
evaluation does, whether it gives an answer or a fault, it leaves these three as they are. A round of
the fixpoint passes one checkpoint as it begins, and none inside.
-/

namespace Stratalog

/-- The numbers of finished strata, of finished predicates and of derived tuples. -/
def Counters.tally (counters : Counters) : Nat × Nat × Nat :=
  (counters.strataEvaluated, counters.predicatesEvaluated, counters.tuplesDerived)

/-- The numbers of what is finished in a workspace. -/
def Workspace.tally (workspace : Workspace) : Nat × Nat × Nat :=
  workspace.counters.tally

/-- Putting a relation back counts nothing. -/
@[simp] theorem Workspace.counters_keep (workspace : Workspace) (name : String) (delta : Bool)
    (relation : Relation) : (workspace.keep name delta relation).counters = workspace.counters := by
  unfold keep
  split
  · rfl
  · split
    · split <;> rfl
    · split <;> rfl

/-- Putting a relation back passes no checkpoint. -/
@[simp] theorem Workspace.checkpoints_keep (workspace : Workspace) (name : String) (delta : Bool)
    (relation : Relation) :
    (workspace.keep name delta relation).checkpoints = workspace.checkpoints := by
  unfold keep
  split
  · rfl
  · split
    · split <;> rfl
    · split <;> rfl

/-- The tally of a workspace, and the number of checkpoints passed. -/
def Workspace.marks (workspace : Workspace) : (Nat × Nat × Nat) × Nat :=
  (workspace.tally, workspace.checkpoints)

variable {α β γ : Type}

/-- Whether an evaluation leaves a view of the workspace as it is, however it ends. -/
def Eval.Leaves (view : Workspace → γ) (evaluation : Eval α) : Prop :=
  ∀ workspace, view (evaluation.run.run workspace).2 = view workspace

/-- Whether an evaluation leaves the tally as it is, however it ends. -/
def Eval.Uncounted (evaluation : Eval α) : Prop :=
  ∀ workspace, (evaluation.run.run workspace).2.tally = workspace.tally

namespace Eval

variable {evaluation : Eval α} {workspace : Workspace} {view : Workspace → γ}

/-- An evaluation that leaves a view ensures that it does. -/
theorem Leaves.ensures (h : evaluation.Leaves view) (workspace : Workspace) :
    evaluation.Ensures workspace (fun _ after => view after = view workspace)
      fun _ after => view after = view workspace := by
  have hview := h workspace
  exact ensures_of_forall (fun _ _ hrun => by rwa [hrun] at hview)
    fun _ _ hrun => by rwa [hrun] at hview

/-- An evaluation that leaves the tally ensures that it does. -/
theorem Uncounted.ensures (h : evaluation.Uncounted) (workspace : Workspace) :
    evaluation.Ensures workspace (fun _ after => after.tally = workspace.tally)
      fun _ after => after.tally = workspace.tally :=
  Leaves.ensures h workspace

/-- An evaluation that leaves the marks leaves the tally. -/
theorem Leaves.tally (h : evaluation.Leaves Workspace.marks) : evaluation.Leaves Workspace.tally :=
  fun workspace => congrArg Prod.fst (h workspace)

/-- An evaluation that leaves the marks passes no checkpoint. -/
theorem Leaves.checkpoints (h : evaluation.Leaves Workspace.marks) :
    evaluation.Leaves Workspace.checkpoints :=
  fun workspace => congrArg Prod.snd (h workspace)

theorem leaves_pure (answer : α) : (pure answer : Eval α).Leaves view :=
  fun _ => rfl

theorem leaves_throw (fault : Fault) : (throw fault : Eval α).Leaves view :=
  fun _ => rfl

theorem leaves_get : (get : Eval Workspace).Leaves view :=
  fun _ => rfl

/-- A computation without workspace leaves everything. -/
theorem leaves_lift (outcome : Except Fault α) : (liftM outcome : Eval α).Leaves view := by
  cases outcome <;> exact fun _ => rfl

/-- A composed evaluation leaves what both parts do. -/
theorem Leaves.bind (h : evaluation.Leaves view) {next : α → Eval β}
    (hnext : ∀ answer, (next answer).Leaves view) : (evaluation >>= next).Leaves view := by
  intro workspace
  rw [run_bind]
  have hfirst := h workspace
  split
  next answer after hrun =>
    rw [hrun] at hfirst
    exact (hnext answer after).trans hfirst
  next fault after hrun =>
    rw [hrun] at hfirst
    exact hfirst

/-- A change that leaves the view may come first. -/
theorem leaves_modify_bind {change : Workspace → Workspace} {next : PUnit → Eval α}
    (h : ∀ workspace, view (change workspace) = view workspace)
    (hnext : ∀ answer, (next answer).Leaves view) : (modify change >>= next : Eval α).Leaves view :=
  @Leaves.bind _ _ _ (modify change) view h next hnext

end Eval

open Eval

variable {context : Context} {rows : List Row}

/-- Passing a checkpoint leaves the tally. -/
theorem Context.leaves_pass (context : Context) : context.pass.Leaves Workspace.tally := by
  unfold pass
  exact leaves_get.bind fun _ => leaves_modify_bind (fun _ => rfl) fun _ => leaves_lift _

/-- What passes a checkpoint first, and none later, passes one, however it ends. -/
theorem Context.checkpoints_pass_bind (context : Context) {next : Unit → Eval α}
    (hnext : ∀ answer, (next answer).Leaves Workspace.checkpoints) (workspace : Workspace) :
    ((context.pass >>= next).run.run workspace).2.checkpoints = workspace.checkpoints + 1 := by
  have hone : (context.pass.run.run workspace).2.checkpoints = workspace.checkpoints + 1 :=
    @leaves_lift _ _ Workspace.checkpoints _
      { workspace with checkpoints := workspace.checkpoints + 1 }
  rw [run_bind]
  split
  next answer after hrun =>
    rw [hrun] at hone
    exact (hnext answer after).trans hone
  next fault after hrun =>
    rw [hrun] at hone
    exact hone

/-- Passing a checkpoint counts nothing that is finished. -/
theorem Context.uncounted_pass (context : Context) : context.pass.Uncounted :=
  context.leaves_pass

namespace Evaluation

theorem leaves_noteBounds (fits : Bool) : (noteBounds fits).Leaves Workspace.marks :=
  fun _ => rfl

/-- Joining with an atom leaves the marks if putting the relation back passes no checkpoint. -/
theorem leaves_joinAtom {relation : Relation} {args : List ArgSlot}
    {keep : Relation → Workspace → Workspace}
    (hkeep : ∀ held w, (keep held w).checkpoints = w.checkpoints) :
    (joinAtom context rows relation args keep).Leaves Workspace.marks := by
  unfold joinAtom
  refine (leaves_noteBounds _).bind fun _ =>
    leaves_modify_bind (fun w => congrArg (w.tally, ·) (hkeep _ w)) fun _ => ?_
  have hlast : ∀ rows : List Row, (do
      context.checkSize rows.length relation.name
      return rows : Eval (List Row)).Leaves Workspace.marks := fun rows =>
    (leaves_lift _).bind fun _ => leaves_pure _
  dsimp only
  split
  · exact (leaves_throw _).bind fun _ => hlast _
  · exact hlast _

/-- Rejecting the partners of an atom leaves the marks. -/
theorem leaves_rejectAtom (rows : List Row) (predicate : String) (args : List ArgSlot) :
    (rejectAtom rows predicate args).Leaves Workspace.marks := by
  unfold rejectAtom
  refine leaves_get.bind fun _ => (leaves_lift _).bind fun _ =>
    (leaves_noteBounds _).bind fun _ => ?_
  refine leaves_modify_bind (fun w => ?_) fun _ => leaves_pure _
  rw [Workspace.marks, Workspace.tally, Workspace.counters_keep, Workspace.checkpoints_keep]
  rfl

mutual

/-- Taking a step leaves the marks. -/
theorem leaves_runStep (context : Context) (rows : List Row) :
    (step : Step) → (runStep context rows step).Leaves Workspace.marks
  | .join predicate delta args => by
    rw [runStep]
    exact leaves_get.bind fun _ => (leaves_lift _).bind fun _ =>
      leaves_joinAtom fun held w => w.checkpoints_keep predicate delta held
  | .fold label function inner keys target args => by
    rw [runStep]
    exact (leaves_runSteps context [[]] inner).bind fun _ =>
      (leaves_noteBounds _).bind fun _ => leaves_joinAtom fun _ _ => rfl
  | .negate predicate args => by
    rw [runStep]
    exact leaves_rejectAtom rows predicate args
  | .filter test => by
    rw [runStep]
    exact (leaves_noteBounds _).bind fun _ => leaves_pure _
  | .bind expr => by
    rw [runStep]
    exact (leaves_noteBounds _).bind fun _ => leaves_pure _

/-- Taking steps leaves the marks. -/
theorem leaves_runSteps (context : Context) (rows : List Row) :
    (steps : List Step) → (runSteps context rows steps).Leaves Workspace.marks
  | [] => by
    rw [runSteps]
    exact leaves_pure _
  | step :: rest => by
    rw [runSteps]
    split
    · exact leaves_pure _
    · exact (leaves_runStep context rows step).bind fun rows =>
        leaves_runSteps context rows rest

end

/-- Running a plan leaves the marks. -/
theorem leaves_runPlan (context : Context) (plan : Plan) :
    (runPlan context plan).Leaves Workspace.marks := by
  unfold runPlan
  exact (leaves_runSteps context _ _).bind fun _ =>
    (leaves_noteBounds _).bind fun _ => leaves_pure _

/-- Evaluating a rule leaves the marks. -/
theorem leaves_evaluateRule [PatternEngine] (context : Context) (rule : Rule) (deltaAt : Option Nat) :
    (evaluateRule context rule deltaAt).Leaves Workspace.marks := by
  unfold evaluateRule
  exact leaves_get.bind fun _ => (leaves_lift _).bind fun _ =>
    (leaves_runPlan context _).bind fun _ => (leaves_noteBounds _).bind fun _ =>
      leaves_lift _

/-- Adding the rows that a member does not hold leaves the marks. -/
theorem leaves_addNew (name : String) (fresh : Fresh) (rows : List Row) :
    (addNew name fresh rows).Leaves Workspace.marks := by
  induction rows generalizing fresh with
  | nil => exact leaves_pure _
  | cons row rest ih =>
    rw [addNew]
    refine leaves_get.bind fun _ => ?_
    dsimp only
    split
    · exact (leaves_pure _).bind fun _ => ih _
    · exact leaves_modify_bind (fun _ => rfl) fun _ => (leaves_pure _).bind fun _ => ih _

/-- Deriving through the growth of members leaves the marks. -/
theorem leaves_deriveAt [PatternEngine] (context : Context) (name : String) (rule : Rule) (fresh : Fresh)
    (positions : List Nat) : (deriveAt context name rule fresh positions).Leaves Workspace.marks := by
  induction positions generalizing fresh with
  | nil => exact leaves_pure _
  | cons position rest ih =>
    rw [deriveAt]
    refine leaves_get.bind fun _ => ?_
    split
    · exact ih _
    · exact (leaves_evaluateRule context rule _).bind fun _ =>
        (leaves_addNew name _ _).bind fun _ => ih _

/-- Deriving by the rules of a member leaves the marks. -/
theorem leaves_deriveRules [PatternEngine] (context : Context) (members : List String) (name : String)
    (fresh : Fresh) (rules : List Rule) :
    (deriveRules context members name fresh rules).Leaves Workspace.marks := by
  induction rules generalizing fresh with
  | nil => exact leaves_pure _
  | cons rule rest ih =>
    rw [deriveRules]
    exact (leaves_deriveAt context name rule _ _).bind fun _ => ih _

/-- A later round leaves the marks. -/
theorem leaves_deriveRound [PatternEngine] (context : Context) (members : List String)
    (predicates : List Predicate) :
    (deriveRound context members predicates).Leaves Workspace.marks := by
  induction predicates with
  | nil => exact leaves_pure _
  | cons predicate rest ih =>
    rw [deriveRound]
    exact (leaves_deriveRules context members _ _ _).bind fun _ => ih.bind fun _ =>
      leaves_pure _

/-- Deriving by the rules that read no member leaves the marks. -/
theorem leaves_startRules [PatternEngine] (context : Context) (members : List String) (fresh : Fresh)
    (rules : List Rule) : (startRules context members fresh rules).Leaves Workspace.marks := by
  induction rules generalizing fresh with
  | nil => exact leaves_pure _
  | cons rule rest ih =>
    rw [startRules]
    split
    · exact (leaves_evaluateRule context rule none).bind fun _ => ih _
    · exact ih _

/-- The first round leaves the marks. -/
theorem leaves_startRound [PatternEngine] (context : Context) (members : List String)
    (predicates : List Predicate) :
    (startRound context members predicates).Leaves Workspace.marks := by
  induction predicates with
  | nil => exact leaves_pure _
  | cons predicate rest ih =>
    rw [startRound]
    exact (leaves_startRules context members _ _).bind fun _ => (leaves_lift _).bind fun _ =>
      ih.bind fun _ => leaves_pure _

/-- Letting members grow leaves the marks. -/
theorem leaves_absorb (context : Context) (rows : RowsByName) :
    (absorb context rows).Leaves Workspace.marks := by
  induction rows with
  | nil => exact leaves_pure _
  | cons entry rest ih =>
    obtain ⟨name, rows⟩ := entry
    rw [absorb]
    refine leaves_get.bind fun _ => ?_
    dsimp only
    split
    · exact ih
    · exact leaves_modify_bind (fun _ => rfl) fun _ => (leaves_lift _).bind fun _ => ih

variable [PatternEngine]

/-- Opening the rounds counts nothing that is finished. -/
theorem leaves_openRounds (context : Context) (predicates : List Predicate) :
    (openRounds context predicates).Leaves Workspace.tally := by
  unfold openRounds
  exact context.leaves_pass.bind fun _ => (leaves_startRound context _ _).tally.bind fun _ =>
    (leaves_absorb context _).tally.bind fun _ => leaves_pure _

/-- A round counts nothing that is finished. -/
theorem leaves_nextRound (context : Context) (predicates : List Predicate) (rows : RowsByName) :
    (nextRound context predicates rows).Leaves Workspace.tally := by
  unfold nextRound
  exact context.leaves_pass.bind fun _ => leaves_modify_bind (fun _ => rfl) fun _ =>
    (leaves_deriveRound context _ _).tally.bind fun _ =>
      (leaves_absorb context _).tally.bind fun _ => leaves_pure _

/-- The first round passes one checkpoint. -/
theorem checkpoints_openRounds (context : Context) (predicates : List Predicate)
    (workspace : Workspace) :
    ((openRounds context predicates).run.run workspace).2.checkpoints = workspace.checkpoints + 1 := by
  unfold openRounds
  refine context.checkpoints_pass_bind (fun _ => ?_) workspace
  exact (leaves_startRound context _ _).checkpoints.bind fun _ =>
    (leaves_absorb context _).checkpoints.bind fun _ => leaves_pure _

/-- A later round passes one checkpoint. -/
theorem checkpoints_nextRound (context : Context) (predicates : List Predicate) (rows : RowsByName)
    (workspace : Workspace) :
    ((nextRound context predicates rows).run.run workspace).2.checkpoints =
      workspace.checkpoints + 1 := by
  unfold nextRound
  refine context.checkpoints_pass_bind (fun _ => ?_) workspace
  exact leaves_modify_bind (fun _ => rfl) fun _ =>
    (leaves_deriveRound context _ _).checkpoints.bind fun _ =>
      (leaves_absorb context _).checkpoints.bind fun _ => leaves_pure _

/-- Going from round to round counts nothing that is finished. -/
theorem leaves_iterate (context : Context) (stratum : Stratum) (predicates : List Predicate)
    (fuel rounds : Nat) (rows : RowsByName) :
    (iterate context stratum predicates fuel rounds rows).Leaves Workspace.tally := by
  induction fuel generalizing rounds rows with
  | zero =>
    rw [iterate]
    split
    · exact leaves_pure _
    · exact leaves_throw _
  | succ fuel ih =>
    rw [iterate]
    split
    · exact leaves_pure _
    · exact (leaves_nextRound context predicates rows).bind fun _ => ih _ _

/-- Evaluating a stratum counts nothing that is finished: it is not published yet. -/
theorem uncounted_evaluateStratum (context : Context) (stratum : Stratum)
    (predicates : List Predicate) : (evaluateStratum context stratum predicates).Uncounted := by
  have hgrow : (growStratum context stratum predicates).Leaves Workspace.tally := by
    unfold growStratum
    exact (leaves_openRounds context predicates).bind fun _ =>
      (leaves_iterate context stratum predicates _ _ _).bind fun _ =>
        leaves_get.bind fun _ => leaves_pure _
  exact fun workspace =>
    hgrow { workspace with growing := emptyMembers predicates, delta := ∅ }

end Evaluation

/-- Answering a query counts nothing that is finished. -/
theorem Session.uncounted_evaluateQuery [PatternEngine] (context : Context) (prepared : PreparedQuery) :
    (evaluateQuery context prepared).Uncounted := by
  have hquery : (evaluateQuery context prepared).Leaves Workspace.marks := by
    unfold evaluateQuery
    exact leaves_get.bind fun _ => (leaves_lift _).bind fun _ =>
      (Evaluation.leaves_runPlan context _).bind fun _ =>
        (Evaluation.leaves_noteBounds _).bind fun _ => (leaves_lift _).bind fun _ =>
          (leaves_lift _).bind fun _ => leaves_pure _
  exact hquery.tally

end Stratalog
