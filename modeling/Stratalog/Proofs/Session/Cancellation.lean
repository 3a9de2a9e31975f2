import Stratalog.Proofs.Session.Reachable

/-!
# Cancelled sessions

Once every checkpoint finds a session cancelled, its operations pass checkpoints and count queries, and
do nothing else: no stratum is finished, and no query that was prepared is answered.
-/

namespace Stratalog

open Eval

/-- Every checkpoint from now on finds an evaluation cancelled. -/
def Context.IsCancelled (context : Context) (workspace : Workspace) : Prop :=
  ∀ n, workspace.checkpoints ≤ n → (context.cancelled || (context.observe n).cancelled) = true

namespace Workspace

/-- One workspace differs from another in what was counted only, and in having passed more
checkpoints. -/
def Idles (before after : Workspace) : Prop :=
  ∃ checkpoints counters, before.checkpoints ≤ checkpoints ∧
    after = { before with checkpoints, counters }

variable {before after last : Workspace}

theorem Idles.refl (workspace : Workspace) : workspace.Idles workspace :=
  ⟨_, _, le_rfl, rfl⟩

theorem Idles.trans (h : before.Idles after) (h' : after.Idles last) : before.Idles last := by
  obtain ⟨checkpoints, counters, hle, rfl⟩ := h
  obtain ⟨checkpoints', counters', hle', rfl⟩ := h'
  exact ⟨checkpoints', counters', hle.trans hle', rfl⟩

/-- A workspace that idles publishes nothing. -/
theorem Idles.published?_eq (h : before.Idles after) (name : String) :
    after.published? name = before.published? name := by
  obtain ⟨checkpoints, counters, -, rfl⟩ := h
  rfl

/-- Whoever was cancelled stays so. -/
theorem Idles.isCancelled {context : Context} (h : before.Idles after)
    (hcancelled : context.IsCancelled before) : context.IsCancelled after := by
  obtain ⟨checkpoints, counters, hle, rfl⟩ := h
  exact fun n hn => hcancelled n (hle.trans hn)

end Workspace

variable {context : Context} {workspace after : Workspace} {program : Program}
  {strata : Stratification} {failures : Session.Failures} {ids : List Nat} {i : Nat}

/-- The next checkpoint stops an evaluation that is cancelled. -/
theorem Context.IsCancelled.ensures_pass (h : context.IsCancelled workspace) :
    context.pass.Ensures workspace (fun _ _ => False)
      fun fault after => workspace.Idles after ∧ fault = .cancelled := by
  have hcancelled := h workspace.checkpoints le_rfl
  have hcheck : (context.noticing (context.observe workspace.checkpoints)).checkpoint =
      .error .cancelled := by
    rw [checkpoint, checkCancelled, noticing, if_pos hcancelled]
    rfl
  unfold pass
  simp only [ensures_bind, ensures_get, ensures_modify, hcheck, ensures_lift]
  refine ⟨by rintro _ ⟨⟩, ?_⟩
  rintro _ ⟨⟩
  exact ⟨⟨_, _, Nat.le_succ _, rfl⟩, rfl⟩

/-- What begins with a checkpoint is stopped by it once cancelled. -/
theorem Context.IsCancelled.ensures_pass_bind {α : Type} (h : context.IsCancelled workspace)
    (next : Unit → Eval α) : (context.pass >>= next).Ensures workspace (fun _ _ => False)
      fun fault after => workspace.Idles after ∧ fault = .cancelled := by
  rw [ensures_bind]
  exact h.ensures_pass.mono (fun _ _ => False.elim) fun _ _ => id

namespace Session

/-- A failure that is found is a cancellation when all are. -/
theorem isCancelled_of_firstFailure? {fault : Fault}
    (hfailures : ∀ entry ∈ failures, entry.2 = .cancelled)
    (hfound : firstFailure? failures ids = some fault) : fault = .cancelled := by
  obtain ⟨i, -, hlookup⟩ := List.exists_of_findSome?_eq_some hfound
  obtain ⟨before, after, rfl, -⟩ := List.lookup_eq_some_iff.1 hlookup
  exact hfailures (i, fault) (List.mem_append_right _ List.mem_cons_self)

/-- A stratum that is not finished is cancelled. -/
theorem ensures_ensureStratum_of_isCancelled [PatternEngine] (h : context.IsCancelled workspace)
    (program : Program) (strata : Stratification) (i : Nat) :
    (ensureStratum program strata context i).Ensures workspace
      (fun _ after => workspace.Idles after)
      fun fault after => workspace.Idles after ∧ fault = .cancelled := by
  unfold ensureStratum
  rw [ensures_bind, ensures_get]
  split
  · exact .refl workspace
  · exact (h.ensures_pass_bind _).mono (fun _ _ => False.elim) fun _ _ => id

/-- Going through strata once cancelled finishes none, and records cancellations only. -/
theorem evaluateEach_of_isCancelled [PatternEngine] (h : context.IsCancelled workspace)
    (hfailures : ∀ entry ∈ failures, entry.2 = .cancelled) :
    ∃ found after, (evaluateEach program strata context failures ids).run workspace =
      (found, after) ∧ workspace.Idles after ∧ ∀ entry ∈ found, entry.2 = .cancelled := by
  induction ids generalizing failures workspace with
  | nil => exact ⟨_, _, rfl, .refl _, hfailures⟩
  | cons i rest ih =>
    have hrecord : ∀ entry ∈ failures ++ [(i, Fault.cancelled)], entry.2 = .cancelled := by
      simpa [or_imp, forall_and] using hfailures
    rw [evaluateEach]
    cases hfailure : firstFailure? failures (strata.stratum i).dependsOn with
    | some fault =>
      obtain rfl := isCancelled_of_firstFailure? hfailures hfailure
      exact ih h hrecord
    | none =>
      have hensures := ensures_ensureStratum_of_isCancelled h program strata i
      rw [StateT.run_bind]
      rcases hrun : (ensureStratum program strata context i).run.run workspace with
        ⟨fault | answer, after⟩
      · obtain ⟨hidles, rfl⟩ := hensures.of_error hrun
        obtain ⟨found, last, hlast, hrest, hfound⟩ := ih (hidles.isCancelled h) hrecord
        exact ⟨found, last, hlast, hidles.trans hrest, hfound⟩
      · have hidles := hensures.of_ok hrun
        obtain ⟨found, last, hlast, hrest, hfound⟩ := ih (hidles.isCancelled h) hfailures
        exact ⟨found, last, hlast, hidles.trans hrest, hfound⟩

/-- Evaluating strata once cancelled finishes none, and records cancellations only. -/
theorem evaluateStrata_of_isCancelled [PatternEngine] (h : context.IsCancelled workspace)
    (program : Program)
    (strata : Stratification) (ids : List Nat) :
    ∃ found after, (evaluateStrata program strata context ids).run workspace = (found, after) ∧
      workspace.Idles after ∧ ∀ entry ∈ found, entry.2 = .cancelled := by
  unfold evaluateStrata
  rw [StateT.run_bind]
  change ∃ found after, StateT.run (if ids.all (isPublished strata workspace) = true then return []
    else evaluateEach program strata context [] ids) workspace = (found, after) ∧ _
  split
  · exact ⟨_, _, rfl, .refl _, by simp⟩
  · exact evaluateEach_of_isCancelled h (by simp)

/-- Every checkpoint from now on finds a session cancelled. -/
def IsCancelled (session : Session) : Prop :=
  session.context.IsCancelled session.workspace

/-- A session differs from another in what was counted only, and in having passed more
checkpoints. -/
def Idles (session next : Session) : Prop :=
  ∃ workspace, session.workspace.Idles workspace ∧ next = { session with workspace }

variable {session next last : Session} {query : Query} {prepared : PreparedQuery} {name : String}

theorem Idles.refl (session : Session) : session.Idles session :=
  ⟨_, .refl _, rfl⟩

theorem Idles.trans (h : session.Idles next) (h' : next.Idles last) : session.Idles last := by
  obtain ⟨workspace, hidles, rfl⟩ := h
  obtain ⟨workspace', hidles', rfl⟩ := h'
  exact ⟨workspace', hidles.trans hidles', rfl⟩

/-- A session that idles stays cancelled. -/
theorem Idles.isCancelled (h : session.Idles next) (hcancelled : session.IsCancelled) :
    next.IsCancelled := by
  obtain ⟨workspace, hidles, rfl⟩ := h
  exact hidles.isCancelled hcancelled

/-- A session that idles prepares queries as before. -/
theorem Idles.prepare_eq [PatternEngine] (h : session.Idles next) (query : Query) :
    next.prepare query = session.prepare query := by
  obtain ⟨workspace, -, rfl⟩ := h
  rfl

/-- Counting a query does nothing else. -/
theorem idles_countQuery (session : Session) (succeeded : Bool) :
    session.Idles (session.countQuery succeeded) :=
  ⟨_, ⟨_, _, le_rfl, rfl⟩, rfl⟩

namespace IsCancelled

/-- An evaluation of a cancelled session ends as it ensures. -/
theorem perform {α : Type} {evaluation : Eval α} {good : α → Prop} {bad : Fault → Prop}
    (hensures : evaluation.Ensures session.workspace
      (fun answer after => session.workspace.Idles after ∧ good answer)
      fun fault after => session.workspace.Idles after ∧ bad fault) :
    session.Idles (session.perform evaluation).2 ∧
      (∀ answer, (session.perform evaluation).1 = .ok answer → good answer) ∧
        ∀ fault, (session.perform evaluation).1 = .error fault → bad fault := by
  obtain ⟨outcome, after, hperform, hok, herror⟩ := perform_of_ensures hensures
  rw [hperform]
  refine ⟨⟨after, ?_, rfl⟩, fun answer heq => (hok answer heq).2, fun fault heq => (herror fault heq).2⟩
  cases outcome with
  | ok answer => exact (hok answer rfl).1
  | error fault => exact (herror fault rfl).1

/-- An evaluation of a cancelled session that begins with a checkpoint is stopped by it. -/
theorem perform_pass (h : session.IsCancelled) {α : Type} (next : Unit → Eval α) :
    session.Idles (session.perform (session.context.pass >>= next)).2 ∧
      (session.perform (session.context.pass >>= next)).1 = .error .cancelled := by
  have hensures : (session.context.pass >>= next).Ensures session.workspace
      (fun _ after => session.workspace.Idles after ∧ False)
      fun fault after => session.workspace.Idles after ∧ fault = .cancelled :=
    (Context.IsCancelled.ensures_pass_bind h next).mono (fun _ _ => False.elim) fun _ _ => id
  obtain ⟨hidles, hok, herror⟩ := perform hensures
  refine ⟨hidles, ?_⟩
  cases houtcome : (session.perform (session.context.pass >>= next)).1 with
  | ok answer => exact absurd (hok answer houtcome) not_false
  | error fault => rw [herror fault houtcome]

variable [PatternEngine]

/-- A prepared query is not evaluated. -/
theorem execute (h : session.IsCancelled) (prepared : PreparedQuery) :
    session.Idles (session.execute prepared).2 ∧
      (session.execute prepared).1 = .error .cancelled :=
  h.perform_pass _

/-- A query is prepared and not evaluated. -/
theorem run (h : session.IsCancelled) (query : Query) : session.Idles (session.run query).2 ∧
    ∀ prepared, session.prepare query = .ok prepared →
      (session.run query).1 = .error .cancelled := by
  unfold Session.run
  cases hprepare : session.prepare query with
  | error fault => exact ⟨session.idles_countQuery false, fun _ heq => by cases heq⟩
  | ok prepared =>
    obtain ⟨hidles, hcancelled⟩ := h.execute prepared
    exact ⟨hidles.trans (idles_countQuery _ _), fun _ _ => hcancelled⟩

/-- The query of a name is not evaluated. -/
theorem runNamed (h : session.IsCancelled) (name : String) :
    session.Idles (session.runNamed name).2 := by
  unfold Session.runNamed
  split
  · exact (h.run _).1
  · exact .refl session

/-- A query of a batch is not evaluated. -/
theorem answer (h : session.IsCancelled) (hfailures : ∀ entry ∈ failures, entry.2 = .cancelled)
    (query : Query) : session.Idles (session.answer failures query).2 ∧
      ∀ prepared, session.prepare query = .ok prepared →
        (session.answer failures query).1.result = .error .cancelled := by
  unfold Session.answer
  cases hprepare : session.prepare query with
  | error fault => exact ⟨session.idles_countQuery false, fun _ heq => by cases heq⟩
  | ok prepared =>
    cases hfailure : firstFailure? failures prepared.strata with
    | some fault =>
      obtain rfl := isCancelled_of_firstFailure? hfailures hfailure
      simp only [hfailure]
      exact ⟨session.idles_countQuery _, fun _ _ => trivial⟩
    | none =>
      obtain ⟨hidles, hcancelled⟩ :=
        h.perform_pass fun _ => evaluateQuery session.context prepared
      simp only [hfailure]
      exact ⟨hidles.trans (idles_countQuery _ _), fun _ _ => hcancelled⟩

/-- The queries of a batch are not evaluated. -/
theorem answerAll (h : session.IsCancelled)
    (hfailures : ∀ entry ∈ failures, entry.2 = .cancelled) (queries : List Query) :
    session.Idles (Session.answerAll failures session queries).2 ∧
      List.Forall₂ (fun query (outcome : QueryOutcome) => ∀ prepared,
        session.prepare query = .ok prepared → outcome.result = .error .cancelled) queries
        (Session.answerAll failures session queries).1 := by
  induction queries generalizing session with
  | nil => exact ⟨.refl session, .nil⟩
  | cons query rest ih =>
    obtain ⟨hidles, houtcome⟩ := h.answer hfailures query
    obtain ⟨hrest, houtcomes⟩ := ih (hidles.isCancelled h)
    refine ⟨hidles.trans hrest, .cons houtcome (houtcomes.imp fun other _ hother => ?_)⟩
    rwa [hidles.prepare_eq other] at hother

/-- No query of a batch is evaluated. -/
theorem runAll (h : session.IsCancelled) : session.Idles session.runAll.2 ∧
    List.Forall₂ (fun query (outcome : QueryOutcome) => ∀ prepared,
      session.prepare query = .ok prepared → outcome.result = .error .cancelled)
      session.program.queries session.runAll.1.outcomes := by
  obtain ⟨failures, workspace, hrun, hidles, hfailures⟩ :=
    evaluateStrata_of_isCancelled h session.program session.strata session.neededStrata
  have hnext : session.Idles { session with workspace } := ⟨workspace, hidles, rfl⟩
  obtain ⟨hrest, houtcomes⟩ :=
    (hnext.isCancelled h).answerAll hfailures session.program.queries
  unfold Session.runAll
  dsimp only
  rw [hrun]
  exact ⟨hnext.trans hrest, houtcomes⟩

/-- A relation that is asked for is not evaluated. -/
theorem relation (h : session.IsCancelled) (name : String) :
    session.Idles (session.relation name).2 := by
  have hensures : (do
      session.checkStrata (session.strata.required [name])
      materialize session.program session.strata session.context (session.strata.required [name])
      (← get).resolve name : Eval Relation).Ensures session.workspace
      (fun _ after => session.workspace.Idles after ∧ True)
      fun _ after => session.workspace.Idles after ∧ True := by
    rw [ensures_bind, ensures_lift]
    refine ⟨fun _ _ => ?_, fun _ _ => ⟨.refl _, trivial⟩⟩
    obtain ⟨failures, workspace, hrun, hidles, -⟩ :=
      evaluateStrata_of_isCancelled h session.program session.strata
        (session.strata.required [name])
    unfold materialize
    rw [ensures_bind, ensures_bind, ensures_state, hrun]
    dsimp only
    split
    · exact ⟨hidles, trivial⟩
    · simp only [ensures_pure, ensures_bind, ensures_get, ensures_lift]
      exact ⟨fun _ _ => ⟨hidles, trivial⟩, fun _ _ => ⟨hidles, trivial⟩⟩
  unfold Session.relation
  split
  · exact (perform hensures).1
  · exact .refl session

end IsCancelled

end Session

end Stratalog
