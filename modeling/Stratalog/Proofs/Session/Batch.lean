import Stratalog.Proofs.Session.Operations

/-!
# Queries in a batch

A batch evaluates the strata its queries need, each once and in order, before any query is answered.
A stratum that fails is recorded, and the queries that need it fail with its fault; every other query
is answered as it would be alone.
-/

namespace Stratalog

open Evaluation Eval

namespace Session

variable [PatternEngine] {session next : Session} {query : Query} {prepared : PreparedQuery}
  {ids : List Nat} {i : Nat} {name : String} {workspace after : Workspace} {failures : Failures}

/-- An outcome of a query, as far as a session has a say in it. -/
structure Reports (session : Session) (query : Query) (outcome : QueryOutcome) : Prop where
  name : outcome.query = query.name
  answered : ∀ result, outcome.result = .ok result → session.Entails query result
  failed : ∀ fault, outcome.result = .error fault → session.Excuses query fault

/-- Only the workspace changed, in any number of turns, and nothing published was lost from it. -/
structure Evolves (session next : Session) : Prop where
  sound : next.Sound
  frame : ∃ workspace, next = { session with workspace } ∧
    Workspace.Turns session.store session.program session.strata session.settings
      session.workspace workspace
  published : ∀ i, isPublished session.strata session.workspace i = true →
    isPublished session.strata next.workspace i = true

/-- Whether the strata of each listed query that can be prepared are finished, or recorded as
failed. -/
def Covers (session : Session) (failures : Failures) (queries : List Query) : Prop :=
  ∀ query ∈ queries, ∀ prepared, session.prepare query = .ok prepared → ∀ i ∈ prepared.strata,
    Concluded session.strata session.workspace failures i

/-- The strata that a batch needs. -/
theorem mem_neededStrata : i ∈ session.neededStrata ↔ ∃ query ∈ session.program.queries,
    ∃ prepared, session.prepare query = .ok prepared ∧ i ∈ prepared.strata := by
  simp only [neededStrata, Stratification.inOrder, List.mem_mergeSort, List.mem_eraseDups,
    List.mem_flatMap, List.mem_filterMap]
  constructor
  · rintro ⟨prepared, ⟨query, hquery, hprepared⟩, hi⟩
    cases hprepare : session.prepare query with
    | error fault =>
      rw [hprepare] at hprepared
      cases hprepared
    | ok found =>
      rw [hprepare] at hprepared
      cases hprepared
      exact ⟨query, hquery, prepared, hprepare, hi⟩
  · rintro ⟨query, hquery, prepared, hprepare, hi⟩
    exact ⟨prepared, ⟨query, hquery, by rw [hprepare]; rfl⟩, hi⟩

namespace Sound

/-- Counting a query is a turn that finishes nothing. -/
theorem advances_countQuery (h : session.Sound) (succeeded : Bool) :
    Advances session.store session.program session.strata session.settings session.workspace
      (session.countQuery succeeded).workspace :=
  Advances.of_kept h.upholds ((Workspace.Kept.refl h.upholds.serves.coherent).counted
    (session.workspace.counters.countQuery succeeded)) rfl

/-- Counting a query leaves a session sound. -/
theorem countQuery (h : session.Sound) (succeeded : Bool) : (session.countQuery succeeded).Sound :=
  h.with_workspace (h.advances_countQuery succeeded).upholds

/-- The strata that a batch needs are clean, and listed each after those it depends on. -/
theorem neededStrata_spec (h : session.Sound) :
    session.strata.Scheduled session.neededStrata ∧ ∀ i ∈ session.neededStrata,
      i < session.strata.strata.length ∧
        session.strata.Clean session.store session.program i := by
  have hids : ∀ i ∈ session.neededStrata, i < session.strata.strata.length ∧
      session.strata.Clean session.store session.program i := by
    intro i hi
    obtain ⟨query, -, prepared, hprepare, hi⟩ := mem_neededStrata.1 hi
    obtain ⟨-, -, hstrata, hcheck⟩ := prepare_eq_ok hprepare
    rw [hstrata] at hcheck hi
    exact (h.required hcheck).2 i hi
  have hmem (i : Nat) : i ∈ session.neededStrata ↔ i ∈ ((session.program.queries.filterMap
      fun query => (session.prepare query).toOption).flatMap PreparedQuery.strata).eraseDups := by
    simp only [neededStrata, Stratification.inOrder, List.mem_mergeSort]
  refine ⟨h.accepted.sound.scheduled_inOrder (fun i hi => (hids i ((hmem i).2 hi)).1)
    fun i hi d hd => (hmem d).1 ?_, hids⟩
  obtain ⟨query, hquery, prepared, hprepare, hi⟩ := mem_neededStrata.1 ((hmem i).2 hi)
  obtain ⟨-, -, hstrata, -⟩ := prepare_eq_ok hprepare
  obtain ⟨-, -, hclosed, -⟩ := h.accepted.sound.required_spec query.reads
  rw [hstrata] at hi
  exact mem_neededStrata.2 ⟨query, hquery, prepared, hprepare, hstrata ▸ hclosed i hi d hd⟩

/-- A prepared query of a batch whose strata are published is answered as every model says. -/
theorem evolves_evaluateQuery (h : session.Sound) (hprepare : session.prepare query = .ok prepared)
    (hpublished : ∀ i ∈ prepared.strata, isPublished session.strata session.workspace i = true) :
    ∃ outcome after, session.perform (do
        session.context.pass
        evaluateQuery session.context prepared) = (outcome, { session with workspace := after }) ∧
      Advances session.store session.program session.strata session.settings session.workspace after ∧
      (∀ result, outcome = .ok result → session.Entails query result) ∧
      ∀ fault, outcome = .error fault → session.context.Stops fault := by
  have hensures : (do session.context.pass; evaluateQuery session.context prepared : Eval _).Ensures
      session.workspace
      (fun result after =>
        Advances session.store session.program session.strata session.settings session.workspace after ∧
          session.Entails query result)
      fun fault after =>
        Advances session.store session.program session.strata session.settings session.workspace after ∧
          session.context.Stops fault := by
    rw [ensures_bind]
    refine (ensures_pass_advances h.upholds session.context).mono (fun _ start hstart => ?_)
      fun _ _ => id
    obtain ⟨-, hstart⟩ := hstart
    exact (h.ensures_evaluateQuery hprepare hstart.upholds fun i hi =>
      hstart.isPublished_stratum (hpublished i hi)).mono
        (fun result after hresult => ⟨hstart.trans hresult.1.2, hresult.2⟩)
        fun fault after hfault => ⟨hstart.trans hfault.1.2, hfault.2⟩
  obtain ⟨outcome, after, hperform, hok, herror⟩ := perform_of_ensures hensures
  have hadvances : Advances session.store session.program session.strata session.settings
      session.workspace after := by
    cases outcome with
    | ok result => exact (hok result rfl).1
    | error fault => exact (herror fault rfl).1
  exact ⟨outcome, after, hperform, hadvances, fun result heq => (hok result heq).2,
    fun fault heq => (herror fault heq).2⟩

/-- A query of a batch is answered as every model says, and the workspace keeps all that was
published. -/
theorem answer_spec (h : session.Sound) (hcovers : session.Covers failures [query])
    (hfaults : ∀ entry ∈ failures, session.context.Stops entry.2) :
    session.Reports query (session.answer failures query).1 ∧
      session.Evolves (session.answer failures query).2 := by
  have hstay (succeeded : Bool) : session.Evolves (session.countQuery succeeded) :=
    ⟨h.countQuery succeeded, ⟨_, rfl, (h.advances_countQuery succeeded).turns⟩, fun _ => id⟩
  unfold answer
  cases hprepare : session.prepare query with
  | error fault =>
    refine ⟨⟨rfl, fun _ heq => ?_, fun found heq => ?_⟩, hstay false⟩
    · cases heq
    · cases heq
      exact Or.inr hprepare
  | ok prepared =>
    have hconcluded := hcovers query List.mem_cons_self prepared hprepare
    cases hfailure : firstFailure? failures prepared.strata with
    | some fault =>
      simp only [hfailure]
      refine ⟨⟨rfl, fun _ heq => ?_, fun found heq => ?_⟩, hstay false⟩
      · cases heq
      · cases heq
        exact Or.inl (stops_of_firstFailure? hfaults hfailure)
    | none =>
      obtain ⟨outcome, after, hperform, hadvances, hanswered, hfailed⟩ :=
        h.evolves_evaluateQuery hprepare (isPublished_of_firstFailure? hconcluded hfailure)
      have hsound := h.with_workspace hadvances.upholds
      simp only [hfailure, hperform]
      exact ⟨⟨rfl, hanswered, fun fault heq => Or.inl (hfailed fault heq)⟩,
        hsound.countQuery outcome.isOk,
        ⟨_, rfl, hadvances.turns.trans (hsound.advances_countQuery outcome.isOk).turns⟩,
        fun _ => hadvances.isPublished_stratum⟩

/-- The queries of a batch are answered one by one. -/
theorem answerAll_spec (h : session.Sound) {queries : List Query}
    (hcovers : session.Covers failures queries)
    (hfaults : ∀ entry ∈ failures, session.context.Stops entry.2) :
    List.Forall₂ session.Reports queries (answerAll failures session queries).1 ∧
      session.Evolves (answerAll failures session queries).2 := by
  induction queries generalizing session with
  | nil => exact ⟨.nil, h, ⟨_, rfl, .refl⟩, fun _ => id⟩
  | cons query rest ih =>
    have hfirst : session.Covers failures [query] := fun other hother =>
      hcovers other (List.mem_singleton.1 hother ▸ List.mem_cons_self)
    obtain ⟨hreports, hnext, ⟨workspace, hframe, hturns⟩, hpublished⟩ :=
      h.answer_spec hfirst hfaults
    rw [answerAll]
    rcases hanswer : session.answer failures query with ⟨outcome, next⟩
    rw [hanswer] at hreports hnext hframe hpublished
    dsimp only at hreports hnext hframe hpublished ⊢
    subst hframe
    have hrest : Covers { session with workspace } failures rest := fun other hother prepared
        hprepare i hi => (hcovers other (List.mem_cons_of_mem _ hother) prepared hprepare i hi).imp
      (hpublished i) id
    obtain ⟨hreportsRest, hlast, ⟨last, hframe, hrestTurns⟩, hkept⟩ := ih hnext hrest hfaults
    refine ⟨.cons hreports (hreportsRest.imp fun _ _ hreport => ?_), hlast,
      ⟨last, hframe, hturns.trans hrestTurns⟩, fun i hi => hkept i (hpublished i hi)⟩
    exact ⟨hreport.name, hreport.answered, hreport.failed⟩

/-- Once a batch has gone through the strata it needs, each that a query reads is finished or recorded as
failed. -/
theorem covers_neededStrata (h : session.Sound) (hstrata : (evaluateStrata session.program
    session.strata session.context session.neededStrata).run session.workspace =
      (failures, workspace)) :
    Advances session.store session.program session.strata session.settings session.workspace workspace ∧
      Covers { session with workspace } failures session.program.queries ∧
        ∀ entry ∈ failures, session.context.Stops entry.2 := by
  obtain ⟨hscheduled, hids⟩ := h.neededStrata_spec
  have hentities : session.context.entities = session.store.entities := rfl
  obtain ⟨found, last, hrun, hadvances, hconcluded, hfaults⟩ :=
    evaluateStrata_spec h.upholds h.accepted hentities hscheduled hids
  rw [hstrata] at hrun
  cases hrun
  exact ⟨hadvances, fun query hquery prepared hprepare i hi =>
    hconcluded i (mem_neededStrata.2 ⟨query, hquery, prepared, hprepare, hi⟩), hfaults⟩

/-- A batch answers every query of the program as every model says. A query fails by its own static
fault or by an interruption. -/
theorem runAll_spec (h : session.Sound) :
    List.Forall₂ session.Reports session.program.queries session.runAll.1.outcomes ∧
      session.runAll.2.Sound ∧ ∃ workspace, session.runAll.2 = { session with workspace } ∧
        Workspace.Turns session.store session.program session.strata session.settings session.workspace
          workspace := by
  rcases hstrata : (evaluateStrata session.program session.strata session.context
    session.neededStrata).run session.workspace with ⟨failures, workspace⟩
  obtain ⟨hadvances, hcovers, hfaults⟩ := h.covers_neededStrata hstrata
  obtain ⟨hreports, hnext, ⟨last, hframe, hturns⟩, -⟩ :=
    (h.with_workspace hadvances.upholds).answerAll_spec hcovers hfaults
  unfold runAll
  dsimp only
  rw [hstrata]
  refine ⟨hreports.imp fun _ _ hreport => ?_, hnext, last, hframe, hadvances.turns.trans hturns⟩
  exact ⟨hreport.name, hreport.answered, hreport.failed⟩

/-- A query is prepared and answered as every model says. It fails by its own static fault or by an
interruption. -/
theorem gives_run (h : session.Sound) (query : Query) :
    session.Gives (session.Entails query) (session.Excuses query) (session.run query).1
      (session.run query).2 := by
  unfold run
  cases hprepare : session.prepare query with
  | error fault =>
    refine ⟨h.countQuery false, ⟨_, rfl, (h.advances_countQuery false).turns⟩, fun _ heq => ?_,
      fun found heq => ?_⟩
    · cases heq
    · cases heq
      exact Or.inr hprepare
  | ok prepared =>
    obtain ⟨hsound, ⟨workspace, hframe, hturns⟩, hanswered, hfailed⟩ := h.gives_execute hprepare
    refine ⟨hsound.countQuery _, ?_, hanswered, fun fault heq => Or.inl (hfailed fault heq)⟩
    have hcounted := (hsound.advances_countQuery (session.execute prepared).1.isOk).turns
    dsimp only
    rw [hframe] at hcounted ⊢
    exact ⟨_, rfl, hturns.trans hcounted⟩

/-- The query of a name is answered, if the program has one. -/
theorem gives_runNamed (h : session.Sound) (name : String) :
    session.Gives
      (fun result => ∃ query, session.program.query? name = some query ∧
        session.Entails query result)
      (fun fault => (session.program.query? name = none ∧ fault = .invalidPlan (.noSuchQuery name)) ∨
        ∃ query, session.program.query? name = some query ∧ session.Excuses query fault)
      (session.runNamed name).1 (session.runNamed name).2 := by
  unfold runNamed
  split
  next query hfound =>
    obtain ⟨hsound, hframe, hanswered, hfailed⟩ := h.gives_run query
    exact ⟨hsound, hframe, fun result heq => ⟨query, hfound, hanswered result heq⟩,
      fun fault heq => Or.inr ⟨query, hfound, hfailed fault heq⟩⟩
  next hnone =>
    refine ⟨h, ⟨session.workspace, rfl, .refl⟩, fun _ heq => ?_, fun fault heq => ?_⟩
    · cases heq
    · cases heq
      exact Or.inl ⟨hnone, rfl⟩

end Sound

end Session

end Stratalog
