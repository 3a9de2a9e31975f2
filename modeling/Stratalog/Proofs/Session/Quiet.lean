import Stratalog.Proofs.Session.Grounded
import Stratalog.Proofs.Session.Soundness
import Stratalog.Proofs.Simulation.Publication

/-!
# Sessions that nothing disturbs

Without a deadline and without a cancellation every checkpoint is passed, so only a used-up budget can
stop an evaluation. What a stratum finishes with, or a query is answered with, within some budget is then
found by every session that is allowed as much, whatever it has finished already and whatever else it
failed to finish.
-/

namespace Stratalog

open Evaluation Eval

variable {context : Context} {fault : Fault}

namespace Context.IsQuiet

/-- Only a used-up budget stops what passes every checkpoint. -/
theorem kind_eq (h : context.IsQuiet) (hstops : context.Stops fault) :
    fault.kind = "ResourceExhausted" := by
  cases fault with
  | resourceExhausted budget => rfl
  | cancelled =>
    obtain ⟨i, hcancelled⟩ := id hstops
    rw [h i] at hcancelled
    cases hcancelled
  | _ => exact False.elim hstops

/-- Checkpoints are passed. -/
theorem ensures_pass (h : context.IsQuiet) (workspace : Workspace) :
    context.pass.Ensures workspace (fun _ _ => True) fun _ _ => False := by
  unfold Context.pass
  simp only [ensures_bind, ensures_get, ensures_modify, ensures_lift]
  refine ⟨fun _ _ => trivial, fun fault hfault => ?_⟩
  have hpasses := h workspace.checkpoints
  rw [Context.Passes, hfault] at hpasses
  cases hpasses

end Context.IsQuiet

namespace Session

/-- No checkpoint ever finds a session cancelled. -/
def IsUncancelled (session : Session) : Prop :=
  ∀ number, (session.cancelled || (session.observe number).cancelled) = false

/-- A session that nothing disturbs, and that holds what its strata finish with. -/
structure Undisturbed [PatternEngine] (session : Session) : Prop where
  sound : session.Sound
  grounded : session.workspace.Grounded session.store session.program session.strata session.settings
  quiet : session.context.IsQuiet

/-- A session that nothing disturbs has strata that correspond to others, and a budget that covers
theirs. -/
structure Allows [PatternEngine] (session : Session) (program : Program) (strata : Stratification)
    (settings : Settings) (R : Nat → Nat → Prop) : Prop extends Undisturbed session where
  accepted : Accepted session.store program strata
  corresponds : Correspondence program strata session.program session.strata R
  maxTuples : settings.maxTuples ≤ session.settings.maxTuples
  maxRounds : settings.maxRounds ≤ session.settings.maxRounds

variable {session : Session} {program : Program} {strata : Stratification} {settings : Settings}
  {R : Nat → Nat → Prop} {i i' : Nat} {ids : List Nat} {workspace last : Workspace}
  {lower : StratumResult} {failures : Failures} {query : Query} {prepared prepared' : PreparedQuery}
  {result : ResultSet}

/-- Without a deadline and a cancellation every checkpoint is passed. -/
theorem IsUncancelled.isQuiet (h : session.IsUncancelled)
    (htimeout : session.settings.timeoutMs = none) : session.context.IsQuiet := by
  intro number
  have hcancelled : (session.context.noticing (session.context.observe number)).cancelled = false :=
    h number
  have hdeadline : (session.context.noticing (session.context.observe number)).settings.timeoutMs =
      none := htimeout
  rw [Context.Passes, Context.checkpoint, Context.checkCancelled, hcancelled, Context.checkDeadline,
    hdeadline]
  rfl

/-- An evaluation that ensures an answer gives it. -/
theorem perform_eq_ok_of_ensures {α : Type} (session : Session) {evaluation : Eval α} {answer : α}
    (h : evaluation.Ensures session.workspace (fun found _ => found = answer) fun _ _ => False) :
    ∃ after, session.perform evaluation = (.ok answer, { session with workspace := after }) := by
  obtain ⟨outcome, after, hperform, hok, herror⟩ := perform_of_ensures h
  cases outcome with
  | ok found => exact ⟨after, hok found rfl ▸ hperform⟩
  | error fault => exact (herror fault rfl).elim

variable [PatternEngine]

/-- A result that a session returns for a query is what the query is answered with within the settings
of the session. -/
theorem Sound.attains_of_returns (h : session.Sound)
    (hgrounded : session.workspace.Grounded session.store session.program session.strata
      session.settings) (hreturns : session.Returns query result) :
    ∃ prepared, session.prepare query = .ok prepared ∧
      Attains session.store session.program session.strata session.settings prepared result := by
  obtain ⟨prepared, workspace, after, hprepare, hquery, hrun⟩ := h.exists_of_returns hreturns
  obtain ⟨-, ⟨hupholds, hturns⟩, hpublished⟩ := h.evaluatesQuery_spec hquery
  obtain ⟨-, -, hstrata, hcheck⟩ := prepare_eq_ok hprepare
  have hids := (h.required (hstrata ▸ hcheck)).2
  obtain ⟨results, hrests, hlower⟩ := (hgrounded.turns h.accepted hturns).exists_restsOn hupholds
    fun i hi => ⟨(hids i (hstrata ▸ hi)).1, hpublished i hi⟩
  exact ⟨prepared, hprepare, .intro rfl rfl hrests hlower hrun⟩

namespace Allows

/-- A stratum that corresponds to one that finishes does not fail. -/
theorem ensures_ensureStratum (h : session.Allows program strata settings R)
    (hfinishes : Finishes session.store program strata settings i lower) (hR : R i i')
    (hadvances : Advances session.store session.program session.strata session.settings
      session.workspace workspace)
    (hlower : ∀ d ∈ (session.strata.stratum i').dependsOn,
      isPublished session.strata workspace d = true) :
    (ensureStratum session.program session.strata session.context i').Ensures workspace
      (fun _ _ => True) fun _ _ => False := by
  have haccepted := h.sound.accepted
  obtain ⟨-, hnodup, hsound⟩ := id haccepted
  have hi' := h.corresponds.lt' hR
  unfold ensureStratum
  rw [ensures_bind, ensures_get]
  split
  next => trivial
  next hnot =>
    rw [ensures_bind]
    refine ((ensures_pass_advances hadvances.upholds session.context).and
      (h.quiet.ensures_pass workspace)).mono (fun _ start hstart => ?_) fun _ _ hfault => hfault.2
    obtain ⟨⟨hkept, hstart⟩, -⟩ := hstart
    have hdepends : ∀ d ∈ (session.strata.stratum i').dependsOn, d < session.strata.strata.length ∧
        isPublished session.strata start d = true := fun d hd =>
      ⟨(hsound.below i' hi' d hd).1.trans hi', hstart.isPublished_stratum (hlower d hd)⟩
    obtain ⟨results, hrests, hresults⟩ := (h.grounded.turns haccepted
      (hadvances.turns.trans hstart.turns)).exists_restsOn hstart.upholds hdepends
    have hempty : ∀ name ∈ (session.strata.stratum i').predicates,
        start.slots[name]? = some none := by
      refine fun name hname => hstart.upholds.slot_eq_none hsound hi' ?_ hname
      rw [hkept.encloses.isPublished_stratum]
      exact hnot
    obtain ⟨found, grown, hrun, -⟩ := hfinishes.evaluates h.corresponds h.accepted haccepted hR
      hrests hempty hresults session.context rfl h.maxTuples h.maxRounds h.quiet
    rw [ensures_bind]
    refine (ensures_publishStratum_of_empty hnodup hsound hi' hrests.coherent hempty _).mono
      (fun _ _ _ => by rw [ensures_modify]; trivial) fun _ _ hfault => ?_
    rw [hrun] at hfault
    cases hfault.2

/-- Where strata were gone through, those that correspond to ones that finish did not fail. -/
theorem lookup_eq_none (h : session.Allows program strata settings R)
    (hadvances : Advances session.store session.program session.strata session.settings
      session.workspace workspace) (hscheduled : session.strata.Scheduled ids)
    (hids : ∀ i ∈ ids, i < session.strata.strata.length ∧
      session.strata.Clean session.store session.program i)
    (hrun : (evaluateStrata session.program session.strata session.context ids).run workspace =
      (failures, last))
    (hfinishes : Finishes session.store program strata settings i lower) (hR : R i i') :
    failures.lookup i' = none := by
  rw [run_evaluateStrata] at hrun
  -- No stratum that fails corresponds to one that finishes.
  obtain ⟨_, _, hrun', -, -, hbad⟩ := evaluateEach_spec
    (fun entry => ∀ i lower, R i entry.1 →
      ¬Finishes session.store program strata settings i lower)
    hadvances.upholds h.sound.accepted rfl hscheduled hids
    (fun i' _ d' hd' _ hbad i lower hR hfinishes =>
      let ⟨d, hd, hRd⟩ := h.corresponds.lower' hR d' hd'
      let ⟨under, hunder⟩ := hfinishes.of_mem_dependsOn hd
      hbad d under hRd hunder)
    fun i' _ begun hbegun hlower => ensures_of_forall (fun _ _ _ => trivial)
      fun fault after hfault i lower hR hfinishes =>
        (h.ensures_ensureStratum hfinishes hR (hadvances.trans hbegun) hlower).of_error hfault
  rw [hrun] at hrun'
  cases hrun'
  rw [List.lookup_eq_none_iff]
  intro entry hentry
  rw [bne_iff_ne]
  rintro rfl
  exact hbad entry hentry i lower hR hfinishes

/-- No failure is found for a query that corresponds to one that is answered. -/
theorem firstFailure?_eq_none (h : session.Allows program strata settings R)
    (hattains : Attains session.store program strata settings prepared result)
    (hprepared : prepared.Corresponds prepared' program strata session.program R)
    (hadvances : Advances session.store session.program session.strata session.settings
      session.workspace workspace) (hscheduled : session.strata.Scheduled ids)
    (hids : ∀ i ∈ ids, i < session.strata.strata.length ∧
      session.strata.Clean session.store session.program i)
    (hrun : (evaluateStrata session.program session.strata session.context ids).run workspace =
      (failures, last)) : firstFailure? failures prepared'.strata = none := by
  refine List.findSome?_eq_none_iff.2 fun i' hi' => ?_
  obtain ⟨i, hi, hR⟩ := hprepared.needed i' hi'
  obtain ⟨lower, hfinishes⟩ := hattains.exists_finishes hi
  exact h.lookup_eq_none hadvances hscheduled hids hrun hfinishes hR

/-- A query that corresponds to one that is answered is answered with the same result once its strata
are finished. -/
theorem ensures_evaluateQuery (h : session.Allows program strata settings R)
    (hattains : Attains session.store program strata settings prepared result)
    (hprepared : prepared.Corresponds prepared' program strata session.program R)
    (hadvances : Advances session.store session.program session.strata session.settings
      session.workspace workspace)
    (hpublished : ∀ i ∈ prepared'.strata, isPublished session.strata workspace i = true) :
    (evaluateQuery session.context prepared').Ensures workspace (fun found _ => found = result)
      fun _ _ => False := by
  have haccepted := h.sound.accepted
  obtain ⟨results, hrests, hlower⟩ :=
    (h.grounded.turns haccepted hadvances.turns).exists_restsOn hadvances.upholds fun i' hi' =>
      let ⟨_, _, hR⟩ := hprepared.needed i' hi'
      ⟨h.corresponds.lt' hR, hpublished i' hi'⟩
  obtain ⟨after, hrun⟩ := hattains.evaluates h.corresponds h.accepted haccepted hprepared hrests
    hlower session.context rfl h.maxTuples h.maxRounds h.quiet
  exact ensures_of_ok hrun rfl

/-- A checkpoint is passed, and then a query that corresponds to one that is answered is answered with
the same result once its strata are finished. -/
theorem ensures_pass_evaluateQuery (h : session.Allows program strata settings R)
    (hattains : Attains session.store program strata settings prepared result)
    (hprepared : prepared.Corresponds prepared' program strata session.program R)
    (hadvances : Advances session.store session.program session.strata session.settings
      session.workspace workspace)
    (hpublished : ∀ i ∈ prepared'.strata, isPublished session.strata workspace i = true) :
    (do session.context.pass; evaluateQuery session.context prepared' : Eval ResultSet).Ensures
      workspace (fun found _ => found = result) fun _ _ => False := by
  rw [ensures_bind]
  refine ((ensures_pass_advances hadvances.upholds session.context).and
    (h.quiet.ensures_pass _)).mono (fun _ start hstart => ?_) fun _ _ hfault => hfault.2
  obtain ⟨⟨-, hstart⟩, -⟩ := hstart
  exact h.ensures_evaluateQuery hattains hprepared (hadvances.trans hstart) fun i hi =>
    hstart.isPublished_stratum (hpublished i hi)

/-- A query that corresponds to one that is answered is answered with the same result when it is
executed. -/
theorem execute_eq_ok (h : session.Allows program strata settings R)
    (hattains : Attains session.store program strata settings prepared result)
    (hprepared : prepared.Corresponds prepared' program strata session.program R)
    (hprepare : session.prepare query = .ok prepared') :
    (session.execute prepared').1 = .ok result := by
  obtain ⟨-, -, hstrata, hcheck⟩ := prepare_eq_ok hprepare
  obtain ⟨hscheduled, hids⟩ := h.sound.required (hstrata ▸ hcheck)
  rw [← hstrata] at hscheduled hids
  have hensures : (do
      session.context.pass
      materialize session.program session.strata session.context prepared'.strata
      evaluateQuery session.context prepared' : Eval ResultSet).Ensures session.workspace
        (fun found _ => found = result) fun _ _ => False := by
    rw [ensures_bind]
    refine ((ensures_pass_advances h.sound.upholds session.context).and
      (h.quiet.ensures_pass _)).mono (fun _ start hstart => ?_) fun _ _ hfault => hfault.2
    obtain ⟨⟨-, hstart⟩, -⟩ := hstart
    have hentities : session.context.entities = session.store.entities := rfl
    obtain ⟨failures, ready, hrun, hready, hconcluded, -⟩ :=
      evaluateStrata_spec hstart.upholds h.sound.accepted hentities hscheduled hids
    have hnone := h.firstFailure?_eq_none hattains hprepared hstart hscheduled hids hrun
    rw [materialize]
    simp only [ensures_bind, ensures_state, hrun, hnone, ensures_pure]
    exact h.ensures_evaluateQuery hattains hprepared (hstart.trans hready)
      (isPublished_of_firstFailure? hconcluded hnone)
  obtain ⟨after, hperform⟩ := session.perform_eq_ok_of_ensures hensures
  rw [execute, hperform]

/-- A query that corresponds to one that is answered is answered with the same result when it is run. -/
theorem run_eq_ok (h : session.Allows program strata settings R)
    (hattains : Attains session.store program strata settings prepared result)
    (hprepared : prepared.Corresponds prepared' program strata session.program R)
    (hprepare : session.prepare query = .ok prepared') : (session.run query).1 = .ok result := by
  rw [run, hprepare]
  exact h.execute_eq_ok hattains hprepared hprepare

/-- A query that corresponds to one that is answered is answered with the same result in a batch. -/
theorem result_eq_ok_of_mem_runAll (h : session.Allows program strata settings R)
    (hattains : Attains session.store program strata settings prepared result)
    (hprepared : prepared.Corresponds prepared' program strata session.program R)
    (hprepare : session.prepare query = .ok prepared') {outcome : QueryOutcome}
    (hmem : (query, outcome) ∈ session.program.queries.zip session.runAll.1.outcomes) :
    outcome.result = .ok result := by
  obtain ⟨before, after, failures, entered, hqueries, hstrata, rfl⟩ := exists_of_mem_runAll hmem
  obtain ⟨hentered, ⟨hsound, ⟨last, hframe, hturns⟩, hkept⟩, hpublished⟩ :=
    h.sound.evolves_answerAll hqueries hstrata
  obtain ⟨hscheduled, hids⟩ := h.sound.neededStrata_spec
  have hnone := h.firstFailure?_eq_none hattains hprepared (.refl h.sound.upholds) hscheduled hids
    hstrata
  rw [hframe] at hsound hkept ⊢
  have hadvances : Advances session.store session.program session.strata session.settings
      session.workspace last := .of_turns hsound.upholds (hentered.turns.trans hturns)
  have hensures := h.ensures_pass_evaluateQuery hattains hprepared hadvances fun i hi =>
    hkept i (hpublished prepared' hprepare hnone i hi)
  let earlier : Session := { session with workspace := last }
  obtain ⟨final, hperform⟩ := earlier.perform_eq_ok_of_ensures hensures
  have hearlier : earlier.prepare query = .ok prepared' := hprepare
  change (earlier.answer failures query).1.result = .ok result
  unfold answer
  simp only [hearlier, hnone]
  exact congrArg Prod.fst hperform

end Allows

end Session

end Stratalog
