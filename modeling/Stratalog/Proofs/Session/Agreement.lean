import Stratalog.Pattern.Engine
import Stratalog.Proofs.Session.Preparation
import Stratalog.Proofs.Session.Quiet

/-!
# Batches and single queries

A session that nothing disturbs has no choice in what it says to a query. It refuses the query for its
static fault, gives the one answer there is within its settings, or runs out of a budget when there is
none. So a batch, which evaluates the strata of all its queries first, says to each query what a fresh
session says to the query alone.

Faults agree in their kind. Which budget was used up first may differ.
-/

namespace Stratalog

open Evaluation Eval

namespace Session

variable {session other : Session} {store : FactStore} {program : Program}
  {settings settings' : Settings} {query : Query} {prepared : PreparedQuery}
  {outcome outcome' : Except Fault ResultSet} {result : ResultSet} {failures : Failures}

/-- All that can be said to a query within some settings: its static fault, its answer, or that a budget
is used up if it has none. -/
inductive Determines [PatternEngine] (session : Session) (query : Query) : Except Fault ResultSet → Prop
  | refused {fault : Fault} (hprepare : session.prepare query = .error fault) :
      Determines session query (.error fault)
  | answered {prepared : PreparedQuery} {result : ResultSet}
      (hprepare : session.prepare query = .ok prepared)
      (hattains : Attains session.store session.program session.strata session.settings prepared
        result) : Determines session query (.ok result)
  | exhausted {prepared : PreparedQuery} {fault : Fault}
      (hprepare : session.prepare query = .ok prepared)
      (hnone : ∀ result, ¬Attains session.store session.program session.strata session.settings
        prepared result) (hkind : fault.kind = "ResourceExhausted") :
      Determines session query (.error fault)

/-- What can be said to a query depends on what is known of the program and on the settings only. -/
theorem Determines.congr [PatternEngine] (h : session.Determines query outcome)
    (hknows : session.Knows other)
    (hsettings : other.settings = session.settings) : other.Determines query outcome := by
  have hprepare := hknows.prepare_eq query
  obtain ⟨hstore, hprogram, hstrata, -⟩ := hknows
  cases h with
  | refused hrefused => exact .refused (hprepare.trans hrefused)
  | answered hprepared hattains =>
    refine .answered (hprepare.trans hprepared) ?_
    rw [hstore, hprogram, hstrata, hsettings]
    exact hattains
  | exhausted hprepared hnone hkind =>
    refine .exhausted (hprepare.trans hprepared) ?_ hkind
    rw [hstore, hprogram, hstrata, hsettings]
    exact hnone

namespace Sound

/-- A query corresponds to itself. -/
theorem corresponds_self [PatternEngine] (h : session.Sound)
    (hprepare : session.prepare query = .ok prepared) :
    prepared.Corresponds prepared session.program session.strata session.program
      fun i i' => i' = i ∧ i < session.strata.strata.length := by
  obtain ⟨rfl, -, hstrata, hcheck⟩ := prepare_eq_ok hprepare
  have hids := (h.required (hstrata ▸ hcheck)).2
  rw [← hstrata] at hids
  refine ⟨rfl, rfl, fun i hi => ⟨i, hi, rfl, (hids i hi).1⟩, fun name hname => ?_⟩
  by_cases hderived : name ∈ session.program.predicates.map Predicate.name
  · obtain ⟨i, hi, hin⟩ := h.accepted.sound.covers name hderived
    obtain ⟨-, hroots, -, -⟩ := h.accepted.sound.required_spec prepared.query.reads
    have hmem := hstrata ▸ hroots name hname i hi hin
    exact Or.inr ⟨i, hmem, i, hmem, ⟨rfl, hi⟩, hin⟩
  · exact Or.inl ⟨hderived, hderived⟩

end Sound

namespace Undisturbed

variable [PatternEngine]

/-- A session that nothing disturbs allows what every session does that knows the same, and whose budget
it covers. -/
theorem allows (h : session.Undisturbed) (hother : other.Sound) (hknows : other.Knows session)
    (htuples : other.settings.maxTuples ≤ session.settings.maxTuples)
    (hrounds : other.settings.maxRounds ≤ session.settings.maxRounds) :
    session.Allows other.program other.strata other.settings
      fun i i' => i' = i ∧ i < other.strata.strata.length := by
  obtain ⟨hstore, hprogram, hstrata, -⟩ := hknows
  exact { h with
    accepted := hstore ▸ hother.accepted
    corresponds := by
      rw [hprogram, hstrata]
      exact .refl hother.accepted.nodup hother.accepted.sound
    maxTuples := htuples
    maxRounds := hrounds }

/-- A session that nothing disturbs allows what itself does. -/
theorem allows_self (h : session.Undisturbed) :
    session.Allows session.program session.strata session.settings
      fun i i' => i' = i ∧ i < session.strata.strata.length :=
  h.allows h.sound (.refl session) le_rfl le_rfl

/-- An outcome is what can be said to a query if it is the static fault of the query, or is returned, or
is a fault that stops evaluations where there is no answer. -/
theorem determines (h : session.Undisturbed)
    (hrefused : ∀ fault, session.prepare query = .error fault → outcome = .error fault)
    (hreturned : ∀ result, outcome = .ok result → session.Returns query result)
    (hfailed : ∀ fault, outcome = .error fault → session.Excuses query fault)
    (hanswered : ∀ prepared result, session.prepare query = .ok prepared →
      Attains session.store session.program session.strata session.settings prepared result →
        outcome = .ok result) : session.Determines query outcome := by
  cases hprepare : session.prepare query with
  | error fault =>
    rw [hrefused fault hprepare]
    exact .refused hprepare
  | ok prepared =>
    cases outcome with
    | ok result =>
      obtain ⟨found, hfound, hattains⟩ :=
        h.sound.attains_of_returns h.grounded (hreturned result rfl)
      exact .answered hfound hattains
    | error fault =>
      refine .exhausted hprepare (fun result hattains => ?_) ?_
      · cases hanswered prepared result hprepare hattains
      · rcases hfailed fault rfl with hstops | hrefuses
        · exact h.quiet.kind_eq hstops
        · rw [hprepare] at hrefuses
          cases hrefuses

/-- A query that is run is said what can be said. -/
theorem determines_run (h : session.Undisturbed) (query : Query) :
    session.Determines query (session.run query).1 := by
  refine h.determines (fun fault hprepare => ?_) (fun result => .run)
    (h.sound.gives_run query).failed fun prepared result hprepare hattains => ?_
  · rw [run, hprepare]
  · exact h.allows_self.run_eq_ok hattains (h.sound.corresponds_self hprepare) hprepare

/-- A query of a batch is said what can be said. -/
theorem determines_of_mem_runAll (h : session.Undisturbed) {outcome : QueryOutcome}
    (hmem : (query, outcome) ∈ session.program.queries.zip session.runAll.1.outcomes) :
    session.Determines query outcome.result := by
  refine h.determines (fun fault hprepare => ?_) (fun result => .runAll hmem)
    ((List.forall₂_iff_zip.1 h.sound.runAll_spec.1).2 hmem).failed
    fun prepared result hprepare hattains => ?_
  · obtain ⟨before, after, failures, entered, -, -, rfl⟩ := exists_of_mem_runAll hmem
    have hearlier := (knows_answerAll { session with workspace := entered } failures before).prepare_eq
      query
    rw [answer, hearlier.trans hprepare]
  · exact h.allows_self.result_eq_ok_of_mem_runAll hattains (h.sound.corresponds_self hprepare)
      hprepare hmem

/-- All that is said to a query agrees, but for the budget that is named. -/
theorem mapError_kind_eq (h : session.Undisturbed) (hfirst : session.Determines query outcome)
    (hsecond : session.Determines query outcome') :
    outcome.mapError Fault.kind = outcome'.mapError Fault.kind := by
  cases hfirst with
  | refused hprepare =>
    cases hsecond with
    | refused hprepare' =>
      rw [hprepare] at hprepare'
      cases hprepare'
      rfl
    | answered hprepare' _ | exhausted hprepare' _ _ =>
      rw [hprepare] at hprepare'
      cases hprepare'
  | @answered prepared result hprepare hattains =>
    cases hsecond with
    | refused hprepare' =>
      rw [hprepare] at hprepare'
      cases hprepare'
    | answered hprepare' hattains' =>
      rw [hprepare] at hprepare'
      cases hprepare'
      have hself := h.sound.corresponds_self hprepare
      rw [← h.allows_self.execute_eq_ok hattains hself hprepare,
        h.allows_self.execute_eq_ok hattains' hself hprepare]
    | exhausted hprepare' hnone _ =>
      rw [hprepare] at hprepare'
      cases hprepare'
      exact (hnone _ hattains).elim
  | exhausted hprepare hnone hkind =>
    cases hsecond with
    | refused hprepare' =>
      rw [hprepare] at hprepare'
      cases hprepare'
    | answered hprepare' hattains =>
      rw [hprepare] at hprepare'
      cases hprepare'
      exact (hnone _ hattains).elim
    | exhausted _ _ hkind' => exact congrArg Except.error (hkind.trans hkind'.symm)

end Undisturbed

/-- Without a deadline and a cancellation nothing disturbs a session that operations lead to. -/
theorem Reachable.undisturbed [PatternEngine] (h : Reachable store program settings session)
    (hstore : store.Built)
    (htimeout : settings.timeoutMs = none) (huncancelled : session.IsUncancelled) :
    session.Undisturbed := by
  obtain ⟨hsound, -, -⟩ := h.spec hstore
  exact ⟨hsound, h.grounded hstore,
    huncancelled.isQuiet ((h.turns hstore).1 ▸ htimeout)⟩

/-- The sessions as they are opened, which nobody cancels. -/
inductive Fresh [PatternEngine] (store : FactStore) (program : Program) (settings : Settings) :
    Session → Prop
  | start {session : Session} (observe : Nat → Observation)
      (hstart : Session.start store program settings = .ok session)
      (hobserve : ∀ number, (observe number).cancelled = false) :
      Fresh store program settings { session with observe }

namespace Fresh

variable [PatternEngine]

/-- A fresh session is reachable, and uncancelled. -/
theorem reachable (h : Fresh store program settings session) :
    Reachable store program settings session ∧ session.IsUncancelled := by
  cases h with
  | start observe hstart hobserve =>
    refine ⟨.start observe hstart, ?_⟩
    obtain ⟨_, -, heq⟩ := bind_eq_ok.1 hstart
    cases heq
    exact hobserve

/-- A fresh session is sound, and knows what it was opened with. -/
theorem spec (h : Fresh store program settings session) (hstore : store.Built) :
    session.Sound ∧ session.store = store ∧ session.program = program ∧
      session.settings = settings := by
  obtain ⟨hsound, hsessionStore, hsessionProgram⟩ := h.reachable.1.spec hstore
  exact ⟨hsound, hsessionStore, hsessionProgram, (h.reachable.1.turns hstore).1⟩

/-- Fresh sessions of one program know the same. -/
theorem knows (h : Fresh store program settings session)
    (hother : Fresh store program settings' other) (hstore : store.Built) : session.Knows other := by
  obtain ⟨hsound, rfl, rfl, -⟩ := h.spec hstore
  obtain ⟨hotherSound, hotherStore, hotherProgram, -⟩ := hother.spec hstore
  exact hsound.knows hotherSound hotherStore hotherProgram

/-- A program whose names are accepted has a fresh session. -/
theorem exists_of_checkNames (hnames : program.checkNames = .ok ()) (store : FactStore)
    (settings : Settings) : ∃ session, Fresh store program settings session :=
  ⟨_, .start (fun _ => {}) (check_bind_eq_ok.2 ⟨hnames, rfl⟩) fun _ => rfl⟩

/-- Without a deadline nothing disturbs a fresh session. -/
theorem undisturbed (h : Fresh store program settings session) (hstore : store.Built)
    (htimeout : settings.timeoutMs = none) : session.Undisturbed :=
  h.reachable.1.undisturbed hstore htimeout h.reachable.2

end Fresh

/-- Without a deadline, in every session that operations lead to and that is not cancelled, a batch has
one outcome for each query, in order. It is what a fresh session returns when it runs this query only:
the same result, or a fault of the same kind. There is such a session. -/
theorem Reachable.batch_agrees_with_runs [PatternEngine] (h : Reachable store program settings session)
    (hstore : store.Built) (htimeout : settings.timeoutMs = none)
    (huncancelled : session.IsUncancelled) :
    (∃ fresh, Fresh store program settings fresh) ∧
      ∀ fresh, Fresh store program settings fresh →
        List.Forall₂ (fun query outcome => outcome.query = query.name ∧
          outcome.result.mapError Fault.kind = (fresh.run query).1.mapError Fault.kind)
          program.queries session.runAll.1.outcomes := by
  have hundisturbed := h.undisturbed hstore htimeout huncancelled
  have hsettings := (h.turns hstore).1
  obtain ⟨hsound, rfl, rfl⟩ := h.spec hstore
  refine ⟨Fresh.exists_of_checkNames hsound.names _ _, fun fresh hfresh => ?_⟩
  have hreports := hsound.runAll_spec.1
  refine List.forall₂_iff_zip.2 ⟨hreports.length_eq, fun {query outcome} hmem =>
    ⟨((List.forall₂_iff_zip.1 hreports).2 hmem).name, ?_⟩⟩
  obtain ⟨hfreshSound, hfreshStore, hfreshProgram, hfreshSettings⟩ := hfresh.spec hstore
  have hknows := hfreshSound.knows hsound hfreshStore.symm hfreshProgram.symm
  have hrun := ((hfresh.undisturbed hstore htimeout).determines_run query).congr hknows
    (hsettings.trans hfreshSettings.symm)
  exact hundisturbed.mapError_kind_eq (hundisturbed.determines_of_mem_runAll hmem) hrun

/-- The steps themselves. -/
def listed : Query where
  name := "listed"
  kind := .table
  body := [.atom ⟨"edge", [.var "x", .var "y"]⟩]
  select := [⟨"from", .var "x"⟩, ⟨"to", .var "y"⟩]

/-- The session of the paths within a budget of as many tuples as there are steps. -/
def narrowSession : Session where
  store := FactStore.steps
  program := { predicates := [paths], queries := [reached, listed] }
  settings := { maxTuples := 2 }
  strata := Stratification.ofPredicates [paths]
  faults := predicateFaults FactStore.steps { predicates := [paths], queries := [reached, listed] }
  workspace := { base := FactStore.steps.relations, slots := emptySlots ["path"] }

/-- The session of the paths within a narrow budget is fresh. -/
theorem fresh_narrowSession : Fresh FactStore.steps
    { predicates := [paths], queries := [reached, listed] } { maxTuples := 2 } narrowSession := by
  have hstart : Session.start FactStore.steps
      { predicates := [paths], queries := [reached, listed] } { maxTuples := 2 } =
        .ok narrowSession := rfl
  exact .start narrowSession.observe hstart fun _ => rfl

/-- Within a narrow budget the paths are not found, in a batch as little as alone, while the steps are
listed. -/
theorem batch_agrees_with_runs_narrow : ∃ result exhausted answered,
    (narrowSession.run listed).1 = .ok result ∧
      (narrowSession.run listed).2.runAll.1.outcomes = [exhausted, answered] ∧
        exhausted.result.mapError Fault.kind = .error "ResourceExhausted" ∧
          answered.result = .ok result := by
  obtain ⟨hreachable, -⟩ := fresh_narrowSession.reachable
  have huncancelled : (narrowSession.run listed).2.IsUncancelled := by
    obtain ⟨hsound, -, -⟩ := hreachable.spec FactStore.built_steps
    obtain ⟨-, ⟨_, hframe, -⟩, -, -⟩ := hsound.gives_run listed
    rw [hframe]
    exact fun _ => rfl
  obtain ⟨-, hagrees⟩ :=
    (hreachable.run listed).batch_agrees_with_runs FactStore.built_steps rfl huncancelled
  have hok : (narrowSession.run listed).1.isOk = true := by decide +kernel
  have hkind : (narrowSession.run reached).1.mapError Fault.kind = .error "ResourceExhausted" := by
    decide +kernel
  obtain ⟨result, hresult⟩ := isOk_iff.1 hok
  obtain ⟨exhausted, _, ⟨-, hexhausted⟩, hrest, houtcomes⟩ :=
    List.forall₂_cons_left_iff.1 (hagrees narrowSession fresh_narrowSession)
  obtain ⟨answered, _, ⟨-, hanswered⟩, hnil, rfl⟩ := List.forall₂_cons_left_iff.1 hrest
  cases hnil
  refine ⟨result, exhausted, answered, hresult, houtcomes, hexhausted.trans hkind, ?_⟩
  rw [hresult] at hanswered
  cases houtcome : answered.result with
  | error fault =>
    rw [houtcome] at hanswered
    cases hanswered
  | ok found =>
    rw [houtcome] at hanswered
    cases hanswered
    rfl

end Session

end Stratalog
