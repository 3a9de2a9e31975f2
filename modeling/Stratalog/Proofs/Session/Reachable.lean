import Stratalog.Pattern.Engine
import Stratalog.Proofs.Semantics.Existence
import Stratalog.Proofs.Session.Batch

/-!
# Reachable sessions

A session is opened over a store and a program and then goes through any operations in any order,
some of which fail. Whatever came before, an answer is that of every perfect model, and a query that
passed the static checks can be stopped by an interruption only.
-/

namespace Stratalog

open Evaluation

namespace Session

/-- The sessions that operations lead to. What the checkpoints of a session notice is arbitrary. -/
inductive Reachable [PatternEngine] (store : FactStore) (program : Program) (settings : Settings) :
    Session → Prop where
  | start {session : Session} (observe : Nat → Observation) :
      Session.start store program settings = .ok session →
        Reachable store program settings { session with observe }
  | execute {session : Session} {query : Query} {prepared : PreparedQuery} :
      Reachable store program settings session → session.prepare query = .ok prepared →
        Reachable store program settings (session.execute prepared).2
  | run {session : Session} (query : Query) :
      Reachable store program settings session →
        Reachable store program settings (session.run query).2
  | runNamed {session : Session} (name : String) :
      Reachable store program settings session →
        Reachable store program settings (session.runNamed name).2
  | runAll {session : Session} : Reachable store program settings session →
      Reachable store program settings session.runAll.2
  | relation {session : Session} (name : String) :
      Reachable store program settings session →
        Reachable store program settings (session.relation name).2
  | cancel {session : Session} : Reachable store program settings session →
      Reachable store program settings session.cancel

/-- The results that the operations of a session return for a query. -/
inductive Returns [PatternEngine] (session : Session) : Query → ResultSet → Prop where
  | run {query : Query} {result : ResultSet} :
      (session.run query).1 = .ok result → Returns session query result
  | execute {query : Query} {prepared : PreparedQuery} {result : ResultSet} :
      session.prepare query = .ok prepared → (session.execute prepared).1 = .ok result →
        Returns session query result
  | runNamed {name : String} {query : Query} {result : ResultSet} :
      session.program.query? name = some query → (session.runNamed name).1 = .ok result →
        Returns session query result
  | runAll {query : Query} {outcome : QueryOutcome} {result : ResultSet} :
      (query, outcome) ∈ session.program.queries.zip session.runAll.1.outcomes →
        outcome.result = .ok result → Returns session query result

variable {session other : Session} {store : FactStore} {program : Program}
  {settings settings' : Settings} {query : Query} {prepared : PreparedQuery} {result : ResultSet}
  {name : String} {M : Interpretation}

namespace Reachable

/-- A session keeps its store and its program and stays sound. -/
theorem spec [PatternEngine] (h : Reachable store program settings session) (hstore : store.Built) :
    session.Sound ∧ session.store = store ∧ session.program = program := by
  induction h with
  | start observe hstart =>
    have hsound := sound_start hstore hstart
    obtain ⟨_, -, heq⟩ := bind_eq_ok.1 hstart
    cases heq
    exact ⟨⟨hsound.built, hsound.names, hsound.strata, hsound.faults, hsound.upholds⟩, rfl, rfl⟩
  | execute _ hprepare ih =>
    obtain ⟨hsound, ⟨_, hframe, -⟩, -, -⟩ := ih.1.gives_execute hprepare
    rw [hframe] at hsound ⊢
    exact ⟨hsound, ih.2⟩
  | run query _ ih =>
    obtain ⟨hsound, ⟨_, hframe, -⟩, -, -⟩ := ih.1.gives_run query
    rw [hframe] at hsound ⊢
    exact ⟨hsound, ih.2⟩
  | runNamed name _ ih =>
    obtain ⟨hsound, ⟨_, hframe, -⟩, -, -⟩ := ih.1.gives_runNamed name
    rw [hframe] at hsound ⊢
    exact ⟨hsound, ih.2⟩
  | runAll _ ih =>
    obtain ⟨-, hsound, _, hframe, -⟩ := ih.1.runAll_spec
    rw [hframe] at hsound ⊢
    exact ⟨hsound, ih.2⟩
  | relation name _ ih =>
    obtain ⟨hsound, ⟨_, hframe, -⟩, -, -⟩ := ih.1.gives_relation name
    rw [hframe] at hsound ⊢
    exact ⟨hsound, ih.2⟩
  | cancel _ ih =>
    obtain ⟨hsound, hframe⟩ := ih
    exact ⟨⟨hsound.built, hsound.names, hsound.strata, hsound.faults, hsound.upholds⟩, hframe⟩

end Reachable

/-- Whatever operation returns a result, it is what every model says of the query. -/
theorem Sound.entails_of_returns [PatternEngine] (h : session.Sound)
    (hreturns : session.Returns query result) :
    session.Entails query result := by
  cases hreturns with
  | run hrun => exact (h.gives_run query).answered result hrun
  | execute hprepare hexecute => exact (h.gives_execute hprepare).answered result hexecute
  | runNamed hquery hrun =>
    obtain ⟨found, hfound, hentails⟩ := (h.gives_runNamed _).answered result hrun
    rw [hquery] at hfound
    cases hfound
    exact hentails
  | runAll hmem hresult =>
    exact ((List.forall₂_iff_zip.1 h.runAll_spec.1).2 hmem).answered result hresult

/-- In every session that operations lead to, results and relations are those of every perfect
model, and there is one. They are therefore the same in all such sessions, whatever was done
before. -/
theorem Reachable.returns_perfect_answers [PatternEngine] (h : Reachable store program settings session)
    (hstore : store.Built) :
    (∃ M, PerfectModel store.entities.render store.holds program.predicates M) ∧
    session.runAll.1.outcomes.map QueryOutcome.query = program.queries.map Query.name ∧
    (∀ M, PerfectModel store.entities.render store.holds program.predicates M →
      (∀ query result, session.Returns query result →
        result.Lists store.entities.render query M) ∧
      ∀ name relation, (session.relation name).1 = .ok relation →
        relation.rows.Nodup ∧ ∀ row, row ∈ relation.rows ↔ row ∈ M name) ∧
    ∀ settings' other, Reachable store program settings' other →
      (∀ query result result', session.Returns query result → other.Returns query result' →
        result.rows = result'.rows) ∧
      ∀ name relation relation', (session.relation name).1 = .ok relation →
        (other.relation name).1 = .ok relation' → relation.rows.Perm relation'.rows := by
  have hanswers {settings : Settings} {session : Session}
      (h : Reachable store program settings session) (M : Interpretation)
      (hM : PerfectModel store.entities.render store.holds program.predicates M) :
      (∀ query result, session.Returns query result →
        result.Lists store.entities.render query M) ∧
      ∀ name relation, (session.relation name).1 = .ok relation →
        relation.rows.Nodup ∧ ∀ row, row ∈ relation.rows ↔ row ∈ M name := by
    obtain ⟨hsound, rfl, rfl⟩ := h.spec hstore
    refine ⟨fun query result hreturns => hsound.entails_of_returns hreturns M hM,
      fun name relation hrelation => ?_⟩
    obtain ⟨hnodup, hrows⟩ := (hsound.gives_relation name).answered relation hrelation
    exact ⟨hnodup, hrows M hM⟩
  have hbatch : program.checkNames = .ok () ∧
      session.runAll.1.outcomes.map QueryOutcome.query = program.queries.map Query.name := by
    obtain ⟨hsound, -, rfl⟩ := h.spec hstore
    refine ⟨hsound.names, Eq.symm ?_⟩
    rw [← List.forall₂_eq_eq_eq, List.forall₂_map_left_iff, List.forall₂_map_right_iff]
    exact hsound.runAll_spec.1.imp fun _ _ hreports => hreports.name.symm
  obtain ⟨M, hM⟩ := exists_perfectModel (Program.nodup_of_checkNames hbatch.1).1
    store.entities.render store.holds
  refine ⟨⟨M, hM⟩, hbatch.2, hanswers h, fun settings' other hother =>
    ⟨fun query result result' hresult hresult' => ?_,
      fun name relation relation' hrelation hrelation' => ?_⟩⟩
  · have hlists := (hanswers h M hM).1 query result hresult
    have hlists' := (hanswers hother M hM).1 query result' hresult'
    exact hlists.rows_eq hlists'
  · obtain ⟨hnodup, hrows⟩ := (hanswers h M hM).2 name relation hrelation
    obtain ⟨hnodup', hrows'⟩ := (hanswers hother M hM).2 name relation' hrelation'
    exact (List.perm_ext_iff_of_nodup hnodup hnodup').2 fun row =>
      (hrows row).trans (hrows' row).symm

/-- What is reached from one. -/
def reached : Query where
  name := "reached"
  kind := .table
  body := [.atom ⟨"path", [.const (.int 1), .var "y"]⟩]
  select := [⟨"to", .var "y"⟩]

/-- The session of the paths over two steps, as it is opened. -/
def pathSession : Session where
  store := FactStore.steps
  program := { predicates := [paths], queries := [reached] }
  settings := {}
  strata := Stratification.ofPredicates [paths]
  faults := predicateFaults FactStore.steps { predicates := [paths], queries := [reached] }
  workspace := { base := FactStore.steps.relations, slots := emptySlots ["path"] }

/-- The session of the paths is reachable. -/
theorem reachable_pathSession : Reachable FactStore.steps
    { predicates := [paths], queries := [reached] } {} pathSession := by
  have hstart : Session.start FactStore.steps { predicates := [paths], queries := [reached] } {} =
      .ok pathSession := rfl
  exact .start pathSession.observe hstart

/-- After a batch the query is answered again, and both times as every perfect model says. -/
theorem returns_perfect_answers_paths : ∃ result,
    (pathSession.runAll.2.run reached).1 = .ok result ∧ ∀ M,
      PerfectModel (EntityTable.render ∅) FactStore.steps.holds [paths] M →
        result.Lists (EntityTable.render ∅) reached M := by
  have hok : (pathSession.runAll.2.run reached).1.isOk = true := by decide +kernel
  obtain ⟨result, hresult⟩ := isOk_iff.1 hok
  obtain ⟨-, -, hmodels, -⟩ :=
    reachable_pathSession.runAll.returns_perfect_answers FactStore.built_steps
  exact ⟨result, hresult, fun M hM => (hmodels M hM).1 reached result (.run hresult)⟩

/-- Sound sessions of one store and one program know the same. -/
theorem Sound.knows [PatternEngine] (h : session.Sound) (hother : other.Sound)
    (hstore : other.store = session.store) (hprogram : other.program = session.program) :
    session.Knows other := by
  have hstrata : other.strata = session.strata := by
    rw [h.strata, hother.strata, hprogram]
  have hfaults : other.faults = session.faults := by
    rw [h.faults, hother.faults, hstore, hprogram]
  exact ⟨hstore, hprogram, hstrata, hfaults⟩

/-- In every session that operations lead to, a query that some such session prepared is answered
unless a budget is used up or someone cancelled; so is a relation whose strata pass their check, and
only a name of nothing, which has no strata to check, is refused as unknown. No index is ever out of
range. -/
theorem Reachable.only_interruptions [PatternEngine] (h : Reachable store program settings session)
    (hstore : store.Built) :
    session.workspace.inBounds = true ∧
    (∀ settings' earlier, Reachable store program settings' earlier → ∀ query prepared,
      earlier.prepare query = .ok prepared →
        (∀ fault, (session.execute prepared).1 = .error fault →
          fault.IsInterruption ∧ fault.isStatic = false) ∧
        (session.execute prepared).2.workspace.inBounds = true) ∧
    ∀ name, session.checkStrata (session.strata.required [name]) = .ok () →
      (∀ fault, (session.relation name).1 = .error fault →
        (fault.IsInterruption ∧ fault.isStatic = false) ∨
          (name ∉ program.predicates.map Predicate.name ∧ store.relation? name = none ∧
            fault = .unknownPredicate name)) ∧
      (session.relation name).2.workspace.inBounds = true := by
  obtain ⟨hsound, rfl, rfl⟩ := h.spec hstore
  refine ⟨hsound.upholds.inBounds, fun settings' earlier hearlier query prepared hprepare => ?_,
    fun name hcheck => ?_⟩
  · obtain ⟨hearlierSound, hearlierStore, hearlierProgram⟩ := hearlier.spec hstore
    rw [(hsound.knows hearlierSound hearlierStore hearlierProgram).prepare_eq] at hprepare
    obtain ⟨hnext, -, -, hfailed⟩ := hsound.gives_execute hprepare
    refine ⟨fun fault hfault => ?_, hnext.upholds.inBounds⟩
    have hinterrupt := (hfailed fault hfault).isInterruption
    exact ⟨hinterrupt, hinterrupt.isStatic_eq_false⟩
  · obtain ⟨hnext, -, -, hfailed⟩ := hsound.gives_relation name
    refine ⟨fun fault hfault => ?_, hnext.upholds.inBounds⟩
    rcases hfailed fault hfault with hstops | hrefused | hunknown
    · exact Or.inl ⟨hstops.isInterruption, hstops.isInterruption.isStatic_eq_false⟩
    · rw [hcheck] at hrefused
      cases hrefused
    · exact Or.inr hunknown

/-- Once it was cancelled, the session of the paths still prepares the query, and fails to answer it
by the cancellation alone. -/
theorem only_interruptions_paths : ∃ prepared fault, pathSession.prepare reached = .ok prepared ∧
    (pathSession.cancel.execute prepared).1 = .error fault ∧ fault.IsInterruption ∧
      fault.isStatic = false ∧
        (pathSession.cancel.execute prepared).2.workspace.inBounds = true := by
  have hok : (pathSession.prepare reached).isOk = true := by decide +kernel
  obtain ⟨prepared, hprepare⟩ := isOk_iff.1 hok
  have hcancelled : (pathSession.cancel.execute prepared).1 = .error .cancelled := rfl
  obtain ⟨-, hqueries, -⟩ :=
    reachable_pathSession.cancel.only_interruptions FactStore.built_steps
  obtain ⟨hfaults, hbounds⟩ := hqueries _ _ reachable_pathSession reached prepared hprepare
  obtain ⟨hinterruption, hstatic⟩ := hfaults _ hcancelled
  exact ⟨prepared, _, hprepare, hcancelled, hinterruption, hstatic, hbounds⟩

end Session

end Stratalog
