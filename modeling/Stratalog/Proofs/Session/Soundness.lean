import Stratalog.Pattern.Engine
import Stratalog.Proofs.Session.Evaluations
import Stratalog.Proofs.Session.Ledger

/-!
# Sessions are type sound

Types are checked once, before anything is evaluated. In every session that operations lead to,
published relations and answers nevertheless consist of accepted rows, the answers to diagnostic queries
can be read as findings, and expressions have values unless a divisor is zero.
-/

namespace Stratalog

open Evaluation Eval

/-- A diagnostic answer whose rows are accepted by columns of the types of a diagnostic can be read as
findings. -/
theorem ResultSet.exists_diagnostics {result : ResultSet} {schema : Schema}
    (hkind : result.kind = .diagnostic) (htypes : schema.types = Typing.diagnosticTypes)
    (hrows : ∀ row ∈ result.rows, schema.accepts row = true) :
    ∃ findings, result.diagnostics = .ok findings ∧ findings.length = result.rows.length := by
  unfold diagnostics
  rw [hkind]
  refine exists_diagnosticsOfRows result.query fun row hrow => ?_
  have haccepts := hrows row hrow
  rw [Schema.accepts, beq_iff_eq] at haccepts
  rw [← htypes, ← haccepts]

namespace Session

variable {session : Session} {store : FactStore} {program : Program} {settings : Settings}
  {query : Query} {prepared : PreparedQuery} {result : ResultSet} {relation : Relation}
  {name : String} {failures : Failures}

/-- What an evaluation answers in a session it answers in the workspace of the session. -/
theorem perform_eq_ok {α : Type} {evaluation : Eval α} {answer : α}
    (h : (session.perform evaluation).1 = .ok answer) :
    ∃ after, evaluation.run.run session.workspace = (.ok answer, after) :=
  ⟨_, Prod.ext h rfl⟩

/-- A result has the columns and the kind that its query was prepared with. -/
theorem shape_of_evaluateQuery [PatternEngine] {context : Context} {workspace after : Workspace}
    (h : (evaluateQuery context prepared).run.run workspace = (.ok result, after)) :
    result.columns = prepared.schema.columns ∧ result.kind = prepared.query.kind := by
  simp only [evaluateQuery, run_bind_eq_ok] at h
  obtain ⟨_, _, -, _, _, -, _, _, -, _, _, -, _, _, -, _, _, -, hreturn⟩ := h
  cases hreturn
  exact ⟨rfl, rfl⟩

/-- The result of executing a query comes from evaluating it. -/
theorem exists_of_execute [PatternEngine] (hprepare : session.prepare query = .ok prepared)
    (hresult : (session.execute prepared).1 = .ok result) : ∃ workspace after,
      session.EvaluatesQuery prepared workspace ∧
        (evaluateQuery session.context prepared).run.run workspace = (.ok result, after) := by
  obtain ⟨after, hrun⟩ := perform_eq_ok hresult
  obtain ⟨_, entered, hpass, hrun⟩ := run_bind_eq_ok.1 hrun
  obtain ⟨_, ready, hmaterialize, hrun⟩ := run_bind_eq_ok.1 hrun
  exact ⟨ready, after, .execute hprepare hpass hmaterialize, hrun⟩

/-- The result of running a query comes from executing it. -/
theorem exists_of_run [PatternEngine] (hresult : (session.run query).1 = .ok result) :
    ∃ prepared, session.prepare query = .ok prepared ∧
      (session.execute prepared).1 = .ok result := by
  unfold run at hresult
  split at hresult
  next => cases hresult
  next prepared hprepare => exact ⟨prepared, hprepare, hresult⟩

/-- A query of a batch is answered in the session left by the queries before it. -/
theorem exists_of_mem_answerAll [PatternEngine] {queries : List Query} {outcome : QueryOutcome}
    (h : (query, outcome) ∈ queries.zip (answerAll failures session queries).1) :
    ∃ before after, queries = before ++ query :: after ∧
      outcome = ((answerAll failures session before).2.answer failures query).1 := by
  induction queries generalizing session with
  | nil => simp at h
  | cons first rest ih =>
    rw [answerAll, List.zip_cons_cons, List.mem_cons] at h
    rcases h with heq | h
    · cases heq
      exact ⟨[], rest, rfl, rfl⟩
    · obtain ⟨before, after, rfl, rfl⟩ := ih h
      exact ⟨first :: before, after, rfl, rfl⟩

/-- A batch evaluates strata first, and answers its queries in turn. -/
theorem exists_of_mem_runAll [PatternEngine] {outcome : QueryOutcome}
    (h : (query, outcome) ∈ session.program.queries.zip session.runAll.1.outcomes) :
    ∃ before after failures workspace, session.program.queries = before ++ query :: after ∧
      (evaluateStrata session.program session.strata session.context session.neededStrata).run
        session.workspace = (failures, workspace) ∧
      outcome =
        ((answerAll failures { session with workspace } before).2.answer failures query).1 := by
  rcases hstrata : (evaluateStrata session.program session.strata session.context
    session.neededStrata).run session.workspace with ⟨failures, workspace⟩
  have houtcomes : session.runAll.1.outcomes =
      (answerAll failures { session with workspace } session.program.queries).1 := by
    unfold Session.runAll
    dsimp only
    rw [hstrata]
  rw [houtcomes] at h
  obtain ⟨before, after, hqueries, houtcome⟩ := exists_of_mem_answerAll h
  exact ⟨before, after, failures, workspace, hqueries, rfl, houtcome⟩

/-- The result of a query of a batch comes from evaluating it once no stratum it reads has failed. -/
theorem exists_of_answer [PatternEngine] (hresult : (session.answer failures query).1.result = .ok result) :
    ∃ prepared workspace after, session.prepare query = .ok prepared ∧
      firstFailure? failures prepared.strata = none ∧
        session.context.pass.run.run session.workspace = (.ok (), workspace) ∧
          (evaluateQuery session.context prepared).run.run workspace = (.ok result, after) := by
  unfold answer at hresult
  cases hprepare : session.prepare query with
  | error fault =>
    rw [hprepare] at hresult
    cases hresult
  | ok prepared =>
    simp only [hprepare] at hresult
    cases hnone : firstFailure? failures prepared.strata with
    | some fault =>
      simp only [hnone] at hresult
      cases hresult
    | none =>
      simp only [hnone] at hresult
      obtain ⟨after, hrun⟩ := perform_eq_ok hresult
      obtain ⟨_, workspace, hpass, hrun⟩ := run_bind_eq_ok.1 hrun
      exact ⟨prepared, workspace, after, rfl, hnone, hpass, hrun⟩

/-- The relation that is returned for a name is the one the session then resolves it to. -/
theorem resolve_of_relation [PatternEngine] (h : (session.relation name).1 = .ok relation) :
    (session.relation name).2.workspace.resolve name = .ok relation := by
  unfold Session.relation at h ⊢
  split
  next hderived =>
    rw [if_pos hderived] at h
    have hresolves : (do
        session.checkStrata (session.strata.required [name])
        materialize session.program session.strata session.context
          (session.strata.required [name])
        (← get).resolve name : Eval Relation).Ensures session.workspace
          (fun relation after => after.resolve name = .ok relation) fun _ _ => True := by
      simp only [ensures_bind, ensures_get, ensures_lift]
      exact ⟨fun _ _ => ensures_of_forall (fun _ _ _ => ⟨fun _ => id, fun _ _ => trivial⟩)
        fun _ _ _ => trivial, fun _ _ => trivial⟩
    obtain ⟨outcome, after, hperform, hok, -⟩ := perform_of_ensures hresolves
    dsimp only at h ⊢
    rw [hperform] at h ⊢
    exact hok relation h
  next hderived =>
    rw [if_neg hderived] at h
    exact h

namespace Sound

variable [PatternEngine]

/-- Whatever operation returns a result for a query, it comes from evaluating the query. -/
theorem exists_of_returns (h : session.Sound) (hreturns : session.Returns query result) :
    ∃ prepared workspace after, session.prepare query = .ok prepared ∧
      session.EvaluatesQuery prepared workspace ∧
        (evaluateQuery session.context prepared).run.run workspace = (.ok result, after) := by
  have hrun {query : Query} (hresult : (session.run query).1 = .ok result) :
      ∃ prepared workspace after, session.prepare query = .ok prepared ∧
        session.EvaluatesQuery prepared workspace ∧
          (evaluateQuery session.context prepared).run.run workspace = (.ok result, after) := by
    obtain ⟨prepared, hprepare, hexecute⟩ := exists_of_run hresult
    obtain ⟨workspace, after, hquery, hevaluate⟩ := exists_of_execute hprepare hexecute
    exact ⟨prepared, workspace, after, hprepare, hquery, hevaluate⟩
  cases hreturns with
  | run hresult => exact hrun hresult
  | @execute _ prepared _ hprepare hresult =>
    obtain ⟨workspace, after, hquery, hevaluate⟩ := exists_of_execute hprepare hresult
    exact ⟨prepared, workspace, after, hprepare, hquery, hevaluate⟩
  | runNamed hquery hresult =>
    unfold Session.runNamed at hresult
    rw [hquery] at hresult
    exact hrun hresult
  | runAll hmem hresult =>
    obtain ⟨before, after, failures, entered, hqueries, hstrata, rfl⟩ := exists_of_mem_runAll hmem
    obtain ⟨prepared, workspace, last, hprepare, hnone, hpass, hevaluate⟩ := exists_of_answer hresult
    have hquery : session.EvaluatesQuery prepared workspace :=
      .runAll hqueries hstrata rfl hprepare hnone hpass
    obtain ⟨-, ⟨-, ⟨_, hframe, -⟩, -⟩, -⟩ := h.evolves_answerAll hqueries hstrata
    rw [hframe] at hprepare hevaluate
    exact ⟨prepared, workspace, last, hprepare, hquery, hevaluate⟩

/-- A result has the columns that its query was prepared with, and these accept its rows. A diagnostic
one can be read as findings. -/
theorem accepts_of_returns (h : session.Sound) (hreturns : session.Returns query result) :
    ∃ prepared, session.prepare query = .ok prepared ∧
      result.columns = prepared.schema.columns ∧
        (∀ row ∈ result.rows, prepared.schema.accepts row = true) ∧
          (query.kind = .diagnostic → ∃ findings, result.diagnostics = .ok findings ∧
            findings.length = result.rows.length) := by
  obtain ⟨prepared, _, _, hprepare, -, hevaluate⟩ := h.exists_of_returns hreturns
  obtain ⟨hcolumns, hkind⟩ := shape_of_evaluateQuery hevaluate
  have hrows := h.accepts_of_entails hprepare (h.entails_of_returns hreturns)
  refine ⟨prepared, hprepare, hcolumns, hrows, fun hdiagnostic => ?_⟩
  obtain ⟨rfl, hcheck, -, -⟩ := prepare_eq_ok hprepare
  obtain ⟨-, htypes⟩ := Typing.wellTyped_of_checkQuery hcheck
  exact ResultSet.exists_diagnostics (hkind.trans hdiagnostic) (htypes hdiagnostic) hrows

/-- A relation that is returned has rows that the catalog accepts for its name. -/
theorem accepts_of_relation (h : session.Sound)
    (hbalanced : session.workspace.Balanced session.store session.program session.strata)
    (hrelation : (session.relation name).1 = .ok relation) {schema : Schema}
    (hschema : session.catalog name = some schema) :
    ∀ row ∈ relation.rows, schema.accepts row = true := by
  obtain ⟨-, hnodup, hstrata⟩ := h.accepted
  have hresolve := resolve_of_relation hrelation
  obtain ⟨hsound, ⟨workspace, hframe, hturns⟩, -, -⟩ := h.gives_relation name
  rw [hframe] at hsound hresolve
  intro row hrow
  exact hsound.upholds.conformsAt (hbalanced.turns hnodup hstrata hturns) h.accepted
    h.built.conforms name schema hschema row ⟨relation, hresolve, hrow⟩

end Sound

/-- In every session that operations lead to, whether its store was built or loaded, published relations
have rows that the columns of their predicates accept, and results have rows that the columns of their
prepared queries accept. So diagnostic results can be read as findings. Wherever the operations evaluate
an expression, it has no value only because of a divisor of zero. -/
theorem Reachable.type_sound [PatternEngine] (h : Reachable store program settings session)
    (hstore : store.Built ∨ ∃ tree path, FactStore.load tree path = .ok store) :
    (∀ name relation, session.workspace.published? name = some relation →
      ∃ predicate ∈ program.predicates, predicate.name = name ∧
        relation.schema = predicate.schema ∧
          ∀ row ∈ relation.rows, predicate.schema.accepts row = true) ∧
    (∀ name relation, (session.relation name).1 = .ok relation →
      ∀ schema, session.catalog name = some schema →
        ∀ row ∈ relation.rows, schema.accepts row = true) ∧
    (∀ query result, session.Returns query result → ∃ prepared,
      session.prepare query = .ok prepared ∧ result.columns = prepared.schema.columns ∧
        (∀ row ∈ result.rows, prepared.schema.accepts row = true) ∧
          (query.kind = .diagnostic → ∃ findings, result.diagnostics = .ok findings ∧
            findings.length = result.rows.length)) ∧
    ∀ expr row, session.Meets expr row → expr.Defined store.entities.render row := by
  have hbuilt : store.Built := by
    rcases hstore with hbuilt | ⟨_, _, hload⟩
    · exact hbuilt
    · exact FactStore.built_of_load hload
  have hbalanced := h.balanced hbuilt
  obtain ⟨hsound, rfl, rfl⟩ := h.spec hbuilt
  exact ⟨fun _ _ hpublished => hsound.accepts_of_published hbalanced hpublished,
    fun _ _ hrelation _ hschema => hsound.accepts_of_relation hbalanced hrelation hschema,
    fun _ _ hreturns => hsound.accepts_of_returns hreturns,
    fun _ _ hmeets => hsound.defined_of_meets hbalanced hmeets⟩

/-- The shares of what is reached from one, but for what is reached by a single step. -/
def shares : Query where
  name := "shares"
  kind := .diagnostic
  body := [.atom ⟨"path", [.const (.int 1), .var "y"]⟩]
  select := [⟨"entity", .const (.entity 7)⟩,
    ⟨"message", .concat [.const (.string "share of "), .var "y"]⟩,
    ⟨"severity", .arith .div (.const (.int 6)) (.arith .sub (.var "y") (.const (.int 2)))⟩]

/-- A quotient without a value. -/
def quotient : Query where
  name := "quotient"
  kind := .table
  body := [.assign "q" (.arith .div (.const (.int 6)) (.const (.int 0)))]
  select := [⟨"q", .var "q"⟩]

/-- The only step of the plan for the quotient comes upon its divisor. -/
theorem meets_quotient : pathSession.Meets (.arith .div (.const (.int 6)) (.const (.int 0))) [] := by
  have hprepared : (pathSession.prepare quotient).isOk = true := by decide +kernel
  have hnone : pathSession.strata.required quotient.reads = [] := by decide +kernel
  obtain ⟨prepared, hprepare⟩ := isOk_iff.1 hprepared
  obtain ⟨hquery, -, hstrata, -⟩ := prepare_eq_ok hprepare
  have hmaterialize (entered : Workspace) : (materialize pathSession.program pathSession.strata
      pathSession.context prepared.strata).run.run entered = (.ok (), entered) := by
    rw [hstrata, hnone]
    rfl
  have hplan (sizeOf : SizeOf) : Plan.ofBody sizeOf prepared.query.body none =
      .ok ⟨[.bind (.arith .div (.const (.int 6)) (.const (.int 0)))], ["q"]⟩ := by
    rw [hquery]
    rfl
  exact .query (.execute hprepare rfl (hmaterialize _))
    (.body ⟨_, hplan _, .here (by simp) (.bind (by simp))⟩)

/-- The shares are answered and can be read as findings, and the quotient has no value since its divisor
is zero. -/
theorem type_sound_shares : ∃ result findings, (pathSession.run shares).1 = .ok result ∧
    result.diagnostics = .ok findings ∧ findings.length = result.rows.length ∧
      ∃ expr row, pathSession.Meets expr row ∧
        expr.eval FactStore.steps.entities.render row = none ∧
          expr.DividesByZero FactStore.steps.entities.render row := by
  have hok : (pathSession.run shares).1.isOk = true := by decide +kernel
  obtain ⟨result, hresult⟩ := isOk_iff.1 hok
  obtain ⟨-, -, hresults, hdefined⟩ :=
    reachable_pathSession.type_sound (.inl FactStore.built_steps)
  obtain ⟨_, -, -, -, hfindings⟩ := hresults shares result (.run hresult)
  obtain ⟨findings, hdiagnostics, hlength⟩ := hfindings rfl
  exact ⟨result, findings, hresult, hdiagnostics, hlength, _, _, meets_quotient, rfl,
    (hdefined _ _ meets_quotient).1 rfl⟩

end Session

end Stratalog
