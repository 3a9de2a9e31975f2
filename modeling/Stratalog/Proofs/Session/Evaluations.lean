import Stratalog.Proofs.Fixpoint.Evaluations
import Stratalog.Proofs.Session.Conformity

/-!
# The evaluations of a session

The operations of a session evaluate bodies in two places. A stratum that is gone through and is not
finished yet has its rules evaluated, in all its rounds. A query whose strata are finished has its body
evaluated, and its selections for the rows found.

Wherever this happens, the workspace is kept up and its books are balanced. So what is read is accepted
and every expression is defined.
-/

namespace Stratalog

open Evaluation Eval

namespace Evaluation

/-- The expressions that evaluating a query in a workspace evaluates, each with a row. -/
inductive QueryMeets [PatternEngine] (context : Context) (workspace : Workspace) (query : Query) :
    SlotExpr → Row → Prop
  | body {expr : SlotExpr} {row : Row}
      (hmeets : BodyMeets context workspace query.body none expr row) :
      QueryMeets context workspace query expr row
  | selection {plan : Plan} {table : BindingTable} {after : Workspace} {exprs : List SlotExpr}
      {expr : SlotExpr} {row : Row}
      (hplan : Plan.ofBody (sizeIn workspace) query.body none = .ok plan)
      (htable : (runPlan context plan).run.run workspace = (.ok table, after))
      (hcompile : compileSelections table.vars.idxOf? query.select = .ok exprs)
      (hexpr : expr ∈ exprs) (hrow : row ∈ table.rows) :
      QueryMeets context workspace query expr row

/-- Each compiled selection was compiled from a selection. -/
theorem exists_of_compileSelections {layout : Layout} {select : List Selection}
    {exprs : List SlotExpr} (h : compileSelections layout select = .ok exprs) :
    ∀ expr ∈ exprs, ∃ item ∈ select, SlotExpr.compile layout item.expr = .ok expr := by
  induction select generalizing exprs with
  | nil =>
    cases h
    simp
  | cons item rest ih =>
    rw [compileSelections] at h
    obtain ⟨first, hfirst, h⟩ := bind_eq_ok.1 h
    obtain ⟨others, hothers, h⟩ := bind_eq_ok.1 h
    cases h
    refine List.forall_mem_cons.2 ⟨⟨item, List.mem_cons_self, hfirst⟩, fun expr hexpr => ?_⟩
    obtain ⟨found, hfound, hcompile⟩ := ih hothers expr hexpr
    exact ⟨found, List.mem_cons_of_mem _ hfound, hcompile⟩

/-- The expressions that evaluating a checked query evaluates are defined, provided what it reads is
accepted. -/
theorem QueryMeets.defined [PatternEngine] {context : Context} {workspace : Workspace} {query : Query}
    {catalog : Catalog} {schema : Schema} {expr : SlotExpr} {row : Row}
    (h : QueryMeets context workspace query expr row) (hcoherent : workspace.Coherent)
    (hconforms : workspace.Conforms catalog)
    (hcheck : Typing.checkQuery catalog query = .ok schema)
    (hnames : workspace.ConformsAt catalog query.reads) :
    expr.Defined context.entities.render row := by
  obtain ⟨site, env, hbody, -⟩ := Typing.checked_of_checkQuery hcheck
  obtain ⟨⟨Γ, htyping, hselect⟩, -⟩ := Typing.wellTyped_of_checkQuery hcheck
  have hdelta : ∀ i : Nat, none = some i → ∃ atom : Atom, query.body[i]? = some (.atom atom) := nofun
  cases h with
  | body hmeets => exact hmeets.defined hcoherent hconforms hbody hnames hdelta
  | @selection plan table _ _ _ _ hplan htable hcompile hexpr hrow =>
    have hsolves : plan.Solves context workspace query.reads
        (workspace.Satisfies context.entities.render query.body none) :=
      (Plan.solves_ofBody hconforms (Typing.wellFormed_of_checkBody hbody).1
        (fun read hread => List.mem_map_of_mem hread) hdelta hplan).2
    obtain ⟨-, -, hlists⟩ :=
      (ensures_runPlan hsolves (Workspace.Kept.refl hcoherent)).of_ok htable
    have hsatisfied := (hlists.mem_iff (hlists.length _ hrow)).1 hrow
    obtain ⟨item, hitem, hcompiled⟩ := exists_of_compileSelections hcompile expr hexpr
    obtain ⟨i, hi, rfl⟩ := List.getElem_of_mem hitem
    have htyped := hselect.get hi (hselect.length_eq ▸ hi)
    rw [hlists.eq_map_ofRow hrow]
    refine Expr.HasType.defined _ htyped (fun name _ => ?_) hcompiled
    exact htyping.fits_of_holds (fun literal hliteral => ⟨workspace.denotes false,
      fun read hread => hnames read.1 (Query.mem_reads hliteral hread) false,
      Workspace.satisfies_none_iff.1 hsatisfied literal hliteral⟩) name

end Evaluation

variable [PatternEngine]

namespace Session

/-- The strata that the operations of a session go through, with the workspace they begin in. -/
inductive GoesThrough (session : Session) : List Nat → Workspace → Prop
  | execute {query : Query} {prepared : PreparedQuery} {entered : Workspace}
      (hprepare : session.prepare query = .ok prepared)
      (hpass : session.context.pass.run.run session.workspace = (.ok (), entered)) :
      GoesThrough session prepared.strata entered
  | runAll : GoesThrough session session.neededStrata session.workspace
  | relation {name : String} (hderived : session.workspace.isDerived name = true)
      (hcheck : session.checkStrata (session.strata.required [name]) = .ok ()) :
      GoesThrough session (session.strata.required [name]) session.workspace

/-- The strata that the operations of a session evaluate, with the workspace they find. -/
inductive EvaluatesStratum (session : Session) : Nat → Workspace → Prop
  | intro {before after : List Nat} {i : Nat} {entered begun reached : Workspace}
      {failures : Failures} (hthrough : session.GoesThrough (before ++ i :: after) entered)
      (hbefore : (evaluateEach session.program session.strata session.context [] before).run
        entered = (failures, begun))
      (hnone : firstFailure? failures (session.strata.stratum i).dependsOn = none)
      (hnot : isPublished session.strata begun i = false)
      (hpass : session.context.pass.run.run begun = (.ok (), reached)) :
      EvaluatesStratum session i reached

/-- The queries that the operations of a session evaluate, with the workspace they find. -/
inductive EvaluatesQuery (session : Session) : PreparedQuery → Workspace → Prop
  | execute {query : Query} {prepared : PreparedQuery} {entered reached : Workspace}
      (hprepare : session.prepare query = .ok prepared)
      (hpass : session.context.pass.run.run session.workspace = (.ok (), entered))
      (hmaterialize : (materialize session.program session.strata session.context
        prepared.strata).run.run entered = (.ok (), reached)) :
      EvaluatesQuery session prepared reached
  | runAll {before after : List Query} {query : Query} {prepared : PreparedQuery}
      {failures : Failures} {entered reached : Workspace} {earlier : Session}
      (hqueries : session.program.queries = before ++ query :: after)
      (hstrata : (evaluateStrata session.program session.strata session.context
        session.neededStrata).run session.workspace = (failures, entered))
      (hearlier : (answerAll failures { session with workspace := entered } before).2 = earlier)
      (hprepare : earlier.prepare query = .ok prepared)
      (hnone : firstFailure? failures prepared.strata = none)
      (hpass : earlier.context.pass.run.run earlier.workspace = (.ok (), reached)) :
      EvaluatesQuery session prepared reached

/-- The expressions that the operations of a session evaluate, each with a row. -/
inductive Meets (session : Session) : SlotExpr → Row → Prop
  | rule {i : Nat} {entered reached : Workspace} {rule : Rule} {deltaAt : Option Nat}
      {expr : SlotExpr} {row : Row} (hstratum : session.EvaluatesStratum i entered)
      (hrule : Evaluates session.context (session.program.membersOf (session.strata.stratum i))
        (opened entered (session.program.membersOf (session.strata.stratum i))) rule deltaAt reached)
      (hmeets : BodyMeets session.context reached rule.body deltaAt expr row) :
      Meets session expr row
  | query {prepared : PreparedQuery} {reached : Workspace} {expr : SlotExpr} {row : Row}
      (hquery : session.EvaluatesQuery prepared reached)
      (hmeets : QueryMeets session.context reached prepared.query expr row) :
      Meets session expr row

variable {session : Session} {prepared : PreparedQuery} {ids : List Nat} {i : Nat}
  {workspace : Workspace} {expr : SlotExpr} {row : Row}

namespace Sound

/-- Strata that are gone through are clean and listed each after those it depends on. -/
theorem goesThrough_spec (h : session.Sound) (hthrough : session.GoesThrough ids workspace) :
    Advances session.store session.program session.strata session.settings session.workspace workspace ∧
      session.strata.Scheduled ids ∧ ∀ i ∈ ids, i < session.strata.strata.length ∧
        session.strata.Clean session.store session.program i := by
  cases hthrough with
  | execute hprepare hpass =>
    obtain ⟨-, -, hstrata, hcheck⟩ := prepare_eq_ok hprepare
    have hpassed := (ensures_pass_advances h.upholds session.context).of_ok hpass
    rw [hstrata] at hcheck ⊢
    exact ⟨hpassed.2, h.required hcheck⟩
  | runAll => exact ⟨.refl h.upholds, h.neededStrata_spec⟩
  | relation _ hcheck => exact ⟨.refl h.upholds, h.required hcheck⟩

/-- A stratum that is evaluated is clean and not finished, and the strata below it are finished. -/
theorem evaluatesStratum_spec (h : session.Sound)
    (hstratum : session.EvaluatesStratum i workspace) :
    Advances session.store session.program session.strata session.settings session.workspace workspace ∧
      (i < session.strata.strata.length ∧ session.strata.Clean session.store session.program i) ∧
        isPublished session.strata workspace i = false ∧
          ∀ d ∈ (session.strata.stratum i).dependsOn,
            isPublished session.strata workspace d = true := by
  cases hstratum with
  | @intro before after _ entered begun _ failures hthrough hbefore hnone hnot hpass =>
    obtain ⟨hentered, hscheduled, hids⟩ := h.goesThrough_spec hthrough
    -- What was gone through before includes all that the stratum depends on.
    have hprefix : session.strata.Scheduled before := .of_append hscheduled
    have hentities : session.context.entities = session.store.entities := rfl
    obtain ⟨found, last, hrun, hbegun, hconcluded, -⟩ :=
      evaluateStrata_spec hentered.upholds h.accepted hentities hprefix
        fun j hj => hids j (List.mem_append_left _ hj)
    rw [run_evaluateStrata, hbefore] at hrun
    cases hrun
    have hpublished := isPublished_of_firstFailure?
      (fun d hd => hconcluded d (hscheduled before i after rfl d hd)) hnone
    obtain ⟨hkept, hpassed⟩ := (ensures_pass_advances hbegun.upholds session.context).of_ok hpass
    exact ⟨(hentered.trans hbegun).trans hpassed, hids i (by simp),
      (hkept.encloses.isPublished_stratum _ i).trans hnot,
      fun d hd => hpassed.isPublished_stratum (hpublished d hd)⟩

/-- When a query of a batch has its turn, only the workspace has changed. The strata it reads are
finished unless one of them has failed. -/
theorem evolves_answerAll (h : session.Sound) {before after : List Query} {query : Query}
    {failures : Failures} (hqueries : session.program.queries = before ++ query :: after)
    (hstrata : (evaluateStrata session.program session.strata session.context
      session.neededStrata).run session.workspace = (failures, workspace)) :
    Advances session.store session.program session.strata session.settings session.workspace workspace ∧
      Evolves { session with workspace } (answerAll failures { session with workspace } before).2 ∧
        ∀ prepared, session.prepare query = .ok prepared →
          firstFailure? failures prepared.strata = none →
            ∀ i ∈ prepared.strata, isPublished session.strata workspace i = true := by
  obtain ⟨hadvances, hcovers, hfaults⟩ := h.covers_neededStrata hstrata
  have hbefore : Covers { session with workspace } failures before :=
    fun other hother => hcovers other (by simp [hqueries, hother])
  refine ⟨hadvances, ((h.with_workspace hadvances.upholds).answerAll_spec hbefore hfaults).2,
    fun prepared hprepare hnone => isPublished_of_firstFailure? ?_ hnone⟩
  exact hcovers query (by simp [hqueries]) prepared hprepare

/-- A query that is evaluated was prepared, and the strata it reads are finished. -/
theorem evaluatesQuery_spec (h : session.Sound)
    (hquery : session.EvaluatesQuery prepared workspace) :
    (∃ query, session.prepare query = .ok prepared) ∧
      (workspace.Upholds session.store session.program session.strata ∧
        Workspace.Turns session.store session.program session.strata session.settings
          session.workspace workspace) ∧
        ∀ i ∈ prepared.strata, isPublished session.strata workspace i = true := by
  cases hquery with
  | @execute query _ _ _ hprepare hpass hmaterialize =>
    obtain ⟨hentered, hscheduled, hids⟩ := h.goesThrough_spec (.execute hprepare hpass)
    obtain ⟨hreached, hpublished⟩ :=
      (ensures_materialize hentered.upholds h.accepted rfl hscheduled hids).of_ok hmaterialize
    exact ⟨⟨query, hprepare⟩, ⟨hreached.upholds, hentered.turns.trans hreached.turns⟩, hpublished⟩
  | @runAll before after query _ failures entered _ earlier hqueries hstrata hearlier hprepare hnone
      hpass =>
    obtain ⟨hentered, ⟨hsound, ⟨last, hframe, hturns⟩, hkept⟩, hpublished⟩ :=
      h.evolves_answerAll hqueries hstrata
    rw [hearlier] at hsound hframe hkept
    subst hframe
    have hpassed := ((ensures_pass_advances hsound.upholds _).of_ok hpass).2
    refine ⟨⟨query, hprepare⟩, ⟨hpassed.upholds,
      (hentered.turns.trans hturns).trans hpassed.turns⟩, fun i hi => ?_⟩
    exact hpassed.isPublished_stratum (hkept i (hpublished prepared hprepare hnone i hi))

/-- Every expression that the operations of a session evaluate has a value for its row, or a divisor of
zero. -/
theorem defined_of_meets (h : session.Sound)
    (hbalanced : session.workspace.Balanced session.store session.program session.strata)
    (hmeets : session.Meets expr row) : expr.Defined session.store.entities.render row := by
  obtain ⟨hstore, hnodup, hsound⟩ := h.accepted
  have hsettled {workspace : Workspace}
      (hupholds : workspace.Upholds session.store session.program session.strata)
      (hturns : Workspace.Turns session.store session.program session.strata session.settings
        session.workspace workspace) (name : String) : workspace.settled.ConformsAt
          (Catalog.of session.store session.program.predicates) name :=
    hupholds.conformsAt (hbalanced.turns hnodup hsound hturns) h.accepted h.built.conforms name
  cases hmeets with
  | @rule i entered _ _ _ _ _ hstratum hrule hmeets =>
    obtain ⟨hadvances, ⟨hi, hclean⟩, -, hlower⟩ := h.evaluatesStratum_spec hstratum
    have hready := h.accepted.ready hadvances.upholds hi hclean hlower
    exact hrule.defined hready
      (fun predicate hmem => Typing.wellTyped_of_checkPredicate (hclean.checked hnodup predicate hmem))
      (hsettled hadvances.upholds hadvances.turns) hmeets
  | @query prepared reached _ _ hquery hmeets =>
    obtain ⟨⟨query, hprepare⟩, ⟨hupholds, hturns⟩, -⟩ := h.evaluatesQuery_spec hquery
    obtain ⟨rfl, hcheck, -, -⟩ := prepare_eq_ok hprepare
    refine hmeets.defined hupholds.serves.coherent (hupholds.conforms hstore hnodup) hcheck
      fun name _ delta => ?_
    rw [hupholds.denotes_eq_settled]
    exact hsettled hupholds hturns name

end Sound

end Session

end Stratalog
