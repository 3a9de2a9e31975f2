import Stratalog.Evaluation.Fixpoint
import Stratalog.Result.Basic
import Stratalog.Store.Fingerprint
import Stratalog.Typing.Program

/-!
# Sessions

A session holds one store and one program. The derived predicates are checked and stratified once,
when the session opens; a predicate with a fault fails the queries that read it and no others.
A query draws on the strata it needs, lowest level first; each is evaluated at most once in a
session and its relations are kept for later queries. Strata are gone through one by one; those of one
level would bear any order.

Every operation gives an answer or a fault, and the session as it is afterwards.
-/

namespace Stratalog

/-- A store and a program, with all that was found out about them. -/
structure Session where
  store : FactStore
  program : Program
  settings : Settings
  strata : Stratification
  faults : List (String × Fault)
  workspace : Workspace
  cancelled : Bool := false
  /-- What the checkpoints of the session notice, in order. -/
  observe : Nat → Observation := fun _ => {}

/-- A query that passed every static check. -/
structure PreparedQuery where
  query : Query
  schema : Schema
  /-- The strata it reads, in order of level, then identifier. -/
  strata : List Nat

namespace Session

/-- The static faults of the derived predicates. -/
def predicateFaults [PatternEngine] (store : FactStore) (program : Program) : List (String × Fault) :=
  let catalog := Catalog.of store program.predicates
  program.predicates.filterMap fun predicate =>
    match Typing.checkPredicate store catalog predicate with
    | .error fault => some (predicate.name, fault)
    | .ok _ => none

/-- One empty slot per name. -/
def emptySlots (names : List String) : Std.TreeMap String (Option Relation) :=
  Std.TreeMap.ofList (names.map fun name => (name, none)) compare

/-- Open a session. Only a name defined twice prevents it. -/
def start [PatternEngine] (store : FactStore) (program : Program) (settings : Settings) :
    Except Fault Session := do
  program.checkNames
  return {
    store, program, settings
    strata := Stratification.ofPredicates program.predicates
    faults := predicateFaults store program
    workspace := {
      base := store.relations
      slots := emptySlots (program.predicates.map Predicate.name) } }

/-- The schemas of the predicates a query may read. -/
def catalog (session : Session) : Catalog :=
  Catalog.of session.store session.program.predicates

/-- What evaluations consult. -/
def context (session : Session) : Context :=
  { settings := session.settings
    entities := session.store.entities
    cancelled := session.cancelled
    observe := session.observe }

/-- Have every later evaluation fail. -/
def cancel (session : Session) : Session :=
  { session with cancelled := true }

/-- What was done so far, in numbers. -/
def counters (session : Session) : Counters :=
  session.workspace.counters

/-- The static fault of a derived predicate, if it has one. -/
def faultOf? (session : Session) (name : String) : Option Fault :=
  match session.strata.faultOf? name with
  | some fault => some fault
  | none => session.faults.lookup name

/-- Refuse strata that have a member with a fault. -/
def checkStrata (session : Session) (ids : List Nat) : Except Fault Unit :=
  let members := ids.flatMap fun id => (session.strata.stratum id).predicates
  match members.findSome? session.faultOf? with
  | some fault => .error fault
  | none => .ok ()

/-- Check a query and find the strata it reads. Nothing is evaluated. -/
def prepare [PatternEngine] (session : Session) (query : Query) : Except Fault PreparedQuery := do
  let schema ← Typing.checkQuery session.catalog query
  let strata := session.strata.required query.reads
  session.checkStrata strata
  return { query, schema, strata }

/-- Whether every member of a stratum is finished. -/
def isPublished (strata : Stratification) (workspace : Workspace) (id : Nat) : Bool :=
  (strata.stratum id).predicates.all workspace.isPublished

/-- Fill the slots of finished relations. -/
def publishAll : List Relation → Eval Unit
  | [] => return ()
  | relation :: rest => do
    set (← (← get).publish relation.name relation)
    publishAll rest

/-- Evaluate and publish a stratum. -/
def publishStratum [PatternEngine] (program : Program) (context : Context) (stratum : Stratum) :
    Eval Evaluation.StratumResult := do
  let predicates := stratum.predicates.filterMap program.predicate?
  let result ← Evaluation.evaluateStratum context stratum predicates
  publishAll result.relations
  return result

/-- Evaluate and publish a stratum unless that was done before. -/
def ensureStratum [PatternEngine] (program : Program) (strata : Stratification) (context : Context)
    (id : Nat) :
    Eval Unit := do
  if isPublished strata (← get) id then return ()
  else
    context.pass
    let stratum := strata.stratum id
    let result ← publishStratum program context stratum
    let members := (stratum.predicates.filterMap program.predicate?).length
    modify fun w =>
      { w with counters := w.counters.countStratum members result.rounds result.derived }

/-- Strata that failed, with their faults. -/
abbrev Failures := List (Nat × Fault)

/-- The fault of the first failed stratum among those listed. -/
def firstFailure? (failures : Failures) (ids : List Nat) : Option Fault :=
  ids.findSome? fun id => failures.lookup id

/-- Evaluate strata in the order given. A stratum above a failed one fails with the same fault;
the others are evaluated whatever happened before. -/
def evaluateEach [PatternEngine] (program : Program) (strata : Stratification) (context : Context) :
    Failures → List Nat → StateM Workspace Failures
  | failures, [] => return failures
  | failures, id :: rest => do
    match firstFailure? failures (strata.stratum id).dependsOn with
    | some fault => evaluateEach program strata context (failures ++ [(id, fault)]) rest
    | none =>
      match ← (ensureStratum program strata context id).run with
      | .error fault => evaluateEach program strata context (failures ++ [(id, fault)]) rest
      | .ok () => evaluateEach program strata context failures rest

/-- Evaluate the strata that are not finished, and return the failures. -/
def evaluateStrata [PatternEngine] (program : Program) (strata : Stratification) (context : Context)
    (ids : List Nat) : StateM Workspace Failures := do
  if ids.all (isPublished strata (← get)) then return []
  else evaluateEach program strata context [] ids

/-- Have strata finished, or fail with the first fault in order. -/
def materialize [PatternEngine] (program : Program) (strata : Stratification) (context : Context)
    (ids : List Nat) : Eval Unit := do
  let failures ← evaluateStrata program strata context ids
  match firstFailure? failures ids with
  | some fault => throw fault
  | none => return ()

/-- Evaluate the body of a query whose strata are finished. -/
def evaluateQuery [PatternEngine] (context : Context) (prepared : PreparedQuery) : Eval ResultSet := do
  let query := prepared.query
  let plan ← Plan.ofBody (Evaluation.sizeIn (← get)) query.body none
  let table ← Evaluation.runPlan context plan
  Evaluation.noteBounds (Evaluation.selectFits table query.select)
  let rows ← Evaluation.selectRows context table query.select
  context.checkSize rows.length query.name
  return ResultSet.ofRows query prepared.schema rows

/-- Run an evaluation in the workspace of a session. -/
def perform (session : Session) (evaluation : Eval α) : Except Fault α × Session :=
  let (result, workspace) := evaluation.run session.workspace
  (result, { session with workspace })

/-- Evaluate a prepared query. -/
def execute [PatternEngine] (session : Session) (prepared : PreparedQuery) :
    Except Fault ResultSet × Session :=
  let context := session.context
  session.perform do
    context.pass
    materialize session.program session.strata context prepared.strata
    evaluateQuery context prepared

/-- Count an answered query. -/
def countQuery (session : Session) (succeeded : Bool) : Session :=
  { session with
    workspace := { session.workspace with
      counters := session.workspace.counters.countQuery succeeded } }

variable [PatternEngine]

/-- Prepare and evaluate a query, which need not belong to the program. -/
def run (session : Session) (query : Query) : Except Fault ResultSet × Session :=
  match session.prepare query with
  | .error fault => (.error fault, session.countQuery false)
  | .ok prepared =>
    let (result, session) := session.execute prepared
    (result, session.countQuery result.isOk)

/-- Answer the query of the program of a name. -/
def runNamed (session : Session) (name : String) : Except Fault ResultSet × Session :=
  match session.program.query? name with
  | some query => session.run query
  | none => (.error (.invalidPlan (.noSuchQuery name)), session)

/-- Answer one query of a batch whose strata were evaluated before, with the given failures. -/
def answer (session : Session) (failures : Failures) (query : Query) :
    QueryOutcome × Session :=
  let (result, session) : Except Fault ResultSet × Session :=
    match session.prepare query with
    | .error fault => (.error fault, session)
    | .ok prepared =>
      match firstFailure? failures prepared.strata with
      | some fault => (.error fault, session)
      | none =>
        let context := session.context
        session.perform do
          context.pass
          evaluateQuery context prepared
  ({ query := query.name, result }, session.countQuery result.isOk)

/-- Answer the queries of a batch in turn. -/
def answerAll (failures : Failures) : Session → List Query → List QueryOutcome × Session
  | session, [] => ([], session)
  | session, query :: rest =>
    let (outcome, session) := session.answer failures query
    let (outcomes, session) := answerAll failures session rest
    (outcome :: outcomes, session)

/-- The strata that the cleanly prepared queries of the program need, each once, in order. -/
def neededStrata (session : Session) : List Nat :=
  let prepared := session.program.queries.filterMap fun query => (session.prepare query).toOption
  session.strata.inOrder (prepared.flatMap PreparedQuery.strata).eraseDups

/-- Answer every query of the program. All strata are evaluated first; a query that fails does not
affect the others. -/
def runAll (session : Session) : BatchReport × Session :=
  let evaluation := evaluateStrata session.program session.strata session.context
    session.neededStrata
  let (failures, workspace) := evaluation.run session.workspace
  let (outcomes, session) := answerAll failures { session with workspace } session.program.queries
  ({ storeFingerprint := session.store.fingerprint, outcomes, counters := session.counters },
    session)

/-- The finished relation of a derived predicate, or a base relation. -/
def relation (session : Session) (name : String) : Except Fault Relation × Session :=
  if session.workspace.isDerived name then
    let strata := session.strata.required [name]
    let context := session.context
    session.perform do
      session.checkStrata strata
      materialize session.program session.strata context strata
      (← get).resolve name
  else
    (session.workspace.resolve name, session)

end Session

end Stratalog
