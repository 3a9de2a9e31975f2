import Stratalog.Dependency.Stratification
import Stratalog.Result.Basic
import Stratalog.Store.Fingerprint

/-!
# Summaries

Reports for the eye, as lines of text: the outcome of a query and the first rows of its answer, a
whole batch, the strata of a program, and the contents of a store. Findings are shown with their
severity and with the place of the entity they are about, if that is known.
-/

namespace Stratalog.Summary

/-- How many rows of an answer are shown unless another number is asked for. -/
def defaultPreview : Nat := 20

/-- One line on how a query came out. -/
def outcomeLine (outcome : QueryOutcome) : String :=
  match outcome.result with
  | .ok result =>
    "  OK " ++ outcome.query ++ " (" ++ toString result.size ++ " row(s), " ++
      toString outcome.elapsedMs ++ " ms)"
  | .error fault => "  FAILED " ++ outcome.query ++ " [" ++ fault.kind ++ "] " ++ fault.message

/-- Where an entity stands, or its number where that is not known. -/
def placeText (entities : EntityTable) (entity : UInt64) : String :=
  ((entities[entity]?.bind EntityInfo.location).map Location.text).getD (Value.entityText entity)

/-- A finding. -/
def findingLine (entities : EntityTable) (finding : Diagnostic) : String :=
  "    - [" ++ toString finding.severity.toInt ++ "] " ++ finding.message ++ " " ++
    placeText entities finding.entity

/-- Cells side by side. -/
def rowLine (cells : List String) : String :=
  "    " ++ " | ".intercalate cells

/-- The first rows of an answer, and how many more there are. -/
def rowLines (preview : Nat) (entities : EntityTable) (result : ResultSet) : List String :=
  let shown :=
    match result.diagnostics with
    | .ok findings => (findings.take preview).map (findingLine entities)
    | .error _ =>
      rowLine (result.columns.map Column.name) ::
        (result.rows.take preview).map fun row => rowLine (row.map entities.render)
  shown ++
    if preview < result.size then ["    ... " ++ toString (result.size - preview) ++ " more"]
    else []

/-- One line on how a query came out, and the first rows of its answer. -/
def outcomeLines (preview : Nat) (entities : EntityTable) (outcome : QueryOutcome) :
    List String :=
  outcomeLine outcome ::
    match outcome.result with
    | .ok result => rowLines preview entities result
    | .error _ => []

/-- What was done to answer the queries of a batch. -/
def counterLines (counters : Counters) : List String :=
  ["EVALUATION",
    "  Strata evaluated: " ++ toString counters.strataEvaluated,
    "  Predicates evaluated: " ++ toString counters.predicatesEvaluated,
    "  Fixpoint rounds: " ++ toString counters.rounds,
    "  Tuples derived: " ++ toString counters.tuplesDerived,
    "  Joins: " ++ toString counters.joins] ++
    if 0 < counters.cartesianJoins then
      ["  Cartesian joins: " ++ toString counters.cartesianJoins]
    else []

/-- A batch. -/
def batchLines (preview : Nat) (entities : EntityTable) (report : BatchReport) : List String :=
  ["", "=== QLEVAL BATCH REPORT ===", "  Store: " ++ report.storeFingerprint,
    "  Created: " ++ report.createdAt, ""] ++
    report.outcomes.flatMap (outcomeLines preview entities) ++ [""] ++
    counterLines report.counters ++
    ["", toString report.succeeded ++ " succeeded, " ++ toString report.failed ++ " failed"]

/-- A stratum, and the faults of its members. -/
def stratumLines (strata : Stratification) (stratum : Stratum) : List String :=
  let marker := if stratum.recursive then " (recursive)" else ""
  ("  #" ++ toString stratum.id ++ " level " ++ toString stratum.level ++ marker ++ ": " ++
      ", ".intercalate stratum.predicates) ::
    (stratum.predicates.filterMap strata.faultOf?).map fun fault =>
      "    error: " ++ fault.message

/-- The strata of a program. -/
def strataLines (strata : Stratification) : List String :=
  "STRATA" :: strata.strata.flatMap (stratumLines strata)

/-- A base relation: its name, its columns and its size. -/
def relationLine (name : String) (relation : Relation) : String :=
  let columns := relation.schema.columns.map fun column =>
    column.name ++ ": " ++ column.type.text
  "  " ++ name ++ "(" ++ ", ".intercalate columns ++ ") " ++ toString relation.size

/-- The contents of a store. -/
def storeLines (store : FactStore) : List String :=
  ["FACT STORE", "  Fingerprint: " ++ store.fingerprint,
    "  Entities: " ++ toString store.entities.size, "  Facts: " ++ toString store.size] ++
    store.relations.toList.map fun (name, relation) => relationLine name relation

/-- Lines as a text. -/
def text (lines : List String) : String :=
  String.join (lines.map (· ++ "\n"))

end Stratalog.Summary
