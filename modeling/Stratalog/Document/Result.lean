import Stratalog.Document.Basic
import Stratalog.Document.Value
import Stratalog.Document.Program
import Stratalog.Result.Basic

/-!
# Results as documents

An answer is written with its columns and with the kind of every value; a resolved answer is
written with the names of its columns and with bare values, each entity as a record. An outcome of
a batch says under `status` whether it holds an answer or the account of a fault.

Answers and counters can also be read back.
-/

namespace Stratalog

/-- A value under the name of its kind. -/
def Value.toDocument : Value → Document
  | .entity id => .choice "entity" (.natural id.toNat)
  | .string text => .choice "string" (.text text)
  | .int number => .choice "int" (.number number.toInt)
  | .bool flag => .choice "bool" (.flag flag)

/-- A span of a source file. -/
def Location.toDocument (l : Location) : Document :=
  .record [("file", .text l.file), ("start_line", .natural l.startLine.toNat),
    ("start_column", .natural l.startColumn.toNat), ("end_line", .natural l.endLine.toNat),
    ("end_column", .natural l.endColumn.toNat)]

/-- A column. -/
def Column.toDocument (column : Column) : Document :=
  .record [("name", .text column.name), ("type", .text column.type.text)]

/-- An answer. -/
def ResultSet.toDocument (result : ResultSet) : Document :=
  .record [("query", .text result.query), ("kind", .text result.kind.text),
    ("columns", .list (result.columns.map Column.toDocument)),
    ("rows", .list (result.rows.map fun row => .list (row.map Value.toDocument)))]

/-- A finding. -/
def Diagnostic.toDocument (finding : Diagnostic) : Document :=
  .record [("entity", .natural finding.entity.toNat), ("message", .text finding.message),
    ("severity", .number finding.severity.toInt)]

/-- What is known of an entity, as further fields of its record. -/
def EntityInfo.toFields (info : EntityInfo) : List (String × Document) :=
  [("kind", .text info.kind), ("label", .text info.label)] ++
    (info.location.map fun l => ("location", l.toDocument)).toList

/-- A resolved value: an entity is a record, any other value stands bare. -/
def ResolvedValue.toDocument : ResolvedValue → Document
  | .entity id info =>
    .record (("id", .natural id.toNat) :: (info.map EntityInfo.toFields).getD [])
  | .string text => .text text
  | .int number => .number number.toInt
  | .bool flag => .flag flag

/-- A resolved answer. -/
def ResolvedResult.toDocument (result : ResolvedResult) : Document :=
  .record [("query", .text result.query), ("columns", .list (result.columns.map .text)),
    ("rows", .list (result.rows.map fun row => .list (row.map ResolvedValue.toDocument)))]

/-- The counters of an evaluation, by name. -/
def Counters.toFields (counters : Counters) : List (String × Nat) :=
  [("strata_evaluated", counters.strataEvaluated),
    ("predicates_evaluated", counters.predicatesEvaluated), ("rounds", counters.rounds),
    ("tuples_derived", counters.tuplesDerived), ("joins", counters.joins),
    ("cartesian_joins", counters.cartesianJoins), ("queries_run", counters.queriesRun),
    ("queries_failed", counters.queriesFailed)]

/-- The counters of an evaluation. -/
def Counters.toDocument (counters : Counters) : Document :=
  .record (counters.toFields.map fun field => (field.1, .natural field.2))

/-- The account of a fault. -/
def Fault.toDocument (fault : Fault) : Document :=
  .record [("kind", .text fault.kind), ("message", .text fault.message)]

/-- How a query came out. -/
def QueryOutcome.toDocument (outcome : QueryOutcome) : Document :=
  .record ([("query", .text outcome.query), ("elapsed_ms", .natural outcome.elapsedMs)] ++
    match outcome.result with
    | .ok result => [("status", .text "ok"), ("result", result.toDocument)]
    | .error fault => [("status", .text "failed"), ("error", fault.toDocument)])

/-- How a batch came out. -/
def BatchReport.toDocument (report : BatchReport) : Document :=
  .record [("created_at", .text report.createdAt),
    ("store_fingerprint", .text report.storeFingerprint),
    ("outcomes", .list (report.outcomes.map QueryOutcome.toDocument)),
    ("stats", report.counters.toDocument)]

/-- Read counters; none may be missing. -/
def Counters.ofJson? (depth : Nat) (json : Json) : Option Counters :=
  match json.record? depth (({} : Counters).toFields.map Prod.fst) with
  | some (_, [some strata, some predicates, some rounds, some tuples, some joins, some cartesian,
      some run, some failed]) => do
    return {
      strataEvaluated := ← strata.size?
      predicatesEvaluated := ← predicates.size?
      rounds := ← rounds.size?
      tuplesDerived := ← tuples.size?
      joins := ← joins.size?
      cartesianJoins := ← cartesian.size?
      queriesRun := ← run.size?
      queriesFailed := ← failed.size? }
  | _ => none

/-- Read an answer; no part of it may be missing. -/
def ResultSet.ofJson? (depth : Nat) (json : Json) : Option ResultSet :=
  match json.record? depth ["query", "kind", "columns", "rows"] with
  | some (depth, [some query, some kind, some columns, some rows]) => do
    return {
      query := ← query.string?
      kind := ← QueryKind.ofJson? depth kind
      columns := ← columns.array? depth Column.ofJson?
      rows := ← rows.array? depth Row.ofJson? }
  | _ => none

end Stratalog
