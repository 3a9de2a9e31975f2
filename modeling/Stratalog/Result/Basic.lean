import Stratalog.Evaluation.Workspace
import Stratalog.Program.Basic

/-!
# Results

The answer to a query is a table: its rows stand in increasing order, each once. The answer to a
diagnostic query can be read as a list of findings, and any answer can be resolved, which replaces
entity identifiers by what the store records of them.
-/

namespace Stratalog

/-- The answer to a query. -/
structure ResultSet where
  query : String
  kind : QueryKind
  columns : List Column
  rows : List Row
  deriving DecidableEq, Repr, Inhabited

/-- A finding about an entity. -/
structure Diagnostic where
  entity : UInt64
  message : String
  severity : Int64
  deriving DecidableEq, Repr, Inhabited

/-- A value with what the store records of it. -/
inductive ResolvedValue where
  | entity (id : UInt64) (info : Option EntityInfo)
  | string (text : String)
  | int (number : Int64)
  | bool (flag : Bool)
  deriving DecidableEq, Repr, Inhabited

/-- An answer whose entities are resolved. -/
structure ResolvedResult where
  query : String
  columns : List String
  rows : List (List ResolvedValue)
  deriving Repr, Inhabited

namespace ResultSet

/-- The answer to a query from the rows found for it. -/
def ofRows (query : Query) (schema : Schema) (rows : List Row) : ResultSet :=
  { query := query.name
    kind := query.kind
    columns := schema.columns
    rows := Row.sortDistinct rows }

/-- The number of rows. -/
def size (result : ResultSet) : Nat :=
  result.rows.length

/-- Whether a row is among the answer's. -/
def contains (result : ResultSet) (row : Row) : Bool :=
  result.rows.contains row

/-- The position of the first column of a name. -/
def columnIndex? (result : ResultSet) (name : String) : Option Nat :=
  result.columns.findIdx? fun column => column.name == name

/-- One row of a diagnostic answer as a finding. -/
def diagnosticOfRow (query : String) : Row → Except Fault Diagnostic
  | [.entity entity, .string message, .int severity] => .ok { entity, message, severity }
  | _ => .error (.invalidPlan (.diagnosticRow query))

/-- Rows of a diagnostic answer as findings. -/
def diagnosticsOfRows (query : String) : List Row → Except Fault (List Diagnostic)
  | [] => .ok []
  | row :: rest => do
    return (← diagnosticOfRow query row) :: (← diagnosticsOfRows query rest)

/-- The findings of a diagnostic answer. -/
def diagnostics (result : ResultSet) : Except Fault (List Diagnostic) :=
  match result.kind with
  | .table => .error (.invalidPlan (.notDiagnostic result.query))
  | .diagnostic => diagnosticsOfRows result.query result.rows

end ResultSet

/-- Look an entity up; other values stand as they are. -/
def ResolvedValue.ofValue (entities : EntityTable) : Value → ResolvedValue
  | .entity id => .entity id entities[id]?
  | .string text => .string text
  | .int number => .int number
  | .bool flag => .bool flag

/-- The answer with its entities looked up. -/
def ResultSet.resolve (result : ResultSet) (entities : EntityTable) : ResolvedResult :=
  { query := result.query
    columns := result.columns.map Column.name
    rows := result.rows.map fun row => row.map (ResolvedValue.ofValue entities) }

/-- How a query of a batch came out. -/
structure QueryOutcome where
  query : String
  elapsedMs : Nat := 0
  result : Except Fault ResultSet

/-- Whether the query was answered. -/
def QueryOutcome.isOk (outcome : QueryOutcome) : Bool :=
  outcome.result.isOk

/-- How the queries of a program came out, in program order. -/
structure BatchReport where
  createdAt : String := ""
  storeFingerprint : String
  outcomes : List QueryOutcome
  counters : Counters

namespace BatchReport

/-- The outcome of the first query of a name. -/
def outcome? (report : BatchReport) (name : String) : Option QueryOutcome :=
  report.outcomes.find? fun outcome => outcome.query == name

/-- The number of queries answered. -/
def succeeded (report : BatchReport) : Nat :=
  report.outcomes.countP QueryOutcome.isOk

/-- The number of queries not answered. -/
def failed (report : BatchReport) : Nat :=
  report.outcomes.length - report.succeeded

end BatchReport

end Stratalog
