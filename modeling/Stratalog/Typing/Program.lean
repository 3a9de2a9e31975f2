import Stratalog.Program.Basic
import Stratalog.Store.Basic
import Stratalog.Typing.Body

/-!
# Typing of programs

A derived predicate is well formed when no base relation has its name and each of its rules gives
every column a value of the column's type. A query is well formed when it selects something, its
selections have types, and a diagnostic query selects an entity, a message and a severity.
-/

namespace Stratalog

/-- The schemas of the derived predicates and, behind them, of the base relations. -/
def Catalog.of (store : FactStore) (predicates : List Predicate) : Catalog := fun name =>
  match predicates.reverse.find? fun predicate => predicate.name == name with
  | some predicate => some predicate.schema
  | none => (store.relation? name).map Relation.schema

namespace Typing

/-- Check the terms of a rule head against the columns they fill. -/
def checkHead (site : Site) (env : TypeEnv) : List Term → List Column → Except Fault Unit
  | term :: terms, column :: columns => do
    let place := Site.headColumn column.name site
    match term with
    | .var name => do
      let type ← env.get (.head site) name
      expect place column.type type
    | .const value => expect place column.type value.type
    | .wildcard => .error (.invalidPlan (.wildcardInHead site))
    checkHead site env terms columns
  | _, _ => .ok ()

/-- Check one rule of a derived predicate. -/
def checkRule [PatternEngine] (catalog : Catalog) (predicate : Predicate) (index : Nat) (rule : Rule) :
    Except Fault Unit := do
  let site := Site.rule index predicate.name
  if rule.head.length = predicate.columns.length then
    let env ← checkBody catalog site rule.body
    checkHead site env rule.head predicate.columns
  else
    .error (.arityMismatch predicate.name predicate.columns.length rule.head.length)

/-- Check rules, the first of which stands at `index`. -/
def checkRules [PatternEngine] (catalog : Catalog) (predicate : Predicate) :
    Nat → List Rule → Except Fault Unit
  | _, [] => .ok ()
  | index, rule :: rest => do
    checkRule catalog predicate index rule
    checkRules catalog predicate (index + 1) rest

/-- Check a derived predicate over a store. -/
def checkPredicate [PatternEngine] (store : FactStore) (catalog : Catalog) (predicate : Predicate) :
    Except Fault Unit :=
  if store.hasRelation predicate.name then
    .error (.invalidPlan (.shadowsBase predicate.name))
  else checkRules catalog predicate 0 predicate.rules

/-- The columns a query selects. -/
def selectColumns (site : Site) (env : TypeEnv) : List Selection → Except Fault (List Column)
  | [] => .ok []
  | item :: rest => do
    let type ← exprType (.selected item.name site) env item.expr
    return ⟨item.name, type⟩ :: (← selectColumns site env rest)

/-- The column types of a diagnostic: an entity, a message and a severity. -/
def diagnosticTypes : List ColumnType :=
  [.entity, .string, .int]

/-- Check columns against the types a diagnostic has. -/
def checkDiagnosticTypes (site : Site) : List Column → List ColumnType → Except Fault Unit
  | column :: columns, type :: types => do
    expect (.diagnosticColumn column.name site) type column.type
    checkDiagnosticTypes site columns types
  | _, _ => .ok ()

/-- Check the shape asked of an answer. -/
def checkShape (site : Site) (kind : QueryKind) (columns : List Column) : Except Fault Unit :=
  match kind with
  | .table => .ok ()
  | .diagnostic =>
    if columns.length = diagnosticTypes.length then
      checkDiagnosticTypes site columns diagnosticTypes
    else .error (.invalidPlan (.diagnosticShape site columns.length))

/-- Check a query and find the schema of its answer. -/
def checkQuery [PatternEngine] (catalog : Catalog) (query : Query) : Except Fault Schema := do
  let site := Site.query query.name
  if query.select.isEmpty then
    .error (.invalidPlan (.emptySelect site))
  else
    let env ← checkBody catalog site query.body
    let columns ← selectColumns site env query.select
    checkShape site query.kind columns
    return ⟨columns⟩

end Typing

end Stratalog
