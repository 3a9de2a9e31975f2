import Stratalog.Value

/-!
# Relation schemas

A schema is an ordered list of named, typed columns. A row conforms to it when the row has one
value per column, each of the column's type.
-/

namespace Stratalog

/-- A named, typed column. -/
structure Column where
  name : String
  type : ColumnType
  deriving DecidableEq, Repr, Inhabited

/-- The ordered columns of a relation. -/
structure Schema where
  columns : List Column := []
  deriving DecidableEq, Repr, Inhabited

namespace Schema

/-- The number of columns. -/
def arity (schema : Schema) : Nat :=
  schema.columns.length

/-- The column types in order. -/
def types (schema : Schema) : List ColumnType :=
  schema.columns.map Column.type

/-- The type of one column, if there is such a column. -/
def type? (schema : Schema) (column : Nat) : Option ColumnType :=
  schema.columns[column]?.map Column.type

/-- A schema whose columns are named `c0`, `c1` and so on. -/
def ofTypes (types : List ColumnType) : Schema :=
  ⟨types.mapIdx fun i type => ⟨"c" ++ toString i, type⟩⟩

/-- The columns of one schema followed by those of another. -/
def append (left right : Schema) : Schema :=
  ⟨left.columns ++ right.columns⟩

/-- The listed columns, in the order listed. -/
def pick (schema : Schema) (columns : List Nat) : Schema :=
  ⟨columns.map fun c => schema.columns.getD c default⟩

/-- Whether a row has one value of the right type per column. -/
def accepts (schema : Schema) (row : Row) : Bool :=
  row.map Value.type == schema.types

/-- The arity is the number of types. -/
@[simp] theorem length_types (schema : Schema) : schema.types.length = schema.arity := by
  simp [types, arity]

/-- An accepted row has as many values as there are columns. -/
theorem length_of_accepts {schema : Schema} {row : Row} (h : schema.accepts row) :
    row.length = schema.arity := by
  have h' : row.map Value.type = schema.types := by simpa [accepts] using h
  simpa using congrArg List.length h'

end Schema

end Stratalog
