import Stratalog.Fault
import Stratalog.Relation.Index
import Stratalog.Schema

/-!
# Relations

A relation is a named schema with pairwise distinct rows, kept in the order they were first
given. It carries the indices asked of it so far. An index is built on its first use; when rows
are appended every index held is extended by the new rows alone.
-/

namespace Stratalog

/-- A named set of rows in a fixed order, with the indices built over it so far. -/
structure Relation where
  name : String
  schema : Schema
  rows : List Row
  indices : List Index := []
  indexedRows : Nat := 0

namespace Relation

/-- A relation over rows already known to be distinct. -/
def ofDistinct (name : String) (schema : Schema) (rows : List Row) : Relation :=
  { name, schema, rows }

/-- A relation of the given rows, each kept once. -/
def ofRows (name : String) (schema : Schema) (rows : List Row) : Relation :=
  ofDistinct name schema (Row.distinct rows)

/-- A relation without rows. -/
def empty (name : String) (schema : Schema) : Relation :=
  ofDistinct name schema []

/-- The first column whose type a row of the right length gets wrong. -/
def mistyped? : List Column → Row → Option (Column × Value)
  | column :: columns, value :: values =>
    if value.type = column.type then mistyped? columns values else some (column, value)
  | _, _ => none

/-- The fault a row commits against a schema, if any. -/
def rowFault? (name : String) (schema : Schema) (row : Row) : Option Fault :=
  if row.length = schema.arity then
    (mistyped? schema.columns row).map fun (column, value) =>
      .typeMismatch (.relationColumn column.name name) column.type value.type
  else
    some (.arityMismatch name schema.arity row.length)

/-- A relation of the given rows, or the fault of the first row that does not conform. -/
def checked (name : String) (schema : Schema) (rows : List Row) : Except Fault Relation :=
  match rows.findSome? (rowFault? name schema) with
  | some fault => .error fault
  | none => .ok (ofRows name schema rows)

/-- The number of columns. -/
def arity (relation : Relation) : Nat :=
  relation.schema.arity

/-- The number of rows. -/
def size (relation : Relation) : Nat :=
  relation.rows.length

/-- Whether there are no rows. -/
def isEmpty (relation : Relation) : Bool :=
  relation.rows.isEmpty

/-- The index over the listed columns, if one was built. -/
def index? (relation : Relation) (columns : List Nat) : Option Index :=
  relation.indices.find? fun index => index.columns == columns

/-- Whether an index over the listed columns was built. -/
def hasIndex (relation : Relation) (columns : List Nat) : Bool :=
  (relation.index? columns).isSome

/-- The number of indices built. -/
def indexCount (relation : Relation) : Nat :=
  relation.indices.length

/-- The index over the listed columns, and the relation that holds it from now on. -/
def index (relation : Relation) (columns : List Nat) : Index × Relation :=
  match relation.index? columns with
  | some index => (index, relation)
  | none =>
    let index := Index.build columns relation.rows
    (index, { relation with
      indices := relation.indices ++ [index]
      indexedRows := relation.indexedRows + relation.size })

/-- Every column, in order. -/
def allColumns (relation : Relation) : List Nat :=
  List.range relation.arity

/-- Whether a row belongs to the relation, found through the index over all columns. -/
def contains (relation : Relation) (row : Row) : Bool × Relation :=
  if row.length = relation.arity then
    let (index, relation) := relation.index relation.allColumns
    (index.hasKey row, relation)
  else
    (false, relation)

/-- Append fresh rows and extend every index by them. -/
def extend (relation : Relation) (fresh : List Row) : Relation :=
  { relation with
    rows := relation.rows ++ fresh
    indices := relation.indices.map fun index => index.addAll relation.size fresh
    indexedRows := relation.indexedRows + fresh.length * relation.indexCount }

/-- The same rows under another name, without indices. -/
def rename (relation : Relation) (name : String) : Relation :=
  ofDistinct name relation.schema relation.rows

/-- The values of one column, row by row. -/
def column (relation : Relation) (column : Nat) : List Value :=
  relation.rows.map fun row => row.cell column

/-- Whether two relations hold the same rows, in any order. -/
def sameRows (left right : Relation) : Bool :=
  left.size == right.size &&
    (let held := Std.TreeSet.ofList left.rows compare
     right.rows.all held.contains)

/-- The rows in increasing order. -/
def sorted (relation : Relation) : Relation :=
  { relation with rows := Row.sort relation.rows }

/-- Building an index leaves the rows alone. -/
@[simp] theorem rows_index (relation : Relation) (columns : List Nat) :
    (relation.index columns).2.rows = relation.rows := by
  rw [index]; split <;> rfl

/-- Building an index leaves the name alone. -/
@[simp] theorem name_index (relation : Relation) (columns : List Nat) :
    (relation.index columns).2.name = relation.name := by
  rw [index]; split <;> rfl

/-- Building an index leaves the schema alone. -/
@[simp] theorem schema_index (relation : Relation) (columns : List Nat) :
    (relation.index columns).2.schema = relation.schema := by
  rw [index]; split <;> rfl

end Relation

end Stratalog
