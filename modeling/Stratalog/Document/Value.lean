import Stratalog.Entity
import Stratalog.Json.Decode
import Stratalog.Schema

/-!
# Values, schemas and entities as documents

A value is written as an object with its kind as the only name; a schema as the array of its
columns; what is known of an entity as a record whose span may be missing.
-/

namespace Stratalog

/-- A column type by its written name. -/
def ColumnType.ofText? (text : String) : Option ColumnType :=
  [("entity", ColumnType.entity), ("string", .string), ("int", .int), ("bool", .bool)].lookup text

/-- Read a column type. -/
def ColumnType.ofJson? (depth : Nat) (json : Json) : Option ColumnType :=
  (json.choice? false depth).bind ColumnType.ofText?

/-- Write a value. -/
def Value.toJson : Value → Json
  | .entity id => .object [("entity", .number (.natural id))]
  | .string text => .object [("string", .string text)]
  | .int number => .object [("int", .integer number)]
  | .bool flag => .object [("bool", .bool flag)]

/-- Read a value. -/
def Value.ofJson? (depth : Nat) (json : Json) : Option Value :=
  match depth, json with
  | _ + 1, .object [(kind, content)] =>
    if kind = "entity" then content.natural?.map .entity
    else if kind = "string" then content.string?.map .string
    else if kind = "int" then content.integer?.map .int
    else if kind = "bool" then content.bool?.map .bool
    else none
  | _, _ => none

/-- Write a row. -/
def Row.toJson (row : Row) : Json :=
  .array (row.map Value.toJson)

/-- Read a row. -/
def Row.ofJson? (depth : Nat) (json : Json) : Option Row :=
  json.array? depth Value.ofJson?

/-- Write a column. -/
def Column.toJson (column : Column) : Json :=
  .object [("name", .string column.name), ("type", .string column.type.text)]

/-- Read a column. -/
def Column.ofJson? (depth : Nat) (json : Json) : Option Column :=
  match json.record? depth ["name", "type"] with
  | some (depth, [some name, some type]) => do
    return { name := ← name.string?, type := ← ColumnType.ofJson? depth type }
  | _ => none

/-- Write a schema. -/
def Schema.toJson (schema : Schema) : Json :=
  .array (schema.columns.map Column.toJson)

/-- Read a schema. -/
def Schema.ofJson? (depth : Nat) (json : Json) : Option Schema :=
  (json.array? depth Column.ofJson?).map Schema.mk

/-- A number of thirty-two bits. -/
def natural32Json (n : UInt32) : Json :=
  .natural n.toNat

/-- Write a span. -/
def Location.toJson (l : Location) : Json :=
  .object [("file", .string l.file), ("start_line", natural32Json l.startLine),
    ("start_column", natural32Json l.startColumn), ("end_line", natural32Json l.endLine),
    ("end_column", natural32Json l.endColumn)]

/-- Read a span. -/
def Location.ofJson? (depth : Nat) (json : Json) : Option Location :=
  match json.record? depth ["file", "start_line", "start_column", "end_line", "end_column"] with
  | some (_, [some file, some startLine, some startColumn, some endLine, some endColumn]) => do
    return {
      file := ← file.string?
      startLine := ← startLine.natural32?
      startColumn := ← startColumn.natural32?
      endLine := ← endLine.natural32?
      endColumn := ← endColumn.natural32? }
  | _ => none

/-- Write what is known of an entity; a missing span is left out. -/
def EntityInfo.toJson (info : EntityInfo) : Json :=
  .object ([("kind", .string info.kind), ("label", .string info.label)] ++
    (info.location.map fun l => ("location", l.toJson)).toList)

/-- Read a span that may be null or missing. -/
def locationOf? (depth : Nat) : Option Json → Option (Option Location)
  | none => some none
  | some json => json.optional? (Location.ofJson? depth)

/-- Read what is known of an entity. -/
def EntityInfo.ofJson? (depth : Nat) (json : Json) : Option EntityInfo :=
  match json.record? depth ["kind", "label", "location"] with
  | some (depth, [some kind, some label, location]) => do
    return {
      kind := ← kind.string?
      label := ← label.string?
      location := ← locationOf? depth location }
  | _ => none

end Stratalog
