import Stratalog.Document.Value

/-!
# Fact stores as documents

A store is written as a list of entities and a list of relations. A relation has columns and rows;
the cells of a row stand bare, and only its columns say how they are to be taken, so they are kept
as they were found.
-/

namespace Stratalog

/-- A written entity. -/
structure EntityRecord where
  id : UInt64
  info : EntityInfo
  deriving DecidableEq, Repr, Inhabited

/-- A written relation. -/
structure RelationRecord where
  name : String
  columns : List Column
  rows : List (List Json)
  deriving Repr, Inhabited

/-- A written store. -/
structure StoreRecord where
  entities : List EntityRecord := []
  relations : List RelationRecord := []
  deriving Repr, Inhabited

/-- Read an entity. -/
def EntityRecord.ofJson? (depth : Nat) (json : Json) : Option EntityRecord :=
  match json.record? depth ["id", "kind", "label", "location"] with
  | some (depth, [some id, some kind, some label, location]) => do
    let id ← id.natural?
    let kind ← kind.string?
    let label ← label.string?
    return { id, info := { kind, label, location := ← locationOf? depth location } }
  | _ => none

/-- Read a list of entities. -/
def EntityRecord.listOfJson? (depth : Nat) (json : Json) : Option (List EntityRecord) :=
  json.array? depth EntityRecord.ofJson?

/-- A cell as it is found, if it can be used in full. -/
def cellOfJson? (depth : Nat) (json : Json) : Option Json :=
  if json.isSound depth then some json else none

/-- Read the cells of a row. -/
def cellsOfJson? (depth : Nat) (json : Json) : Option (List Json) :=
  json.array? depth cellOfJson?

/-- Read a relation. -/
def RelationRecord.ofJson? (depth : Nat) (json : Json) : Option RelationRecord :=
  match json.record? depth ["name", "columns", "rows"] with
  | some (depth, [some name, some columns, rows]) => do
    return {
      name := ← name.string?
      columns := ← columns.array? depth Column.ofJson?
      rows := ← Json.listOf? depth cellsOfJson? rows }
  | _ => none

/-- Read a store. -/
def StoreRecord.ofJson? (depth : Nat) (json : Json) : Option StoreRecord :=
  match json.record? depth ["entities", "relations"] with
  | some (depth, [entities, relations]) => do
    return {
      entities := ← Json.listOf? depth EntityRecord.ofJson? entities
      relations := ← Json.listOf? depth RelationRecord.ofJson? relations }
  | _ => none

end Stratalog
