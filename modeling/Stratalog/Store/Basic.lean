import Stratalog.Entity
import Stratalog.Relation.Basic

/-!
# Fact stores

A store holds base relations by name and the table of entities. It is assembled step by step; a
step that fails changes nothing. When there are entities, finishing a store also publishes what is
known of them as two relations, unless relations of those names were supplied.
-/

namespace Stratalog

/-- Base relations and entities. -/
structure FactStore where
  relations : Std.TreeMap String Relation := ∅
  entities : EntityTable := ∅

namespace FactStore

/-- The base relation of a name. -/
def relation? (store : FactStore) (name : String) : Option Relation :=
  store.relations[name]?

/-- The base relation of a name, or the fault of reading an unknown one. -/
def relation (store : FactStore) (name : String) : Except Fault Relation :=
  match store.relations[name]? with
  | some relation => .ok relation
  | none => .error (.unknownPredicate name)

/-- Whether a base relation of that name exists. -/
def hasRelation (store : FactStore) (name : String) : Bool :=
  store.relations.contains name

/-- The base relations in the order of their names. -/
def relationList (store : FactStore) : List Relation :=
  store.relations.toList.map Prod.snd

/-- The number of base facts. -/
def size (store : FactStore) : Nat :=
  store.relationList.foldr (fun relation total => relation.size + total) 0

/-- The text of a value inside a message. -/
def render (store : FactStore) (value : Value) : String :=
  store.entities.render value

/-- Add a base relation; every row is checked against the schema. -/
def addRelation (store : FactStore) (name : String) (schema : Schema) (rows : List Row) :
    Except Fault FactStore :=
  if store.relations.contains name then
    .error (.duplicateRelation name)
  else
    (Relation.checked name schema rows).map fun relation =>
      { store with relations := store.relations.insert name relation }

/-- Record what is known of an entity, in place of anything recorded before. -/
def addEntity (store : FactStore) (id : UInt64) (info : EntityInfo) : FactStore :=
  { store with entities := store.entities.insert id info }

/-- The name of the relation of entity categories. -/
def entityKindName : String := "entity_kind"

/-- The name of the relation of entity spans. -/
def entityLocationName : String := "entity_location"

/-- One row per entity: its identifier and category. -/
def entityKinds (entities : EntityTable) : Relation :=
  Relation.ofRows entityKindName ⟨[⟨"entity", .entity⟩, ⟨"kind", .string⟩]⟩
    (entities.toList.map fun (id, info) => [.entity id, .string info.kind])

/-- A line or column number as a value. -/
def coordinate (n : UInt32) : Value :=
  .int (Int64.ofNat n.toNat)

/-- One row per entity that has a span: its identifier and the span. -/
def entityLocations (entities : EntityTable) : Relation :=
  Relation.ofRows entityLocationName
    ⟨[⟨"entity", .entity⟩, ⟨"file", .string⟩, ⟨"start_line", .int⟩, ⟨"start_column", .int⟩,
      ⟨"end_line", .int⟩, ⟨"end_column", .int⟩]⟩
    (entities.toList.filterMap fun (id, info) =>
      info.location.map fun l =>
        [.entity id, .string l.file, coordinate l.startLine, coordinate l.startColumn,
          coordinate l.endLine, coordinate l.endColumn])

/-- Add a relation unless its name is taken. -/
def supply (store : FactStore) (relation : Relation) : FactStore :=
  if store.relations.contains relation.name then store
  else { store with relations := store.relations.insert relation.name relation }

/-- Finish a store: publish what is known of the entities, if there are any. -/
def finish (store : FactStore) : FactStore :=
  if store.entities.isEmpty then store
  else (store.supply (entityKinds store.entities)).supply (entityLocations store.entities)

end FactStore

end Stratalog
