import Stratalog.Value

/-!
# Entities

An entity is an opaque identifier. What is known of it beyond its number is its category, the
label it is shown by, and where it stands in a source file.
-/

namespace Stratalog

/-- A span of a source file. -/
structure Location where
  file : String
  startLine : UInt32
  startColumn : UInt32
  endLine : UInt32
  endColumn : UInt32
  deriving DecidableEq, Repr, Inhabited

/-- The written form of a span: file, start and end. -/
def Location.text (l : Location) : String :=
  l.file ++ ":" ++ toString l.startLine.toNat ++ ":" ++ toString l.startColumn.toNat ++
    "-" ++ toString l.endLine.toNat ++ ":" ++ toString l.endColumn.toNat

/-- What is recorded of an entity. -/
structure EntityInfo where
  kind : String
  label : String
  location : Option Location := none
  deriving DecidableEq, Repr, Inhabited

/-- The recorded entities, by identifier. -/
abbrev EntityTable := Std.TreeMap UInt64 EntityInfo

namespace EntityTable

/-- The text of a value inside a message: an entity is shown by its label if it has one. -/
def render (entities : EntityTable) : Value → String
  | .entity id => (entities[id]?.map EntityInfo.label).getD (Value.entityText id)
  | value => value.text

end EntityTable

end Stratalog
