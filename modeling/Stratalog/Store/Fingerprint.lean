import Stratalog.Digest.Blake3
import Stratalog.Store.Basic

/-!
# Store fingerprints

A fingerprint is the hash of a byte sequence written from the contents of a store: its relations
by name, each with its columns and its rows in increasing order, then its entities by identifier.
The order in which facts were added leaves no trace in it.
-/

namespace Stratalog.FactStore

/-- The bytes of a text. -/
def textBytes (text : String) : List UInt8 :=
  text.toUTF8.data.toList

/-- The eight bytes of a number, least significant first. -/
def numberBytes (n : UInt64) : List UInt8 :=
  (List.range 8).map fun i => (n >>> (8 * i).toUInt64).toUInt8

/-- A value: its kind, its text and a zero byte. -/
def valueBytes (value : Value) : List UInt8 :=
  value.type.rank.toUInt8 :: textBytes value.text ++ [0]

/-- A column: its name and its type. -/
def columnBytes (column : Column) : List UInt8 :=
  textBytes column.name ++ textBytes column.type.text

/-- A relation: its name, its columns and its rows in increasing order. -/
def relationBytes (name : String) (relation : Relation) : List UInt8 :=
  textBytes name ++ relation.schema.columns.flatMap columnBytes ++
    (Row.sort relation.rows).flatMap fun row => row.flatMap valueBytes

/-- An entity: its identifier, category and label. -/
def entityBytes (id : UInt64) (info : EntityInfo) : List UInt8 :=
  numberBytes id ++ textBytes info.kind ++ textBytes info.label

/-- The bytes that stand for the contents of a store. -/
def contentBytes (store : FactStore) : List UInt8 :=
  (store.relations.toList.flatMap fun (name, relation) => relationBytes name relation) ++
    store.entities.toList.flatMap fun (id, info) => entityBytes id info

/-- The digest of the contents of a store, in hexadecimal. -/
def fingerprint (store : FactStore) : String :=
  Blake3.hexHash store.contentBytes

end Stratalog.FactStore
