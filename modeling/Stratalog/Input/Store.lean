import Stratalog.Document.Store
import Stratalog.Input.Error
import Stratalog.Input.FileTree
import Stratalog.Json.Reader
import Stratalog.Store.Basic

/-!
# Loading fact stores

A store is either one document, or a folder that holds the list of entities in `entities.json` and
one relation per file, in files with the extension `json` anywhere below `relations`. Both layouts
are taken in the same way: entities first, then the relations one by one, each cell read as the
type of its column asks.
-/

namespace Stratalog

/-- A cell as a value of a type; nothing is converted. -/
def Value.ofCell? (type : ColumnType) (cell : Json) : Option Value :=
  match type with
  | .entity => cell.natural?.map .entity
  | .string => cell.string?.map .string
  | .int => cell.integer?.map .int
  | .bool => cell.bool?.map .bool

/-- A cell as a value of a type, or the error that it is none. -/
def Value.ofCell (type : ColumnType) (cell : Json) : Except InputError Value :=
  orCause (.cell type cell) (Value.ofCell? type cell)

/-- Cells as values of the types beside them. -/
def Row.ofCells : List ColumnType → List Json → Except InputError Row
  | type :: types, cell :: cells => do
    return (← Value.ofCell type cell) :: (← Row.ofCells types cells)
  | _, _ => .ok []

/-- The written row at a place of a relation. -/
def RelationRecord.row (record : RelationRecord) (index : Nat) (cells : List Json) :
    Except InputError Row :=
  if cells.length = record.columns.length then
    atStage (.row index record.name) (Row.ofCells (record.columns.map Column.type) cells)
  else
    .error { cause := .rowLength index record.name cells.length record.columns.length }

/-- The written rows of a relation from a place on. -/
def RelationRecord.rowsFrom (record : RelationRecord) :
    Nat → List (List Json) → Except InputError (List Row)
  | _, [] => .ok []
  | index, cells :: rest => do
    return (← record.row index cells) :: (← record.rowsFrom (index + 1) rest)

namespace FactStore

/-- Record a written entity. -/
def takeEntity (store : FactStore) (record : EntityRecord) : FactStore :=
  store.addEntity record.id record.info

/-- Add a written relation. -/
def takeRelation (store : FactStore) (record : RelationRecord) : Except InputError FactStore := do
  let rows ← record.rowsFrom 0 record.rows
  (store.addRelation record.name ⟨record.columns⟩ rows).mapError fun fault =>
    { cause := .fault fault }

/-- Add written relations in turn. -/
def takeRelations (store : FactStore) : List RelationRecord → Except InputError FactStore
  | [] => .ok store
  | record :: rest => do
    (← store.takeRelation record).takeRelations rest

/-- The store a record describes. -/
def ofRecord (record : StoreRecord) : Except InputError FactStore := do
  let store ← (record.entities.foldl takeEntity {}).takeRelations record.relations
  return store.finish

/-- Read a text as a document of some kind. -/
def readJson (read : Nat → Json → Option α) (text : String) : Except InputError α :=
  orCause (.malformed .json) ((Json.parse? text).bind (read Json.deepest))

/-- The store a text is the written form of. -/
def ofText (text : String) : Except InputError FactStore := do
  ofRecord (← atStage .parseStore (readJson StoreRecord.ofJson? text))

/-- The store in a single document. -/
def loadDocument (tree : FileTree) (path : String) : Except InputError FactStore := do
  let text ← atStage (.readStore path) (orCause .inaccessible (tree.text? path))
  atStage (.loadStore path) (ofText text)

/-- A part of a store that stands in a file of its own. -/
def readPart (tree : FileTree) (path : String) (read : Nat → Json → Option α) :
    Except InputError α := do
  let text ← atStage (.readPart path) (orCause .inaccessible (tree.text? path))
  atStage (.parsePart path) (readJson read text)

/-- The written entities of a folder; the file that lists them may be missing. -/
def readEntities (tree : FileTree) (folder : String) : Except InputError (List EntityRecord) :=
  let path := Path.inside folder "entities.json"
  if tree.isFile path then readPart tree path EntityRecord.listOfJson? else .ok []

/-- The files of a folder that hold one relation each, in the order of their names. -/
def relationFiles (tree : FileTree) (folder : String) : List String :=
  (tree.filesBelow (Path.inside folder "relations")).filter fun path =>
    Path.extension? path |>.any fun extension => extension.map Char.toLower == "json"

/-- Add the relations in files in turn. -/
def takeFiles (tree : FileTree) (store : FactStore) :
    List String → Except InputError FactStore
  | [] => .ok store
  | path :: rest => do
    let record ← readPart tree path RelationRecord.ofJson?
    let store ← atStage (.loadPart path) (store.takeRelation record)
    takeFiles tree store rest

/-- The files that hold the relations of a folder. They are found on a walk that has to come to its end
before any of them is read. -/
def findRelations (tree : FileTree) (folder : String) : Except InputError (List String) :=
  let path := Path.inside folder "relations"
  if !tree.isFolder path then .error { cause := .noRelations folder }
  else if !tree.isWalkable path then .error { stages := [.walk path], cause := .inaccessible }
  else .ok (relationFiles tree folder)

/-- The store in a folder. -/
def loadFolder (tree : FileTree) (folder : String) : Except InputError FactStore := do
  let entities ← readEntities tree folder
  let files ← findRelations tree folder
  let store ← takeFiles tree (entities.foldl takeEntity {}) files
  return store.finish

/-- The store at a path, whichever its layout. -/
def load (tree : FileTree) (path : String) : Except InputError FactStore :=
  if tree.isFolder path then loadFolder tree path else loadDocument tree path

end FactStore

end Stratalog
