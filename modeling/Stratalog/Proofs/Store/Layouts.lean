import Stratalog.Proofs.Document.Store
import Stratalog.Proofs.Input.Path
import Stratalog.Proofs.Store.Contents
import Stratalog.Proofs.Store.Records

/-!
# Stores in folders and in documents

A store that is written as one document can also be kept in a folder: its entities in a file of their own
and each relation in another, at any places below the folder of the relations. Files that are not named as
JSON may stand among them.

The folder is listed by places and the document in its own order, but the order in which relations are taken
does not matter. So both are loaded or refused together, and what is loaded is the same.
-/

namespace Stratalog

open Json

/-- Whether a text is a written form of something. -/
def Json.WrittenIn (written : Json → Prop) (text : String) : Prop :=
  ∃ json, parse? text = some json ∧ written json

/-- Whether names lead to a file that is named as JSON. -/
def Path.isJson (names : List String) : Bool :=
  (names.getLast?.bind Path.extensionOfName?).any fun extension => extension.map Char.toLower == "json"

/-- Whether files stand where paths lead. -/
def FileTree.Placed (tree : FileTree) : Prop :=
  ∀ file, tree.files.contains file = true → ∃ path, Path.place path = file

/-- Whether the entities of a store are listed in a folder; where there are none the list may be missing. -/
def FileTree.KeepsEntities (tree : FileTree) (folder : String) (entities : List EntityRecord) : Prop :=
  match tree.files[Path.place folder ++ ["entities.json"]]? with
  | none => entities = []
  | some content => ∃ text, content = some text ∧
      WrittenIn (fun json => Enumerates (Says EntityRecord.ofJson?) entities (some json)) text

/-- Whether a store is kept in a folder, with its relations at certain places below that of the relations. -/
structure FileTree.Keeps (tree : FileTree) (folder : String) (record : StoreRecord)
    (places : List (List String)) : Prop where
  placed : tree.Placed
  opened : tree.hasFolder (Path.place folder ++ ["relations"]) = true
  walkable : tree.isWalkable (Path.inside folder "relations") = true
  entities : tree.KeepsEntities folder record.entities
  relations : List.Forall₂ (fun names (relation : RelationRecord) => ∃ text,
    tree.files[Path.place folder ++ "relations" :: names]? = some (some text) ∧
      WrittenIn relation.Written text) places record.relations
  distinct : places.Nodup
  listed : ∀ names, names ∈ places ↔
    tree.files.contains (Path.place folder ++ "relations" :: names) = true ∧ Path.isJson names = true

/-- Whether a store holds what is written: of each entity what was said last, and under the name of each
relation the rows that its cells spell. -/
structure StoreRecord.HeldBy (record : StoreRecord) (store : FactStore) : Prop where
  entities (id : UInt64) : store.entities[id]? = (record.entities.filterMap fun entity =>
    if entity.id = id then some entity.info else none).getLast?
  relations : ∀ relation ∈ record.relations, ∃ rows,
    List.Forall₂ (Row.IsSpelled (relation.columns.map Column.type)) relation.rows rows ∧
      store.relations[relation.name]? = some (.ofRows relation.name ⟨relation.columns⟩ rows)

/-- The folder of the relations has a name. -/
theorem isName_relations : Path.IsName "relations" := by
  decide

/-- The file of the entities has a name. -/
theorem isName_entities : Path.IsName "entities.json" := by
  decide

variable {tree : FileTree} {folder path : String} {record : StoreRecord} {places : List (List String)}
  {text : String} {store next : FactStore} {names : List String}

/-- A relation that fits has no cells that go deep. -/
theorem RelationRecord.Fits.isSound {record : RelationRecord} (h : record.Fits) (depth : Nat) :
    record.isSound depth = true := by
  refine List.all_eq_true.2 fun cells hcells => List.all_eq_true.2 fun cell hcell => ?_
  obtain ⟨column, -, value, hvalue⟩ := exists_mem_of_forall₂ (h cells hcells).flip hcell
  exact hvalue.isSound depth

namespace FactStore

/-- A written form is read as what it says, unless that is refused. -/
theorem readJson_eq_ok_iff {α : Type} {read : Nat → Json → Option α} {written : Json → Prop}
    {a found : α} (keep : Bool) (h : WrittenIn written text)
    (hread : ∀ json, written json → read deepest json = if keep then some a else none) :
    readJson read text = .ok found ↔ a = found ∧ keep = true := by
  obtain ⟨json, hparse, hwritten⟩ := h
  rw [readJson, orCause_eq_ok, hparse, Option.bind_some, hread json hwritten]
  cases keep <;> simp

/-- A part is read when its file holds a text that is read. -/
theorem readPart_eq_ok_iff {α : Type} {read : Nat → Json → Option α} {a : α} :
    readPart tree path read = .ok a ↔ ∃ text, tree.text? path = some text ∧ readJson read text = .ok a := by
  simp only [readPart, bind_eq_ok, atStage, mapError_eq_ok, orCause_eq_ok]

/-- Whether a relation is read from the file at a path, unless a cell goes deeper than a file of one relation
leaves room for. -/
def IsReadAt (tree : FileTree) (path : String) (record : RelationRecord) : Prop :=
  ∀ found : RelationRecord, readPart tree path RelationRecord.ofJson? = .ok found ↔
    record = found ∧ record.isSound 124 = true

/-- Relations are taken from files as they would be if they were read already. -/
theorem takeFiles_eq_ok_iff {paths : List String} {records : List RelationRecord}
    (h : List.Forall₂ (IsReadAt tree) paths records) :
    takeFiles tree store paths = .ok next ↔ store.takeRelations records = .ok next := by
  induction h generalizing store with
  | nil => rfl
  | @cons path record paths records hread _ ih =>
    simp only [takeFiles, takeRelations, bind_eq_ok, hread _, atStage, mapError_eq_ok, ih]
    -- A relation that is taken fits, and then its cells are scalars.
    constructor
    · rintro ⟨_, ⟨rfl, -⟩, htaken⟩
      exact htaken
    · rintro ⟨taken, hrecord, hrest⟩
      obtain ⟨step, hstep, -⟩ := takeRelation_eq_ok_iff.1 hrecord
      have hfits := RelationRecord.exists_standsFor_iff.1 ⟨step, hstep⟩
      exact ⟨record, ⟨rfl, hfits.isSound 124⟩, taken, hrecord, hrest⟩

/-- The store of a document is that of what it is the written form of. -/
theorem ofText_eq_ok_iff (h : WrittenIn record.Written text) : ofText text = .ok store ↔
    ∃ next, takeRelations (record.entities.foldl takeEntity {}) record.relations = .ok next ∧
      next.finish = store := by
  have hread (found : StoreRecord) : readJson StoreRecord.ofJson? text = .ok found ↔
      record = found ∧ record.relations.all (RelationRecord.isSound 122) = true :=
    readJson_eq_ok_iff _ h fun json hwritten => hwritten.ofJson? 121
  simp only [ofText, bind_eq_ok, atStage, mapError_eq_ok, hread, ofRecord]
  constructor
  · rintro ⟨_, ⟨rfl, -⟩, next, hnext, ⟨⟩⟩
    exact ⟨next, hnext, rfl⟩
  · rintro ⟨next, hnext, rfl⟩
    -- Nor do the cells go deeper than a document leaves room for.
    refine ⟨record, ⟨rfl, List.all_eq_true.2 fun relation hrelation => ?_⟩, next, hnext, rfl⟩
    have hfits := (isOk_takeRelations_iff.1 (isOk_iff.2 ⟨next, hnext⟩)).1 relation hrelation
    exact hfits.isSound 122

end FactStore

namespace FileTree

/-- What is left of a place below a folder leads on from there. -/
theorem below?_eq_some_iff {folder place : List String} :
    below? folder place = some names ↔ place = folder ++ names := by
  unfold below?
  split
  next h =>
    obtain ⟨rest, rfl⟩ := List.isPrefixOf_iff_prefix.1 h
    rw [List.drop_left, Option.some.injEq, List.append_cancel_left_eq]
  next h =>
    refine iff_of_false (by simp) ?_
    rintro rfl
    exact h (List.isPrefixOf_iff_prefix.2 (List.prefix_append _ _))

/-- The places of the files that hold relations. -/
def relationPlaces (tree : FileTree) (folder : String) : List (List String) :=
  (tree.files.keys.filterMap (below? (Path.place folder ++ ["relations"]))).filter Path.isJson

/-- A place is among those of relations when a file stands there that is named as JSON. -/
theorem mem_relationPlaces_iff : names ∈ tree.relationPlaces folder ↔
    tree.files.contains (Path.place folder ++ "relations" :: names) = true ∧ Path.isJson names = true := by
  simp [relationPlaces, below?_eq_some_iff]

/-- No place is listed twice. -/
theorem nodup_relationPlaces : (tree.relationPlaces folder).Nodup := by
  refine List.Nodup.filter _ (tree.files.nodup_keys.filterMap fun file other names hfile hother => ?_)
  rw [below?_eq_some_iff.1 hfile, below?_eq_some_iff.1 hother]

/-- Putting a file at a path leaves files where paths lead. -/
theorem Placed.addFile (h : tree.Placed) (path : String) (content : Option String) :
    (tree.addFile path content).Placed := by
  intro file hfile
  rw [FileTree.addFile, Std.TreeMap.contains_insert, Bool.or_eq_true, beq_iff_eq,
    Std.LawfulEqOrd.compare_eq_iff_eq] at hfile
  rcases hfile with hplace | hfile
  · exact ⟨path, hplace⟩
  · exact h file hfile

/-- What follows `relations` on the way to a file are names. -/
theorem Placed.isName_of_contains (hplaced : tree.Placed)
    (hfile : tree.files.contains (Path.place folder ++ "relations" :: names) = true) :
    ∀ name ∈ names, Path.IsName name := by
  obtain ⟨path, hpath⟩ := hplaced _ hfile
  exact Path.isName_of_place isName_relations hpath

end FileTree

namespace FactStore

/-- The files that hold relations are those at their places. -/
theorem relationFiles_eq (hplaced : tree.Placed) :
    relationFiles tree folder = (tree.relationPlaces folder).map
      (List.foldl Path.inside (Path.inside folder "relations")) := by
  rw [relationFiles, FileTree.filesBelow, FileTree.relationPlaces, Path.place_inside folder isName_relations,
    ← List.map_filterMap, List.filter_map]
  refine congrArg _ (List.filter_congr fun names hnames => ?_)
  obtain ⟨file, hfile, hbelow⟩ := List.mem_filterMap.1 hnames
  rw [FileTree.below?_eq_some_iff.1 hbelow, List.append_assoc, Std.TreeMap.mem_keys] at hfile
  have hproper : ∀ name ∈ names, Path.IsName name :=
    hplaced.isName_of_contains (Std.TreeMap.contains_iff_mem.2 hfile)
  rw [Function.comp_apply, Path.isJson]
  congr 1
  cases hlast : names.getLast? with
  | none =>
    obtain rfl := List.getLast?_eq_none_iff.1 hlast
    rw [List.foldl_nil, Path.extension?, Path.name?_inside folder isName_relations]
    decide +kernel
  | some name =>
    obtain ⟨hname, above, hpath⟩ := Path.exists_foldl_inside_eq
      (Path.inside folder "relations") hproper hlast
    rw [hpath, Path.extension?, Path.name?_inside above hname]

/-- A relation is read from the file that it is written in. -/
theorem isReadAt_of_written {relation : RelationRecord}
    (hproper : ∀ name ∈ names, Path.IsName name) (hne : names ≠ [])
    (hfile : tree.files[Path.place folder ++ "relations" :: names]? = some (some text))
    (htext : WrittenIn relation.Written text) :
    IsReadAt tree (names.foldl Path.inside (Path.inside folder "relations")) relation := by
  obtain ⟨name, hlast⟩ := Option.isSome_iff_exists.1 (List.getLast?_isSome.2 hne)
  obtain ⟨hname, above, hpath⟩ := Path.exists_foldl_inside_eq (Path.inside folder "relations")
    hproper hlast
  have hplace : Path.place (names.foldl Path.inside (Path.inside folder "relations")) =
      Path.place folder ++ "relations" :: names := by
    rw [Path.place_foldl_inside _ hproper, Path.place_inside folder isName_relations, List.append_assoc]
    rfl
  have hread : tree.text? (names.foldl Path.inside (Path.inside folder "relations")) = some text := by
    rw [FileTree.text?, hplace, hfile, hpath, Path.isFolder_inside above hname]
    rfl
  intro found
  simp only [readPart_eq_ok_iff, hread, Option.some.injEq, exists_eq_left']
  exact readJson_eq_ok_iff _ htext fun json hwritten => hwritten.ofJson? 123

/-- The entities of a folder are read. -/
theorem readEntities_eq_ok {entities : List EntityRecord} (h : tree.KeepsEntities folder entities) :
    readEntities tree folder = .ok entities := by
  have hplace := Path.place_inside folder isName_entities
  have hfolder := Path.isFolder_inside folder isName_entities
  unfold FileTree.KeepsEntities at h
  simp only [readEntities, FileTree.isFile, hplace, hfolder, Bool.not_false, Bool.true_and,
    Std.TreeMap.contains_eq_isSome_getElem?]
  split at h
  next hnone =>
    rw [hnone, h]
    rfl
  next content hsome =>
    obtain ⟨text, rfl, hwritten⟩ := h
    rw [hsome, Option.isSome_some, if_pos rfl, readPart_eq_ok_iff]
    refine ⟨text, ?_, (readJson_eq_ok_iff true hwritten fun json hlisted => ?_).2 ⟨rfl, rfl⟩⟩
    · rw [FileTree.text?, hfolder, hplace, hsome]
      rfl
    · exact listOf?_eq_some hlisted fun entity item hentity =>
        EntityRecord.ofJson?_of_says hentity 124

/-- A store is loaded from a folder when its relations are taken in the order of their places. -/
theorem loadFolder_eq_ok_iff (h : tree.Keeps folder record places) : ∃ records : List RelationRecord,
    records.Perm record.relations ∧ ∀ store, loadFolder tree folder = .ok store ↔
      ∃ next, takeRelations (record.entities.foldl takeEntity {}) records = .ok next ∧
        next.finish = store := by
  have hplaces : (tree.relationPlaces folder).Perm places :=
    (List.perm_ext_iff_of_nodup FileTree.nodup_relationPlaces h.distinct).2 fun names =>
      FileTree.mem_relationPlaces_iff.trans (h.listed names).symm
  obtain ⟨records, hrecords, hperm⟩ := List.perm_comp_forall₂ hplaces h.relations
  refine ⟨records, hperm, fun store => ?_⟩
  have hopened : tree.isFolder (Path.inside folder "relations") = true := by
    have hne : Path.inside folder "relations" ≠ "" := fun heq => by
      have hparts := Path.parts_inside folder isName_relations
      simp [heq] at hparts
    rw [FileTree.isFolder, Path.place_inside folder isName_relations, h.opened, bne_iff_ne.2 hne]
    rfl
  have hproper : ∀ names ∈ tree.relationPlaces folder, (∀ name ∈ names, Path.IsName name) ∧ names ≠ [] := by
    intro names hnames
    obtain ⟨hfile, hjson⟩ := FileTree.mem_relationPlaces_iff.1 hnames
    refine ⟨h.placed.isName_of_contains hfile, ?_⟩
    rintro rfl
    cases hjson
  have hread : List.Forall₂ (IsReadAt tree) (relationFiles tree folder) records := by
    rw [relationFiles_eq h.placed, List.forall₂_map_left_iff]
    refine ((List.forall₂_and_left _ _).2 ⟨hproper, hrecords⟩).imp ?_
    rintro names relation ⟨⟨hnames, hne⟩, text, hfile, hwritten⟩
    exact isReadAt_of_written hnames hne hfile hwritten
  simp only [loadFolder, readEntities_eq_ok h.entities, findRelations, hopened, h.walkable,
    Bool.not_true, Bool.false_eq_true, if_false, bind_eq_ok, Except.ok.injEq, exists_eq_left',
    takeFiles_eq_ok_iff hread, pure, Except.pure]

/-- Written relations are all taken after entities when each fits and no two have one name. -/
theorem isOk_takeRelations_entities_iff {entities : List EntityRecord} {records : List RelationRecord} :
    (takeRelations (entities.foldl takeEntity {}) records).isOk = true ↔
      (∀ record ∈ records, record.Fits) ∧ (records.map RelationRecord.name).Nodup := by
  have hempty (name : String) : (∅ : Relations).contains name = false := Std.TreeMap.contains_emptyc
  rw [isOk_takeRelations_iff, relations_takeEntities]
  simp [hempty]

/-- What was taken is held once the store is finished. -/
theorem heldBy_finish
    (h : takeRelations (record.entities.foldl takeEntity {}) record.relations = .ok next) :
    record.HeldBy next.finish := by
  constructor
  case entities =>
    intro id
    have hsteps : record.entities.foldl takeEntity {} =
        attemptAll {} (record.entities.map fun entity => .entity entity.id entity.info) := by
      rw [attemptAll, List.foldl_map]
      rfl
    rw [entities_finish, entities_takeRelations h, hsteps, entities_attemptAll, List.filterMap_map,
      Std.TreeMap.getElem?_emptyc, Option.or_none]
    rfl
  case relations =>
    intro relation hrelation
    have hfits := (isOk_takeRelations_iff.1 (isOk_iff.2 ⟨next, h⟩)).1 relation hrelation
    obtain ⟨_, rows, hrows, rfl⟩ := RelationRecord.exists_standsFor_iff.2 hfits
    refine ⟨rows, hrows, ?_⟩
    rw [relations_finish, (relations_takeRelations h).2
      (.inr ⟨_, rows, ⟨relation, hrelation, rows, hrows, rfl⟩, rfl⟩), Option.some_or]

/-- A store in a folder and the same store in a document are loaded exactly when each cell is a scalar of the
type of its column and the relations have names of their own. Then the stores that are loaded hold what is
written, and have the same entities, relations and fingerprint. -/
theorem layouts_agree (hkeeps : tree.Keeps folder record places)
    (htext : WrittenIn record.Written text) :
    ((loadFolder tree folder).isOk = true ↔ (ofText text).isOk = true) ∧
    ((ofText text).isOk = true ↔ (∀ relation ∈ record.relations, relation.Fits) ∧
      (record.relations.map RelationRecord.name).Nodup) ∧
    ∀ store other, loadFolder tree folder = .ok store → ofText text = .ok other →
      record.HeldBy other ∧ store.entities = other.entities ∧
      (∀ name : String, store.relations[name]? = other.relations[name]?) ∧
      store.fingerprint = other.fingerprint := by
  obtain ⟨records, hperm, hfolder⟩ := loadFolder_eq_ok_iff hkeeps
  have hloaded {outcome : Except InputError FactStore} {records : List RelationRecord}
      (h : ∀ store, outcome = .ok store ↔ ∃ next,
        takeRelations (record.entities.foldl takeEntity {}) records = .ok next ∧ next.finish = store) :
      outcome.isOk = true ↔
        (∀ record ∈ records, record.Fits) ∧ (records.map RelationRecord.name).Nodup := by
    rw [← isOk_takeRelations_entities_iff, isOk_iff, isOk_iff]
    simp only [h]
    exact ⟨fun ⟨_, next, hnext, _⟩ => ⟨next, hnext⟩, fun ⟨next, hnext⟩ => ⟨_, next, hnext, rfl⟩⟩
  have hdocument : (ofText text).isOk = true ↔ _ := hloaded fun _ => ofText_eq_ok_iff htext
  refine ⟨?_, hdocument, fun store other hstore hother => ?_⟩
  · rw [hdocument, hloaded hfolder]
    simp only [hperm.mem_iff, (hperm.map RelationRecord.name).nodup_iff]
  · obtain ⟨next, hnext, rfl⟩ := (hfolder store).1 hstore
    obtain ⟨taken, htaken, rfl⟩ := (ofText_eq_ok_iff htext).1 hother
    obtain ⟨taken', htaken', hentities, hrelations⟩ := takeRelations_perm hperm hnext
    rw [htaken] at htaken'
    cases htaken'
    have hentities : next.finish.entities = taken.finish.entities := by
      rw [entities_finish, entities_finish, hentities]
    have hrelations (name : String) : next.finish.relations[name]? = taken.finish.relations[name]? := by
      rw [relations_finish, relations_finish, hrelations, ← entities_finish next, hentities, entities_finish]
    have halike : next.finish.Alike taken.finish :=
      ⟨fun name => by rw [hrelations], fun id => by rw [hentities]⟩
    exact ⟨heldBy_finish htaken, hentities, hrelations, congrArg Blake3.hexHash halike.contentBytes_eq⟩

/-- A relation of no columns and no rows. -/
def marks : RelationRecord :=
  ⟨"marks", [], []⟩

/-- The marks, written as their fields in order. -/
def marksJson : Json :=
  .array [.string "marks", .array []]

/-- A relation of two columns. -/
def sizes : RelationRecord :=
  ⟨"sizes", [⟨"file", .entity⟩, ⟨"size", .int⟩],
    [[.number (.natural 7), .number (.negative (-3))], [.number (.natural 7), .number (.natural 2)]]⟩

/-- The sizes, written with the rows first. -/
def sizesJson : Json :=
  .object [("rows", .array [.array [.number (.natural 7), .number (.negative (-3))],
      .array [.number (.natural 7), .number (.natural 2)]]),
    ("name", .string "sizes"),
    ("columns", .array [.object [("name", .string "file"), ("type", .string "entity")],
      .object [("name", .string "size"), ("type", .string "int")]])]

/-- A list of one entity. -/
def entitiesJson : Json :=
  .array [.object [("id", .number (.natural 7)), ("kind", .string "file"), ("label", .string "a")]]

/-- An archive of one entity and two relations. -/
def archive : StoreRecord :=
  ⟨[⟨7, ⟨"file", "a", none⟩⟩], [marks, sizes]⟩

/-- The archive, written with the relations first. -/
def archiveJson : Json :=
  .object [("relations", .array [marksJson, sizesJson]), ("entities", entitiesJson)]

/-- The archive in a folder, where the second relation comes first and notes that are no text stand beside
it. -/
def archiveTree : FileTree where
  files := (((∅ : Std.TreeMap (List String) (Option String)).insert ["db", "entities.json"]
    (some entitiesJson.compact)).insert ["db", "relations", "a.json"]
    (some sizesJson.compact)).insert ["db", "relations", "b", "marks.JSON"]
    (some marksJson.compact) |>.insert ["db", "relations", "notes.txt"] none
  folders := [["db", "relations", "b"]]

/-- The entity is listed. -/
theorem enumerates_entitiesJson :
    Enumerates (Says EntityRecord.ofJson?) archive.entities (some entitiesJson) :=
  ⟨_, rfl, .cons ⟨2, rfl⟩ .nil⟩

/-- The marks are written. -/
theorem written_marksJson : marks.Written marksJson :=
  ⟨_, _, rfl, ⟨[], rfl, .nil⟩, rfl⟩

/-- The sizes are written. -/
theorem written_sizesJson : sizes.Written sizesJson :=
  ⟨_, _, rfl, ⟨_, rfl, .cons ⟨2, rfl⟩ (.cons ⟨2, rfl⟩ .nil)⟩, ⟨_, rfl, .cons rfl (.cons rfl .nil)⟩⟩

/-- The archive can be printed, and so can its parts. -/
theorem printable_archiveJson : archiveJson.Printable := by
  simp [archiveJson, marksJson, sizesJson, entitiesJson, Printable, AllPrintable, FieldsPrintable,
    Number.IsWord]

/-- The archive is kept in the folder. -/
theorem keeps_archiveTree : archiveTree.Keeps "db" archive [["b", "marks.JSON"], ["a.json"]] := by
  have hplace : Path.place "db" = ["db"] := Path.IsName.place (by decide)
  obtain ⟨⟨hmarks, hsizes, -⟩, hentities, -⟩ := printable_archiveJson
  constructor
  case placed =>
    intro file hfile
    simp [archiveTree] at hfile
    rcases hfile with rfl | rfl | rfl | rfl <;> exact Path.exists_place_eq (by decide)
  case opened =>
    rw [hplace]
    decide
  case walkable => rfl
  case entities =>
    have hlisted : archiveTree.files[["db"] ++ ["entities.json"]]? = some (some entitiesJson.compact) := rfl
    rw [FileTree.KeepsEntities, hplace, hlisted]
    exact ⟨_, rfl, _, parse?_compact hentities, enumerates_entitiesJson⟩
  case relations =>
    rw [hplace]
    exact .cons ⟨marksJson.compact, rfl, _, parse?_compact hmarks, written_marksJson⟩
      (.cons ⟨sizesJson.compact, rfl, _, parse?_compact hsizes, written_sizesJson⟩ .nil)
  case distinct => decide
  case listed =>
    intro names
    have hfiles : archiveTree.files.contains (["db"] ++ "relations" :: names) = true ↔
        ["notes.txt"] = names ∨ ["b", "marks.JSON"] = names ∨ ["a.json"] = names := by
      simp [archiveTree]
    have hjson : Path.isJson ["notes.txt"] = false ∧ Path.isJson ["b", "marks.JSON"] = true ∧
        Path.isJson ["a.json"] = true := by decide +kernel
    obtain ⟨hnotes, hmarks, hsizes⟩ := hjson
    rw [hplace, hfiles, List.mem_pair]
    constructor
    · rintro (rfl | rfl)
      · exact ⟨.inr (.inl rfl), hmarks⟩
      · exact ⟨.inr (.inr rfl), hsizes⟩
    · rintro ⟨rfl | hnames, hjson⟩
      · rw [hnotes] at hjson
        cases hjson
      · exact hnames.imp Eq.symm Eq.symm

/-- The archive is loaded from the folder and from the document alike. -/
theorem layouts_agree_archive : archiveTree.Keeps "db" archive [["b", "marks.JSON"], ["a.json"]] ∧
    WrittenIn archive.Written archiveJson.compact ∧ ∃ store other,
      loadFolder archiveTree "db" = .ok store ∧ ofText archiveJson.compact = .ok other ∧
        store.fingerprint = other.fingerprint := by
  have hwritten : WrittenIn archive.Written archiveJson.compact :=
    ⟨_, parse?_compact printable_archiveJson, _, _, rfl, enumerates_entitiesJson,
      ⟨_, rfl, .cons written_marksJson (.cons written_sizesJson .nil)⟩⟩
  obtain ⟨hboth, hfits, hsame⟩ := layouts_agree keeps_archiveTree hwritten
  have hsizes : sizes.Fits := by
    refine List.forall_mem_cons.2 ⟨?_, List.forall_mem_cons.2 ⟨?_, by simp⟩⟩
    · exact .cons ⟨_, .entity 7⟩ (.cons ⟨_, .negative (-3)⟩ .nil)
    · exact .cons ⟨_, .entity 7⟩ (.cons ⟨_, .natural 2 2 (by decide)⟩ .nil)
  have hdocument := hfits.2 ⟨List.forall_mem_cons.2 ⟨by simp [RelationRecord.Fits, marks],
    List.forall_mem_cons.2 ⟨hsizes, by simp⟩⟩, by decide⟩
  obtain ⟨store, hstore⟩ := isOk_iff.1 (hboth.2 hdocument)
  obtain ⟨other, hother⟩ := isOk_iff.1 hdocument
  exact ⟨keeps_archiveTree, hwritten, store, other, hstore, hother, (hsame _ _ hstore hother).2.2.2⟩

end FactStore

end Stratalog
