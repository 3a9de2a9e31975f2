import Mathlib.Data.List.Forall2
import Stratalog.Document.Store
import Stratalog.Proofs.Json.Lossless

/-!
# Written stores

A store may be written in many ways: fields in any order or none, lists that are empty left out. What a
value says does not depend on how deep it may go, as long as there is room for it. Only the cells may be of
any depth, and a relation with cells that go too deep, or cannot be used, is not read.
-/

namespace Stratalog

open Json

/-- Whether a value is read as something wherever there is room enough. -/
def Json.Says {α : Type} (read : Nat → Json → Option α) (a : α) (json : Json) : Prop :=
  ∃ depth, read depth json = some a

/-- Whether a list is written, item by item, or left out as it is empty. -/
def Json.Enumerates {α : Type} (written : α → Json → Prop) (as : List α) : Option Json → Prop
  | none => as = []
  | some json => ∃ items, json = .array items ∧ List.Forall₂ written as items

/-- Whether a value is a written form of a relation. -/
def RelationRecord.Written (record : RelationRecord) (json : Json) : Prop :=
  ∃ columns rows, json.fields? ["name", "columns", "rows"] =
      some [some (.string record.name), some columns, rows] ∧
    Enumerates (Says Column.ofJson?) record.columns (some columns) ∧
    Enumerates (fun cells json => json = .array cells) record.rows rows

/-- Whether a value is a written form of a store. -/
def StoreRecord.Written (record : StoreRecord) (json : Json) : Prop :=
  ∃ entities relations, json.fields? ["entities", "relations"] = some [entities, relations] ∧
    Enumerates (Says EntityRecord.ofJson?) record.entities entities ∧
    Enumerates RelationRecord.Written record.relations relations

/-- Whether all cells can be used and none goes deeper than a bound. -/
def RelationRecord.isSound (depth : Nat) (record : RelationRecord) : Bool :=
  record.rows.all fun cells => cells.all (Json.isSound depth)

variable {depth : Nat} {json : Json}

/-- A record is opened where there is room. -/
theorem Json.record?_succ (depth : Nat) {names : List String} {contents : List (Option Json)}
    (h : json.fields? names = some contents) :
    json.record? (depth + 1) names = some (depth, contents) := by
  rw [record?, h]
  rfl

section Items

variable {α : Type} {read : Nat → Json → Option α} {as : List α} {items : List Json}

/-- Items of which some may be refused are read when none is. -/
theorem Json.readAll?_eq_ite {read : Json → Option α} (keep : α → Bool)
    (h : List.Forall₂ (fun a item => read item = if keep a then some a else none) as items) :
    readAll? read items = if as.all keep then some as else none := by
  induction h with
  | nil => rfl
  | @cons a item as items hitem _ ih =>
    rw [readAll?, hitem, List.all_cons]
    cases keep a with
    | true =>
      simp only [↓reduceIte, Bool.true_and, ih]
      cases as.all keep <;> rfl
    | false => rfl

/-- A list that may be missing is read when none of its items is refused. -/
theorem listOf?_eq_ite {written : α → Json → Prop} {list : Option Json} (keep : α → Bool)
    (h : Enumerates written as list)
    (hread : ∀ a item, written a item → read depth item = if keep a then some a else none) :
    Json.listOf? (depth + 1) read list = if as.all keep then some as else none := by
  cases list with
  | none =>
    obtain rfl : as = [] := h
    rfl
  | some json =>
    obtain ⟨items, rfl, hitems⟩ := h
    exact readAll?_eq_ite keep (hitems.imp hread)

/-- A list that may be missing is read when each of its items is. -/
theorem listOf?_eq_some {written : α → Json → Prop} {list : Option Json}
    (h : Enumerates written as list) (hread : ∀ a item, written a item → read depth item = some a) :
    Json.listOf? (depth + 1) read list = some as := by
  rw [listOf?_eq_ite (fun _ => true) h hread, List.all_eq_true.2 fun _ _ => rfl]
  rfl

end Items

/-- What a column type says is read wherever one level may be opened. -/
theorem ColumnType.ofJson?_of_says {type : ColumnType} (h : Says ColumnType.ofJson? type json)
    (depth : Nat) : ColumnType.ofJson? (depth + 1) json = some type := by
  obtain ⟨room, h⟩ := h
  obtain ⟨name, hname, htype⟩ := Option.bind_eq_some_iff.1 h
  refine Option.bind_eq_some_iff.2 ⟨name, ?_, htype⟩
  unfold choice? at hname ⊢
  split at hname
  next => exact hname
  next =>
    split at hname
    next => cases hname
    next => exact hname
  next => cases hname
  next => cases hname

/-- What a column says is read wherever two levels may be opened. -/
theorem Column.ofJson?_of_says {column : Column} (h : Says Column.ofJson? column json) (depth : Nat) :
    Column.ofJson? (depth + 2) json = some column := by
  obtain ⟨room, h⟩ := h
  unfold Column.ofJson? at h
  split at h
  next below name type hrecord =>
    obtain ⟨-, hfields⟩ := record?_eq_some hrecord
    simp only [bind, Option.bind_eq_some_iff, pure, Option.some.injEq] at h
    obtain ⟨text, htext, columnType, htype, rfl⟩ := h
    have htype := ColumnType.ofJson?_of_says ⟨_, htype⟩ depth
    simp [Column.ofJson?, record?_succ _ hfields, htext, htype]
  next => cases h

/-- What a span says is read wherever one level may be opened. -/
theorem Location.ofJson?_of_says {span : Location} (h : Says Location.ofJson? span json) (depth : Nat) :
    Location.ofJson? (depth + 1) json = some span := by
  obtain ⟨room, h⟩ := h
  unfold Location.ofJson? at h ⊢
  split at h
  next hrecord =>
    obtain ⟨-, hfields⟩ := record?_eq_some hrecord
    rw [record?_succ _ hfields]
    exact h
  next => cases h

/-- What a span that may be missing says is read wherever one level may be opened. -/
theorem locationOf?_of_says {location : Option Json} {span : Option Location} {room : Nat}
    (h : locationOf? room location = some span) (depth : Nat) :
    locationOf? (depth + 1) location = some span := by
  cases location with
  | none => exact h
  | some json =>
    simp only [locationOf?, optional?] at h ⊢
    split at h
    next => exact h
    next =>
      obtain ⟨found, hfound, rfl⟩ := Option.map_eq_some_iff.1 h
      rw [Location.ofJson?_of_says ⟨room, hfound⟩]
      rfl

/-- What an entity says is read wherever two levels may be opened. -/
theorem EntityRecord.ofJson?_of_says {record : EntityRecord} (h : Says EntityRecord.ofJson? record json)
    (depth : Nat) : EntityRecord.ofJson? (depth + 2) json = some record := by
  obtain ⟨room, h⟩ := h
  unfold EntityRecord.ofJson? at h
  split at h
  next below id kind label location hrecord =>
    obtain ⟨-, hfields⟩ := record?_eq_some hrecord
    simp only [bind, Option.bind_eq_some_iff, pure, Option.some.injEq] at h
    obtain ⟨number, hnumber, category, hcategory, text, htext, span, hspan, rfl⟩ := h
    have hspan := locationOf?_of_says hspan depth
    simp [EntityRecord.ofJson?, record?_succ _ hfields, hnumber, hcategory, htext, hspan]
  next => cases h

/-- Cells are read when all can be used. -/
theorem cellsOfJson?_array (depth : Nat) (cells : List Json) :
    cellsOfJson? (depth + 1) (.array cells) =
      if cells.all (Json.isSound depth) then some cells else none :=
  readAll?_eq_ite _ (List.forall₂_same.2 fun _ _ => rfl)

/-- A written relation is read where there is room for it when all its cells can be used. -/
theorem RelationRecord.Written.ofJson? {record : RelationRecord} (h : record.Written json) (depth : Nat) :
    RelationRecord.ofJson? (depth + 4) json =
      if record.isSound (depth + 1) then some record else none := by
  obtain ⟨columns, rows, hfields, hcolumns, hrows⟩ := h
  have hcolumns : columns.array? (depth + 3) Column.ofJson? = some record.columns :=
    listOf?_eq_some hcolumns fun column item hcolumn => Column.ofJson?_of_says hcolumn depth
  have hrows : Json.listOf? (depth + 3) cellsOfJson? rows =
      if record.isSound (depth + 1) then some record.rows else none :=
    listOf?_eq_ite _ hrows fun cells item hitem => hitem ▸ cellsOfJson?_array (depth + 1) cells
  simp only [RelationRecord.ofJson?, record?_succ _ hfields, string?, hcolumns, hrows, bind,
    Option.bind_some, pure]
  cases record.isSound (depth + 1) <;> rfl

/-- A written store is read when all its cells can be used. -/
theorem StoreRecord.Written.ofJson? {record : StoreRecord} (h : record.Written json) (depth : Nat) :
    StoreRecord.ofJson? (depth + 6) json =
      if record.relations.all (RelationRecord.isSound (depth + 1)) then some record else none := by
  obtain ⟨entities, relations, hfields, hentities, hrelations⟩ := h
  have hentities : Json.listOf? (depth + 5) EntityRecord.ofJson? entities = some record.entities :=
    listOf?_eq_some hentities fun entity item hentity =>
      EntityRecord.ofJson?_of_says hentity (depth + 2)
  have hrelations := listOf?_eq_ite _ hrelations fun relation item hrelation =>
    RelationRecord.Written.ofJson? hrelation depth
  simp only [StoreRecord.ofJson?, record?_succ _ hfields, hentities, hrelations, bind, Option.bind_some,
    pure]
  cases record.relations.all (RelationRecord.isSound (depth + 1)) <;> rfl

end Stratalog
