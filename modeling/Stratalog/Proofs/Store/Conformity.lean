import Stratalog.Input.Store
import Stratalog.Proofs.Store.Built

/-!
# Stores and their schemas

A relation enters a store only once every row of it was checked, and what is published of entities is
typed as it is made. So each relation of a built store consists of rows that its schema accepts.

A store that was loaded was built: the written entities and relations are taken one by one, and then
the store is finished.
-/

namespace Stratalog

namespace Relation

/-- As many values as there are columns have the types of the columns exactly when none is of a wrong
type. -/
theorem mistyped?_eq_none_iff {columns : List Column} {row : Row}
    (hlength : row.length = columns.length) :
    mistyped? columns row = none ↔ row.map Value.type = columns.map Column.type := by
  induction columns generalizing row with
  | nil =>
    obtain rfl : row = [] := List.length_eq_zero_iff.1 hlength
    simp [mistyped?]
  | cons column columns ih =>
    obtain _ | ⟨value, values⟩ := row
    · simp at hlength
    have hrest : values.length = columns.length := by simpa using hlength
    rw [mistyped?, List.map_cons, List.map_cons, List.cons.injEq]
    split
    next htype => rw [ih hrest, and_iff_right htype]
    next htype => simp [htype]

/-- A row has no fault exactly when the schema accepts it. -/
theorem rowFault?_eq_none_iff {name : String} {schema : Schema} {row : Row} :
    rowFault? name schema row = none ↔ schema.accepts row = true := by
  unfold rowFault?
  split
  next hlength =>
    rw [Option.map_eq_none_iff, mistyped?_eq_none_iff hlength, Schema.accepts, beq_iff_eq]
    rfl
  next hlength =>
    exact iff_of_false (Option.some_ne_none _) fun haccepts =>
      hlength (Schema.length_of_accepts haccepts)

end Relation

/-- Entities and their categories are typed as the schema of their relation says. -/
theorem accepts_entityKinds {entities : EntityTable} {row : Row}
    (hrow : row ∈ (FactStore.entityKinds entities).rows) :
    (FactStore.entityKinds entities).schema.accepts row = true := by
  obtain ⟨_, -, rfl⟩ := List.mem_map.1 ((Row.mem_distinct _ _).1 hrow)
  rfl

/-- Entities and their spans are typed as the schema of their relation says. -/
theorem accepts_entityLocations {entities : EntityTable} {row : Row}
    (hrow : row ∈ (FactStore.entityLocations entities).rows) :
    (FactStore.entityLocations entities).schema.accepts row = true := by
  obtain ⟨_, -, hentry⟩ := List.mem_filterMap.1 ((Row.mem_distinct _ _).1 hrow)
  obtain ⟨_, -, rfl⟩ := Option.map_eq_some_iff.1 hentry
  rfl

namespace FactStore

variable {store next : FactStore} {name : String}

/-- Whether every row of a store is one that the schema of its relation accepts. -/
def Conforms (store : FactStore) : Prop :=
  ∀ (name : String) (relation : Relation), store.relations[name]? = some relation →
    ∀ row ∈ relation.rows, relation.schema.accepts row = true

/-- Inserting a relation whose rows are accepted leaves all rows accepted. -/
theorem Conforms.insert (h : store.Conforms) {relation : Relation}
    (hrows : ∀ row ∈ relation.rows, relation.schema.accepts row = true) :
    ({ store with relations := store.relations.insert name relation } : FactStore).Conforms := by
  intro other found hfound
  rw [Std.TreeMap.getElem?_insert] at hfound
  split at hfound
  next =>
    cases hfound
    exact hrows
  next => exact h other found hfound

/-- A relation that is added was checked. -/
theorem Conforms.addRelation (h : store.Conforms) {schema : Schema} {rows : List Row}
    (hadd : store.addRelation name schema rows = .ok next) : next.Conforms := by
  unfold FactStore.addRelation at hadd
  split at hadd
  next => cases hadd
  next =>
    obtain ⟨relation, hchecked, rfl⟩ := map_eq_ok.1 hadd
    obtain ⟨hclean, rfl⟩ := Relation.checked_eq_ok_iff.1 hchecked
    refine h.insert fun row hrow => ?_
    exact Relation.rowFault?_eq_none_iff.1 (hclean row ((Row.mem_distinct _ _).1 hrow))

/-- Supplying a relation whose rows are accepted leaves all rows accepted. -/
theorem Conforms.supply (h : store.Conforms) {relation : Relation}
    (hrows : ∀ row ∈ relation.rows, relation.schema.accepts row = true) :
    (store.supply relation).Conforms := by
  unfold FactStore.supply
  split
  · exact h
  · exact h.insert hrows

/-- The rows of a store on its way are accepted. -/
theorem Assembled.conforms (h : store.Assembled) : store.Conforms := by
  induction h with
  | empty =>
    intro name relation hrelation
    change (∅ : Relations)[name]? = some relation at hrelation
    rw [Std.TreeMap.getElem?_emptyc] at hrelation
    cases hrelation
  | relation _ hadd ih => exact ih.addRelation hadd
  | entity _ _ _ ih => exact ih

/-- A store of one relation whose rows are accepted is built. -/
theorem built_single {name : String} {schema : Schema} {rows : List Row}
    (hrows : ∀ row ∈ rows, schema.accepts row = true) :
    Built { relations := (∅ : Relations).insert name (.ofRows name schema rows) } := by
  have hchecked : Relation.checked name schema rows = .ok (.ofRows name schema rows) :=
    Relation.checked_eq_ok_iff.2
      ⟨fun row hrow => Relation.rowFault?_eq_none_iff.2 (hrows row hrow), rfl⟩
  have hfree : (∅ : Relations).contains name = false := Std.TreeMap.contains_emptyc
  have hadd : addRelation {} name schema rows =
      .ok { relations := (∅ : Relations).insert name (.ofRows name schema rows) } := by
    rw [addRelation, hfree, hchecked]
    rfl
  exact .finish (.relation .empty hadd)

/-- The rows of a built store are accepted. -/
theorem Built.conforms (h : store.Built) : store.Conforms := by
  obtain ⟨hassembled⟩ := h
  unfold FactStore.finish
  split
  · exact hassembled.conforms
  · exact (hassembled.conforms.supply fun _ => accepts_entityKinds).supply
      fun _ => accepts_entityLocations

/-- Taking written entities goes on assembling a store. -/
theorem Assembled.takeEntities (h : store.Assembled) (records : List EntityRecord) :
    (records.foldl takeEntity store).Assembled := by
  induction records generalizing store with
  | nil => exact h
  | cons record rest ih => exact ih (.entity record.id record.info h)

/-- Taking a written relation goes on assembling a store. -/
theorem Assembled.takeRelation (h : store.Assembled) {record : RelationRecord}
    (htake : store.takeRelation record = .ok next) : next.Assembled := by
  unfold FactStore.takeRelation at htake
  obtain ⟨rows, -, htake⟩ := bind_eq_ok.1 htake
  exact .relation h (mapError_eq_ok.1 htake)

/-- Taking written relations in turn goes on assembling a store. -/
theorem Assembled.takeRelations (h : store.Assembled) {records : List RelationRecord}
    (htake : store.takeRelations records = .ok next) : next.Assembled := by
  induction records generalizing store with
  | nil =>
    cases htake
    exact h
  | cons record rest ih =>
    rw [FactStore.takeRelations] at htake
    obtain ⟨taken, hrecord, htake⟩ := bind_eq_ok.1 htake
    exact ih (h.takeRelation hrecord) htake

/-- Taking the relations in files in turn goes on assembling a store. -/
theorem Assembled.takeFiles (h : store.Assembled) {tree : FileTree} {paths : List String}
    (htake : FactStore.takeFiles tree store paths = .ok next) : next.Assembled := by
  induction paths generalizing store with
  | nil =>
    cases htake
    exact h
  | cons path rest ih =>
    rw [FactStore.takeFiles] at htake
    obtain ⟨record, -, htake⟩ := bind_eq_ok.1 htake
    obtain ⟨taken, hrecord, htake⟩ := bind_eq_ok.1 htake
    exact ih (h.takeRelation (mapError_eq_ok.1 hrecord)) htake

/-- A store that was loaded was built. -/
theorem built_of_load {tree : FileTree} {path : String} (h : load tree path = .ok store) :
    store.Built := by
  unfold load at h
  split at h
  next =>
    unfold loadFolder at h
    obtain ⟨entities, -, h⟩ := bind_eq_ok.1 h
    obtain ⟨files, -, h⟩ := bind_eq_ok.1 h
    obtain ⟨taken, htake, h⟩ := bind_eq_ok.1 h
    cases h
    exact .finish ((Assembled.empty.takeEntities entities).takeFiles htake)
  next =>
    unfold loadDocument at h
    obtain ⟨text, -, h⟩ := bind_eq_ok.1 h
    obtain ⟨record, -, h⟩ := bind_eq_ok.1 (mapError_eq_ok.1 h)
    unfold ofRecord at h
    obtain ⟨taken, htake, h⟩ := bind_eq_ok.1 h
    cases h
    exact .finish ((Assembled.empty.takeEntities record.entities).takeRelations htake)

end FactStore

end Stratalog
