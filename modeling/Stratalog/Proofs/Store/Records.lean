import Mathlib.Data.List.Forall2
import Stratalog.Proofs.Store.Building

/-!
# Assembling a store from written relations

A cell is taken for a value of its column when it is a scalar of that type, and nothing is converted. A
written relation thus stands for a step that adds it, if each row has a cell for every column. The schema
then accepts all its rows, so taking relations fails for two reasons only: some cell does not fit, or two
relations have one name. In which order they are taken does not matter.
-/

namespace Stratalog

/-- Whether a cell is a scalar of a type, within its range, and stands for a value. -/
inductive Json.IsCell : ColumnType → Json → Value → Prop where
  | entity (id : UInt64) : IsCell .entity (.number (.natural id)) (.entity id)
  | string (text : String) : IsCell .string (.string text) (.string text)
  | natural (n : UInt64) (k : Int64) : k.toInt = n.toNat → IsCell .int (.number (.natural n)) (.int k)
  | negative (n : Int64) : IsCell .int (.number (.negative n)) (.int n)
  | bool (flag : Bool) : IsCell .bool (.bool flag) (.bool flag)

/-- Whether cells stand for the values of a row, one for each type. -/
inductive Row.IsSpelled : List ColumnType → List Json → Row → Prop where
  | nil : IsSpelled [] [] []
  | cons {type : ColumnType} {types : List ColumnType} {cell : Json} {cells : List Json} {value : Value}
      {row : Row} : Json.IsCell type cell value → IsSpelled types cells row →
        IsSpelled (type :: types) (cell :: cells) (value :: row)

/-- Whether each row has one cell for every column, and each cell is a scalar of the type of its column. -/
def RelationRecord.Fits (record : RelationRecord) : Prop :=
  ∀ cells ∈ record.rows,
    List.Forall₂ (fun column cell => ∃ value, Json.IsCell column.type cell value) record.columns cells

/-- Whether a step adds what is written. -/
def RelationRecord.StandsFor (record : RelationRecord) (step : FactStore.BuildStep) : Prop :=
  ∃ rows, List.Forall₂ (Row.IsSpelled (record.columns.map Column.type)) record.rows rows ∧
    step = .relation record.name ⟨record.columns⟩ rows

variable {type : ColumnType} {types : List ColumnType} {cell : Json} {cells : List Json} {value : Value}
  {row : Row} {record : RelationRecord} {records others : List RelationRecord} {store next : FactStore}
  {step : FactStore.BuildStep} {name : String} {relation : Relation}

/-- A natural number stands for the integer of the same value, if there is one. -/
theorem Json.integer?_natural {n : UInt64} {k : Int64} :
    (Json.number (.natural n)).integer? = some k ↔ k.toInt = n.toNat := by
  have hword (h : n.toNat < 2 ^ 63) : n.toInt64.toInt = n.toNat := by
    rw [← Int64.toInt_ofNat_of_lt h, ← UInt64.toInt64_ofNat', UInt64.ofNat_toNat]
  change (if n.toNat < 2 ^ 63 then some n.toInt64 else none) = some k ↔ _
  split
  next h => rw [Option.some.injEq, ← Int64.toInt_inj, hword h, eq_comm]
  next h =>
    have hlt : k.toInt < 2 ^ 63 := k.toInt_lt
    refine iff_of_false (Option.some_ne_none k).symm fun heq => ?_
    omega

/-- A cell is taken for the value it stands for. -/
theorem Value.ofCell?_eq_some_iff : Value.ofCell? type cell = some value ↔ cell.IsCell type value := by
  constructor
  · intro h
    cases type with
    | entity =>
      obtain ⟨id, hid, rfl⟩ := Option.map_eq_some_iff.1 h
      unfold Json.natural? at hid
      split at hid <;> cases hid
      exact .entity id
    | string =>
      obtain ⟨text, htext, rfl⟩ := Option.map_eq_some_iff.1 h
      unfold Json.string? at htext
      split at htext <;> cases htext
      exact .string text
    | int =>
      obtain ⟨k, hk, rfl⟩ := Option.map_eq_some_iff.1 h
      cases cell with
      | number n =>
        cases n with
        | natural n => exact .natural n k (Json.integer?_natural.1 hk)
        | negative n =>
          obtain rfl : n = k := Option.some.inj hk
          exact .negative n
        | real => cases hk
      | _ => cases hk
    | bool =>
      obtain ⟨flag, hflag, rfl⟩ := Option.map_eq_some_iff.1 h
      unfold Json.bool? at hflag
      split at hflag <;> cases hflag
      exact .bool flag
  · rintro (id | text | ⟨n, k, hk⟩ | n | flag)
    · rfl
    · rfl
    · exact Option.map_eq_some_iff.2 ⟨k, Json.integer?_natural.2 hk, rfl⟩
    · rfl
    · rfl

/-- What is read is there. -/
theorem orCause_eq_ok {α : Type} {cause : InputCause} {read : Option α} {a : α} :
    orCause cause read = .ok a ↔ read = some a := by
  cases read <;> simp [orCause]

/-- Cells are taken for the values they stand for. -/
theorem Row.ofCells_eq_ok_iff (hlength : cells.length = types.length) :
    Row.ofCells types cells = .ok row ↔ Row.IsSpelled types cells row := by
  induction types generalizing cells row with
  | nil =>
    obtain rfl : cells = [] := List.length_eq_zero_iff.1 hlength
    constructor
    · rintro ⟨⟩
      exact .nil
    · rintro ⟨⟩
      rfl
  | cons type types ih =>
    obtain _ | ⟨cell, cells⟩ := cells
    · simp at hlength
    have hrest : cells.length = types.length := by simpa using hlength
    simp only [Row.ofCells, bind_eq_ok, Value.ofCell, orCause_eq_ok, Value.ofCell?_eq_some_iff, ih hrest]
    constructor
    · rintro ⟨value, hvalue, values, hvalues, ⟨⟩⟩
      exact .cons hvalue hvalues
    · rintro (_ | ⟨hvalue, hvalues⟩)
      exact ⟨_, hvalue, _, hvalues, rfl⟩

/-- A spelled row has a cell for each type. -/
theorem Row.IsSpelled.length_eq (h : Row.IsSpelled types cells row) : cells.length = types.length := by
  induction h with
  | nil => rfl
  | cons _ _ ih => rw [List.length_cons, List.length_cons, ih]

/-- A row is taken when it is spelled by its cells. -/
theorem RelationRecord.row_eq_ok_iff {index : Nat} : record.row index cells = .ok row ↔
    Row.IsSpelled (record.columns.map Column.type) cells row := by
  unfold RelationRecord.row
  split
  next hlength =>
    rw [atStage, mapError_eq_ok, Row.ofCells_eq_ok_iff (by rwa [List.length_map])]
  next hlength =>
    refine iff_of_false (by rintro ⟨⟩) fun h => hlength ?_
    rw [h.length_eq, List.length_map]

/-- The rows of a relation are taken when each is spelled by its cells. -/
theorem RelationRecord.rowsFrom_eq_ok_iff (index : Nat) {written : List (List Json)} {rows : List Row} :
    record.rowsFrom index written = .ok rows ↔
      List.Forall₂ (Row.IsSpelled (record.columns.map Column.type)) written rows := by
  induction written generalizing index rows with
  | nil =>
    rw [RelationRecord.rowsFrom, List.forall₂_nil_left_iff]
    constructor
    · rintro ⟨⟩
      rfl
    · rintro rfl
      rfl
  | cons cells written ih =>
    simp only [RelationRecord.rowsFrom, bind_eq_ok, row_eq_ok_iff, ih, List.forall₂_cons_left_iff]
    constructor
    · rintro ⟨row, hrow, rows, hrows, ⟨⟩⟩
      exact ⟨row, rows, hrow, hrows, rfl⟩
    · rintro ⟨row, rows, hrow, hrows, rfl⟩
      exact ⟨row, hrow, rows, hrows, rfl⟩

/-- A value has the type of its cell. -/
theorem Json.IsCell.type_eq (h : Json.IsCell type cell value) : value.type = type := by
  cases h <;> rfl

/-- A scalar opens nothing. -/
theorem Json.IsCell.isSound (h : Json.IsCell type cell value) (depth : Nat) :
    cell.isSound depth = true := by
  cases h <;> rfl

/-- The values of a spelled row have the types asked for. -/
theorem Row.IsSpelled.map_type (h : Row.IsSpelled types cells row) : row.map Value.type = types := by
  induction h with
  | nil => rfl
  | cons hcell _ ih => rw [List.map_cons, hcell.type_eq, ih]

/-- Cells spell a row when they fit the columns. -/
theorem Row.exists_isSpelled_iff {columns : List Column} :
    (∃ row, Row.IsSpelled (columns.map Column.type) cells row) ↔
      List.Forall₂ (fun column cell => ∃ value, Json.IsCell column.type cell value) columns cells := by
  constructor
  · rintro ⟨row, h⟩
    induction columns generalizing cells row with
    | nil =>
      cases h
      exact .nil
    | cons column columns ih =>
      obtain _ | ⟨hcell, hcells⟩ := h
      exact .cons ⟨_, hcell⟩ (ih _ hcells)
  · intro h
    induction h with
    | nil => exact ⟨[], .nil⟩
    | cons hcell _ ih =>
      obtain ⟨value, hvalue⟩ := hcell
      obtain ⟨row, hrow⟩ := ih
      exact ⟨value :: row, .cons hvalue hrow⟩

/-- A list has a counterpart item by item when each of its items has one. -/
theorem exists_forall₂_iff {α β : Type} {R : α → β → Prop} {as : List α} :
    (∃ bs, List.Forall₂ R as bs) ↔ ∀ a ∈ as, ∃ b, R a b := by
  induction as with
  | nil => simp
  | cons a as ih =>
    rw [List.forall_mem_cons, ← ih]
    simp only [List.forall₂_cons_left_iff]
    constructor
    · rintro ⟨_, b, bs, hb, hbs, -⟩
      exact ⟨⟨b, hb⟩, bs, hbs⟩
    · rintro ⟨⟨b, hb⟩, bs, hbs⟩
      exact ⟨_, b, bs, hb, hbs, rfl⟩

/-- Each item has a counterpart among those it is matched with. -/
theorem exists_mem_of_forall₂ {α β : Type} {R : α → β → Prop} {as : List α} {bs : List β}
    (h : List.Forall₂ R as bs) {a : α} (ha : a ∈ as) : ∃ b ∈ bs, R a b := by
  induction h with
  | nil => cases ha
  | cons hfirst _ ih =>
    rcases List.mem_cons.1 ha with rfl | ha
    · exact ⟨_, List.mem_cons_self, hfirst⟩
    · obtain ⟨b, hb, hR⟩ := ih ha
      exact ⟨b, List.mem_cons_of_mem _ hb, hR⟩

namespace RelationRecord

/-- A relation stands for a step exactly when its rows fit. -/
theorem exists_standsFor_iff : (∃ step, record.StandsFor step) ↔ record.Fits := by
  unfold Fits
  simp only [← Row.exists_isSpelled_iff]
  rw [← exists_forall₂_iff]
  constructor
  · rintro ⟨_, rows, hrows, -⟩
    exact ⟨rows, hrows⟩
  · rintro ⟨rows, hrows⟩
    exact ⟨_, rows, hrows, rfl⟩

/-- It stands for one step only. -/
theorem StandsFor.unique {other : FactStore.BuildStep} (h : record.StandsFor step)
    (h' : record.StandsFor other) : step = other := by
  obtain ⟨rows, hrows, rfl⟩ := h
  obtain ⟨rows', hrows', rfl⟩ := h'
  have hsame := (rowsFrom_eq_ok_iff 0).2 hrows
  rw [(rowsFrom_eq_ok_iff 0).2 hrows'] at hsame
  cases hsame
  rfl

/-- The rows of the step are accepted. -/
theorem StandsFor.accepted (h : record.StandsFor step) : step.Accepted := by
  obtain ⟨rows, hrows, rfl⟩ := h
  intro row hrow
  obtain ⟨cells, -, hspelled⟩ := exists_mem_of_forall₂ hrows.flip hrow
  rw [Schema.accepts, beq_iff_eq]
  exact hspelled.map_type

/-- The steps take the names of the relations. -/
theorem names_eq {steps : List FactStore.BuildStep} (h : List.Forall₂ StandsFor records steps) :
    steps.filterMap FactStore.BuildStep.name? = records.map RelationRecord.name := by
  induction h with
  | nil => rfl
  | cons hstep _ ih =>
    obtain ⟨rows, -, rfl⟩ := hstep
    exact congrArg (List.cons _) ih

end RelationRecord

namespace FactStore

/-- A written relation is taken by taking the step it stands for. -/
theorem takeRelation_eq_ok_iff : store.takeRelation record = .ok next ↔
    ∃ step, record.StandsFor step ∧ store.perform step = .ok next := by
  simp only [takeRelation, bind_eq_ok, RelationRecord.rowsFrom_eq_ok_iff, mapError_eq_ok]
  constructor
  · rintro ⟨rows, hrows, hadd⟩
    exact ⟨_, ⟨rows, hrows, rfl⟩, hadd⟩
  · rintro ⟨_, ⟨rows, hrows, rfl⟩, hadd⟩
    exact ⟨rows, hrows, hadd⟩

/-- Written relations are taken by taking the steps they stand for. -/
theorem takeRelations_eq_ok_iff : store.takeRelations records = .ok next ↔
    ∃ steps, List.Forall₂ RelationRecord.StandsFor records steps ∧ store.performAll steps = .ok next := by
  induction records generalizing store with
  | nil => simp [takeRelations, performAll]
  | cons record rest ih =>
    simp only [takeRelations, bind_eq_ok, takeRelation_eq_ok_iff, ih, List.forall₂_cons_left_iff]
    constructor
    · rintro ⟨taken, ⟨step, hstep, hperform⟩, steps, hsteps, hall⟩
      exact ⟨step :: steps, ⟨step, steps, hstep, hsteps, rfl⟩, bind_eq_ok.2 ⟨taken, hperform, hall⟩⟩
    · rintro ⟨_, ⟨step, steps, hstep, hsteps, rfl⟩, hall⟩
      obtain ⟨taken, hperform, hall⟩ := bind_eq_ok.1 hall
      exact ⟨taken, ⟨step, hstep, hperform⟩, steps, hsteps, hall⟩

/-- Written relations are taken exactly when all fit and their names are free and distinct. -/
theorem isOk_takeRelations_iff : (store.takeRelations records).isOk = true ↔
    (∀ record ∈ records, record.Fits) ∧ (records.map RelationRecord.name).Nodup ∧
      ∀ name ∈ records.map RelationRecord.name, store.relations.contains name = false := by
  simp only [← RelationRecord.exists_standsFor_iff]
  rw [← exists_forall₂_iff, isOk_iff]
  simp only [takeRelations_eq_ok_iff]
  constructor
  · rintro ⟨next, steps, hsteps, hall⟩
    obtain ⟨-, hnames⟩ := isOk_performAll_iff.1 (isOk_iff.2 ⟨next, hall⟩)
    rw [RelationRecord.names_eq hsteps] at hnames
    exact ⟨⟨steps, hsteps⟩, hnames⟩
  · rintro ⟨⟨steps, hsteps⟩, hnames⟩
    rw [← RelationRecord.names_eq hsteps] at hnames
    have haccepted : ∀ step ∈ steps, step.Accepted := fun step hstep => by
      obtain ⟨record, -, hstands⟩ := exists_mem_of_forall₂ hsteps.flip hstep
      exact RelationRecord.StandsFor.accepted hstands
    obtain ⟨next, hall⟩ := isOk_iff.1 (isOk_performAll_iff.2 ⟨haccepted, hnames⟩)
    exact ⟨next, steps, hsteps, hall⟩

/-- Taking relations records nothing of entities. -/
theorem entities_takeRelations (h : store.takeRelations records = .ok next) :
    next.entities = store.entities := by
  induction records generalizing store with
  | nil =>
    cases h
    rfl
  | cons record rest ih =>
    obtain ⟨taken, hrecord, hrest⟩ := bind_eq_ok.1 h
    obtain ⟨_, ⟨rows, -, rfl⟩, hadd⟩ := takeRelation_eq_ok_iff.1 hrecord
    obtain ⟨-, -, rfl⟩ := addRelation_eq_ok_iff.1 hadd
    rw [ih hrest]

/-- Taking entities adds no relations. -/
theorem relations_takeEntities (store : FactStore) (records : List EntityRecord) :
    (records.foldl takeEntity store).relations = store.relations := by
  induction records generalizing store with
  | nil => rfl
  | cons record rest ih => exact ih _

/-- A store holds the relations there were and those its written relations stand for. -/
theorem relations_takeRelations (h : store.takeRelations records = .ok next) :
    next.relations[name]? = some relation ↔ store.relations[name]? = some relation ∨
      ∃ schema rows, (∃ record ∈ records, record.StandsFor (.relation name schema rows)) ∧
        .ofRows name schema rows = relation := by
  obtain ⟨steps, hsteps, hall⟩ := takeRelations_eq_ok_iff.1 h
  have hstep (step : BuildStep) : step ∈ steps ↔ ∃ record ∈ records, record.StandsFor step := by
    constructor
    · intro hstep
      exact exists_mem_of_forall₂ hsteps.flip hstep
    · rintro ⟨record, hrecord, hstands⟩
      obtain ⟨other, hother, hstands'⟩ := exists_mem_of_forall₂ hsteps hrecord
      rwa [hstands.unique hstands']
  rw [relations_performAll hall]
  simp only [hstep]

/-- The order in which written relations are taken does not matter. -/
theorem takeRelations_perm (h : records.Perm others) (hnext : store.takeRelations records = .ok next) :
    ∃ other, store.takeRelations others = .ok other ∧ other.entities = next.entities ∧
      ∀ name : String, other.relations[name]? = next.relations[name]? := by
  have hok := isOk_takeRelations_iff.1 (isOk_iff.2 ⟨next, hnext⟩)
  simp only [h.mem_iff, (h.map RelationRecord.name).nodup_iff, (h.map RelationRecord.name).mem_iff] at hok
  obtain ⟨other, hother⟩ := isOk_iff.1 (isOk_takeRelations_iff.2 hok)
  refine ⟨other, hother, ?_, fun name => Option.ext fun relation => ?_⟩
  · rw [entities_takeRelations hother, entities_takeRelations hnext]
  · rw [relations_takeRelations hother, relations_takeRelations hnext]
    simp only [h.mem_iff]

end FactStore

end Stratalog
