import Stratalog.Proofs.Outcome
import Stratalog.Proofs.Relation.Coherence
import Stratalog.Proofs.Workspace.Frame
import Stratalog.Typing.Program

/-!
# Stores as they are built

A store is assembled from nothing by adding relations and entities, and finished once. However that
goes, each relation stands under its own name, and its rows are distinct and as wide as its schema.
-/

namespace Stratalog

/-- A checked relation is that of its rows, and they have no fault. -/
theorem Relation.checked_eq_ok_iff {name : String} {schema : Schema} {rows : List Row}
    {relation : Relation} : checked name schema rows = .ok relation ↔
      (∀ row ∈ rows, rowFault? name schema row = none) ∧ ofRows name schema rows = relation := by
  rw [← List.findSome?_eq_none_iff, checked]
  split
  next fault hfault => simp [hfault]
  next hclean => simp [hclean]

namespace FactStore

/-- A store on its way: relations and entities were added in some order. -/
inductive Assembled : FactStore → Prop where
  | empty : Assembled {}
  | relation {store next : FactStore} {name : String} {schema : Schema} {rows : List Row} :
      Assembled store → store.addRelation name schema rows = .ok next → Assembled next
  | entity {store : FactStore} (id : UInt64) (info : EntityInfo) :
      Assembled store → Assembled (store.addEntity id info)

/-- A store that was assembled and finished. -/
inductive Built : FactStore → Prop where
  | finish {store : FactStore} : Assembled store → Built store.finish

/-- Each relation has its own name and no indices that mislead, and its rows are distinct and as
wide as its schema. -/
def WellFormed (store : FactStore) : Prop :=
  ∀ (name : String) (relation : Relation), store.relations[name]? = some relation →
    relation.name = name ∧ relation.Coherent ∧ relation.rows.Nodup ∧
      ∀ row ∈ relation.rows, row.length = relation.schema.arity

variable {store next : FactStore} {name : String} {schema : Schema} {rows : List Row}

/-- A relation made of rows holds each of them once. -/
theorem wellFormed_ofRows (name : String) (hlength : ∀ row ∈ rows, row.length = schema.arity) :
    (Relation.ofRows name schema rows).Coherent ∧ (Relation.ofRows name schema rows).rows.Nodup ∧
      ∀ row ∈ (Relation.ofRows name schema rows).rows, row.length = schema.arity := by
  refine ⟨Relation.coherent_ofDistinct _ _ _, Row.nodup_distinct rows, fun row hrow => ?_⟩
  exact hlength row ((Row.mem_distinct rows row).1 hrow)

/-- A row without fault is as wide as the schema. -/
theorem length_of_rowFault? {row : Row} (h : Relation.rowFault? name schema row = none) :
    row.length = schema.arity := by
  unfold Relation.rowFault? at h
  split at h
  · assumption
  · cases h

/-- Inserting a relation of the right shape under its name keeps a store well formed. -/
theorem WellFormed.insert (h : store.WellFormed) {relation : Relation}
    (hcoherent : relation.Coherent) (hnodup : relation.rows.Nodup)
    (hlength : ∀ row ∈ relation.rows, row.length = relation.schema.arity) :
    ({ store with relations := store.relations.insert relation.name relation } :
      FactStore).WellFormed := by
  intro other found hfound
  rw [Std.TreeMap.getElem?_insert] at hfound
  split at hfound
  next heq =>
    cases hfound
    exact ⟨Std.LawfulEqOrd.eq_of_compare heq, hcoherent, hnodup, hlength⟩
  next => exact h other found hfound

/-- Adding a checked relation keeps a store well formed. -/
theorem WellFormed.addRelation (h : store.WellFormed)
    (hadd : store.addRelation name schema rows = .ok next) : next.WellFormed := by
  unfold FactStore.addRelation at hadd
  split at hadd
  next => cases hadd
  next =>
    obtain ⟨relation, hchecked, rfl⟩ := map_eq_ok.1 hadd
    obtain ⟨hclean, rfl⟩ := Relation.checked_eq_ok_iff.1 hchecked
    have hlength : ∀ row ∈ rows, row.length = schema.arity := fun row hrow =>
      length_of_rowFault? (hclean row hrow)
    obtain ⟨hcoherent, hnodup, hwide⟩ := wellFormed_ofRows name hlength
    exact h.insert hcoherent hnodup hwide

/-- Supplying a relation of the right shape keeps a store well formed. -/
theorem WellFormed.supply (h : store.WellFormed)
    (hlength : ∀ row ∈ rows, row.length = schema.arity) :
    (store.supply (Relation.ofRows name schema rows)).WellFormed := by
  unfold FactStore.supply
  split
  · exact h
  · obtain ⟨hcoherent, hnodup, hwide⟩ := wellFormed_ofRows name hlength
    exact h.insert hcoherent hnodup hwide

/-- A store on its way is well formed. -/
theorem Assembled.wellFormed (h : store.Assembled) : store.WellFormed := by
  induction h with
  | empty =>
    intro name relation hrelation
    change (∅ : Relations)[name]? = some relation at hrelation
    rw [Std.TreeMap.getElem?_emptyc] at hrelation
    cases hrelation
  | relation _ hadd ih => exact ih.addRelation hadd
  | entity _ _ _ ih => exact ih

/-- A built store is well formed. -/
theorem Built.wellFormed (h : store.Built) : store.WellFormed := by
  obtain ⟨hassembled⟩ := h
  unfold FactStore.finish
  split
  · exact hassembled.wellFormed
  · refine (hassembled.wellFormed.supply fun row hrow => ?_).supply fun row hrow => ?_
    · obtain ⟨_, -, rfl⟩ := List.mem_map.1 hrow
      rfl
    · obtain ⟨entry, -, hentry⟩ := List.mem_filterMap.1 hrow
      obtain ⟨_, -, rfl⟩ := Option.map_eq_some_iff.1 hentry
      rfl

/-- A workspace that holds a well-formed store and no finished predicate is coherent. -/
theorem WellFormed.coherent (h : store.WellFormed)
    {slots : Std.TreeMap String (Option Relation)}
    (hempty : ∀ (name : String) (relation : Relation), slots[name]? ≠ some (some relation)) :
    ({ base := store.relations, slots } : Workspace).Coherent := by
  have hnone (name : String) : (∅ : Relations)[name]? = none := Std.TreeMap.getElem?_emptyc
  refine ⟨fun name relation hrelation => (h name relation hrelation).2.1,
    fun name relation hrelation => absurd hrelation (hempty name relation),
    fun name relation hrelation => ?_, fun name relation hrelation => ?_⟩
  · rw [hnone] at hrelation
    cases hrelation
  · rw [hnone] at hrelation
    cases hrelation

/-- A workspace that holds a well-formed store alone conforms to what is known of the store. -/
theorem WellFormed.conforms (h : store.WellFormed) :
    ({ base := store.relations } : Workspace).Conforms (Catalog.of store []) := by
  intro name delta relation hread
  have hnone (name : String) : (∅ : Relations)[name]? = none := Std.TreeMap.getElem?_emptyc
  have hslot : (∅ : Std.TreeMap String (Option Relation))[name]? = none :=
    Std.TreeMap.getElem?_emptyc
  simp only [Workspace.read, Workspace.resolve, hnone, hslot, ite_self] at hread
  split at hread
  next held hheld =>
    cases hread
    obtain ⟨-, -, hnodup, hlength⟩ := h name _ hheld
    refine ⟨hnodup, fun schema hschema row hrow => ?_⟩
    have hknown : (store.relation? name).map Relation.schema = some schema := hschema
    rw [relation?, hheld] at hknown
    cases hknown
    exact hlength row hrow
  next => cases hread

/-- Two steps, from one to two and from two to three. -/
def steps : FactStore where
  relations := (∅ : Relations).insert "edge" (.ofRows "edge" ⟨[⟨"from", .int⟩, ⟨"to", .int⟩]⟩
    [[.int 1, .int 2], [.int 2, .int 3]])

/-- The steps make a built store. -/
theorem built_steps : steps.Built := by
  have hadd : addRelation {} "edge" ⟨[⟨"from", .int⟩, ⟨"to", .int⟩]⟩
      [[.int 1, .int 2], [.int 2, .int 3]] = .ok steps := rfl
  have hfinish : steps.finish = steps := rfl
  rw [← hfinish]
  exact .finish (.relation .empty hadd)

end FactStore

end Stratalog
