import Stratalog.Proofs.Store.Building

/-!
# What finishing a store publishes

A finished store holds what was supplied. If it knows of entities it also publishes what it knows, one row
for each of them, under the names that are still free: their categories, and the spans of those that have
one.

So whatever steps are tried in assembling a store, those that fail leave no trace in it, and the others
are found in it again.
-/

namespace Stratalog.FactStore

variable {store : FactStore} {name : String} {schema : Schema} {entities : EntityTable}
  {tell : UInt64 → EntityInfo → Option Row} {steps : List BuildStep}

/-- What is published of entities under a name when nothing was supplied under it. -/
def published? (entities : EntityTable) (name : String) : Option Relation :=
  if entities.isEmpty then none
  else if name = entityKindName then some (entityKinds entities)
  else if name = entityLocationName then some (entityLocations entities)
  else none

/-- Supplying a relation changes nothing unless its name is free. -/
theorem relations_supply (store : FactStore) (relation : Relation) (name : String) :
    (store.supply relation).relations[name]? =
      store.relations[name]?.or (if name = relation.name then some relation else none) := by
  unfold supply
  split
  next htaken =>
    split
    next hname =>
      obtain ⟨held, hheld⟩ := exists_getElem?_of_contains htaken
      rw [hname, hheld, Option.some_or]
    next => rw [Option.or_none]
  next hfree =>
    rw [Std.TreeMap.getElem?_insert]
    split
    next hsame =>
      obtain rfl : relation.name = name := Std.LawfulEqOrd.eq_of_compare hsame
      rw [getElem?_eq_none_of_not_contains hfree, if_pos rfl, Option.none_or]
    next hother =>
      have hne : name ≠ relation.name := fun heq =>
        hother (Std.LawfulEqOrd.compare_eq_iff_eq.2 heq.symm)
      rw [if_neg hne, Option.or_none]

/-- Supplying a relation records nothing of entities. -/
@[simp] theorem entities_supply (store : FactStore) (relation : Relation) :
    (store.supply relation).entities = store.entities := by
  unfold supply
  split <;> rfl

/-- Finishing a store records nothing of entities. -/
@[simp] theorem entities_finish (store : FactStore) : store.finish.entities = store.entities := by
  unfold finish
  split
  · rfl
  · rw [entities_supply, entities_supply]

/-- A finished store holds what was supplied, and under free names what is published of entities. -/
theorem relations_finish (store : FactStore) (name : String) : store.finish.relations[name]? =
    store.relations[name]?.or (published? store.entities name) := by
  unfold finish published?
  split
  next => rw [Option.or_none]
  next =>
    rw [relations_supply, relations_supply, Option.or_assoc]
    congr 1
    change (if name = entityKindName then some (entityKinds store.entities) else none).or
      (if name = entityLocationName then some (entityLocations store.entities) else none) = _
    split <;> rfl

end Stratalog.FactStore
