import Stratalog.Proofs.Relation.Join
import Stratalog.Proofs.Relation.Sorted
import Stratalog.Proofs.Semantics.Fold
import Stratalog.Proofs.Workspace.Frame

/-!
# Relations in outline

The outline of a relation is its name, its schema and its rows in no order. What the operators
find depends on outlines alone: neither the order of the rows nor the indices at hand decide how
many rows a join gives, whether it passes its limit, or which rows an antijoin keeps. They decide the
order of the rows and nothing else.
-/

namespace Stratalog

/-- The name, the schema and the rows of a relation, in no order. -/
def Relation.outline (relation : Relation) : String × Schema × Multiset Row :=
  (relation.name, relation.schema, relation.rows)

namespace Relation

variable {left right : Relation}

/-- Outlines are the same when names and schemas are and one has the rows of the other. -/
theorem outline_eq_iff : left.outline = right.outline ↔
    left.name = right.name ∧ left.schema = right.schema ∧ left.rows.Perm right.rows := by
  simp [outline]

/-- Relations that differ in their indices have one outline. -/
theorem outline_of_bare (h : left.bare = right.bare) : left.outline = right.outline := by
  obtain ⟨hname, hschema, hrows⟩ := bare_eq_iff.1 h
  exact outline_eq_iff.2 ⟨hname, hschema, hrows ▸ List.Perm.refl _⟩

/-- Entries that differ in indices have the same outlines. -/
theorem map_outline_of_bare {entry entry' : Option Relation}
    (h : entry.map Relation.bare = entry'.map Relation.bare) :
    entry.map Relation.outline = entry'.map Relation.outline := by
  have hmap := congrArg (Option.map Relation.outline) h
  rw [Option.map_map, Option.map_map] at hmap
  exact hmap

/-- Slots that differ in indices have the same outlines. -/
theorem map_map_outline_of_bare {slot slot' : Option (Option Relation)}
    (h : slot.map (Option.map Relation.bare) = slot'.map (Option.map Relation.bare)) :
    slot.map (Option.map Relation.outline) = slot'.map (Option.map Relation.outline) := by
  have hmap := congrArg (Option.map (Option.map Relation.outline)) h
  rw [Option.map_map, Option.map_map, Option.map_comp_map] at hmap
  exact hmap

/-- Relations of one outline have the rows of each other. -/
theorem perm_of_outline (h : left.outline = right.outline) : left.rows.Perm right.rows :=
  (outline_eq_iff.1 h).2.2

/-- Relations of one outline have as many rows. -/
theorem size_of_outline (h : left.outline = right.outline) : left.size = right.size :=
  (perm_of_outline h).length_eq

/-- Relations of one outline are empty together. -/
theorem isEmpty_of_outline (h : left.outline = right.outline) : left.isEmpty = right.isEmpty := by
  rw [isEmpty, isEmpty, Bool.eq_iff_iff, List.isEmpty_iff, List.isEmpty_iff]
  exact ⟨fun hnil => (hnil ▸ perm_of_outline h).nil_eq.symm,
    fun hnil => (hnil ▸ (perm_of_outline h).symm).nil_eq.symm⟩

/-- Relations of one outline that grow by the same rows keep one outline. -/
theorem outline_extend (h : left.outline = right.outline) {rows rows' : List Row}
    (hrows : rows.Perm rows') : (left.extend rows).outline = (right.extend rows').outline := by
  obtain ⟨hname, hschema, hperm⟩ := outline_eq_iff.1 h
  exact outline_eq_iff.2 ⟨hname, hschema, hperm.append hrows⟩

/-- Relations made of the same rows have one outline. -/
theorem outline_ofDistinct (name : String) (schema : Schema) {rows rows' : List Row}
    (h : rows.Perm rows') :
    (ofDistinct name schema rows).outline = (ofDistinct name schema rows').outline :=
  outline_eq_iff.2 ⟨rfl, rfl, h⟩

/-- The membership test looks for a row of the right length whose columns are those asked for. -/
theorem Coherent.fst_contains_iff (h : left.Coherent) (row : Row) :
    (left.contains row).1 = true ↔
      row.length = left.arity ∧ ∃ held ∈ left.rows, held.pick left.allColumns = row := by
  rw [contains]
  split
  next hrow =>
    change (left.index left.allColumns).1.hasKey row = true ↔ _
    rw [h.fst_index, Index.hasKey_build]
    exact ⟨fun hheld => ⟨hrow, hheld⟩, And.right⟩
  next hrow => exact iff_of_false Bool.false_ne_true fun hheld => hrow hheld.1

/-- Relations of one outline contain the same rows. -/
theorem fst_contains_of_outline (hleft : left.Coherent) (hright : right.Coherent)
    (h : left.outline = right.outline) (row : Row) :
    (left.contains row).1 = (right.contains row).1 := by
  obtain ⟨-, hschema, hperm⟩ := outline_eq_iff.1 h
  rw [Bool.eq_iff_iff, hleft.fst_contains_iff, hright.fst_contains_iff, allColumns, allColumns,
    arity, arity, hschema]
  simp only [hperm.mem_iff]

end Relation

/-- Equal rows in another order are sorted alike. -/
theorem Row.sortDistinct_of_perm {rows rows' : List Row} (h : rows.Perm rows') :
    sortDistinct rows = sortDistinct rows' :=
  Row.eq_of_pairwise_lt (pairwise_sortDistinct rows) (pairwise_sortDistinct rows')
    fun row => by rw [mem_sortDistinct, mem_sortDistinct, h.mem_iff]

/-! ### Joins -/

section Joins

variable {left left' : List Row} {keys : List KeyPart} {right right' : Relation}
  {columns : List Nat} {limit : Nat} {emit : Row → Row → Option Row}

/-- The nested loop over the same rows in another order gives the same rows. -/
theorem nestedLoop_perm {rows rows' : List Row} (hleft : left.Perm left') (hrows : rows.Perm rows') :
    (nestedLoop left keys rows columns emit).Perm (nestedLoop left' keys rows' columns emit) :=
  hleft.flatMap fun _ _ => (hrows.filter _).filterMap _

/-- A join passes its limit exactly when the nested loop does. -/
theorem truncated_joinRows_iff (hright : right.Coherent) (hkeys : keys.length = columns.length) :
    (joinRows left keys right columns limit emit).report.truncated = true ↔
      limit < (nestedLoop left keys right.rows columns emit).length :=
  (joinRows_givesWithin hright hkeys left limit emit).truncated_iff

variable (hleft : left.Perm left') (hrows : right.rows.Perm right'.rows) (hright : right.Coherent)
  (hright' : right'.Coherent) (hkeys : keys.length = columns.length)

include hleft hrows hright hright' hkeys

/-- A join of the same rows in another order that passes its limit passes every lower one. -/
theorem truncated_of_le {limit' : Nat} (hlimit : limit ≤ limit')
    (h : (joinRows left' keys right' columns limit' emit).report.truncated = true) :
    (joinRows left keys right columns limit emit).report.truncated = true := by
  rw [truncated_joinRows_iff hright' hkeys, ← (nestedLoop_perm hleft hrows).length_eq] at h
  exact (truncated_joinRows_iff hright hkeys).2 (hlimit.trans_lt h)

/-- Joins of the same rows in another order give the same rows where both keep their limits. -/
theorem joinRows_perm_joinRows {limit' : Nat}
    (h : (joinRows left keys right columns limit emit).report.truncated = false)
    (h' : (joinRows left' keys right' columns limit' emit).report.truncated = false) :
    (joinRows left keys right columns limit emit).rows.Perm
      (joinRows left' keys right' columns limit' emit).rows :=
  (joinRows_perm hright hkeys h).trans
    ((nestedLoop_perm hleft hrows).trans (joinRows_perm hright' hkeys h').symm)

omit hleft hrows hright hright' hkeys

/-- The product is chosen for every join without keys and for no other. -/
theorem chooseStrategy_eq_cartesian_iff {size : Nat} :
    chooseStrategy size right columns = .cartesian ↔ columns = [] := by
  refine ⟨eq_nil_of_cartesian, fun hnil => ?_⟩
  rw [hnil]
  rfl

/-- An antijoin of the same rows in another order keeps the same rows. -/
theorem antijoinRows_perm (hleft : left.Perm left')
    (hrows : right.rows.Perm right'.rows) (hright : right.Coherent) (hright' : right'.Coherent)
    (hkeys : keys.length = columns.length) :
    (antijoinRows left keys right columns).1.Perm (antijoinRows left' keys right' columns).1 := by
  rw [fst_antijoinRows hright hkeys, fst_antijoinRows hright' hkeys]
  simp only [hrows.mem_iff]
  exact hleft.filter _

end Joins

end Stratalog
