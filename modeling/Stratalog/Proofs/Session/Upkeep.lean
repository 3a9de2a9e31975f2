import Stratalog.Proofs.Fixpoint.SemiNaive
import Stratalog.Proofs.Session.Serving

/-!
# What a session keeps up

Between operations the workspace of a session has no members left over, has used no index out of
range, and has each stratum published as a whole or not at all. A published relation holds the rows
that every perfect model gives its predicate.
-/

namespace Stratalog

open Evaluation

variable {store : FactStore} {program : Program} {workspace after : Workspace}
  {strata : Stratification} {i : Nat} {name : String} {M : Interpretation}

/-- The workspace of a session between operations. -/
structure Workspace.Upholds [PatternEngine] (workspace : Workspace) (store : FactStore) (program : Program)
    (strata : Stratification) : Prop where
  serves : workspace.Serves store program.predicates
  growing : ∀ name : String, workspace.growing[name]? = none
  delta : ∀ name : String, workspace.delta[name]? = none
  inBounds : workspace.inBounds = true
  whole : ∀ i < strata.strata.length, ∀ name ∈ (strata.stratum i).predicates,
    workspace.isPublished name = true → Session.isPublished strata workspace i = true
  model : ∀ M, PerfectModel store.entities.render store.holds program.predicates M →
    ∀ (name : String) (relation : Relation), workspace.slots[name]? = some (some relation) →
      ∀ row, row ∈ relation.rows ↔ row ∈ M name

namespace Workspace

/-- A predicate is published when its slot is filled. -/
theorem isPublished_iff : workspace.isPublished name = true ↔
    ∃ relation, workspace.slots[name]? = some (some relation) := by
  rw [isPublished, published?]
  rcases workspace.slots[name]? with _ | _ | relation <;> simp

/-- What is kept as a whole is kept around the members. -/
theorem Kept.encloses (h : workspace.Kept after) : workspace.Encloses after :=
  ⟨⟨h.agrees.base, h.agrees.slots, fun _ => rfl, fun _ => rfl⟩, h.coherent, h.inBounds⟩

namespace Encloses

/-- A slot filled inside was filled outside, with the same relation but for indices. -/
theorem exists_slot (h : workspace.Encloses after) {relation : Relation}
    (hslot : after.slots[name]? = some (some relation)) :
    ∃ old, workspace.slots[name]? = some (some old) ∧ relation.bare = old.bare := by
  have hslots : after.slots[name]?.map (Option.map Relation.bare) =
      workspace.slots[name]?.map (Option.map Relation.bare) := h.agrees.slots name
  rw [hslot] at hslots
  rcases hold : workspace.slots[name]? with _ | _ | old
  · rw [hold] at hslots
    cases hslots
  · rw [hold] at hslots
    cases hslots
  · rw [hold] at hslots
    exact ⟨old, rfl, Option.some.inj (Option.some.inj hslots)⟩

/-- A slot filled outside is filled inside. -/
theorem isPublished_eq (h : workspace.Encloses after) (name : String) :
    after.isPublished name = workspace.isPublished name := by
  have hslots : after.slots[name]?.map (Option.map Relation.bare) =
      workspace.slots[name]?.map (Option.map Relation.bare) := h.agrees.slots name
  rw [isPublished, isPublished, published?, published?]
  rcases hnew : after.slots[name]? with _ | _ | relation <;>
    rcases hold : workspace.slots[name]? with _ | _ | old <;> rw [hnew, hold] at hslots <;>
      first | rfl | cases hslots

/-- What is published outside is published inside. -/
theorem isPublished_stratum (h : workspace.Encloses after) (strata : Stratification) (i : Nat) :
    Session.isPublished strata after i = Session.isPublished strata workspace i := by
  unfold Session.isPublished
  congr 1
  exact funext h.isPublished_eq

/-- A kept workspace serves as before. -/
theorem serves (h : workspace.Encloses after) {predicates : List Predicate}
    (hserves : workspace.Serves store predicates) : after.Serves store predicates := by
  refine ⟨h.coherent, fun name => (h.agrees.base name).trans (hserves.base name), fun name => ?_,
    fun name relation hslot => ?_⟩
  · have hslots : after.slots[name]?.map (Option.map Relation.bare) =
        workspace.slots[name]?.map (Option.map Relation.bare) := h.agrees.slots name
    have hsome := congrArg Option.isSome hslots
    rw [Option.isSome_map, Option.isSome_map] at hsome
    rw [Std.TreeMap.contains_eq_isSome_getElem?, hsome, ← Std.TreeMap.contains_eq_isSome_getElem?]
    exact hserves.slots name
  · obtain ⟨old, hold, hbare⟩ := h.exists_slot hslot
    obtain ⟨predicate, hmem, hname, hof⟩ := hserves.fit name old hold
    exact ⟨predicate, hmem, hname, hof.congr hbare⟩

end Encloses

variable [PatternEngine]

namespace Upholds

/-- A kept workspace without members upholds what it did. -/
theorem of_encloses (h : workspace.Upholds store program strata) (hencloses : workspace.Encloses after)
    (hgrowing : ∀ name : String, after.growing[name]? = none)
    (hdelta : ∀ name : String, after.delta[name]? = none) : after.Upholds store program strata := by
  refine ⟨hencloses.serves h.serves, hgrowing, hdelta, hencloses.inBounds.trans h.inBounds,
    fun i hi name hname hpublished => ?_, fun M hM name relation hslot row => ?_⟩
  · rw [hencloses.isPublished_stratum]
    exact h.whole i hi name hname (hencloses.isPublished_eq name ▸ hpublished)
  · obtain ⟨old, hold, hbare⟩ := hencloses.exists_slot hslot
    rw [(Relation.bare_eq_iff.1 hbare).2.2]
    exact h.model M hM name old hold row

/-- A kept workspace upholds what it did. -/
theorem of_kept (h : workspace.Upholds store program strata) (hkept : workspace.Kept after) :
    after.Upholds store program strata := by
  refine h.of_encloses hkept.encloses (fun name => ?_) fun name => ?_
  · have hgrowing := hkept.agrees.growing name
    rw [h.growing name] at hgrowing
    exact Option.map_eq_none_iff.1 hgrowing
  · have hdelta := hkept.agrees.delta name
    rw [h.delta name] at hdelta
    exact Option.map_eq_none_iff.1 hdelta

/-- Without members everything is resolved. -/
theorem read_eq_resolve (h : workspace.Upholds store program strata) (name : String) (delta : Bool) :
    workspace.read name delta = workspace.resolve name := by
  unfold read
  rw [h.growing name, h.delta name]
  cases delta <;> rfl

/-- Without members atoms read what is settled. -/
theorem denotes_eq_settled (h : workspace.Upholds store program strata) (delta : Bool) :
    workspace.denotes delta = workspace.settled := by
  funext name
  simp only [denotes, settled, h.read_eq_resolve]

/-- What is read between operations conforms to the catalog. -/
theorem conforms (h : workspace.Upholds store program strata) (hstore : store.WellFormed)
    (hnodup : (program.predicates.map Predicate.name).Nodup) :
    workspace.Conforms (Catalog.of store program.predicates) := by
  intro name delta relation hread
  rw [h.read_eq_resolve] at hread
  exact h.serves.conforms hstore hnodup hread

/-- A relation that is resolved holds what a perfect model says. -/
theorem rows_of_resolve (h : workspace.Upholds store program strata)
    (hM : PerfectModel store.entities.render store.holds program.predicates M) {relation : Relation}
    (hrelation : workspace.resolve name = .ok relation) (row : Row) :
    row ∈ relation.rows ↔ row ∈ M name := by
  unfold resolve at hrelation
  split at hrelation
  next held hheld =>
    cases hrelation
    exact h.model M hM name _ hheld row
  next => cases hrelation
  next hnone =>
    have hname : name ∉ program.predicates.map Predicate.name := fun hmem => by
      have hcontains := (h.serves.slots name).2 hmem
      rw [Std.TreeMap.contains_eq_isSome_getElem?, hnone] at hcontains
      cases hcontains
    split at hrelation
    next held hheld =>
      cases hrelation
      have hbase := h.serves.base name
      rw [hheld, Option.map_some] at hbase
      obtain ⟨original, horiginal, hbare⟩ := Option.map_eq_some_iff.1 hbase.symm
      rw [hM.base name hname, ← (Relation.bare_eq_iff.1 hbare).2.2]
      exact (Relations.mem_rowsOf_iff horiginal).symm
    next => cases hrelation

/-- What is settled is what a perfect model says, wherever a name can be resolved. -/
theorem settled_eq (h : workspace.Upholds store program strata)
    (hM : PerfectModel store.entities.render store.holds program.predicates M)
    (hresolve : (workspace.resolve name).isOk = true) : workspace.settled name = M name := by
  obtain ⟨relation, hrelation⟩ := isOk_iff.1 hresolve
  ext row
  rw [← h.rows_of_resolve hM hrelation]
  constructor
  · rintro ⟨other, hother, hrow⟩
    rw [hrelation] at hother
    cases hother
    exact hrow
  · exact fun hrow => ⟨relation, hrelation, hrow⟩

end Upholds

end Workspace

end Stratalog
