import Stratalog.Proofs.Session.Reachable
import Stratalog.Proofs.Store.Conformity
import Stratalog.Proofs.Typing.Conformity

/-!
# The rows of a session conform

By induction on the strata, a perfect model gives each predicate without faults below it rows that the
columns of the predicate accept: the accepted rows are closed under the rules, and the model is least.

What a session publishes and answers is what a perfect model says. So published relations conform, and
so do the answers to a query that was prepared.
-/

namespace Stratalog

open Evaluation

variable {store : FactStore} {program : Program} {strata : Stratification} {workspace : Workspace}
  {M : Interpretation} {name : String} {i : Nat}

namespace PerfectModel

/-- The rows of the base relations of a model are accepted if those of the store are. -/
theorem conformsAt_base [PatternEngine] {render : Value → String} {predicates : List Predicate}
    (hM : PerfectModel render store.holds predicates M) (hstore : store.Conforms)
    (hname : name ∉ predicates.map Predicate.name) :
    M.ConformsAt (Catalog.of store predicates) name := by
  intro schema hschema row hrow
  rw [Catalog.of_base hname] at hschema
  obtain ⟨relation, hrelation, rfl⟩ := Option.map_eq_some_iff.1 hschema
  rw [hM.base name hname] at hrow
  exact hstore name relation hrelation row ((Relations.mem_rowsOf_iff hrelation).1 hrow)

/-- The rows that a model gives the members of a stratum are accepted, if no stratum from there
downwards has a fault. -/
theorem conformsAt_of_clean [PatternEngine]
    (hM : PerfectModel store.entities.render store.holds program.predicates M)
    (haccepted : Accepted store program strata) (hstore : store.Conforms) {down : Nat → Prop}
    (hclean : ∀ i, down i → i < strata.strata.length ∧ strata.Clean store program i)
    (hdown : ∀ i, down i → ∀ d ∈ (strata.stratum i).dependsOn, down d) (hi : down i)
    (hname : name ∈ (strata.stratum i).predicates) :
    M.ConformsAt (Catalog.of store program.predicates) name := by
  obtain ⟨-, hnodup, hsound⟩ := haccepted
  induction i using Nat.strongRecOn generalizing name with
  | ind i ih =>
    obtain ⟨hlt, hfaultless⟩ := hclean i hi
    have hpositive : PositiveWithin (program.membersOf (strata.stratum i)) :=
      hsound.positiveWithin hnodup hlt fun name hname => (hfaultless name hname).1
    have hleast := hM.isLeast (hsound.member i hlt name hname)
      (hsound.mem_membersOf_iff hnodup hlt hname) hpositive
    -- The model is least among what is closed, and the induction is on what is read from below.
    have hclosed : consequences store.entities.render (program.membersOf (strata.stratum i)) M
        (acceptedRows (program.membersOf (strata.stratum i))) ≤
          acceptedRows (program.membersOf (strata.stratum i)) := by
      have hknown : ∀ predicate ∈ program.membersOf (strata.stratum i),
          Catalog.of store program.predicates predicate.name = some predicate.schema :=
        fun predicate hmem => Catalog.of_derived hnodup ((Program.mem_membersOf hnodup).1 hmem).1
      refine consequences_acceptedRows_le hknown (fun predicate hmem => ?_) hpositive
        fun predicate hmem read hread hnot => ?_
      · exact Typing.wellTyped_of_checkPredicate (hfaultless.checked hnodup predicate hmem)
      · obtain ⟨hpredicate, hin⟩ := (Program.mem_membersOf hnodup).1 hmem
        rw [Program.map_name_membersOf hnodup (hsound.member i hlt)] at hnot
        by_cases hderived : read.1 ∈ program.predicates.map Predicate.name
        · obtain ⟨d, hd, hbelow, hlower⟩ :=
            hsound.lower_of_reads hlt hpredicate hin hread hderived hnot
          exact ih d hbelow (hdown i hi d hd) hlower
        · exact hM.conformsAt_base hstore hderived
    intro schema hschema row hrow
    obtain ⟨predicate, hpredicate, rfl⟩ := List.mem_map.1 (hsound.member i hlt name hname)
    rw [Catalog.of_derived hnodup hpredicate] at hschema
    cases hschema
    have hmem := (Program.mem_membersOf hnodup).2 ⟨hpredicate, hname⟩
    exact hleast.2 hclosed predicate.name ⟨List.mem_map_of_mem hmem, hrow⟩ predicate hmem rfl

end PerfectModel

/-- A derived predicate that is resolved is published. -/
theorem Workspace.Serves.slot_of_resolve {predicates : List Predicate}
    (h : workspace.Serves store predicates) (hname : name ∈ predicates.map Predicate.name)
    {relation : Relation} (hresolve : workspace.resolve name = .ok relation) :
    workspace.slots[name]? = some (some relation) := by
  unfold Workspace.resolve at hresolve
  split at hresolve
  next held hheld =>
    cases hresolve
    exact hheld
  next => cases hresolve
  next hnone =>
    have hcontains := (h.slots name).2 hname
    rw [Std.TreeMap.contains_eq_isSome_getElem?, hnone] at hcontains
    cases hcontains

variable [PatternEngine]

namespace Workspace.Upholds

/-- The rows that a model gives a published predicate are accepted. -/
theorem conformsAt_of_isPublished (h : workspace.Upholds store program strata)
    (hbalanced : workspace.Balanced store program strata)
    (haccepted : Accepted store program strata) (hstore : store.Conforms)
    (hM : PerfectModel store.entities.render store.holds program.predicates M)
    (hpublished : workspace.isPublished name = true) :
    M.ConformsAt (Catalog.of store program.predicates) name := by
  have hsound := haccepted.sound
  obtain ⟨relation, hrelation⟩ := Workspace.isPublished_iff.1 hpublished
  obtain ⟨predicate, hmem, rfl, -⟩ := h.serves.fit name relation hrelation
  obtain ⟨i, hi, hin⟩ := hsound.covers predicate.name (List.mem_map_of_mem hmem)
  have hclean : ∀ j, j < strata.strata.length ∧ Session.isPublished strata workspace j = true →
      j < strata.strata.length ∧ strata.Clean store program j :=
    fun j hj => ⟨hj.1, hbalanced.clean j hj.1 hj.2⟩
  refine hM.conformsAt_of_clean haccepted hstore hclean (fun j hj d hd => ?_)
    ⟨hi, h.whole i hi predicate.name hin hpublished⟩ hin
  exact ⟨(hsound.below j hj.1 d hd).1.trans hj.1, hbalanced.below j hj.1 hj.2 d hd⟩

/-- What is settled between operations is accepted. -/
theorem conformsAt (h : workspace.Upholds store program strata)
    (hbalanced : workspace.Balanced store program strata)
    (haccepted : Accepted store program strata) (hstore : store.Conforms) (name : String) :
    workspace.settled.ConformsAt (Catalog.of store program.predicates) name := by
  obtain ⟨M, hM⟩ := exists_perfectModel haccepted.nodup store.entities.render store.holds
  rintro schema hschema row ⟨relation, hresolve, hrow⟩
  refine (?_ : M.ConformsAt _ name) schema hschema row ((h.rows_of_resolve hM hresolve row).1 hrow)
  by_cases hderived : name ∈ program.predicates.map Predicate.name
  · have hslot := h.serves.slot_of_resolve hderived hresolve
    exact h.conformsAt_of_isPublished hbalanced haccepted hstore hM
      (Workspace.isPublished_iff.2 ⟨relation, hslot⟩)
  · exact hM.conformsAt_base hstore hderived

end Workspace.Upholds

namespace Session

variable {session : Session} {query : Query} {prepared : PreparedQuery} {result : ResultSet}
  {relation : Relation}

namespace Sound

/-- A published relation has the columns of its predicate, and these accept its rows. -/
theorem accepts_of_published (h : session.Sound)
    (hbalanced : session.workspace.Balanced session.store session.program session.strata)
    (hpublished : session.workspace.published? name = some relation) :
    ∃ predicate ∈ session.program.predicates, predicate.name = name ∧
      relation.schema = predicate.schema ∧
        ∀ row ∈ relation.rows, predicate.schema.accepts row = true := by
  obtain ⟨-, hnodup, -⟩ := h.accepted
  have hslot := Workspace.published?_eq_some_iff.1 hpublished
  obtain ⟨predicate, hmem, rfl, hof⟩ := h.upholds.serves.fit name relation hslot
  refine ⟨predicate, hmem, rfl, hof.schema, fun row hrow => ?_⟩
  exact h.upholds.conformsAt hbalanced h.accepted h.built.conforms predicate.name predicate.schema
    (Catalog.of_derived hnodup hmem) row ⟨relation, Workspace.resolve_of_slot hslot, hrow⟩

/-- What a model says of a name whose strata pass their check is accepted. -/
theorem conformsAt_of_checkStrata (h : session.Sound) (hM : session.Models M) {roots : List String}
    (hcheck : session.checkStrata (session.strata.required roots) = .ok ()) (hname : name ∈ roots) :
    M.ConformsAt session.catalog name := by
  by_cases hderived : name ∈ session.program.predicates.map Predicate.name
  · obtain ⟨-, hroots, hclosed, -⟩ := h.accepted.sound.required_spec roots
    obtain ⟨i, hi, hin⟩ := h.accepted.sound.covers name hderived
    exact hM.conformsAt_of_clean h.accepted h.built.conforms (h.required hcheck).2 hclosed
      (hroots name hname i hi hin) hin
  · exact hM.conformsAt_base h.built.conforms hderived

/-- The answers to a prepared query are accepted by its schema. -/
theorem accepts_of_entails (h : session.Sound) (hprepare : session.prepare query = .ok prepared)
    (hentails : session.Entails query result) : ∀ row ∈ result.rows,
      prepared.schema.accepts row = true := by
  obtain ⟨rfl, hcheck, hstrata, hclean⟩ := prepare_eq_ok hprepare
  obtain ⟨⟨Γ, hwell⟩, -⟩ := Typing.wellTyped_of_checkQuery hcheck
  obtain ⟨M, hM⟩ := exists_perfectModel h.accepted.nodup session.store.entities.render
    session.store.holds
  intro row hrow
  refine hwell.accepts (fun name hname => ?_) (((hentails M hM).2 row).1 hrow)
  exact h.conformsAt_of_checkStrata hM (hstrata ▸ hclean) hname

end Sound

end Session

end Stratalog
