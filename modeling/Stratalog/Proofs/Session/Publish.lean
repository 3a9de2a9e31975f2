import Stratalog.Proofs.Session.Upkeep

/-!
# Publishing strata

A stratum is evaluated when the strata it depends on are published, and its relations are published
at once. What naive iteration ends with is what every perfect model gives the members, since both
are least and read the same rows from outside.
-/

namespace Stratalog

open Evaluation Eval

variable {store : FactStore} {program : Program} {context : Context} {workspace after : Workspace}
  {strata : Stratification} {i : Nat} {name : String} {M : Interpretation}
  {relations : List Relation}

/-- The members of a stratum are the class of each of them. -/
theorem Stratification.Sound.mem_membersOf_iff (h : strata.Sound program.predicates)
    (hnodup : (program.predicates.map Predicate.name).Nodup) (hi : i < strata.strata.length)
    (hname : name ∈ (strata.stratum i).predicates) (predicate : Predicate) :
    predicate ∈ program.membersOf (strata.stratum i) ↔
      predicate ∈ program.predicates ∧ Together program.predicates name predicate.name := by
  rw [Program.mem_membersOf hnodup]
  exact and_congr_right fun hmem => h.mem_iff_together hi hname hmem

/-- Naive iteration ends with what a perfect model says. -/
theorem Workspace.Upholds.naive_eq [PatternEngine] (h : workspace.Upholds store program strata)
    (hnodup : (program.predicates.map Predicate.name).Nodup)
    (hsound : strata.Sound program.predicates) (hcontext : context.entities = store.entities)
    (hi : i < strata.strata.length)
    (hready : Ready (Catalog.of store program.predicates)
      (program.membersOf (strata.stratum i)) workspace) {k : Nat}
    (hsettles : Settles context (strata.stratum i) (program.membersOf (strata.stratum i)) workspace k)
    (hM : PerfectModel store.entities.render store.holds program.predicates M)
    {predicate : Predicate} (hmem : predicate ∈ program.membersOf (strata.stratum i)) :
    naive context (program.membersOf (strata.stratum i)) workspace (k + 1) predicate.name =
      M predicate.name := by
  obtain ⟨hpredicate, hname⟩ := (Program.mem_membersOf hnodup).1 hmem
  have hoperator (X : Interpretation) :
      consequences store.entities.render (program.membersOf (strata.stratum i)) M X =
        consequences store.entities.render (program.membersOf (strata.stratum i))
          workspace.settled X := by
    refine consequences_congr hready.monotone (fun reader hreader read hread hnot => ?_) X
    exact (h.settled_eq hM (hready.resolves reader hreader read hread hnot)).symm
  have hleast := hM.isLeast (hsound.member i hi _ hname)
    (hsound.mem_membersOf_iff hnodup hi hname) hready.monotone
  simp only [hoperator] at hleast
  have hnaive : IsLeast {X | consequences store.entities.render
      (program.membersOf (strata.stratum i)) workspace.settled X ≤ X}
      (naive context (program.membersOf (strata.stratum i)) workspace (k + 1)) := by
    rw [← hcontext]
    exact isLeast_of_isFixedPt
      (isFixedPt_of_settles (recursivePositions_eq_nil hnodup hsound hi) hsettles)
  rw [hnaive.unique hleast]
  ext row
  exact and_iff_right (List.mem_map_of_mem hmem)

namespace Workspace

/-- The slots of some relations were filled, and nothing else changed. -/
structure Filled (before after : Workspace) (relations : List Relation) : Prop where
  frame : after = { before with slots := after.slots }
  filled : ∀ relation ∈ relations, after.slots[relation.name]? = some (some relation)
  kept : ∀ name : String, name ∉ relations.map Relation.name →
    after.slots[name]? = before.slots[name]?

end Workspace

/-- Empty slots are filled, and nothing else changes. -/
theorem Session.ensures_publishAll (hnodup : (relations.map Relation.name).Nodup)
    (hempty : ∀ relation ∈ relations, workspace.slots[relation.name]? = some none) :
    (publishAll relations).Ensures workspace (fun _ after => workspace.Filled after relations)
      fun _ _ => False := by
  induction relations generalizing workspace with
  | nil =>
    rw [publishAll, ensures_pure]
    exact ⟨rfl, by simp, fun _ _ => rfl⟩
  | cons relation rest ih =>
    obtain ⟨hrelation, hrest⟩ := List.forall_mem_cons.1 hempty
    obtain ⟨hname, hnames⟩ := List.nodup_cons.1 hnodup
    have hpublish : workspace.publish relation.name relation = .ok { workspace with
        slots := workspace.slots.insert relation.name (some relation) } := by
      rw [Workspace.publish, hrelation]
    have hother {other : String} (hne : other ≠ relation.name) :
        (workspace.slots.insert relation.name (some relation))[other]? =
          workspace.slots[other]? := by
      rw [Std.TreeMap.getElem?_insert, if_neg]
      exact fun heq => hne (Std.LawfulEqOrd.eq_of_compare heq).symm
    have hself : (workspace.slots.insert relation.name (some relation))[relation.name]? =
        some (some relation) := Std.TreeMap.getElem?_insert_self
    rw [publishAll]
    simp only [ensures_bind, ensures_get, hpublish, ensures_lift, ensures_set]
    refine ⟨fun _ heq => ?_, fun _ heq => by cases heq⟩
    cases heq
    refine (ih hnames fun other hmem => ?_).mono (fun _ after hafter => ?_) fun _ _ => id
    · exact (hother fun heq => hname (heq ▸ List.mem_map_of_mem hmem)).trans (hrest other hmem)
    · refine ⟨hafter.frame, List.forall_mem_cons.2
        ⟨(hafter.kept relation.name hname).trans hself, hafter.filled⟩, fun name hnot => ?_⟩
      rw [List.map_cons, List.mem_cons, not_or] at hnot
      exact (hafter.kept name hnot.2).trans (hother hnot.1)

namespace Workspace

namespace Filled

/-- A filled slot was filled before, or holds one of the relations. -/
theorem slot_cases (h : workspace.Filled after relations) {relation : Relation}
    (hget : after.slots[name]? = some (some relation)) :
    (relation ∈ relations ∧ relation.name = name) ∨
      workspace.slots[name]? = some (some relation) := by
  by_cases hname : name ∈ relations.map Relation.name
  · obtain ⟨other, hmem, rfl⟩ := List.mem_map.1 hname
    rw [h.filled other hmem] at hget
    cases hget
    exact Or.inl ⟨hmem, rfl⟩
  · exact Or.inr (h.kept name hname ▸ hget)

/-- The relations are published. -/
theorem isPublished_of_mem (h : workspace.Filled after relations)
    (hname : name ∈ relations.map Relation.name) : after.isPublished name = true := by
  obtain ⟨relation, hmem, rfl⟩ := List.mem_map.1 hname
  exact isPublished_iff.2 ⟨relation, h.filled relation hmem⟩

/-- What was published stays so. -/
theorem isPublished_mono (h : workspace.Filled after relations)
    (hname : workspace.isPublished name = true) : after.isPublished name = true := by
  by_cases hmember : name ∈ relations.map Relation.name
  · exact h.isPublished_of_mem hmember
  · rw [isPublished_iff, h.kept name hmember]
    exact isPublished_iff.1 hname

/-- Filling slots with coherent relations keeps a workspace coherent. -/
theorem coherent (h : workspace.Filled after relations) (hcoherent : workspace.Coherent)
    (hrelations : ∀ relation ∈ relations, relation.Coherent) : after.Coherent := by
  refine ⟨?_, fun name relation hget => ?_, ?_, ?_⟩
  · rw [h.frame]
    exact hcoherent.base
  · rcases h.slot_cases hget with ⟨hmem, -⟩ | hold
    · exact hrelations relation hmem
    · exact hcoherent.slots name relation hold
  · rw [h.frame]
    exact hcoherent.growing
  · rw [h.frame]
    exact hcoherent.delta

/-- Filling slots with relations of their predicates keeps a workspace serving. -/
theorem serves (h : workspace.Filled after relations) {predicates : List Predicate}
    (hserves : workspace.Serves store predicates) (hrelations : ∀ relation ∈ relations,
      relation.Coherent ∧ ∃ predicate ∈ predicates, relation.IsOf predicate) :
    after.Serves store predicates := by
  refine ⟨h.coherent hserves.coherent fun relation hmem => (hrelations relation hmem).1, ?_,
    fun name => ?_, fun name relation hget => ?_⟩
  · rw [h.frame]
    exact hserves.base
  · by_cases hname : name ∈ relations.map Relation.name
    · obtain ⟨relation, hmem, rfl⟩ := List.mem_map.1 hname
      obtain ⟨-, predicate, hpredicate, hof⟩ := hrelations relation hmem
      rw [Std.TreeMap.contains_eq_isSome_getElem?, h.filled relation hmem, hof.name]
      exact iff_of_true rfl (List.mem_map_of_mem hpredicate)
    · rw [Std.TreeMap.contains_eq_isSome_getElem?, h.kept name hname,
        ← Std.TreeMap.contains_eq_isSome_getElem?]
      exact hserves.slots name
  · rcases h.slot_cases hget with ⟨hmem, rfl⟩ | hold
    · obtain ⟨-, predicate, hpredicate, hof⟩ := hrelations relation hmem
      exact ⟨predicate, hpredicate, hof.name.symm, hof⟩
    · exact hserves.fit name relation hold

end Filled

namespace Upholds

/-- The slots of a stratum that is not published are all empty. -/
theorem slot_eq_none [PatternEngine] (h : workspace.Upholds store program strata)
    (hsound : strata.Sound program.predicates) (hi : i < strata.strata.length)
    (hnot : ¬Session.isPublished strata workspace i = true)
    (hname : name ∈ (strata.stratum i).predicates) : workspace.slots[name]? = some none := by
  have hcontains := (h.serves.slots name).2 (hsound.member i hi name hname)
  obtain ⟨slot, hslot⟩ := exists_getElem?_of_contains hcontains
  cases slot with
  | none => exact hslot
  | some relation =>
    exact absurd (h.whole i hi name hname (isPublished_iff.2 ⟨relation, hslot⟩)) hnot

/-- Publishing what every perfect model says of a stratum keeps up what is to be kept up. -/
theorem publish [PatternEngine] (h : workspace.Upholds store program strata)
    (hsound : strata.Sound program.predicates) (hi : i < strata.strata.length)
    (hnames : relations.map Relation.name = (strata.stratum i).predicates)
    (hrelations : ∀ relation ∈ relations,
      relation.Coherent ∧ ∃ predicate ∈ program.predicates, relation.IsOf predicate)
    (hmodel : ∀ relation ∈ relations, ∀ M,
      PerfectModel store.entities.render store.holds program.predicates M →
        ∀ row, row ∈ relation.rows ↔ row ∈ M relation.name)
    (hfilled : workspace.Filled after relations) :
    after.Upholds store program strata ∧ Session.isPublished strata after i = true := by
  have hpublished : Session.isPublished strata after i = true :=
    List.all_eq_true.2 fun name hname => hfilled.isPublished_of_mem (hnames ▸ hname)
  refine ⟨⟨hfilled.serves h.serves hrelations, ?_, ?_, ?_, fun j hj name hname hisPublished => ?_,
    fun M hM name relation hget row => ?_⟩, hpublished⟩
  · rw [hfilled.frame]
    exact h.growing
  · rw [hfilled.frame]
    exact h.delta
  · rw [hfilled.frame]
    exact h.inBounds
  · by_cases heq : i = j
    · exact heq ▸ hpublished
    · have hnot : name ∉ relations.map Relation.name := fun hmem => heq <|
        (hsound.together i hi name (hnames ▸ hmem) j hj name hname).2 (Together.refl _ _)
      have hbefore : workspace.isPublished name = true := by
        rw [isPublished_iff, ← hfilled.kept name hnot]
        exact isPublished_iff.1 hisPublished
      have hwhole := List.all_eq_true.1 (h.whole j hj name hname hbefore)
      exact List.all_eq_true.2 fun other hother => hfilled.isPublished_mono (hwhole other hother)
  · rcases hfilled.slot_cases hget with ⟨hmem, rfl⟩ | hold
    · exact hmodel relation hmem M hM row
    · exact h.model M hM name relation hold row

end Upholds

end Workspace

end Stratalog
