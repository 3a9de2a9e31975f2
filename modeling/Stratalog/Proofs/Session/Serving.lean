import Stratalog.Proofs.Dependency.Schedule
import Stratalog.Proofs.Fixpoint.Members
import Stratalog.Proofs.Store.Built
import Stratalog.Session

/-!
# The workspace of a session

A workspace serves a store and some derived predicates when it holds the relations of the store and
a slot for each predicate, and a filled slot holds a relation fit for its predicate. Once the strata
a stratum depends on are published, such a workspace is ready for the stratum.
-/

namespace Stratalog

variable {store : FactStore} {program : Program} {predicates : List Predicate} {catalog : Catalog}
  {workspace after : Workspace} {strata : Stratification} {stratum : Stratum} {i : Nat} {name : String}

/-- The rows of the base relations. -/
def FactStore.holds (store : FactStore) : Interpretation :=
  Relations.rowsOf store.relations

/-- No predicate of an accepted program has the name of another, and no query that of another. -/
theorem Program.nodup_of_checkNames (h : program.checkNames = .ok ()) :
    (program.predicates.map Predicate.name).Nodup ∧ (program.queries.map Query.name).Nodup := by
  unfold checkNames at h
  split at h
  next => cases h
  next hpredicates =>
    split at h
    next => cases h
    next hqueries =>
      exact ⟨((firstRepeat?_eq_none_iff _ _).1 hpredicates).1,
        ((firstRepeat?_eq_none_iff _ _).1 hqueries).1⟩

/-- The catalog knows a derived predicate by its own schema. -/
theorem Catalog.of_derived (hnodup : (predicates.map Predicate.name).Nodup) {predicate : Predicate}
    (hmem : predicate ∈ predicates) :
    Catalog.of store predicates predicate.name = some predicate.schema := by
  unfold Catalog.of
  split
  next found hfound =>
    have hname : found.name = predicate.name := by simpa using List.find?_some hfound
    have hin := List.mem_reverse.1 (List.mem_of_find?_eq_some hfound)
    rw [List.inj_on_of_nodup_map hnodup hin hmem hname]
  next hnone =>
    have hnot := List.find?_eq_none.1 hnone predicate (List.mem_reverse.2 hmem)
    simp at hnot

/-- The catalog knows other names from the store. -/
theorem Catalog.of_base (hname : name ∉ predicates.map Predicate.name) :
    Catalog.of store predicates name = (store.relation? name).map Relation.schema := by
  unfold Catalog.of
  split
  next found hfound =>
    have heq : found.name = name := by simpa using List.find?_some hfound
    have hin := List.mem_reverse.1 (List.mem_of_find?_eq_some hfound)
    exact absurd (heq ▸ List.mem_map_of_mem hin) hname
  next => rfl

/-- The predicates that a stratum consists of. -/
def Program.membersOf (program : Program) (stratum : Stratum) : List Predicate :=
  stratum.predicates.filterMap program.predicate?

/-- A predicate is found by its name. -/
theorem Program.predicate?_eq_some_iff (hnodup : (program.predicates.map Predicate.name).Nodup)
    {predicate : Predicate} : program.predicate? name = some predicate ↔
      predicate ∈ program.predicates ∧ predicate.name = name := by
  constructor
  · intro h
    exact ⟨List.mem_of_find?_eq_some h, by simpa using List.find?_some h⟩
  · rintro ⟨hmem, rfl⟩
    cases hfound : program.predicate? predicate.name with
    | none =>
      have hnot := List.find?_eq_none.1 hfound predicate hmem
      simp at hnot
    | some found =>
      have hname : found.name = predicate.name := by simpa using List.find?_some hfound
      rw [List.inj_on_of_nodup_map hnodup (List.mem_of_find?_eq_some hfound) hmem hname]

/-- Members of a stratum are predicates of its names. -/
theorem Program.name_mem_of_mem_membersOf {stratum : Stratum} {predicate : Predicate}
    (h : predicate ∈ program.membersOf stratum) : predicate.name ∈ stratum.predicates := by
  obtain ⟨name, hname, hfound⟩ := List.mem_filterMap.1 h
  rw [predicate?] at hfound
  rw [eq_of_beq (List.find?_some hfound :)]
  exact hname

/-- The members of a stratum are the predicates it names. -/
theorem Program.mem_membersOf (hnodup : (program.predicates.map Predicate.name).Nodup)
    {predicate : Predicate} : predicate ∈ program.membersOf stratum ↔
      predicate ∈ program.predicates ∧ predicate.name ∈ stratum.predicates := by
  simp only [membersOf, List.mem_filterMap, predicate?_eq_some_iff hnodup]
  constructor
  · rintro ⟨_, hname, hmem, rfl⟩
    exact ⟨hmem, hname⟩
  · rintro ⟨hmem, hname⟩
    exact ⟨_, hname, hmem, rfl⟩

/-- The members of a stratum have the names of the stratum, in order. -/
theorem Program.map_name_membersOf (hnodup : (program.predicates.map Predicate.name).Nodup)
    (hnames : ∀ name ∈ stratum.predicates, name ∈ program.predicates.map Predicate.name) :
    (program.membersOf stratum).map Predicate.name = stratum.predicates := by
  unfold membersOf
  generalize stratum.predicates = names at hnames ⊢
  induction names with
  | nil => rfl
  | cons name rest ih =>
    obtain ⟨hname, hrest⟩ := List.forall_mem_cons.1 hnames
    obtain ⟨predicate, hmem, rfl⟩ := List.mem_map.1 hname
    rw [List.filterMap_cons, (predicate?_eq_some_iff hnodup).2 ⟨hmem, rfl⟩, List.map_cons, ih hrest]

/-- The members of a stratum without faults read each other in positive atoms only. -/
theorem Stratification.Sound.positiveWithin (h : strata.Sound program.predicates)
    (hnodup : (program.predicates.map Predicate.name).Nodup) (hi : i < strata.strata.length)
    (hclean : ∀ name ∈ (strata.stratum i).predicates, strata.faultOf? name = none) :
    PositiveWithin (program.membersOf (strata.stratum i)) := by
  intro predicate hmem read hread hin
  obtain ⟨hpredicate, hname⟩ := (Program.mem_membersOf hnodup).1 hmem
  rw [Program.map_name_membersOf hnodup (h.member i hi)] at hin
  exact h.positive i hi predicate.name hname (hclean _ hname) predicate hpredicate hname read hread
    hin

/-- A workspace holds the base relations of a store and a slot for each derived predicate, and each
filled slot holds a relation fit for its predicate. -/
structure Workspace.Serves (workspace : Workspace) (store : FactStore)
    (predicates : List Predicate) : Prop where
  coherent : workspace.Coherent
  base : ∀ name : String,
    workspace.base[name]?.map Relation.bare = store.relations[name]?.map Relation.bare
  slots : ∀ name : String,
    workspace.slots.contains name = true ↔ name ∈ predicates.map Predicate.name
  fit : ∀ (name : String) (relation : Relation), workspace.slots[name]? = some (some relation) →
    ∃ predicate ∈ predicates, predicate.name = name ∧ relation.IsOf predicate

/-- The slots made for names are empty, and there is one for each. -/
theorem Session.getElem?_emptySlots {names : List String} (hnodup : names.Nodup)
    (slot : Option Relation) :
    (Session.emptySlots names)[name]? = some slot ↔ name ∈ names ∧ slot = none := by
  unfold Session.emptySlots
  rw [getElem?_ofList_iff, List.mem_map]
  · constructor
    · rintro ⟨_, hmem, ⟨⟩⟩
      exact ⟨hmem, rfl⟩
    · rintro ⟨hmem, rfl⟩
      exact ⟨name, hmem, rfl⟩
  · rw [List.map_map]
    exact (List.map_id names).symm ▸ hnodup

/-- The slots made for names hold no relation. -/
theorem Session.emptySlots_ne_some {names : List String} (hnodup : names.Nodup) (name : String)
    (relation : Relation) : (Session.emptySlots names)[name]? ≠ some (some relation) := by
  intro hslot
  obtain ⟨-, hslot⟩ := (Session.getElem?_emptySlots hnodup _).1 hslot
  cases hslot

/-- A workspace serves a store and its predicates before any predicate is finished. -/
theorem Workspace.serves_start (hstore : store.WellFormed)
    (hnodup : (predicates.map Predicate.name).Nodup) :
    ({ base := store.relations
       slots := Session.emptySlots (predicates.map Predicate.name) } : Workspace).Serves store
      predicates := by
  have hempty := Session.emptySlots_ne_some hnodup
  refine ⟨hstore.coherent hempty, fun _ => rfl, fun name => ?_,
    fun name relation hrelation => absurd hrelation (hempty name relation)⟩
  rw [Std.TreeMap.contains_eq_isSome_getElem?, Option.isSome_iff_exists]
  simp only [Session.getElem?_emptySlots hnodup]
  exact ⟨fun ⟨_, hmem, _⟩ => hmem, fun hmem => ⟨none, hmem, rfl⟩⟩

/-- A published predicate is resolved to its relation. -/
theorem Workspace.resolve_of_slot {relation : Relation}
    (h : workspace.slots[name]? = some (some relation)) : workspace.resolve name = .ok relation := by
  rw [resolve, h]

namespace Workspace.Serves

/-- A name that is no derived predicate's is resolved to the base relation. -/
theorem resolve_base (h : workspace.Serves store predicates)
    (hname : name ∉ predicates.map Predicate.name) {relation : Relation}
    (hrelation : store.relations[name]? = some relation) :
    ∃ held, workspace.resolve name = .ok held ∧ held.bare = relation.bare := by
  have hbase := h.base name
  rw [hrelation, Option.map_some] at hbase
  obtain ⟨held, hheld, hbare⟩ := Option.map_eq_some_iff.1 hbase
  refine ⟨held, ?_, hbare⟩
  rw [resolve, getElem?_eq_none_of_not_contains (mt (h.slots name).1 hname), hheld]

/-- A name that is neither a derived predicate's nor the store's is unknown. -/
theorem resolve_unknown (h : workspace.Serves store predicates)
    (hname : name ∉ predicates.map Predicate.name) (hnone : store.relation? name = none) :
    workspace.resolve name = .error (.unknownPredicate name) := by
  have hbase := h.base name
  rw [FactStore.relation?] at hnone
  rw [hnone, Option.map_none, Option.map_eq_none_iff] at hbase
  rw [resolve, getElem?_eq_none_of_not_contains (mt (h.slots name).1 hname), hbase]

/-- What is resolved is distinct rows as wide as the catalog says. -/
theorem conforms (h : workspace.Serves store predicates) (hstore : store.WellFormed)
    (hnodup : (predicates.map Predicate.name).Nodup) {relation : Relation}
    (hresolve : workspace.resolve name = .ok relation) : relation.rows.Nodup ∧
      ∀ schema, Catalog.of store predicates name = some schema →
        ∀ row ∈ relation.rows, row.length = schema.arity := by
  unfold resolve at hresolve
  split at hresolve
  next held hheld =>
    cases hresolve
    obtain ⟨predicate, hmem, rfl, hof⟩ := h.fit name _ hheld
    refine ⟨hof.nodup, fun schema hschema row hrow => ?_⟩
    rw [Catalog.of_derived hnodup hmem] at hschema
    cases hschema
    exact hof.length row hrow
  next => cases hresolve
  next hnone =>
    split at hresolve
    next held hheld =>
      cases hresolve
      have hbase := h.base name
      rw [hheld, Option.map_some] at hbase
      obtain ⟨original, horiginal, hbare⟩ := Option.map_eq_some_iff.1 hbase.symm
      obtain ⟨-, hschema, hrows⟩ := Relation.bare_eq_iff.1 hbare
      obtain ⟨-, -, hdistinct, hlength⟩ := hstore name original horiginal
      have hname : name ∉ predicates.map Predicate.name := fun hmem => by
        have hcontains := (h.slots name).2 hmem
        rw [Std.TreeMap.contains_eq_isSome_getElem?, hnone] at hcontains
        cases hcontains
      refine ⟨hrows ▸ hdistinct, fun schema hknown row hrow => ?_⟩
      rw [Catalog.of_base hname, FactStore.relation?, horiginal] at hknown
      cases hknown
      exact hlength row (hrows ▸ hrow)
    next => cases hresolve

/-- A name that the catalog knows is resolved, unless it is that of a derived predicate. -/
theorem isOk_resolve_base (h : workspace.Serves store predicates)
    (hname : name ∉ predicates.map Predicate.name)
    (hknown : ∃ schema, Catalog.of store predicates name = some schema) :
    (workspace.resolve name).isOk = true := by
  obtain ⟨schema, hschema⟩ := hknown
  rw [Catalog.of_base hname] at hschema
  obtain ⟨relation, hrelation, -⟩ := Option.map_eq_some_iff.1 hschema
  obtain ⟨held, hheld, -⟩ := h.resolve_base hname hrelation
  rw [hheld]
  rfl

/-- Members of published strata are resolved. -/
theorem isOk_resolve_of_isPublished (hpublished : Session.isPublished strata workspace i = true)
    (hname : name ∈ (strata.stratum i).predicates) : (workspace.resolve name).isOk = true := by
  have hsome := List.all_eq_true.1 hpublished name hname
  rw [isPublished, published?] at hsome
  cases hslot : workspace.slots[name]? with
  | none => rw [hslot] at hsome; cases hsome
  | some slot =>
    rw [hslot] at hsome
    cases slot with
    | none => cases hsome
    | some relation =>
      rw [resolve_of_slot hslot]
      rfl

/-- Checked predicates are admitted: what the workspace resolves conforms to their catalog. -/
theorem admits [PatternEngine] (h : workspace.Serves store predicates) (hstore : store.WellFormed)
    (hnodup : (predicates.map Predicate.name).Nodup) {members : List Predicate}
    (hmembers : ∀ member ∈ members, member ∈ predicates)
    (hnames : (members.map Predicate.name).Nodup)
    (hchecked : ∀ member ∈ members,
      Typing.checkPredicate store (Catalog.of store predicates) member = .ok ()) :
    Evaluation.Admits (Catalog.of store predicates) members workspace :=
  ⟨hnames, fun member hmem => Catalog.of_derived hnodup (hmembers member hmem),
    fun member hmem => (Typing.checked_of_checkPredicate (hchecked member hmem)).2, h.coherent,
    fun _ _ hresolve => h.conforms hstore hnodup hresolve⟩

/-- Once the strata that a stratum without faults depends on are published, everything is ready for
its evaluation. -/
theorem ready [PatternEngine] (h : workspace.Serves store program.predicates) (hstore : store.WellFormed)
    (hnodup : (program.predicates.map Predicate.name).Nodup)
    (hsound : strata.Sound program.predicates) (hi : i < strata.strata.length)
    (hclean : ∀ name ∈ (strata.stratum i).predicates, strata.faultOf? name = none)
    (hchecked : ∀ predicate ∈ program.membersOf (strata.stratum i), Typing.checkPredicate store
      (Catalog.of store program.predicates) predicate = .ok ())
    (hpublished : ∀ d ∈ (strata.stratum i).dependsOn,
      Session.isPublished strata workspace d = true) :
    Evaluation.Ready (Catalog.of store program.predicates) (program.membersOf (strata.stratum i))
      workspace := by
  have hnames := Program.map_name_membersOf hnodup (hsound.member i hi)
  have hadmits := h.admits hstore hnodup
    (fun predicate hmem => ((Program.mem_membersOf hnodup).1 hmem).1) (hnames ▸ hsound.nodup i hi)
    hchecked
  refine ⟨hadmits.nodup, hadmits.schema, hadmits.rules, hsound.positiveWithin hnodup hi hclean,
    fun predicate hmem read hread hnot => ?_, hadmits.coherent, hadmits.conforms⟩
  obtain ⟨hpredicate, hname⟩ := (Program.mem_membersOf hnodup).1 hmem
  rw [hnames] at hnot
  by_cases hderived : read.1 ∈ program.predicates.map Predicate.name
  · obtain ⟨d, hd, -, hin⟩ :=
      hsound.lower_of_reads hi hpredicate hname hread hderived hnot
    exact isOk_resolve_of_isPublished (hpublished d hd) hin
  · obtain ⟨rule, hrule, hbody⟩ := List.mem_flatMap.1 hread
    obtain ⟨site, env, hcheck, -⟩ := (hadmits.rules predicate hmem rule hrule).body
    exact h.isOk_resolve_base hderived (Typing.exists_schema_of_checkBody hcheck read hbody)

end Workspace.Serves

end Stratalog
