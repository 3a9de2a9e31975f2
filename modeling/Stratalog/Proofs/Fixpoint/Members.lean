import Stratalog.Evaluation.Fixpoint
import Stratalog.Proofs.Plan.Completion
import Stratalog.Proofs.Semantics.Consequence
import Stratalog.Proofs.Typing.Program

/-!
# The members of a stratum as they grow

While a stratum is evaluated its members hold the rows found so far and, beside them, the rows
found in the round before. Everything else is read from the workspace around, which is left as it
was. So the atoms of a rule read an interpretation in which the members are laid over what is
settled.
-/

namespace Stratalog

/-- The rows held under each name. -/
def Relations.rowsOf (relations : Relations) : Interpretation := fun name =>
  {row | ∃ relation, relations[name]? = some relation ∧ row ∈ relation.rows}

/-- A relation fit to be that of a predicate: it has the name and the schema of the predicate, and
distinct rows of its width. -/
structure Relation.IsOf (relation : Relation) (predicate : Predicate) : Prop where
  name : relation.name = predicate.name
  schema : relation.schema = predicate.schema
  nodup : relation.rows.Nodup
  length : ∀ row ∈ relation.rows, row.length = predicate.columns.length

/-- Whether every relation held is that of a listed predicate. -/
def Relations.AreOf (predicates : List Predicate) (relations : Relations) : Prop :=
  ∀ (name : String) (relation : Relation), relations[name]? = some relation →
    ∃ predicate ∈ predicates, predicate.name = name ∧ relation.IsOf predicate

/-- What is read outside the stratum under evaluation. -/
def Workspace.settled (workspace : Workspace) : Interpretation := fun name =>
  {row | ∃ relation, workspace.resolve name = .ok relation ∧ row ∈ relation.rows}

/-- An evaluation whose members grew kept everything around them. -/
def Workspace.Encloses (outer inner : Workspace) : Prop :=
  Workspace.Kept { outer with growing := inner.growing, delta := inner.delta } inner

variable {outer workspace after : Workspace} {predicates : List Predicate} {catalog : Catalog}
  {X D : Interpretation} {relations others : Relations} {name : String}

/-- Relations that are the same without indices are fit for the same predicate. -/
theorem Relation.IsOf.congr {relation other : Relation} {predicate : Predicate}
    (h : relation.IsOf predicate) (hbare : other.bare = relation.bare) : other.IsOf predicate := by
  obtain ⟨hname, hschema, hrows⟩ := Relation.bare_eq_iff.1 hbare
  exact ⟨hname.trans h.name, hschema.trans h.schema, hrows ▸ h.nodup, hrows ▸ h.length⟩

namespace Relations

/-- What is held in agreement with fit relations is fit. -/
theorem AreOf.congr (h : relations.AreOf predicates)
    (hagree : ∀ name : String, others[name]?.map Relation.bare = relations[name]?.map Relation.bare) :
    others.AreOf predicates := by
  intro name other hother
  have hsome := hagree name
  rw [hother, Option.map_some] at hsome
  obtain ⟨relation, hrelation, hbare⟩ := Option.map_eq_some_iff.1 hsome.symm
  obtain ⟨predicate, hmem, hname, hof⟩ := h name relation hrelation
  exact ⟨predicate, hmem, hname, hof.congr hbare.symm⟩

/-- Agreeing relations hold the same rows. -/
theorem rowsOf_congr
    (hagree : ∀ name : String, others[name]?.map Relation.bare = relations[name]?.map Relation.bare) :
    others.rowsOf = relations.rowsOf := by
  have hone {left right : Relations}
      (hagree : ∀ name : String, left[name]?.map Relation.bare = right[name]?.map Relation.bare)
      {name : String} {row : Row} (hrow : row ∈ left.rowsOf name) : row ∈ right.rowsOf name := by
    obtain ⟨relation, hrelation, hmem⟩ := hrow
    have hsome := hagree name
    rw [hrelation, Option.map_some] at hsome
    obtain ⟨other, hother, hbare⟩ := Option.map_eq_some_iff.1 hsome.symm
    exact ⟨other, hother, (Relation.bare_eq_iff.1 hbare).2.2 ▸ hmem⟩
  funext name
  ext row
  exact ⟨hone hagree, hone fun other => (hagree other).symm⟩

/-- Nothing is held under a name that is no predicate's. -/
theorem AreOf.getElem?_eq_none (h : relations.AreOf predicates)
    (hname : name ∉ predicates.map Predicate.name) : relations[name]? = none := by
  cases hget : relations[name]? with
  | none => rfl
  | some relation =>
    obtain ⟨predicate, hmem, rfl, -⟩ := h name relation hget
    exact absurd (List.mem_map_of_mem hmem) hname

/-- The rows of a relation held are those held under its name. -/
theorem mem_rowsOf_iff {relation : Relation} (h : relations[name]? = some relation) {row : Row} :
    row ∈ relations.rowsOf name ↔ row ∈ relation.rows := by
  constructor
  · rintro ⟨other, hother, hrow⟩
    rw [h] at hother
    cases hother
    exact hrow
  · exact fun hrow => ⟨relation, h, hrow⟩

end Relations

namespace Workspace.Encloses

/-- What is kept inside is kept around. -/
theorem trans (h : outer.Encloses workspace) (hkept : workspace.Kept after) :
    outer.Encloses after :=
  ⟨⟨fun name => (hkept.agrees.base name).trans (h.agrees.base name),
      fun name => (hkept.agrees.slots name).trans (h.agrees.slots name), fun _ => rfl, fun _ => rfl⟩,
    hkept.coherent, hkept.inBounds.trans h.inBounds⟩

/-- The members may be replaced by coherent relations. -/
theorem replace (h : outer.Encloses workspace) {growing delta : Relations}
    (hgrowing : ∀ (name : String) (relation : Relation),
      growing[name]? = some relation → relation.Coherent)
    (hdelta : ∀ (name : String) (relation : Relation),
      delta[name]? = some relation → relation.Coherent) :
    outer.Encloses { workspace with growing, delta } :=
  ⟨⟨h.agrees.base, h.agrees.slots, fun _ => rfl, fun _ => rfl⟩,
    ⟨h.coherent.base, h.coherent.slots, hgrowing, hdelta⟩, h.inBounds⟩

/-- Names resolve inside as they do outside. -/
theorem resolve (h : outer.Encloses workspace) (name : String) :
    (workspace.resolve name).map Relation.bare = (outer.resolve name).map Relation.bare :=
  h.agrees.resolve name

/-- What is resolved inside is resolved outside, with the same rows. -/
theorem exists_resolve (h : outer.Encloses workspace) {relation : Relation}
    (hresolve : workspace.resolve name = .ok relation) :
    ∃ old, outer.resolve name = .ok old ∧ relation.bare = old.bare := by
  have heq := h.resolve name
  rw [hresolve] at heq
  obtain ⟨old, hold, hbare⟩ := map_eq_ok.1 heq.symm
  exact ⟨old, hold, hbare.symm⟩

/-- What is settled is the same inside and outside. -/
theorem settled (h : outer.Encloses workspace) : workspace.settled = outer.settled := by
  funext name
  ext row
  constructor
  · rintro ⟨relation, hresolve, hrow⟩
    obtain ⟨old, hold, hbare⟩ := h.exists_resolve hresolve
    exact ⟨old, hold, (Relation.bare_eq_iff.1 hbare).2.2 ▸ hrow⟩
  · rintro ⟨old, hold, hrow⟩
    have heq := h.resolve name
    rw [hold] at heq
    obtain ⟨relation, hresolve, hbare⟩ := map_eq_ok.1 heq
    exact ⟨relation, hresolve, (Relation.bare_eq_iff.1 hbare).2.2 ▸ hrow⟩

end Workspace.Encloses

namespace Evaluation

/-- What the evaluation of a stratum needs of its members and of the workspace around: the members
have names of their own and checked rules, only positive atoms read members, and what else is read
is settled. -/
structure Ready [PatternEngine] (catalog : Catalog) (predicates : List Predicate) (outer : Workspace) :
    Prop where
  nodup : (predicates.map Predicate.name).Nodup
  schema : ∀ predicate ∈ predicates, catalog predicate.name = some predicate.schema
  rules : ∀ predicate ∈ predicates, ∀ rule ∈ predicate.rules,
    rule.Checked catalog predicate.columns.length
  monotone : ∀ predicate ∈ predicates, ∀ read ∈ predicate.reads,
    read.1 ∈ predicates.map Predicate.name → read.2 = .positive
  resolves : ∀ predicate ∈ predicates, ∀ read ∈ predicate.reads,
    read.1 ∉ predicates.map Predicate.name → (outer.resolve read.1).isOk = true
  coherent : outer.Coherent
  conforms : ∀ name relation, outer.resolve name = .ok relation → relation.rows.Nodup ∧
    ∀ schema, catalog name = some schema → ∀ row ∈ relation.rows, row.length = schema.arity

/-- What the rounds of a stratum need whatever its rules read: the members have names of their own and
checked rules, and what is read from around conforms to the catalog. -/
structure Admits [PatternEngine] (catalog : Catalog) (predicates : List Predicate) (outer : Workspace) :
    Prop where
  nodup : (predicates.map Predicate.name).Nodup
  schema : ∀ predicate ∈ predicates, catalog predicate.name = some predicate.schema
  rules : ∀ predicate ∈ predicates, ∀ rule ∈ predicate.rules,
    rule.Checked catalog predicate.columns.length
  coherent : outer.Coherent
  conforms : ∀ name relation, outer.resolve name = .ok relation → relation.rows.Nodup ∧
    ∀ schema, catalog name = some schema → ∀ row ∈ relation.rows, row.length = schema.arity

/-- What a round needs of the workspace it reads: what can be read conforms to the catalog, and each
member is held with the schema that its checked rules go by. -/
structure Supports [PatternEngine] (catalog : Catalog) (predicates : List Predicate)
    (workspace : Workspace) :
    Prop where
  coherent : workspace.Coherent
  conforms : workspace.Conforms catalog
  schema : ∀ predicate ∈ predicates, catalog predicate.name = some predicate.schema
  rules : ∀ predicate ∈ predicates, ∀ rule ∈ predicate.rules,
    rule.Checked catalog predicate.columns.length
  held : ∀ predicate ∈ predicates, ∃ relation, workspace.growing[predicate.name]? = some relation ∧
    relation.schema = predicate.schema

/-- A stratum that everything is ready for is admitted. -/
theorem Ready.admits [PatternEngine] (h : Ready catalog predicates outer) :
    Admits catalog predicates outer :=
  ⟨h.nodup, h.schema, h.rules, h.coherent, h.conforms⟩

/-- Only positive atoms in the rules of members read members. -/
theorem Ready.reads_positive [PatternEngine] (h : Ready catalog predicates outer) {predicate : Predicate}
    (hmem : predicate ∈ predicates) {rule : Rule} (hrule : rule ∈ predicate.rules)
    {literal : Literal} (hliteral : literal ∈ rule.body) :
    ∀ read ∈ literal.reads, read.1 ∈ predicates.map Predicate.name → read.2 = .positive := by
  intro read hread
  exact h.monotone predicate hmem read (Predicate.mem_reads hrule hliteral hread)

/-- Inside a stratum the members hold the rows of `X`, and the rows of `D` are new among them. -/
structure Growing (outer : Workspace) (predicates : List Predicate) (X D : Interpretation)
    (workspace : Workspace) : Prop where
  encloses : outer.Encloses workspace
  members : workspace.growing.AreOf predicates
  complete : ∀ predicate ∈ predicates, ∃ relation, workspace.growing[predicate.name]? = some relation
  rows : workspace.growing.rowsOf = X
  growth : workspace.delta.AreOf predicates
  new : workspace.delta.rowsOf = D

namespace Growing

/-- What is kept goes on to hold the same rows. -/
theorem of_kept (h : Growing outer predicates X D workspace) (hkept : workspace.Kept after) :
    Growing outer predicates X D after := by
  refine ⟨h.encloses.trans hkept, h.members.congr hkept.agrees.growing, fun predicate hmem => ?_,
    (Relations.rowsOf_congr hkept.agrees.growing).trans h.rows,
    h.growth.congr hkept.agrees.delta, (Relations.rowsOf_congr hkept.agrees.delta).trans h.new⟩
  obtain ⟨relation, hrelation⟩ := h.complete predicate hmem
  have hsome := hkept.agrees.growing predicate.name
  rw [hrelation, Option.map_some] at hsome
  obtain ⟨other, hother, -⟩ := Option.map_eq_some_iff.1 hsome
  exact ⟨other, hother⟩

/-- Members read their own rows, or the new ones among them. -/
theorem read_member (h : Growing outer predicates X D workspace)
    (hname : name ∈ predicates.map Predicate.name) (delta : Bool) :
    ∃ relation, workspace.read name delta = .ok relation ∧
      (∃ predicate ∈ predicates, predicate.name = name ∧ relation.rows.Nodup ∧
        ∀ row ∈ relation.rows, row.length = predicate.columns.length) ∧
      ∀ row, row ∈ relation.rows ↔ row ∈ (if delta then D else X) name := by
  obtain ⟨predicate, hmem, rfl⟩ := List.mem_map.1 hname
  obtain ⟨relation, hrelation⟩ := h.complete predicate hmem
  obtain ⟨holder, hholder, hheld, hof⟩ := h.members _ _ hrelation
  unfold Workspace.read
  cases delta with
  | false =>
    simp only [Bool.false_eq_true, if_false, hrelation]
    refine ⟨relation, rfl, ⟨holder, hholder, hheld, hof.nodup, hof.length⟩, fun row => ?_⟩
    rw [← h.rows, Relations.mem_rowsOf_iff hrelation]
  | true =>
    simp only [if_true, hrelation]
    cases hdelta : workspace.delta[predicate.name]? with
    | none =>
      refine ⟨_, rfl, ⟨holder, hholder, hheld, List.nodup_nil,
        by simp [Relation.empty, Relation.ofDistinct]⟩,
        fun row => ?_⟩
      rw [← h.new]
      simp [Relation.empty, Relation.ofDistinct, Relations.rowsOf, hdelta]
    | some grown =>
      obtain ⟨owner, howner, howned, hofowner⟩ := h.growth _ _ hdelta
      refine ⟨grown, rfl, ⟨owner, howner, howned, hofowner.nodup, hofowner.length⟩, fun row => ?_⟩
      rw [← h.new, Relations.mem_rowsOf_iff hdelta]

/-- Everything else is read from around. -/
theorem read_other (h : Growing outer predicates X D workspace)
    (hname : name ∉ predicates.map Predicate.name) (delta : Bool) :
    workspace.read name delta = workspace.resolve name := by
  unfold Workspace.read
  rw [h.members.getElem?_eq_none hname, h.growth.getElem?_eq_none hname]
  cases delta <;> rfl

/-- The atoms read the members laid over what is settled. -/
theorem denotes (h : Growing outer predicates X D workspace) (delta : Bool) :
    workspace.denotes delta = Interpretation.overlay (predicates.map Predicate.name) outer.settled
      (if delta then D else X) := by
  funext name
  ext row
  unfold Interpretation.overlay
  by_cases hname : name ∈ predicates.map Predicate.name
  · obtain ⟨relation, hread, -, hrows⟩ := h.read_member hname delta
    rw [if_pos hname, ← hrows]
    constructor
    · rintro ⟨other, hother, hrow⟩
      rw [hread] at hother
      cases hother
      exact hrow
    · exact fun hrow => ⟨relation, hread, hrow⟩
  · rw [if_neg hname, ← h.encloses.settled]
    simp only [Workspace.denotes, Workspace.settled, h.read_other hname]

variable [PatternEngine]

/-- What is read inside a stratum conforms to the catalog. -/
theorem conforms (h : Growing outer predicates X D workspace)
    (hadmits : Admits catalog predicates outer) : workspace.Conforms catalog := by
  intro name delta relation hread
  by_cases hname : name ∈ predicates.map Predicate.name
  · obtain ⟨held, hheld, ⟨predicate, hmem, rfl, hnodup, hlength⟩, -⟩ := h.read_member hname delta
    rw [hheld] at hread
    cases hread
    refine ⟨hnodup, fun schema hschema row hrow => ?_⟩
    rw [hadmits.schema predicate hmem] at hschema
    cases hschema
    exact hlength row hrow
  · rw [h.read_other hname] at hread
    obtain ⟨old, hold, hbare⟩ := h.encloses.exists_resolve hread
    have hrows : relation.rows = old.rows := (Relation.bare_eq_iff.1 hbare).2.2
    rw [hrows]
    exact hadmits.conforms name old hold

/-- Inside a stratum a round finds what it needs. -/
theorem supports (h : Growing outer predicates X D workspace)
    (hadmits : Admits catalog predicates outer) : Supports catalog predicates workspace := by
  refine ⟨h.encloses.coherent, h.conforms hadmits, hadmits.schema, hadmits.rules,
    fun predicate hmem => ?_⟩
  obtain ⟨relation, hrelation⟩ := h.complete predicate hmem
  obtain ⟨holder, hholder, hname, hof⟩ := h.members _ _ hrelation
  obtain rfl : holder = predicate := List.inj_on_of_nodup_map hadmits.nodup hholder hmem hname
  exact ⟨relation, hrelation, hof.schema⟩

/-- What the rules of the members read can be read. -/
theorem readable (h : Growing outer predicates X D workspace)
    (hready : Ready catalog predicates outer) {predicate : Predicate} (hmem : predicate ∈ predicates)
    {rule : Rule} (hrule : rule ∈ predicate.rules) :
    workspace.Readable ((Literal.readsOfAll rule.body).map Prod.fst) := by
  intro name hname delta
  obtain ⟨read, hread, rfl⟩ := List.mem_map.1 hname
  by_cases hmember : read.1 ∈ predicates.map Predicate.name
  · obtain ⟨relation, hok, -⟩ := h.read_member hmember delta
    rw [hok]
    rfl
  · have hreads : read ∈ predicate.reads := List.mem_flatMap.2 ⟨rule, hrule, hread⟩
    rw [h.read_other hmember, ← isOk_map (f := Relation.bare), h.encloses.resolve, isOk_map]
    exact hready.resolves predicate hmem read hreads hmember

/-- A rule of a member is satisfied when its literals hold over the rows held. -/
theorem satisfies_none_iff (h : Growing outer predicates X D workspace)
    (hready : Ready catalog predicates outer) {predicate : Predicate} (hmem : predicate ∈ predicates)
    {rule : Rule} (hrule : rule ∈ predicate.rules) {render : Value → String} {σ : Assignment} :
    workspace.Satisfies render rule.body none σ ↔ ∀ literal ∈ rule.body,
      literal.HoldsOver render (predicates.map Predicate.name) outer.settled X σ := by
  rw [Workspace.satisfies_none_iff, h.denotes]
  refine forall_congr' fun literal => imp_congr_right fun hliteral => ?_
  exact Literal.holds_overlay_iff (hready.reads_positive hmem hrule hliteral)

/-- A rule of a member whose atom at one position reads what is new is satisfied when its literals
hold through that position. -/
theorem satisfies_some_iff (h : Growing outer predicates X D workspace)
    (hready : Ready catalog predicates outer) {predicate : Predicate} (hmem : predicate ∈ predicates)
    {rule : Rule} (hrule : rule ∈ predicate.rules) {render : Value → String} {σ : Assignment}
    {position : Nat} : workspace.Satisfies render rule.body (some position) σ ↔
      HoldsThrough render (predicates.map Predicate.name) outer.settled X D rule.body position σ := by
  refine forall_congr' fun i => forall_congr' fun literal => imp_congr_right fun hliteral => ?_
  have hmember := hready.reads_positive hmem hrule (List.mem_of_getElem? hliteral)
  rw [h.denotes, Literal.holds_overlay_iff hmember]
  by_cases hposition : position = i
  · simp [hposition]
  · simp [hposition]

end Growing

end Evaluation

end Stratalog
