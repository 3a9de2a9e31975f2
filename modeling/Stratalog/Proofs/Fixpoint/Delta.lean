import Stratalog.Pattern.Engine
import Stratalog.Proofs.Fixpoint.SemiNaive

/-!
# The rows gained through a growth

A later round may be run over any relations for its members, with any relations in the place of their
growth. What it gives is then said by the rules alone: the rows that are not held yet and are heads of
instances in which one atom of a member is matched by a row of the growth and everything else holds
over what is held. Neither the order of the evaluations nor an overlap between them shows.

Over relations closed under the rules nothing is gained through a growth that they hold.
-/

namespace Stratalog

/-- Whether relations are well typed: their rows are distinct, and for a name that the catalog knows
they have its schema, which accepts the rows. -/
def Relations.WellTyped (catalog : Catalog) (relations : Relations) : Prop :=
  ∀ (name : String) (relation : Relation), relations[name]? = some relation →
    relation.Coherent ∧ relation.rows.Nodup ∧ ∀ schema, catalog name = some schema →
      relation.schema = schema ∧ ∀ row ∈ relation.rows, schema.accepts row = true

/-- The heads of a rule through a growth: one positive atom of a member is matched by a row of the
growth, and every other literal holds. -/
inductive Rule.DerivesThrough [PatternEngine] (render : Value → String) (members : List String)
    (I new : Interpretation) (rule : Rule) : Row → Prop
  | intro {position : Nat} {atom : Atom} {row : Row} {σ : Assignment}
    (hatom : rule.body[position]? = some (.atom atom)) (hmember : atom.predicate ∈ members)
    (hnew : row ∈ new atom.predicate) (hmatches : atom.Matches σ row)
    (hothers : ∀ i literal, i ≠ position → rule.body[i]? = some literal →
      literal.Holds render I σ) :
    DerivesThrough render members I new rule (rule.headRow σ)

/-- A predicate gains a row through a growth when it does not hold the row and a rule of it derives the
row through the growth. -/
def Predicate.Gains [PatternEngine] (render : Value → String) (members : List String)
    (I new : Interpretation)
    (predicate : Predicate) (row : Row) : Prop :=
  row ∉ I predicate.name ∧ ∃ rule ∈ predicate.rules, rule.DerivesThrough render members I new row

/-- Whether what predicates hold is closed under their rules. -/
def Predicate.Converged [PatternEngine] (render : Value → String) (predicates : List Predicate)
    (I : Interpretation) :
    Prop :=
  ∀ predicate ∈ predicates, ∀ rule ∈ predicate.rules, ∀ σ : Assignment,
    (∀ literal ∈ rule.body, literal.Holds render I σ) → rule.headRow σ ∈ I predicate.name

namespace Workspace

variable {workspace : Workspace} {full delta : Relations} {name : String}

/-- The workspace whose members and their growth are as given. -/
def withMembers (workspace : Workspace) (full delta : Relations) : Workspace :=
  { workspace with growing := full, delta }

/-- What is read over given members: their rows, and for other names what is settled. -/
def holds (workspace : Workspace) (full : Relations) : Interpretation :=
  Interpretation.overlay full.keys workspace.settled full.rowsOf

/-- Over given members the atoms read their rows and what is settled. -/
theorem denotes_withMembers_false :
    (workspace.withMembers full delta).denotes false = workspace.holds full := by
  funext name
  unfold denotes holds Interpretation.overlay
  simp only [withMembers, read, Bool.false_eq_true, if_false, Std.TreeMap.mem_keys]
  cases hfound : full[name]? with
  | none =>
    have hnot : name ∉ full := by simpa using hfound
    rw [if_neg hnot]
    rfl
  | some relation =>
    have hin : name ∈ full := Std.TreeMap.isSome_getElem?_iff_mem.1 (by rw [hfound]; rfl)
    rw [if_pos hin]
    ext row
    rw [Relations.mem_rowsOf_iff hfound]
    simp

/-- The growth of a name that is held is read from the growth alone. -/
theorem denotes_withMembers_true (h : name ∈ full) :
    (workspace.withMembers full delta).denotes true name = delta.rowsOf name := by
  obtain ⟨relation, hrelation⟩ := Option.isSome_iff_exists.1 (Std.TreeMap.isSome_getElem?_iff_mem.2 h)
  unfold denotes
  simp only [withMembers, read, if_true, hrelation]
  ext row
  cases hfound : delta[name]? with
  | none => simp [Relations.rowsOf, hfound, Relation.empty, Relation.ofDistinct]
  | some grown =>
    rw [Relations.mem_rowsOf_iff hfound]
    simp

end Workspace

namespace Evaluation

open Eval

variable {store : FactStore} {defined predicates : List Predicate} {workspace : Workspace}
  {full delta : Relations} {context : Context}

/-- What a rule derives through the positions that read a member is what it derives through the
growth. -/
theorem exists_mem_headsIn_iff [PatternEngine] {members : List String}
    (hheld : ∀ name ∈ members, name ∈ full)
    {rule : Rule} {row : Row} :
    (∃ i ∈ rule.recursivePositions members,
      row ∈ headsIn context (workspace.withMembers full delta) rule (some i)) ↔
      rule.DerivesThrough context.entities.render members (workspace.holds full) delta.rowsOf row := by
  constructor
  · rintro ⟨i, hi, σ, hσ, rfl⟩
    obtain ⟨a, hget, hmember⟩ := mem_recursivePositions.1 hi
    obtain ⟨new, hnew, hmatches⟩ :
        ∃ new ∈ (workspace.withMembers full delta).denotes true a.predicate, a.Matches σ new := by
      simpa [Literal.Holds] using hσ i _ hget
    rw [Workspace.denotes_withMembers_true (hheld _ hmember)] at hnew
    refine .intro hget hmember hnew hmatches fun j literal hne hliteral => ?_
    have hholds := hσ j literal hliteral
    have hother : (some i == some j) = false := by simpa using Ne.symm hne
    rwa [hother, Workspace.denotes_withMembers_false] at hholds
  · rintro @⟨i, a, new, σ, hget, hmember, hnew, hmatches, hothers⟩
    refine ⟨i, mem_recursivePositions.2 ⟨a, hget, hmember⟩, σ, fun j literal hliteral => ?_, rfl⟩
    by_cases heq : j = i
    · subst heq
      rw [hget] at hliteral
      cases hliteral
      rw [beq_self_eq_true, Literal.Holds, Workspace.denotes_withMembers_true (hheld _ hmember)]
      exact ⟨new, hnew, hmatches⟩
    · have hother : (some i == some j) = false := by simpa using Ne.symm heq
      rw [hother, Workspace.denotes_withMembers_false]
      exact hothers j literal heq hliteral

/-- Well-typed relations for the members support a round. -/
theorem supports_withMembers [PatternEngine] (hstore : store.Built)
    (hdefined : (defined.map Predicate.name).Nodup)
    (hserves : workspace.Serves store defined)
    (hpredicates : ∀ predicate ∈ predicates, predicate ∈ defined)
    (hnames : (predicates.map Predicate.name).Nodup)
    (hchecked : ∀ predicate ∈ predicates,
      Typing.checkPredicate store (Catalog.of store defined) predicate = .ok ())
    (hfull : full.WellTyped (Catalog.of store defined))
    (hdelta : delta.WellTyped (Catalog.of store defined))
    (hheld : ∀ predicate ∈ predicates, predicate.name ∈ full) :
    Supports (Catalog.of store defined) predicates (workspace.withMembers full delta) := by
  have hadmits := hserves.admits hstore.wellFormed hdefined hpredicates hnames hchecked
  -- Relations that are read are well typed, or empty, or settled.
  have hfits {relations : Relations} (h : relations.WellTyped (Catalog.of store defined))
      {name : String} {relation : Relation} (hget : relations[name]? = some relation) :
      relation.rows.Nodup ∧ ∀ schema, Catalog.of store defined name = some schema →
        ∀ row ∈ relation.rows, row.length = schema.arity := by
    obtain ⟨-, hnodup, haccepts⟩ := h name relation hget
    exact ⟨hnodup, fun schema hknown row hrow =>
      Schema.length_of_accepts ((haccepts schema hknown).2 row hrow)⟩
  refine ⟨⟨hserves.coherent.base, hserves.coherent.slots, fun name relation hget =>
      (hfull name relation hget).1, fun name relation hget => (hdelta name relation hget).1⟩,
    fun name reads relation hread => ?_, hadmits.schema, hadmits.rules, fun predicate hmem => ?_⟩
  · unfold Workspace.read at hread
    split at hread
    next found hfound =>
      cases hread
      cases reads with
      | false => cases hfound
      | true => exact hfits hdelta hfound
    next found hfound =>
      cases hread
      split
      · exact ⟨List.nodup_nil, fun _ _ row hrow => absurd hrow List.not_mem_nil⟩
      · exact hfits hfull hfound
    next => exact hadmits.conforms name relation hread
  · obtain ⟨relation, hrelation⟩ :=
      Option.isSome_iff_exists.1 (Std.TreeMap.isSome_getElem?_iff_mem.2 (hheld predicate hmem))
    exact ⟨relation, hrelation, ((hfull _ _ hrelation).2.2 _ (hadmits.schema predicate hmem)).1⟩

/-- A rule whose reads are held or settled can read them. -/
theorem feeds_withMembers {rule : Rule} (h : ∀ read ∈ Literal.readsOfAll rule.body, read.1 ∉ full →
    (workspace.resolve read.1).isOk = true) : Feeds (workspace.withMembers full delta) rule := by
  intro name hname reads
  obtain ⟨read, hread, rfl⟩ := List.mem_map.1 hname
  have hresolve := h read hread
  unfold Workspace.read Workspace.withMembers
  split
  next => rfl
  next => rfl
  next hnone => exact hresolve (by simpa using hnone)

/-- Through a growth that they hold, converged predicates gain nothing. -/
theorem not_gains_of_converged [PatternEngine] {render : Value → String} {I new : Interpretation}
    (hconverged : Predicate.Converged render predicates I)
    (hnew : ∀ name ∈ predicates.map Predicate.name, new name ⊆ I name) {predicate : Predicate}
    (hmem : predicate ∈ predicates) (row : Row) :
    ¬predicate.Gains render (predicates.map Predicate.name) I new row := by
  rintro ⟨hnot, rule, hrule, @⟨position, atom, held, σ, hatom, hmember, hrow, hmatches, hothers⟩⟩
  refine hnot (hconverged predicate hmem rule hrule σ fun literal hliteral => ?_)
  obtain ⟨i, hi, rfl⟩ := List.getElem_of_mem hliteral
  have hget := List.getElem?_eq_getElem hi
  by_cases heq : i = position
  · subst heq
    rw [hget, Option.some.injEq] at hatom
    rw [hatom, Literal.Holds]
    exact ⟨held, hnew _ hmember hrow, hmatches⟩
  · exact hothers i _ heq hget

/-- Over well-typed relations for checked predicates, and any others in the place of their growth, a
round lists under the name of each predicate that gains something what it gains, each row once, and no
other names. Where everything read is held or settled only a table grown too large keeps it from doing
so. Converged predicates gain nothing through a growth that they hold. -/
theorem deriveRound_lists_gains [PatternEngine] (hstore : store.Built)
    (hdefined : (defined.map Predicate.name).Nodup) (hserves : workspace.Serves store defined)
    (hpredicates : ∀ predicate ∈ predicates, predicate ∈ defined)
    (hnames : (predicates.map Predicate.name).Nodup)
    (hchecked : ∀ predicate ∈ predicates,
      Typing.checkPredicate store (Catalog.of store defined) predicate = .ok ())
    (hfull : full.WellTyped (Catalog.of store defined))
    (hdelta : delta.WellTyped (Catalog.of store defined))
    (hheld : ∀ predicate ∈ predicates, predicate.name ∈ full) (context : Context) :
    (∀ rows after, (deriveRound context (predicates.map Predicate.name) predicates).run.run
        (workspace.withMembers full delta) = (.ok rows, after) →
      (rows.map Prod.fst).Nodup ∧ (∀ name ∈ rows.map Prod.fst, name ∈ predicates.map Predicate.name) ∧
      (∀ predicate ∈ predicates,
        (∀ list, (predicate.name, list) ∈ rows → list.Nodup ∧ ∀ row, row ∈ list ↔
          predicate.Gains context.entities.render (predicates.map Predicate.name)
            (workspace.holds full) delta.rowsOf row) ∧
        (predicate.name ∈ rows.map Prod.fst ↔ ∃ row,
          predicate.Gains context.entities.render (predicates.map Predicate.name)
            (workspace.holds full) delta.rowsOf row)) ∧
      (Predicate.Converged context.entities.render predicates (workspace.holds full) →
        (∀ name ∈ predicates.map Predicate.name, delta.rowsOf name ⊆ workspace.holds full name) →
          rows = [])) ∧
    ∀ fault after, (deriveRound context (predicates.map Predicate.name) predicates).run.run
        (workspace.withMembers full delta) = (.error fault, after) →
      (∀ predicate ∈ predicates, ∀ read ∈ predicate.reads, read.1 ∉ full →
        (workspace.resolve read.1).isOk = true) → fault.IsTupleLimit := by
  have hsupports :=
    supports_withMembers hstore hdefined hserves hpredicates hnames hchecked hfull hdelta hheld
  have hmembers : ∀ name ∈ predicates.map Predicate.name, name ∈ full :=
    List.forall_mem_map.2 hheld
  have hround : (deriveRound context (predicates.map Predicate.name) predicates).Ensures
      (workspace.withMembers full delta) _ _ :=
    ensures_deriveRound hsupports (Workspace.Kept.refl hsupports.coherent) (fun _ => id) hnames
  refine ⟨fun rows after hrun => ?_, fun fault after hrun hreads => ?_⟩
  · obtain ⟨-, hlists⟩ := hround.of_ok hrun
    have hgains : rows.Lists predicates fun predicate =>
        {row | predicate.Gains context.entities.render (predicates.map Predicate.name)
          (workspace.holds full) delta.rowsOf row} := by
      refine hlists.congr fun predicate hmem => ?_
      ext row
      have hown : full.rowsOf predicate.name = workspace.holds full predicate.name := by
        rw [Workspace.holds, Interpretation.overlay,
          if_pos (Std.TreeMap.mem_keys.2 (hheld predicate hmem))]
      simp only [Set.mem_ofPred_eq, exists_mem_headsIn_iff hmembers]
      rw [and_comm, Predicate.Gains, ← hown]
      rfl
    refine ⟨hgains.nodup, hgains.name_mem, fun predicate hmem => ⟨fun list hlist => ?_,
      hgains.mem_names_iff hmem⟩, fun hconverged hnew => ?_⟩
    · exact ⟨(hgains.each _ hlist).1, fun row => hgains.mem_list_iff hmem hlist⟩
    · exact hgains.eq_nil fun predicate hmem => not_gains_of_converged hconverged hnew hmem
  · refine (hround.of_error hrun).2 fun predicate hmem rule hrule =>
      feeds_withMembers fun read hread => ?_
    exact hreads predicate hmem read (List.mem_flatMap.2 ⟨rule, hrule, hread⟩)

/-- Some paths, as the relation of their predicate. -/
def walked (rows : List Row) : Relations :=
  (∅ : Relations).insert "path" (.ofRows "path" paths.schema rows)

/-- Paths between numbers are well typed. -/
theorem wellTyped_walked (rows : List Row) (hrows : ∀ row ∈ rows, paths.schema.accepts row = true) :
    (walked rows).WellTyped (Catalog.of FactStore.steps [paths]) := by
  intro name relation hget
  rw [walked, Std.TreeMap.getElem?_insert] at hget
  split at hget
  next heq =>
    cases hget
    obtain rfl : "path" = name := Std.LawfulEqOrd.eq_of_compare heq
    refine ⟨Relation.coherent_ofDistinct _ _ _, Row.nodup_distinct rows, fun schema hknown => ?_⟩
    have hnames : ([paths].map Predicate.name).Nodup := List.nodup_singleton _
    have hpaths : Catalog.of FactStore.steps [paths] "path" = some paths.schema :=
      Catalog.of_derived hnames List.mem_cons_self
    cases hpaths.symm.trans hknown
    exact ⟨rfl, fun row hrow => hrows row ((Row.mem_distinct rows row).1 hrow)⟩
  next => cases hget.symm.trans Std.TreeMap.getElem?_emptyc

/-- The workspace around the paths over two steps. -/
def aroundPaths : Workspace :=
  { base := FactStore.steps.relations, slots := Session.emptySlots ([paths].map Predicate.name) }

/-- From two steps held, of which the first is new, a round gains the path of both and nothing
else. -/
theorem deriveRound_lists_gains_walked :
    (∃ rows after, (deriveRound {} ["path"] [paths]).run.run (aroundPaths.withMembers
        (walked [[.int 1, .int 2], [.int 2, .int 3]]) (walked [[.int 1, .int 2]])) =
      (.ok rows, after) ∧ rows = [("path", [[.int 1, .int 3]])]) ∧
    ∀ row, paths.Gains (EntityTable.render ∅) ["path"]
        (aroundPaths.holds (walked [[.int 1, .int 2], [.int 2, .int 3]]))
        (walked [[.int 1, .int 2]]).rowsOf row ↔
      row = [.int 1, .int 3] := by
  have hnames : ([paths].map Predicate.name).Nodup := List.nodup_singleton _
  have hchecked : ∀ predicate ∈ [paths], Typing.checkPredicate FactStore.steps
      (Catalog.of FactStore.steps [paths]) predicate = .ok () := by
    intro predicate hmem
    rw [List.mem_singleton.1 hmem]
    rfl
  have hheld : ∀ predicate ∈ [paths],
      predicate.name ∈ walked [[.int 1, .int 2], [.int 2, .int 3]] := by
    simp [walked, paths]
  have hround := (deriveRound_lists_gains FactStore.built_steps hnames
    (Workspace.serves_start FactStore.built_steps.wellFormed hnames) (fun _ => id) hnames hchecked
    (wellTyped_walked _ (by decide)) (wellTyped_walked [[.int 1, .int 2]] (by decide)) hheld {}).1
  have hcomputed : ((deriveRound {} ["path"] [paths]).run.run (aroundPaths.withMembers
      (walked [[.int 1, .int 2], [.int 2, .int 3]]) (walked [[.int 1, .int 2]]))).1.toOption =
        some [("path", [[.int 1, .int 3]])] := by decide +kernel
  rcases hrun : (deriveRound {} ["path"] [paths]).run.run (aroundPaths.withMembers
      (walked [[.int 1, .int 2], [.int 2, .int 3]]) (walked [[.int 1, .int 2]])) with ⟨outcome, after⟩
  rw [hrun] at hcomputed
  obtain rfl := toOption_eq_some_iff.1 hcomputed
  refine ⟨⟨_, after, rfl, rfl⟩, fun row => ?_⟩
  obtain ⟨-, -, hgains, -⟩ := hround _ after hrun
  have hlist := (hgains paths List.mem_cons_self).1 _ List.mem_cons_self
  exact (hlist.2 row).symm.trans List.mem_singleton

end Evaluation

end Stratalog
