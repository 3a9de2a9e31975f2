import Stratalog.Proofs.Fixpoint.Members
import Stratalog.Proofs.Fixpoint.Rule
import Stratalog.Proofs.Relation.Outline

/-!
# One round

A round evaluates the rules of every member, in the first round those that read no member and later
the others once per atom that reads one. The rows found are kept apart from the members until the
round is over, so every rule of a round reads the same rows.
-/

namespace Stratalog

namespace Evaluation

open Eval

/-- The rows found so far in a round are those of a set, each listed once. -/
structure Fresh.Lists (fresh : Fresh) (S : Set Row) : Prop where
  nodup : fresh.rows.toList.Nodup
  seen : ∀ row, fresh.seen.contains row = true ↔ row ∈ fresh.rows.toList
  mem : ∀ row, row ∈ fresh.rows.toList ↔ row ∈ S

/-- The rows found so far in a round: those of a set, each listed once, and each of full width. -/
structure Fresh.Collects (fresh : Fresh) (width : Nat) (S : Set Row) : Prop
    extends fresh.Lists S where
  length : ∀ row ∈ fresh.rows.toList, row.length = width

namespace Fresh

variable {fresh : Fresh} {width : Nat} {S T : Set Row}

/-- At first nothing is found. -/
theorem lists_empty : ({} : Fresh).Lists ∅ :=
  ⟨by simp, by simp, by simp⟩

/-- The rows found are those of any equal set. -/
theorem Lists.congr (h : fresh.Lists S) (hiff : ∀ row, row ∈ S ↔ row ∈ T) : fresh.Lists T :=
  ⟨h.nodup, h.seen, fun row => (h.mem row).trans (hiff row)⟩

/-- Adding a row adds it to the set. -/
theorem Lists.add (h : fresh.Lists S) (row : Row) :
    (fresh.add row).Lists {other | other ∈ S ∨ other = row} := by
  unfold Fresh.add
  split
  next hseen =>
    have hmem : row ∈ S := (h.mem row).1 ((h.seen row).1 hseen)
    refine h.congr fun other => ⟨Or.inl, fun hother => ?_⟩
    rcases hother with hother | rfl
    · exact hother
    · exact hmem
  next hseen =>
    have hnot : row ∉ fresh.rows.toList := fun hmem => hseen ((h.seen row).2 hmem)
    refine ⟨?_, fun other => ?_, fun other => ?_⟩
    · rw [Array.toList_push]
      exact List.nodup_append.2 ⟨h.nodup, List.nodup_singleton row,
        fun a ha b hb heq => hnot (by rw [List.mem_singleton] at hb; rwa [← hb, ← heq])⟩
    · rw [Std.TreeSet.contains_insert, Bool.or_eq_true, h.seen, Array.toList_push, List.mem_append,
        List.mem_singleton, beq_iff_eq, Std.LawfulEqOrd.compare_eq_iff_eq, or_comm, eq_comm]
    · rw [Array.toList_push, List.mem_append, List.mem_singleton, h.mem]
      rfl

/-- Adding rows in turn adds them all. -/
theorem Lists.addAll (h : fresh.Lists S) (rows : List Row) :
    (rows.foldl Fresh.add fresh).Lists {row | row ∈ S ∨ row ∈ rows} := by
  induction rows generalizing fresh S with
  | nil => exact h.congr (by simp)
  | cons row rest ih =>
    refine (ih (h.add row)).congr fun other => ?_
    simp only [Set.mem_ofPred_eq, List.mem_cons, or_assoc]

/-- At first nothing is found. -/
theorem collects_empty (width : Nat) : ({} : Fresh).Collects width ∅ :=
  ⟨lists_empty, by simp⟩

/-- The rows found are those of any equal set. -/
theorem Collects.congr (h : fresh.Collects width S) (hiff : ∀ row, row ∈ S ↔ row ∈ T) :
    fresh.Collects width T :=
  ⟨h.toLists.congr hiff, h.length⟩

/-- Rows of full width found beyond those of a set keep all rows of full width. -/
theorem Collects.of_lists {later : Fresh} (h : fresh.Collects width S) (hlater : later.Lists T)
    (hnew : ∀ row ∈ T, row ∈ S ∨ row.length = width) : later.Collects width T := by
  refine ⟨hlater, fun row hrow => ?_⟩
  rcases hnew row ((hlater.mem row).1 hrow) with hold | hlength
  · exact h.length row ((h.mem row).2 hold)
  · exact hlength

/-- Adding rows in turn adds them all. -/
theorem Collects.addAll {rows : List Row} (h : fresh.Collects width S)
    (hrows : ∀ row ∈ rows, row.length = width) :
    (rows.foldl Fresh.add fresh).Collects width {row | row ∈ S ∨ row ∈ rows} :=
  h.of_lists (h.toLists.addAll rows) fun row hrow => hrow.imp id (hrows row)

end Fresh

variable {context : Context} {outer start workspace : Workspace} {predicates : List Predicate}
  {catalog : Catalog} {X D : Interpretation} {fresh : Fresh} {S : Set Row} {predicate : Predicate}

/-- Whether a member is found to hold a row. -/
def Holds (workspace : Workspace) (name : String) (row : Row) : Prop :=
  ∃ relation, workspace.growing[name]? = some relation ∧ (relation.contains row).1 = true

/-- Members of one outline hold the same rows. -/
theorem holds_congr {after : Workspace} {name : String} (h : workspace.Coherent)
    (h' : after.Coherent) (heq : after.growing[name]?.map Relation.outline =
      workspace.growing[name]?.map Relation.outline) (row : Row) :
    Holds after name row ↔ Holds workspace name row := by
  have hone {one other : Workspace} (hone : one.Coherent) (hother : other.Coherent)
      (heq : one.growing[name]?.map Relation.outline =
        other.growing[name]?.map Relation.outline) (hholds : Holds one name row) :
      Holds other name row := by
    obtain ⟨relation, hrelation, hcontains⟩ := hholds
    rw [hrelation, Option.map_some] at heq
    obtain ⟨found, hfound, houtline⟩ := Option.map_eq_some_iff.1 heq.symm
    refine ⟨found, hfound, ?_⟩
    rwa [Relation.fst_contains_of_outline (hother.growing _ _ hfound) (hone.growing _ _ hrelation)
      houtline]
  exact ⟨hone h' h heq, hone h h' heq.symm⟩

/-- The rows that a member is not found to hold are added. Finding out builds indices at most. -/
theorem ensures_addNew_lists {name : String} (h : workspace.Coherent) (hfresh : fresh.Lists S)
    (rows : List Row) : (addNew name fresh rows).Ensures workspace
      (fun fresh after => workspace.Kept after ∧
        (after.counters = workspace.counters ∧ after.checkpoints = workspace.checkpoints) ∧
          fresh.Lists {row | row ∈ S ∨ row ∈ rows ∧ ¬Holds workspace name row})
      fun _ _ => False := by
  induction rows generalizing fresh S workspace with
  | nil =>
    rw [addNew, ensures_pure]
    exact ⟨Workspace.Kept.refl h, ⟨rfl, rfl⟩, hfresh.congr (by simp)⟩
  | cons row rest ih =>
    have hnext (known : Bool) (hknown : known = true ↔ Holds workspace name row) :
        (if known then fresh else fresh.add row).Lists
          {other | other ∈ S ∨ other = row ∧ ¬Holds workspace name row} := by
      split
      next hheld => exact hfresh.congr (by simp [hknown.1 hheld])
      next hheld => exact (hfresh.add row).congr (by simp [mt hknown.2 hheld])
    have hall (other : Row) : other ∈ {other | other ∈ {other | other ∈ S ∨
        other = row ∧ ¬Holds workspace name row} ∨ other ∈ rest ∧ ¬Holds workspace name other} ↔
          other ∈ {other | other ∈ S ∨ other ∈ row :: rest ∧ ¬Holds workspace name other} := by
      simp only [Set.mem_ofPred_eq, List.mem_cons]
      constructor
      · rintro ((hother | ⟨rfl, hnot⟩) | ⟨hother, hnot⟩)
        · exact Or.inl hother
        · exact Or.inr ⟨Or.inl rfl, hnot⟩
        · exact Or.inr ⟨Or.inr hother, hnot⟩
      · rintro (hother | ⟨rfl | hother, hnot⟩)
        · exact Or.inl (Or.inl hother)
        · exact Or.inl (Or.inr ⟨rfl, hnot⟩)
        · exact Or.inr ⟨hother, hnot⟩
    rw [addNew, ensures_bind, ensures_get]
    cases hget : workspace.growing[name]? with
    | none =>
      rw [ensures_bind, ensures_pure]
      refine (ih h (hnext false ?_)).mono (fun final after hfinal => ?_) fun _ _ => id
      · simp [Holds, hget]
      · exact ⟨hfinal.1, hfinal.2.1, hfinal.2.2.congr hall⟩
    | some relation =>
      have hcoherent : relation.Coherent := h.growing _ _ hget
      have hkept : workspace.Kept { workspace with
          growing := workspace.growing.insert name (relation.contains row).2 } :=
        Workspace.kept_growing h hget (Relation.bare_contains _ _) (hcoherent.snd_contains row)
      simp only [ensures_bind, ensures_modify, ensures_pure]
      refine (ih hkept.coherent (hnext (relation.contains row).1 ?_)).mono
        (fun final after hfinal => ?_) fun _ _ => id
      · simp [Holds, hget]
      · refine ⟨hkept.trans hfinal.1, hfinal.2.1, hfinal.2.2.congr fun other => ?_⟩
        rw [← hall other]
        refine or_congr_right (and_congr_right fun _ => not_congr ?_)
        exact holds_congr h hkept.coherent
          (Relation.map_outline_of_bare (hkept.agrees.growing name)) other

variable [PatternEngine]

/-- The rows that a member does not hold yet are added. -/
theorem ensures_addNew (h : Supports catalog predicates start) (hkept : start.Kept workspace)
    (hmem : predicate ∈ predicates) {width : Nat} (hfresh : fresh.Collects width S)
    {rows : List Row} (hrows : ∀ row ∈ rows, row.length = width) :
    (addNew predicate.name fresh rows).Ensures workspace
      (fun fresh after => start.Kept after ∧ fresh.Collects width
        {row | row ∈ S ∨ row ∈ rows ∧ row ∉ start.growing.rowsOf predicate.name})
      fun _ _ => False := by
  obtain ⟨relation, hrelation, hschema⟩ := h.held predicate hmem
  have hread : start.read predicate.name false = .ok relation := by
    simp [Workspace.read, hrelation]
  have hlength : ∀ row ∈ relation.rows, row.length = relation.arity := by
    rw [Relation.arity, hschema]
    exact (h.conforms _ _ _ hread).2 _ (h.schema predicate hmem)
  have hholds (row : Row) : Holds workspace predicate.name row ↔
      row ∈ start.growing.rowsOf predicate.name := by
    rw [holds_congr h.coherent hkept.coherent
        (Relation.map_outline_of_bare (hkept.agrees.growing predicate.name)),
      Relations.mem_rowsOf_iff hrelation,
      ← (h.coherent.growing _ _ hrelation).fst_contains hlength, Holds, hrelation]
    simp
  refine (ensures_addNew_lists hkept.coherent hfresh.toLists rows).mono
    (fun later after hafter => ?_) fun _ _ => id
  obtain ⟨hafter, -, hlists⟩ := hafter
  simp only [hholds] at hlists
  exact ⟨hkept.trans hafter, hfresh.of_lists hlists fun row hrow =>
    hrow.imp id fun hnew => hrows row hnew.1⟩

/-- An idle position derives nothing. -/
theorem headsIn_eq_empty (h : Supports catalog predicates start) (hkept : start.Kept workspace)
    {rule : Rule} {position : Nat}
    (hposition : position ∈ rule.recursivePositions (predicates.map Predicate.name))
    (hidle : isIdle workspace rule.body position = true) :
    headsIn context start rule (some position) = ∅ := by
  obtain ⟨a, hget, hmember⟩ := mem_recursivePositions.1 hposition
  obtain ⟨predicate, hmem, hname⟩ := List.mem_map.1 hmember
  obtain ⟨relation, hrelation, -⟩ := h.held predicate hmem
  rw [hname] at hrelation
  refine Set.eq_empty_iff_forall_notMem.2 fun row hrow => ?_
  obtain ⟨σ, hσ, -⟩ := hrow
  obtain ⟨new, ⟨grown, hread, hnew⟩, -⟩ : ∃ new ∈ start.denotes true a.predicate, a.Matches σ new := by
    simpa [Literal.Holds] using hσ position _ hget
  have hdelta := hkept.agrees.delta a.predicate
  simp only [Workspace.read, if_true, hrelation] at hread
  cases hfound : start.delta[a.predicate]? with
  | none =>
    rw [hfound] at hread
    cases hread
    exact List.not_mem_nil hnew
  | some held =>
    rw [hfound, Option.map_some] at hdelta
    obtain ⟨other, hother, hbare⟩ := Option.map_eq_some_iff.1 hdelta
    rw [hfound] at hread
    cases hread
    simp only [isIdle, atomAt?, hget, Option.bind_some, hother, Relation.isEmpty,
      List.isEmpty_iff] at hidle
    rw [← (Relation.bare_eq_iff.1 hbare).2.2, hidle] at hnew
    exact List.not_mem_nil hnew

/-- The rows that a rule derives through the listed positions are added unless held already. -/
theorem ensures_deriveAt (h : Supports catalog predicates start) (hkept : start.Kept workspace)
    (hmem : predicate ∈ predicates) {rule : Rule} (hrule : rule ∈ predicate.rules)
    (hfresh : fresh.Collects predicate.columns.length S) {positions : List Nat}
    (hpositions : ∀ i ∈ positions, i ∈ rule.recursivePositions (predicates.map Predicate.name)) :
    (deriveAt context predicate.name rule fresh positions).Ensures workspace
      (fun fresh after => start.Kept after ∧ fresh.Collects predicate.columns.length
        {row | row ∈ S ∨ (∃ i ∈ positions, row ∈ headsIn context start rule (some i)) ∧
          row ∉ start.growing.rowsOf predicate.name})
      fun fault after => start.Kept after ∧ (Feeds start rule → fault.IsTupleLimit) := by
  induction positions generalizing fresh S workspace with
  | nil =>
    rw [deriveAt, ensures_pure]
    exact ⟨hkept, hfresh.congr (by simp)⟩
  | cons position rest ih =>
    obtain ⟨hposition, hrest⟩ := List.forall_mem_cons.1 hpositions
    rw [deriveAt, ensures_bind, ensures_get]
    split
    next hidle =>
      refine (ih hkept hfresh hrest).mono (fun final after hfinal => ?_) fun _ _ => id
      refine ⟨hfinal.1, hfinal.2.congr fun row => ?_⟩
      simp [headsIn_eq_empty h hkept hposition hidle]
    next hidle =>
      have hdelta : ∀ i, some position = some i → ∃ atom, rule.body[i]? = some (.atom atom) := by
        rintro _ ⟨⟩
        obtain ⟨a, hget, -⟩ := mem_recursivePositions.1 hposition
        exact ⟨a, hget⟩
      rw [ensures_bind]
      refine (ensures_evaluateRule h.conforms hkept (h.rules predicate hmem rule hrule) hdelta).mono
        (fun rows after hafter => ?_) fun _ _ => id
      obtain ⟨hafter, hlength, hrows⟩ := hafter
      rw [ensures_bind]
      refine (ensures_addNew h hafter hmem hfresh hlength).mono
        (fun next later hnext => ?_) fun _ _ => False.elim
      refine (ih hnext.1 hnext.2 hrest).mono (fun final last hfinal => ?_) fun _ _ => id
      refine ⟨hfinal.1, hfinal.2.congr fun row => ?_⟩
      simp only [Set.mem_ofPred_eq, hrows, List.exists_mem_cons_iff]
      rw [or_assoc, ← or_and_right]

/-- The rows that the rules of a member derive through some position are added unless held
already. -/
theorem ensures_deriveRules (h : Supports catalog predicates start) (hkept : start.Kept workspace)
    (hmem : predicate ∈ predicates) {rules : List Rule}
    (hrules : ∀ rule ∈ rules, rule ∈ predicate.rules)
    (hfresh : fresh.Collects predicate.columns.length S) :
    (deriveRules context (predicates.map Predicate.name) predicate.name fresh rules).Ensures
      workspace
      (fun fresh after => start.Kept after ∧ fresh.Collects predicate.columns.length
        {row | row ∈ S ∨ (∃ rule ∈ rules,
          ∃ i ∈ rule.recursivePositions (predicates.map Predicate.name),
            row ∈ headsIn context start rule (some i)) ∧
          row ∉ start.growing.rowsOf predicate.name})
      fun fault after => start.Kept after ∧
        ((∀ rule ∈ rules, Feeds start rule) → fault.IsTupleLimit) := by
  induction rules generalizing fresh S workspace with
  | nil =>
    rw [deriveRules, ensures_pure]
    exact ⟨hkept, hfresh.congr (by simp)⟩
  | cons rule rest ih =>
    obtain ⟨hrule, hrest⟩ := List.forall_mem_cons.1 hrules
    rw [deriveRules, ensures_bind]
    refine (ensures_deriveAt h hkept hmem hrule hfresh fun _ => id).mono
      (fun next later hnext => ?_) fun _ _ hfault =>
        ⟨hfault.1, fun hfeeds => hfault.2 (List.forall_mem_cons.1 hfeeds).1⟩
    refine (ih hnext.1 hrest hnext.2).mono (fun final last hfinal => ?_) fun _ _ hfault =>
      ⟨hfault.1, fun hfeeds => hfault.2 (List.forall_mem_cons.1 hfeeds).2⟩
    refine ⟨hfinal.1, hfinal.2.congr fun row => ?_⟩
    simp only [Set.mem_ofPred_eq, List.exists_mem_cons_iff]
    rw [or_assoc, ← or_and_right]

/-- The rows that rules derive without reading a member are added. -/
theorem ensures_startRules (h : Supports catalog predicates start) (hkept : start.Kept workspace)
    (hmem : predicate ∈ predicates) {rules : List Rule}
    (hrules : ∀ rule ∈ rules, rule ∈ predicate.rules)
    (hfresh : fresh.Collects predicate.columns.length S) :
    (startRules context (predicates.map Predicate.name) fresh rules).Ensures workspace
      (fun fresh after => start.Kept after ∧ fresh.Collects predicate.columns.length
        {row | row ∈ S ∨ ∃ rule ∈ rules,
          rule.recursivePositions (predicates.map Predicate.name) = [] ∧
            row ∈ headsIn context start rule none})
      fun fault after => start.Kept after ∧
        ((∀ rule ∈ rules, Feeds start rule) → fault.IsTupleLimit) := by
  induction rules generalizing fresh S workspace with
  | nil =>
    rw [startRules, ensures_pure]
    exact ⟨hkept, hfresh.congr (by simp)⟩
  | cons rule rest ih =>
    obtain ⟨hrule, hrest⟩ := List.forall_mem_cons.1 hrules
    rw [startRules]
    split
    next hstart =>
      rw [ensures_bind]
      refine (ensures_evaluateRule h.conforms hkept (h.rules predicate hmem rule hrule)
        (by simp)).mono (fun rows after hafter => ?_) fun _ _ hfault =>
          ⟨hfault.1, fun hfeeds => hfault.2 (List.forall_mem_cons.1 hfeeds).1⟩
      obtain ⟨hafter, hlength, hrows⟩ := hafter
      refine (ih hafter hrest (hfresh.addAll hlength)).mono
        (fun final last hfinal => ?_) fun _ _ hfault =>
          ⟨hfault.1, fun hfeeds => hfault.2 (List.forall_mem_cons.1 hfeeds).2⟩
      refine ⟨hfinal.1, hfinal.2.congr fun row => ?_⟩
      simp [hrows, List.isEmpty_iff.1 hstart, or_assoc]
    next hstart =>
      refine (ih hkept hrest hfresh).mono (fun final last hfinal => ?_) fun _ _ hfault =>
        ⟨hfault.1, fun hfeeds => hfault.2 (List.forall_mem_cons.1 hfeeds).2⟩
      refine ⟨hfinal.1, hfinal.2.congr fun row => ?_⟩
      have hne : rule.recursivePositions (predicates.map Predicate.name) ≠ [] :=
        fun hnil => hstart (List.isEmpty_iff.2 hnil)
      simp [hne]

/-- What a rule derives through one position. -/
def through (context : Context) (predicates : List Predicate) (outer : Workspace)
    (X D : Interpretation) (rule : Rule) (position : Nat) : Set Row :=
  {row | ∃ σ : Assignment, HoldsThrough context.entities.render (predicates.map Predicate.name)
    outer.settled X D rule.body position σ ∧ rule.headRow σ = row}

/-- What a rule derives over the rows held. -/
def derivedFrom (context : Context) (predicates : List Predicate) (outer : Workspace)
    (X : Interpretation) (rule : Rule) : Set Row :=
  {row | ∃ σ : Assignment, (∀ literal ∈ rule.body, literal.HoldsOver context.entities.render
    (predicates.map Predicate.name) outer.settled X σ) ∧ rule.headRow σ = row}

namespace Growing

/-- Inside a stratum the heads of a rule are what it derives over the rows held. -/
theorem headsIn_none (h : Growing outer predicates X D workspace)
    (hready : Ready catalog predicates outer) (hmem : predicate ∈ predicates) {rule : Rule}
    (hrule : rule ∈ predicate.rules) :
    headsIn context workspace rule none = derivedFrom context predicates outer X rule := by
  simp only [headsIn, derivedFrom, h.satisfies_none_iff hready hmem hrule]

/-- Inside a stratum the heads of a rule through a position are what it derives through it. -/
theorem headsIn_some (h : Growing outer predicates X D workspace)
    (hready : Ready catalog predicates outer) (hmem : predicate ∈ predicates) {rule : Rule}
    (hrule : rule ∈ predicate.rules) (position : Nat) :
    headsIn context workspace rule (some position) =
      through context predicates outer X D rule position := by
  simp only [headsIn, through, h.satisfies_some_iff hready hmem hrule]

end Growing

end Evaluation

end Stratalog
