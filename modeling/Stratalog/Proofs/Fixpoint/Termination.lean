import Stratalog.Pattern.Engine
import Stratalog.Proofs.Fixpoint.SemiNaive
import Stratalog.Proofs.Workspace.Tally

/-!
# The rounds of a stratum end

Rules may build new texts and numbers without end, so nothing bounds what they derive but the limit on
the size of a relation. A round that is followed by another one added a row that its member did not
hold, and after each round no member is larger than the limit. So there are no more rounds than the
members have room for rows, and one that adds nothing, whatever limit is set on the rounds themselves.

Each round passes one checkpoint as it begins, so the checkpoints count the rounds, also where the
evaluation fails.
-/

namespace Stratalog

namespace Evaluation

open Eval

/-- The rounds of a stratum, if no limit is set on their number. They are numbered from one; each is an
evaluation, and comes with the workspace that it begins in. Another round follows one that found rows,
in a recursive stratum, and begins where that one ended. -/
inductive Begins [PatternEngine] (context : Context) (stratum : Stratum) (predicates : List Predicate)
    (outer : Workspace) : Nat → Eval RowsByName → Workspace → Prop
  | first : Begins context stratum predicates outer 1 (openRounds context predicates)
      (opened outer predicates)
  | next {n : Nat} {round : Eval RowsByName} {before after : Workspace} {rows : RowsByName}
      (hbegins : Begins context stratum predicates outer n round before)
      (hround : round.run.run before = (.ok rows, after))
      (hrecursive : stratum.recursive = true) (hrows : rows ≠ []) :
      Begins context stratum predicates outer (n + 1) (nextRound context predicates rows) after

/-- The number of rows that a member holds. -/
def heldSize (workspace : Workspace) (predicate : Predicate) : Nat :=
  ((workspace.growing[predicate.name]?).map Relation.size).getD 0

/-- The number of rows that the members hold together. -/
def heldRows (workspace : Workspace) (predicates : List Predicate) : Nat :=
  (predicates.map (heldSize workspace)).sum

/-- No member is larger than the limit on the size of relations. -/
def WithinLimit (context : Context) (workspace : Workspace) : Prop :=
  ∀ (name : String) (relation : Relation), workspace.growing[name]? = some relation →
    relation.size ≤ context.settings.maxTuples

/-- Between two workspaces some member gains a row. -/
def GainsRow (predicates : List Predicate) (before after : Workspace) : Prop :=
  ∃ predicate ∈ predicates, ∃ row, row ∉ before.growing.rowsOf predicate.name ∧
    row ∈ after.growing.rowsOf predicate.name

/-- What a round that begins in a workspace leaves: members within the limit, and at least one row
more than before if it found any. -/
structure Advances (context : Context) (outer : Workspace) (predicates : List Predicate)
    (before : Workspace) (rows : RowsByName) (after : Workspace) : Prop where
  growing : ∃ X D, Growing outer predicates X D after
  lists : ∃ S, rows.Lists predicates S
  withinLimit : WithinLimit context after
  le : heldRows before predicates ≤ heldRows after predicates
  gains : rows ≠ [] → GainsRow predicates before after ∧
    heldRows before predicates < heldRows after predicates

variable {context : Context} {outer before workspace after : Workspace} {stratum : Stratum}
  {predicates : List Predicate} {catalog : Catalog} {X Y D E : Interpretation} {rows : RowsByName}

/-- What is handed out has as many rows as the members hold. -/
theorem foldr_size_finishedMembers (hmembers : (predicates.map Predicate.name).Nodup) :
    (finishedMembers workspace predicates).foldr (fun relation total => relation.size + total) 0 =
      heldRows workspace predicates := by
  rw [finishedMembers, eraseDups_eq_self hmembers, heldRows]
  clear hmembers
  induction predicates with
  | nil => rfl
  | cons predicate rest ih =>
    rw [List.map_cons, List.map_cons, List.sum_cons, ← ih]
    cases hget : workspace.growing[predicate.name]? with
    | none => simp [heldSize, hget]
    | some relation => simp [heldSize, hget]

namespace WithinLimit

/-- Members within the limit hold no more rows than the limit allows for all. -/
theorem heldRows_le (h : WithinLimit context workspace) (predicates : List Predicate) :
    heldRows workspace predicates ≤ predicates.length * context.settings.maxTuples := by
  have hle : ∀ size ∈ predicates.map (heldSize workspace), size ≤ context.settings.maxTuples := by
    rw [List.forall_mem_map]
    intro predicate _
    rw [heldSize]
    cases hget : workspace.growing[predicate.name]? with
    | none => exact Nat.zero_le _
    | some relation => exact h _ relation hget
  simpa [heldRows] using List.sum_le_card_nsmul _ _ hle

/-- What is kept stays within the limit. -/
theorem of_kept (h : WithinLimit context workspace) (hkept : workspace.Kept after) :
    WithinLimit context after := by
  intro name relation hget
  have hsome := hkept.agrees.growing name
  rw [hget, Option.map_some] at hsome
  obtain ⟨old, hold, hbare⟩ := Option.map_eq_some_iff.1 hsome.symm
  rw [Relation.size, ← (Relation.bare_eq_iff.1 hbare).2.2]
  exact h name old hold

/-- Members that hold nothing are within the limit. -/
theorem of_growing_bot (h : Growing outer predicates ⊥ D workspace) :
    WithinLimit context workspace := by
  intro name relation hget
  have hnone : relation.rows = [] := by
    refine List.eq_nil_iff_forall_not_mem.2 fun row hrow => ?_
    rw [← Relations.mem_rowsOf_iff hget, h.rows] at hrow
    exact hrow
  rw [Relation.size, hnone]
  exact Nat.zero_le _

end WithinLimit

/-- Members that absorbed rows are within the limit. -/
theorem ensures_absorb_withinLimit (h : WithinLimit context workspace) (rows : RowsByName) :
    (absorb context rows).Ensures workspace (fun _ after => WithinLimit context after)
      fun _ _ => True := by
  induction rows generalizing workspace with
  | nil => exact h
  | cons entry rest ih =>
    obtain ⟨name, list⟩ := entry
    rw [absorb]
    simp only [ensures_bind, ensures_get]
    cases hget : workspace.growing[name]? with
    | none => exact ih h
    | some relation =>
      simp only [ensures_bind, ensures_modify, ensures_lift]
      refine ⟨fun _ hsize => ih fun other found hfound => ?_, fun _ _ => trivial⟩
      rcases of_getElem?_insert hfound with rfl | hfound
      · by_contra hlarge
        rw [Context.checkSize, if_pos (by omega)] at hsize
        cases hsize
      · exact h other found hfound

namespace Growing

/-- A member holds finitely many rows, each counted once. -/
theorem heldSize_eq_ncard (h : Growing outer predicates X D workspace) {predicate : Predicate}
    (hmem : predicate ∈ predicates) :
    heldSize workspace predicate = (X predicate.name).ncard ∧ (X predicate.name).Finite := by
  classical
  obtain ⟨relation, hget⟩ := h.complete predicate hmem
  obtain ⟨holder, -, -, hof⟩ := h.members _ _ hget
  have hrows : X predicate.name = ↑relation.rows.toFinset := by
    ext row
    rw [← h.rows, Relations.mem_rowsOf_iff hget]
    simp
  rw [hrows, Set.ncard_coe_finset, List.toFinset_card_of_nodup hof.nodup, heldSize, hget]
  exact ⟨rfl, Finset.finite_toSet _⟩

/-- A member that holds the rows it held before holds no fewer. -/
theorem heldSize_le (h : Growing outer predicates X D workspace)
    (h' : Growing outer predicates Y E after) (hle : X ≤ Y) :
    ∀ predicate ∈ predicates, heldSize workspace predicate ≤ heldSize after predicate := by
  intro predicate hmem
  obtain ⟨hsize, -⟩ := h.heldSize_eq_ncard hmem
  obtain ⟨hsize', hfinite⟩ := h'.heldSize_eq_ncard hmem
  rw [hsize, hsize']
  exact Set.ncard_le_ncard (hle _) hfinite

/-- Where one of the members gains a row they hold a greater number of them. -/
theorem heldRows_lt (h : Growing outer predicates X D workspace)
    (h' : Growing outer predicates Y E after) (hle : X ≤ Y)
    (hgains : GainsRow predicates workspace after) :
    heldRows workspace predicates < heldRows after predicates := by
  obtain ⟨predicate, hmem, row, hnot, hrow⟩ := hgains
  refine List.sum_lt_sum _ _ (h.heldSize_le h' hle) ⟨predicate, hmem, ?_⟩
  obtain ⟨hsize, -⟩ := h.heldSize_eq_ncard hmem
  obtain ⟨hsize', hfinite⟩ := h'.heldSize_eq_ncard hmem
  rw [h.rows] at hnot
  rw [h'.rows] at hrow
  rw [hsize, hsize']
  exact Set.ncard_lt_ncard ((Set.ssubset_iff_of_subset (hle _)).2 ⟨row, hrow, hnot⟩) hfinite

end Growing

/-- Rows that are new to the members advance them as they are absorbed. -/
theorem ensures_absorb_advances (hmembers : (predicates.map Predicate.name).Nodup)
    (hbefore : Growing outer predicates X D before) (h : Growing outer predicates X E workspace)
    (hlimit : WithinLimit context workspace) {S : Predicate → Set Row}
    (hrows : rows.Lists predicates S)
    (hnew : ∀ predicate ∈ predicates, ∀ row ∈ S predicate, row ∉ X predicate.name) :
    (absorb context rows).Ensures workspace
      (fun _ after => Advances context outer predicates before rows after) fun _ _ => True := by
  refine ((ensures_absorb_lists hmembers h hrows hnew).and
    (ensures_absorb_withinLimit hlimit rows)).mono (fun _ after hafter => ?_) fun _ _ _ => trivial
  obtain ⟨hgrown, hwithin⟩ := hafter
  refine ⟨⟨_, _, hgrown⟩, ⟨S, hrows⟩, hwithin,
    List.sum_le_sum (hbefore.heldSize_le hgrown le_sup_left), fun hsome => ?_⟩
  obtain ⟨⟨name, list⟩, hentry⟩ := List.exists_mem_of_ne_nil rows hsome
  obtain ⟨-, hlist, predicate, hmem, rfl, -⟩ := hrows.each _ hentry
  obtain ⟨row, hrow⟩ := List.exists_mem_of_ne_nil list hlist
  have hgains : GainsRow predicates before after := by
    refine ⟨predicate, hmem, row, ?_, ?_⟩
    · rw [hbefore.rows]
      exact hnew predicate hmem row ((hrows.mem_list_iff hmem hentry).1 hrow)
    · rw [hgrown.rows]
      exact Or.inr ⟨list, hentry, hrow⟩
  exact ⟨hgains, hbefore.heldRows_lt hgrown le_sup_left hgains⟩

/-- The first round advances the members from nothing. -/
theorem ensures_openRounds_advances [PatternEngine] (hadmits : Admits catalog predicates outer) :
    (openRounds context predicates).Ensures (opened outer predicates)
      (fun rows after => Advances context outer predicates (opened outer predicates) rows after)
      fun _ _ => True := by
  have h := growing_opened hadmits.coherent hadmits.nodup
  unfold openRounds
  rw [ensures_bind]
  refine ensures_pass h.encloses.coherent (fun start hkept => ?_) fun _ _ _ _ => trivial
  have hstart := h.of_kept hkept
  rw [ensures_bind]
  refine (ensures_startRound (hstart.supports hadmits) (Workspace.Kept.refl hkept.coherent)
    (fun _ => id) hadmits.nodup).mono (fun rows found hfound => ?_) fun _ _ _ => trivial
  obtain ⟨hkept', hrows⟩ := hfound
  rw [ensures_bind]
  exact ensures_absorb_advances hadmits.nodup h (hstart.of_kept hkept')
    ((WithinLimit.of_growing_bot h).of_kept (hkept.trans hkept')) hrows fun _ _ _ _ => id

/-- A later round advances the members from where the round before left them. -/
theorem ensures_nextRound_advances [PatternEngine] (hadmits : Admits catalog predicates outer)
    (h : Advances context outer predicates before rows workspace) :
    (nextRound context predicates rows).Ensures workspace
      (fun found after => Advances context outer predicates workspace found after)
      fun _ _ => True := by
  obtain ⟨⟨X, D, hheld⟩, ⟨S, hlast⟩, hlimit, -, -⟩ := h
  unfold nextRound
  rw [ensures_bind]
  refine ensures_pass hheld.encloses.coherent (fun start hkept => ?_) fun _ _ _ _ => trivial
  have hstart := growing_deltaOf hadmits.nodup (hheld.of_kept hkept) hlast
  simp only [ensures_bind, ensures_modify]
  refine (ensures_deriveRound (hstart.supports hadmits)
    (Workspace.Kept.refl hstart.encloses.coherent) (fun _ => id) hadmits.nodup).mono
    (fun found last hlast => ?_) fun _ _ _ => trivial
  obtain ⟨hkept', hrows⟩ := hlast
  have hwithin : WithinLimit context { start with delta := deltaOf start rows } :=
    fun name relation hget => hlimit.of_kept hkept name relation hget
  refine ensures_absorb_advances hadmits.nodup hheld (hstart.of_kept hkept')
    (hwithin.of_kept hkept') hrows fun predicate _ row hrow => ?_
  rw [← hstart.rows]
  exact hrow.2

namespace Begins

variable [PatternEngine] {n : Nat} {round : Eval RowsByName}

/-- Every round advances the members, unless it fails. -/
theorem advances (hadmits : Admits catalog predicates outer)
    (h : Begins context stratum predicates outer n round before) :
    round.Ensures before (fun rows after => Advances context outer predicates before rows after)
      fun _ _ => True := by
  induction h with
  | first => exact ensures_openRounds_advances hadmits
  | next hbegins hround hrecursive hrows ih =>
    exact ensures_nextRound_advances hadmits (ih.of_ok hround)

/-- Once a round has ended, however it did, as many checkpoints are passed as rounds have begun. -/
theorem checkpoints_run (h : Begins context stratum predicates outer n round before) :
    (round.run.run before).2.checkpoints = outer.checkpoints + n := by
  induction h with
  | first => exact checkpoints_openRounds context predicates (opened outer predicates)
  | next hbegins hround hrecursive hrows ih =>
    rw [hround] at ih
    rw [checkpoints_nextRound, ih, Nat.add_assoc]

/-- A round that begins finds the members within the limit. -/
theorem withinLimit (hadmits : Admits catalog predicates outer)
    (h : Begins context stratum predicates outer n round before) : WithinLimit context before := by
  cases h with
  | first => exact .of_growing_bot (growing_opened hadmits.coherent hadmits.nodup)
  | next hbegins hround hrecursive hrows => exact ((hbegins.advances hadmits).of_ok hround).withinLimit

/-- Every round that came before has added a row. -/
theorem le_heldRows (hadmits : Admits catalog predicates outer)
    (h : Begins context stratum predicates outer n round before) :
    n ≤ heldRows before predicates + 1 := by
  induction h with
  | first => exact Nat.le_add_left 1 _
  | next hbegins hround hrecursive hrows ih =>
    have hgained := (((hbegins.advances hadmits).of_ok hround).gains hrows).2
    omega

/-- No more rounds begin than the members have room for rows, and one. -/
theorem le_room (hadmits : Admits catalog predicates outer)
    (h : Begins context stratum predicates outer n round before) :
    n ≤ predicates.length * context.settings.maxTuples + 1 :=
  (h.le_heldRows hadmits).trans
    (Nat.succ_le_succ ((h.withinLimit hadmits).heldRows_le predicates))

/-- After a round that found rows there is room for as many rows as rounds have begun. -/
theorem le_room_of_ne_nil (hadmits : Admits catalog predicates outer)
    (h : Begins context stratum predicates outer n round before)
    (hround : round.run.run before = (.ok rows, after)) (hrows : rows ≠ []) :
    n ≤ predicates.length * context.settings.maxTuples := by
  have hadvances := (h.advances hadmits).of_ok hround
  calc n ≤ heldRows before predicates + 1 := h.le_heldRows hadmits
    _ ≤ heldRows after predicates := (hadvances.gains hrows).2
    _ ≤ predicates.length * context.settings.maxTuples := hadvances.withinLimit.heldRows_le predicates

end Begins

/-- How the evaluation of a stratum fails: a checkpoint is passed for each round that began, and the
last of them failed, unless no more rounds are allowed than there is room for rows. -/
def Fails [PatternEngine] (context : Context) (stratum : Stratum) (predicates : List Predicate)
    (outer : Workspace)
    (fault : Fault) (after : Workspace) : Prop :=
  ∃ n round before, Begins context stratum predicates outer n round before ∧
    after.checkpoints = outer.checkpoints + n ∧
    ((∃ last, round.run.run before = (.error fault, last)) ∨
      context.settings.maxRounds ≤ predicates.length * context.settings.maxTuples)

/-- The loop goes on through the rounds, and ends after one of them, or fails. -/
theorem ensures_iterate_begins [PatternEngine] (hadmits : Admits catalog predicates outer) {fuel n : Nat}
    {round : Eval RowsByName} (h : Begins context stratum predicates outer n round before)
    (hround : round.run.run before = (.ok rows, workspace))
    (hfuel : context.settings.maxRounds ≤ n + fuel) :
    (iterate context stratum predicates fuel n rows).Ensures workspace
      (fun count after => ∃ round before rows,
        Begins context stratum predicates outer count round before ∧
        round.run.run before = (.ok rows, after))
      fun fault after => Fails context stratum predicates outer fault after := by
  induction fuel generalizing n round before rows workspace with
  | zero =>
    rw [iterate]
    split
    next => exact ⟨round, before, rows, h, hround⟩
    next hgoes =>
      -- As many rounds have begun as are allowed, and the last of them found rows.
      obtain ⟨-, hrows⟩ : stratum.recursive = true ∧ rows ≠ [] := by simpa using hgoes
      have hpassed := h.checkpoints_run
      rw [hround] at hpassed
      exact ⟨n, round, before, h, hpassed,
        Or.inr (hfuel.trans (h.le_room_of_ne_nil hadmits hround hrows))⟩
  | succ fuel ih =>
    rw [iterate]
    split
    next => exact ⟨round, before, rows, h, hround⟩
    next hgoes =>
      obtain ⟨hrecursive, hrows⟩ : stratum.recursive = true ∧ rows ≠ [] := by simpa using hgoes
      have hnext := Begins.next h hround hrecursive hrows
      rw [ensures_bind]
      refine ensures_run.mono (fun found after hrun => ?_) fun fault after hrun => ?_
      · exact ih hnext hrun (by omega)
      · have hpassed := hnext.checkpoints_run
        rw [hrun] at hpassed
        exact ⟨n + 1, _, workspace, hnext, hpassed, Or.inl ⟨after, hrun⟩⟩

/-- The evaluation of a stratum whose members are empty passes a checkpoint for each of its rounds, and
when it succeeds hands out a row for each but the last. -/
theorem ensures_growStratum_begins [PatternEngine] (hadmits : Admits catalog predicates outer) :
    (growStratum context stratum predicates).Ensures (opened outer predicates)
      (fun result after => ∃ round before,
        Begins context stratum predicates outer result.rounds round before ∧
        after.checkpoints = outer.checkpoints + result.rounds ∧ result.rounds ≤ result.derived + 1)
      fun fault after => Fails context stratum predicates outer fault after := by
  have hfirst : Begins context stratum predicates outer 1 _ _ := .first
  unfold growStratum
  rw [ensures_bind]
  refine ensures_run.mono (fun rows between hrun => ?_) fun fault after hrun => ?_
  · rw [ensures_bind]
    refine (ensures_iterate_begins hadmits hfirst hrun (by omega)).mono (fun count after hlast => ?_)
      fun _ _ => id
    obtain ⟨round, before, found, hbegins, hround⟩ := hlast
    have hpassed := hbegins.checkpoints_run
    rw [hround] at hpassed
    have hheld := ((hbegins.advances hadmits).of_ok hround).le
    simp only [ensures_bind, ensures_get, ensures_pure, foldr_size_finishedMembers hadmits.nodup]
    exact ⟨round, before, hbegins, hpassed,
      (hbegins.le_heldRows hadmits).trans (Nat.succ_le_succ hheld)⟩
  · have hpassed := hfirst.checkpoints_run
    rw [hrun] at hpassed
    exact ⟨1, _, _, hfirst, hpassed, Or.inl ⟨after, hrun⟩⟩

/-- The evaluation of a stratum passes the checkpoints of its rounds; removing the members afterwards
passes none. -/
theorem ensures_evaluateStratum_begins [PatternEngine] (hadmits : Admits catalog predicates outer) :
    (evaluateStratum context stratum predicates).Ensures outer
      (fun result after => ∃ round before,
        Begins context stratum predicates outer result.rounds round before ∧
        after.checkpoints = outer.checkpoints + result.rounds ∧ result.rounds ≤ result.derived + 1)
      fun fault after => Fails context stratum predicates outer fault after :=
  ensures_cleared ((ensures_growStratum_begins hadmits).mono (fun _ _ => id) fun _ _ => id)

/-- For checked predicates, whatever values their rules build and whatever limit is set on the rounds,
no more rounds begin than the members have room for rows, and one; a round that is followed by another
gives some member a row that it did not hold. The evaluation passes one checkpoint for each round that
begins. Where it succeeds these are the rounds it reports, and it hands out a row for each of them but
the last; where it fails the last of them failed, unless no more rounds are allowed than there is room
for rows. -/
theorem evaluateStratum_rounds_bounded [PatternEngine] {store : FactStore} {defined : List Predicate}
    (hstore : store.Built) (hdefined : (defined.map Predicate.name).Nodup)
    (hserves : workspace.Serves store defined)
    (hpredicates : ∀ predicate ∈ predicates, predicate ∈ defined)
    (hnames : (predicates.map Predicate.name).Nodup)
    (hchecked : ∀ predicate ∈ predicates,
      Typing.checkPredicate store (Catalog.of store defined) predicate = .ok ())
    (context : Context) (stratum : Stratum) :
    (∀ n round before, Begins context stratum predicates workspace n round before →
      n ≤ predicates.length * context.settings.maxTuples + 1 ∧
      ∀ rows after, round.run.run before = (.ok rows, after) → rows ≠ [] →
        GainsRow predicates before after) ∧
    (∀ result after,
      (evaluateStratum context stratum predicates).run.run workspace = (.ok result, after) →
        (∃ round before, Begins context stratum predicates workspace result.rounds round before) ∧
        after.checkpoints = workspace.checkpoints + result.rounds ∧
        result.rounds ≤ result.derived + 1) ∧
    ∀ fault after,
      (evaluateStratum context stratum predicates).run.run workspace = (.error fault, after) →
        Fails context stratum predicates workspace fault after := by
  have hadmits := hserves.admits hstore.wellFormed hdefined hpredicates hnames hchecked
  refine ⟨fun n round before hbegins => ⟨hbegins.le_room hadmits, fun rows after hround hrows => ?_⟩,
    fun result after hrun => ?_, fun fault after hrun => ?_⟩
  · exact (((hbegins.advances hadmits).of_ok hround).gains hrows).1
  · obtain ⟨round, before, hbegins, hpassed, hcount⟩ :=
      (ensures_evaluateStratum_begins hadmits).of_ok hrun
    exact ⟨⟨round, before, hbegins⟩, hpassed, hcount⟩
  · exact (ensures_evaluateStratum_begins hadmits).of_error hrun

/-- The numbers that a step starts from, and the number after each. -/
def numbers : Predicate where
  name := "number"
  columns := [⟨"value", .int⟩]
  rules := [⟨[.var "x"], [.atom ⟨"edge", [.var "x", .var "y"]⟩]⟩,
    ⟨[.var "y"], [.atom ⟨"number", [.var "x"]⟩,
      .assign "y" (.arith .add (.var "x") (.const (.int 1)))]⟩]

/-- Room for four rows in a relation. -/
def roomForFour : Context := { settings := { maxTuples := 4 } }

/-- The workspace around the numbers over two steps. -/
def aroundNumbers : Workspace :=
  { base := FactStore.steps.relations, slots := Session.emptySlots ([numbers].map Predicate.name) }

/-- The numbers have no end, but with room for four of them no more than five rounds begin, and the
fourth fails. -/
theorem evaluateStratum_rounds_bounded_numbers :
    (∀ n round before, Begins roomForFour ((Stratification.ofPredicates [numbers]).stratum 0) [numbers]
      aroundNumbers n round before → n ≤ 5) ∧
    ∃ fault after, (evaluateStratum roomForFour ((Stratification.ofPredicates [numbers]).stratum 0)
      [numbers]).run.run aroundNumbers = (.error fault, after) ∧ after.checkpoints = 4 := by
  have hnames : ([numbers].map Predicate.name).Nodup := List.nodup_singleton _
  have hchecked : ∀ predicate ∈ [numbers], Typing.checkPredicate FactStore.steps
      (Catalog.of FactStore.steps [numbers]) predicate = .ok () := by
    intro predicate hmem
    rw [List.mem_singleton.1 hmem]
    rfl
  have hbounded := evaluateStratum_rounds_bounded FactStore.built_steps hnames
    (Workspace.serves_start FactStore.built_steps.wellFormed hnames) (fun _ => id) hnames hchecked
    roomForFour ((Stratification.ofPredicates [numbers]).stratum 0)
  have hfails : ((evaluateStratum roomForFour ((Stratification.ofPredicates [numbers]).stratum 0)
        [numbers]).run.run aroundNumbers).1.isOk = false ∧
      ((evaluateStratum roomForFour ((Stratification.ofPredicates [numbers]).stratum 0)
        [numbers]).run.run aroundNumbers).2.checkpoints = 4 := by decide +kernel
  refine ⟨fun n round before hbegins => (hbounded.1 n round before hbegins).1, ?_⟩
  rcases hrun : (evaluateStratum roomForFour ((Stratification.ofPredicates [numbers]).stratum 0)
    [numbers]).run.run aroundNumbers with ⟨fault | result, after⟩
  · rw [hrun] at hfails
    exact ⟨fault, after, rfl, hfails.2⟩
  · rw [hrun] at hfails
    cases hfails.1

end Evaluation

end Stratalog
