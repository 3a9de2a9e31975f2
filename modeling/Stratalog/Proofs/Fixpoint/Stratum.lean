import Stratalog.Proofs.Fixpoint.Iteration
import Stratalog.Proofs.Relation.Sorted

/-!
# The result of a stratum

The evaluation of a stratum starts from empty members and goes through the rounds until one to end
with. It hands out the members as they are then, and leaves the workspace around as it was.
-/

namespace Stratalog

namespace Evaluation

open Eval

variable {context : Context} {outer workspace after : Workspace} {predicates members : List Predicate}
  {catalog : Catalog} {X D : Interpretation} {rows : RowsByName} {stratum : Stratum}

/-- The rest of the evaluation of a stratum after the round of a number, counted from zero. -/
def resume [PatternEngine] (context : Context) (stratum : Stratum) (predicates : List Predicate) (k : Nat)
    (rows : RowsByName) : Eval StratumResult := do
  let rounds ← iterate context stratum predicates (context.settings.maxRounds - 1 - k) (k + 1) rows
  let relations := finishedMembers (← get) predicates
  return ⟨relations, rounds, relations.foldr (fun relation total => relation.size + total) 0⟩

/-- Where a workspace holds empty members nothing has been found. -/
def opened (outer : Workspace) (predicates : List Predicate) : Workspace :=
  { outer with growing := emptyMembers predicates, delta := ∅ }

/-- A stratum starts with members that hold nothing. -/
theorem growing_opened (hcoherent : outer.Coherent)
    (hmembers : (predicates.map Predicate.name).Nodup) :
    Growing outer predicates ⊥ ⊥ (opened outer predicates) := by
  have hget (name : String) (relation : Relation) :
      (emptyMembers predicates)[name]? = some relation ↔ ∃ predicate ∈ predicates,
        predicate.name = name ∧ relation = Relation.empty name predicate.schema := by
    unfold emptyMembers
    rw [getElem?_ofList_iff, List.mem_map]
    · constructor
      · rintro ⟨predicate, hmem, ⟨⟩⟩
        exact ⟨predicate, hmem, rfl, rfl⟩
      · rintro ⟨predicate, hmem, rfl, rfl⟩
        exact ⟨predicate, hmem, rfl⟩
    · rw [List.map_map]
      exact hmembers
  have hdelta (name : String) : (∅ : Relations)[name]? = none := Std.TreeMap.getElem?_emptyc
  refine ⟨⟨⟨fun _ => rfl, fun _ => rfl, fun _ => rfl, fun _ => rfl⟩,
    ⟨hcoherent.base, hcoherent.slots, fun name relation hrelation => ?_,
      fun name relation hrelation => ?_⟩, rfl⟩, fun name relation hrelation => ?_,
    fun predicate hmem => ⟨_, (hget _ _).2 ⟨predicate, hmem, rfl, rfl⟩⟩, ?_,
    fun name relation hrelation => ?_, ?_⟩
  · obtain ⟨predicate, -, -, rfl⟩ := (hget name relation).1 hrelation
    exact Relation.coherent_ofDistinct _ _ _
  · rw [opened, hdelta] at hrelation
    cases hrelation
  · obtain ⟨predicate, hmem, rfl, rfl⟩ := (hget name relation).1 hrelation
    exact ⟨predicate, hmem, rfl, rfl, rfl, List.nodup_nil,
      by simp [Relation.empty, Relation.ofDistinct]⟩
  · refine funext fun name => Set.eq_empty_iff_forall_notMem.2 fun row hrow => ?_
    obtain ⟨relation, hrelation, hrow⟩ := hrow
    obtain ⟨predicate, -, -, rfl⟩ := (hget name relation).1 hrelation
    exact List.not_mem_nil hrow
  · rw [opened, hdelta] at hrelation
    cases hrelation
  · refine funext fun name => Set.eq_empty_iff_forall_notMem.2 fun row hrow => ?_
    obtain ⟨relation, hrelation, -⟩ := hrow
    rw [opened, hdelta] at hrelation
    cases hrelation

/-- The members are handed out in order, each once. -/
theorem map_name_finishedMembers (hmembers : (predicates.map Predicate.name).Nodup)
    (h : Growing outer predicates X D workspace) :
    (finishedMembers workspace predicates).map Relation.name = predicates.map Predicate.name := by
  have hsome (members : List Predicate) (hin : ∀ member ∈ members, member ∈ predicates) :
      ((members.map Predicate.name).filterMap fun name => workspace.growing[name]?).map
        Relation.name = members.map Predicate.name := by
    induction members with
    | nil => rfl
    | cons member rest ih =>
      obtain ⟨hmember, hrest⟩ := List.forall_mem_cons.1 hin
      obtain ⟨relation, hrelation⟩ := h.complete member hmember
      obtain ⟨holder, -, hname, hof⟩ := h.members _ _ hrelation
      rw [List.map_cons, List.filterMap_cons, hrelation, List.map_cons, ih hrest, hof.name, hname]
  rw [finishedMembers, eraseDups_eq_self hmembers]
  exact hsome predicates fun _ => id

/-- What is handed out is what the members hold. -/
theorem mem_finishedMembers (h : Growing outer predicates X D workspace) {relation : Relation}
    (hrelation : relation ∈ finishedMembers workspace predicates) :
    relation.Coherent ∧ ∃ predicate ∈ predicates, relation.IsOf predicate ∧
      ∀ row, row ∈ relation.rows ↔ row ∈ X predicate.name := by
  obtain ⟨name, -, hget⟩ := List.mem_filterMap.1 hrelation
  obtain ⟨predicate, hmem, rfl, hof⟩ := h.members name relation hget
  refine ⟨h.encloses.coherent.growing _ _ hget, predicate, hmem, hof, fun row => ?_⟩
  rw [← h.rows, Relations.mem_rowsOf_iff hget]

/-- The result of a stratum holds, for each member in order, the rows that naive iteration finds in
a number of steps, each once. -/
structure StratumResult.Reaches [PatternEngine] (result : StratumResult) (context : Context)
    (predicates : List Predicate) (outer : Workspace) (k : Nat) : Prop where
  names : result.relations.map Relation.name = predicates.map Predicate.name
  relations : ∀ relation ∈ result.relations, relation.Coherent ∧ ∃ predicate ∈ predicates,
    relation.IsOf predicate ∧
      ∀ row, row ∈ relation.rows ↔ row ∈ naive context predicates outer k predicate.name
  derived : result.derived = (result.relations.map Relation.size).sum

/-- The evaluation of a stratum whose members are empty ends with the first round to end with. -/
theorem ensures_growStratum [PatternEngine] (hready : Ready catalog predicates outer) :
    (growStratum context stratum predicates).Ensures (opened outer predicates)
      (fun result after => outer.Encloses after ∧ ∃ k, result.rounds = k + 1 ∧
        IsLeast {k | Settles context stratum predicates outer k} k ∧
          k ≤ context.settings.maxRounds - 1 ∧ result.Reaches context predicates outer (k + 1))
      fun fault after => outer.Encloses after ∧
        (fault.IsTupleLimit ∨ context.Interrupts fault ∨
          fault = .resourceExhausted (.rounds stratum.id stratum.predicates
              context.settings.maxRounds) ∧
            ∀ k ≤ context.settings.maxRounds - 1, ¬Settles context stratum predicates outer k) := by
  unfold growStratum
  rw [ensures_bind]
  refine (ensures_openRounds hready (growing_opened hready.coherent hready.nodup)).mono
    (fun rows first hfirst => ?_)
    fun _ _ hfault => ⟨hfault.1, hfault.2.imp id Or.inl⟩
  rw [ensures_bind]
  refine (ensures_iterate hready hfirst).mono (fun count last hlast => ?_) fun fault last hfault => ?_
  · obtain ⟨k, found, rfl, hround, -, hk, hsettles, hbefore⟩ := hlast
    obtain ⟨D, hheld⟩ := hround.growing
    simp only [ensures_bind, ensures_get, ensures_pure]
    refine ⟨hheld.encloses, k, rfl, ⟨hsettles, fun j hj => ?_⟩, by omega,
      map_name_finishedMembers hready.nodup hheld, fun _ => mem_finishedMembers hheld, ?_⟩
    · exact Nat.le_of_not_lt fun hlt => hbefore j (Nat.zero_le j) hlt hj
    · rw [List.sum_eq_foldr, List.foldr_map]
  · obtain ⟨hencloses, hlimit | hinterrupt | ⟨rfl, hnever⟩⟩ := hfault
    · exact ⟨hencloses, Or.inl hlimit⟩
    · exact ⟨hencloses, Or.inr (Or.inl hinterrupt)⟩
    · exact ⟨hencloses, Or.inr (Or.inr ⟨rfl, fun k hk => hnever k (Nat.zero_le k) (by omega)⟩)⟩

/-- Evaluating a stratum is growing its members from nothing and removing them afterwards. -/
theorem run_evaluateStratum [PatternEngine] (context : Context) (stratum : Stratum)
    (predicates : List Predicate)
    (outer : Workspace) : (evaluateStratum context stratum predicates).run.run outer =
      Prod.map id (fun after => { after with growing := ∅, delta := ∅ })
        ((growStratum context stratum predicates).run.run (opened outer predicates)) := rfl

/-- After a stratum its members are gone, whether it succeeded or not. -/
theorem ensures_cleared [PatternEngine] {answered : StratumResult → Workspace → Prop}
    {failed : Fault → Workspace → Prop}
    (h : (growStratum context stratum predicates).Ensures (opened outer predicates)
      (fun result after => answered result { after with growing := ∅, delta := ∅ })
      fun fault after => failed fault { after with growing := ∅, delta := ∅ }) :
    (evaluateStratum context stratum predicates).Ensures outer answered failed := by
  rw [Ensures, run_evaluateStratum]
  rcases hgrow : (growStratum context stratum predicates).run.run (opened outer predicates) with
    ⟨_ | result, after⟩
  · exact h.of_error hgrow
  · exact h.of_ok hgrow

/-- Clearing the members keeps everything around them. -/
theorem encloses_cleared (h : outer.Encloses workspace) :
    outer.Encloses { workspace with growing := ∅, delta := ∅ } := by
  have hnone (name : String) (relation : Relation) (hget : (∅ : Relations)[name]? = some relation) :
      relation.Coherent := by
    rw [Std.TreeMap.getElem?_emptyc] at hget
    cases hget
  exact h.replace hnone hnone

variable [PatternEngine]

/-- The evaluation of a stratum ends with the first round to end with, and leaves no member
behind. -/
theorem ensures_evaluateStratum (hready : Ready catalog predicates outer) :
    (evaluateStratum context stratum predicates).Ensures outer
      (fun result after => outer.Encloses after ∧ (after.growing = ∅ ∧ after.delta = ∅) ∧
        ∃ k, result.rounds = k + 1 ∧ IsLeast {k | Settles context stratum predicates outer k} k ∧
          k ≤ context.settings.maxRounds - 1 ∧ result.Reaches context predicates outer (k + 1))
      fun fault after => outer.Encloses after ∧ (after.growing = ∅ ∧ after.delta = ∅) ∧
        (fault.IsTupleLimit ∨ context.Interrupts fault ∨
          fault = .resourceExhausted (.rounds stratum.id stratum.predicates
              context.settings.maxRounds) ∧
            ∀ k ≤ context.settings.maxRounds - 1, ¬Settles context stratum predicates outer k) := by
  refine ensures_cleared ((ensures_growStratum hready).mono (fun result after h => ?_)
    fun fault after h => ?_)
  · exact ⟨encloses_cleared h.1, ⟨rfl, rfl⟩, h.2⟩
  · exact ⟨encloses_cleared h.1, ⟨rfl, rfl⟩, h.2⟩

/-- A round to end with is closed under the rules, where a stratum that is not recursive has no
rule that reads a member. -/
theorem isFixedPt_of_settles (hrecursive : stratum.recursive = false → ∀ predicate ∈ predicates,
      ∀ rule ∈ predicate.rules, rule.recursivePositions (predicates.map Predicate.name) = [])
    {k : Nat} (h : Settles context stratum predicates outer k) :
    Function.IsFixedPt (consequences context.entities.render predicates outer.settled)
      (naive context predicates outer (k + 1)) := by
  unfold Function.IsFixedPt
  by_cases hloop : stratum.recursive = true
  · rw [← naive_succ, naive_succ (k + 1), h hloop, ← naive_succ, h hloop]
  · rw [naive_succ k]
    exact consequences_eq_of_not_recursive (hrecursive (by simpa using hloop)) _ _

/-- As long as no round is one to end with, the evaluation of a stratum is its rounds so far and
the rest. -/
theorem run_growStratum (hready : Ready catalog predicates outer) {k : Nat}
    (hk : k ≤ context.settings.maxRounds - 1)
    (hgoes : ∀ j < k, ¬Settles context stratum predicates outer j) :
    (growStratum context stratum predicates).run.run (opened outer predicates) =
      (rounds context predicates k >>= resume context stratum predicates k).run.run
        (opened outer predicates) := by
  induction k with
  | zero => rfl
  | succ k ih =>
    rw [ih (by omega) fun j hj => hgoes j (by omega), rounds, bind_assoc]
    refine run_bind_congr (ensures_rounds hready (growing_opened hready.coherent hready.nodup) k)
      fun rows after hafter => ?_
    have hgo : ¬(!stratum.recursive || rows.isEmpty) = true :=
      fun hstops => hgoes k (Nat.lt_succ_self k) (hafter.stops_iff.1 hstops)
    have hfuel : context.settings.maxRounds - 1 - k =
        context.settings.maxRounds - 1 - (k + 1) + 1 := by
      omega
    have hloop : iterate context stratum predicates (context.settings.maxRounds - 1 - k) (k + 1) rows =
        nextRound context predicates rows >>=
          iterate context stratum predicates (context.settings.maxRounds - 1 - (k + 1)) (k + 1 + 1) := by
      rw [hfuel, iterate, if_neg hgo]
    rw [resume, hloop, bind_assoc]
    rfl

end Evaluation

end Stratalog
