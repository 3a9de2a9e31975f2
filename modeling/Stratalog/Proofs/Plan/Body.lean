import Stratalog.Pattern.Engine
import Stratalog.Proofs.Plan.Solution
import Stratalog.Proofs.Store.Built

/-!
# Bodies and their tables

The plan of a well-formed body lists the assignments that satisfy the body, each once, whatever
sizes guided the order of its literals. The plans inside aggregates do so first, since an aggregate
folds the table of its own body.
-/

namespace Stratalog

open Evaluation Eval

variable {context : Context} {start : Workspace} {names : List String} {catalog : Catalog}
  {plan after : Plan} {P : Assignment → Prop} {sizeOf : SizeOf}

/-- Whether every literal of a body holds, where the atom at `deltaAt`, if one is given, reads the
growth of the round before. -/
def Workspace.Satisfies [PatternEngine] (workspace : Workspace) (render : Value → String)
    (body : List Literal)
    (deltaAt : Option Nat) (σ : Assignment) : Prop :=
  ∀ (i : Nat) (literal : Literal), body[i]? = some literal →
    literal.Holds render (workspace.denotes (deltaAt == some i)) σ

/-- Without growth a body is satisfied when each of its literals holds. -/
theorem Workspace.satisfies_none_iff [PatternEngine] {workspace : Workspace} {render : Value → String}
    {body : List Literal} {σ : Assignment} : workspace.Satisfies render body none σ ↔
      ∀ literal ∈ body, literal.Holds render (workspace.denotes false) σ := by
  constructor
  · intro h literal hliteral
    obtain ⟨i, hi, rfl⟩ := List.getElem_of_mem hliteral
    exact h i _ (List.getElem?_eq_getElem hi)
  · exact fun h i literal hliteral => h literal (List.mem_of_getElem? hliteral)

namespace Plan

variable [PatternEngine]

/-- Placing all that waits adds that every waiting literal holds. -/
theorem Solves.arrange (hconforms : start.Conforms catalog) {fuel : Nat} {waiting : List Waiting}
    (hfuel : waiting.length ≤ fuel) (h : Plan.arrange sizeOf fuel plan waiting = .ok after)
    (hwaiting : ∀ w ∈ waiting, w.Sound context start names catalog)
    (hplan : plan.Solves context start names P) :
    (∀ name, name ∈ after.vars ↔
        name ∈ plan.vars ∨ ∃ w ∈ waiting, name ∈ w.literal.scope) ∧
      after.Solves context start names fun σ => P σ ∧ ∀ w ∈ waiting, w.Holds context start σ := by
  induction fuel generalizing plan waiting P with
  | zero =>
    obtain rfl : waiting = [] := List.length_eq_zero_iff.1 (Nat.le_zero.1 hfuel)
    rw [Plan.arrange] at h
    cases h
    exact ⟨by simp, hplan.congr (by simp)⟩
  | succ fuel ih =>
    cases waiting with
    | nil =>
      rw [Plan.arrange] at h
      cases h
      exact ⟨by simp, hplan.congr (by simp)⟩
    | cons first others =>
      rw [Plan.arrange] at h
      · obtain ⟨⟨next, rest⟩, hadvance, h⟩ := bind_eq_ok.1 h
        obtain ⟨w, hperm, hplaced⟩ := advance_cases hadvance
        have hlength : rest.length ≤ fuel := by
          have := hperm.length_eq
          simp only [List.length_cons] at this hfuel
          omega
        have hw : w.Sound context start names catalog := hwaiting w (hperm.mem_iff.2 List.mem_cons_self)
        have hrest : ∀ other ∈ rest, other.Sound context start names catalog := fun other hother =>
          hwaiting other (hperm.mem_iff.2 (List.mem_cons_of_mem _ hother))
        obtain ⟨hvars, hsolves⟩ := ih hlength h hrest (hplan.placed hconforms hw hplaced)
        refine ⟨fun name => ?_, hsolves.congr fun σ => ?_⟩
        · simp only [hperm.mem_iff, List.exists_mem_cons_iff]
          rw [hvars, hplaced.mem_vars, or_assoc]
        · simp only [hperm.mem_iff, List.forall_mem_cons]
          rw [and_assoc]
      · simp

/-- The literals that wait are those of the body. -/
theorem waitingOf_eq_map (sizeOf : SizeOf) (body : List Literal) :
    waitingOf sizeOf body = body.map fun literal => ⟨literal, false, ofAggregate sizeOf literal⟩ := by
  induction body with
  | nil => rw [waitingOf, List.map_nil]
  | cons literal rest ih => rw [waitingOf, ih, List.map_cons]

/-- What waits for a well-formed literal is sound: the plan inside an aggregate solves its body. -/
theorem sound_waiting (hconforms : start.Conforms catalog) (literal : Literal) :
    literal.WellFormed catalog → (∀ read ∈ literal.reads, read.1 ∈ names) →
      Waiting.Sound context start names catalog ⟨literal, false, ofAggregate sizeOf literal⟩ := by
  induction literal using Literal.induction with
  | atom a => exact fun hwell hreads => ⟨hwell, hreads, by simp, by simp⟩
  | negated a => exact fun hwell hreads => ⟨hwell, hreads, by simp, by simp⟩
  | compare op left right => exact fun hwell hreads => ⟨hwell, hreads, by simp, by simp⟩
  | assign var expr => exact fun hwell hreads => ⟨hwell, hreads, by simp, by simp⟩
  | aggregate result function target groupBy body ih =>
    intro hwell hreads
    refine ⟨hwell, hreads, by simp, ?_⟩
    rintro _ _ _ _ _ heq inner hinner
    cases heq
    rw [Literal.WellFormed] at hwell
    have hbody := Literal.wellFormedAll_iff.1 hwell.1
    have hnames : ∀ literal ∈ body, ∀ read ∈ literal.reads, read.1 ∈ names :=
      fun literal hliteral read hread =>
        hreads (read.1, .aggregate) (Literal.mem_reads_aggregate hliteral hread)
    rw [ofAggregate, waitingOf_eq_map] at hinner
    obtain ⟨hvars, hsolves⟩ := solves_start.arrange hconforms (by simp) hinner
      (by
        intro w hw
        obtain ⟨literal, hliteral, rfl⟩ := List.mem_map.1 hw
        exact ih literal hliteral (hbody literal hliteral) (hnames literal hliteral))
    refine ⟨fun name => ?_, hsolves.congr fun σ => ?_⟩
    · rw [hvars, Literal.mem_scopeOfAll]
      simp
    · rw [Literal.holdsAll_iff]
      simp [Waiting.Holds]

/-- The literals of a body as they wait, each at its position. -/
theorem mem_waiting_ofBody {body : List Literal} {deltaAt : Option Nat} {w : Waiting} :
    w ∈ ((waitingOf sizeOf body).mapIdx fun i w => { w with delta := deltaAt == some i }) ↔
      ∃ i literal, body[i]? = some literal ∧
        w = ⟨literal, deltaAt == some i, ofAggregate sizeOf literal⟩ := by
  rw [waitingOf_eq_map, List.mem_iff_getElem?]
  simp only [List.getElem?_mapIdx, List.getElem?_map, Option.map_map, Option.map_eq_some_iff,
    Function.comp_apply]
  exact exists_congr fun i => exists_congr fun literal => and_congr_right fun _ => eq_comm

/-- The plan of a well-formed body solves that the body is satisfied, and binds its variables. -/
theorem solves_ofBody (hconforms : start.Conforms catalog) {body : List Literal}
    {deltaAt : Option Nat} (hbody : Literal.WellFormedAll catalog body)
    (hreads : ∀ read ∈ Literal.readsOfAll body, read.1 ∈ names)
    (hdelta : ∀ i, deltaAt = some i → ∃ atom, body[i]? = some (.atom atom))
    (h : Plan.ofBody sizeOf body deltaAt = .ok plan) :
    (∀ name, name ∈ plan.vars ↔ name ∈ Literal.scopeOfAll body) ∧
      plan.Solves context start names
        (start.Satisfies context.entities.render body deltaAt) := by
  have hsound : ∀ w ∈ ((waitingOf sizeOf body).mapIdx fun i w =>
      { w with delta := deltaAt == some i }), w.Sound context start names catalog := by
    intro w hw
    obtain ⟨i, literal, hliteral, rfl⟩ := mem_waiting_ofBody.1 hw
    have hmem : literal ∈ body := List.mem_of_getElem? hliteral
    have hread : ∀ read ∈ literal.reads, read.1 ∈ names :=
      fun read hread => hreads read (Literal.mem_readsOfAll hmem hread)
    have hplain : Waiting.Sound context start names catalog
        ⟨literal, false, ofAggregate sizeOf literal⟩ :=
      sound_waiting hconforms literal (Literal.wellFormedAll_iff.1 hbody literal hmem) hread
    obtain ⟨hwell, hnames, -, hinner⟩ := hplain
    refine ⟨hwell, hnames, fun hi => ?_, hinner⟩
    obtain ⟨atom, hatom⟩ := hdelta i (by simpa using hi)
    rw [hliteral] at hatom
    exact ⟨atom, Option.some.inj hatom⟩
  rw [Plan.ofBody] at h
  obtain ⟨hvars, hsolves⟩ := solves_start.arrange hconforms (by simp [waitingOf_eq_map]) h hsound
  refine ⟨fun name => ?_, hsolves.congr fun σ => ?_⟩
  · rw [hvars, Literal.mem_scopeOfAll]
    simp only [List.not_mem_nil, false_or]
    constructor
    · rintro ⟨w, hw, hname⟩
      obtain ⟨i, literal, hliteral, rfl⟩ := mem_waiting_ofBody.1 hw
      exact ⟨literal, List.mem_of_getElem? hliteral, hname⟩
    · rintro ⟨literal, hliteral, hname⟩
      obtain ⟨i, hi, rfl⟩ := List.getElem_of_mem hliteral
      exact ⟨_, mem_waiting_ofBody.2 ⟨i, _, List.getElem?_eq_getElem hi, rfl⟩, hname⟩
  · rw [true_and]
    constructor
    · exact fun hall i literal hliteral => hall _ (mem_waiting_ofBody.2 ⟨i, literal, hliteral, rfl⟩)
    · intro hsat w hw
      obtain ⟨i, literal, hliteral, rfl⟩ := mem_waiting_ofBody.1 hw
      exact hsat i literal hliteral

end Plan

namespace Evaluation

/-- Running a plan that solves a property gives a table that lists it. -/
theorem ensures_runPlan (hplan : plan.Solves context start names P) {workspace : Workspace}
    (hkept : start.Kept workspace) :
    (runPlan context plan).Ensures workspace
      (fun table after => start.Kept after ∧ table.vars = plan.vars ∧ table.Lists P)
      fun fault after => start.Kept after ∧ start.Refuses names fault := by
  rw [runPlan, ensures_bind]
  refine (hplan.yields workspace hkept).mono (fun rows after hrows => ?_) fun _ _ => id
  obtain ⟨hafter, hlists⟩ := hrows
  have hfits : (⟨plan.vars, rows⟩ : BindingTable).fits = true := by
    simpa [BindingTable.fits] using hlists.length
  rw [ensures_bind]
  refine ensures_noteBounds hfits ?_
  rw [ensures_pure]
  exact ⟨hafter, rfl, hlists⟩

end Evaluation

end Stratalog
