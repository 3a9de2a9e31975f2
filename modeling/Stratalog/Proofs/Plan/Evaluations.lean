import Stratalog.Proofs.Plan.Body
import Stratalog.Proofs.Typing.Decision
import Stratalog.Proofs.Typing.Definedness

/-!
# The expressions that a plan evaluates

A plan evaluates expressions in its filters and bindings, and for the targets of its aggregates. When
the body is typed and what it reads is accepted, it does so on rows of typed values only: a row lists
an assignment under which the literals placed so far hold, and these give every variable bound so far a
value of its type. So an expression has a value for the row, or one of its divisors is zero.

This is an invariant of placing one literal after another, and holds inside aggregates first.
-/

namespace Stratalog

open Evaluation Eval

/-- The expressions that a test evaluates. -/
def RowTest.sides : RowTest → List SlotExpr
  | .compare _ left right => [left, right]
  | .matches left _ => [left]

namespace Evaluation

mutual

/-- The expressions that taking a step evaluates, each with a row that it is evaluated for. -/
inductive StepMeets (context : Context) :
    Workspace → List Row → Step → SlotExpr → Row → Prop
  | filter {workspace : Workspace} {rows : List Row} {test : RowTest} {expr : SlotExpr} {row : Row}
      (hside : expr ∈ test.sides) (hrow : row ∈ rows) :
      StepMeets context workspace rows (.filter test) expr row
  | bind {workspace : Workspace} {rows : List Row} {expr : SlotExpr} {row : Row}
      (hrow : row ∈ rows) : StepMeets context workspace rows (.bind expr) expr row
  | inside {workspace : Workspace} {rows : List Row} {label : String} {function : FoldFunction}
      {inner : List Step} {keys : List Nat} {target : Option SlotExpr} {args : List ArgSlot}
      {expr : SlotExpr} {row : Row} (hinner : StepsMeet context workspace [[]] inner expr row) :
      StepMeets context workspace rows (.fold label function inner keys target args) expr row
  | target {workspace after : Workspace} {rows table : List Row} {label : String}
      {function : FoldFunction} {inner : List Step} {keys : List Nat} {args : List ArgSlot}
      {expr : SlotExpr} {row : Row}
      (hinner : (runSteps context [[]] inner).run.run workspace = (.ok table, after))
      (hrow : row ∈ table) :
      StepMeets context workspace rows (.fold label function inner keys (some expr) args) expr row

/-- The expressions that taking steps in turn evaluates. -/
inductive StepsMeet (context : Context) :
    Workspace → List Row → List Step → SlotExpr → Row → Prop
  | here {workspace : Workspace} {rows : List Row} {step : Step} {rest : List Step}
      {expr : SlotExpr} {row : Row} (hrows : rows ≠ [])
      (hstep : StepMeets context workspace rows step expr row) :
      StepsMeet context workspace rows (step :: rest) expr row
  | later {workspace after : Workspace} {rows next : List Row} {step : Step} {rest : List Step}
      {expr : SlotExpr} {row : Row} (hrows : rows ≠ [])
      (hstep : (runStep context rows step).run.run workspace = (.ok next, after))
      (hrest : StepsMeet context after next rest expr row) :
      StepsMeet context workspace rows (step :: rest) expr row

end

variable {context : Context} {workspace after : Workspace} {rows : List Row} {steps : List Step}
  {step : Step} {expr : SlotExpr} {row : Row}

/-- Steps with one more after them evaluate what they evaluate, and what the step does on their rows. -/
theorem StepsMeet.of_concat (h : StepsMeet context workspace rows (steps ++ [step]) expr row) :
    StepsMeet context workspace rows steps expr row ∨ ∃ found after,
      (runSteps context rows steps).run.run workspace = (.ok found, after) ∧
        StepMeets context after found step expr row := by
  induction steps generalizing workspace rows with
  | nil =>
    rw [List.nil_append] at h
    cases h with
    | here _ hstep => exact Or.inr ⟨rows, workspace, by rw [runSteps]; rfl, hstep⟩
    | later _ _ hrest => cases hrest
  | cons first rest ih =>
    rw [List.cons_append] at h
    cases h with
    | here hrows hstep => exact Or.inl (.here hrows hstep)
    | @later _ after _ next _ _ _ _ hrows hstep hrest =>
      rcases ih hrest with hrest | ⟨found, last, hrun, hlast⟩
      · exact Or.inl (.later hrows hstep hrest)
      · refine Or.inr ⟨found, last, ?_, hlast⟩
        rw [runSteps, if_neg (by simpa using hrows), run_bind, hstep]
        exact hrun

end Evaluation

/-- Whether the expressions that running a plan evaluates are defined, in every workspace kept from a
start. -/
def Plan.Defined (context : Context) (start : Workspace) (plan : Plan) : Prop :=
  ∀ workspace, start.Kept workspace → ∀ expr row,
    StepsMeet context workspace [[]] plan.steps expr row →
      expr.Defined context.entities.render row

/-- Whether what is read under some names is accepted. -/
def Workspace.ConformsAt (workspace : Workspace) (catalog : Catalog) (names : List String) : Prop :=
  ∀ name ∈ names, ∀ delta, (workspace.denotes delta).ConformsAt catalog name

variable {context : Context} {start : Workspace} {names : List String} {catalog : Catalog}
  {plan after : Plan} {P : Assignment → Prop} {Γ : Types} {sizeOf : SizeOf}

/-- What is known of a typed waiting literal: it is sound and well typed, and the expressions of the
plan inside an aggregate are defined. -/
structure Waiting.Typed [PatternEngine] (context : Context) (start : Workspace) (names : List String)
    (catalog : Catalog) (Γ : Types) (w : Waiting) : Prop where
  sound : w.Sound context start names catalog
  wellTyped : w.literal.WellTyped catalog Γ
  inner : ∀ inner, w.inner = .ok inner → inner.Defined context start

/-- A waiting literal that holds gives values of the right types to the variables it binds. -/
theorem Waiting.Typed.fits [PatternEngine] {w : Waiting} (h : w.Typed context start names catalog Γ)
    (hnames : start.ConformsAt catalog names) {σ : Assignment} (hholds : w.Holds context start σ) :
    w.literal.Fits Γ σ :=
  Literal.WellTyped.fits w.literal h.wellTyped
    (fun read hread => hnames read.1 (h.sound.reads read hread) w.delta) hholds

namespace Plan

/-- Variables bound by placing a literal were bound, or the literal joins them, or it offers them an
expression over variables that were bound. -/
theorem Placed.binds_cases [PatternEngine] {w : Waiting} (h : plan.Placed w after) {name : String}
    (hname : name ∈ after.vars) : name ∈ plan.vars ∨
      (w.literal.isJoin = true ∧ name ∈ w.literal.scope) ∨
        ∃ expr, w.literal.Offers name expr ∧ ∀ other ∈ expr.vars, other ∈ plan.vars := by
  cases h with
  | test hready hpush =>
    rw [vars_of_pushTest hpush] at hname
    exact Or.inl hname
  | @binding _ var expr hbinding hpush =>
    obtain ⟨hoffer, -, hready⟩ := Literal.offers_of_binding hbinding
    obtain ⟨_, -, rfl⟩ := map_eq_ok.1 hpush
    rcases List.mem_append.1 hname with hname | hname
    · exact Or.inl hname
    · obtain rfl : name = var := by simpa using hname
      exact Or.inr (Or.inr ⟨expr, hoffer, fun other hother => by
        simpa [binds] using hready other hother⟩)
  | negation hliteral hready =>
    change name ∈ plan.vars ++ [] at hname
    exact Or.inl (by simpa using hname)
  | join hjoin hpush =>
    rcases ((Placed.join hjoin hpush).mem_vars name).1 hname with hname | hname
    · exact Or.inl hname
    · exact Or.inr (Or.inl ⟨hjoin, hname⟩)

/-- Placing a literal keeps the values of the variables bound so far typed. -/
theorem Placed.fits [PatternEngine] {w : Waiting} (h : plan.Placed w after) {σ : Assignment}
    (hfits : ∀ name ∈ plan.vars, σ.Fits Γ name) (hliteral : w.literal.Fits Γ σ) :
    ∀ name ∈ after.vars, σ.Fits Γ name := by
  intro name hname
  rcases h.binds_cases hname with hold | ⟨hjoin, hscope⟩ | ⟨expr, hoffer, hvars⟩
  · exact hfits name hold
  · exact hliteral.1 hjoin name hscope
  · exact hliteral.2 name expr hoffer fun other hother => hfits other (hvars other hother)

/-- A plan with one more step is defined when the step is, on the rows before it. -/
theorem Defined.push (h : plan.Defined context start) (hplan : plan.Solves context start names P)
    {step : Step} (vars : List String)
    (hstep : ∀ workspace rows expr row, start.Kept workspace →
      (⟨plan.vars, rows⟩ : BindingTable).Lists P → StepMeets context workspace rows step expr row →
        expr.Defined context.entities.render row) :
    (plan.push step vars).Defined context start := by
  intro workspace hkept expr row hmeets
  rcases hmeets.of_concat with hmeets | ⟨rows, after, hrun, hmeets⟩
  · exact h workspace hkept expr row hmeets
  · obtain ⟨hafter, hlists⟩ := (hplan.yields workspace hkept).of_ok hrun
    exact hstep after rows expr row hafter hlists hmeets

/-- The sides of a compiled test of a well-typed comparison are defined. -/
theorem defined_compile_test [PatternEngine] {vars : List String} {op : CompareOp} {left right : Expr}
    {test : RowTest} (h : op.WellTyped Γ left right)
    (hcompile : RowTest.compile vars.idxOf? op left right = .ok test) {σ : Assignment}
    (hfits : ∀ name ∈ (Literal.compare op left right).scope, σ.Fits Γ name)
    (render : Value → String) : ∀ expr ∈ test.sides, expr.Defined render (vars.map σ) := by
  obtain ⟨⟨leftType, hleft⟩, rightType, hright⟩ := h.exists_hasType
  rw [Literal.scope, List.forall_mem_append] at hfits
  unfold RowTest.compile at hcompile
  split at hcompile
  next =>
    split at hcompile
    next =>
      obtain ⟨a, ha, rfl⟩ := map_eq_ok.1 hcompile
      rw [RowTest.sides, List.forall_mem_singleton]
      exact hleft.defined render hfits.1 ha
    next => cases hcompile
  next => cases hcompile
  next =>
    obtain ⟨a, ha, hcompile⟩ := bind_eq_ok.1 hcompile
    obtain ⟨b, hb, hcompile⟩ := bind_eq_ok.1 hcompile
    cases hcompile
    rw [RowTest.sides, List.forall_mem_cons, List.forall_mem_singleton]
    exact ⟨hleft.defined render hfits.1 ha, hright.defined render hfits.2 hb⟩

/-- Placing a test leaves the plan defined. -/
theorem Defined.pushTest [PatternEngine] (h : plan.Defined context start)
    (hplan : plan.Solves context start names P)
    (hfits : ∀ σ, P σ → ∀ name ∈ plan.vars, σ.Fits Γ name) {literal : Literal}
    (hwell : literal.WellTyped catalog Γ) (hready : literal.isReadyTest plan.binds = true)
    (hpush : plan.pushTest literal = .ok after) : after.Defined context start := by
  have hscope (σ : Assignment) (hσ : P σ) : ∀ name ∈ literal.scope, σ.Fits Γ name :=
    fun name hname => hfits σ hσ name (mem_of_isReadyTest hready name hname)
  cases literal with
  | compare op left right =>
    rw [Literal.WellTyped] at hwell
    obtain ⟨test, htest, rfl⟩ := map_eq_ok.1 hpush
    refine h.push hplan [] fun workspace rows expr row _ hlists hmeets => ?_
    cases hmeets with
    | filter hside hrow =>
      rw [hlists.eq_map_ofRow hrow]
      have hσ := (hlists.mem_iff (hlists.length row hrow)).1 hrow
      exact defined_compile_test hwell htest (hscope _ hσ) _ expr hside
  | assign var expr =>
    rw [Literal.WellTyped] at hwell
    obtain ⟨type, hvar, htype⟩ := hwell
    obtain ⟨compiled, hcompiled, rfl⟩ := map_eq_ok.1 hpush
    obtain ⟨column, hcolumn⟩ := Option.isSome_iff_exists.1
      (List.isSome_idxOf?.2 (mem_of_isReadyTest hready var List.mem_cons_self))
    have hlayout : plan.layout var = some column := hcolumn
    have hslot : SlotExpr.compile plan.vars.idxOf? (.var var) = .ok (.slot column) := by
      rw [SlotExpr.compile, hcolumn]
    refine h.push hplan [] fun workspace rows expr row _ hlists hmeets => ?_
    rw [hlayout, Option.getD_some] at hmeets
    cases hmeets with
    | filter hside hrow =>
      rw [hlists.eq_map_ofRow hrow]
      have hσ := hscope _ ((hlists.mem_iff (hlists.length row hrow)).1 hrow)
      rw [Literal.scope, List.forall_mem_cons] at hσ
      rw [RowTest.equality, RowTest.sides, List.mem_cons, List.mem_singleton] at hside
      rcases hside with rfl | rfl
      · exact (Expr.HasType.var hvar).defined _ (by simpa [Expr.vars] using hσ.1) hslot
      · exact htype.defined _ hσ.2 hcompiled
  | atom a => cases hready
  | negated a => cases hready
  | aggregate => cases hready

/-- Placing a binding leaves the plan defined. -/
theorem Defined.pushBinding [PatternEngine] (h : plan.Defined context start)
    (hplan : plan.Solves context start names P)
    (hfits : ∀ σ, P σ → ∀ name ∈ plan.vars, σ.Fits Γ name) {literal : Literal}
    (hwell : literal.WellTyped catalog Γ) {var : String} {expr : Expr}
    (hbinding : literal.binding? plan.binds = some (var, expr))
    (hpush : plan.pushBinding var expr = .ok after) : after.Defined context start := by
  obtain ⟨hoffer, -, hready⟩ := Literal.offers_of_binding hbinding
  obtain ⟨type, -, htype⟩ := hwell.hasType_of_offers hoffer
  obtain ⟨compiled, hcompiled, rfl⟩ := map_eq_ok.1 hpush
  refine h.push hplan [var] fun workspace rows expr row _ hlists hmeets => ?_
  cases hmeets with
  | bind hrow =>
    rw [hlists.eq_map_ofRow hrow]
    have hσ := hfits _ ((hlists.mem_iff (hlists.length row hrow)).1 hrow)
    exact htype.defined _ (fun name hname => hσ name (by simpa [binds] using hready name hname))
      hcompiled

/-- Placing an atom or aggregate leaves the plan defined: the rows that the target of an aggregate is
evaluated for list assignments that satisfy the inner body. -/
theorem Defined.pushJoin [PatternEngine] (h : plan.Defined context start)
    (hplan : plan.Solves context start names P)
    (hnames : start.ConformsAt catalog names) {w : Waiting}
    (hw : w.Typed context start names catalog Γ) (hjoin : w.literal.isJoin = true)
    (hpush : plan.pushJoin w = .ok after) : after.Defined context start := by
  cases hliteral : w.literal with
  | atom atom =>
    simp only [Plan.pushJoin, hliteral] at hpush
    cases hpush
    exact h.push hplan _ fun workspace rows expr row _ _ hmeets => by cases hmeets
  | aggregate result function target groupBy body =>
    simp only [Plan.pushJoin, hliteral] at hpush
    obtain ⟨inner, hinner, hpush⟩ := bind_eq_ok.1 hpush
    unfold pushAggregate at hpush
    obtain ⟨keys, -, hpush⟩ := bind_eq_ok.1 hpush
    obtain ⟨compiled, hcompiled, hpush⟩ := bind_eq_ok.1 hpush
    cases hpush
    obtain ⟨-, hsolves⟩ := hw.sound.inner _ _ _ _ _ hliteral inner hinner
    refine h.push hplan _ fun workspace rows expr row hkept _ hmeets => ?_
    cases hmeets with
    | inside hmeets => exact hw.inner inner hinner workspace hkept expr row hmeets
    | target hrun hrow =>
      -- The rows inside list assignments of the inner body, which has a typing of its own.
      obtain ⟨-, hlists⟩ := (hsolves.yields workspace hkept).of_ok hrun
      have hτ := (hlists.mem_iff (hlists.length row hrow)).1 hrow
      have hwell := hw.wellTyped
      rw [hliteral] at hwell
      obtain ⟨Δ, htyping, -, type, htype, -⟩ := Literal.wellTyped_aggregate_iff.1 hwell
      cases target with
      | none => cases hcompiled
      | some found =>
        obtain ⟨_, hfound, heq⟩ := map_eq_ok.1 hcompiled
        cases heq
        obtain ⟨foundType, hfoundType⟩ := htype.exists_hasType found rfl
        rw [hlists.eq_map_ofRow hrow]
        refine hfoundType.defined _ (fun name _ => htyping.fits_of_holds (fun literal hmem =>
          ⟨_, fun read hread => hnames read.1 ?_ false, Literal.holdsAll_iff.1 hτ literal hmem⟩) name)
          hfound
        refine hw.sound.reads (read.1, .aggregate) ?_
        rw [hliteral]
        exact Literal.mem_reads_aggregate hmem hread
  | negated a => simp [hliteral, Literal.isJoin] at hjoin
  | compare op left right => simp [hliteral, Literal.isJoin] at hjoin
  | assign var expr => simp [hliteral, Literal.isJoin] at hjoin

/-- Placing a literal leaves the plan defined. -/
theorem Defined.placed [PatternEngine] (h : plan.Defined context start)
    (hplan : plan.Solves context start names P)
    (hnames : start.ConformsAt catalog names)
    (hfits : ∀ σ, P σ → ∀ name ∈ plan.vars, σ.Fits Γ name) {w : Waiting}
    (hw : w.Typed context start names catalog Γ) (hplaced : plan.Placed w after) :
    after.Defined context start := by
  cases hplaced with
  | test hready hpush => exact h.pushTest hplan hfits hw.wellTyped hready hpush
  | binding hbinding hpush => exact h.pushBinding hplan hfits hw.wellTyped hbinding hpush
  | negation => exact h.push hplan [] fun workspace rows expr row _ _ hmeets => by cases hmeets
  | join hjoin hpush => exact h.pushJoin hplan hnames hw hjoin hpush

/-- Placing all that waits leaves the plan defined. -/
theorem Defined.arrange [PatternEngine] (hconforms : start.Conforms catalog)
    (hnames : start.ConformsAt catalog names) {fuel : Nat} {waiting : List Waiting}
    (h : Plan.arrange sizeOf fuel plan waiting = .ok after)
    (hwaiting : ∀ w ∈ waiting, w.Typed context start names catalog Γ)
    (hplan : plan.Solves context start names P)
    (hfits : ∀ σ, P σ → ∀ name ∈ plan.vars, σ.Fits Γ name) (hdefined : plan.Defined context start) :
    after.Defined context start := by
  induction fuel generalizing plan waiting P with
  | zero =>
    cases waiting <;> rw [Plan.arrange] at h <;> first | cases h; exact hdefined | simp
  | succ fuel ih =>
    cases waiting with
    | nil =>
      rw [Plan.arrange] at h
      cases h
      exact hdefined
    | cons first others =>
      rw [Plan.arrange] at h
      · obtain ⟨⟨next, rest⟩, hadvance, h⟩ := bind_eq_ok.1 h
        obtain ⟨w, hperm, hplaced⟩ := advance_cases hadvance
        have hw := hwaiting w (hperm.mem_iff.2 List.mem_cons_self)
        refine ih h (fun other hother => hwaiting other (hperm.mem_iff.2 (List.mem_cons_of_mem _ hother)))
          (hplan.placed hconforms hw.sound hplaced) (fun σ hσ => ?_)
          (hdefined.placed hplan hnames hfits hw hplaced)
        exact hplaced.fits (hfits σ hσ.1) (hw.fits hnames hσ.2)
      · simp

/-- The plan without steps is defined. -/
theorem defined_start : Plan.Defined context start {} :=
  fun _ _ _ _ hmeets => by cases hmeets

/-- The plan inside an aggregate that waits is defined. -/
theorem typed_waiting [PatternEngine] (hconforms : start.Conforms catalog)
    (hnames : start.ConformsAt catalog names)
    (literal : Literal) : ∀ {Γ : Types}, literal.WellFormed catalog → literal.WellTyped catalog Γ →
      (∀ read ∈ literal.reads, read.1 ∈ names) →
        Waiting.Typed context start names catalog Γ ⟨literal, false, ofAggregate sizeOf literal⟩ := by
  have hother {literal : Literal} {Γ : Types} (hkind : literal.isAggregate = false)
      (hwell : literal.WellFormed catalog) (htyped : literal.WellTyped catalog Γ)
      (hreads : ∀ read ∈ literal.reads, read.1 ∈ names) :
      Waiting.Typed context start names catalog Γ
        ⟨literal, false, ofAggregate sizeOf literal⟩ := by
    have hempty : ofAggregate sizeOf literal = .ok {} := by
      cases literal with
      | aggregate => cases hkind
      | _ => rw [ofAggregate]; simp
    refine ⟨sound_waiting hconforms literal hwell hreads, htyped, fun inner hinner => ?_⟩
    cases hempty.symm.trans hinner
    exact defined_start
  induction literal using Literal.induction with
  | atom a => exact hother rfl
  | negated a => exact hother rfl
  | compare op left right => exact hother rfl
  | assign var expr => exact hother rfl
  | aggregate result function target groupBy body ih =>
    intro Γ hwell htyped hreads
    refine ⟨sound_waiting hconforms _ hwell hreads, htyped, fun inner hinner => ?_⟩
    rw [Literal.WellFormed] at hwell
    obtain ⟨Δ, htyping, -⟩ := Literal.wellTyped_aggregate_iff.1 htyped
    have hwaiting : ∀ w ∈ waitingOf sizeOf body, w.Typed context start names catalog Δ := by
      rw [waitingOf_eq_map]
      intro w hw
      obtain ⟨literal, hliteral, rfl⟩ := List.mem_map.1 hw
      refine ih literal hliteral (Literal.wellFormedAll_iff.1 hwell.1 literal hliteral)
        (htyping.typed literal hliteral) fun read hread => hreads (read.1, .aggregate) ?_
      exact Literal.mem_reads_aggregate hliteral hread
    rw [ofAggregate] at hinner
    exact Defined.arrange hconforms hnames hinner hwaiting solves_start (by simp) defined_start

/-- The plan of a checked body that reads accepted rows is defined. -/
theorem defined_ofBody [PatternEngine] (hconforms : start.Conforms catalog) {site : Site}
    {body : List Literal}
    {env : TypeEnv} (hbody : Typing.checkBody catalog site body = .ok env)
    (hnames : start.ConformsAt catalog ((Literal.readsOfAll body).map Prod.fst))
    {deltaAt : Option Nat} (hdelta : ∀ i, deltaAt = some i → ∃ atom, body[i]? = some (.atom atom))
    (h : Plan.ofBody sizeOf body deltaAt = .ok plan) : plan.Defined context start := by
  have htyping := Typing.isTyping_find? hbody
  have hwell := Literal.wellFormedAll_iff.1 (Typing.wellFormed_of_checkBody hbody).1
  have hwaiting : ∀ w ∈ ((waitingOf sizeOf body).mapIdx fun i w =>
      { w with delta := deltaAt == some i }),
        w.Typed context start ((Literal.readsOfAll body).map Prod.fst) catalog env.find? := by
    intro w hw
    obtain ⟨i, literal, hliteral, rfl⟩ := mem_waiting_ofBody.1 hw
    have hmem : literal ∈ body := List.mem_of_getElem? hliteral
    have hread : ∀ read ∈ literal.reads, read.1 ∈ (Literal.readsOfAll body).map Prod.fst :=
      fun read hread => List.mem_map_of_mem (Literal.mem_readsOfAll hmem hread)
    have hplain : Waiting.Typed context start _ catalog env.find?
        ⟨literal, false, ofAggregate sizeOf literal⟩ :=
      typed_waiting hconforms hnames literal (hwell literal hmem) (htyping.typed literal hmem) hread
    obtain ⟨⟨hform, hreads, -, hsolves⟩, htyped, hinner⟩ := hplain
    refine ⟨⟨hform, hreads, fun hi => ?_, hsolves⟩, htyped, hinner⟩
    obtain ⟨atom, hatom⟩ := hdelta i (by simpa using hi)
    rw [hliteral] at hatom
    exact ⟨atom, Option.some.inj hatom⟩
  rw [Plan.ofBody] at h
  exact Defined.arrange hconforms hnames h hwaiting solves_start (by simp) defined_start

end Plan

/-- The expressions that evaluating a body in a workspace evaluates, each with a row. The plan is the
one made for the sizes there. -/
def Evaluation.BodyMeets [PatternEngine] (context : Context) (workspace : Workspace) (body : List Literal)
    (deltaAt : Option Nat) (expr : SlotExpr) (row : Row) : Prop :=
  ∃ plan, Plan.ofBody (sizeIn workspace) body deltaAt = .ok plan ∧
    StepsMeet context workspace [[]] plan.steps expr row

/-- The expressions that evaluating a checked body evaluates are defined, provided what it reads is
accepted. -/
theorem Evaluation.BodyMeets.defined [PatternEngine] {workspace : Workspace} {body : List Literal}
    {deltaAt : Option Nat} {expr : SlotExpr} {row : Row}
    (h : BodyMeets context workspace body deltaAt expr row) (hcoherent : workspace.Coherent)
    (hconforms : workspace.Conforms catalog) {site : Site} {env : TypeEnv}
    (hbody : Typing.checkBody catalog site body = .ok env)
    (hnames : workspace.ConformsAt catalog ((Literal.readsOfAll body).map Prod.fst))
    (hdelta : ∀ i, deltaAt = some i → ∃ atom, body[i]? = some (.atom atom)) :
    expr.Defined context.entities.render row := by
  obtain ⟨plan, hplan, hmeets⟩ := h
  exact Plan.defined_ofBody hconforms hbody hnames hdelta hplan workspace
    (Workspace.Kept.refl hcoherent) expr row hmeets

end Stratalog
