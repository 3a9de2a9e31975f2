import Stratalog.Proofs.Plan.Body

/-!
# Planning does not get stuck

A closed and well-formed body can be ordered to its end, at every depth of aggregates, as soon as
everything its atoms read has a size. The check of a body binds in an order of its own; what counts
is that when no atom and no aggregate is left, every variable of the body that can be bound is
bound already, so that one of the literals left over is ready.
-/

namespace Stratalog

variable {plan : Plan} {sizeOf : SizeOf} {catalog : Catalog} {body : List Literal}
  {waiting : List Waiting}

/-- A comparison over bound variables with a pattern that parses compiles. -/
theorem RowTest.isOk_compile [PatternEngine] {vars : List String} {op : CompareOp} {left right : Expr}
    (hvars : ∀ name ∈ (Literal.compare op left right).scope, name ∈ vars)
    (hwell : (Literal.compare op left right).WellFormed catalog) :
    (RowTest.compile vars.idxOf? op left right).isOk = true := by
  rw [Literal.scope, List.forall_mem_append] at hvars
  have hleft : (SlotExpr.compile vars.idxOf? left).isOk = true :=
    (SlotExpr.isOk_compile _ left).2 fun name hname => List.isSome_idxOf?.2 (hvars.1 name hname)
  have hright : (SlotExpr.compile vars.idxOf? right).isOk = true :=
    (SlotExpr.isOk_compile _ right).2 fun name hname => List.isSome_idxOf?.2 (hvars.2 name hname)
  obtain ⟨a, ha⟩ := isOk_iff.1 hleft
  obtain ⟨b, hb⟩ := isOk_iff.1 hright
  rw [Literal.WellFormed] at hwell
  by_cases hop : op = .matches
  · subst hop
    obtain ⟨text, rfl, hpattern⟩ := hwell rfl
    obtain ⟨pattern, hparse⟩ := Option.isSome_iff_exists.1 hpattern
    simp only [compile, hparse, isOk_map]
    exact hleft
  · have hcompile : RowTest.compile vars.idxOf? op left right = .ok (.compare op a b) := by
      cases op <;> first
        | exact absurd rfl hop
        | simp only [compile, ha, hb]; rfl
    rw [hcompile]
    rfl

namespace Plan

/-- A waiting literal that can be placed once its turn comes: it is well formed, what it reads has
a size, and the body of an aggregate was planned. -/
structure Placeable [PatternEngine] (sizeOf : SizeOf) (catalog : Catalog) (w : Waiting) : Prop where
  wellFormed : w.literal.WellFormed catalog
  size : ∀ atom, w.literal = .atom atom → (sizeOf atom.predicate w.delta).isOk = true
  inner : ∀ result function target groupBy body,
    w.literal = .aggregate result function target groupBy body →
      ∃ inner, w.inner = .ok inner ∧ ∀ name, name ∈ Literal.scopeOfAll body → name ∈ inner.vars

/-- The literals of a body that are not waiting have their variables bound. -/
def Covers (body : List Literal) (waiting : List Waiting) (plan : Plan) : Prop :=
  (∀ w ∈ waiting, w.literal ∈ body) ∧
    ∀ literal ∈ body, (∃ w ∈ waiting, w.literal = literal) ∨
      ∀ name ∈ literal.scope, name ∈ plan.vars

/-- A test that is ready can be placed. -/
theorem isOk_pushTest [PatternEngine] {literal : Literal} (hready : literal.isReadyTest plan.binds = true)
    (hwell : literal.WellFormed catalog) : (plan.pushTest literal).isOk = true := by
  have hvars := mem_of_isReadyTest hready
  cases literal with
  | compare op left right =>
    rw [pushTest, isOk_map]
    exact RowTest.isOk_compile hvars hwell
  | assign var expr =>
    rw [pushTest, isOk_map]
    refine (SlotExpr.isOk_compile _ expr).2 fun name hname => ?_
    exact List.isSome_idxOf?.2 (hvars name (List.mem_cons_of_mem _ hname))
  | atom a => cases hready
  | negated a => cases hready
  | aggregate => cases hready

/-- A binding that was found can be placed. -/
theorem isOk_pushBinding {literal : Literal} {var : String} {expr : Expr}
    (h : literal.binding? plan.binds = some (var, expr)) :
    (plan.pushBinding var expr).isOk = true := by
  obtain ⟨-, -, hready⟩ := Literal.offers_of_binding h
  rw [pushBinding, isOk_map]
  refine (SlotExpr.isOk_compile _ expr).2 fun name hname => List.isSome_idxOf?.2 ?_
  simpa [binds] using hready name hname

/-- Grouping variables that the body of an aggregate binds have columns. -/
theorem isOk_groupColumns {result : String} {inner : Plan} {groupBy : List String}
    (h : ∀ name ∈ groupBy, name ∈ inner.vars) :
    (inner.groupColumns result groupBy).isOk = true := by
  induction groupBy with
  | nil => rfl
  | cons name rest ih =>
    obtain ⟨hname, hrest⟩ := List.forall_mem_cons.1 h
    obtain ⟨column, hcolumn⟩ := Option.isSome_iff_exists.1 (List.isSome_idxOf?.2 hname)
    have hlayout : inner.layout name = some column := hcolumn
    rw [groupColumns, hlayout, isOk_map]
    exact ih hrest

/-- An atom or an aggregate can be placed. -/
theorem isOk_pushJoin [PatternEngine] (plan : Plan) {w : Waiting} (h : Placeable sizeOf catalog w) :
    (plan.pushJoin w).isOk = true := by
  unfold pushJoin
  split
  next => rfl
  next result function target groupBy inside hliteral =>
    obtain ⟨inner, hinner, hvars⟩ := h.inner _ _ _ _ _ hliteral
    have hwell := h.wellFormed
    rw [hliteral, Literal.WellFormed] at hwell
    obtain ⟨-, -, hgroup, htarget⟩ := hwell
    have hkeys : (inner.groupColumns result groupBy).isOk = true :=
      isOk_groupColumns fun name hname => hvars name (hgroup name hname)
    have hcompile : (inner.compileTarget target).isOk = true := by
      cases target with
      | none => rfl
      | some expr =>
        rw [compileTarget, isOk_map]
        refine (SlotExpr.isOk_compile _ expr).2 fun name hname => List.isSome_idxOf?.2 ?_
        exact hvars name (htarget expr rfl name hname)
    obtain ⟨keys, hkeys⟩ := isOk_iff.1 hkeys
    obtain ⟨compiled, hcompile⟩ := isOk_iff.1 hcompile
    rw [hinner, isOk_bind_iff]
    refine ⟨inner, rfl, ?_⟩
    rw [pushAggregate, isOk_bind_iff]
    refine ⟨keys, hkeys, ?_⟩
    rw [isOk_bind_iff]
    exact ⟨compiled, hcompile, rfl⟩
  next => rfl

/-- Literals whose reads have sizes have scores. -/
theorem isOk_scores [PatternEngine] (plan : Plan) (h : ∀ w ∈ waiting, Placeable sizeOf catalog w) :
    (plan.scores sizeOf waiting).isOk = true := by
  induction waiting with
  | nil => rfl
  | cons w rest ih =>
    obtain ⟨hw, hrest⟩ := List.forall_mem_cons.1 h
    have hscore : (plan.score sizeOf w).isOk = true := by
      unfold score
      split
      next atom hliteral =>
        rw [isOk_map]
        exact hw.size atom hliteral
      next => rfl
      next => rfl
    obtain ⟨score, hscore⟩ := isOk_iff.1 hscore
    obtain ⟨others, hothers⟩ := isOk_iff.1 (ih hrest)
    rw [scores, isOk_bind_iff]
    refine ⟨score, hscore, ?_⟩
    rw [isOk_bind_iff]
    exact ⟨others, hothers, rfl⟩

/-- When no atom or aggregate waits and no waiting literal can bind, everything bound by the body
is bound by the plan. -/
theorem Covers.mem_of_bound (hcovers : Covers body waiting plan)
    (hjoin : ∀ w ∈ waiting, w.literal.isJoin = false)
    (hbinding : ∀ w ∈ waiting, (w.literal.binding? plan.binds).isSome = false) {name : String}
    (h : Literal.Bound body name) : name ∈ plan.vars := by
  induction h with
  | join hmem hkind hvar =>
    rcases hcovers.2 _ hmem with ⟨w, hw, rfl⟩ | hvars
    · rw [hjoin w hw] at hkind
      cases hkind
    · exact hvars _ hvar
  | @offer literal var expr hmem hoffer _ ih =>
    rcases hcovers.2 literal hmem with ⟨w, hw, rfl⟩ | hvars
    · by_contra hnew
      have hsome : (w.literal.binding? plan.binds).isSome = true :=
        Literal.isSome_binding hoffer (by simpa [binds] using hnew) fun name hname => by
          simpa [binds] using ih name hname
      rw [hbinding w hw] at hsome
      cases hsome
    · exact hvars var ((Literal.mem_scope_of_offers hoffer var).2 (Or.inl rfl))

/-- A literal other than an atom or aggregate is ready once its variables are bound. -/
theorem ready_of_mem {literal : Literal} (hjoin : literal.isJoin = false)
    (hvars : ∀ name ∈ literal.scope, name ∈ plan.vars) :
    literal.isReadyTest plan.binds = true ∨ literal.isReadyNegation plan.binds = true := by
  have hbinds : ∀ name ∈ literal.scope, plan.binds name = true := fun name hname => by
    simpa [binds] using hvars name hname
  cases literal with
  | compare op left right =>
    refine Or.inl ?_
    simp only [Literal.scope, List.forall_mem_append] at hbinds
    simpa [Literal.isReadyTest, Literal.ready] using hbinds
  | assign var expr =>
    refine Or.inl ?_
    simp only [Literal.scope, List.forall_mem_cons] at hbinds
    simpa [Literal.isReadyTest, Literal.ready] using hbinds
  | negated a =>
    refine Or.inr ?_
    simpa [Literal.isReadyNegation, Literal.scope] using hbinds
  | atom a => cases hjoin
  | aggregate => cases hjoin

/-- Where there is no best score no atom or aggregate waits. -/
theorem isJoin_eq_false_of_best {scores : List (Option Score)}
    (h : plan.scores sizeOf waiting = .ok scores) (hbest : Score.best? scores = none) :
    ∀ w ∈ waiting, w.literal.isJoin = false := by
  intro w hw
  have hall := forall₂_scores h
  obtain ⟨i, hi, rfl⟩ := List.getElem_of_mem hw
  have hi' : i < scores.length := hall.length_eq ▸ hi
  have hnone : scores[i] = none := eq_none_of_best hbest _ (List.getElem_mem hi')
  have hiff := isSome_score_iff ((List.forall₂_iff_get.1 hall).2 i hi hi')
  rw [List.get_eq_getElem, List.get_eq_getElem, hnone] at hiff
  simpa using hiff

/-- Where no atom or aggregate waits and nothing can bind, every literal waiting of a closed body is
ready. -/
theorem ready_of_closed (hclosed : Literal.Closed body) (hcovers : Covers body waiting plan)
    (hjoin : ∀ w ∈ waiting, w.literal.isJoin = false)
    (hbinding : ∀ w ∈ waiting, (w.literal.binding? plan.binds).isSome = false) {w : Waiting}
    (hw : w ∈ waiting) : w.literal.isReadyTest plan.binds = true ∨
      w.literal.isReadyNegation plan.binds = true :=
  ready_of_mem (hjoin w hw) fun name hname => hcovers.mem_of_bound hjoin hbinding
    (hclosed name (Literal.mem_scopeOfAll.2 ⟨_, hcovers.1 w hw, hname⟩))

variable [PatternEngine]

/-- As long as a closed body has literals waiting, one of them can be placed. -/
theorem isOk_advance (hclosed : Literal.Closed body) (hcovers : Covers body waiting plan)
    (hplaceable : ∀ w ∈ waiting, Placeable sizeOf catalog w) (hne : waiting ≠ []) :
    (plan.advance sizeOf waiting).isOk = true := by
  unfold advance
  split
  next w rest htest =>
    obtain ⟨hready, hperm⟩ := Typing.extract?_eq_some htest
    have hw := hplaceable w (hperm.mem_iff.2 List.mem_cons_self)
    obtain ⟨next, hnext⟩ := isOk_iff.1 (isOk_pushTest hready hw.wellFormed)
    rw [isOk_bind_iff]
    exact ⟨next, hnext, rfl⟩
  next htest =>
  split
  next w rest hbinding =>
    split
    next var expr hfound =>
      obtain ⟨next, hnext⟩ := isOk_iff.1 (isOk_pushBinding hfound)
      rw [isOk_bind_iff]
      exact ⟨next, hnext, rfl⟩
    next => rfl
  next hbinding =>
  split
  next w rest hnegation => split <;> rfl
  next hnegation =>
  obtain ⟨scores, hscores⟩ := isOk_iff.1 (isOk_scores plan hplaceable)
  rw [isOk_bind_iff]
  refine ⟨scores, hscores, ?_⟩
  split
  next hbest =>
    exfalso
    obtain ⟨w, hw⟩ := List.exists_mem_of_ne_nil waiting hne
    rcases ready_of_closed hclosed hcovers (isJoin_eq_false_of_best hscores hbest)
      (Typing.extract?_eq_none.1 hbinding) hw with hready | hready
    · rw [Typing.extract?_eq_none.1 htest w hw] at hready
      cases hready
    · rw [Typing.extract?_eq_none.1 hnegation w hw] at hready
      cases hready
  next best hbest =>
    obtain ⟨scored, others, hscored, hperm, -⟩ := exists_extract?_of_best hscores hbest
    have hmem : scored.1 ∈ waiting := hperm.mem_iff.2 List.mem_cons_self
    obtain ⟨next, hnext⟩ := isOk_iff.1 (isOk_pushJoin plan (hplaceable _ hmem))
    rw [hscored, isOk_bind_iff]
    exact ⟨next, hnext, rfl⟩

/-- A closed body can be ordered to its end. -/
theorem isOk_arrange (hclosed : Literal.Closed body) {fuel : Nat}
    (hfuel : waiting.length ≤ fuel) (hcovers : Covers body waiting plan)
    (hplaceable : ∀ w ∈ waiting, Placeable sizeOf catalog w) :
    ∃ after, arrange sizeOf fuel plan waiting = .ok after ∧
      ∀ name ∈ Literal.scopeOfAll body, name ∈ after.vars := by
  induction fuel generalizing plan waiting with
  | zero =>
    obtain rfl : waiting = [] := List.length_eq_zero_iff.1 (Nat.le_zero.1 hfuel)
    refine ⟨plan, by rw [arrange], fun name hname => ?_⟩
    obtain ⟨literal, hliteral, hname⟩ := Literal.mem_scopeOfAll.1 hname
    rcases hcovers.2 literal hliteral with ⟨w, hw, -⟩ | hvars
    · exact absurd hw List.not_mem_nil
    · exact hvars name hname
  | succ fuel ih =>
    cases hwaiting : waiting with
    | nil =>
      refine ⟨plan, by rw [arrange], fun name hname => ?_⟩
      obtain ⟨literal, hliteral, hname⟩ := Literal.mem_scopeOfAll.1 hname
      rcases hcovers.2 literal hliteral with ⟨w, hw, -⟩ | hvars
      · rw [hwaiting] at hw
        exact absurd hw List.not_mem_nil
      · exact hvars name hname
    | cons first others =>
      rw [← hwaiting]
      have hne : waiting ≠ [] := by simp [hwaiting]
      obtain ⟨⟨next, rest⟩, hadvance⟩ := isOk_iff.1 (isOk_advance hclosed hcovers hplaceable hne)
      obtain ⟨w, hperm, hplaced⟩ := advance_cases hadvance
      have hlength : rest.length ≤ fuel := by
        have := hperm.length_eq
        simp only [List.length_cons] at this
        omega
      have hnext : Covers body rest next := by
        refine ⟨fun other hother => hcovers.1 other
          (hperm.mem_iff.2 (List.mem_cons_of_mem _ hother)), fun literal hliteral => ?_⟩
        rcases hcovers.2 literal hliteral with ⟨other, hother, rfl⟩ | hvars
        · rcases List.mem_cons.1 (hperm.mem_iff.1 hother) with rfl | hother
          · exact Or.inr fun name hname => (hplaced.mem_vars name).2 (Or.inr hname)
          · exact Or.inl ⟨other, hother, rfl⟩
        · exact Or.inr fun name hname => (hplaced.mem_vars name).2 (Or.inl (hvars name hname))
      obtain ⟨after, hafter, hvars⟩ := ih hlength hnext fun other hother =>
        hplaceable other (hperm.mem_iff.2 (List.mem_cons_of_mem _ hother))
      refine ⟨after, ?_, hvars⟩
      rw [arrange]
      · rw [hadvance]
        exact hafter
      · exact hne

/-- A well-formed literal whose reads have sizes can be placed: the body of an aggregate can be
ordered to its end. -/
theorem placeable_waiting (literal : Literal) : literal.WellFormed catalog →
    (∀ read ∈ literal.reads, ∀ delta, (sizeOf read.1 delta).isOk = true) →
      ∀ delta, Placeable sizeOf catalog ⟨literal, delta, ofAggregate sizeOf literal⟩ := by
  induction literal using Literal.induction with
  | atom a =>
    refine fun hwell hsize delta => ⟨hwell, fun atom heq => ?_, by simp⟩
    cases heq
    exact hsize (a.predicate, .positive) (by simp [Literal.reads]) delta
  | negated a => exact fun hwell _ _ => ⟨hwell, by simp, by simp⟩
  | compare op left right => exact fun hwell _ _ => ⟨hwell, by simp, by simp⟩
  | assign var expr => exact fun hwell _ _ => ⟨hwell, by simp, by simp⟩
  | aggregate result function target groupBy inside ih =>
    intro hwell hsize delta
    refine ⟨hwell, by simp, ?_⟩
    rintro _ _ _ _ _ heq
    cases heq
    rw [Literal.WellFormed] at hwell
    obtain ⟨hinside, hclosed, -⟩ := hwell
    have hplaceable : ∀ w ∈ waitingOf sizeOf inside, Placeable sizeOf catalog w := by
      rw [waitingOf_eq_map]
      intro w hw
      obtain ⟨literal, hliteral, rfl⟩ := List.mem_map.1 hw
      refine ih literal hliteral (Literal.wellFormedAll_iff.1 hinside literal hliteral)
        (fun read hread => ?_) false
      exact hsize (read.1, .aggregate) (Literal.mem_reads_aggregate hliteral hread)
    have hcovers : Covers inside (waitingOf sizeOf inside) {} := by
      rw [waitingOf_eq_map]
      exact ⟨by simp, fun literal hliteral => Or.inl ⟨_, List.mem_map_of_mem hliteral, rfl⟩⟩
    rw [ofAggregate]
    exact isOk_arrange hclosed (by simp [waitingOf_eq_map]) hcovers hplaceable

/-- A closed and well-formed body whose reads have sizes has a plan. -/
theorem exists_ofBody (hclosed : Literal.Closed body) (hbody : Literal.WellFormedAll catalog body)
    (hsize : ∀ read ∈ Literal.readsOfAll body, ∀ delta, (sizeOf read.1 delta).isOk = true)
    (deltaAt : Option Nat) : ∃ plan, ofBody sizeOf body deltaAt = .ok plan := by
  have hplaceable : ∀ w ∈ ((waitingOf sizeOf body).mapIdx fun i w =>
      { w with delta := deltaAt == some i }), Placeable sizeOf catalog w := by
    intro w hw
    obtain ⟨i, literal, hliteral, rfl⟩ := mem_waiting_ofBody.1 hw
    have hmem : literal ∈ body := List.mem_of_getElem? hliteral
    exact placeable_waiting literal (Literal.wellFormedAll_iff.1 hbody literal hmem)
      (fun read hread => hsize read (Literal.mem_readsOfAll hmem hread)) _
  have hcovers : Covers body ((waitingOf sizeOf body).mapIdx fun i w =>
      { w with delta := deltaAt == some i }) {} := by
    refine ⟨fun w hw => ?_, fun literal hliteral => Or.inl ?_⟩
    · obtain ⟨i, literal, hliteral, rfl⟩ := mem_waiting_ofBody.1 hw
      exact List.mem_of_getElem? hliteral
    · obtain ⟨i, hi, rfl⟩ := List.getElem_of_mem hliteral
      exact ⟨_, mem_waiting_ofBody.2 ⟨i, _, List.getElem?_eq_getElem hi, rfl⟩, rfl⟩
  have hlength : ((waitingOf sizeOf body).mapIdx fun i w =>
      { w with delta := deltaAt == some i }).length ≤ body.length := by simp [waitingOf_eq_map]
  obtain ⟨plan, hplan, -⟩ := isOk_arrange hclosed hlength hcovers hplaceable
  exact ⟨plan, hplan⟩

end Plan

/-- Whether each of some predicates, and its growth, can be read. -/
def Workspace.Readable (workspace : Workspace) (names : List String) : Prop :=
  ∀ name ∈ names, ∀ delta, (workspace.read name delta).isOk = true

/-- Where everything can be read only a table grown too large stops an evaluation. -/
theorem Workspace.Refuses.isTupleLimit {workspace : Workspace} {names : List String} {fault : Fault}
    (h : workspace.Refuses names fault) (hreadable : workspace.Readable names) :
    fault.IsTupleLimit := by
  rcases h with h | ⟨name, hname, delta, hread⟩
  · exact h
  · have hok := hreadable name hname delta
    rw [hread] at hok
    cases hok

namespace Evaluation

open Eval

variable {context : Context} {start workspace : Workspace}

/-- Agreeing workspaces read alike, so what could be read before can be read after. -/
theorem isOk_sizeIn (hkept : start.Kept workspace) {names : List String}
    (hreadable : start.Readable names) {name : String} (hname : name ∈ names) (delta : Bool) :
    (sizeIn workspace name delta).isOk = true := by
  rw [sizeIn, isOk_map]
  have heq := hkept.agrees.read name delta
  have hok := hreadable name hname delta
  rw [← isOk_map (f := Relation.bare), ← heq, isOk_map] at hok
  exact hok

/-- Planning and running a checked body lists the assignments that satisfy it. Only a table grown too
large can stop it where everything read can be read, and the workspace is kept either way. -/
theorem ensures_body [PatternEngine] (hconforms : start.Conforms catalog) (hkept : start.Kept workspace)
    {site : Site} {env : TypeEnv} (hbody : Typing.checkBody catalog site body = .ok env)
    {deltaAt : Option Nat} (hdelta : ∀ i, deltaAt = some i → ∃ atom, body[i]? = some (.atom atom))
    {α : Type} {next : BindingTable → Eval α} {answered : α → Workspace → Prop}
    {failed : Fault → Workspace → Prop}
    (hok : ∀ table after, start.Kept after → (∀ name, name ∈ table.vars ↔ env.binds name = true) →
      table.Lists (start.Satisfies context.entities.render body deltaAt) →
        (next table).Ensures after answered failed)
    (herror : ∀ fault after, start.Kept after →
      (start.Readable ((Literal.readsOfAll body).map Prod.fst) → fault.IsTupleLimit) →
        failed fault after) :
    Ensures (do
      let plan ← Plan.ofBody (sizeIn (← get)) body deltaAt
      let table ← runPlan context plan
      next table) workspace answered failed := by
  obtain ⟨hwell, hclosed, hbinds⟩ := Typing.wellFormed_of_checkBody hbody
  simp only [ensures_bind, ensures_get, ensures_lift]
  refine ⟨fun plan hplan => ?_, fun fault hplan => herror fault workspace hkept fun hreadable => ?_⟩
  · obtain ⟨hvars, hsolves⟩ : (∀ name, name ∈ plan.vars ↔ name ∈ Literal.scopeOfAll body) ∧
        plan.Solves context start ((Literal.readsOfAll body).map Prod.fst)
          (start.Satisfies context.entities.render body deltaAt) :=
      Plan.solves_ofBody hconforms hwell (fun read hread => List.mem_map_of_mem hread) hdelta hplan
    refine (ensures_runPlan hsolves hkept).mono (fun table after htable => ?_)
      fun fault after hfault => herror fault after hfault.1 hfault.2.isTupleLimit
    obtain ⟨hafter, heq, hlists⟩ := htable
    refine hok table after hafter (fun name => ?_) hlists
    rw [heq, hvars, hbinds]
  · obtain ⟨plan, hfound⟩ := Plan.exists_ofBody hclosed hwell
      (fun read hread delta => isOk_sizeIn hkept hreadable (List.mem_map_of_mem hread) delta) deltaAt
    rw [hfound] at hplan
    cases hplan

end Evaluation

end Stratalog
