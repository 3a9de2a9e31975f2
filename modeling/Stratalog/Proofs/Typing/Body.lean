import Stratalog.Proofs.Semantics.Body
import Stratalog.Proofs.Typing.Environment

/-!
# Well-formed bodies

The variables of a body are bound bottom up: atoms and aggregates bind theirs, and an assignment or
equality binds a variable once its expression is computable. A body is closed when every variable
it mentions is bound in this way, and well formed when moreover its atoms fit, its patterns parse
and the bodies of its aggregates are well formed and bind what is asked of them.

A body that passes its check is well formed, and the check binds exactly its variables.
-/

namespace Stratalog

namespace Literal

/-- Whether a literal is an atom or an aggregate, which bind all their variables. -/
def isJoin : Literal → Bool
  | .atom _ | .aggregate .. => true
  | _ => false

/-- Whether a literal is an aggregate. -/
def isAggregate : Literal → Bool
  | .aggregate .. => true
  | _ => false

/-- Whether a literal binds a variable once an expression is computable. -/
def Offers (literal : Literal) (var : String) (expr : Expr) : Prop :=
  literal = .assign var expr ∨ literal = .compare .eq (.var var) expr ∨
    literal = .compare .eq expr (.var var)

/-- The variables that a body binds. -/
inductive Bound (body : List Literal) : String → Prop
  | join {literal : Literal} {var : String} (hmem : literal ∈ body) (hjoin : literal.isJoin = true)
      (hvar : var ∈ literal.scope) : Bound body var
  | offer {literal : Literal} {var : String} {expr : Expr} (hmem : literal ∈ body)
      (hoffer : literal.Offers var expr) (hready : ∀ name ∈ expr.vars, Bound body name) :
      Bound body var

/-- A body is closed when it binds every variable it mentions. -/
def Closed (body : List Literal) : Prop :=
  ∀ name ∈ scopeOfAll body, Bound body name

mutual

/-- Whether atoms fit, patterns parse, and the bodies of aggregates bind what is asked of them. -/
def WellFormed [PatternEngine] (catalog : Catalog) : Literal → Prop
  | .atom a | .negated a => a.Fits catalog
  | .compare op _ right => op = .matches →
      ∃ text, right = .const (.string text) ∧ (PatternEngine.compile? text).isSome = true
  | .assign .. => True
  | .aggregate _ _ target groupBy body => WellFormedAll catalog body ∧ Closed body ∧
      (∀ name ∈ groupBy, name ∈ scopeOfAll body) ∧
        ∀ expr, target = some expr → ∀ name ∈ expr.vars, name ∈ scopeOfAll body

/-- Whether every literal of a body is well formed. -/
def WellFormedAll [PatternEngine] (catalog : Catalog) : List Literal → Prop
  | [] => True
  | literal :: rest => WellFormed catalog literal ∧ WellFormedAll catalog rest

end

/-- A body is well formed when each of its literals is. -/
theorem wellFormedAll_iff [PatternEngine] {catalog : Catalog} {body : List Literal} :
    WellFormedAll catalog body ↔ ∀ literal ∈ body, literal.WellFormed catalog := by
  induction body with
  | nil => simp [WellFormedAll]
  | cons literal rest ih => rw [WellFormedAll, ih, List.forall_mem_cons]

/-- What a well-formed literal reads is known. -/
theorem exists_schema_of_wellFormed [PatternEngine] {catalog : Catalog} {literal : Literal}
    (h : literal.WellFormed catalog) :
    ∀ read ∈ literal.reads, ∃ schema, catalog read.1 = some schema := by
  induction literal using Literal.induction with
  | atom a =>
    obtain ⟨schema, hschema, -⟩ := h
    simpa [reads] using ⟨schema, hschema⟩
  | negated a =>
    obtain ⟨schema, hschema, -⟩ := h
    simpa [reads] using ⟨schema, hschema⟩
  | compare op left right => simp [reads]
  | assign var expr => simp [reads]
  | aggregate result function target groupBy body ih =>
    rw [WellFormed, wellFormedAll_iff] at h
    intro read hread
    rw [reads, readsOfAll_eq_flatMap] at hread
    obtain ⟨inner, hinner, rfl⟩ := List.mem_map.1 hread
    obtain ⟨literal, hliteral, hin⟩ := List.mem_flatMap.1 hinner
    exact ih literal hliteral (h.1 literal hliteral) inner hin

/-- A variable is in the scope of a body when it is in that of a literal. -/
theorem mem_scopeOfAll {body : List Literal} {name : String} :
    name ∈ scopeOfAll body ↔ ∃ literal ∈ body, name ∈ literal.scope :=
  List.mem_flatMap

/-- A literal that offers to bind mentions the variable and those of the expression. -/
theorem mem_scope_of_offers {literal : Literal} {var : String} {expr : Expr}
    (h : literal.Offers var expr) (name : String) :
    name ∈ literal.scope ↔ name = var ∨ name ∈ expr.vars := by
  rcases h with rfl | rfl | rfl
  · simp [scope]
  · simp [scope, Expr.vars]
  · simp [scope, Expr.vars, or_comm]

/-- Only variables that a body mentions are bound by it. -/
theorem Bound.mem_scope {body : List Literal} {name : String} (h : Bound body name) :
    name ∈ scopeOfAll body := by
  cases h with
  | join hmem hjoin hvar => exact mem_scopeOfAll.2 ⟨_, hmem, hvar⟩
  | offer hmem hoffer hready =>
    exact mem_scopeOfAll.2 ⟨_, hmem, (mem_scope_of_offers hoffer _).2 (Or.inl rfl)⟩

/-- A binding that is found was offered, is new, and has a computable expression. -/
theorem offers_of_binding {bound : String → Bool} {literal : Literal} {var : String} {expr : Expr}
    (h : literal.binding? bound = some (var, expr)) :
    literal.Offers var expr ∧ bound var = false ∧ ∀ name ∈ expr.vars, bound name = true := by
  have horiented : ∀ left right, binding?.oriented bound left right = some (var, expr) →
      left = .var var ∧ right = expr ∧ bound var = false ∧ ∀ name ∈ expr.vars, bound name = true := by
    intro left right hfound
    cases left <;> simp [binding?.oriented, ready] at hfound
    obtain ⟨⟨hvar, hready⟩, rfl, rfl⟩ := hfound
    exact ⟨rfl, rfl, hvar, hready⟩
  cases literal with
  | assign assigned value =>
    simp [binding?, ready] at h
    obtain ⟨⟨hvar, hready⟩, rfl, rfl⟩ := h
    exact ⟨Or.inl rfl, hvar, hready⟩
  | compare op left right =>
    cases op <;> simp only [binding?, reduceCtorEq] at h
    split at h
    next found hfound =>
      cases h
      obtain ⟨rfl, rfl, hvar, hready⟩ := horiented _ _ hfound
      exact ⟨Or.inr (Or.inl rfl), hvar, hready⟩
    next =>
      obtain ⟨rfl, rfl, hvar, hready⟩ := horiented _ _ h
      exact ⟨Or.inr (Or.inr rfl), hvar, hready⟩
  | atom a => simp [binding?] at h
  | negated a => simp [binding?] at h
  | aggregate => simp [binding?] at h

/-- An offered binding that is new and computable is found, or another of the same literal. -/
theorem isSome_binding {bound : String → Bool} {literal : Literal} {var : String} {expr : Expr}
    (h : literal.Offers var expr) (hvar : bound var = false)
    (hready : ∀ name ∈ expr.vars, bound name = true) : (literal.binding? bound).isSome = true := by
  have hall : ready bound expr = true := by simpa [ready] using hready
  rcases h with rfl | rfl | rfl
  · simp [binding?, hvar, hall]
  · simp [binding?, binding?.oriented, hvar, hall]
  · rw [binding?]
    split
    next => rfl
    next => simp [binding?.oriented, hvar, hall]

end Literal

namespace Typing

/-- Taking an element out of a list takes one that passes the test. -/
theorem extract?_eq_some {α : Type} {test : α → Bool} {items rest : List α} {item : α}
    (h : extract? test items = some (item, rest)) :
    test item = true ∧ items.Perm (item :: rest) := by
  induction items generalizing rest with
  | nil => simp [extract?] at h
  | cons first others ih =>
    rw [extract?] at h
    split at h
    next htest =>
      cases h
      exact ⟨htest, List.Perm.refl _⟩
    next =>
      obtain ⟨⟨found, left⟩, hfound, heq⟩ := Option.map_eq_some_iff.1 h
      cases heq
      obtain ⟨htest, hperm⟩ := ih hfound
      exact ⟨htest, (hperm.cons first).trans (List.Perm.swap _ _ _)⟩

/-- Nothing is taken out of a list in which nothing passes the test. -/
theorem extract?_eq_none {α : Type} {test : α → Bool} {items : List α} :
    extract? test items = none ↔ ∀ item ∈ items, test item = false := by
  induction items with
  | nil => simp [extract?]
  | cons first others ih =>
    rw [extract?]
    split
    next htest => simp [htest]
    next htest => simpa [htest] using ih

/-- Binding what is pending: each literal is left over or has all its variables bound, none left
over could bind more, and nothing is bound beyond what was bound or offered. -/
theorem bindPending_spec {site : Site} {fuel : Nat} {env after : TypeEnv}
    {pending left : List Literal} (hfuel : pending.length ≤ fuel)
    (h : bindPending site fuel env pending = .ok (after, left)) :
    (∀ name, env.binds name = true → after.binds name = true) ∧
      (∀ literal ∈ pending, literal ∈ left ∨ (∃ var expr, literal.Offers var expr) ∧
        ∀ name ∈ literal.scope, after.binds name = true) ∧
      (∀ literal ∈ left, literal ∈ pending) ∧
      ∀ B : String → Prop, (∀ name, env.binds name = true → B name) →
        (∀ literal ∈ pending, ∀ var expr, literal.Offers var expr →
          (∀ name ∈ expr.vars, B name) → B var) → ∀ name, after.binds name = true → B name := by
  induction fuel generalizing env pending with
  | zero =>
    have hnil : pending = [] := List.length_eq_zero_iff.1 (by omega)
    subst hnil
    simp only [bindPending] at h
    cases h
    exact ⟨fun _ => id, by simp, by simp, fun B hB _ => hB⟩
  | succ fuel ih =>
    rw [bindPending] at h
    split at h
    next =>
      cases h
      exact ⟨fun _ => id, fun _ => Or.inl, fun _ => id, fun B hB _ => hB⟩
    next literal rest hfound =>
      obtain ⟨htest, hperm⟩ := extract?_eq_some hfound
      obtain ⟨⟨var, expr⟩, hbinding⟩ := Option.isSome_iff_exists.1 htest
      rw [hbinding] at h
      obtain ⟨type, htype, h⟩ := bind_eq_ok.1 h
      obtain ⟨hoffer, -, hready⟩ := Literal.offers_of_binding hbinding
      have hlength : rest.length ≤ fuel := by
        have := hperm.length_eq
        simp only [List.length_cons] at this
        omega
      obtain ⟨hmono, hpending, hleft, hleast⟩ := ih hlength h
      have hvar : after.binds var = true := hmono var ((env.binds_bind _ _ _).2 (Or.inr rfl))
      have hkeep (name : String) (hname : env.binds name = true) : after.binds name = true :=
        hmono name ((env.binds_bind _ _ _).2 (Or.inl hname))
      refine ⟨hkeep, fun other hother => ?_, fun other hother => ?_, fun B hB hoffers => ?_⟩
      · rcases List.mem_cons.1 (hperm.mem_iff.1 hother) with rfl | hother
        · refine Or.inr ⟨⟨var, expr, hoffer⟩, fun name hname => ?_⟩
          rcases (Literal.mem_scope_of_offers hoffer name).1 hname with rfl | hname
          · exact hvar
          · exact hkeep name (hready name hname)
        · exact hpending other hother
      · exact hperm.mem_iff.2 (List.mem_cons_of_mem _ (hleft other hother))
      · have hBvar : B var := hoffers literal (hperm.mem_iff.2 List.mem_cons_self) var expr hoffer
          fun name hname => hB name (hready name hname)
        refine hleast B (fun name hname => ?_) fun other hother =>
          hoffers other (hperm.mem_iff.2 (List.mem_cons_of_mem _ hother))
        rcases (env.binds_bind _ _ _).1 hname with hname | rfl
        · exact hB name hname
        · exact hBvar

/-- A comparison that passes its check has its variables bound and a pattern that parses. -/
theorem binds_checkCompare [PatternEngine] {site : Site} {env : TypeEnv} {op : CompareOp}
    {left right : Expr}
    (h : checkCompare site env op left right = .ok ()) :
    (∀ name ∈ (Literal.compare op left right).scope, env.binds name = true) ∧
      ∀ catalog, (Literal.compare op left right).WellFormed catalog := by
  rw [checkCompare] at h
  obtain ⟨leftType, hleft, h⟩ := bind_eq_ok.1 h
  obtain ⟨rightType, hright, h⟩ := bind_eq_ok.1 h
  refine ⟨?_, fun catalog => ?_⟩
  · rw [Literal.scope, List.forall_mem_append]
    exact ⟨binds_of_exprType hleft, binds_of_exprType hright⟩
  · rw [Literal.WellFormed]
    rintro rfl
    obtain ⟨_, -, h⟩ := bind_eq_ok.1 h
    rcases right with _ | (_ | text | _ | _) | _ | _ <;> simp [checkPattern] at h
    exact ⟨text, rfl, Option.isSome_iff_ne_none.2 h⟩

/-- Tests that pass their check have their variables bound and patterns that parse. -/
theorem binds_checkTests [PatternEngine] {site : Site} {env : TypeEnv} {tests : List Literal}
    (htests : ∀ literal ∈ tests, isTest literal = true)
    (h : checkTests site env tests = .ok ()) :
    ∀ literal ∈ tests, (∀ name ∈ literal.scope, env.binds name = true) ∧
      ∀ catalog, literal.WellFormed catalog := by
  induction tests with
  | nil => simp
  | cons literal rest ih =>
    rw [checkTests] at h
    obtain ⟨_, hliteral, h⟩ := bind_eq_ok.1 h
    have hrest := ih (fun other hother => htests other (List.mem_cons_of_mem _ hother)) h
    rw [List.forall_mem_cons]
    refine ⟨?_, hrest⟩
    have htest : isTest literal = true := htests literal List.mem_cons_self
    cases literal with
    | assign var expr =>
      rw [checkTest] at hliteral
      obtain ⟨type, hexpr, hliteral⟩ := bind_eq_ok.1 hliteral
      obtain ⟨bound, hvar, -⟩ := bind_eq_ok.1 hliteral
      refine ⟨?_, fun catalog => by simp [Literal.WellFormed]⟩
      rw [Literal.scope, List.forall_mem_cons]
      exact ⟨TypeEnv.binds_of_get hvar, binds_of_exprType hexpr⟩
    | compare op left right =>
      rw [checkTest] at hliteral
      exact binds_checkCompare hliteral
    | atom a => simp [isTest] at htest
    | negated a => simp [isTest] at htest
    | aggregate => simp [isTest] at htest

/-- What offers a binding is an assignment or an equality, and has no pattern. -/
theorem wellFormed_of_offers [PatternEngine] {catalog : Catalog} {literal : Literal} {var : String}
    {expr : Expr}
    (h : literal.Offers var expr) : literal.WellFormed catalog := by
  cases literal with
  | compare op left right =>
    rw [Literal.WellFormed]
    rintro rfl
    simp [Literal.Offers] at h
  | assign => trivial
  | _ => exact False.elim (by simp [Literal.Offers] at h)

/-- A conjunction that passes its check is well formed and closed, and binds what it mentions,
provided its aggregates do. -/
theorem wellFormed_of_conjunction [PatternEngine] {catalog : Catalog} {site : Site} {body : List Literal}
    {bindRest : TypeEnv → Except Fault TypeEnv} {env : TypeEnv}
    (hrest : ∀ before after, bindRest before = .ok after →
      (∀ name, after.binds name = true ↔ before.binds name = true ∨
        ∃ literal ∈ body, literal.isAggregate = true ∧ name ∈ literal.scope) ∧
        ∀ literal ∈ body, literal.isAggregate = true → literal.WellFormed catalog)
    (h : conjunction catalog site body bindRest = .ok env) :
    Literal.WellFormedAll catalog body ∧ Literal.Closed body ∧
      ∀ name, env.binds name = true ↔ name ∈ Literal.scopeOfAll body := by
  rw [conjunction] at h
  obtain ⟨atoms, hatoms, h⟩ := bind_eq_ok.1 h
  obtain ⟨joins, haggregates, h⟩ := bind_eq_ok.1 h
  obtain ⟨⟨after, left⟩, hpending, h⟩ := bind_eq_ok.1 h
  obtain ⟨_, htests, h⟩ := bind_eq_ok.1 h
  obtain ⟨_, hnegations, h⟩ := bind_eq_ok.1 h
  cases h
  obtain ⟨hatomFits, hatomBinds⟩ := binds_bindAtoms hatoms
  obtain ⟨haggregateBinds, haggregateFits⟩ := hrest _ _ haggregates
  obtain ⟨hmono, htestsBound, hleft, hleast⟩ := bindPending_spec le_rfl hpending
  have hleftTests := binds_checkTests
    (fun literal hliteral => (List.mem_filter.1 (hleft literal hliteral)).2) htests
  have hnegated := binds_checkNegations hnegations
  have htested : ∀ literal ∈ body, isTest literal = true →
      (∀ name ∈ literal.scope, env.binds name = true) ∧ literal.WellFormed catalog := by
    intro literal hliteral htest
    rcases htestsBound literal (List.mem_filter.2 ⟨hliteral, htest⟩) with
      hmem | ⟨⟨var, expr, hoffer⟩, hbound⟩
    · exact ⟨(hleftTests literal hmem).1, (hleftTests literal hmem).2 catalog⟩
    · exact ⟨hbound, wellFormed_of_offers hoffer⟩
  have hliterals : ∀ literal ∈ body,
      (∀ name ∈ literal.scope, env.binds name = true) ∧ literal.WellFormed catalog := by
    intro literal hliteral
    cases literal with
    | atom a =>
      have hatom : ∀ name ∈ a.vars, atoms.binds name = true := fun name hname =>
        (hatomBinds name).2 (Or.inr ⟨a, hliteral, hname⟩)
      exact ⟨fun name hname => hmono name ((haggregateBinds name).2 (Or.inl (hatom name hname))),
        hatomFits a hliteral⟩
    | aggregate =>
      exact ⟨fun name hname => hmono name ((haggregateBinds name).2
        (Or.inr ⟨_, hliteral, rfl, hname⟩)), haggregateFits _ hliteral rfl⟩
    | negated a => exact ⟨(hnegated a hliteral).2, (hnegated a hliteral).1⟩
    | compare => exact htested _ hliteral rfl
    | assign => exact htested _ hliteral rfl
  have hbound : ∀ name, env.binds name = true → Literal.Bound body name := by
    refine hleast (Literal.Bound body) (fun name hname => ?_) fun literal hliteral var expr hoffer =>
      Literal.Bound.offer (List.mem_filter.1 hliteral).1 hoffer
    rcases (haggregateBinds name).1 hname with hname | ⟨literal, hliteral, hkind, hname⟩
    · rcases (hatomBinds name).1 hname with hname | ⟨a, ha, hname⟩
      · simp [TypeEnv.binds, TypeEnv.find?] at hname
      · exact Literal.Bound.join ha rfl hname
    · refine Literal.Bound.join hliteral ?_ hname
      cases literal <;> first | rfl | cases hkind
  have hbinds : ∀ name ∈ Literal.scopeOfAll body, env.binds name = true := by
    intro name hname
    obtain ⟨literal, hliteral, hname⟩ := Literal.mem_scopeOfAll.1 hname
    exact (hliterals literal hliteral).1 name hname
  exact ⟨Literal.wellFormedAll_iff.2 fun literal hliteral => (hliterals literal hliteral).2,
    fun name hname => hbound name (hbinds name hname),
    fun name => ⟨fun hname => (hbound name hname).mem_scope, hbinds name⟩⟩

/-- Binding the grouping variables of an aggregate shows that its body binds them. -/
theorem binds_bindGroup {site : Site} {inner env after : TypeEnv} {vars : List String}
    (h : bindGroup site inner env vars = .ok after) :
    (∀ name ∈ vars, inner.binds name = true) ∧
      ∀ name, after.binds name = true ↔ env.binds name = true ∨ name ∈ vars := by
  induction vars generalizing env with
  | nil =>
    cases h
    simp
  | cons var rest ih =>
    rw [bindGroup] at h
    obtain ⟨type, htype, h⟩ := bind_eq_ok.1 h
    obtain ⟨next, hnext, h⟩ := bind_eq_ok.1 h
    obtain ⟨hinner, hbinds⟩ := ih h
    refine ⟨List.forall_mem_cons.2 ⟨TypeEnv.binds_of_get htype, hinner⟩, fun name => ?_⟩
    rw [hbinds, binds_bindOrExpect hnext, List.mem_cons, or_assoc]

/-- A target with a type has its variables bound. -/
theorem binds_of_targetType {site : Site} {inner : TypeEnv} {target : Option Expr}
    {type : Option ColumnType} (h : targetType site inner target = .ok type) :
    ∀ expr, target = some expr → ∀ name ∈ expr.vars, inner.binds name = true := by
  rintro expr rfl
  rw [targetType] at h
  obtain ⟨_, hexpr, -⟩ := map_eq_ok.1 h
  exact binds_of_exprType hexpr

variable [PatternEngine]

/-- A literal other than an aggregate binds nothing as an aggregate. -/
theorem bindAggregate_eq_self {catalog : Catalog} {site : Site} {env : TypeEnv} {literal : Literal}
    (h : ¬literal.isAggregate = true) : bindAggregate catalog site env literal = .ok env := by
  cases literal with
  | aggregate => exact absurd rfl h
  | _ => simp only [bindAggregate]

/-- Binding the aggregates of a body binds their variables, provided each does. -/
theorem binds_bindAggregates {catalog : Catalog} {site : Site} {body : List Literal}
    (hbody : ∀ literal ∈ body, ∀ before after,
      bindAggregate catalog site before literal = .ok after → literal.isAggregate = true →
        (∀ name, after.binds name = true ↔ before.binds name = true ∨ name ∈ literal.scope) ∧
          literal.WellFormed catalog)
    {before after : TypeEnv} (h : bindAggregates catalog site before body = .ok after) :
    (∀ name, after.binds name = true ↔ before.binds name = true ∨
      ∃ literal ∈ body, literal.isAggregate = true ∧ name ∈ literal.scope) ∧
        ∀ literal ∈ body, literal.isAggregate = true → literal.WellFormed catalog := by
  induction body generalizing before with
  | nil =>
    simp only [bindAggregates] at h
    cases h
    simp
  | cons literal rest ih =>
    rw [bindAggregates] at h
    obtain ⟨next, hliteral, h⟩ := bind_eq_ok.1 h
    obtain ⟨hrestBinds, hrestFits⟩ := ih (fun other hother =>
      hbody other (List.mem_cons_of_mem _ hother)) h
    by_cases hkind : literal.isAggregate = true
    · obtain ⟨hbinds, hfits⟩ := hbody literal List.mem_cons_self _ _ hliteral hkind
      refine ⟨fun name => ?_, List.forall_mem_cons.2 ⟨fun _ => hfits, hrestFits⟩⟩
      rw [hrestBinds, hbinds, or_assoc]
      simp [hkind]
    · rw [bindAggregate_eq_self hkind] at hliteral
      cases hliteral
      refine ⟨fun name => ?_, List.forall_mem_cons.2 ⟨fun hother => absurd hother hkind, hrestFits⟩⟩
      rw [hrestBinds]
      simp [hkind]

/-- An aggregate that passes its check is well formed and binds its grouping variables and its
result. -/
theorem wellFormed_of_bindAggregate {catalog : Catalog} (literal : Literal) :
    ∀ site before after, bindAggregate catalog site before literal = .ok after →
      literal.isAggregate = true →
        (∀ name, after.binds name = true ↔ before.binds name = true ∨ name ∈ literal.scope) ∧
          literal.WellFormed catalog := by
  induction literal using Literal.induction with
  | atom a => simp [Literal.isAggregate]
  | negated a => simp [Literal.isAggregate]
  | compare op left right => simp [Literal.isAggregate]
  | assign var expr => simp [Literal.isAggregate]
  | aggregate result function target groupBy body ih =>
    intro site before after h _
    rw [bindAggregate] at h
    obtain ⟨inner, hinner, h⟩ := bind_eq_ok.1 h
    obtain ⟨grouped, hgroup, h⟩ := bind_eq_ok.1 h
    obtain ⟨targetType, htarget, h⟩ := bind_eq_ok.1 h
    obtain ⟨type, -, h⟩ := bind_eq_ok.1 h
    obtain ⟨hwell, hclosed, hbinds⟩ := wellFormed_of_conjunction
      (fun _ _ => binds_bindAggregates fun other hother => ih other hother _) hinner
    obtain ⟨hkeys, hgrouped⟩ := binds_bindGroup hgroup
    refine ⟨fun name => ?_, ?_⟩
    · rw [binds_bindOrExpect h, hgrouped, Literal.scope, List.mem_append, List.mem_singleton,
        or_assoc]
    · rw [Literal.WellFormed]
      refine ⟨hwell, hclosed, fun name hname => (hbinds name).1 (hkeys name hname), ?_⟩
      exact fun expr hexpr name hname =>
        (hbinds name).1 (binds_of_targetType htarget expr hexpr name hname)

/-- A body that passes its check is well formed and closed, and the check binds its variables. -/
theorem wellFormed_of_checkBody {catalog : Catalog} {site : Site} {body : List Literal}
    {env : TypeEnv} (h : checkBody catalog site body = .ok env) :
    Literal.WellFormedAll catalog body ∧ Literal.Closed body ∧
      ∀ name, env.binds name = true ↔ name ∈ Literal.scopeOfAll body :=
  wellFormed_of_conjunction (fun _ _ => binds_bindAggregates fun literal _ =>
    wellFormed_of_bindAggregate literal site) h

end Typing

end Stratalog
