import Stratalog.Pattern.Engine
import Stratalog.Proofs.Typing.Inference

/-!
# The check of bodies decides typing

Assignments and equalities bind what they can, in the order in which they can, and everything that is
then left is tested against the types found. No more types can be found for a body that has a typing,
and all of its typing is found, since a literal that could bind another variable is never left.

So a body is accepted exactly when it has a typing, the check finds that typing, there is no other,
and none of this depends on the order of the literals.
-/

namespace Stratalog

namespace Typing

open Literal

variable {catalog : Catalog} {site : Site} {env after : TypeEnv} {Γ : Types} {expr : Expr}
  {type : ColumnType} {body pending left : List Literal}

/-- Binding what is pending keeps the types there are. A literal that bound a variable is well typed
from then on, and one that is left can bind no more. -/
theorem typed_of_bindPending [PatternEngine] (catalog : Catalog) {fuel : Nat}
    (hfuel : pending.length ≤ fuel)
    (h : bindPending site fuel env pending = .ok (after, left)) :
    Types.Within env.find? after.find? ∧
      (∀ literal ∈ pending, literal ∈ left ∨
        ∀ Γ, Types.Within after.find? Γ → literal.WellTyped catalog Γ) ∧
      ∀ literal ∈ left, literal.binding? after.binds = none := by
  induction fuel generalizing env pending with
  | zero =>
    obtain rfl : pending = [] := List.length_eq_zero_iff.1 (by omega)
    simp only [bindPending] at h
    cases h
    exact ⟨.refl _, by simp, by simp⟩
  | succ fuel ih =>
    rw [bindPending] at h
    split at h
    next hnone =>
      cases h
      refine ⟨.refl _, fun _ => Or.inl, fun literal hliteral => ?_⟩
      simpa using extract?_eq_none.1 hnone literal hliteral
    next literal rest hfound =>
      obtain ⟨htest, hperm⟩ := extract?_eq_some hfound
      obtain ⟨⟨var, expr⟩, hbinding⟩ := Option.isSome_iff_exists.1 htest
      rw [hbinding] at h
      obtain ⟨type, htype, h⟩ := bind_eq_ok.1 h
      obtain ⟨hoffer, hnew, -⟩ := offers_of_binding hbinding
      have hlength : rest.length ≤ fuel := by
        have := hperm.length_eq
        simp only [List.length_cons] at this
        omega
      obtain ⟨hkept, hpending, hleft⟩ := ih hlength h
      have hwithin := (env.within_bind var type).trans hkept
      have hvar : (env.bind var type).find? var = some type :=
        TypeEnv.find?_bind_self (by simpa [TypeEnv.binds] using hnew)
      refine ⟨hwithin, fun other hother => ?_, hleft⟩
      rcases List.mem_cons.1 (hperm.mem_iff.1 hother) with rfl | hother
      · exact Or.inr fun Γ hΓ => wellTyped_of_offers hoffer (hΓ var type (hkept var type hvar))
          ((exprType_eq_ok_iff.1 htype).mono (hwithin.trans hΓ))
      · exact hpending other hother

/-- Binding what is pending succeeds within types that make it all well typed. -/
theorem exists_bindPending [PatternEngine] (site : Site) (fuel : Nat) (hwithin : Types.Within env.find? Γ)
    (hpending : ∀ literal ∈ pending, literal.WellTyped catalog Γ) :
    ∃ after left, bindPending site fuel env pending = .ok (after, left) ∧
      Types.Within after.find? Γ := by
  induction fuel generalizing env pending with
  | zero => exact ⟨env, pending, rfl, hwithin⟩
  | succ fuel ih =>
    rw [bindPending]
    cases hfound : extract? (fun literal => (literal.binding? env.binds).isSome) pending with
    | none => exact ⟨env, pending, rfl, hwithin⟩
    | some found =>
      obtain ⟨literal, rest⟩ := found
      obtain ⟨htest, hperm⟩ := extract?_eq_some hfound
      obtain ⟨⟨var, expr⟩, hbinding⟩ := Option.isSome_iff_exists.1 htest
      obtain ⟨hoffer, -, hready⟩ := offers_of_binding hbinding
      obtain ⟨type, hexpr, hvar⟩ := exists_hasType_of_offers hoffer
        (hpending literal (hperm.mem_iff.2 List.mem_cons_self))
      -- What is computable already has the same type here as in the larger types.
      have htype : exprType site env expr = .ok type :=
        exprType_eq_ok_iff.2 (hexpr.congr fun name hname => by
          obtain ⟨found, hfound⟩ := Option.isSome_iff_exists.1 (hready name hname)
          rw [hfound, hwithin name found hfound])
      obtain ⟨after, left, hafter, hwithin'⟩ := ih (TypeEnv.bind_within hwithin hvar)
        fun other hother => hpending other (hperm.mem_iff.2 (List.mem_cons_of_mem _ hother))
      refine ⟨after, left, ?_, hwithin'⟩
      simp only [hbinding]
      exact bind_eq_ok.2 ⟨type, htype, hafter⟩

/-- A comparison passes its check when it is well typed. -/
theorem checkCompare_eq_ok_iff [PatternEngine] {op : CompareOp} {left right : Expr} :
    checkCompare site env op left right = .ok () ↔ op.WellTyped env.find? left right := by
  simp only [checkCompare, bind_eq_ok, exprType_eq_ok_iff]
  refine exists_congr fun type => and_congr_right fun hleft => ?_
  cases op with
  | eq | ne =>
    simp only [expect_eq_ok_iff]
    constructor
    · rintro ⟨_, hright, rfl⟩
      exact hright
    · exact fun hright => ⟨type, hright, rfl⟩
  | lt | le | gt | ge =>
    by_cases hordered : type = .int ∨ type = .string
    · simp only [if_pos hordered, expect_eq_ok_iff]
      constructor
      · rintro ⟨_, hright, rfl⟩
        exact ⟨hordered, hright⟩
      · exact fun hright => ⟨type, hright.2, rfl⟩
    · simp [hordered]
  | «matches» =>
    simp only [check_bind_eq_ok, expect_eq_ok_iff]
    constructor
    · rintro ⟨_, hright, rfl, hpattern⟩
      refine ⟨rfl, ?_⟩
      rcases right with _ | (_ | text | _ | _) | _ | _ <;> simp [checkPattern] at hpattern
      exact ⟨text, rfl, Option.isSome_iff_ne_none.2 hpattern⟩
    · rintro ⟨rfl, text, rfl, hpattern⟩
      exact ⟨_, .const _, rfl, if_pos hpattern⟩

/-- A test passes its check when it is well typed. -/
theorem checkTest_eq_ok_iff [PatternEngine] {literal : Literal} (htest : isTest literal = true) :
    checkTest site env literal = .ok () ↔ literal.WellTyped catalog env.find? := by
  cases literal with
  | assign var expr =>
    simp only [checkTest, bind_eq_ok, exprType_eq_ok_iff, TypeEnv.get_eq_ok_iff, expect_eq_ok_iff,
      WellTyped]
    constructor
    · rintro ⟨type, hexpr, _, hvar, rfl⟩
      exact ⟨_, hvar, hexpr⟩
    · rintro ⟨type, hvar, hexpr⟩
      exact ⟨type, hexpr, type, hvar, rfl⟩
  | compare op left right =>
    rw [checkTest, WellTyped]
    exact checkCompare_eq_ok_iff
  | atom a => cases htest
  | negated a => cases htest
  | aggregate => cases htest

/-- Tests pass their check when each is well typed. -/
theorem checkTests_eq_ok_iff [PatternEngine] {tests : List Literal}
    (htests : ∀ literal ∈ tests, isTest literal = true) :
    checkTests site env tests = .ok () ↔
      ∀ literal ∈ tests, literal.WellTyped catalog env.find? := by
  induction tests with
  | nil => simp [checkTests]
  | cons literal rest ih =>
    rw [List.forall_mem_cons] at htests
    rw [checkTests, check_bind_eq_ok, checkTest_eq_ok_iff htests.1, ih htests.2,
      List.forall_mem_cons]

/-- Bound arguments pass their check when each may stand in its column. -/
theorem checkArgs_eq_ok_iff {predicate : String} {terms : List Term} {columns : List Column}
    (hlength : terms.length = columns.length)
    (hbound : ∀ name ∈ terms.filterMap Term.var?, env.binds name = true) :
    checkArgs site predicate env terms columns = .ok () ↔
      List.Forall₂ (Term.HasType env.find?) terms (columns.map Column.type) := by
  induction terms generalizing columns with
  | nil =>
    obtain rfl : columns = [] := List.length_eq_zero_iff.1 hlength.symm
    simp [checkArgs]
  | cons term terms ih =>
    obtain _ | ⟨column, columns⟩ := columns
    · cases hlength
    have hrest := @ih columns (by simpa using hlength) fun name hname =>
      hbound name (by
        obtain ⟨other, hother, hvar⟩ := List.mem_filterMap.1 hname
        exact List.mem_filterMap.2 ⟨other, List.mem_cons_of_mem _ hother, hvar⟩)
    rw [List.map_cons, List.forall₂_cons, ← hrest]
    cases term with
    | var name =>
      obtain ⟨found, hfound⟩ := Option.isSome_iff_exists.1
        (hbound name (List.mem_filterMap.2 ⟨.var name, List.mem_cons_self, rfl⟩))
      simp only [checkArgs, show env.find? name = some found from hfound, check_bind_eq_ok,
        expect_eq_ok_iff, Term.HasType, Option.some.injEq, eq_comm (a := found)]
    | const value =>
      simp only [checkArgs, check_bind_eq_ok, expect_eq_ok_iff, Term.HasType,
        eq_comm (a := value.type)]
    | wildcard => exact (and_iff_right trivial).symm

/-- A negated atom passes its check when it is well typed. -/
theorem checkNegation_eq_ok_iff {atom : Atom} :
    checkNegation catalog site env atom = .ok () ↔ atom.WellTyped catalog env.find? := by
  have hunbound : (atom.vars.filter fun var => !env.binds var).eraseDups.isEmpty = true ↔
      ∀ name ∈ atom.vars, env.binds name = true := by
    rw [List.isEmpty_iff, List.eq_nil_iff_forall_not_mem]
    simp
  rw [checkNegation, bind_eq_ok]
  constructor
  · rintro ⟨schema, hschema, h⟩
    obtain ⟨hfound, hlength⟩ := schemaFor_eq_ok_iff.1 hschema
    dsimp only at h
    split at h
    next hempty =>
      exact ⟨schema, hfound, (checkArgs_eq_ok_iff hlength (hunbound.1 hempty)).1 h⟩
    next => cases h
  · intro h
    have hbound : ∀ name ∈ atom.vars, env.binds name = true := h.isSome
    obtain ⟨schema, hfound, hargs⟩ := h
    have hlength : atom.args.length = schema.columns.length := by
      rw [hargs.length_eq, Schema.length_types, Schema.arity]
    refine ⟨schema, schemaFor_eq_ok_iff.2 ⟨hfound, hlength⟩, ?_⟩
    dsimp only
    rw [if_pos (hunbound.2 hbound)]
    exact (checkArgs_eq_ok_iff hlength hbound).2 hargs

/-- Negated atoms pass their check when each is well typed. -/
theorem checkNegations_eq_ok_iff :
    checkNegations catalog site env body = .ok () ↔
      ∀ atom, .negated atom ∈ body → atom.WellTyped catalog env.find? := by
  induction body with
  | nil => simp [checkNegations]
  | cons literal rest ih =>
    cases literal with
    | negated atom =>
      rw [checkNegations, check_bind_eq_ok, checkNegation_eq_ok_iff, ih]
      simp [or_imp, forall_and]
    | _ => simpa [checkNegations] using ih

/-- The condition that the aggregates of a body impose. -/
def AggregatesTyped [PatternEngine] (catalog : Catalog) (body : List Literal) (Γ : Types) : Prop :=
  ∀ literal ∈ body, literal.isAggregate = true → literal.WellTyped catalog Γ

/-- A checked body binds what the literals bind. -/
theorem binds_iff_bound [PatternEngine] (h : checkBody catalog site body = .ok env) (name : String) :
    env.binds name = true ↔ Bound body name := by
  obtain ⟨-, hclosed, hbinds⟩ := wellFormed_of_checkBody h
  rw [hbinds]
  exact ⟨hclosed name, Bound.mem_scope⟩

/-- The types found for a body are a typing of it. -/
theorem isTyping_of_checkBody [PatternEngine]
    (haggregates : Imposes (fun env => bindAggregates catalog site env body)
      (AggregatesTyped catalog body))
    (h : checkBody catalog site body = .ok env) : IsTyping catalog body env.find? := by
  refine ⟨binds_iff_bound h, ?_⟩
  rw [checkBody, conjunction] at h
  obtain ⟨atoms, hatoms, h⟩ := bind_eq_ok.1 h
  obtain ⟨joins, hjoins, h⟩ := bind_eq_ok.1 h
  obtain ⟨⟨after, left⟩, hpending, h⟩ := bind_eq_ok.1 h
  obtain ⟨_, htests, h⟩ := bind_eq_ok.1 h
  obtain ⟨_, hnegations, h⟩ := bind_eq_ok.1 h
  cases h
  obtain ⟨-, hatomsTyped⟩ := (imposes_bindAtoms catalog site body).sound _ _ hatoms
  obtain ⟨hkept, haggregatesTyped⟩ := haggregates.sound _ _ hjoins
  obtain ⟨hkept', hbinding, -⟩ := typed_of_bindPending catalog le_rfl hpending
  have hleft : ∀ literal ∈ left, isTest literal = true := fun literal hliteral =>
    (List.mem_filter.1 ((bindPending_spec le_rfl hpending).2.2.1 literal hliteral)).2
  have htested : ∀ literal ∈ body, isTest literal = true →
      literal.WellTyped catalog env.find? := by
    intro literal hliteral htest
    rcases hbinding literal (List.mem_filter.2 ⟨hliteral, htest⟩) with hmem | htyped
    · exact (checkTests_eq_ok_iff hleft).1 htests literal hmem
    · exact htyped _ (.refl _)
  intro literal hliteral
  cases literal with
  | atom a =>
    rw [WellTyped]
    exact hatomsTyped _ (hkept.trans hkept') a hliteral
  | negated a =>
    rw [WellTyped]
    exact checkNegations_eq_ok_iff.1 hnegations a hliteral
  | aggregate => exact haggregatesTyped _ hkept' _ hliteral rfl
  | compare => exact htested _ hliteral rfl
  | assign => exact htested _ hliteral rfl

/-- All of a typing is found. -/
theorem checkBody_of_isTyping [PatternEngine]
    (haggregates : Imposes (fun env => bindAggregates catalog site env body)
      (AggregatesTyped catalog body))
    (h : IsTyping catalog body Γ) :
    ∃ env, checkBody catalog site body = .ok env ∧ env.find? = Γ := by
  have hempty : Types.Within (TypeEnv.find? []) Γ := fun name type hname => by cases hname
  obtain ⟨atoms, hatoms, hatomsWithin⟩ := (imposes_bindAtoms catalog site body).complete [] Γ
    hempty fun atom hatom => by simpa only [WellTyped] using h.typed _ hatom
  obtain ⟨joins, hjoins, hjoinsWithin⟩ := haggregates.complete atoms Γ hatomsWithin
    fun literal hliteral _ => h.typed literal hliteral
  obtain ⟨env, left, hpending, hwithin⟩ :=
    exists_bindPending site (body.filter isTest).length hjoinsWithin
      fun literal hliteral => h.typed literal (List.mem_filter.1 hliteral).1
  obtain ⟨-, hatomBinds⟩ := binds_bindAtoms hatoms
  obtain ⟨haggregateBinds, -⟩ := binds_bindAggregates (fun literal _ =>
    wellFormed_of_bindAggregate literal site) hjoins
  obtain ⟨hmono, hbinding, hleft, -⟩ := bindPending_spec le_rfl hpending
  obtain ⟨-, -, hstuck⟩ := typed_of_bindPending catalog le_rfl hpending
  -- By induction on why a variable is bound: a literal that offers to bind it did, or is stuck.
  have hbinds : ∀ name, Bound body name → env.binds name = true := by
    intro name hname
    induction hname with
    | @join literal name hmem hjoin hvar =>
      refine hmono name ((haggregateBinds name).2 ?_)
      cases literal with
      | atom a => exact Or.inl ((hatomBinds name).2 (Or.inr ⟨a, hmem, hvar⟩))
      | aggregate => exact Or.inr ⟨_, hmem, rfl, hvar⟩
      | _ => cases hjoin
    | @offer literal var expr hmem hoffer hready ih =>
      have htest : isTest literal = true := by rcases hoffer with rfl | rfl | rfl <;> rfl
      rcases hbinding literal (List.mem_filter.2 ⟨hmem, htest⟩) with hmem | ⟨-, hbound⟩
      · by_contra hunbound
        have hfound := isSome_binding hoffer (by simpa using hunbound) ih
        rw [hstuck literal hmem] at hfound
        cases hfound
      · exact hbound var ((mem_scope_of_offers hoffer var).2 (Or.inl rfl))
  obtain rfl : env.find? = Γ := hwithin.eq fun name hname => hbinds name ((h.domain name).1 hname)
  have htests : checkTests site env left = .ok () :=
    (checkTests_eq_ok_iff fun literal hliteral => (List.mem_filter.1 (hleft literal hliteral)).2).2
      fun literal hliteral => h.typed literal (List.mem_filter.1 (hleft literal hliteral)).1
  have hnegations : checkNegations catalog site env body = .ok () :=
    checkNegations_eq_ok_iff.2 fun atom hatom => by simpa only [WellTyped] using h.typed _ hatom
  refine ⟨env, ?_, rfl⟩
  rw [checkBody, conjunction]
  exact bind_eq_ok.2 ⟨atoms, hatoms, bind_eq_ok.2 ⟨joins, hjoins, bind_eq_ok.2
    ⟨(env, left), hpending, bind_eq_ok.2 ⟨(), htests, bind_eq_ok.2 ⟨(), hnegations, rfl⟩⟩⟩⟩⟩

/-- The result of an aggregate has a type when its target has one that suits the function. -/
theorem resultType_iff {function : FoldFunction} {target : Option Expr} :
    (∃ found, targetType site env target = .ok found ∧
      resultType site function found = .ok type) ↔ function.HasType env.find? target type := by
  cases target with
  | none => cases function <;> simp [targetType, resultType, FoldFunction.HasType, eq_comm]
  | some expr =>
    simp only [targetType, map_eq_ok, exprType_eq_ok_iff]
    cases function with
    | count =>
      constructor
      · rintro ⟨_, ⟨found, hexpr, rfl⟩, htype⟩
        cases htype
        exact ⟨rfl, fun _ heq => by cases heq; exact ⟨found, hexpr⟩⟩
      · rintro ⟨rfl, hexpr⟩
        obtain ⟨found, hexpr⟩ := hexpr expr rfl
        exact ⟨some found, ⟨found, hexpr, rfl⟩, rfl⟩
    | sum =>
      constructor
      · rintro ⟨_, ⟨found, hexpr, rfl⟩, h⟩
        obtain ⟨_, hint, rfl⟩ := map_eq_ok.1 h
        cases expect_eq_ok_iff.1 hint
        exact ⟨rfl, expr, rfl, hexpr⟩
      · rintro ⟨rfl, _, heq, hexpr⟩
        cases heq
        exact ⟨some .int, ⟨.int, hexpr, rfl⟩, rfl⟩
    | min | max => simp [resultType, FoldFunction.HasType]

/-- Binding the aggregates of a body imposes that each is well typed, provided it does for each. -/
theorem imposes_bindAggregates [PatternEngine] (site : Site) (hbody : ∀ literal ∈ body,
      Imposes (fun env => bindAggregate catalog site env literal) fun Γ =>
        literal.isAggregate = true → literal.WellTyped catalog Γ) :
    Imposes (fun env => bindAggregates catalog site env body) (AggregatesTyped catalog body) := by
  induction body with
  | nil => exact Imposes.pure.congr fun Γ => by simp [AggregatesTyped]
  | cons literal rest ih =>
    rw [List.forall_mem_cons] at hbody
    simp only [bindAggregates]
    exact (hbody.1.bind (ih hbody.2)).congr fun Γ => by simp [AggregatesTyped]

/-- Binding an aggregate imposes that it is well typed. -/
theorem imposes_bindAggregate [PatternEngine] (catalog : Catalog) (literal : Literal) : ∀ site,
    Imposes (fun env => bindAggregate catalog site env literal) fun Γ =>
      literal.isAggregate = true → literal.WellTyped catalog Γ := by
  induction literal using Literal.induction with
  | aggregate result function target groupBy body ih =>
    intro site
    have haggregates := imposes_bindAggregates (.aggregate result site) fun literal hmem =>
      ih literal hmem (.aggregate result site)
    constructor
    · intro env after h
      rw [bindAggregate] at h
      obtain ⟨inner, hinner, h⟩ := bind_eq_ok.1 h
      obtain ⟨grouped, hgroup, h⟩ := bind_eq_ok.1 h
      obtain ⟨found, htarget, h⟩ := bind_eq_ok.1 h
      obtain ⟨type, htype, hresult⟩ := bind_eq_ok.1 h
      obtain ⟨hkept, hgroupTyped⟩ := (imposes_bindGroup _ _ _).sound _ _ hgroup
      obtain ⟨hkept', hresultTyped⟩ := (imposes_bindOrExpect _ _ _).sound _ _ hresult
      refine ⟨hkept.trans hkept', fun Γ hΓ _ => wellTyped_aggregate_iff.2 ⟨inner.find?,
        isTyping_of_checkBody haggregates hinner, hgroupTyped Γ (hkept'.trans hΓ), type,
        resultType_iff.1 ⟨found, htarget, htype⟩, hresultTyped Γ hΓ⟩⟩
    · intro env Γ hwithin h
      obtain ⟨_, hbody, hgroup, type, htype, hresult⟩ := wellTyped_aggregate_iff.1 (h rfl)
      obtain ⟨inner, hinner, rfl⟩ := checkBody_of_isTyping haggregates hbody
      obtain ⟨grouped, hgrouped, hwithin'⟩ :=
        (imposes_bindGroup (.aggregate result site) _ _).complete env Γ hwithin hgroup
      obtain ⟨found, htarget, htype⟩ := resultType_iff.2 htype
      obtain ⟨after, hafter, hwithin''⟩ :=
        (imposes_bindOrExpect (.aggregate result site) _ _).complete grouped Γ hwithin' hresult
      refine ⟨after, ?_, hwithin''⟩
      simp only [bindAggregate]
      exact bind_eq_ok.2 ⟨inner, hinner, bind_eq_ok.2 ⟨grouped, hgrouped, bind_eq_ok.2
        ⟨found, htarget, bind_eq_ok.2 ⟨type, htype, hafter⟩⟩⟩⟩
  | _ =>
    intro site
    simp only [bindAggregate]
    exact Imposes.pure.congr fun Γ => by simp [isAggregate]

/-- A body that passes its check has the types found as a typing. -/
theorem isTyping_find? [PatternEngine] (h : checkBody catalog site body = .ok env) :
    IsTyping catalog body env.find? :=
  isTyping_of_checkBody (imposes_bindAggregates site fun literal _ =>
    imposes_bindAggregate catalog literal site) h

/-- A body with a typing passes its check, which finds the typing. -/
theorem exists_checkBody [PatternEngine] (site : Site) (h : IsTyping catalog body Γ) :
    ∃ env, checkBody catalog site body = .ok env ∧ env.find? = Γ :=
  checkBody_of_isTyping (imposes_bindAggregates site fun literal _ =>
    imposes_bindAggregate catalog literal site) h

/-- A body passes its check exactly when the rules of safety and typing accept it. The types found are
then its only typing, and the same are found for every body with the same literals, whatever their
order. -/
theorem checkBody_decides_typing [PatternEngine] (catalog : Catalog) (site : Site) (body : List Literal) :
    ((∃ env, checkBody catalog site body = .ok env) ↔ Accepted catalog body) ∧
      ∀ env, checkBody catalog site body = .ok env →
        (∀ Γ, IsTyping catalog body Γ ↔ Γ = env.find?) ∧
          ∀ place other, (∀ literal, literal ∈ other ↔ literal ∈ body) →
            ∃ found, checkBody catalog place other = .ok found ∧ found.find? = env.find? := by
  refine ⟨?_, fun env h => ⟨fun Γ => ⟨fun hΓ => ?_, ?_⟩, fun place other hmem => ?_⟩⟩
  · rw [accepted_iff]
    constructor
    · rintro ⟨env, h⟩
      exact ⟨_, isTyping_find? h⟩
    · rintro ⟨Γ, hΓ⟩
      obtain ⟨env, h, -⟩ := exists_checkBody site hΓ
      exact ⟨env, h⟩
  · obtain ⟨found, hfound, heq⟩ := exists_checkBody site hΓ
    rw [h] at hfound
    cases hfound
    exact heq.symm
  · rintro rfl
    exact isTyping_find? h
  · exact exists_checkBody place ((isTyping_find? h).reorder hmem)

/-- A catalog of steps between places. -/
def stepCatalog : Catalog := fun name =>
  if name = "step" then some ⟨[⟨"from", .int⟩, ⟨"to", .int⟩]⟩ else none

/-- A body in which every test waits for a literal after it. -/
def stepBody : List Literal :=
  [.compare .lt (.var "shift") (.var "count"),
    .negated ⟨"step", [.var "next", .var "shift"]⟩,
    .compare .eq (.arith .sub (.var "next") (.var "place")) (.var "shift"),
    .assign "next" (.arith .add (.var "place") (.const (.int 1))),
    .aggregate "count" .count (some (.var "to")) ["place"]
      [.atom ⟨"step", [.var "place", .var "to"]⟩],
    .atom ⟨"step", [.var "place", .wildcard]⟩]

/-- Read from front to back or from back to front, the variables of the body have these types only. -/
theorem checkBody_decides_typing_stepBody :
    Accepted stepCatalog stepBody ∧
      ∃ env, checkBody stepCatalog (.query "steps") stepBody = .ok env ∧
        env = [("place", .int), ("count", .int), ("next", .int), ("shift", .int)] ∧
          (∀ Γ, IsTyping stepCatalog stepBody Γ ↔ Γ = env.find?) ∧
            ∃ found, checkBody stepCatalog (.query "back") stepBody.reverse = .ok found ∧
              found.find? = env.find? := by
  have hfound : checkBody stepCatalog (.query "steps") stepBody =
      .ok [("place", .int), ("count", .int), ("next", .int), ("shift", .int)] := by rfl
  obtain ⟨haccepted, hunique⟩ := checkBody_decides_typing stepCatalog (.query "steps") stepBody
  obtain ⟨htyping, horder⟩ := hunique _ hfound
  exact ⟨haccepted.1 ⟨_, hfound⟩, _, hfound, rfl, htyping,
    horder (.query "back") stepBody.reverse fun _ => List.mem_reverse⟩

end Typing

end Stratalog
