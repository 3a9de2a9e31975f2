import Stratalog.Proofs.Typing.Judgement

/-!
# Inferring types

The check of a body binds variables in the order in which it meets them, and never looks again at a
literal that it used to bind one. Each step imposes a condition on types all the same. The types that
it found satisfy the condition, as do all larger ones; and it binds no variable to a type other than
the one the variable has in any types that satisfy the condition.
-/

namespace Stratalog

namespace TypeEnv

variable {env : TypeEnv} {Γ : Types} {var name : String} {type : ColumnType} {site : Site}

/-- After binding, a variable has its old type, or the new one if it is the variable bound. -/
theorem find?_bind (env : TypeEnv) (var : String) (type : ColumnType) (name : String) :
    (env.bind var type).find? name =
      (env.find? name).or (if name = var then some type else none) := by
  by_cases h : name = var
  · subst h
    simp [find?, bind, List.lookup_append]
  · have hne : (name == var) = false := by simpa using h
    simp [find?, bind, List.lookup_append, List.lookup_cons, hne, h]

/-- Binding keeps the types there are. -/
theorem within_bind (env : TypeEnv) (var : String) (type : ColumnType) :
    Types.Within env.find? (env.bind var type).find? := by
  intro name found hfound
  rw [find?_bind, hfound, Option.some_or]

/-- A variable bound anew has the type it was bound with. -/
theorem find?_bind_self (hnew : env.find? var = none) : (env.bind var type).find? var = some type := by
  rw [find?_bind, hnew, Option.none_or, if_pos rfl]

/-- Binding a variable to the type it has elsewhere stays within the types there. -/
theorem bind_within (h : Types.Within env.find? Γ) (hvar : Γ var = some type) :
    Types.Within (env.bind var type).find? Γ := by
  intro name found hfound
  rw [find?_bind, Option.or_eq_some_iff] at hfound
  rcases hfound with hfound | ⟨-, hfound⟩
  · exact h name found hfound
  · split at hfound
    next heq =>
      cases hfound
      rw [heq, hvar]
    next => cases hfound

/-- The type of a variable is found when it has one. -/
theorem get_eq_ok_iff : env.get site var = .ok type ↔ env.find? var = some type := by
  rw [get]
  cases env.find? var <;> simp

end TypeEnv

namespace Typing

open Literal

variable {catalog : Catalog} {site : Site} {env after : TypeEnv} {Γ : Types} {expr : Expr}
  {type : ColumnType} {var : String} {body : List Literal}

/-- A type is as expected when it is the same. -/
theorem expect_eq_ok_iff {expected found : ColumnType} :
    expect site expected found = .ok () ↔ expected = found := by
  rw [expect]
  split <;> simp_all

/-- The type found for an expression is its type. -/
theorem exprType_eq_ok_iff : exprType site env expr = .ok type ↔ expr.HasType env.find? type := by
  induction expr using Expr.induction generalizing type with
  | var name =>
    rw [exprType, TypeEnv.get_eq_ok_iff]
    exact ⟨.var, fun h => by cases h with | var hname => exact hname⟩
  | const value =>
    rw [exprType]
    constructor
    · intro h
      cases h
      exact .const value
    · intro h
      cases h
      rfl
  | concat parts ih =>
    have hall : exprTypes site env parts = .ok () ↔
        ∃ types, List.Forall₂ (Expr.HasType env.find?) parts types := by
      induction parts with
      | nil =>
        rw [exprTypes]
        exact iff_of_true rfl ⟨[], .nil⟩
      | cons part rest ihrest =>
        rw [exprTypes, bind_eq_ok]
        simp only [ih part List.mem_cons_self, ihrest fun p hp => ih p (List.mem_cons_of_mem _ hp),
          List.forall₂_cons_left_iff]
        constructor
        · rintro ⟨found, hpart, types, hrest⟩
          exact ⟨found :: types, found, types, hpart, hrest, rfl⟩
        · rintro ⟨-, found, types, hpart, hrest, -⟩
          exact ⟨found, hpart, types, hrest⟩
    rw [exprType, bind_eq_ok]
    constructor
    · rintro ⟨_, hparts, htype⟩
      cases htype
      obtain ⟨types, htypes⟩ := hall.1 hparts
      exact .concat htypes
    · intro h
      cases h with
      | concat hparts => exact ⟨(), hall.2 ⟨_, hparts⟩, rfl⟩
  | arith op left right ihl ihr =>
    simp only [exprType, bind_eq_ok, ihl, ihr]
    constructor
    · rintro ⟨_, hleft, ⟨⟩, hint, _, hright, ⟨⟩, hint', htype⟩
      cases htype
      exact .arith (expect_eq_ok_iff.1 hint ▸ hleft) (expect_eq_ok_iff.1 hint' ▸ hright)
    · intro h
      cases h with
      | arith hleft hright =>
        have hint : expect site .int .int = .ok () := expect_eq_ok_iff.2 rfl
        exact ⟨_, hleft, (), hint, _, hright, (), hint, rfl⟩

/-- A step that binds variables imposes a condition on types: once it succeeded, all types that have
those it bound satisfy the condition; and it succeeds within all types that satisfy it. -/
structure Imposes (step : TypeEnv → Except Fault TypeEnv) (condition : Types → Prop) : Prop where
  sound : ∀ env after, step env = .ok after →
    Types.Within env.find? after.find? ∧ ∀ Γ, Types.Within after.find? Γ → condition Γ
  complete : ∀ (env : TypeEnv) (Γ : Types), Types.Within env.find? Γ → condition Γ →
    ∃ after, step env = .ok after ∧ Types.Within after.find? Γ

namespace Imposes

variable {first second : TypeEnv → Except Fault TypeEnv} {C D : Types → Prop}

/-- Binding nothing imposes nothing. -/
theorem pure : Imposes .ok fun _ => True := by
  constructor
  · rintro env _ ⟨⟩
    exact ⟨.refl _, fun _ _ => trivial⟩
  · exact fun env Γ h _ => ⟨env, rfl, h⟩

/-- One step after another imposes both conditions. -/
theorem bind (hfirst : Imposes first C) (hsecond : Imposes second D) :
    Imposes (fun env => first env >>= second) fun Γ => C Γ ∧ D Γ := by
  constructor
  · intro env after h
    obtain ⟨next, hnext, hafter⟩ := bind_eq_ok.1 h
    obtain ⟨hkept, hC⟩ := hfirst.sound env next hnext
    obtain ⟨hkept', hD⟩ := hsecond.sound next after hafter
    exact ⟨hkept.trans hkept', fun Γ hΓ => ⟨hC Γ (hkept'.trans hΓ), hD Γ hΓ⟩⟩
  · rintro env Γ h ⟨hC, hD⟩
    obtain ⟨next, hnext, hwithin⟩ := hfirst.complete env Γ h hC
    obtain ⟨after, hafter, hwithin'⟩ := hsecond.complete next Γ hwithin hD
    exact ⟨after, bind_eq_ok.2 ⟨next, hnext, hafter⟩, hwithin'⟩

/-- A step imposes every condition that says the same. -/
theorem congr (h : Imposes first C) (hiff : ∀ Γ, C Γ ↔ D Γ) : Imposes first D := by
  constructor
  · exact fun env after hstep =>
      ⟨(h.sound env after hstep).1, fun Γ hΓ => (hiff Γ).1 ((h.sound env after hstep).2 Γ hΓ)⟩
  · exact fun env Γ hΓ hD => h.complete env Γ hΓ ((hiff Γ).2 hD)

end Imposes

/-- Binding a variable, or checking the type it has, imposes its type. -/
theorem imposes_bindVar (place : Site) (var : String) (type : ColumnType) :
    Imposes (fun env => match env.find? var with
      | some bound => (expect place bound type).map fun _ => env
      | none => .ok (env.bind var type)) fun Γ => Γ var = some type := by
  constructor
  · intro env after h
    split at h
    next bound hbound =>
      obtain ⟨_, hexpect, rfl⟩ := map_eq_ok.1 h
      obtain rfl := expect_eq_ok_iff.1 hexpect
      exact ⟨.refl _, fun Γ hΓ => hΓ var bound hbound⟩
    next hnew =>
      cases h
      exact ⟨env.within_bind var type, fun Γ hΓ => hΓ var type (TypeEnv.find?_bind_self hnew)⟩
  · intro env Γ h hvar
    cases hfound : env.find? var with
    | some bound =>
      have heq : bound = type := Option.some.inj ((h var bound hfound).symm.trans hvar)
      exact ⟨env, map_eq_ok.2 ⟨(), expect_eq_ok_iff.2 heq, rfl⟩, h⟩
    | none => exact ⟨_, rfl, TypeEnv.bind_within h hvar⟩

/-- Binding a variable imposes its type. -/
theorem imposes_bindOrExpect (site : Site) (var : String) (type : ColumnType) :
    Imposes (fun env => bindOrExpect site env var type) fun Γ => Γ var = some type :=
  imposes_bindVar (.variable var site) var type

/-- Bind a term to the column it stands in. -/
def bindTerm (place : Site) (type : ColumnType) : Term → TypeEnv → Except Fault TypeEnv
  | .var name, env =>
    match env.find? name with
    | some bound => (expect place bound type).map fun _ => env
    | none => .ok (env.bind name type)
  | .const value, env => (expect place type value.type).map fun _ => env
  | .wildcard, env => .ok env

/-- Arguments are bound one after the other. -/
theorem bindArgs_cons (site : Site) (predicate : String) (env : TypeEnv) (term : Term)
    (terms : List Term) (column : Column) (columns : List Column) :
    bindArgs site predicate env (term :: terms) (column :: columns) =
      bindTerm (.argument column.name predicate site) column.type term env >>= fun env =>
        bindArgs site predicate env terms columns := by
  cases term with
  | var name =>
    simp only [bindArgs, bindTerm]
    cases env.find? name <;> rfl
  | const value => rfl
  | wildcard => rfl

/-- Binding a term imposes that it may stand in its column. -/
theorem imposes_bindTerm (place : Site) (type : ColumnType) (term : Term) :
    Imposes (bindTerm place type term) fun Γ => term.HasType Γ type := by
  cases term with
  | var name => exact imposes_bindVar place name type
  | const value =>
    constructor
    · intro env after h
      obtain ⟨_, hexpect, rfl⟩ := map_eq_ok.1 h
      exact ⟨.refl _, fun Γ _ => (expect_eq_ok_iff.1 hexpect).symm⟩
    · intro env Γ h htype
      exact ⟨env, map_eq_ok.2 ⟨(), expect_eq_ok_iff.2 htype.symm, rfl⟩, h⟩
  | wildcard => exact Imposes.pure

/-- Binding the arguments of an atom imposes that each may stand in its column. -/
theorem imposes_bindArgs (site : Site) (predicate : String) (terms : List Term)
    (columns : List Column) (hlength : terms.length = columns.length) :
    Imposes (fun env => bindArgs site predicate env terms columns) fun Γ =>
      List.Forall₂ (Term.HasType Γ) terms (columns.map Column.type) := by
  induction terms generalizing columns with
  | nil =>
    obtain rfl : columns = [] := List.length_eq_zero_iff.1 hlength.symm
    exact Imposes.pure.congr fun Γ => by simp
  | cons term terms ih =>
    obtain _ | ⟨column, columns⟩ := columns
    · cases hlength
    simp only [bindArgs_cons]
    exact ((imposes_bindTerm _ _ _).bind (ih columns (by simpa using hlength))).congr fun Γ => by
      rw [List.map_cons, List.forall₂_cons]

/-- A schema is found when it is the one in the catalog and fits. -/
theorem schemaFor_eq_ok_iff {atom : Atom} {schema : Schema} :
    schemaFor catalog atom = .ok schema ↔
      catalog atom.predicate = some schema ∧ atom.args.length = schema.arity := by
  refine ⟨fits_of_schemaFor, fun ⟨hschema, hlength⟩ => ?_⟩
  rw [schemaFor, hschema]
  exact if_pos hlength

/-- Binding an atom imposes that it is well typed. -/
theorem imposes_bindAtom (catalog : Catalog) (site : Site) (atom : Atom) :
    Imposes (fun env => bindAtom catalog site env atom) fun Γ => atom.WellTyped catalog Γ := by
  constructor
  · intro env after h
    obtain ⟨schema, hschema, h⟩ := bind_eq_ok.1 h
    obtain ⟨hfound, hlength⟩ := schemaFor_eq_ok_iff.1 hschema
    obtain ⟨hkept, htyped⟩ := (imposes_bindArgs site _ _ _ hlength).sound env after h
    exact ⟨hkept, fun Γ hΓ => ⟨schema, hfound, htyped Γ hΓ⟩⟩
  · rintro env Γ h ⟨schema, hfound, hargs⟩
    have hlength : atom.args.length = schema.columns.length := by
      rw [hargs.length_eq, Schema.length_types, Schema.arity]
    obtain ⟨after, hafter, hwithin⟩ :=
      (imposes_bindArgs site atom.predicate _ _ hlength).complete env Γ h hargs
    exact ⟨after, bind_eq_ok.2 ⟨schema, schemaFor_eq_ok_iff.2 ⟨hfound, hlength⟩, hafter⟩, hwithin⟩

/-- Binding the atoms of a body imposes that each of them is well typed. -/
theorem imposes_bindAtoms (catalog : Catalog) (site : Site) (body : List Literal) :
    Imposes (fun env => bindAtoms catalog site env body) fun Γ =>
      ∀ atom, .atom atom ∈ body → atom.WellTyped catalog Γ := by
  induction body with
  | nil => exact Imposes.pure.congr fun Γ => by simp
  | cons literal rest ih =>
    cases literal with
    | atom atom =>
      simp only [bindAtoms]
      exact ((imposes_bindAtom catalog site atom).bind ih).congr fun Γ => by
        simp [forall_eq_or_imp]
    | _ =>
      simp only [bindAtoms]
      exact ih.congr fun Γ => by simp

/-- Binding the grouping variables of an aggregate imposes that they have the types they have in its
body. -/
theorem imposes_bindGroup (site : Site) (inner : TypeEnv) (vars : List String) :
    Imposes (fun env => bindGroup site inner env vars) fun Γ =>
      ∀ name ∈ vars, ∃ type, inner.find? name = some type ∧ Γ name = some type := by
  induction vars with
  | nil => exact Imposes.pure.congr fun Γ => by simp
  | cons var rest ih =>
    have hhead : Imposes (fun env => do bindOrExpect site env var (← inner.get site var))
        fun Γ => ∃ type, inner.find? var = some type ∧ Γ var = some type := by
      constructor
      · intro env after h
        obtain ⟨type, htype, h⟩ := bind_eq_ok.1 h
        obtain ⟨hkept, hvar⟩ := (imposes_bindOrExpect site var type).sound env after h
        exact ⟨hkept, fun Γ hΓ => ⟨type, TypeEnv.get_eq_ok_iff.1 htype, hvar Γ hΓ⟩⟩
      · rintro env Γ h ⟨type, hinner, hvar⟩
        obtain ⟨after, hafter, hwithin⟩ :=
          (imposes_bindOrExpect site var type).complete env Γ h hvar
        exact ⟨after, bind_eq_ok.2 ⟨type, TypeEnv.get_eq_ok_iff.2 hinner, hafter⟩, hwithin⟩
    have hcons : (fun env => bindGroup site inner env (var :: rest)) = fun env =>
        (do bindOrExpect site env var (← inner.get site var)) >>= fun env =>
          bindGroup site inner env rest := by
      funext env
      rw [bindGroup, bind_assoc]
    rw [hcons]
    exact (hhead.bind ih).congr fun Γ => by rw [List.forall_mem_cons]

end Typing

end Stratalog
