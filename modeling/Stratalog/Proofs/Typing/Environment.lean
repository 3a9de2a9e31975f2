import Stratalog.Proofs.Semantics.Expression
import Stratalog.Typing.Body

/-!
# What checks say of bound variables

A check that succeeds tells which variables its environment binds: an expression has a type only
when all its variables are bound, and binding the arguments of an atom binds its variables and no
others.
-/

namespace Stratalog

/-- An atom fits a catalog when its predicate is known with one column per argument. -/
def Atom.Fits (catalog : Catalog) (atom : Atom) : Prop :=
  ∃ schema, catalog atom.predicate = some schema ∧ atom.args.length = schema.arity

namespace TypeEnv

/-- Binding a variable binds it and no other. -/
@[simp] theorem binds_bind (env : TypeEnv) (var : String) (type : ColumnType) (name : String) :
    (env.bind var type).binds name = true ↔ env.binds name = true ∨ name = var := by
  by_cases h : name = var
  · subst h
    simp [binds, find?, bind, List.lookup_append]
  · have hne : (name == var) = false := by simpa using h
    simp [binds, find?, bind, List.lookup_append, List.lookup_cons, hne, h]

/-- A variable whose type was found is bound. -/
theorem binds_of_get {env : TypeEnv} {site : Site} {var : String} {type : ColumnType}
    (h : env.get site var = .ok type) : env.binds var = true := by
  rw [get] at h
  split at h
  next hfound => simp [binds, hfound]
  next => cases h

end TypeEnv

namespace Typing

/-- An expression with a type has all its variables bound. -/
theorem binds_of_exprType {site : Site} {env : TypeEnv} {expr : Expr} {type : ColumnType}
    (h : exprType site env expr = .ok type) : ∀ name ∈ expr.vars, env.binds name = true := by
  induction expr using Expr.induction generalizing type with
  | var name =>
    intro other hother
    obtain rfl : other = name := by simpa [Expr.vars] using hother
    rw [exprType] at h
    exact TypeEnv.binds_of_get h
  | const value => simp [Expr.vars]
  | concat parts ih =>
    rw [exprType] at h
    obtain ⟨_, hparts, -⟩ := bind_eq_ok.1 h
    clear h
    rw [Expr.vars]
    induction parts with
    | nil => simp [Expr.varsOfAll]
    | cons part rest ihrest =>
      rw [exprTypes] at hparts
      obtain ⟨partType, hpart, hrest⟩ := bind_eq_ok.1 hparts
      rw [Expr.varsOfAll, List.forall_mem_append]
      exact ⟨ih part (by simp) hpart, ihrest (fun p hp => ih p (by simp [hp])) hrest⟩
  | arith op left right ihl ihr =>
    rw [exprType] at h
    obtain ⟨leftType, hleft, h⟩ := bind_eq_ok.1 h
    obtain ⟨_, -, h⟩ := bind_eq_ok.1 h
    obtain ⟨rightType, hright, -⟩ := bind_eq_ok.1 h
    rw [Expr.vars, List.forall_mem_append]
    exact ⟨ihl hleft, ihr hright⟩

/-- Binding a variable or checking it again leaves it bound, and changes nothing else. -/
theorem binds_bindOrExpect {site : Site} {env after : TypeEnv} {var : String} {type : ColumnType}
    (h : bindOrExpect site env var type = .ok after) (name : String) :
    after.binds name = true ↔ env.binds name = true ∨ name = var := by
  rw [bindOrExpect] at h
  split at h
  next bound hfound =>
    obtain ⟨_, -, rfl⟩ := map_eq_ok.1 h
    have hvar : env.binds var = true := by simp [TypeEnv.binds, hfound]
    constructor
    · exact Or.inl
    · rintro (hname | rfl)
      · exact hname
      · exact hvar
  next =>
    cases h
    exact env.binds_bind var type name

/-- A schema that was found has one column per argument. -/
theorem fits_of_schemaFor {catalog : Catalog} {atom : Atom} {schema : Schema}
    (h : schemaFor catalog atom = .ok schema) :
    catalog atom.predicate = some schema ∧ atom.args.length = schema.arity := by
  rw [schemaFor] at h
  split at h
  next => cases h
  next found hfound =>
    split at h
    next hlength =>
      cases h
      exact ⟨hfound, hlength⟩
    next => cases h

/-- Binding arguments binds the variables among them. -/
theorem binds_bindArgs {site : Site} {predicate : String} {env after : TypeEnv}
    {terms : List Term} {columns : List Column} (hlength : terms.length = columns.length)
    (h : bindArgs site predicate env terms columns = .ok after) (name : String) :
    after.binds name = true ↔ env.binds name = true ∨ name ∈ terms.filterMap Term.var? := by
  induction terms generalizing env columns with
  | nil =>
    simp only [bindArgs] at h
    cases h
    simp
  | cons term terms ih =>
    obtain _ | ⟨column, columns⟩ := columns
    · simp at hlength
    have hrest : terms.length = columns.length := by simpa using hlength
    cases term with
    | var var =>
      have hstep : ∃ next, (∀ name, next.binds name = true ↔ env.binds name = true ∨ name = var) ∧
          bindArgs site predicate next terms columns = .ok after := by
        simp only [bindArgs] at h
        split at h
        next type hfound =>
          obtain ⟨next, hnext, h⟩ := bind_eq_ok.1 h
          obtain ⟨_, -, rfl⟩ := map_eq_ok.1 hnext
          have hvar : env.binds var = true := by simp [TypeEnv.binds, hfound]
          exact ⟨_, fun name => ⟨Or.inl, fun hor => hor.elim id fun heq => heq ▸ hvar⟩, h⟩
        next => exact ⟨_, env.binds_bind var column.type, h⟩
      obtain ⟨next, hbinds, h⟩ := hstep
      rw [ih hrest h, hbinds, List.filterMap_cons_some (by rfl), List.mem_cons, or_assoc]
    | const value =>
      simp only [bindArgs] at h
      obtain ⟨next, hterm, h⟩ := bind_eq_ok.1 h
      obtain ⟨_, -, rfl⟩ := map_eq_ok.1 hterm
      rw [ih hrest h, List.filterMap_cons_none (by rfl)]
    | wildcard =>
      simp only [bindArgs] at h
      rw [ih hrest h, List.filterMap_cons_none (by rfl)]

/-- Binding an atom shows that it fits and binds its variables. -/
theorem binds_bindAtom {catalog : Catalog} {site : Site} {env after : TypeEnv} {atom : Atom}
    (h : bindAtom catalog site env atom = .ok after) :
    atom.Fits catalog ∧
      ∀ name, after.binds name = true ↔ env.binds name = true ∨ name ∈ atom.vars := by
  rw [bindAtom] at h
  obtain ⟨schema, hschema, h⟩ := bind_eq_ok.1 h
  obtain ⟨hfound, hlength⟩ := fits_of_schemaFor hschema
  exact ⟨⟨schema, hfound, hlength⟩, binds_bindArgs hlength h⟩

/-- Binding the atoms of a body shows that each fits and binds the variables of all. -/
theorem binds_bindAtoms {catalog : Catalog} {site : Site} {env after : TypeEnv}
    {body : List Literal} (h : bindAtoms catalog site env body = .ok after) :
    (∀ atom, Literal.atom atom ∈ body → atom.Fits catalog) ∧
      ∀ name, after.binds name = true ↔
        env.binds name = true ∨ ∃ atom, Literal.atom atom ∈ body ∧ name ∈ atom.vars := by
  induction body generalizing env with
  | nil =>
    cases h
    simp
  | cons literal rest ih =>
    cases literal with
    | atom atom =>
      rw [bindAtoms] at h
      obtain ⟨next, hatom, h⟩ := bind_eq_ok.1 h
      obtain ⟨hfits, hbinds⟩ := binds_bindAtom hatom
      obtain ⟨hrestFits, hrestBinds⟩ := ih h
      refine ⟨?_, fun name => ?_⟩
      · simpa [hfits] using hrestFits
      · rw [hrestBinds, hbinds, or_assoc]
        simp [or_and_right, exists_or]
    | _ =>
      simp only [bindAtoms] at h
      simpa using ih h

/-- Checking the negated atoms of a body shows that each fits and has its variables bound. -/
theorem binds_checkNegations {catalog : Catalog} {site : Site} {env : TypeEnv}
    {body : List Literal} (h : checkNegations catalog site env body = .ok ()) :
    ∀ atom, Literal.negated atom ∈ body →
      atom.Fits catalog ∧ ∀ name ∈ atom.vars, env.binds name = true := by
  induction body with
  | nil => simp
  | cons literal rest ih =>
    cases literal with
    | negated atom =>
      rw [checkNegations] at h
      obtain ⟨_, hatom, h⟩ := bind_eq_ok.1 h
      intro other hother
      rcases List.mem_cons.1 hother with heq | hother
      · cases heq
        rw [checkNegation] at hatom
        obtain ⟨schema, hschema, hatom⟩ := bind_eq_ok.1 hatom
        obtain ⟨hfound, hlength⟩ := fits_of_schemaFor hschema
        refine ⟨⟨schema, hfound, hlength⟩, fun name hname => ?_⟩
        dsimp only at hatom
        split at hatom
        next hempty =>
          by_contra hunbound
          have hmem : name ∈ (atom.vars.filter fun var => !env.binds var).eraseDups := by
            simpa using ⟨hname, by simpa using hunbound⟩
          rw [List.isEmpty_iff.1 hempty] at hmem
          exact List.not_mem_nil hmem
        next => cases hatom
      · exact ih h other hother
    | _ =>
      simp only [checkNegations] at h
      simpa using ih h

end Typing

end Stratalog
