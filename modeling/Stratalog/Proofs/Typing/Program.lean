import Stratalog.Proofs.Typing.Body
import Stratalog.Typing.Program

/-!
# Well-formed rules and queries

A rule that passes its check has a head as wide as its predicate, free of wildcards, whose
variables the body binds. A query that passes its check selects expressions over variables that its
body binds.
-/

namespace Stratalog

/-- What the check of a rule says: the body passes its own check, and the head takes constants and
variables that the body binds, one for each column. -/
structure Rule.Checked [PatternEngine] (catalog : Catalog) (width : Nat) (rule : Rule) : Prop where
  length : rule.head.length = width
  body : ∃ site env, Typing.checkBody catalog site rule.body = .ok env ∧
    ∀ term ∈ rule.head, term ≠ .wildcard ∧ ∀ name, term = .var name → env.binds name = true

/-- What a checked body reads is known. -/
theorem Typing.exists_schema_of_checkBody [PatternEngine] {catalog : Catalog} {site : Site}
    {body : List Literal}
    {env : TypeEnv} (h : checkBody catalog site body = .ok env) :
    ∀ read ∈ Literal.readsOfAll body, ∃ schema, catalog read.1 = some schema := by
  intro read hread
  rw [Literal.readsOfAll_eq_flatMap] at hread
  obtain ⟨literal, hliteral, hin⟩ := List.mem_flatMap.1 hread
  have hwell := Literal.wellFormedAll_iff.1 (wellFormed_of_checkBody h).1 literal hliteral
  exact Literal.exists_schema_of_wellFormed hwell read hin

namespace Typing

/-- A head that passes its check takes constants and bound variables. -/
theorem forall_of_checkHead {site : Site} {env : TypeEnv} {terms : List Term}
    {columns : List Column} (hlength : terms.length = columns.length)
    (h : checkHead site env terms columns = .ok ()) :
    ∀ term ∈ terms, term ≠ .wildcard ∧ ∀ name, term = .var name → env.binds name = true := by
  induction terms generalizing columns with
  | nil => simp
  | cons term terms ih =>
    obtain _ | ⟨column, columns⟩ := columns
    · simp at hlength
    have hrest : terms.length = columns.length := by simpa using hlength
    rw [List.forall_mem_cons]
    cases term with
    | var name =>
      simp only [checkHead] at h
      obtain ⟨type, htype, h⟩ := bind_eq_ok.1 h
      obtain ⟨_, -, h⟩ := bind_eq_ok.1 h
      refine ⟨⟨by simp, fun other heq => ?_⟩, ih hrest h⟩
      cases heq
      exact TypeEnv.binds_of_get htype
    | const value =>
      simp only [checkHead] at h
      obtain ⟨_, -, h⟩ := bind_eq_ok.1 h
      exact ⟨⟨by simp, by simp⟩, ih hrest h⟩
    | wildcard =>
      simp only [checkHead] at h
      cases h

/-- A rule that passes its check is as the check says. -/
theorem checked_of_checkRule [PatternEngine] {catalog : Catalog} {predicate : Predicate} {index : Nat}
    {rule : Rule}
    (h : checkRule catalog predicate index rule = .ok ()) :
    rule.Checked catalog predicate.columns.length := by
  rw [checkRule] at h
  split at h
  next hlength =>
    obtain ⟨env, hbody, h⟩ := bind_eq_ok.1 h
    exact ⟨hlength, _, env, hbody, forall_of_checkHead hlength h⟩
  next => cases h

/-- A predicate that passes its check is no base relation, and its rules pass theirs. -/
theorem checked_of_checkPredicate [PatternEngine] {store : FactStore} {catalog : Catalog}
    {predicate : Predicate}
    (h : checkPredicate store catalog predicate = .ok ()) :
    store.hasRelation predicate.name = false ∧
      ∀ rule ∈ predicate.rules, rule.Checked catalog predicate.columns.length := by
  have hrules : ∀ index rules, checkRules catalog predicate index rules = .ok () →
      ∀ rule ∈ rules, rule.Checked catalog predicate.columns.length := by
    intro index rules
    induction rules generalizing index with
    | nil => simp
    | cons rule rest ih =>
      intro h
      rw [checkRules] at h
      obtain ⟨_, hrule, h⟩ := bind_eq_ok.1 h
      exact List.forall_mem_cons.2 ⟨checked_of_checkRule hrule, ih (index + 1) h⟩
  rw [checkPredicate] at h
  split at h
  next => cases h
  next hbase => exact ⟨by simpa using hbase, hrules 0 _ h⟩

/-- Selections with types have their variables bound. -/
theorem binds_of_selectColumns {site : Site} {env : TypeEnv} {select : List Selection}
    {columns : List Column} (h : selectColumns site env select = .ok columns) :
    ∀ item ∈ select, ∀ name ∈ item.expr.vars, env.binds name = true := by
  induction select generalizing columns with
  | nil => simp
  | cons item rest ih =>
    rw [selectColumns] at h
    obtain ⟨type, htype, h⟩ := bind_eq_ok.1 h
    obtain ⟨others, hothers, -⟩ := bind_eq_ok.1 h
    exact List.forall_mem_cons.2 ⟨binds_of_exprType htype, ih hothers⟩

/-- A query that passes its check has a body that does, which binds what is selected. -/
theorem checked_of_checkQuery [PatternEngine] {catalog : Catalog} {query : Query} {schema : Schema}
    (h : checkQuery catalog query = .ok schema) :
    ∃ site env, checkBody catalog site query.body = .ok env ∧
      ∀ item ∈ query.select, ∀ name ∈ item.expr.vars, env.binds name = true := by
  rw [checkQuery] at h
  split at h
  next => cases h
  next =>
    obtain ⟨env, hbody, h⟩ := bind_eq_ok.1 h
    obtain ⟨columns, hcolumns, -⟩ := bind_eq_ok.1 h
    exact ⟨_, env, hbody, binds_of_selectColumns hcolumns⟩

end Typing

end Stratalog
