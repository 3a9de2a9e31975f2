import Stratalog.Proofs.Semantics.Body
import Stratalog.Typing.Program

/-!
# What checks depend on

A check looks a schema up for each atom, and for nothing else. So the check of a body, of a derived
predicate or of a query comes out the same with every catalog that knows the same of what is read.
-/

namespace Stratalog.Typing

variable {catalog catalog' : Catalog} {atom : Atom} {body : List Literal} {predicate : Predicate}
  {query : Query}

theorem schemaFor_congr (h : catalog' atom.predicate = catalog atom.predicate) :
    schemaFor catalog' atom = schemaFor catalog atom := by
  rw [schemaFor, schemaFor, h]

theorem bindAtoms_congr
    (h : ∀ literal ∈ body, ∀ read ∈ literal.reads, catalog' read.1 = catalog read.1) (site : Site)
    (env : TypeEnv) : bindAtoms catalog' site env body = bindAtoms catalog site env body := by
  induction body generalizing env with
  | nil => rfl
  | cons literal rest ih =>
    obtain ⟨hliteral, hrest⟩ := List.forall_mem_cons.1 h
    cases literal with
    | atom a =>
      have hschema := schemaFor_congr (hliteral _ List.mem_cons_self)
      simp only [bindAtoms, bindAtom, hschema, ih hrest]
    | _ => exact ih hrest env

theorem checkNegations_congr
    (h : ∀ literal ∈ body, ∀ read ∈ literal.reads, catalog' read.1 = catalog read.1) (site : Site)
    (env : TypeEnv) :
    checkNegations catalog' site env body = checkNegations catalog site env body := by
  induction body with
  | nil => rfl
  | cons literal rest ih =>
    obtain ⟨hliteral, hrest⟩ := List.forall_mem_cons.1 h
    cases literal with
    | negated a =>
      have hschema := schemaFor_congr (hliteral _ List.mem_cons_self)
      simp only [checkNegations, checkNegation, hschema, ih hrest]
    | _ => exact ih hrest

variable [PatternEngine]

/-- A conjunction is checked the same if its aggregates are bound the same. -/
theorem conjunction_congr
    (h : ∀ literal ∈ body, ∀ read ∈ literal.reads, catalog' read.1 = catalog read.1) (site : Site)
    {bindRest bindRest' : TypeEnv → Except Fault TypeEnv}
    (hrest : ∀ env, bindRest' env = bindRest env) :
    conjunction catalog' site body bindRest' = conjunction catalog site body bindRest := by
  simp only [conjunction, bindAtoms_congr h, checkNegations_congr h, hrest]

theorem bindAggregates_congr {site : Site}
    (h : ∀ literal ∈ body, ∀ env,
      bindAggregate catalog' site env literal = bindAggregate catalog site env literal)
    (env : TypeEnv) :
    bindAggregates catalog' site env body = bindAggregates catalog site env body := by
  induction body generalizing env with
  | nil => rw [bindAggregates, bindAggregates]
  | cons literal rest ih =>
    obtain ⟨hliteral, hrest⟩ := List.forall_mem_cons.1 h
    simp only [bindAggregates, hliteral, ih hrest]

/-- An aggregate is bound the same with catalogs that know the same of what it reads. -/
theorem bindAggregate_congr {literal : Literal}
    (h : ∀ read ∈ literal.reads, catalog' read.1 = catalog read.1) (site : Site) (env : TypeEnv) :
    bindAggregate catalog' site env literal = bindAggregate catalog site env literal := by
  induction literal using Literal.induction generalizing site env with
  | aggregate result function target groupBy body ih =>
    have hbody : ∀ literal ∈ body, ∀ read ∈ literal.reads, catalog' read.1 = catalog read.1 :=
      fun literal hliteral read hread =>
        h (read.1, .aggregate) (Literal.mem_reads_aggregate hliteral hread)
    have hinside := conjunction_congr hbody (.aggregate result site) (bindAggregates_congr
      fun literal hliteral => ih literal hliteral (hbody literal hliteral) (.aggregate result site))
    simp only [bindAggregate, hinside]
  | _ => simp only [bindAggregate]

/-- A body is checked the same with catalogs that know the same of what it reads. -/
theorem checkBody_congr (h : ∀ read ∈ Literal.readsOfAll body, catalog' read.1 = catalog read.1)
    (site : Site) : checkBody catalog' site body = checkBody catalog site body := by
  have hbody : ∀ literal ∈ body, ∀ read ∈ literal.reads, catalog' read.1 = catalog read.1 :=
    fun literal hliteral read hread => h read (Literal.mem_readsOfAll hliteral hread)
  exact conjunction_congr hbody site
    (bindAggregates_congr fun literal hliteral => bindAggregate_congr (hbody literal hliteral) site)

theorem checkRules_congr (predicate : Predicate) {rules : List Rule}
    (h : ∀ rule ∈ rules, ∀ read ∈ Literal.readsOfAll rule.body, catalog' read.1 = catalog read.1)
    (index : Nat) :
    checkRules catalog' predicate index rules = checkRules catalog predicate index rules := by
  induction rules generalizing index with
  | nil => rfl
  | cons rule rest ih =>
    obtain ⟨hrule, hrest⟩ := List.forall_mem_cons.1 h
    simp only [checkRules, checkRule, checkBody_congr hrule, ih hrest]

/-- A derived predicate is checked the same with catalogs that know the same of what it reads. -/
theorem checkPredicate_congr (store : FactStore)
    (h : ∀ read ∈ predicate.reads, catalog' read.1 = catalog read.1) :
    checkPredicate store catalog' predicate = checkPredicate store catalog predicate := by
  have hrules := checkRules_congr predicate (fun rule hrule read hread =>
    h read (List.mem_flatMap.2 ⟨rule, hrule, hread⟩)) 0
  rw [checkPredicate, checkPredicate, hrules]

/-- A query is checked the same with catalogs that know the same of what it reads. -/
theorem checkQuery_congr (h : ∀ name ∈ query.reads, catalog' name = catalog name) :
    checkQuery catalog' query = checkQuery catalog query := by
  have hbody := checkBody_congr (fun read hread => h read.1 (List.mem_map_of_mem hread))
    (Site.query query.name)
  simp only [checkQuery, hbody]

end Stratalog.Typing
