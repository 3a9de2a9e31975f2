import Stratalog.Proofs.Typing.Judgement

/-!
# Typed values

When the rows of every predicate that is read are accepted by its schema, a literal that is well typed
and holds gives values of the right types to the variables it binds. So an assignment that satisfies a
body gives every variable a value of the type that a typing of the body has for it, and expressions
take values of their types.

This holds inside aggregates first: the grouping variables have the values, and the least and greatest
result is a value, that some assignment of the inner body gives.
-/

namespace Stratalog

/-- Whether the value of a variable has the type of the variable, if there is one. -/
def Assignment.Fits (σ : Assignment) (Γ : Types) (name : String) : Prop :=
  ∀ type, Γ name = some type → (σ name).type = type

/-- Whether the rows of a predicate are those that its schema accepts. -/
def Interpretation.ConformsAt (I : Interpretation) (catalog : Catalog) (name : String) : Prop :=
  ∀ schema, catalog name = some schema → ∀ row ∈ I name, schema.accepts row = true

variable {catalog : Catalog} {render : Value → String} {I : Interpretation} {Γ Δ : Types}
  {σ : Assignment}

/-- The value of an expression has the type of the expression. -/
theorem Expr.HasType.type_value {expr : Expr} {type : ColumnType} (h : expr.HasType Γ type)
    (hfits : ∀ name ∈ expr.vars, σ.Fits Γ name) {value : Value}
    (hvalue : expr.value render σ = some value) : value.type = type := by
  cases h with
  | @var name _ hname =>
    cases hvalue
    exact hfits name (by simp [Expr.vars]) type hname
  | const constant =>
    cases hvalue
    rfl
  | concat =>
    obtain ⟨_, -, rfl⟩ := Option.map_eq_some_iff.1 hvalue
    rfl
  | arith =>
    simp only [Expr.value, Option.bind_eq_bind, Option.bind_eq_some_iff, Option.pure_def,
      Option.some.injEq] at hvalue
    obtain ⟨_, -, _, -, _, -, _, -, _, -, rfl⟩ := hvalue
    rfl

/-- Terms that agree with a row of the columns they are typed for have variables of these types. -/
theorem fits_of_forall₂_agrees {terms : List Term} {types : List ColumnType} {row : Row}
    (htyped : List.Forall₂ (Term.HasType Γ) terms types)
    (hagrees : List.Forall₂ (Term.Agrees σ) terms row) (hrow : row.map Value.type = types) :
    ∀ name, Term.var name ∈ terms → σ.Fits Γ name := by
  induction hagrees generalizing types with
  | nil => simp
  | @cons term value terms row hterm _ ih =>
    subst hrow
    obtain ⟨htype, hrest⟩ := List.forall₂_cons.1 htyped
    intro name hname
    rcases List.mem_cons.1 hname with rfl | hname
    · intro type hsome
      rw [show σ name = value from hterm]
      exact Option.some.inj ((show Γ name = some value.type from htype).symm.trans hsome)
    · exact ih hrest rfl name hname

/-- An atom that matches an accepted row has variables of the types of the columns. -/
theorem Atom.WellTyped.fits_of_matches {atom : Atom} (h : atom.WellTyped catalog Γ)
    (hconforms : I.ConformsAt catalog atom.predicate) {row : Row} (hrow : row ∈ I atom.predicate)
    (hmatches : atom.Matches σ row) : ∀ name ∈ atom.vars, σ.Fits Γ name := by
  obtain ⟨schema, hschema, htyped⟩ := h
  have haccepts : row.map Value.type = schema.types := by
    simpa [Schema.accepts] using hconforms schema hschema row hrow
  intro name hname
  obtain ⟨term, hterm, hvar⟩ := List.mem_filterMap.1 hname
  cases term with
  | var found =>
    cases hvar
    exact fits_of_forall₂_agrees htyped hmatches haccepts _ hterm
  | const value => cases hvar
  | wildcard => cases hvar

namespace FoldFunction

variable {function : FoldFunction} {grouped : Bool} {group : Set Assignment}
  {value : Assignment → Option Value} {result : Value} {target : Option Expr} {type : ColumnType}

/-- Where there is grouping, a group with a result has an assignment. -/
theorem Folds.nonempty (h : function.Folds grouped group value result) (hgrouped : grouped = true) :
    group.Nonempty :=
  h.1 hgrouped

/-- The result of an aggregate has the type of the result. -/
theorem HasType.type_result (h : function.HasType Δ target type)
    (hfolds : function.Folds grouped group (fun τ => target.bind (·.value render τ)) result)
    (hfits : ∀ τ ∈ group, ∀ name, τ.Fits Δ name) : result.type = type := by
  cases function with
  | count =>
    obtain ⟨-, rfl⟩ := hfolds
    exact h.1.symm
  | sum =>
    obtain ⟨-, rfl⟩ := hfolds
    exact h.1.symm
  | min | max =>
    obtain ⟨expr, rfl, htype⟩ := h
    obtain ⟨-, ⟨τ, hτ, hresult⟩, -⟩ := hfolds
    exact htype.type_value (fun name _ => hfits τ hτ name) hresult

end FoldFunction

namespace Literal

/-- Whether a literal that holds gives values of the right types to the variables it binds: an atom or
an aggregate to all it mentions, and an assignment or an equality to the one it offers, once the others
have theirs. -/
def Fits (literal : Literal) (Γ : Types) (σ : Assignment) : Prop :=
  (literal.isJoin = true → ∀ name ∈ literal.scope, σ.Fits Γ name) ∧
    ∀ var expr, literal.Offers var expr → (∀ name ∈ expr.vars, σ.Fits Γ name) → σ.Fits Γ var

/-- Literals that fit give every variable they bind a value of its type. -/
theorem Bound.fits {body : List Literal} {name : String} (h : Bound body name)
    (hbody : ∀ literal ∈ body, literal.Fits Γ σ) : σ.Fits Γ name := by
  induction h with
  | join hmem hjoin hvar => exact (hbody _ hmem).1 hjoin _ hvar
  | offer hmem hoffer _ ih => exact (hbody _ hmem).2 _ _ hoffer ih

variable [PatternEngine]

/-- An assignment under which the literals of a typed body fit gives every variable a value of its
type. -/
theorem IsTyping.fits {body : List Literal} (h : IsTyping catalog body Γ)
    (hbody : ∀ literal ∈ body, literal.Fits Γ σ) (name : String) : σ.Fits Γ name := by
  intro type htype
  have hbound : Bound body name := (h.domain name).1 (by rw [htype]; rfl)
  exact hbound.fits hbody type htype

/-- An offer that holds gives the variable the value of the expression. -/
theorem value_of_offers {literal : Literal} {var : String} {expr : Expr}
    (h : literal.Offers var expr) (hholds : literal.Holds render I σ) :
    expr.value render σ = some (σ var) := by
  rcases h with rfl | rfl | rfl
  · rwa [Holds] at hholds
  · simpa [Holds, Expr.value, CompareOp.Relates, CompareOp.holds] using hholds
  · simpa [Holds, Expr.value, CompareOp.Relates, CompareOp.holds] using hholds

/-- The expression of a well-typed offer has the type of the variable. -/
theorem WellTyped.hasType_of_offers {literal : Literal} (h : literal.WellTyped catalog Γ)
    {var : String} {expr : Expr} (hoffer : literal.Offers var expr) :
    ∃ type, Γ var = some type ∧ expr.HasType Γ type := by
  rcases hoffer with rfl | rfl | rfl
  · rwa [WellTyped] at h
  · rw [WellTyped] at h
    obtain ⟨type, hvar, hexpr⟩ := h
    cases hvar with
    | var hname => exact ⟨type, hname, hexpr⟩
  · rw [WellTyped] at h
    obtain ⟨type, hexpr, hvar⟩ := h
    cases hvar with
    | var hname => exact ⟨type, hname, hexpr⟩

/-- A well-typed offer that holds fits. -/
theorem WellTyped.fits_of_offers {literal : Literal} (h : literal.WellTyped catalog Γ)
    (hholds : literal.Holds render I σ) {var : String} {expr : Expr}
    (hoffer : literal.Offers var expr) (hfits : ∀ name ∈ expr.vars, σ.Fits Γ name) :
    σ.Fits Γ var := by
  obtain ⟨type, hvar, hexpr⟩ := h.hasType_of_offers hoffer
  intro found hfound
  rw [hvar] at hfound
  cases hfound
  exact hexpr.type_value hfits (value_of_offers hoffer hholds)

/-- A literal that is well typed, reads accepted rows and holds fits. -/
theorem WellTyped.fits (literal : Literal) : ∀ {Γ : Types} {σ : Assignment},
    literal.WellTyped catalog Γ → (∀ read ∈ literal.reads, I.ConformsAt catalog read.1) →
      literal.Holds render I σ → literal.Fits Γ σ := by
  induction literal using Literal.induction with
  | atom a =>
    intro Γ σ hwell hreads hholds
    refine ⟨fun _ => ?_, fun _ _ => hwell.fits_of_offers hholds⟩
    rw [WellTyped] at hwell
    rw [Holds] at hholds
    obtain ⟨row, hrow, hmatches⟩ := hholds
    exact hwell.fits_of_matches (hreads (a.predicate, .positive) (by simp [reads])) hrow hmatches
  | negated | compare | assign =>
    intro Γ σ hwell hreads hholds
    exact ⟨by rintro ⟨⟩, fun _ _ => hwell.fits_of_offers hholds⟩
  | aggregate result function target groupBy body ih =>
    intro Γ σ hwell hreads hholds
    refine ⟨fun _ => ?_, fun _ _ => hwell.fits_of_offers hholds⟩
    obtain ⟨Δ, htyping, hgroup, type, htype, hresult⟩ := wellTyped_aggregate_iff.1 hwell
    rw [Holds] at hholds
    have hinside : ∀ τ : Assignment, HoldsAll render I body τ → ∀ name, τ.Fits Δ name := by
      intro τ hτ
      refine htyping.fits fun literal hliteral => ih literal hliteral (htyping.typed literal hliteral)
        (fun read hread => ?_) (holdsAll_iff.1 hτ literal hliteral)
      exact hreads (read.1, .aggregate) (mem_reads_aggregate hliteral hread)
    rw [scope, List.forall_mem_append, List.forall_mem_singleton]
    constructor
    · -- A grouping variable has the value that some assignment of the group gives it.
      intro name hname
      have hgrouped : (!groupBy.isEmpty) = true := by
        simpa using List.ne_nil_of_mem hname
      obtain ⟨τ, -, hτ, hsame⟩ := hholds.nonempty hgrouped
      obtain ⟨inner, hinner, houter⟩ := hgroup name hname
      intro found hfound
      rw [houter] at hfound
      cases hfound
      rw [← hsame name hname]
      exact hinside τ hτ name inner hinner
    · -- The least and the greatest result are values that the group has.
      intro found hfound
      rw [hresult] at hfound
      cases hfound
      exact htype.type_result hholds fun τ hτ => hinside τ hτ.2.1

/-- An assignment that satisfies a typed body gives every variable a value of its type, provided the
rows that are read are accepted. Literals may read the rows of different interpretations. -/
theorem IsTyping.fits_of_holds {body : List Literal} (h : IsTyping catalog body Γ)
    (hholds : ∀ literal ∈ body, ∃ J : Interpretation,
      (∀ read ∈ literal.reads, J.ConformsAt catalog read.1) ∧ literal.Holds render J σ)
    (name : String) : σ.Fits Γ name := by
  refine h.fits (fun literal hliteral => ?_) name
  obtain ⟨J, hreads, hliteralHolds⟩ := hholds literal hliteral
  exact WellTyped.fits literal (h.typed literal hliteral) hreads hliteralHolds

end Literal

end Stratalog
