import Stratalog.Proofs.Typing.Body

/-!
# Typings

Types for the variables of a body make its literals well typed or not: an argument has the type of
its column, both sides of a comparison have the same type, and so on. A typing gives types to the
variables that the body binds, to no others, and makes every literal well typed. The body of an
aggregate has a typing of its own, from which the grouping variables and the result take theirs.

A body with a typing is accepted by the rules of safety: its predicates are known, everything that is
only tested is bound, and the bodies of its aggregates are accepted and bind what is asked of them.
-/

namespace Stratalog

/-- Types for some variables. -/
abbrev Types := String → Option ColumnType

namespace Types

/-- Some types are among others. -/
def Within (Γ Δ : Types) : Prop :=
  ∀ name type, Γ name = some type → Δ name = some type

variable {Γ Δ Θ : Types}

theorem Within.refl (Γ : Types) : Γ.Within Γ :=
  fun _ _ => id

theorem Within.trans (h : Γ.Within Δ) (h' : Δ.Within Θ) : Γ.Within Θ :=
  fun name type hname => h' name type (h name type hname)

/-- Types within others that type no more variables are the same. -/
theorem Within.eq (h : Γ.Within Δ) (hdomain : ∀ name, (Δ name).isSome = true → (Γ name).isSome = true) :
    Γ = Δ := by
  funext name
  cases hΔ : Δ name with
  | none =>
    cases hΓ : Γ name with
    | none => rfl
    | some type =>
      rw [h name type hΓ] at hΔ
      cases hΔ
  | some type =>
    obtain ⟨other, hother⟩ := Option.isSome_iff_exists.1 (hdomain name (by rw [hΔ]; rfl))
    rw [hother, ← hΔ, h name other hother]

end Types

/-- The type of an expression: text for a concatenation, an integer for arithmetic on integers. -/
inductive Expr.HasType (Γ : Types) : Expr → ColumnType → Prop
  | var {name : String} {type : ColumnType} (hname : Γ name = some type) :
      HasType Γ (.var name) type
  | const (value : Value) : HasType Γ (.const value) value.type
  | concat {parts : List Expr} {types : List ColumnType}
      (hparts : List.Forall₂ (HasType Γ) parts types) : HasType Γ (.concat parts) .string
  | arith {op : ArithOp} {left right : Expr} (hleft : HasType Γ left .int)
      (hright : HasType Γ right .int) : HasType Γ (.arith op left right) .int

/-- Whether a term may stand in a column of a type. -/
def Term.HasType (Γ : Types) : Term → ColumnType → Prop
  | .var name, type => Γ name = some type
  | .const value, type => value.type = type
  | .wildcard, _ => True

/-- Whether the arguments of an atom have the types of the columns they stand in. -/
def Atom.WellTyped (catalog : Catalog) (Γ : Types) (atom : Atom) : Prop :=
  ∃ schema, catalog atom.predicate = some schema ∧
    List.Forall₂ (Term.HasType Γ) atom.args schema.types

/-- Whether both sides of a comparison have the same type, which for an order is that of integers or
text; a pattern is a constant that parses, and is matched with text. -/
def CompareOp.WellTyped [PatternEngine] (Γ : Types) (op : CompareOp) (left right : Expr) : Prop :=
  ∃ type, left.HasType Γ type ∧
    match op with
    | .eq | .ne => right.HasType Γ type
    | .lt | .le | .gt | .ge => (type = .int ∨ type = .string) ∧ right.HasType Γ type
    | .matches => type = .string ∧
        ∃ text, right = .const (.string text) ∧ (PatternEngine.compile? text).isSome = true

/-- The type of the result of an aggregate with the given target. A count is an integer whatever is
counted, a sum is one of integers, and the least and the greatest value have the type of the target. -/
def FoldFunction.HasType (Γ : Types) (function : FoldFunction) (target : Option Expr)
    (type : ColumnType) : Prop :=
  match function with
  | .count => type = .int ∧ ∀ expr, target = some expr → ∃ other, expr.HasType Γ other
  | .sum => type = .int ∧ ∃ expr, target = some expr ∧ expr.HasType Γ .int
  | .min | .max => ∃ expr, target = some expr ∧ expr.HasType Γ type

namespace Literal

variable [PatternEngine]

mutual

/-- Whether a literal is well typed. -/
def WellTyped (catalog : Catalog) : Literal → Types → Prop
  | .atom a, Γ | .negated a, Γ => a.WellTyped catalog Γ
  | .compare op left right, Γ => op.WellTyped Γ left right
  | .assign var expr, Γ => ∃ type, Γ var = some type ∧ expr.HasType Γ type
  | .aggregate result function target groupBy body, Γ => ∃ Δ : Types,
      ((∀ name, (Δ name).isSome = true ↔ Bound body name) ∧ WellTypedAll catalog body Δ) ∧
        (∀ name ∈ groupBy, ∃ type, Δ name = some type ∧ Γ name = some type) ∧
          ∃ type, function.HasType Δ target type ∧ Γ result = some type

/-- Whether every literal of a body is well typed. -/
def WellTypedAll (catalog : Catalog) : List Literal → Types → Prop
  | [], _ => True
  | literal :: rest, Γ => WellTyped catalog literal Γ ∧ WellTypedAll catalog rest Γ

end

/-- A typing gives types to the variables that a body binds, and makes every literal well typed. -/
structure IsTyping (catalog : Catalog) (body : List Literal) (Γ : Types) : Prop where
  domain : ∀ name, (Γ name).isSome = true ↔ Bound body name
  typed : ∀ literal ∈ body, literal.WellTyped catalog Γ

/-- What the rules of safety and typing ask of a body. -/
inductive Accepted (catalog : Catalog) : List Literal → Prop
  | intro {body : List Literal}
      (known : ∀ atom, .atom atom ∈ body ∨ .negated atom ∈ body → atom.Fits catalog)
      (safe : ∀ literal ∈ body, literal.isJoin = false → ∀ name ∈ literal.scope, Bound body name)
      (inside : ∀ result function target groupBy inner,
        .aggregate result function target groupBy inner ∈ body → Accepted catalog inner)
      (asked : ∀ result function target groupBy inner,
        .aggregate result function target groupBy inner ∈ body →
          (∀ name ∈ groupBy, Bound inner name) ∧
            ∀ expr, target = some expr → ∀ name ∈ expr.vars, Bound inner name)
      (typed : ∃ Γ, IsTyping catalog body Γ) : Accepted catalog body

end Literal

variable {catalog : Catalog} {Γ Δ : Types} {expr : Expr} {type other : ColumnType}

namespace Expr.HasType

/-- The variables of an expression with a type have types. -/
theorem isSome (h : expr.HasType Γ type) : ∀ name ∈ expr.vars, (Γ name).isSome = true := by
  induction expr using Expr.induction generalizing type with
  | var name =>
    intro other hother
    obtain rfl : other = name := by simpa [Expr.vars] using hother
    cases h with
    | var hname => rw [hname]; rfl
  | const value => simp [Expr.vars]
  | concat parts ih =>
    cases h with
    | concat hparts =>
      intro name hname
      rw [Expr.vars, Expr.varsOfAll_eq_flatMap] at hname
      obtain ⟨part, hpart, hname⟩ := List.mem_flatMap.1 hname
      obtain ⟨i, hi, rfl⟩ := List.getElem_of_mem hpart
      have htyped := List.Forall₂.get hparts hi (hparts.length_eq ▸ hi)
      exact ih _ hpart htyped name hname
  | arith op left right ihl ihr =>
    cases h with
    | arith hleft hright =>
      rw [Expr.vars, List.forall_mem_append]
      exact ⟨ihl hleft, ihr hright⟩

/-- The type of an expression depends on its variables alone. -/
theorem congr (h : expr.HasType Γ type) (heq : ∀ name ∈ expr.vars, Γ name = Δ name) :
    expr.HasType Δ type := by
  induction expr using Expr.induction generalizing type with
  | var name =>
    cases h with
    | var hname => exact .var ((heq name (by simp [Expr.vars])).symm.trans hname)
  | const value =>
    cases h
    exact .const value
  | concat parts ih =>
    rw [Expr.vars, Expr.varsOfAll_eq_flatMap] at heq
    cases h with
    | concat hparts =>
      refine .concat (List.forall₂_iff_get.2 ⟨hparts.length_eq, fun i hi hi' => ?_⟩)
      have hpart : parts.get ⟨i, hi⟩ ∈ parts := List.get_mem _ _
      exact ih _ hpart (hparts.get hi hi') fun name hname =>
        heq name (List.mem_flatMap.2 ⟨_, hpart, hname⟩)
  | arith op left right ihl ihr =>
    rw [Expr.vars] at heq
    cases h with
    | arith hleft hright =>
      exact .arith (ihl hleft fun name hname => heq name (List.mem_append_left _ hname))
        (ihr hright fun name hname => heq name (List.mem_append_right _ hname))

/-- More types leave the type of an expression as it is. -/
theorem mono (h : expr.HasType Γ type) (hwithin : Γ.Within Δ) : expr.HasType Δ type :=
  h.congr fun name hname => by
    obtain ⟨found, hfound⟩ := Option.isSome_iff_exists.1 (h.isSome name hname)
    rw [hfound, hwithin name found hfound]

/-- An expression has one type. -/
theorem unique (h : expr.HasType Γ type) (h' : expr.HasType Γ other) : type = other := by
  cases h with
  | var hname =>
    cases h' with
    | var hname' => exact Option.some.inj (hname.symm.trans hname')
  | const value =>
    cases h'
    rfl
  | concat =>
    cases h'
    rfl
  | arith =>
    cases h'
    rfl

end Expr.HasType

/-- More types leave the type of a term as it is. -/
theorem Term.HasType.mono {term : Term} (h : term.HasType Γ type) (hwithin : Γ.Within Δ) :
    term.HasType Δ type := by
  cases term with
  | var name => exact hwithin name type h
  | const value => exact h
  | wildcard => trivial

namespace Atom.WellTyped

variable {atom : Atom}

/-- A well-typed atom fits the catalog. -/
theorem fits (h : atom.WellTyped catalog Γ) : atom.Fits catalog := by
  obtain ⟨schema, hschema, hargs⟩ := h
  exact ⟨schema, hschema, by rw [hargs.length_eq, Schema.length_types]⟩

/-- The variables of a well-typed atom have types. -/
theorem isSome (h : atom.WellTyped catalog Γ) : ∀ name ∈ atom.vars, (Γ name).isSome = true := by
  obtain ⟨schema, -, hargs⟩ := h
  intro name hname
  obtain ⟨term, hterm, hvar⟩ := List.mem_filterMap.1 hname
  obtain ⟨i, hi, rfl⟩ := List.getElem_of_mem hterm
  have htyped := hargs.get hi (hargs.length_eq ▸ hi)
  rw [List.get_eq_getElem] at htyped
  cases hget : atom.args[i] with
  | var found =>
    rw [hget] at htyped hvar
    cases hvar
    rw [show Γ name = _ from htyped]
    rfl
  | const value => rw [hget] at hvar; cases hvar
  | wildcard => rw [hget] at hvar; cases hvar

/-- More types leave an atom well typed. -/
theorem mono (h : atom.WellTyped catalog Γ) (hwithin : Γ.Within Δ) : atom.WellTyped catalog Δ := by
  obtain ⟨schema, hschema, hargs⟩ := h
  exact ⟨schema, hschema, hargs.imp fun _ _ hterm => hterm.mono hwithin⟩

end Atom.WellTyped

/-- The sides of a well-typed comparison have types. -/
theorem CompareOp.WellTyped.exists_hasType [PatternEngine] {op : CompareOp} {left right : Expr}
    (h : op.WellTyped Γ left right) :
    (∃ type, left.HasType Γ type) ∧ ∃ type, right.HasType Γ type := by
  obtain ⟨type, hleft, hright⟩ := h
  refine ⟨⟨type, hleft⟩, ?_⟩
  cases op with
  | eq | ne => exact ⟨type, hright⟩
  | lt | le | gt | ge => exact ⟨type, hright.2⟩
  | «matches» =>
    obtain ⟨-, text, rfl, -⟩ := hright
    exact ⟨_, .const (.string text)⟩

/-- More types leave a comparison well typed. -/
theorem CompareOp.WellTyped.mono [PatternEngine] {op : CompareOp} {left right : Expr}
    (h : op.WellTyped Γ left right)
    (hwithin : Γ.Within Δ) : op.WellTyped Δ left right := by
  obtain ⟨type, hleft, hright⟩ := h
  refine ⟨type, hleft.mono hwithin, ?_⟩
  cases op with
  | eq | ne => exact hright.mono hwithin
  | lt | le | gt | ge => exact ⟨hright.1, hright.2.mono hwithin⟩
  | «matches» => exact hright

/-- A target with a result has a type. -/
theorem FoldFunction.HasType.exists_hasType {function : FoldFunction} {target : Option Expr}
    (h : function.HasType Γ target type) :
    ∀ expr, target = some expr → ∃ found, expr.HasType Γ found := by
  rintro expr rfl
  cases function with
  | count => exact h.2 expr rfl
  | sum =>
    obtain ⟨-, found, heq, hint⟩ := h
    cases heq
    exact ⟨_, hint⟩
  | min | max =>
    obtain ⟨found, heq, htype⟩ := h
    cases heq
    exact ⟨_, htype⟩

/-- The variables of a target with a result have types. -/
theorem FoldFunction.HasType.isSome {function : FoldFunction} {target : Option Expr}
    (h : function.HasType Γ target type) :
    ∀ expr, target = some expr → ∀ name ∈ expr.vars, (Γ name).isSome = true := by
  intro expr hexpr
  obtain ⟨found, hfound⟩ := h.exists_hasType expr hexpr
  exact hfound.isSome

namespace Literal

/-- A body is well typed when each of its literals is. -/
theorem wellTypedAll_iff [PatternEngine] {body : List Literal} :
    WellTypedAll catalog body Γ ↔ ∀ literal ∈ body, literal.WellTyped catalog Γ := by
  induction body with
  | nil => simp [WellTypedAll]
  | cons literal rest ih => rw [WellTypedAll, ih, List.forall_mem_cons]

/-- An aggregate is well typed when its body has a typing from which the grouping variables and the
result take their types. -/
theorem wellTyped_aggregate_iff [PatternEngine] {result : String} {function : FoldFunction}
    {target : Option Expr}
    {groupBy : List String} {body : List Literal} :
    WellTyped catalog (.aggregate result function target groupBy body) Γ ↔
      ∃ Δ, IsTyping catalog body Δ ∧
        (∀ name ∈ groupBy, ∃ type, Δ name = some type ∧ Γ name = some type) ∧
          ∃ type, function.HasType Δ target type ∧ Γ result = some type := by
  rw [WellTyped]
  refine exists_congr fun Δ => and_congr_left fun _ => ?_
  rw [wellTypedAll_iff]
  exact ⟨fun h => ⟨h.1, h.2⟩, fun h => ⟨h.domain, h.typed⟩⟩

/-- The variables in the scope of a well-typed literal have types. -/
theorem WellTyped.isSome [PatternEngine] {literal : Literal} (h : literal.WellTyped catalog Γ) :
    ∀ name ∈ literal.scope, (Γ name).isSome = true := by
  cases literal with
  | atom a => exact Atom.WellTyped.isSome (by rwa [WellTyped] at h)
  | negated a => exact Atom.WellTyped.isSome (by rwa [WellTyped] at h)
  | compare op left right =>
    rw [WellTyped] at h
    obtain ⟨⟨_, hleft⟩, _, hright⟩ := h.exists_hasType
    rw [scope, List.forall_mem_append]
    exact ⟨hleft.isSome, hright.isSome⟩
  | assign var expr =>
    rw [WellTyped] at h
    obtain ⟨type, hvar, hexpr⟩ := h
    rw [scope, List.forall_mem_cons]
    exact ⟨by rw [hvar]; rfl, hexpr.isSome⟩
  | aggregate result function target groupBy body =>
    obtain ⟨Δ, -, hgroup, type, -, hresult⟩ := wellTyped_aggregate_iff.1 h
    rw [scope, List.forall_mem_append]
    refine ⟨fun name hname => ?_, fun name hname => ?_⟩
    · obtain ⟨found, -, hfound⟩ := hgroup name hname
      rw [hfound]
      rfl
    · rw [List.mem_singleton.1 hname, hresult]
      rfl

/-- More types leave a literal well typed. -/
theorem WellTyped.mono [PatternEngine] {literal : Literal} (h : literal.WellTyped catalog Γ)
    (hwithin : Γ.Within Δ) : literal.WellTyped catalog Δ := by
  cases literal with
  | atom a =>
    rw [WellTyped] at h ⊢
    exact h.mono hwithin
  | negated a =>
    rw [WellTyped] at h ⊢
    exact h.mono hwithin
  | compare op left right =>
    rw [WellTyped] at h ⊢
    exact h.mono hwithin
  | assign var expr =>
    rw [WellTyped] at h ⊢
    obtain ⟨type, hvar, hexpr⟩ := h
    exact ⟨type, hwithin var type hvar, hexpr.mono hwithin⟩
  | aggregate result function target groupBy body =>
    obtain ⟨Θ, hbody, hgroup, type, htype, hresult⟩ := wellTyped_aggregate_iff.1 h
    refine wellTyped_aggregate_iff.2 ⟨Θ, hbody, fun name hname => ?_, type, htype,
      hwithin result type hresult⟩
    obtain ⟨found, hfound, hname⟩ := hgroup name hname
    exact ⟨found, hfound, hwithin name found hname⟩

/-- What offers to bind a variable is well typed when the variable has the type of the expression. -/
theorem wellTyped_of_offers [PatternEngine] {literal : Literal} {var : String} {expr : Expr}
    (hoffer : literal.Offers var expr) (hvar : Γ var = some type) (hexpr : expr.HasType Γ type) :
    literal.WellTyped catalog Γ := by
  rcases hoffer with rfl | rfl | rfl
  · rw [WellTyped]
    exact ⟨type, hvar, hexpr⟩
  · rw [WellTyped]
    exact ⟨type, .var hvar, hexpr⟩
  · rw [WellTyped]
    exact ⟨type, hexpr, .var hvar⟩

/-- A well-typed literal that offers to bind a variable gives it the type of the expression. -/
theorem exists_hasType_of_offers [PatternEngine] {literal : Literal} {var : String} {expr : Expr}
    (hoffer : literal.Offers var expr) (h : literal.WellTyped catalog Γ) :
    ∃ type, expr.HasType Γ type ∧ Γ var = some type := by
  rcases hoffer with rfl | rfl | rfl
  · rw [WellTyped] at h
    obtain ⟨type, hvar, hexpr⟩ := h
    exact ⟨type, hexpr, hvar⟩
  · rw [WellTyped] at h
    obtain ⟨type, hvar, hexpr⟩ := h
    cases hvar with
    | var hvar => exact ⟨type, hexpr, hvar⟩
  · rw [WellTyped] at h
    obtain ⟨type, hexpr, hvar⟩ := h
    cases hvar with
    | var hvar => exact ⟨type, hexpr, hvar⟩

/-- A body with more literals binds more. -/
theorem Bound.mono {body other : List Literal} (hsub : ∀ literal ∈ body, literal ∈ other)
    {name : String} (h : Bound body name) : Bound other name := by
  induction h with
  | join hmem hjoin hvar => exact .join (hsub _ hmem) hjoin hvar
  | offer hmem hoffer _ ih => exact .offer (hsub _ hmem) hoffer ih

variable [PatternEngine]

/-- The literals of a body decide what its typings are, not their order. -/
theorem IsTyping.reorder {body other : List Literal} (h : IsTyping catalog body Γ)
    (hmem : ∀ literal, literal ∈ other ↔ literal ∈ body) : IsTyping catalog other Γ := by
  refine ⟨fun name => ?_, fun literal hliteral => h.typed literal ((hmem literal).1 hliteral)⟩
  rw [h.domain]
  exact ⟨Bound.mono fun literal => (hmem literal).2, Bound.mono fun literal => (hmem literal).1⟩

/-- A body with a typing is accepted if the bodies of its aggregates are. -/
theorem IsTyping.accepted_of_inside {body : List Literal} (h : IsTyping catalog body Γ)
    (hinside : ∀ result function target groupBy inner,
      .aggregate result function target groupBy inner ∈ body → Accepted catalog inner) :
    Accepted catalog body := by
  refine .intro (fun atom hatom => ?_) (fun literal hliteral _ name hname => ?_) hinside
    (fun result function target groupBy inner hmem => ?_) ⟨Γ, h⟩
  · rcases hatom with hmem | hmem
    · exact Atom.WellTyped.fits (by simpa only [WellTyped] using h.typed _ hmem)
    · exact Atom.WellTyped.fits (by simpa only [WellTyped] using h.typed _ hmem)
  · exact (h.domain name).1 ((h.typed literal hliteral).isSome name hname)
  · obtain ⟨Δ, hΔ, hgroup, type, htype, -⟩ := wellTyped_aggregate_iff.1 (h.typed _ hmem)
    refine ⟨fun name hname => ?_, fun expr hexpr name hname => ?_⟩
    · obtain ⟨found, hfound, -⟩ := hgroup name hname
      exact (hΔ.domain name).1 (by rw [hfound]; rfl)
    · exact (hΔ.domain name).1 (htype.isSome expr hexpr name hname)

/-- The body of a well-typed aggregate is accepted. -/
theorem accepted_inside (literal : Literal) : ∀ Γ result function target groupBy inner,
    literal.WellTyped catalog Γ → literal = .aggregate result function target groupBy inner →
      Accepted catalog inner := by
  induction literal using Literal.induction with
  | atom a => simp
  | negated a => simp
  | compare op left right => simp
  | assign var expr => simp
  | aggregate result function target groupBy body ih =>
    rintro Γ _ _ _ _ _ h ⟨⟩
    obtain ⟨Δ, hbody, -⟩ := wellTyped_aggregate_iff.1 h
    exact hbody.accepted_of_inside fun _ _ _ _ _ hmem =>
      ih _ hmem _ _ _ _ _ _ (hbody.typed _ hmem) rfl

/-- The rules accept the bodies that have a typing. -/
theorem accepted_iff {body : List Literal} :
    Accepted catalog body ↔ ∃ Γ, IsTyping catalog body Γ := by
  constructor
  · rintro ⟨-, -, -, -, htyped⟩
    exact htyped
  · rintro ⟨Γ, h⟩
    exact h.accepted_of_inside fun _ _ _ _ _ hmem =>
      accepted_inside _ _ _ _ _ _ _ (h.typed _ hmem) rfl

end Literal

end Stratalog
