import Stratalog.Proofs.Typing.Values

/-!
# Expressions have values unless a divisor is zero

An expression has no value for a row when a column is missing, an operand is no integer or a divisor is
zero. Compiled from a typed expression and evaluated for a row of values of the right types, it meets
the last of these only.
-/

namespace Stratalog

namespace SlotExpr

/-- Whether evaluating an expression for a row comes upon a division or remainder of an integer by
zero, where all that is evaluated before has a value. -/
inductive DividesByZero (render : Value → String) (row : Row) : SlotExpr → Prop
  | divisor {op : ArithOp} {left right : SlotExpr} {dividend : Int64} (hop : op = .div ∨ op = .rem)
      (hleft : left.eval render row = some (.int dividend))
      (hright : right.eval render row = some (.int 0)) :
      DividesByZero render row (.arith op left right)
  | left {op : ArithOp} {left right : SlotExpr} (hleft : DividesByZero render row left) :
      DividesByZero render row (.arith op left right)
  | right {op : ArithOp} {left right : SlotExpr} {number : Int64}
      (hleft : left.eval render row = some (.int number)) (hright : DividesByZero render row right) :
      DividesByZero render row (.arith op left right)
  | part {before after : List SlotExpr} {part : SlotExpr}
      (hbefore : ∀ other ∈ before, (other.eval render row).isSome = true)
      (hpart : DividesByZero render row part) :
      DividesByZero render row (.concat (before ++ part :: after))

/-- Whether an expression has no value for a row in one case only, that a divisor is zero. -/
def Defined (render : Value → String) (row : Row) (expr : SlotExpr) : Prop :=
  expr.eval render row = none ↔ expr.DividesByZero render row

variable {render : Value → String} {row : Row} {expr : SlotExpr}

/-- Parts one of which has no value have no text. -/
theorem evalAll_eq_none {parts : List SlotExpr} (hmem : expr ∈ parts)
    (hnone : expr.eval render row = none) : evalAll render row parts = none := by
  induction parts with
  | nil => exact absurd hmem List.not_mem_nil
  | cons part rest ih =>
    rw [evalAll]
    rcases List.mem_cons.1 hmem with rfl | hmem
    · rw [hnone]
      rfl
    · rw [ih hmem]
      cases part.eval render row <;> rfl

/-- An expression with a divisor of zero has no value. -/
theorem DividesByZero.eval_eq_none (h : expr.DividesByZero render row) :
    expr.eval render row = none := by
  induction h with
  | divisor hop hleft hright =>
    rw [eval, hleft, hright]
    rcases hop with rfl | rfl <;> rfl
  | left _ ih => rw [eval, ih]; rfl
  | right hleft _ ih => rw [eval, hleft, ih]; rfl
  | part _ _ ih => rw [eval, evalAll_eq_none (List.mem_append_right _ List.mem_cons_self) ih]; rfl

/-- Whether an expression has a value for a row or a divisor of zero. -/
theorem defined_iff : expr.Defined render row ↔
    (expr.eval render row).isSome = true ∨ expr.DividesByZero render row := by
  rw [Defined, ← Option.ne_none_iff_isSome]
  constructor
  · exact fun h => (em (expr.eval render row = none)).elim (fun hnone => Or.inr (h.1 hnone)) Or.inl
  · exact fun h => ⟨fun hnone => h.resolve_left fun hsome => hsome hnone,
      DividesByZero.eval_eq_none⟩

/-- A concatenation is defined when its parts are. -/
theorem Defined.concat {parts : List SlotExpr} (h : ∀ part ∈ parts, part.Defined render row) :
    (SlotExpr.concat parts).Defined render row := by
  rw [defined_iff]
  induction parts with
  | nil => exact Or.inl rfl
  | cons part rest ih =>
    obtain ⟨hpart, hrest⟩ := List.forall_mem_cons.1 h
    rcases defined_iff.1 hpart with hsome | hzero
    · rcases ih hrest with hsomes | hzero
      · left
        obtain ⟨value, hvalue⟩ := Option.isSome_iff_exists.1 hsome
        rw [eval, Option.isSome_map] at hsomes ⊢
        obtain ⟨text, htext⟩ := Option.isSome_iff_exists.1 hsomes
        rw [evalAll, hvalue, htext]
        rfl
      · right
        cases hzero with
        | @part before after hit hbefore hzero =>
          change (SlotExpr.concat ((part :: before) ++ hit :: after)).DividesByZero render row
          exact .part (List.forall_mem_cons.2 ⟨hsome, hbefore⟩) hzero
    · right
      change (SlotExpr.concat ([] ++ part :: rest)).DividesByZero render row
      exact .part (by simp) hzero

/-- A value of the type of integers is one. -/
theorem eq_int_of_type {value : Value} (h : value.type = .int) : ∃ number, value = .int number := by
  cases value with
  | int number => exact ⟨number, rfl⟩
  | _ => cases h

/-- Arithmetic is defined when both operands are, and give integers. -/
theorem Defined.arith {op : ArithOp} {left right : SlotExpr} (hleft : left.Defined render row)
    (hright : right.Defined render row)
    (hlefts : ∀ value, left.eval render row = some value → value.type = .int)
    (hrights : ∀ value, right.eval render row = some value → value.type = .int) :
    (SlotExpr.arith op left right).Defined render row := by
  rw [defined_iff]
  rcases defined_iff.1 hleft with hsome | hzero
  · obtain ⟨value, hvalue⟩ := Option.isSome_iff_exists.1 hsome
    obtain ⟨dividend, rfl⟩ := eq_int_of_type (hlefts value hvalue)
    rcases defined_iff.1 hright with hsome | hzero
    · obtain ⟨other, hother⟩ := Option.isSome_iff_exists.1 hsome
      obtain ⟨divisor, rfl⟩ := eq_int_of_type (hrights other hother)
      by_cases happlies : (op.apply dividend divisor).isSome = true
      · left
        obtain ⟨number, hnumber⟩ := Option.isSome_iff_exists.1 happlies
        rw [eval, hvalue, hother]
        simp [Value.int?, hnumber]
      · right
        obtain ⟨hop, rfl⟩ : (op = .div ∨ op = .rem) ∧ divisor = 0 := by
          cases op <;> simp [ArithOp.apply] at happlies ⊢ <;> exact happlies
        exact .divisor hop hvalue hother
    · exact Or.inr (.right hvalue hzero)
  · exact Or.inr (.left hzero)

/-- Compiling expressions in order compiles each of them. -/
theorem forall₂_of_compileAll {layout : Layout} {parts : List Expr} {compiled : List SlotExpr}
    (h : compileAll layout parts = .ok compiled) :
    List.Forall₂ (fun part compiled => compile layout part = .ok compiled) parts compiled := by
  induction parts generalizing compiled with
  | nil =>
    cases h
    exact .nil
  | cons part rest ih =>
    rw [compileAll] at h
    obtain ⟨first, hfirst, h⟩ := bind_eq_ok.1 h
    obtain ⟨others, hothers, h⟩ := bind_eq_ok.1 h
    cases h
    exact .cons hfirst (ih hothers)

end SlotExpr

/-- A typed expression is defined for a row of typed values. -/
theorem Expr.HasType.defined {Γ : Types} {σ : Assignment} {vars : List String}
    (render : Value → String) {expr : Expr} {type : ColumnType} (h : expr.HasType Γ type)
    (hfits : ∀ name ∈ expr.vars, σ.Fits Γ name) {compiled : SlotExpr}
    (hcompile : SlotExpr.compile vars.idxOf? expr = .ok compiled) :
    compiled.Defined render (vars.map σ) := by
  induction expr using Expr.induction generalizing type compiled with
  | var name =>
    rw [SlotExpr.defined_iff, SlotExpr.eval_compile_map render hcompile]
    exact Or.inl rfl
  | const value =>
    rw [SlotExpr.defined_iff, SlotExpr.eval_compile_map render hcompile]
    exact Or.inl rfl
  | concat parts ih =>
    obtain ⟨others, hothers, rfl⟩ := map_eq_ok.1 hcompile
    rw [Expr.vars, Expr.varsOfAll_eq_flatMap] at hfits
    have hparts := SlotExpr.forall₂_of_compileAll hothers
    cases h with
    | concat htypes =>
      refine SlotExpr.Defined.concat fun part hpart => ?_
      obtain ⟨i, hi, rfl⟩ := List.getElem_of_mem hpart
      have hi' : i < parts.length := hparts.length_eq ▸ hi
      have hmem : parts.get ⟨i, hi'⟩ ∈ parts := List.get_mem _ _
      exact ih _ hmem (htypes.get hi' (htypes.length_eq ▸ hi'))
        (fun name hname => hfits name (List.mem_flatMap.2 ⟨_, hmem, hname⟩)) (hparts.get hi' hi)
  | arith op left right ihl ihr =>
    rw [SlotExpr.compile] at hcompile
    obtain ⟨first, hfirst, hcompile⟩ := bind_eq_ok.1 hcompile
    obtain ⟨second, hsecond, hcompile⟩ := bind_eq_ok.1 hcompile
    cases hcompile
    rw [Expr.vars, List.forall_mem_append] at hfits
    cases h with
    | arith hleft hright =>
      refine (ihl hleft hfits.1 hfirst).arith (ihr hright hfits.2 hsecond) (fun value hvalue => ?_)
        fun value hvalue => ?_
      · rw [SlotExpr.eval_compile_map render hfirst] at hvalue
        exact hleft.type_value hfits.1 hvalue
      · rw [SlotExpr.eval_compile_map render hsecond] at hvalue
        exact hright.type_value hfits.2 hvalue

end Stratalog
