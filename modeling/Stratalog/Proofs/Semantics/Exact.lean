import Mathlib.Data.List.Forall2
import Stratalog.Entity
import Stratalog.Proofs.Semantics.Expression

/-!
# Exact values of expressions

The value of an expression has a definition that knows neither words nor columns: operations act on
all integers, and only their results are reduced to sixty-four bits. An expression is without a
value for two reasons alone, both found in one of its sub-expressions: an operand is no integer, or
a divisor is zero.

An expression that compiles computes that value, and has none for those reasons only.
-/

namespace Stratalog

/-- The result of an operation on integers. A quotient is truncated toward zero, a remainder has the
sign of the dividend, and neither exists for a divisor of zero. -/
def ArithOp.unbounded? (op : ArithOp) (a b : Int) : Option Int :=
  match op with
  | .add => some (a + b)
  | .sub => some (a - b)
  | .mul => some (a * b)
  | .div => if b = 0 then none else some (a.tdiv b)
  | .rem => if b = 0 then none else some (a.tmod b)

/-- The text a value is shown by. An entity that is recorded shows its label, another its number. -/
inductive EntityTable.Shows (entities : EntityTable) : Value → String → Prop
  | label {id : UInt64} {info : EntityInfo} (hinfo : entities[id]? = some info) :
    Shows entities (.entity id) info.label
  | number {id : UInt64} (hinfo : entities[id]? = none) :
    Shows entities (.entity id) ("#" ++ toString id.toNat)
  | string (text : String) : Shows entities (.string text) text
  | int (number : Int64) : Shows entities (.int number) (toString number.toInt)
  | true : Shows entities (.bool true) "true"
  | false : Shows entities (.bool false) "false"

namespace Expr

variable {entities : EntityTable} {σ : Assignment}

/-- The value an expression has under an assignment, by exact arithmetic on integers of any size. -/
inductive Means (entities : EntityTable) (σ : Assignment) : Expr → Value → Prop
  | var (name : String) : Means entities σ (.var name) (σ name)
  | const (value : Value) : Means entities σ (.const value) value
  | concat {parts : List Expr} {values : List Value} {texts : List String}
    (hparts : List.Forall₂ (Means entities σ) parts values)
    (htexts : List.Forall₂ entities.Shows values texts) :
    Means entities σ (.concat parts) (.string (String.join texts))
  | arith {op : ArithOp} {left right : Expr} {a b : Int64} {result : Int}
    (hleft : Means entities σ left (.int a)) (hright : Means entities σ right (.int b))
    (hresult : op.unbounded? a.toInt b.toInt = some result) :
    Means entities σ (.arith op left right) (.int (Int64.ofInt result))

/-- The second expression is the first or occurs in it. -/
inductive Contains : Expr → Expr → Prop
  | self (expr : Expr) : Contains expr expr
  | part {parts : List Expr} {part sub : Expr} (hpart : part ∈ parts) (hsub : Contains part sub) :
    Contains (.concat parts) sub
  | left {op : ArithOp} {left right sub : Expr} (hsub : Contains left sub) :
    Contains (.arith op left right) sub
  | right {op : ArithOp} {left right sub : Expr} (hsub : Contains right sub) :
    Contains (.arith op left right) sub

/-- An operation cannot be carried out: one operand has a value that is no integer, or the divisor
has the value zero. -/
inductive Fails (entities : EntityTable) (σ : Assignment) : Expr → Prop
  | left {op : ArithOp} {left right : Expr} {value : Value} (hvalue : left.Means entities σ value)
    (htype : value.type ≠ .int) : Fails entities σ (.arith op left right)
  | right {op : ArithOp} {left right : Expr} {value : Value} (hvalue : right.Means entities σ value)
    (htype : value.type ≠ .int) : Fails entities σ (.arith op left right)
  | zero {op : ArithOp} {left right : Expr} (hop : op = .div ∨ op = .rem)
    (hzero : right.Means entities σ (.int 0)) : Fails entities σ (.arith op left right)

end Expr

/-- An operation on words gives the exact result reduced to a word, and gives none where there is
no exact result. -/
theorem ArithOp.apply_eq_unbounded (op : ArithOp) (a b : Int64) :
    op.apply a b = (op.unbounded? a.toInt b.toInt).map Int64.ofInt := by
  have hzero : b.toInt = 0 ↔ b = 0 := by rw [← Int64.toInt_inj, Int64.toInt_zero]
  cases op with
  | add => simp [apply, unbounded?, Int64.ofInt_add]
  | sub => simp [apply, unbounded?, Int64.ofInt_sub]
  | mul => simp [apply, unbounded?, Int64.ofInt_mul]
  | div =>
    have hdiv : Int64.ofInt (a.toInt.tdiv b.toInt) = a / b := by
      rw [Int64.ofInt_tdiv a.minValue_le_toInt a.toInt_le b.minValue_le_toInt b.toInt_le]
      simp
    simp only [apply, unbounded?, hzero]
    split <;> simp [hdiv]
  | rem =>
    have hrem : Int64.ofInt (a.toInt.tmod b.toInt) = a % b := by
      rw [Int64.ofInt_tmod a.minValue_le_toInt a.toInt_le b.minValue_le_toInt b.toInt_le]
      simp
    simp only [apply, unbounded?, hzero]
    split <;> simp [hrem]

/-- An operation on words fails for a divisor of zero and for nothing else. -/
theorem ArithOp.apply_eq_none_iff {op : ArithOp} {a b : Int64} :
    op.apply a b = none ↔ (op = .div ∨ op = .rem) ∧ b = 0 := by
  cases op <;> simp [apply]

/-- A value shows the text it is rendered to. -/
theorem EntityTable.shows_iff {entities : EntityTable} {value : Value} {text : String} :
    entities.Shows value text ↔ entities.render value = text := by
  constructor
  · intro h
    cases h with
    | label hinfo => simp [render, hinfo]
    | number hinfo => simp [render, hinfo, Value.entityText]
    | string | int | true | false => rfl
  · rintro rfl
    cases value with
    | entity id =>
      cases hinfo : entities[id]? with
      | none =>
        rw [render, hinfo]
        exact .number hinfo
      | some info =>
        rw [render, hinfo]
        exact .label hinfo
    | string text => exact .string text
    | int number => exact .int number
    | bool flag => cases flag with
      | true => exact .true
      | false => exact .false

namespace Expr

variable {entities : EntityTable} {σ : Assignment}

/-- Expressions have a text together when each has a value and the texts of the values make it up. -/
theorem textOfAll_eq_some_iff {parts : List Expr}
    (hvalue : ∀ part ∈ parts, ∀ value,
      part.value entities.render σ = some value ↔ part.Means entities σ value) (text : String) :
    textOfAll entities.render σ parts = some text ↔
      ∃ values texts, List.Forall₂ (Means entities σ) parts values ∧
        List.Forall₂ entities.Shows values texts ∧ String.join texts = text := by
  induction parts generalizing text with
  | nil => simp [textOfAll]
  | cons part rest ih =>
    rw [List.forall_mem_cons] at hvalue
    simp only [textOfAll, bind, pure, Option.bind_eq_some_iff, Option.some.injEq, hvalue.1,
      ih hvalue.2]
    constructor
    · rintro ⟨value, hpart, -, ⟨values, texts, hrest, htexts, rfl⟩, rfl⟩
      exact ⟨value :: values, entities.render value :: texts, .cons hpart hrest,
        .cons (EntityTable.shows_iff.2 rfl) htexts, String.join_cons⟩
    · rintro ⟨values, texts, hparts, htexts, rfl⟩
      cases hparts with | cons hpart hrest =>
      cases htexts with | cons hshown htexts =>
      refine ⟨_, hpart, _, ⟨_, _, hrest, htexts, rfl⟩, ?_⟩
      rw [EntityTable.shows_iff.1 hshown, String.join_cons]

/-- An expression has the value that exact arithmetic gives it. -/
theorem value_eq_some_iff {expr : Expr} {value : Value} :
    expr.value entities.render σ = some value ↔ expr.Means entities σ value := by
  induction expr using Expr.induction generalizing value with
  | var name =>
    rw [Expr.value, Option.some.injEq]
    exact ⟨fun h => h ▸ .var name, fun h => by cases h; rfl⟩
  | const constant =>
    rw [Expr.value, Option.some.injEq]
    exact ⟨fun h => h ▸ .const constant, fun h => by cases h; rfl⟩
  | concat parts ih =>
    have htext := textOfAll_eq_some_iff fun part hpart _ => ih part hpart
    simp only [Expr.value, Option.map_eq_some_iff, htext]
    constructor
    · rintro ⟨-, ⟨values, texts, hparts, htexts, rfl⟩, rfl⟩
      exact .concat hparts htexts
    · intro h
      cases h with | concat hparts htexts =>
      exact ⟨_, ⟨_, _, hparts, htexts, rfl⟩, rfl⟩
  | arith op left right ihl ihr =>
    have hint : ∀ {operand : Value} {a : Int64}, operand.int? = some a ↔ operand = .int a := by
      intro operand a
      cases operand <;> simp [Value.int?]
    simp only [Expr.value, bind, pure, Option.bind_eq_some_iff, Option.some.injEq, ihl, ihr, hint,
      ArithOp.apply_eq_unbounded, Option.map_eq_some_iff]
    constructor
    · rintro ⟨-, hleft, a, rfl, -, hright, b, rfl, -, ⟨result, hresult, rfl⟩, rfl⟩
      exact .arith hleft hright hresult
    · intro h
      cases h with | arith hleft hright hresult =>
      exact ⟨_, hleft, _, rfl, _, hright, _, rfl, _, ⟨_, hresult, rfl⟩, rfl⟩

/-- Expressions have no text together when one of them has no value. -/
theorem textOfAll_eq_none_iff {parts : List Expr} :
    textOfAll entities.render σ parts = none ↔
      ∃ part ∈ parts, part.value entities.render σ = none := by
  induction parts with
  | nil => simp [textOfAll]
  | cons part rest ih =>
    rw [textOfAll, List.exists_mem_cons_iff, ← ih]
    cases part.value entities.render σ <;> cases textOfAll entities.render σ rest <;> simp

/-- An expression contains what its operands contain, and itself. -/
theorem exists_contains_arith {op : ArithOp} {left right : Expr} {P : Expr → Prop} :
    (∃ sub, (arith op left right).Contains sub ∧ P sub) ↔
      P (.arith op left right) ∨ (∃ sub, left.Contains sub ∧ P sub) ∨
        ∃ sub, right.Contains sub ∧ P sub := by
  constructor
  · rintro ⟨sub, hsub, h⟩
    cases hsub with
    | self => exact .inl h
    | left hsub => exact .inr (.inl ⟨sub, hsub, h⟩)
    | right hsub => exact .inr (.inr ⟨sub, hsub, h⟩)
  · rintro (h | ⟨sub, hsub, h⟩ | ⟨sub, hsub, h⟩)
    · exact ⟨_, .self _, h⟩
    · exact ⟨sub, .left hsub, h⟩
    · exact ⟨sub, .right hsub, h⟩

/-- An operation on expressions fails by itself when their values do not allow it. -/
theorem fails_arith_iff {op : ArithOp} {left right : Expr} :
    (arith op left right).Fails entities σ ↔
      (∃ value, left.value entities.render σ = some value ∧ value.type ≠ .int) ∨
      (∃ value, right.value entities.render σ = some value ∧ value.type ≠ .int) ∨
      (op = .div ∨ op = .rem) ∧ right.value entities.render σ = some (.int 0) := by
  simp only [value_eq_some_iff]
  constructor
  · intro h
    cases h with
    | left hvalue htype => exact .inl ⟨_, hvalue, htype⟩
    | right hvalue htype => exact .inr (.inl ⟨_, hvalue, htype⟩)
    | zero hop hzero => exact .inr (.inr ⟨hop, hzero⟩)
  · rintro (⟨value, hvalue, htype⟩ | ⟨value, hvalue, htype⟩ | ⟨hop, hzero⟩)
    · exact .left hvalue htype
    · exact .right hvalue htype
    · exact .zero hop hzero

/-- An expression has no value exactly when a sub-expression fails. -/
theorem value_eq_none_iff {expr : Expr} :
    expr.value entities.render σ = none ↔
      ∃ sub, expr.Contains sub ∧ sub.Fails entities σ := by
  induction expr using Expr.induction with
  | var name =>
    refine iff_of_false (by simp [Expr.value]) ?_
    rintro ⟨sub, hsub, hfails⟩
    cases hsub
    cases hfails
  | const constant =>
    refine iff_of_false (by simp [Expr.value]) ?_
    rintro ⟨sub, hsub, hfails⟩
    cases hsub
    cases hfails
  | concat parts ih =>
    rw [Expr.value, Option.map_eq_none_iff, textOfAll_eq_none_iff]
    constructor
    · rintro ⟨part, hpart, hnone⟩
      obtain ⟨sub, hsub, hfails⟩ := (ih part hpart).1 hnone
      exact ⟨sub, .part hpart hsub, hfails⟩
    · rintro ⟨sub, hsub, hfails⟩
      cases hsub with
      | self => cases hfails
      | part hpart hsub => exact ⟨_, hpart, (ih _ hpart).2 ⟨sub, hsub, hfails⟩⟩
  | arith op left right ihl ihr =>
    rw [exists_contains_arith, fails_arith_iff, ← ihl, ← ihr, Expr.value]
    -- Both operands have a value and it is an integer, or one of the reasons holds at once.
    cases hleft : left.value entities.render σ with
    | none => simp
    | some a =>
      cases hright : right.value entities.render σ with
      | none => cases a <;> simp [Value.int?]
      | some b =>
        cases a <;> cases b
        case int.int a b =>
          have hzero : (op = .div ∨ op = .rem) ∧ b = 0 ↔ op.apply a b = none :=
            ArithOp.apply_eq_none_iff.symm
          cases happly : op.apply a b <;> simp [Value.int?, Value.type, hzero, happly]
        all_goals simp [Value.int?, Value.type]

end Expr

namespace SlotExpr

/-- An expression compiles exactly when each of its variables has a column. For a row with a cell in
these columns it then computes its exact value, and has none only where a sub-expression fails. An
operation on words is defined wherever the exact one is, the lowest word over minus one included. -/
theorem compile_means (entities : EntityTable) (layout : Layout) (row : Row) (expr : Expr)
    (hcovers : ∀ name ∈ expr.vars, ∀ column, layout name = some column → column < row.length) :
    ((compile layout expr).isOk = true ↔ ∀ name ∈ expr.vars, (layout name).isSome) ∧
      (∀ compiled, compile layout expr = .ok compiled →
        (∀ value, compiled.eval entities.render row = some value ↔
          expr.Means entities (Assignment.under layout row) value) ∧
        (compiled.eval entities.render row = none ↔
          ∃ sub, expr.Contains sub ∧ sub.Fails entities (Assignment.under layout row))) ∧
      (∀ (op : ArithOp) a b, op.apply a b = (op.unbounded? a.toInt b.toInt).map Int64.ofInt) ∧
      ArithOp.div.apply Int64.minValue (-1) = some Int64.minValue ∧
      ArithOp.rem.apply Int64.minValue (-1) = some 0 := by
  refine ⟨isOk_compile layout expr, fun compiled h => ?_, ArithOp.apply_eq_unbounded, rfl, rfl⟩
  rw [eval_compile_under entities.render h hcovers]
  exact ⟨fun value => Expr.value_eq_some_iff, Expr.value_eq_none_iff⟩

/-- A table with one entity, a function of the label `main`. -/
def mainOnly : EntityTable := .ofList [(7, ⟨"function", "main", none⟩)] compare

/-- That entity and the lowest word, as the values of the variables `f` and `n`. -/
def mainRow : Row := [.entity 7, .int Int64.minValue]

/-- The entity and the lowest word over a divisor, as one text. -/
def shownQuotient (divisor : Expr) : Expr :=
  .concat [.var "f", .const (.string ": "), .arith .div (.var "n") divisor]

/-- Over minus one the quotient wraps to the lowest word, and the entity shows its label. Over zero
the concatenation has no value. -/
theorem compile_means_quotient :
    (∀ name ∈ ["f", "n"], ∀ column, ["f", "n"].idxOf? name = some column →
      column < mainRow.length) ∧
    (shownQuotient (.const (.int (-1)))).Means mainOnly (Assignment.under ["f", "n"].idxOf? mainRow)
      (.string "main: -9223372036854775808") ∧
    ∃ sub, (shownQuotient (.const (.int 0))).Contains sub ∧
      sub.Fails mainOnly (Assignment.under ["f", "n"].idxOf? mainRow) := by
  have hcovers : ∀ name ∈ ["f", "n"], ∀ column, ["f", "n"].idxOf? name = some column →
      column < mainRow.length := fun _ _ _ h => (List.idxOf?_eq_some_iff.1 h).1
  refine ⟨hcovers, ?_, ?_⟩
  · have h := (compile_means mainOnly ["f", "n"].idxOf? mainRow
      (shownQuotient (.const (.int (-1)))) hcovers).2.1
    exact ((h _ rfl).1 _).1 (by decide +kernel)
  · have h := (compile_means mainOnly ["f", "n"].idxOf? mainRow
      (shownQuotient (.const (.int 0))) hcovers).2.1
    exact (h _ rfl).2.1 (by decide +kernel)

end SlotExpr

end Stratalog
