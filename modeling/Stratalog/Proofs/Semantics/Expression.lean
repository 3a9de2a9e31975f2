import Mathlib.Data.List.Nodup
import Stratalog.Evaluation.Expression
import Stratalog.Proofs.Outcome

/-!
# The meaning of expressions

An assignment gives every variable a value, and with it every expression a value or none: a
missing value comes from a divisor of zero or an operand that is no integer, anywhere inside.

A row over a list of variables denotes an assignment. Compiled for those variables, an expression
has the same value for the row as the expression itself has under the assignment.
-/

namespace Stratalog

/-- Values for all variables. -/
abbrev Assignment := String → Value

/-- The assignment that a row denotes under a layout. -/
def Assignment.under (layout : Layout) (row : Row) : Assignment := fun name =>
  ((layout name).map row.cell).getD default

/-- The assignment that a row denotes over the variables of its columns. -/
def Assignment.ofRow (vars : List String) (row : Row) : Assignment := fun name =>
  ((vars.idxOf? name).map row.cell).getD default

mutual

/-- The value of an expression under an assignment. -/
def Expr.value (render : Value → String) (σ : Assignment) : Expr → Option Value
  | .var name => some (σ name)
  | .const value => some value
  | .concat parts => (Expr.textOfAll render σ parts).map .string
  | .arith op left right => do
    let a ← (← Expr.value render σ left).int?
    let b ← (← Expr.value render σ right).int?
    return .int (← op.apply a b)

/-- The texts of the values of expressions, one after the other. -/
def Expr.textOfAll (render : Value → String) (σ : Assignment) : List Expr → Option String
  | [] => some ""
  | part :: rest => do
    let value ← Expr.value render σ part
    return render value ++ (← Expr.textOfAll render σ rest)

end

/-- To prove a property of all expressions, prove it of each from its parts. -/
@[elab_as_elim]
theorem Expr.induction {motive : Expr → Prop} (var : ∀ name, motive (.var name))
    (const : ∀ value, motive (.const value))
    (concat : ∀ parts, (∀ part ∈ parts, motive part) → motive (.concat parts))
    (arith : ∀ op left right, motive left → motive right → motive (.arith op left right))
    (expr : Expr) : motive expr :=
  @Expr.rec motive (fun parts => ∀ part ∈ parts, motive part) var const concat arith
    (fun _ hpart => absurd hpart List.not_mem_nil)
    (fun _ _ ihhead ihrest => List.forall_mem_cons.2 ⟨ihhead, ihrest⟩) expr

namespace Assignment

variable {vars : List String} {row : Row}

/-- A variable has the value in its column. -/
theorem ofRow_of_idxOf {name : String} {column : Nat} (h : vars.idxOf? name = some column) :
    ofRow vars row name = row.cell column := by
  simp [ofRow, h]

/-- The variable of a column has the value in the column. -/
theorem ofRow_getElem (hvars : vars.Nodup) {i : Nat} (hi : i < vars.length) :
    ofRow vars row vars[i] = row.cell i := by
  refine ofRow_of_idxOf ?_
  rw [List.idxOf?_eq_some_iff]
  refine ⟨hi, rfl, fun j hj heq => ?_⟩
  exact absurd ((hvars.getElem_inj_iff).1 heq) (by omega)

/-- A row is the list of the values that its variables have. -/
theorem map_ofRow (hvars : vars.Nodup) (hlength : row.length = vars.length) :
    vars.map (ofRow vars row) = row := by
  refine List.ext_getElem (by simp [hlength]) fun i hi hi' => ?_
  rw [List.length_map] at hi
  rw [List.getElem_map, ofRow_getElem hvars hi, Row.cell, List.getD_eq_getElem?_getD,
    List.getElem?_eq_getElem hi', Option.getD_some]

/-- The row of the values of an assignment denotes that assignment, on the variables listed. -/
theorem ofRow_map (σ : Assignment) {name : String} (h : name ∈ vars) :
    ofRow vars (vars.map σ) name = σ name := by
  obtain ⟨i, hi⟩ : ∃ i, vars.idxOf? name = some i :=
    Option.isSome_iff_exists.1 (List.isSome_idxOf?.2 h)
  obtain ⟨hlt, heq, -⟩ := List.idxOf?_eq_some_iff.1 hi
  rw [ofRow_of_idxOf hi, Row.cell, List.getD_eq_getElem?_getD, List.getElem?_map,
    List.getElem?_eq_getElem hlt, heq]
  rfl

/-- The column of a variable holds its value. -/
theorem cell_map_of_idxOf (σ : Assignment) {name : String} {column : Nat}
    (h : vars.idxOf? name = some column) : Row.cell (vars.map σ) column = σ name := by
  have hname : name ∈ vars := List.isSome_idxOf?.1 (Option.isSome_iff_exists.2 ⟨column, h⟩)
  rw [← ofRow_of_idxOf h, ofRow_map σ hname]

/-- A variable without a column has the default value. -/
theorem ofRow_of_not_mem {name : String} (h : name ∉ vars) : ofRow vars row name = default := by
  have hnone : vars.idxOf? name = none := by simpa using h
  simp [ofRow, hnone]

end Assignment

namespace Expr

/-- The value of an expression depends on its variables alone. -/
theorem value_congr (render : Value → String) {σ τ : Assignment} (expr : Expr)
    (h : ∀ name ∈ expr.vars, σ name = τ name) : expr.value render σ = expr.value render τ := by
  induction expr using Expr.induction with
  | var name => simp [value, h name (by simp [vars])]
  | const value => rfl
  | concat parts ih =>
    rw [vars, varsOfAll_eq_flatMap] at h
    have hall : textOfAll render σ parts = textOfAll render τ parts := by
      induction parts with
      | nil => rfl
      | cons part rest ihrest =>
        have hpart := ih part (by simp) fun name hname => h name (by simp [hname])
        have hrest := ihrest (fun p hp => ih p (by simp [hp])) fun name hname =>
          h name (by rw [List.flatMap_cons]; exact List.mem_append_right _ hname)
        simp only [textOfAll, hpart, hrest]
    simp only [value, hall]
  | arith op left right ihl ihr =>
    rw [vars] at h
    have hleft := ihl fun name hname => h name (List.mem_append_left _ hname)
    have hright := ihr fun name hname => h name (List.mem_append_right _ hname)
    simp only [value, hleft, hright]

end Expr

namespace SlotExpr

/-- An expression compiles exactly when every variable of it has a column. -/
theorem isOk_compile (layout : Layout) (expr : Expr) :
    (compile layout expr).isOk = true ↔ ∀ name ∈ expr.vars, (layout name).isSome := by
  induction expr using Expr.induction with
  | var name =>
    cases h : layout name <;> simp [compile, h, Expr.vars, Except.isOk, Except.toBool]
  | const value => simp [compile, Expr.vars, Except.isOk, Except.toBool]
  | concat parts ih =>
    have hall : (compileAll layout parts).isOk = true ↔
        ∀ name ∈ Expr.varsOfAll parts, (layout name).isSome := by
      induction parts with
      | nil => simp [compileAll, Expr.varsOfAll, Except.isOk, Except.toBool]
      | cons part rest ihrest =>
        have hpart := ih part (by simp)
        have hrest := ihrest fun p hp => ih p (by simp [hp])
        simp only [Expr.varsOfAll, List.forall_mem_append]
        rw [← hpart, ← hrest, compileAll]
        simp only [isOk_bind_iff, isOk_pure, and_true, exists_and_right, ← isOk_iff]
    rw [Expr.vars, ← hall, compile, isOk_map]
  | arith op left right ihl ihr =>
    simp only [Expr.vars, List.forall_mem_append]
    rw [← ihl, ← ihr, compile]
    simp only [isOk_bind_iff, isOk_pure, and_true, exists_and_right, ← isOk_iff]

variable {vars : List String} {row : Row}

/-- A compiled expression has the value of the expression under the assignment that a row denotes, where
the row has a cell in every column used. -/
theorem eval_compile_under (render : Value → String) {layout : Layout} {expr : Expr}
    {compiled : SlotExpr} (h : compile layout expr = .ok compiled)
    (hcovers : ∀ name ∈ expr.vars, ∀ column, layout name = some column → column < row.length) :
    compiled.eval render row = expr.value render (Assignment.under layout row) := by
  induction expr using Expr.induction generalizing compiled with
  | var name =>
    rw [compile] at h
    split at h
    next column hcolumn =>
      cases h
      have hlt : column < row.length := hcovers name (by simp [Expr.vars]) column hcolumn
      rw [eval, Expr.value, Assignment.under, hcolumn, List.getElem?_eq_getElem hlt, Option.map_some,
        Option.getD_some, Row.cell, List.getD_eq_getElem?_getD, List.getElem?_eq_getElem hlt,
        Option.getD_some]
    next => cases h
  | const value =>
    cases h
    rfl
  | concat parts ih =>
    rw [Expr.vars] at hcovers
    have hall : ∀ compiled, compileAll layout parts = .ok compiled →
        evalAll render row compiled =
          Expr.textOfAll render (Assignment.under layout row) parts := by
      clear h
      induction parts with
      | nil =>
        intro compiled h
        cases h
        rfl
      | cons part rest ihrest =>
        intro compiled h
        rw [Expr.varsOfAll, List.forall_mem_append] at hcovers
        rw [compileAll] at h
        obtain ⟨first, hpart, h⟩ := bind_eq_ok.1 h
        obtain ⟨others, hrest, h⟩ := bind_eq_ok.1 h
        cases h
        rw [evalAll, Expr.textOfAll, ih part (by simp) hpart hcovers.1,
          ihrest (fun p hp => ih p (by simp [hp])) hcovers.2 others hrest]
    obtain ⟨others, hparts, rfl⟩ := map_eq_ok.1 h
    rw [eval, Expr.value, hall others hparts]
  | arith op left right ihl ihr =>
    rw [Expr.vars, List.forall_mem_append] at hcovers
    rw [compile] at h
    obtain ⟨first, hleft, h⟩ := bind_eq_ok.1 h
    obtain ⟨second, hright, h⟩ := bind_eq_ok.1 h
    cases h
    rw [eval, Expr.value, ihl hleft hcovers.1, ihr hright hcovers.2]

/-- A compiled expression has the value of the expression under the assignment of the row. -/
theorem eval_compile (render : Value → String) (hlength : row.length = vars.length) {expr : Expr}
    {compiled : SlotExpr} (h : compile vars.idxOf? expr = .ok compiled) :
    compiled.eval render row = expr.value render (Assignment.ofRow vars row) := by
  refine eval_compile_under render h fun name _ column hcolumn => ?_
  rw [hlength]
  exact (List.idxOf?_eq_some_iff.1 hcolumn).1

/-- A compiled expression has the value of the expression under an assignment, for the row of the
values that the assignment gives. -/
theorem eval_compile_map (render : Value → String) {expr : Expr} {compiled : SlotExpr}
    (h : compile vars.idxOf? expr = .ok compiled) (σ : Assignment) :
    compiled.eval render (vars.map σ) = expr.value render σ := by
  rw [eval_compile render (by simp) h]
  have hvars := (isOk_compile vars.idxOf? expr).1 (isOk_iff.2 ⟨compiled, h⟩)
  exact expr.value_congr render fun name hname =>
    Assignment.ofRow_map σ (List.isSome_idxOf?.1 (hvars name hname))

/-- A compiled expression refers to columns of the layout only. -/
theorem fits_compile {layout : Layout} {width : Nat}
    (hlayout : ∀ name column, layout name = some column → column < width) {expr : Expr}
    {compiled : SlotExpr} (h : compile layout expr = .ok compiled) :
    compiled.fits width = true := by
  induction expr using Expr.induction generalizing compiled with
  | var name =>
    rw [compile] at h
    split at h
    next column hcolumn =>
      cases h
      simpa [fits] using hlayout name column hcolumn
    next => cases h
  | const value =>
    cases h
    rfl
  | concat parts ih =>
    have hall : ∀ compiled, compileAll layout parts = .ok compiled →
        fitsAll width compiled = true := by
      clear h
      induction parts with
      | nil =>
        intro compiled h
        cases h
        rfl
      | cons part rest ihrest =>
        intro compiled h
        rw [compileAll] at h
        obtain ⟨first, hpart, h⟩ := bind_eq_ok.1 h
        obtain ⟨others, hrest, h⟩ := bind_eq_ok.1 h
        cases h
        rw [fitsAll, ih part (by simp) hpart,
          ihrest (fun p hp => ih p (by simp [hp])) others hrest, Bool.and_self]
    obtain ⟨others, hparts, rfl⟩ := map_eq_ok.1 h
    rw [fits, hall others hparts]
  | arith op left right ihl ihr =>
    rw [compile] at h
    obtain ⟨first, hleft, h⟩ := bind_eq_ok.1 h
    obtain ⟨second, hright, h⟩ := bind_eq_ok.1 h
    cases h
    rw [fits, ihl hleft, ihr hright, Bool.and_self]

end SlotExpr

end Stratalog
