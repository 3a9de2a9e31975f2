import Stratalog.Fault
import Stratalog.PatternEngine

/-!
# Expressions over rows

An expression is compiled against a layout that says which column holds which variable, and is
then evaluated row by row. Integer arithmetic wraps to sixty-four bits; division truncates toward
zero. A value is missing when a divisor is zero or an operand is not an integer.
-/

namespace Stratalog

/-- The column that holds a variable. -/
abbrev Layout := String → Option Nat

/-- An expression whose variables are columns. -/
inductive SlotExpr where
  | slot (column : Nat)
  | const (value : Value)
  | concat (parts : List SlotExpr)
  | arith (op : ArithOp) (left right : SlotExpr)
  deriving Repr, Inhabited

/-- An integer operation on words of sixty-four bits. -/
def ArithOp.apply (op : ArithOp) (a b : Int64) : Option Int64 :=
  match op with
  | .add => some (a + b)
  | .sub => some (a - b)
  | .mul => some (a * b)
  | .div => if b = 0 then none else some (a / b)
  | .rem => if b = 0 then none else some (a % b)

namespace SlotExpr

mutual

/-- Compile an expression; every variable needs a column. -/
def compile (layout : Layout) : Expr → Except Fault SlotExpr
  | .var name =>
    match layout name with
    | some column => .ok (.slot column)
    | none => .error (.unboundVariable .expression name)
  | .const value => .ok (.const value)
  | .concat parts => (compileAll layout parts).map .concat
  | .arith op left right => do
    return .arith op (← compile layout left) (← compile layout right)

/-- Compile expressions in order. -/
def compileAll (layout : Layout) : List Expr → Except Fault (List SlotExpr)
  | [] => .ok []
  | part :: rest => do return (← compile layout part) :: (← compileAll layout rest)

end

mutual

/-- The value of an expression for a row. -/
def eval (render : Value → String) (row : Row) : SlotExpr → Option Value
  | .slot column => row[column]?
  | .const value => some value
  | .concat parts => (evalAll render row parts).map .string
  | .arith op left right => do
    let a ← (← eval render row left).int?
    let b ← (← eval render row right).int?
    return .int (← op.apply a b)

/-- The rendered values of expressions, one after the other. -/
def evalAll (render : Value → String) (row : Row) : List SlotExpr → Option String
  | [] => some ""
  | part :: rest => do
    let value ← eval render row part
    return render value ++ (← evalAll render row rest)

end

mutual

/-- Whether every column used exists in rows of the given width. -/
def fits (width : Nat) : SlotExpr → Bool
  | .slot column => column < width
  | .const _ => true
  | .concat parts => fitsAll width parts
  | .arith _ left right => left.fits width && right.fits width

/-- Whether expressions use only columns that exist. -/
def fitsAll (width : Nat) : List SlotExpr → Bool
  | [] => true
  | part :: rest => part.fits width && fitsAll width rest

end

end SlotExpr

/-- A compiled test of a row. -/
inductive RowTest where
  | compare (op : CompareOp) (left right : SlotExpr)
  | matches (left : SlotExpr) (isFoundIn : String → Bool)
  deriving Inhabited

namespace RowTest

/-- Compile a comparison. The right side of `matches` has to be a constant pattern. -/
def compile [PatternEngine] (layout : Layout) (op : CompareOp) (left right : Expr) :
    Except Fault RowTest :=
  match op, right with
  | .matches, .const (.string text) =>
    match PatternEngine.compile? text with
    | some isFoundIn => (SlotExpr.compile layout left).map (.matches · isFoundIn)
    | none => .error (.invalidPlan (.badPatternText text))
  | .matches, _ => .error (.invalidPlan .unusablePattern)
  | op, right => do
    return .compare op (← SlotExpr.compile layout left) (← SlotExpr.compile layout right)

/-- The test that a column holds the value of an expression. -/
def equality (column : Nat) (expr : SlotExpr) : RowTest :=
  .compare .eq (.slot column) expr

/-- Whether every column used exists in rows of the given width. -/
def fits (width : Nat) : RowTest → Bool
  | .compare _ left right => left.fits width && right.fits width
  | .matches left _ => left.fits width

/-- Whether a row passes; a missing value passes nothing. -/
def holds (render : Value → String) (row : Row) : RowTest → Bool
  | .compare op left right =>
    match left.eval render row, right.eval render row with
    | some a, some b => op.holds a b
    | _, _ => false
  | .matches left isFoundIn =>
    match left.eval render row with
    | some (.string text) => isFoundIn text
    | _ => false

end RowTest

end Stratalog
