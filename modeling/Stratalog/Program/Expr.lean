import Stratalog.Value

/-!
# Expressions

Terms stand in the argument positions of atoms; expressions compute values from the variables of
a conjunction. The variables of an expression are listed in reading order with repeats.
-/

namespace Stratalog

/-- An argument of an atom or of a rule head. -/
inductive Term where
  | var (name : String)
  | const (value : Value)
  | wildcard
  deriving DecidableEq, Repr, Inhabited

/-- The variable a term names, if it names one. -/
def Term.var? : Term → Option String
  | .var name => some name
  | _ => none

/-- Integer operations. -/
inductive ArithOp where
  | add
  | sub
  | mul
  | div
  | rem
  deriving DecidableEq, Repr, Inhabited

/-- The capitalised name of an operation, as messages give it. -/
def ArithOp.title : ArithOp → String
  | .add => "Add"
  | .sub => "Sub"
  | .mul => "Mul"
  | .div => "Div"
  | .rem => "Rem"

/-- Comparison operators; `matches` takes a pattern on its right. -/
inductive CompareOp where
  | eq
  | ne
  | lt
  | le
  | gt
  | ge
  | matches
  deriving DecidableEq, Repr, Inhabited

/-- Whether two values stand in the relation an operator names; `matches` is no such relation. -/
def CompareOp.holds (op : CompareOp) (a b : Value) : Bool :=
  match op with
  | .eq => a == b
  | .ne => a != b
  | .lt => (compare a b).isLT
  | .le => (compare a b).isLE
  | .gt => (compare a b).isGT
  | .ge => (compare a b).isGE
  | .matches => false

/-- The functions that fold a group of rows to one value. -/
inductive FoldFunction where
  | count
  | sum
  | min
  | max
  deriving DecidableEq, Repr, Inhabited

/-- The capitalised name of a fold function, as messages give it. -/
def FoldFunction.title : FoldFunction → String
  | .count => "Count"
  | .sum => "Sum"
  | .min => "Min"
  | .max => "Max"

/-- The plain name of a fold function. -/
def FoldFunction.text : FoldFunction → String
  | .count => "count"
  | .sum => "sum"
  | .min => "min"
  | .max => "max"

/-- A value computed from variables. Concatenation renders its parts to text. -/
inductive Expr where
  | var (name : String)
  | const (value : Value)
  | concat (parts : List Expr)
  | arith (op : ArithOp) (left right : Expr)
  deriving Repr, Inhabited

mutual

/-- The variables of an expression in reading order, repeats included. -/
def Expr.vars : Expr → List String
  | .var name => [name]
  | .const _ => []
  | .concat parts => Expr.varsOfAll parts
  | .arith _ left right => left.vars ++ right.vars

/-- The variables of several expressions in reading order. -/
def Expr.varsOfAll : List Expr → List String
  | [] => []
  | part :: rest => part.vars ++ Expr.varsOfAll rest

end

/-- The variables of a list of expressions are those of its members. -/
theorem Expr.varsOfAll_eq_flatMap (parts : List Expr) :
    Expr.varsOfAll parts = parts.flatMap Expr.vars := by
  induction parts with
  | nil => rfl
  | cons part rest ih => simp [Expr.varsOfAll, ih]

end Stratalog
