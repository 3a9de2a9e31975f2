import Stratalog.Algebra.Fold
import Stratalog.Algebra.Join
import Stratalog.Evaluation.Plan
import Stratalog.Evaluation.Workspace
import Stratalog.Program.Basic

/-!
# Running plans

A plan starts from the table with no columns and one row and takes its steps in turn, until the
table is empty. A join that gives more rows than allowed fails. The wildcards of an atom may give
the same row several times; such a join keeps each row once.

Each step notes whether the columns and rows it refers to exist.
-/

namespace Stratalog

/-- Rows of values for a list of variables. -/
structure BindingTable where
  vars : List String
  rows : List Row
  deriving Repr, Inhabited

/-- Whether every row has a cell for every variable. -/
def BindingTable.fits (table : BindingTable) : Bool :=
  table.rows.all fun row => row.length == table.vars.length

/-- Whether every position an index lists is that of a row. -/
def Relation.indicesFit (relation : Relation) : Bool :=
  relation.indices.all fun index =>
    index.buckets.toList.all fun entry => entry.2.toList.all fun i => i < relation.size

namespace Evaluation

/-- Note whether the indices used by a step exist. -/
def noteBounds (fits : Bool) : Eval Unit :=
  modify fun w => { w with inBounds := w.inBounds && fits }

/-- Whether the arguments of an atom refer to existing columns and rows only. -/
def argsFit (rows : List Row) (relation : Relation) (args : List ArgSlot) : Bool :=
  (rows.all fun row => args.all (·.fits row.length args.length)) &&
    (relation.rows.all fun row => args.length ≤ row.length) && relation.indicesFit

/-- The key columns of an atom: where the key comes from, and the columns it is compared with. -/
def keyColumns (args : List ArgSlot) : List (KeyPart × Nat) :=
  args.zipIdx.filterMap fun
    | (.const value, i) => some (.const value, i)
    | (.bound column, i) => some (.column column, i)
    | _ => none

/-- Whether a row of the relation repeats values where the atom repeats variables. -/
def repeats (args : List (ArgSlot × Nat)) (row : Row) : Bool :=
  args.all fun
    | (.same first, i) => row.cell i == row.cell first
    | _ => true

/-- The values a row of the relation gives to the variables that the atom binds. -/
def freshCells (args : List (ArgSlot × Nat)) (row : Row) : Row :=
  args.filterMap fun
    | (.fresh, i) => some (row.cell i)
    | _ => none

/-- Extend a row of bindings by a row of the relation that agrees with it on the key. -/
def extendRow (args : List (ArgSlot × Nat)) (left right : Row) : Option Row :=
  if repeats args right then some (left ++ freshCells args right) else none

/-- The join of rows of bindings with a relation through the arguments of an atom. -/
def joinThrough (rows : List Row) (relation : Relation) (args : List ArgSlot) (limit : Nat) :
    JoinResult :=
  let keys := keyColumns args
  joinRows rows (keys.map Prod.fst) relation (keys.map Prod.snd) limit (extendRow args.zipIdx)

/-- Join a table with a relation through the arguments of an atom, and hand the relation on with
the indices it has by now. -/
def joinAtom (context : Context) (rows : List Row) (relation : Relation) (args : List ArgSlot)
    (keep : Relation → Workspace → Workspace) : Eval (List Row) := do
  noteBounds (argsFit rows relation args)
  let limit := context.settings.maxTuples
  let result := joinThrough rows relation args limit
  modify fun w =>
    { keep result.right w with counters := w.counters.countJoin result.report.cartesian }
  if result.report.truncated then
    throw (.resourceExhausted (.join relation.name result.report.output limit))
  let rows := if args.contains .wildcard then Row.sortDistinct result.rows else result.rows
  context.checkSize rows.length relation.name
  return rows

/-- Keep the rows without a partner in a relation. -/
def rejectAtom (rows : List Row) (predicate : String) (args : List ArgSlot) :
    Eval (List Row) := do
  let relation ← (← get).read predicate false
  noteBounds (argsFit rows relation args)
  let keys := keyColumns args
  let (rows, held) := antijoinRows rows (keys.map Prod.fst) relation (keys.map Prod.snd)
  modify fun w => w.keep predicate false held
  return rows

/-- Whether the keys and the target of an aggregate refer to existing columns only. -/
def foldFits (rows : List Row) (keys : List Nat) (target : Option SlotExpr) : Bool :=
  rows.all fun row =>
    keys.all (· < row.length) && target.all (·.fits row.length)

/-- The relation of an aggregate, from the rows of its body. -/
def foldRows (context : Context) (label : String) (function : FoldFunction) (keys : List Nat)
    (target : Option SlotExpr) (rows : List Row) : Relation :=
  let render := context.entities.render
  let items := rows.map fun row => (row.pick keys, target.bind (·.eval render row))
  let folded := foldGroups function (!keys.isEmpty) items
  let types := ((folded.head?).getD []).map Value.type
  Relation.ofDistinct label (Schema.ofTypes types) folded

mutual

/-- Take one step. -/
def runStep (context : Context) (rows : List Row) : Step → Eval (List Row)
  | .join predicate delta args => do
    let relation ← (← get).read predicate delta
    joinAtom context rows relation args fun held w => w.keep predicate delta held
  | .fold label function inner keys target args => do
    let table ← runSteps context [[]] inner
    noteBounds (foldFits table keys target)
    joinAtom context rows (foldRows context label function keys target table) args fun _ w => w
  | .negate predicate args => rejectAtom rows predicate args
  | .filter test => do
    noteBounds (rows.all fun row => test.fits row.length)
    return rows.filter fun row => test.holds context.entities.render row
  | .bind expr => do
    noteBounds (rows.all fun row => expr.fits row.length)
    return rows.filterMap fun row =>
      (expr.eval context.entities.render row).map fun value => row ++ [value]

/-- Take steps until the table is empty. -/
def runSteps (context : Context) (rows : List Row) : List Step → Eval (List Row)
  | [] => return rows
  | step :: rest =>
    if rows.isEmpty then return rows
    else do
      let rows ← runStep context rows step
      runSteps context rows rest

end

/-- The bindings that satisfy a planned body. -/
def runPlan (context : Context) (plan : Plan) : Eval BindingTable := do
  let rows ← runSteps context [[]] plan.steps
  let table : BindingTable := ⟨plan.vars, rows⟩
  noteBounds table.fits
  return table

/-- The size of what an atom reads. -/
def sizeIn (workspace : Workspace) : SizeOf := fun name delta =>
  (workspace.read name delta).map Relation.size

/-- Where the columns of a rule head come from. -/
def headParts (vars : List String) : List Term → Except Fault (List KeyPart)
  | [] => .ok []
  | .var name :: rest =>
    match vars.idxOf? name with
    | some column => (headParts vars rest).map (.column column :: ·)
    | none => .error (.unboundVariable .ruleHead name)
  | .const value :: rest => (headParts vars rest).map (.const value :: ·)
  | .wildcard :: _ => .error (.invalidPlan .wildcardInRuleHead)

/-- The rows of a rule head, one per row of bindings. -/
def headRows (table : BindingTable) (head : List Term) : Except Fault (List Row) :=
  (headParts table.vars head).map fun parts => table.rows.map (leftKey parts)

/-- Whether a rule head refers to existing columns only. -/
def headFits (table : BindingTable) (head : List Term) : Bool :=
  (headParts table.vars head).toOption.all fun parts =>
    table.rows.all fun row => parts.all (·.fits row.length)

/-- Compiled selections. -/
def compileSelections (layout : Layout) : List Selection → Except Fault (List SlotExpr)
  | [] => .ok []
  | item :: rest => do
    return (← SlotExpr.compile layout item.expr) :: (← compileSelections layout rest)

/-- The values of all selections for a row, if none is missing. -/
def selectRow (render : Value → String) (row : Row) : List SlotExpr → Option Row
  | [] => some []
  | expr :: rest => do return (← expr.eval render row) :: (← selectRow render row rest)

/-- The selected rows; a row with a missing value is left out. -/
def selectRows (context : Context) (table : BindingTable) (select : List Selection) :
    Except Fault (List Row) :=
  (compileSelections table.vars.idxOf? select).map fun exprs =>
    table.rows.filterMap fun row => selectRow context.entities.render row exprs

/-- Whether selections refer to existing columns only. -/
def selectFits (table : BindingTable) (select : List Selection) : Bool :=
  (compileSelections table.vars.idxOf? select).toOption.all fun exprs =>
    table.rows.all fun row => exprs.all (·.fits row.length)

end Evaluation

end Stratalog
