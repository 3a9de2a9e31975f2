import Stratalog.Evaluation.Expression
import Stratalog.Program.Literal
import Stratalog.Text.Lowercase
import Stratalog.Typing.Body

/-!
# Plans

A plan evaluates a body in steps that grow a table of bindings, one column per variable bound so
far. Tests, bindings and negations go first as soon as their variables are bound; otherwise the
atom or aggregate with the most bound arguments is joined next, the smallest relation first.

The body of an aggregate is planned by itself, before the conjunction around it.
-/

namespace Stratalog

/-- What an argument of an atom asks of a row of the relation. -/
inductive ArgSlot where
  | const (value : Value)
  | bound (column : Nat)
  /-- The first occurrence of a variable that is not bound yet; its value is appended. -/
  | fresh
  /-- Must equal the argument at an earlier position. -/
  | same (position : Nat)
  | wildcard
  deriving DecidableEq, Repr, Inhabited

/-- Whether the indices of a slot exist: `width` bounds the columns bound so far and `arity` the
columns of the relation. -/
def ArgSlot.fits (width arity : Nat) : ArgSlot → Bool
  | .bound column => column < width
  | .same position => position < arity
  | _ => true

/-- One step of a plan. -/
inductive Step where
  | join (predicate : String) (delta : Bool) (args : List ArgSlot)
  | fold (label : String) (function : FoldFunction) (inner : List Step) (keys : List Nat)
      (target : Option SlotExpr) (args : List ArgSlot)
  | negate (predicate : String) (args : List ArgSlot)
  | filter (test : RowTest)
  | bind (expr : SlotExpr)
  deriving Inhabited

/-- Steps, and the variables bound after them in column order. -/
structure Plan where
  steps : List Step := []
  vars : List String := []
  deriving Inhabited

namespace Plan

/-- The column of a variable, if it is bound. -/
def layout (plan : Plan) : Layout := fun name =>
  plan.vars.idxOf? name

/-- Whether a variable is bound. -/
def binds (plan : Plan) (name : String) : Bool :=
  plan.vars.contains name

/-- Add a step that binds the given variables. -/
def push (plan : Plan) (step : Step) (vars : List String) : Plan :=
  { steps := plan.steps ++ [step], vars := plan.vars ++ vars }

end Plan

/-- The arguments of an atom as slots, from `position` on; `seen` holds the positions at which
variables occurred for the first time. -/
def argSlotsFrom (layout : Layout) (position : Nat) (seen : List (String × Nat)) :
    List Term → List ArgSlot
  | [] => []
  | .const value :: rest => .const value :: argSlotsFrom layout (position + 1) seen rest
  | .wildcard :: rest => .wildcard :: argSlotsFrom layout (position + 1) seen rest
  | .var name :: rest =>
    match layout name, seen.lookup name with
    | some column, _ => .bound column :: argSlotsFrom layout (position + 1) seen rest
    | none, some first => .same first :: argSlotsFrom layout (position + 1) seen rest
    | none, none =>
      .fresh :: argSlotsFrom layout (position + 1) ((name, position) :: seen) rest

/-- The arguments of an atom as slots. -/
def argSlots (layout : Layout) (terms : List Term) : List ArgSlot :=
  argSlotsFrom layout 0 [] terms

/-- The variables that the arguments of an atom bind, in order. -/
def freshVars (plan : Plan) (terms : List Term) : List String :=
  ((terms.filterMap Term.var?).filter fun name => !plan.binds name).eraseDups

/-- The number of rows a predicate has, or its growth; a fault if it is unknown. -/
abbrev SizeOf := String → Bool → Except Fault Nat

/-- A literal that waits for its place: whether it reads the growth of the round before, and, for
an aggregate, the plan of its body. -/
structure Waiting where
  literal : Literal
  delta : Bool
  inner : Except Fault Plan

/-- How much of a literal is bound, and how large what it reads is. -/
structure Score where
  bound : Nat
  size : Nat
  deriving DecidableEq, Repr

namespace Score

/-- Whether one score goes before another: more is bound, or as much and less is read. -/
def precedes (a b : Score) : Bool :=
  b.bound < a.bound || (a.bound == b.bound && a.size < b.size)

/-- The first of the best scores. -/
def best? : List (Option Score) → Option Score
  | [] => none
  | none :: rest => best? rest
  | some score :: rest =>
    match best? rest with
    | none => some score
    | some other => if other.precedes score then some other else some score

end Score

namespace Plan

/-- Whether an argument is known before the join. -/
def knows (plan : Plan) : Term → Bool
  | .const _ => true
  | .var name => plan.binds name
  | .wildcard => false

/-- The score of an atom or aggregate; other literals have none. -/
def score (sizeOf : SizeOf) (plan : Plan) (waiting : Waiting) :
    Except Fault (Option Score) :=
  match waiting.literal with
  | .atom atom =>
    (sizeOf atom.predicate waiting.delta).map fun size =>
      some ⟨atom.args.countP plan.knows, size⟩
  | .aggregate result _ _ groupBy _ =>
    .ok (some ⟨groupBy.countP plan.binds + (plan.binds result).toNat, 1⟩)
  | _ => .ok none

/-- The scores of all literals, or the first fault. -/
def scores (sizeOf : SizeOf) (plan : Plan) : List Waiting → Except Fault (List (Option Score))
  | [] => .ok []
  | waiting :: rest => do return (← score sizeOf plan waiting) :: (← scores sizeOf plan rest)

/-- Add a test whose variables are all bound. -/
def pushTest [PatternEngine] (plan : Plan) (literal : Literal) : Except Fault Plan :=
  match literal with
  | .compare op left right =>
    (RowTest.compile plan.layout op left right).map fun test => plan.push (.filter test) []
  | .assign var expr =>
    (SlotExpr.compile plan.layout expr).map fun expr =>
      plan.push (.filter (.equality ((plan.layout var).getD 0) expr)) []
  | _ => .ok plan

/-- Bind a variable by an expression. -/
def pushBinding (plan : Plan) (var : String) (expr : Expr) : Except Fault Plan :=
  (SlotExpr.compile plan.layout expr).map fun expr => plan.push (.bind expr) [var]

/-- Add a negation whose variables are all bound. -/
def pushNegation (plan : Plan) (atom : Atom) : Plan :=
  plan.push (.negate atom.predicate (argSlots plan.layout atom.args)) []

/-- Join an atom. -/
def pushAtom (plan : Plan) (atom : Atom) (delta : Bool) : Plan :=
  plan.push (.join atom.predicate delta (argSlots plan.layout atom.args))
    (freshVars plan atom.args)

/-- The columns of the grouping variables inside an aggregate. -/
def groupColumns (result : String) (inner : Plan) : List String → Except Fault (List Nat)
  | [] => .ok []
  | var :: rest =>
    match inner.layout var with
    | some column => (groupColumns result inner rest).map (column :: ·)
    | none => .error (.unboundVariable (.group result) var)

/-- The compiled target of an aggregate, if it has one. -/
def compileTarget (inner : Plan) : Option Expr → Except Fault (Option SlotExpr)
  | none => .ok none
  | some target => (SlotExpr.compile inner.layout target).map some

/-- The name messages give to the rows of an aggregate. -/
def foldLabel (result : String) (function : FoldFunction) : String :=
  Text.toLower (result ++ "#" ++ function.text)

/-- Join the rows of an aggregate. -/
def pushAggregate (plan : Plan) (result : String) (function : FoldFunction)
    (target : Option Expr) (groupBy : List String) (inner : Plan) : Except Fault Plan := do
  let keys ← groupColumns result inner groupBy
  let target ← compileTarget inner target
  let terms := groupBy.map Term.var ++ [.var result]
  return plan.push
    (.fold (foldLabel result function) function inner.steps keys target
      (argSlots plan.layout terms))
    (freshVars plan terms)

/-- Join an atom or an aggregate. -/
def pushJoin (plan : Plan) (waiting : Waiting) : Except Fault Plan :=
  match waiting.literal with
  | .atom atom => .ok (plan.pushAtom atom waiting.delta)
  | .aggregate result function target groupBy _ => do
    plan.pushAggregate result function target groupBy (← waiting.inner)
  | _ => .ok plan

variable [PatternEngine]

/-- Place one literal of those that wait, and return those that still do. -/
def advance (sizeOf : SizeOf) (plan : Plan) (waiting : List Waiting) :
    Except Fault (Plan × List Waiting) := do
  match Typing.extract? (fun w => w.literal.isReadyTest plan.binds) waiting with
  | some (w, rest) => return (← plan.pushTest w.literal, rest)
  | none =>
  match Typing.extract? (fun w => (w.literal.binding? plan.binds).isSome) waiting with
  | some (w, rest) =>
    match w.literal.binding? plan.binds with
    | some (var, expr) => return (← plan.pushBinding var expr, rest)
    | none => return (plan, rest)
  | none =>
  match Typing.extract? (fun w => w.literal.isReadyNegation plan.binds) waiting with
  | some (w, rest) =>
    match w.literal with
    | .negated atom => return (plan.pushNegation atom, rest)
    | _ => return (plan, rest)
  | none =>
  let scores ← scores sizeOf plan waiting
  match Score.best? scores with
  | none => .error (.invalidPlan (.unorderable waiting.length))
  | some best =>
    match Typing.extract? (fun scored => scored.2 == some best) (waiting.zip scores) with
    | some (scored, rest) => return (← plan.pushJoin scored.1, rest.map Prod.fst)
    | none => return (plan, [])

/-- Place literals until none waits. -/
def arrange (sizeOf : SizeOf) : Nat → Plan → List Waiting → Except Fault Plan
  | _, plan, [] => .ok plan
  | 0, plan, _ => .ok plan
  | fuel + 1, plan, waiting => do
    let (plan, rest) ← advance sizeOf plan waiting
    arrange sizeOf fuel plan rest

mutual

/-- The plan of the body of an aggregate; other literals have none. -/
def ofAggregate (sizeOf : SizeOf) : Literal → Except Fault Plan
  | .aggregate _ _ _ _ body => arrange sizeOf body.length {} (waitingOf sizeOf body)
  | _ => .ok {}

/-- The literals of a body that reads no growth, each with the plan of its own body. -/
def waitingOf (sizeOf : SizeOf) : List Literal → List Waiting
  | [] => []
  | literal :: rest => ⟨literal, false, ofAggregate sizeOf literal⟩ :: waitingOf sizeOf rest

end

/-- Plan a body. The atom at `deltaAt`, if one is given, reads the growth of the round before. -/
def ofBody (sizeOf : SizeOf) (body : List Literal) (deltaAt : Option Nat) : Except Fault Plan :=
  arrange sizeOf body.length {}
    ((waitingOf sizeOf body).mapIdx fun i w => { w with delta := deltaAt == some i })

end Plan

end Stratalog
