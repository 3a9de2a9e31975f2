import Stratalog.Fault
import Stratalog.PatternEngine
import Stratalog.Program.Literal
import Stratalog.Schema

/-!
# Typing of bodies

A body is well formed when every predicate it reads is known and has as many columns as it is
given arguments, every variable has one type, and every variable that is only tested is bound
somewhere. Atoms bind first, then aggregates, then the assignments and equalities whose expressions
are computable, until none is left that can bind; then the remaining tests and the negations are
checked against what is bound.
-/

namespace Stratalog

/-- The schemas of the predicates that may be read. -/
abbrev Catalog := String → Option Schema

/-- The types of the variables bound so far. -/
abbrev TypeEnv := List (String × ColumnType)

namespace TypeEnv

/-- The type of a variable, if it is bound. -/
def find? (env : TypeEnv) (var : String) : Option ColumnType :=
  env.lookup var

/-- Whether a variable is bound. -/
def binds (env : TypeEnv) (var : String) : Bool :=
  (env.find? var).isSome

/-- Bind a variable that is not bound yet. -/
def bind (env : TypeEnv) (var : String) (type : ColumnType) : TypeEnv :=
  env ++ [(var, type)]

/-- The type of a variable, or the fault of using one that is not bound. -/
def get (env : TypeEnv) (site : Site) (var : String) : Except Fault ColumnType :=
  match env.find? var with
  | some type => .ok type
  | none => .error (.unboundVariable site var)

end TypeEnv

namespace Typing

/-- Refuse a type other than the expected one. -/
def expect (site : Site) (expected found : ColumnType) : Except Fault Unit :=
  if expected = found then .ok () else .error (.typeMismatch site expected found)

/-- Bind a variable, or refuse a type other than the one it is bound with. -/
def bindOrExpect (site : Site) (env : TypeEnv) (var : String) (type : ColumnType) :
    Except Fault TypeEnv :=
  match env.find? var with
  | some bound => (expect (.variable var site) bound type).map fun _ => env
  | none => .ok (env.bind var type)

/-- The schema a predicate is read with, which has one column per argument. -/
def schemaFor (catalog : Catalog) (atom : Atom) : Except Fault Schema :=
  match catalog atom.predicate with
  | none => .error (.unknownPredicate atom.predicate)
  | some schema =>
    if atom.args.length = schema.arity then .ok schema
    else .error (.arityMismatch atom.predicate schema.arity atom.args.length)

mutual

/-- The type of an expression. -/
def exprType (site : Site) (env : TypeEnv) : Expr → Except Fault ColumnType
  | .var name => env.get site name
  | .const value => .ok value.type
  | .concat parts => do
    exprTypes site env parts
    return .string
  | .arith op left right => do
    expect (.operation op site) .int (← exprType site env left)
    expect (.operation op site) .int (← exprType site env right)
    return .int

/-- Check that every part of a concatenation has a type. -/
def exprTypes (site : Site) (env : TypeEnv) : List Expr → Except Fault Unit
  | [] => .ok ()
  | part :: rest => do
    let _ ← exprType site env part
    exprTypes site env rest

end

/-- Bind the arguments of an atom to the columns they stand in. -/
def bindArgs (site : Site) (predicate : String) : TypeEnv → List Term → List Column →
    Except Fault TypeEnv
  | env, term :: terms, column :: columns => do
    let place := Site.argument column.name predicate site
    let env ← match term with
      | .var name =>
        match env.find? name with
        | some type => (expect place type column.type).map fun _ => env
        | none => .ok (env.bind name column.type)
      | .const value => (expect place column.type value.type).map fun _ => env
      | .wildcard => .ok env
    bindArgs site predicate env terms columns
  | env, _, _ => .ok env

/-- Bind the variables of an atom. -/
def bindAtom (catalog : Catalog) (site : Site) (env : TypeEnv) (atom : Atom) :
    Except Fault TypeEnv := do
  let schema ← schemaFor catalog atom
  bindArgs site atom.predicate env atom.args schema.columns

/-- Bind the variables of the positive atoms of a body. -/
def bindAtoms (catalog : Catalog) (site : Site) : TypeEnv → List Literal → Except Fault TypeEnv
  | env, [] => .ok env
  | env, .atom atom :: rest => do bindAtoms catalog site (← bindAtom catalog site env atom) rest
  | env, _ :: rest => bindAtoms catalog site env rest

/-- Take the first element that passes a test out of a list. -/
def extract? (test : α → Bool) : List α → Option (α × List α)
  | [] => none
  | a :: rest =>
    if test a then some (a, rest) else (extract? test rest).map fun (b, rest) => (b, a :: rest)

/-- Bind what the pending assignments and equalities can bind, first of them first, until none
can. The literals that are left come back with the bindings. -/
def bindPending (site : Site) : Nat → TypeEnv → List Literal →
    Except Fault (TypeEnv × List Literal)
  | 0, env, pending => .ok (env, pending)
  | fuel + 1, env, pending =>
    match extract? (fun literal => (literal.binding? env.binds).isSome) pending with
    | none => .ok (env, pending)
    | some (literal, rest) =>
      match literal.binding? env.binds with
      | none => .ok (env, pending)
      | some (var, expr) => do
        let type ← exprType site env expr
        bindPending site fuel (env.bind var type) rest

/-- Check the pattern on the right of a `matches`. -/
def checkPattern [PatternEngine] (site : Site) : Expr → Except Fault Unit
  | .const (.string text) =>
    if (PatternEngine.compile? text).isSome then .ok () else .error (.invalidPlan (.badPattern site))
  | .const value => .error (.typeMismatch site .string value.type)
  | _ => .error (.invalidPlan (.patternNotConstant site))

/-- Check the sides of a comparison. -/
def checkCompare [PatternEngine] (site : Site) (env : TypeEnv) (op : CompareOp) (left right : Expr) :
    Except Fault Unit := do
  let l ← exprType site env left
  let r ← exprType site env right
  match op with
  | .eq | .ne => expect site l r
  | .lt | .le | .gt | .ge =>
    if l = .int ∨ l = .string then expect site l r else .error (.typeMismatch site .int l)
  | .matches => do
    expect site .string l
    checkPattern site right

/-- Check an assignment or comparison that binds nothing. -/
def checkTest [PatternEngine] (site : Site) (env : TypeEnv) : Literal → Except Fault Unit
  | .assign var expr => do
    let type ← exprType site env expr
    let bound ← env.get site var
    expect (.variable var site) bound type
  | .compare op left right => checkCompare site env op left right
  | _ => .ok ()

/-- Check each test. -/
def checkTests [PatternEngine] (site : Site) (env : TypeEnv) : List Literal → Except Fault Unit
  | [] => .ok ()
  | literal :: rest => do
    checkTest site env literal
    checkTests site env rest

/-- Check the arguments of a negated atom against the columns they stand in. -/
def checkArgs (site : Site) (predicate : String) (env : TypeEnv) : List Term → List Column →
    Except Fault Unit
  | term :: terms, column :: columns => do
    let place := Site.negatedArgument column.name predicate site
    match term with
    | .var name =>
      match env.find? name with
      | some type => expect place column.type type
      | none => .ok ()
    | .const value => expect place column.type value.type
    | .wildcard => .ok ()
    checkArgs site predicate env terms columns
  | _, _ => .ok ()

/-- Check a negated atom: its variables have to be bound elsewhere. -/
def checkNegation (catalog : Catalog) (site : Site) (env : TypeEnv) (atom : Atom) :
    Except Fault Unit := do
  let schema ← schemaFor catalog atom
  let unbound := (atom.vars.filter fun var => !env.binds var).eraseDups
  if unbound.isEmpty then checkArgs site atom.predicate env atom.args schema.columns
  else .error (.unsafeNegation site atom.predicate unbound)

/-- Check the negated atoms of a body. -/
def checkNegations (catalog : Catalog) (site : Site) (env : TypeEnv) :
    List Literal → Except Fault Unit
  | [] => .ok ()
  | .negated atom :: rest => do
    checkNegation catalog site env atom
    checkNegations catalog site env rest
  | _ :: rest => checkNegations catalog site env rest

/-- Whether a literal is an assignment or a comparison. -/
def isTest : Literal → Bool
  | .assign .. | .compare .. => true
  | _ => false

/-- Check a conjunction, given how its aggregates bind. -/
def conjunction [PatternEngine] (catalog : Catalog) (site : Site) (body : List Literal)
    (bindAggregates : TypeEnv → Except Fault TypeEnv) : Except Fault TypeEnv := do
  let env ← bindAtoms catalog site [] body
  let env ← bindAggregates env
  let tests := body.filter isTest
  let (env, pending) ← bindPending site tests.length env tests
  checkTests site env pending
  checkNegations catalog site env body
  return env

/-- Bind the grouping variables of an aggregate to the types they have inside it. -/
def bindGroup (site : Site) (inner : TypeEnv) : TypeEnv → List String → Except Fault TypeEnv
  | env, [] => .ok env
  | env, var :: rest => do
    let type ← inner.get site var
    bindGroup site inner (← bindOrExpect site env var type) rest

/-- The type of the target of an aggregate, if it has one. -/
def targetType (site : Site) (inner : TypeEnv) : Option Expr → Except Fault (Option ColumnType)
  | none => .ok none
  | some expr => (exprType site inner expr).map some

/-- The type of the result of an aggregate. -/
def resultType (site : Site) (function : FoldFunction) (target : Option ColumnType) :
    Except Fault ColumnType :=
  match function, target with
  | .count, _ => .ok .int
  | function, none => .error (.invalidPlan (.missingTarget function site))
  | .sum, some type => (expect site .int type).map fun _ => .int
  | _, some type => .ok type

variable [PatternEngine]

mutual

/-- Bind the grouping variables and the result of an aggregate; other literals bind nothing. -/
def bindAggregate (catalog : Catalog) (site : Site) (env : TypeEnv) :
    Literal → Except Fault TypeEnv
  | .aggregate result function target groupBy body => do
    let inside := Site.aggregate result site
    let inner ← conjunction catalog inside body fun inner =>
      bindAggregates catalog inside inner body
    let env ← bindGroup inside inner env groupBy
    let target ← targetType inside inner target
    let type ← resultType inside function target
    bindOrExpect inside env result type
  | _ => .ok env

/-- Bind the variables of the aggregates of a body. -/
def bindAggregates (catalog : Catalog) (site : Site) (env : TypeEnv) :
    List Literal → Except Fault TypeEnv
  | [] => .ok env
  | literal :: rest => do
    let env ← bindAggregate catalog site env literal
    bindAggregates catalog site env rest

end

/-- Check a body and find the types of the variables it binds. -/
def checkBody (catalog : Catalog) (site : Site) (body : List Literal) : Except Fault TypeEnv :=
  conjunction catalog site body fun env => bindAggregates catalog site env body

end Typing

end Stratalog
