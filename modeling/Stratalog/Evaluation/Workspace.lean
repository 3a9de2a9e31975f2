import Stratalog.Settings
import Stratalog.Store.Basic

/-!
# The workspace of an evaluation

An evaluation reads base relations, derived relations that are finished, and, inside a stratum,
the relations that grow and what they grew by in the round before. Reading a relation may build an
index over it, which stays with it; nothing else about a relation changes by being read.

An evaluation either succeeds or fails with a fault, and in both cases leaves a workspace behind.

How much time has passed, and whether someone cancelled meanwhile, is for the world outside to say.
An evaluation takes notice of it at its checkpoints alone.
-/

namespace Stratalog

/-- What was done so far, in numbers. -/
structure Counters where
  strataEvaluated : Nat := 0
  predicatesEvaluated : Nat := 0
  rounds : Nat := 0
  tuplesDerived : Nat := 0
  joins : Nat := 0
  cartesianJoins : Nat := 0
  queriesRun : Nat := 0
  queriesFailed : Nat := 0
  deriving DecidableEq, Repr, Inhabited

namespace Counters

/-- Count a join. -/
def countJoin (counters : Counters) (cartesian : Bool) : Counters :=
  { counters with
    joins := counters.joins + 1
    cartesianJoins := counters.cartesianJoins + cartesian.toNat }

/-- Count a finished stratum. -/
def countStratum (counters : Counters) (predicates rounds derived : Nat) : Counters :=
  { counters with
    strataEvaluated := counters.strataEvaluated + 1
    predicatesEvaluated := counters.predicatesEvaluated + predicates
    rounds := counters.rounds + rounds
    tuplesDerived := counters.tuplesDerived + derived }

/-- Count an answered query. -/
def countQuery (counters : Counters) (succeeded : Bool) : Counters :=
  { counters with
    queriesRun := counters.queriesRun + 1
    queriesFailed := counters.queriesFailed + (!succeeded).toNat }

end Counters

/-- Relations by name. -/
abbrev Relations := Std.TreeMap String Relation

/-- The relations an evaluation reads, and its counters. -/
structure Workspace where
  base : Relations := ∅
  /-- One slot per derived predicate, filled once its stratum is finished. -/
  slots : Std.TreeMap String (Option Relation) := ∅
  /-- The relations of the stratum under evaluation. -/
  growing : Relations := ∅
  /-- What they grew by in the round before. -/
  delta : Relations := ∅
  counters : Counters := {}
  /-- The number of checkpoints passed. -/
  checkpoints : Nat := 0
  /-- Whether every index used by a step so far was within its row. -/
  inBounds : Bool := true

namespace Workspace

/-- Whether a name is that of a derived predicate. -/
def isDerived (workspace : Workspace) (name : String) : Bool :=
  workspace.slots.contains name

/-- The finished relation of a derived predicate. -/
def published? (workspace : Workspace) (name : String) : Option Relation :=
  (workspace.slots[name]?).join

/-- Whether a derived predicate is finished. -/
def isPublished (workspace : Workspace) (name : String) : Bool :=
  (workspace.published? name).isSome

/-- The number of finished derived predicates. -/
def publishedCount (workspace : Workspace) : Nat :=
  workspace.slots.values.countP Option.isSome

/-- Fill the slot of a derived predicate. -/
def publish (workspace : Workspace) (name : String) (relation : Relation) :
    Except Fault Workspace :=
  match workspace.slots[name]? with
  | none => .error (.invalidPlan (.notDerived name))
  | some (some _) => .error (.invalidPlan (.evaluatedTwice name))
  | some none => .ok { workspace with slots := workspace.slots.insert name (some relation) }

/-- The finished derived relation or the base relation of a name. -/
def resolve (workspace : Workspace) (name : String) : Except Fault Relation :=
  match workspace.slots[name]? with
  | some (some relation) => .ok relation
  | some none => .error (.invalidPlan (.readTooEarly name))
  | none =>
    match workspace.base[name]? with
    | some relation => .ok relation
    | none => .error (.unknownPredicate name)

/-- The relation an atom reads; `delta` asks for the growth of the round before. -/
def read (workspace : Workspace) (name : String) (delta : Bool) : Except Fault Relation :=
  match if delta then workspace.delta[name]? else none, workspace.growing[name]? with
  | some relation, _ => .ok relation
  | none, some relation =>
    .ok (if delta then Relation.empty name relation.schema else relation)
  | none, none => workspace.resolve name

/-- Put a relation back where it was read, with the indices it has by now. -/
def keep (workspace : Workspace) (name : String) (delta : Bool) (relation : Relation) :
    Workspace :=
  if delta && workspace.delta.contains name then
    { workspace with delta := workspace.delta.insert name relation }
  else if workspace.growing.contains name then
    if delta then workspace
    else { workspace with growing := workspace.growing.insert name relation }
  else if workspace.slots.contains name then
    { workspace with slots := workspace.slots.insert name (some relation) }
  else { workspace with base := workspace.base.insert name relation }

end Workspace

/-- What a checkpoint notices of the world outside. -/
structure Observation where
  /-- Milliseconds since the operation began. -/
  elapsed : Nat := 0
  cancelled : Bool := false
  deriving DecidableEq, Repr, Inhabited

/-- What an evaluation may consult and does not change. -/
structure Context where
  settings : Settings := {}
  entities : EntityTable := ∅
  cancelled : Bool := false
  /-- Milliseconds since the operation began. -/
  elapsed : Nat := 0
  /-- What the checkpoints notice, in the order in which they are passed. -/
  observe : Nat → Observation := fun _ => {}

/-- An evaluation: an answer or a fault, and the workspace it leaves. -/
abbrev Eval := ExceptT Fault (StateM Workspace)

namespace Context

/-- Refuse to go on once cancelled. -/
def checkCancelled (context : Context) : Except Fault Unit :=
  if context.cancelled then .error .cancelled else .ok ()

/-- Refuse to go on past the deadline. -/
def checkDeadline (context : Context) : Except Fault Unit :=
  match context.settings.timeoutMs with
  | some limit =>
    if limit ≤ context.elapsed then .error (.resourceExhausted (.deadline limit)) else .ok ()
  | none => .ok ()

/-- Cancellation, then the deadline. -/
def checkpoint (context : Context) : Except Fault Unit := do
  context.checkCancelled
  context.checkDeadline

/-- The context as a checkpoint finds it. -/
def noticing (context : Context) (seen : Observation) : Context :=
  { context with cancelled := context.cancelled || seen.cancelled, elapsed := seen.elapsed }

/-- Pass the next checkpoint. -/
def pass (context : Context) : Eval Unit := do
  let seen := context.observe (← get).checkpoints
  modify fun w => { w with checkpoints := w.checkpoints + 1 }
  (context.noticing seen).checkpoint

/-- Refuse a table of more rows than allowed. -/
def checkSize (context : Context) (size : Nat) (name : String) : Except Fault Unit :=
  if context.settings.maxTuples < size then
    .error (.resourceExhausted (.size name size context.settings.maxTuples))
  else .ok ()

end Context

end Stratalog
