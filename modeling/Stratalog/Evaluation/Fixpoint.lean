import Stratalog.Dependency.Stratification
import Stratalog.Evaluation.Run

/-!
# The fixpoint of a stratum

The relations of a stratum grow in rounds. The first round evaluates the rules that read no member
of the stratum. Each later round evaluates every other rule once per atom that reads a member,
with that atom reading only what the member grew by in the round before; only rows not yet held
are new. The stratum is finished by the first round that gives nothing new.

A rule is planned anew each time, because the sizes that guide its plan have changed.
-/

namespace Stratalog

namespace Evaluation

/-- The head rows of a rule; the atom at `deltaAt`, if given, reads the growth of a member. -/
def evaluateRule [PatternEngine] (context : Context) (rule : Rule) (deltaAt : Option Nat) : Eval
    (List Row) := do
  let plan ← Plan.ofBody (sizeIn (← get)) rule.body deltaAt
  let table ← runPlan context plan
  noteBounds (headFits table rule.head)
  headRows table rule.head

/-- Rows found in this round and not before, in order and as a set. -/
structure Fresh where
  rows : Array Row := #[]
  seen : Std.TreeSet Row := ∅

/-- Add a row unless it was found already. -/
def Fresh.add (fresh : Fresh) (row : Row) : Fresh :=
  if fresh.seen.contains row then fresh else ⟨fresh.rows.push row, fresh.seen.insert row⟩

/-- Add the rows that the named member does not hold yet. -/
def addNew (name : String) : Fresh → List Row → Eval Fresh
  | fresh, [] => return fresh
  | fresh, row :: rest => do
    let known ← match (← get).growing[name]? with
      | none => pure false
      | some relation =>
        let (known, held) := relation.contains row
        modify fun w => { w with growing := w.growing.insert name held }
        pure known
    addNew name (if known then fresh else fresh.add row) rest

/-- The predicate the atom at a body position reads. -/
def atomAt? (body : List Literal) (position : Nat) : Option String :=
  match body[position]? with
  | some (.atom atom) => some atom.predicate
  | _ => none

/-- Whether the member read at a body position did not grow in the round before. -/
def isIdle (workspace : Workspace) (body : List Literal) (position : Nat) : Bool :=
  match (atomAt? body position).bind fun name => workspace.delta[name]? with
  | some relation => relation.isEmpty
  | none => true

/-- Evaluate a rule once per listed position, and collect the new rows. -/
def deriveAt [PatternEngine] (context : Context) (name : String) (rule : Rule) :
    Fresh → List Nat → Eval Fresh
  | fresh, [] => return fresh
  | fresh, position :: rest => do
    if isIdle (← get) rule.body position then
      deriveAt context name rule fresh rest
    else
      let rows ← evaluateRule context rule (some position)
      deriveAt context name rule (← addNew name fresh rows) rest

/-- Collect the new rows of the rules of one member. -/
def deriveRules [PatternEngine] (context : Context) (members : List String) (name : String) :
    Fresh → List Rule → Eval Fresh
  | fresh, [] => return fresh
  | fresh, rule :: rest => do
    let fresh ← deriveAt context name rule fresh (rule.recursivePositions members)
    deriveRules context members name fresh rest

/-- Rows by member. -/
abbrev RowsByName := List (String × List Row)

/-- One round: for each member, the rows derived through some growth that it does not hold. Members
without such rows are left out. -/
def deriveRound [PatternEngine] (context : Context) (members : List String) :
    List Predicate → Eval RowsByName
  | [] => return []
  | predicate :: rest => do
    let fresh ← deriveRules context members predicate.name {} predicate.rules
    let others ← deriveRound context members rest
    return if fresh.rows.isEmpty then others else (predicate.name, fresh.rows.toList) :: others

/-- Collect the rows of the rules of one predicate that read no member. -/
def startRules [PatternEngine] (context : Context) (members : List String) : Fresh → List Rule → Eval Fresh
  | fresh, [] => return fresh
  | fresh, rule :: rest => do
    if (rule.recursivePositions members).isEmpty then
      let rows ← evaluateRule context rule none
      startRules context members (rows.foldl Fresh.add fresh) rest
    else startRules context members fresh rest

/-- The first round: the rows of the rules that read no member. -/
def startRound [PatternEngine] (context : Context) (members : List String) :
    List Predicate → Eval RowsByName
  | [] => return []
  | predicate :: rest => do
    let fresh ← startRules context members {} predicate.rules
    context.checkSize fresh.rows.size predicate.name
    let others ← startRound context members rest
    return if fresh.rows.isEmpty then others else (predicate.name, fresh.rows.toList) :: others

/-- Let the members grow by the rows of a round. -/
def absorb (context : Context) : RowsByName → Eval Unit
  | [] => return ()
  | (name, rows) :: rest => do
    match (← get).growing[name]? with
    | none => pure ()
    | some relation =>
      let grown := relation.extend rows
      modify fun w => { w with growing := w.growing.insert name grown }
      context.checkSize grown.size name
    absorb context rest

/-- What the members grow by, as relations. -/
def deltaOf (workspace : Workspace) (rows : RowsByName) : Relations :=
  Std.TreeMap.ofList (rows.map fun (name, rows) =>
    let schema := ((workspace.growing[name]?).map Relation.schema).getD {}
    (name, Relation.ofDistinct name schema rows)) compare

/-- The first round: the rows derived without reading a member, absorbed. -/
def openRounds [PatternEngine] (context : Context) (predicates : List Predicate) : Eval RowsByName := do
  context.pass
  let rows ← startRound context (predicates.map Predicate.name) predicates
  absorb context rows
  return rows

/-- A later round, given the rows of the round before: what is new through them, absorbed. -/
def nextRound [PatternEngine] (context : Context) (predicates : List Predicate) (rows : RowsByName) :
    Eval RowsByName := do
  context.pass
  modify fun w => { w with delta := deltaOf w rows }
  let rows ← deriveRound context (predicates.map Predicate.name) predicates
  absorb context rows
  return rows

/-- Go on from round to round until one gives nothing new. `rounds` counts the rounds so far and
`fuel` those still allowed; `rows` are those of the last round. -/
def iterate [PatternEngine] (context : Context) (stratum : Stratum) (predicates : List Predicate) :
    (fuel rounds : Nat) → RowsByName → Eval Nat
  | fuel, rounds, rows =>
    if !stratum.recursive || rows.isEmpty then return rounds
    else
      match fuel with
      | 0 =>
        throw (.resourceExhausted
          (.rounds stratum.id stratum.predicates context.settings.maxRounds))
      | fuel + 1 => do
        let rows ← nextRound context predicates rows
        iterate context stratum predicates fuel (rounds + 1) rows

/-- Empty relations for the members of a stratum. -/
def emptyMembers (predicates : List Predicate) : Relations :=
  Std.TreeMap.ofList
    (predicates.map fun predicate =>
      (predicate.name, Relation.empty predicate.name predicate.schema)) compare

/-- The finished relations of a stratum. -/
structure StratumResult where
  relations : List Relation
  rounds : Nat
  derived : Nat

/-- The relations of the members, in the order of their definitions, each once. -/
def finishedMembers (workspace : Workspace) (predicates : List Predicate) : List Relation :=
  (predicates.map Predicate.name).eraseDups.filterMap fun name => workspace.growing[name]?

/-- Evaluate a stratum inside a workspace whose members are empty. -/
def growStratum [PatternEngine] (context : Context) (stratum : Stratum) (predicates : List Predicate) :
    Eval StratumResult := do
  let rows ← openRounds context predicates
  let rounds ← iterate context stratum predicates (context.settings.maxRounds - 1) 1 rows
  let relations := finishedMembers (← get) predicates
  return ⟨relations, rounds, relations.foldr (fun relation total => relation.size + total) 0⟩

/-- Evaluate the predicates of a stratum to their least fixpoint. The members are local to the
evaluation: whether it succeeds or not, the workspace it leaves has none. -/
def evaluateStratum [PatternEngine] (context : Context) (stratum : Stratum) (predicates : List Predicate) :
    Eval StratumResult := fun workspace =>
  let (result, workspace) := growStratum context stratum predicates
    { workspace with growing := emptyMembers predicates, delta := ∅ }
  (result, { workspace with growing := ∅, delta := ∅ })

end Evaluation

end Stratalog
