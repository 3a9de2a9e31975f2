import Stratalog.Dependency.Graph

/-!
# Stratification

The derived predicates fall into strata, the sets of mutually recursive predicates. A stratum may
be evaluated once every stratum it reads is finished; its level is the length of the longest chain
of strata below it. A stratum with a negated or aggregated read between its own members cannot be
evaluated: each member is recorded with the fault, which names a shortest offending cycle.
-/

namespace Stratalog

/-- A set of mutually recursive predicates. -/
structure Stratum where
  id : Nat
  predicates : List String
  /-- Whether a member reads a member. -/
  recursive : Bool
  /-- The other strata read directly, in increasing order. -/
  dependsOn : List Nat
  /-- The length of the longest chain of strata below. -/
  level : Nat
  deriving DecidableEq, Repr, Inhabited

/-- Whether a stratum has a member of that name. -/
def Stratum.contains (stratum : Stratum) (name : String) : Bool :=
  stratum.predicates.contains name

/-- The strata of a program, each after those it reads, and the predicates that have none. -/
structure Stratification where
  strata : List Stratum := []
  faults : List (String × Fault) := []
  deriving Repr, Inhabited

/-- A read inside a component: where from, where to, and how. -/
structure InnerRead where
  source : Nat
  target : Nat
  polarity : Polarity
  deriving DecidableEq, Repr

namespace DependencyGraph

/-- The reads between members of a component, members in order, then reads in order. -/
def innerReads (graph : DependencyGraph) (members : List Nat) : List InnerRead :=
  members.flatMap fun v =>
    (graph.edgesOf v).filterMap fun (target, polarity) =>
      if members.contains target then some ⟨v, target, polarity⟩ else none

/-- The first read between members that recursion does not allow. -/
def violation? (graph : DependencyGraph) (members : List Nat) : Option InnerRead :=
  (graph.innerReads members).find? fun read => !read.polarity.isMonotone

/-- The names along a shortest cycle that starts with a given read. -/
def cycleOf (graph : DependencyGraph) (members : List Nat) (read : InnerRead) : List String :=
  (read.source :: graph.pathWithin members read.target read.source).map graph.name

/-- The faults of the members of a component, if it cannot be evaluated. -/
def componentFaults (graph : DependencyGraph) (members : List Nat) : List (String × Fault) :=
  match graph.violation? members with
  | none => []
  | some read =>
    let cycle := graph.cycleOf members read
    members.map fun v =>
      (graph.name v, .unstratifiable (graph.name v) read.polarity cycle)

/-- The position of the component that holds a node. -/
def componentOf (components : List (List Nat)) (node : Nat) : Nat :=
  components.findIdx fun members => members.contains node

/-- The components other than its own that a component reads, in increasing order. -/
def dependsOn (graph : DependencyGraph) (components : List (List Nat)) (members : List Nat) :
    List Nat :=
  let targets := (members.flatMap graph.next).filter fun v => !members.contains v
  ((targets.map (componentOf components)).eraseDups).mergeSort

/-- The stratum of a component, given the strata before it. -/
def stratumOf (graph : DependencyGraph) (components : List (List Nat)) (before : List Stratum)
    (members : List Nat) : Stratum :=
  let dependsOn := graph.dependsOn components members
  { id := before.length
    predicates := members.map graph.name
    recursive := !(graph.innerReads members).isEmpty
    dependsOn
    level := (dependsOn.map fun d => (before.getD d default).level + 1).foldl max 0 }

end DependencyGraph

namespace Stratification

/-- The strata of a list of derived predicates. -/
def ofPredicates (predicates : List Predicate) : Stratification :=
  let graph := DependencyGraph.ofPredicates predicates
  let components := graph.components
  { strata := components.foldl
      (fun before members => before ++ [graph.stratumOf components before members]) []
    faults := components.flatMap graph.componentFaults }

/-- The stratum of an identifier. -/
def stratum (strata : Stratification) (id : Nat) : Stratum :=
  strata.strata.getD id default

/-- The stratum of a predicate. -/
def stratumOf? (strata : Stratification) (name : String) : Option Stratum :=
  strata.strata.reverse.find? fun stratum => stratum.contains name

/-- The fault recorded for a predicate on an offending cycle. -/
def faultOf? (strata : Stratification) (name : String) : Option Fault :=
  (strata.faults.reverse.find? fun entry => entry.1 == name).map Prod.snd

/-- Whether every predicate can be evaluated. -/
def isValid (strata : Stratification) : Bool :=
  strata.faults.isEmpty

/-- The greatest level. -/
def maxLevel (strata : Stratification) : Nat :=
  (strata.strata.map Stratum.level).foldl max 0

/-- Whether one stratum comes no later than another by level, then by identifier. -/
def precedes (strata : Stratification) (a b : Nat) : Bool :=
  let la := (strata.stratum a).level
  let lb := (strata.stratum b).level
  la < lb || (la == lb && a ≤ b)

/-- Strata in order of level, then identifier. -/
def inOrder (strata : Stratification) (ids : List Nat) : List Nat :=
  ids.mergeSort strata.precedes

/-- The strata needed to evaluate the named predicates, in order; other names are ignored. -/
def required (strata : Stratification) (roots : List String) : List Nat :=
  let starts := roots.filterMap fun name => (strata.stratumOf? name).map Stratum.id
  strata.inOrder
    (Digraph.reach (fun id => (strata.stratum id).dependsOn) strata.strata.length starts)

end Stratification

end Stratalog
