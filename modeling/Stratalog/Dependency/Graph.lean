import Stratalog.Dependency.Digraph
import Stratalog.Program.Basic

/-!
# The dependency graph

The nodes are the derived predicates of a program in order; an edge says that a rule of its source
reads its target, and how. Base relations are no nodes. Edges stand in reading order, each once.
-/

namespace Stratalog

/-- Which derived predicate reads which. -/
structure DependencyGraph where
  names : List String := []
  edges : List (List (Nat × Polarity)) := []
  deriving Repr, Inhabited

/-- The last position of a name. -/
def lastPosition? (names : List String) (name : String) : Option Nat :=
  (names.zipIdx.reverse.find? fun entry => entry.1 == name).map Prod.snd

namespace DependencyGraph

/-- The dependency graph of a list of derived predicates. -/
def ofPredicates (predicates : List Predicate) : DependencyGraph :=
  let names := predicates.map Predicate.name
  { names
    edges := predicates.map fun predicate =>
      (predicate.reads.filterMap fun (name, polarity) =>
        (lastPosition? names name).map (·, polarity)).eraseDups }

/-- The number of nodes. -/
def size (graph : DependencyGraph) : Nat :=
  graph.names.length

/-- The node of a name. -/
def node? (graph : DependencyGraph) (name : String) : Option Nat :=
  lastPosition? graph.names name

/-- The name of a node. -/
def name (graph : DependencyGraph) (node : Nat) : String :=
  graph.names.getD node ""

/-- The edges that leave a node, in reading order. -/
def edgesOf (graph : DependencyGraph) (node : Nat) : List (Nat × Polarity) :=
  graph.edges.getD node []

/-- The nodes read by a node. -/
def next (graph : DependencyGraph) (node : Nat) : List Nat :=
  (graph.edgesOf node).map Prod.fst

/-- The derived predicates a predicate reads, in reading order. -/
def reads (graph : DependencyGraph) (name : String) : List (String × Polarity) :=
  match graph.node? name with
  | some node => (graph.edgesOf node).map fun (target, polarity) => (graph.name target, polarity)
  | none => []

/-- The sets of mutually recursive predicates, each after those it reads. -/
def components (graph : DependencyGraph) : List (List Nat) :=
  let edges := (graph.edges.map fun out => out.map Prod.fst).toArray
  Digraph.components (fun v => edges.getD v []) graph.size

/-- A shortest path between two members of a component that stays inside it. -/
def pathWithin (graph : DependencyGraph) (members : List Nat) (source target : Nat) : List Nat :=
  let inside := fun v => (graph.next v).filter members.contains
  Digraph.shortestPath inside graph.size source target

end DependencyGraph

end Stratalog
