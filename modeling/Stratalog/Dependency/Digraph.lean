import Std.Data.TreeMap
import Std.Data.TreeSet

/-!
# Directed graphs

A graph on the nodes `0, …, n - 1` is given by its successor lists. Its components, the classes of
nodes that lead to each other, come out of one depth-first walk after Tarjan, each after the
components it leads to. A shortest path is found by a breadth-first search that keeps the node from
which each node was met, and all that some nodes lead to is gathered from a list of work.
-/

namespace Stratalog.Digraph

/-- A depth-first walk. Nodes are numbered as they are entered, and stay on the stack until their
component is complete. -/
structure Walk where
  /-- How many nodes were entered. -/
  counter : Nat := 0
  index : Array (Option Nat)
  /-- The least number that a node is known to lead to on the stack. -/
  lowlink : Array Nat
  onStack : Array Bool
  stack : List Nat := []
  /-- The components that are complete, in order. -/
  out : List (List Nat) := []
  deriving Repr, Inhabited

namespace Walk

/-- A walk of `n` nodes, none of them entered. -/
def start (n : Nat) : Walk where
  index := .replicate n none
  lowlink := .replicate n 0
  onStack := .replicate n false

/-- The number of a node, if it was entered. -/
def index? (walk : Walk) (v : Nat) : Option Nat :=
  walk.index[v]?.getD none

/-- The lowlink of a node. -/
def low (walk : Walk) (v : Nat) : Nat :=
  walk.lowlink[v]?.getD 0

/-- Whether a node is on the stack. -/
def isOpen (walk : Walk) (v : Nat) : Bool :=
  walk.onStack[v]?.getD false

/-- Number a node and put it on the stack. -/
def enter (walk : Walk) (v : Nat) : Walk :=
  { walk with
    counter := walk.counter + 1
    index := walk.index.setIfInBounds v (some walk.counter)
    lowlink := walk.lowlink.setIfInBounds v walk.counter
    onStack := walk.onStack.setIfInBounds v true
    stack := v :: walk.stack }

/-- Note that a node leads to a number on the stack. -/
def lower (walk : Walk) (v number : Nat) : Walk :=
  { walk with lowlink := walk.lowlink.setIfInBounds v (min (walk.low v) number) }

/-- Look at a successor `w` of `v`: walk from it if it is new, and note the least number it leads to
on the stack. -/
def look (descend : Walk → Nat → Walk) (v : Nat) (walk : Walk) (w : Nat) : Walk :=
  match walk.index? w with
  | none =>
    let walk := descend walk w
    walk.lower v (walk.low w)
  | some number => if walk.isOpen w then walk.lower v number else walk

/-- What is popped off a stack until a node is, and what is left. -/
def popTo (v : Nat) : List Nat → List Nat × List Nat
  | [] => ([], [])
  | member :: stack =>
    if member = v then ([member], stack)
    else
      let (members, rest) := popTo v stack
      (member :: members, rest)

/-- Complete the component of a node: all that is on the stack down to the node. -/
def close (walk : Walk) (v : Nat) : Walk :=
  let (members, rest) := popTo v walk.stack
  { walk with
    onStack := members.foldl (fun onStack member => onStack.setIfInBounds member false) walk.onStack
    stack := rest
    out := walk.out ++ [(Std.TreeSet.ofList members).toList] }

/-- Finish a node: its component is complete unless it leads to a lower number on the stack. -/
def finish (walk : Walk) (v : Nat) : Walk :=
  if walk.index? v = some (walk.low v) then walk.close v else walk

end Walk

/-- Walk from a new node: enter it, look at its successors, then finish it. A walk can go no deeper
than there are nodes. -/
def visit (next : Nat → List Nat) : Nat → Walk → Nat → Walk
  | 0, walk, _ => walk
  | fuel + 1, walk, v =>
    ((next v).foldl (Walk.look (visit next fuel) v) (walk.enter v)).finish v

/-- The classes of nodes that lead to each other, each in increasing order and after the classes it
leads to. -/
def components (next : Nat → List Nat) (n : Nat) : List (List Nat) :=
  let walk := (List.range n).foldl
    (fun walk v => if (walk.index? v).isNone then visit next n walk v else walk) (Walk.start n)
  walk.out

/-- A breadth-first search: from which node each was met, which were met, and those that wait. -/
structure Search where
  parent : Std.TreeMap Nat Nat := ∅
  seen : Std.TreeSet Nat := ∅
  queue : List Nat := []

/-- Meet a successor of a node, unless it was met before. -/
def Search.meet (v : Nat) (search : Search) (w : Nat) : Search :=
  if search.seen.contains w then search
  else
    { parent := search.parent.insert w v
      seen := search.seen.insert w
      queue := search.queue ++ [w] }

/-- Take up the nodes that wait, first of them first, until the target is taken up. -/
def Search.run (next : Nat → List Nat) (target : Nat) : Nat → Search → Search
  | 0, search => search
  | fuel + 1, search =>
    match search.queue with
    | [] => search
    | v :: queue =>
      if v = target then search
      else run next target fuel ((next v).foldl (Search.meet v) { search with queue })

/-- Go back from a node that a path starts with, from each node to the one it was met from, until the
source. -/
def traceBack (parent : Std.TreeMap Nat Nat) (source : Nat) : Nat → Nat → List Nat → List Nat
  | 0, _, path => path
  | fuel + 1, v, path =>
    if v = source then path
    else
      match parent[v]? with
      | some u => traceBack parent source fuel u (u :: path)
      | none => path

/-- A shortest path between two nodes of a graph on `n` nodes. -/
def shortestPath (next : Nat → List Nat) (n : Nat) (source target : Nat) : List Nat :=
  let search := Search.run next target n { seen := {source}, queue := [source] }
  traceBack search.parent source n target [target]

/-- Work through a list, noting each node and taking its successors, the last first, before the rest.
A node that was noted before is passed over. -/
def gather (next : Nat → List Nat) : Nat → Std.TreeSet Nat → List Nat → Std.TreeSet Nat
  | 0, noted, _ => noted
  | _ + 1, noted, [] => noted
  | fuel + 1, noted, v :: work =>
    if noted.contains v then gather next fuel noted work
    else gather next fuel (noted.insert v) ((next v).reverse ++ work)

/-- The nodes of a graph on `n` nodes that some root leads to, the roots included. Each root and each
edge gives work once. -/
def reach (next : Nat → List Nat) (n : Nat) (roots : List Nat) : List Nat :=
  let edges := (List.range n).flatMap next
  (gather next (roots.length + edges.length) ∅ roots.reverse).toList

end Stratalog.Digraph
