import Stratalog.Program.Expr

/-!
# Folding groups

Items carry a group key and perhaps a value. Folding gives one row per group, the key followed by
the folded value. Without grouping there is one group even when there are no items, so the count
and the sum of nothing are zero, while nothing has no least or greatest value.
-/

namespace Stratalog

/-- The state of folding one group. -/
inductive Accumulator where
  | count (items : Int64)
  | sum (total : Int64)
  | best (value : Option Value)
  deriving DecidableEq, Repr, Inhabited

namespace Accumulator

/-- The state before any item. -/
def start : FoldFunction → Accumulator
  | .count => .count 0
  | .sum => .sum 0
  | .min | .max => .best none

/-- Whether a candidate takes the place of the best value so far. -/
def improves (function : FoldFunction) (candidate best : Value) : Bool :=
  match function with
  | .min => (compare candidate best).isLT
  | _ => (compare candidate best).isGT

/-- Take in one item. Counting counts every item, the others only those with a value. -/
def add (function : FoldFunction) : Accumulator → Option Value → Accumulator
  | .count items, _ => .count (items + 1)
  | .sum total, some (.int number) => .sum (total + number)
  | .sum total, _ => .sum total
  | .best held, none => .best held
  | .best none, some value => .best (some value)
  | .best (some held), some value =>
    if improves function value held then .best (some value) else .best (some held)

/-- The folded value, if the group has one. -/
def finish : Accumulator → Option Value
  | .count items => some (.int items)
  | .sum total => some (.int total)
  | .best value => value

end Accumulator

/-- The groups met so far, in the order of their first item. -/
structure Groups where
  keys : Array Row := #[]
  states : Std.TreeMap Row Accumulator := ∅

namespace Groups

/-- Open a group if it is not open yet. -/
def start (function : FoldFunction) (groups : Groups) (key : Row) : Groups :=
  if groups.states.contains key then groups
  else ⟨groups.keys.push key, groups.states.insert key (.start function)⟩

/-- Take one item into its group. -/
def add (function : FoldFunction) (groups : Groups) (item : Row × Option Value) : Groups :=
  let groups := groups.start function item.1
  { groups with states := groups.states.modify item.1 fun state => state.add function item.2 }

/-- One row per group that has a folded value. -/
def rows (groups : Groups) : List Row :=
  groups.keys.toList.filterMap fun key =>
    (groups.states[key]?.bind Accumulator.finish).map fun value => key ++ [value]

end Groups

/-- One row per group of the items: the key followed by the folded value. -/
def foldGroups (function : FoldFunction) (grouped : Bool) (items : List (Row × Option Value)) :
    List Row :=
  let initial : Groups := if grouped then {} else Groups.start function {} []
  (items.foldl (Groups.add function) initial).rows

end Stratalog
