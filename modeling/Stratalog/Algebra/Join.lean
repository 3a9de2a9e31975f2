import Stratalog.Relation.Basic

/-!
# Joins

A join pairs rows of a left table with rows of a stored relation on equal keys. Three ways of
enumerating the pairs are used, chosen by size and by the indices at hand: probing an index of
the relation, bucketing the left rows and streaming the relation, or the full product when there
are no keys. They differ in the order of their output, not in its contents.

Every join has a limit. Once more rows than that have come out no further probe is made, so the
output shows whether the limit was passed. The probes are made one after another; workers that share
them change nothing but how far a truncated join goes past its limit.
-/

namespace Stratalog

/-- Where a component of a left key comes from. -/
inductive KeyPart where
  | column (index : Nat)
  | const (value : Value)
  deriving DecidableEq, Repr, Inhabited

/-- The value of a key component for a row. -/
def KeyPart.read (row : Row) : KeyPart → Value
  | .column index => row.cell index
  | .const value => value

/-- Whether a key component refers to an existing column only. -/
def KeyPart.fits (width : Nat) : KeyPart → Bool
  | .column index => index < width
  | .const _ => true

/-- The key of a left row. -/
def leftKey (keys : List KeyPart) (row : Row) : Row :=
  keys.map (KeyPart.read row)

/-- How the pairs of a join are enumerated. -/
inductive JoinStrategy where
  | indexProbe
  | buildLeft
  | cartesian
  deriving DecidableEq, Repr, Inhabited

/-- The measurements of one join. -/
structure JoinReport where
  strategy : JoinStrategy
  /-- A real product; pairing with a single empty row is none. -/
  cartesian : Bool
  left : Nat
  right : Nat
  output : Nat
  truncated : Bool
  deriving DecidableEq, Repr, Inhabited

/-- What a join leaves behind: its rows, its measurements, and the relation it read with the
indices that were built on the way. -/
structure JoinResult where
  rows : List Row
  report : JoinReport
  right : Relation

/-- A limit no join reaches. -/
def unlimited : Nat :=
  Nat.pow 2 64 - 1

/-- Probe in order until more than `limit` rows have come out; `produced` rows already have. -/
def probeWithin (limit : Nat) (probe : α → List Row) : Nat → List α → List Row
  | _, [] => []
  | produced, item :: rest =>
    if limit < produced then []
    else
      let rows := probe item
      rows ++ probeWithin limit probe (produced + rows.length) rest

/-- The strategy for a join on the listed columns of the right side. -/
def chooseStrategy (leftSize : Nat) (right : Relation) (columns : List Nat) : JoinStrategy :=
  if columns.isEmpty then .cartesian
  else if right.hasIndex columns || leftSize ≤ right.size then .indexProbe
  else .buildLeft

/-- The rows of one probe into an index, in the order of the relation. -/
def probeIndex (index : Index) (rows : Array Row) (keys : List KeyPart)
    (emit : Row → Row → Option Row) (row : Row) : List Row :=
  (index.find (leftKey keys row)).filterMap fun i => emit row (rows.getD i [])

/-- Positions of the left rows by key. -/
def bucketLeft (keys : List KeyPart) (left : List Row) : Index :=
  Index.build (List.range keys.length) (left.map (leftKey keys))

/-- Pair `left` with `right` where the keys agree, handing each pair to `emit`, which may drop
it. -/
def joinRows (left : List Row) (keys : List KeyPart) (right : Relation) (columns : List Nat)
    (limit : Nat) (emit : Row → Row → Option Row) : JoinResult :=
  let strategy := chooseStrategy left.length right columns
  let (rows, held) : List Row × Relation :=
    match strategy with
    | .cartesian => (probeWithin limit (fun l => right.rows.filterMap (emit l)) 0 left, right)
    | .indexProbe =>
      let (index, held) := right.index columns
      (probeWithin limit (probeIndex index right.rows.toArray keys emit) 0 left, held)
    | .buildLeft =>
      let buckets := bucketLeft keys left
      let lefts := left.toArray
      let probe := fun r =>
        (buckets.find (r.pick columns)).filterMap fun i => emit (lefts.getD i []) r
      (probeWithin limit probe 0 right.rows, right)
  { rows
    report := {
      strategy
      cartesian := strategy == .cartesian && left != [[]] && !right.isEmpty
      left := left.length
      right := right.size
      output := rows.length
      truncated := limit < rows.length }
    right := held }

/-- The left rows without a partner in `right`, and `right` with the index used. -/
def antijoinRows (left : List Row) (keys : List KeyPart) (right : Relation)
    (columns : List Nat) : List Row × Relation :=
  if right.isEmpty then (left, right)
  else if columns.isEmpty then ([], right)
  else
    let (index, held) := right.index columns
    (left.filter fun row => !index.hasKey (leftKey keys row), held)

end Stratalog
