import Stratalog.Value

/-!
# Row indices

An index over a list of columns maps each key, the values in those columns, to the increasing
positions of the rows that carry it. Appending rows extends an index in place of rebuilding it,
and both ways lead to the same lookups.
-/

namespace Stratalog

/-- The rows of a relation, found by the values in some of its columns. -/
structure Index where
  columns : List Nat
  buckets : Std.TreeMap Row (Array Nat) := ∅

namespace Index

/-- The row positions that carry a key, in increasing order. -/
def find (index : Index) (key : Row) : List Nat :=
  (index.buckets.getD key #[]).toList

/-- Whether some row carries a key. -/
def hasKey (index : Index) (key : Row) : Bool :=
  index.buckets.contains key

/-- The number of different keys. -/
def keyCount (index : Index) : Nat :=
  index.buckets.size

/-- Record that the row at `position` exists. -/
def add (index : Index) (row : Row) (position : Nat) : Index :=
  { index with
    buckets := index.buckets.alter (row.pick index.columns) fun bucket =>
      some ((bucket.getD #[]).push position) }

/-- Record consecutive rows, the first of which stands at `position`. -/
def addAll (index : Index) (position : Nat) : List Row → Index
  | [] => index
  | row :: rest => (index.add row position).addAll (position + 1) rest

/-- The index of a list of rows. -/
def build (columns : List Nat) (rows : List Row) : Index :=
  Index.addAll { columns } 0 rows

/-- The positions, from `position` on, of the rows that carry a key. -/
def positions (columns : List Nat) (key : Row) (position : Nat) : List Row → List Nat
  | [] => []
  | row :: rest =>
    if row.pick columns = key then position :: positions columns key (position + 1) rest
    else positions columns key (position + 1) rest

/-- Recording rows keeps the indexed columns. -/
@[simp] theorem columns_addAll (index : Index) (position : Nat) (rows : List Row) :
    (index.addAll position rows).columns = index.columns := by
  induction rows generalizing index position with
  | nil => rfl
  | cons row rest ih => rw [addAll, ih]; rfl

/-- Recording a row appends its position to its own bucket alone. -/
theorem find_add (index : Index) (row : Row) (position : Nat) (key : Row) :
    (index.add row position).find key =
      if row.pick index.columns = key then index.find key ++ [position] else index.find key := by
  simp only [add, find, Std.TreeMap.getD_alter, Std.LawfulEqOrd.compare_eq_iff_eq]
  split
  next h => simp [← h, Std.TreeMap.getD_eq_getD_getElem?]
  next h => rfl

/-- Recording rows appends their positions bucket by bucket. -/
theorem find_addAll (index : Index) (position : Nat) (rows : List Row) (key : Row) :
    (index.addAll position rows).find key =
      index.find key ++ positions index.columns key position rows := by
  induction rows generalizing index position with
  | nil => simp [addAll, positions]
  | cons row rest ih =>
    have hc : (index.add row position).columns = index.columns := rfl
    rw [addAll, ih, find_add, hc, positions]
    split <;> simp

/-- A built index finds exactly the positions of the rows with the key. -/
theorem find_build (columns : List Nat) (rows : List Row) (key : Row) :
    (build columns rows).find key = positions columns key 0 rows := by
  rw [build, find_addAll]
  simp [find]

end Index

end Stratalog
