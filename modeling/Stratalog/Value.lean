import Std.Data.TreeMap.Lemmas
import Std.Data.TreeSet.Lemmas

/-!
# Values and rows

A column holds one of four kinds of value. Values are totally ordered, first by kind and then by
content, and rows are ordered lexicographically, so every set of rows has one sorted listing.

The order is lawful: equal means identical. This is what lets an index or a sorted listing speak
about membership.
-/

namespace Stratalog

/-- The kinds of value a column may carry. -/
inductive ColumnType where
  | entity
  | string
  | int
  | bool
  deriving DecidableEq, Repr, Inhabited

/-- The written name of a column type. -/
def ColumnType.text : ColumnType → String
  | .entity => "entity"
  | .string => "string"
  | .int => "int"
  | .bool => "bool"

/-- The place of a column type in the order of kinds. -/
def ColumnType.rank : ColumnType → Nat
  | .entity => 0
  | .string => 1
  | .int => 2
  | .bool => 3

/-- A single column value. Entities are opaque identifiers. -/
inductive Value where
  | entity (id : UInt64)
  | string (text : String)
  | int (number : Int64)
  | bool (flag : Bool)
  deriving DecidableEq, Repr, Inhabited

namespace Value

/-- The kind of a value. -/
def type : Value → ColumnType
  | .entity _ => .entity
  | .string _ => .string
  | .int _ => .int
  | .bool _ => .bool

/-- The integer held, if the value is one. -/
def int? : Value → Option Int64
  | .int number => some number
  | _ => none

/-- The text held, if the value is a string. -/
def string? : Value → Option String
  | .string text => some text
  | _ => none

/-- The identifier held, if the value is an entity. -/
def entity? : Value → Option UInt64
  | .entity id => some id
  | _ => none

/-- The written form of an entity identifier. -/
def entityText (id : UInt64) : String :=
  "#" ++ toString id.toNat

/-- The written form of a value; strings stand as they are. -/
def text : Value → String
  | .entity id => entityText id
  | .string text => text
  | .int number => toString number.toInt
  | .bool true => "true"
  | .bool false => "false"

/-- Compare by kind, then by content; strings compare by code point. -/
protected def compare : Value → Value → Ordering
  | .entity a, .entity b => Ord.compare a b
  | .string a, .string b => Ord.compare a b
  | .int a, .int b => Ord.compare a b
  | .bool a, .bool b => Ord.compare a b
  | a, b => Ord.compare a.type.rank b.type.rank

instance : Ord Value := ⟨Value.compare⟩

/-- Values compare as equal exactly when they are the same. -/
theorem compare_eq_iff (a b : Value) : Ord.compare a b = .eq ↔ a = b := by
  change Value.compare a b = .eq ↔ a = b
  cases a <;> cases b <;>
    simp [Value.compare, type, ColumnType.rank]

instance : Std.LawfulEqOrd Value where
  compare_self := (compare_eq_iff _ _).2 rfl
  eq_of_compare h := (compare_eq_iff _ _).1 h

/-- Swapping the sides of a comparison swaps its outcome. -/
theorem compare_swap (a b : Value) : Ord.compare a b = (Ord.compare b a).swap := by
  change Value.compare a b = (Value.compare b a).swap
  cases a <;> cases b <;> exact Std.OrientedOrd.eq_swap

/-- The comparison of values is transitive. -/
theorem compare_isLE_trans {a b c : Value} (hab : (Ord.compare a b).isLE)
    (hbc : (Ord.compare b c).isLE) : (Ord.compare a c).isLE := by
  change (Value.compare a c).isLE
  change (Value.compare a b).isLE at hab
  change (Value.compare b c).isLE at hbc
  cases a <;> cases b <;> cases c <;>
    first
      | exact Std.TransOrd.isLE_trans hab hbc
      | rfl
      | exact (Bool.false_ne_true hab).elim
      | exact (Bool.false_ne_true hbc).elim

instance : Std.TransOrd Value where
  eq_swap := compare_swap _ _
  isLE_trans := compare_isLE_trans

end Value

/-- An ordered list of column values. -/
abbrev Row := List Value

namespace Row

/-- The value in column `column`. -/
def cell (row : Row) (column : Nat) : Value :=
  row.getD column default

/-- The values in the listed columns, in the order listed. -/
def pick (row : Row) (columns : List Nat) : Row :=
  columns.map row.cell

/-- The rows in increasing order, repeats kept. -/
def sort (rows : List Row) : List Row :=
  rows.mergeSort fun a b => (compare a b).isLE

/-- The rows in increasing order, each once. -/
def sortDistinct (rows : List Row) : List Row :=
  (sort rows).eraseReps

/-- Keep the rows that are neither in `seen` nor a repeat of an earlier one. -/
def distinctFrom (seen : Std.TreeSet Row) : List Row → List Row
  | [] => []
  | row :: rest =>
    if seen.contains row then distinctFrom seen rest
    else row :: distinctFrom (seen.insert row) rest

/-- Keep the first occurrence of every row. -/
def distinct (rows : List Row) : List Row :=
  distinctFrom ∅ rows

/-- A row survives exactly when it occurs and was not seen before. -/
theorem mem_distinctFrom (seen : Std.TreeSet Row) (rows : List Row) (row : Row) :
    row ∈ distinctFrom seen rows ↔ row ∈ rows ∧ row ∉ seen := by
  induction rows generalizing seen with
  | nil => simp [distinctFrom]
  | cons head rest ih =>
    simp only [distinctFrom]
    split
    next h =>
      rw [ih]
      constructor
      · exact fun ⟨hm, hs⟩ => ⟨List.mem_cons_of_mem _ hm, hs⟩
      · rintro ⟨hm, hs⟩
        rcases List.mem_cons.1 hm with rfl | hm
        · exact absurd (Std.TreeSet.contains_iff_mem.1 h) hs
        · exact ⟨hm, hs⟩
    next h =>
      rw [List.mem_cons, ih, List.mem_cons, Std.TreeSet.mem_insert]
      constructor
      · rintro (rfl | ⟨hm, hs⟩)
        · exact ⟨Or.inl rfl, fun hs => h (Std.TreeSet.contains_iff_mem.2 hs)⟩
        · exact ⟨Or.inr hm, fun hm => hs (Or.inr hm)⟩
      · rintro ⟨rfl | hm, hs⟩
        · exact Or.inl rfl
        · by_cases he : row = head
          · exact Or.inl he
          · refine Or.inr ⟨hm, ?_⟩
            rintro (hc | hc)
            · exact he (Std.LawfulEqOrd.eq_of_compare hc).symm
            · exact hs hc

/-- The distinct rows are the rows. -/
theorem mem_distinct (rows : List Row) (row : Row) : row ∈ distinct rows ↔ row ∈ rows := by
  simp [distinct, mem_distinctFrom]

/-- No row is listed twice. -/
theorem nodup_distinctFrom (seen : Std.TreeSet Row) (rows : List Row) :
    (distinctFrom seen rows).Nodup := by
  induction rows generalizing seen with
  | nil => simp [distinctFrom]
  | cons head rest ih =>
    simp only [distinctFrom]
    split
    · exact ih seen
    · refine List.nodup_cons.2 ⟨fun h => ?_, ih _⟩
      exact ((mem_distinctFrom _ _ _).1 h).2 (by simp [Std.TreeSet.mem_insert])

/-- The distinct rows are pairwise distinct. -/
theorem nodup_distinct (rows : List Row) : (distinct rows).Nodup :=
  nodup_distinctFrom ∅ rows

end Row

end Stratalog
