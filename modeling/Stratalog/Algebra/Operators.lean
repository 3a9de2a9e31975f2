import Stratalog.Algebra.Fold
import Stratalog.Algebra.Join

/-!
# Relational operators

Selection, projection, union, join, antijoin and aggregation of whole relations. Each gives a new
relation of pairwise distinct rows.
-/

namespace Stratalog.Relation

/-- The rows that satisfy a test. -/
def select (relation : Relation) (test : Row → Bool) : Relation :=
  ofDistinct relation.name relation.schema (relation.rows.filter test)

/-- The rows mapped onto the listed columns, each once. -/
def project (relation : Relation) (columns : List Nat) : Except Fault Relation :=
  match columns.find? fun c => relation.arity ≤ c with
  | some bad =>
    .error (.invalidPlan (.projectionOutOfRange bad relation.name relation.arity))
  | none =>
    .ok (ofRows relation.name (relation.schema.pick columns)
      (relation.rows.map fun row => row.pick columns))

/-- The first column in which two lists of columns differ in type, counted from `position`. -/
def differingColumn? (position : Nat) :
    List Column → List Column → Option (Nat × ColumnType × ColumnType)
  | a :: as, b :: bs =>
    if a.type = b.type then differingColumn? (position + 1) as bs
    else some (position, a.type, b.type)
  | _, _ => none

/-- The rows of either relation; the column types have to agree. -/
def union (left right : Relation) : Except Fault Relation :=
  if left.arity = right.arity then
    match differingColumn? 0 left.schema.columns right.schema.columns with
    | some (i, expected, found) =>
      .error (.typeMismatch (.unionColumn i left.name right.name) expected found)
    | none => .ok (ofRows left.name left.schema (left.rows ++ right.rows))
  else
    .error (.arityMismatch right.name left.arity right.arity)

/-- The concatenations of rows that agree on the column pairs `on`. The measurements come along,
and the right relation with the indices built. -/
def join (left right : Relation) (on : List (Nat × Nat)) (limit : Nat) :
    Relation × JoinReport × Relation :=
  let result := joinRows left.rows (on.map fun pair => .column pair.1) right
    (on.map Prod.snd) limit fun l r => some (l ++ r)
  (ofDistinct (left.name ++ "_" ++ right.name) (left.schema.append right.schema) result.rows,
    result.report, result.right)

/-- The left rows without a partner on the column pairs `on`. -/
def antijoin (left right : Relation) (on : List (Nat × Nat)) : Relation × Relation :=
  let (rows, held) := antijoinRows left.rows (on.map fun pair => .column pair.1) right
    (on.map Prod.snd)
  (ofDistinct left.name left.schema rows, held)

/-- The type of a folded column, or why the function does not apply. -/
def foldType (relation : Relation) (function : FoldFunction) (target : Option Nat) :
    Except Fault ColumnType :=
  match function, target with
  | .count, _ => .ok .int
  | _, none => .error (.invalidPlan (.foldWithoutTarget function relation.name))
  | .sum, some t =>
    let type := (relation.schema.type? t).getD .int
    if type = .int then .ok .int else .error (.typeMismatch .sumTarget .int type)
  | _, some t => .ok ((relation.schema.type? t).getD .int)

/-- One row per group: the grouping columns followed by the folded target column. -/
def aggregate (relation : Relation) (groupBy : List Nat) (function : FoldFunction)
    (target : Option Nat) : Except Fault Relation :=
  match (groupBy ++ target.toList).find? fun c => relation.arity ≤ c with
  | some bad => .error (.invalidPlan (.foldOutOfRange bad relation.name))
  | none =>
    (relation.foldType function target).map fun type =>
      let schema := (relation.schema.pick groupBy).append ⟨[⟨function.text, type⟩]⟩
      ofDistinct relation.name schema
        (foldGroups function (!groupBy.isEmpty)
          (relation.rows.map fun row => (row.pick groupBy, target.map row.cell)))

end Stratalog.Relation
