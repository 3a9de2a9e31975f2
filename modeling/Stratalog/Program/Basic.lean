import Stratalog.Fault
import Stratalog.Program.Literal
import Stratalog.Schema

/-!
# Programs

A program holds derived predicates, each defined by rules, and the queries to answer. Names are
unique among the predicates and among the queries.
-/

namespace Stratalog

/-- A rule: its head holds for every assignment that satisfies its body. -/
structure Rule where
  head : List Term
  body : List Literal
  deriving Repr, Inhabited

/-- The body positions of the positive atoms that read one of the given predicates. -/
def Rule.recursivePositions (rule : Rule) (members : List String) : List Nat :=
  (rule.body.zipIdx).filterMap fun
    | (.atom atom, i) => if members.contains atom.predicate then some i else none
    | _ => none

/-- A derived predicate. -/
structure Predicate where
  name : String
  columns : List Column
  rules : List Rule
  deriving Repr, Inhabited

namespace Predicate

/-- The schema of a derived predicate. -/
def schema (predicate : Predicate) : Schema :=
  ⟨predicate.columns⟩

/-- What the rules of a predicate read, in reading order with repeats. -/
def reads (predicate : Predicate) : List (String × Polarity) :=
  predicate.rules.flatMap fun rule => Literal.readsOfAll rule.body

/-- A predicate reads what any literal of its rules reads. -/
theorem mem_reads {predicate : Predicate} {rule : Rule} {literal : Literal}
    {read : String × Polarity} (hrule : rule ∈ predicate.rules) (hliteral : literal ∈ rule.body)
    (hread : read ∈ literal.reads) : read ∈ predicate.reads :=
  List.mem_flatMap.2 ⟨rule, hrule, Literal.mem_readsOfAll hliteral hread⟩

end Predicate

/-- The shape asked of the answer to a query. -/
inductive QueryKind where
  | table
  /-- Rows of an entity, a message and a severity. -/
  | diagnostic
  deriving DecidableEq, Repr, Inhabited

/-- A named column of an answer. -/
structure Selection where
  name : String
  expr : Expr
  deriving Repr, Inhabited

/-- A query: one row of selected values per assignment that satisfies the body. -/
structure Query where
  name : String
  kind : QueryKind := .table
  body : List Literal
  select : List Selection
  deriving Repr, Inhabited

/-- The predicates a query reads directly, repeats included. -/
def Query.reads (query : Query) : List String :=
  (Literal.readsOfAll query.body).map Prod.fst

/-- A query reads what any literal of its body reads. -/
theorem Query.mem_reads {query : Query} {literal : Literal} {read : String × Polarity}
    (hliteral : literal ∈ query.body) (hread : read ∈ literal.reads) : read.1 ∈ query.reads :=
  List.mem_map_of_mem (Literal.mem_readsOfAll hliteral hread)

/-- Derived predicates and the queries over them. -/
structure Program where
  predicates : List Predicate := []
  queries : List Query := []
  deriving Repr, Inhabited

/-- The first element of a list that repeats an earlier one. -/
def firstRepeat? [DecidableEq α] : List α → List α → Option α
  | _, [] => none
  | seen, a :: rest => if a ∈ seen then some a else firstRepeat? (a :: seen) rest

namespace Program

/-- The predicate of a name, the first of them. -/
def predicate? (program : Program) (name : String) : Option Predicate :=
  program.predicates.find? fun predicate => predicate.name == name

/-- The query of a name, the first of them. -/
def query? (program : Program) (name : String) : Option Query :=
  program.queries.find? fun query => query.name == name

/-- Refuse a program that defines a predicate or a query twice. -/
def checkNames (program : Program) : Except Fault Unit :=
  match firstRepeat? [] (program.predicates.map Predicate.name) with
  | some name => .error (.invalidPlan (.duplicatePredicate name))
  | none =>
    match firstRepeat? [] (program.queries.map Query.name) with
    | some name => .error (.invalidPlan (.duplicateQuery name))
    | none => .ok ()

end Program

/-- A repeat is found exactly in lists with one. -/
theorem firstRepeat?_eq_none_iff [DecidableEq α] (seen rest : List α) :
    firstRepeat? seen rest = none ↔ rest.Nodup ∧ ∀ a ∈ rest, a ∉ seen := by
  induction rest generalizing seen with
  | nil => simp [firstRepeat?]
  | cons a rest ih =>
    by_cases h : a ∈ seen
    · simp [firstRepeat?, h]
    · rw [firstRepeat?, if_neg h, ih]
      grind

end Stratalog
