import Stratalog.Program.Expr
import Stratalog.Program.Polarity

/-!
# Literals

The conjuncts of a rule or query body. An aggregate holds a body of its own, which is closed: only
the grouping variables and the result connect it to the conjunction around it.

An assignment binds its variable once its expression is computable, and so does an equality with a
variable on one side.
-/

namespace Stratalog

/-- A predicate applied to terms. -/
structure Atom where
  predicate : String
  args : List Term
  deriving DecidableEq, Repr, Inhabited

/-- The variables of an atom in argument order, repeats included. -/
def Atom.vars (atom : Atom) : List String :=
  atom.args.filterMap Term.var?

/-- One conjunct of a body. -/
inductive Literal where
  | atom (atom : Atom)
  | negated (atom : Atom)
  | compare (op : CompareOp) (left right : Expr)
  | assign (var : String) (expr : Expr)
  | aggregate (result : String) (function : FoldFunction) (target : Option Expr)
      (groupBy : List String) (body : List Literal)
  deriving Repr, Inhabited

namespace Literal

mutual

/-- The predicates a literal reads, in reading order. Everything inside an aggregate counts as
read by the aggregate. -/
def reads : Literal → List (String × Polarity)
  | .atom a => [(a.predicate, .positive)]
  | .negated a => [(a.predicate, .negative)]
  | .compare .. | .assign .. => []
  | .aggregate _ _ _ _ body => (readsOfAll body).map fun read => (read.1, .aggregate)

/-- The predicates a conjunction reads, in reading order. -/
def readsOfAll : List Literal → List (String × Polarity)
  | [] => []
  | literal :: rest => literal.reads ++ readsOfAll rest

end

/-- What a conjunction reads is what its literals read. -/
theorem readsOfAll_eq_flatMap (body : List Literal) : readsOfAll body = body.flatMap reads := by
  induction body with
  | nil => rfl
  | cons literal rest ih => simp [readsOfAll, ih]

/-- A conjunction reads what any of its literals reads. -/
theorem mem_readsOfAll {body : List Literal} {literal : Literal} {read : String × Polarity}
    (hliteral : literal ∈ body) (hread : read ∈ literal.reads) : read ∈ readsOfAll body := by
  rw [readsOfAll_eq_flatMap]
  exact List.mem_flatMap.2 ⟨literal, hliteral, hread⟩

/-- An aggregate reads, as an aggregate, what any literal inside it reads. -/
theorem mem_reads_aggregate {result : String} {function : FoldFunction} {target : Option Expr}
    {groupBy : List String} {body : List Literal} {literal : Literal} {read : String × Polarity}
    (hliteral : literal ∈ body) (hread : read ∈ literal.reads) :
    (read.1, .aggregate) ∈ (aggregate result function target groupBy body).reads := by
  rw [reads]
  exact List.mem_map.2 ⟨read, mem_readsOfAll hliteral hread, rfl⟩

/-- Whether every variable of an expression is bound. -/
def ready (bound : String → Bool) (expr : Expr) : Bool :=
  expr.vars.all bound

/-- The variable an equality or assignment can bind, given what is bound already, and the
expression to compute it from. -/
def binding? (bound : String → Bool) : Literal → Option (String × Expr)
  | .assign var expr => if !bound var && ready bound expr then some (var, expr) else none
  | .compare .eq left right =>
    match oriented left right with
    | some found => some found
    | none => oriented right left
  | _ => none
where
  /-- The binding of a variable on one side by the expression on the other. -/
  oriented : Expr → Expr → Option (String × Expr)
    | .var var, other => if !bound var && ready bound other then some (var, other) else none
    | _, _ => none

/-- Whether a literal is a comparison or an assignment all of whose variables are bound. -/
def isReadyTest (bound : String → Bool) : Literal → Bool
  | .compare _ left right => ready bound left && ready bound right
  | .assign var expr => bound var && ready bound expr
  | _ => false

/-- Whether a literal is a negation all of whose variables are bound. -/
def isReadyNegation (bound : String → Bool) : Literal → Bool
  | .negated a => a.vars.all bound
  | _ => false

end Literal

end Stratalog
