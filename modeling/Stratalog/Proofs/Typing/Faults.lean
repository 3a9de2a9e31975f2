import Stratalog.Proofs.Outcome
import Stratalog.Proofs.Semantics.Body
import Stratalog.Typing.Program

/-!
# What checks complain of

Some faults say that an evaluation went about its work in the wrong order, or met what no check would
have let through. No check ever complains of such a thing: its faults are about the program.
-/

namespace Stratalog

/-- Whether a fault is about the inner workings of an evaluation. -/
def Fault.IsInternal : Fault → Prop
  | .invalidPlan defect =>
    match defect with
    | .unusablePattern | .badPatternText _ | .unorderable _ | .wildcardInRuleHead
    | .projectionOutOfRange .. | .foldOutOfRange .. | .foldWithoutTarget .. | .notDerived _
    | .evaluatedTwice _ | .readTooEarly _ => True
    | _ => False
  | _ => False

variable {α β : Type}

/-- Whether a computation has no internal fault. -/
def Tidy (outcome : Except Fault α) : Prop :=
  ∀ fault, outcome = .error fault → ¬fault.IsInternal

theorem tidy_ok (answer : α) : Tidy (.ok answer) :=
  fun _ h => by cases h

theorem tidy_error {fault : Fault} (h : ¬fault.IsInternal) : Tidy (.error fault : Except Fault α) :=
  fun _ heq => by cases heq; exact h

/-- A composed computation has no internal fault when its parts have none. -/
theorem Tidy.bind {first : Except Fault α} {next : α → Except Fault β} (h : Tidy first)
    (hnext : ∀ a, Tidy (next a)) : Tidy (first >>= next) := by
  cases first with
  | error fault => exact tidy_error (h fault rfl)
  | ok a => exact hnext a

/-- A mapped computation has no internal fault when the computation has none. -/
theorem Tidy.map {outcome : Except Fault α} (h : Tidy outcome) (f : α → β) : Tidy (outcome.map f) := by
  cases outcome with
  | error fault => exact tidy_error (h fault rfl)
  | ok a => exact tidy_ok (f a)

namespace Typing

variable {catalog : Catalog} {site : Site} {env : TypeEnv}

theorem tidy_get (env : TypeEnv) (site : Site) (var : String) : Tidy (env.get site var) := by
  unfold TypeEnv.get
  split
  · exact tidy_ok _
  · exact tidy_error id

theorem tidy_expect (site : Site) (expected found : ColumnType) : Tidy (expect site expected found) := by
  unfold expect
  split
  · exact tidy_ok _
  · exact tidy_error id

theorem tidy_bindOrExpect (site : Site) (env : TypeEnv) (var : String) (type : ColumnType) :
    Tidy (bindOrExpect site env var type) := by
  unfold bindOrExpect
  split
  · exact (tidy_expect _ _ _).map _
  · exact tidy_ok _

theorem tidy_schemaFor (catalog : Catalog) (atom : Atom) : Tidy (schemaFor catalog atom) := by
  unfold schemaFor
  split
  · exact tidy_error id
  · split
    · exact tidy_ok _
    · exact tidy_error id

/-- The type of an expression is found, or the fault is about the program. -/
theorem tidy_exprType (site : Site) (env : TypeEnv) (expr : Expr) : Tidy (exprType site env expr) := by
  induction expr using Expr.induction with
  | var name =>
    rw [exprType]
    exact tidy_get env site name
  | const value =>
    rw [exprType]
    exact tidy_ok _
  | concat parts ih =>
    rw [exprType]
    refine Tidy.bind ?_ fun _ => tidy_ok _
    induction parts with
    | nil =>
      rw [exprTypes]
      exact tidy_ok _
    | cons part rest ihrest =>
      rw [exprTypes]
      exact (ih part List.mem_cons_self).bind fun _ =>
        ihrest fun p hp => ih p (List.mem_cons_of_mem _ hp)
  | arith op left right ihl ihr =>
    rw [exprType]
    exact ihl.bind fun _ => (tidy_expect _ _ _).bind fun _ => ihr.bind fun _ =>
      (tidy_expect _ _ _).bind fun _ => tidy_ok _

theorem tidy_bindArgs (site : Site) (predicate : String) (env : TypeEnv) (terms : List Term)
    (columns : List Column) : Tidy (bindArgs site predicate env terms columns) := by
  induction terms generalizing env columns with
  | nil => exact tidy_ok _
  | cons term terms ih =>
    cases columns with
    | nil => exact tidy_ok _
    | cons column columns =>
      cases term with
      | var name =>
        simp only [bindArgs]
        split
        · exact ((tidy_expect _ _ _).map _).bind fun _ => ih _ _
        · exact ih _ _
      | const value => exact ((tidy_expect _ _ _).map _).bind fun _ => ih _ _
      | wildcard => exact ih _ _

theorem tidy_bindAtoms (catalog : Catalog) (site : Site) (env : TypeEnv) (body : List Literal) :
    Tidy (bindAtoms catalog site env body) := by
  induction body generalizing env with
  | nil => exact tidy_ok _
  | cons literal rest ih =>
    cases literal with
    | atom atom =>
      have hatom : Tidy (bindAtom catalog site env atom) :=
        (tidy_schemaFor _ _).bind fun _ => tidy_bindArgs _ _ _ _ _
      exact hatom.bind fun _ => ih _
    | _ => exact ih _

theorem tidy_bindPending (site : Site) (fuel : Nat) (env : TypeEnv) (pending : List Literal) :
    Tidy (bindPending site fuel env pending) := by
  induction fuel generalizing env pending with
  | zero => exact tidy_ok _
  | succ fuel ih =>
    rw [bindPending]
    split
    · exact tidy_ok _
    · split
      · exact tidy_ok _
      · exact (tidy_exprType _ _ _).bind fun _ => ih _ _

theorem tidy_checkCompare [PatternEngine] (site : Site) (env : TypeEnv) (op : CompareOp)
    (left right : Expr) :
    Tidy (checkCompare site env op left right) := by
  have hpattern : Tidy (checkPattern site right) := by
    unfold checkPattern
    split
    · split
      · exact tidy_ok _
      · exact tidy_error id
    · exact tidy_error id
    · exact tidy_error id
  refine (tidy_exprType _ _ _).bind fun _ => (tidy_exprType _ _ _).bind fun _ => ?_
  cases op with
  | eq | ne => exact tidy_expect _ _ _
  | lt | le | gt | ge =>
    dsimp only
    split
    · exact tidy_expect _ _ _
    · exact tidy_error id
  | «matches» => exact (tidy_expect _ _ _).bind fun _ => hpattern

theorem tidy_checkTests [PatternEngine] (site : Site) (env : TypeEnv) (tests : List Literal) :
    Tidy (checkTests site env tests) := by
  induction tests with
  | nil => exact tidy_ok _
  | cons literal rest ih =>
    refine Tidy.bind ?_ fun _ => ih
    cases literal with
    | assign var expr =>
      exact (tidy_exprType _ _ _).bind fun _ => (tidy_get _ _ _).bind fun _ => tidy_expect _ _ _
    | compare op left right => exact tidy_checkCompare _ _ _ _ _
    | _ => exact tidy_ok _

theorem tidy_checkArgs (site : Site) (predicate : String) (env : TypeEnv) (terms : List Term)
    (columns : List Column) : Tidy (checkArgs site predicate env terms columns) := by
  induction terms generalizing columns with
  | nil => exact tidy_ok _
  | cons term terms ih =>
    cases columns with
    | nil => exact tidy_ok _
    | cons column columns =>
      cases term with
      | var name =>
        simp only [checkArgs]
        split
        · exact (tidy_expect _ _ _).bind fun _ => ih _
        · exact ih _
      | const value => exact (tidy_expect _ _ _).bind fun _ => ih _
      | wildcard => exact ih _

theorem tidy_checkNegations (catalog : Catalog) (site : Site) (env : TypeEnv)
    (body : List Literal) : Tidy (checkNegations catalog site env body) := by
  induction body with
  | nil => exact tidy_ok _
  | cons literal rest ih =>
    cases literal with
    | negated atom =>
      refine Tidy.bind ((tidy_schemaFor _ _).bind fun _ => ?_) fun _ => ih
      dsimp only
      split
      · exact tidy_checkArgs _ _ _ _ _
      · exact tidy_error id
    | _ => exact ih

/-- A conjunction is checked, or the fault is about the program, if that is so of its aggregates. -/
theorem tidy_conjunction [PatternEngine] (catalog : Catalog) (site : Site) (body : List Literal)
    {bindRest : TypeEnv → Except Fault TypeEnv} (hrest : ∀ env, Tidy (bindRest env)) :
    Tidy (conjunction catalog site body bindRest) := by
  unfold conjunction
  exact (tidy_bindAtoms _ _ _ _).bind fun _ => (hrest _).bind fun _ =>
    (tidy_bindPending _ _ _ _).bind fun _ => (tidy_checkTests _ _ _).bind fun _ =>
      (tidy_checkNegations _ _ _ _).bind fun _ => tidy_ok _

theorem tidy_bindGroup (site : Site) (inner env : TypeEnv) (vars : List String) :
    Tidy (bindGroup site inner env vars) := by
  induction vars generalizing env with
  | nil => exact tidy_ok _
  | cons var rest ih =>
    exact (tidy_get _ _ _).bind fun _ => (tidy_bindOrExpect _ _ _ _).bind fun _ => ih _

theorem tidy_resultType (site : Site) (function : FoldFunction) (target : Option ColumnType) :
    Tidy (resultType site function target) := by
  unfold resultType
  split
  · exact tidy_ok _
  · exact tidy_error id
  · exact (tidy_expect _ _ _).map _
  · exact tidy_ok _

theorem tidy_bindAggregates_of_forall [PatternEngine] {body : List Literal}
    (hbody : ∀ literal ∈ body, ∀ env, Tidy (bindAggregate catalog site env literal))
    (env : TypeEnv) : Tidy (bindAggregates catalog site env body) := by
  induction body generalizing env with
  | nil =>
    rw [bindAggregates]
    exact tidy_ok _
  | cons literal rest ih =>
    rw [bindAggregates]
    exact (hbody literal List.mem_cons_self env).bind fun _ =>
      ih (fun other hother => hbody other (List.mem_cons_of_mem _ hother)) _

/-- An aggregate is bound, or the fault is about the program. -/
theorem tidy_bindAggregate [PatternEngine] (catalog : Catalog) (literal : Literal) :
    ∀ site env, Tidy (bindAggregate catalog site env literal) := by
  induction literal using Literal.induction with
  | aggregate result function target groupBy body ih =>
    intro site env
    rw [bindAggregate]
    have htarget : ∀ inner, Tidy (targetType (.aggregate result site) inner target) := by
      intro inner
      cases target with
      | none => exact tidy_ok _
      | some expr => exact (tidy_exprType _ _ _).map _
    exact (tidy_conjunction _ _ _ (tidy_bindAggregates_of_forall fun literal hliteral =>
      ih literal hliteral _)).bind fun _ => (tidy_bindGroup _ _ _ _).bind fun _ =>
        (htarget _).bind fun _ => (tidy_resultType _ _ _).bind fun _ =>
          tidy_bindOrExpect _ _ _ _
  | _ =>
    intro site env
    simp only [bindAggregate]
    exact tidy_ok _

/-- A body is checked, or the fault is about the program. -/
theorem tidy_checkBody [PatternEngine] (catalog : Catalog) (site : Site) (body : List Literal) :
    Tidy (checkBody catalog site body) :=
  tidy_conjunction _ _ _ (tidy_bindAggregates_of_forall fun literal _ =>
    tidy_bindAggregate catalog literal site)

theorem tidy_checkHead (site : Site) (env : TypeEnv) (terms : List Term) (columns : List Column) :
    Tidy (checkHead site env terms columns) := by
  induction terms generalizing columns with
  | nil => exact tidy_ok _
  | cons term terms ih =>
    cases columns with
    | nil => exact tidy_ok _
    | cons column columns =>
      cases term with
      | var name =>
        exact (tidy_get _ _ _).bind fun _ => (tidy_expect _ _ _).bind fun _ => ih _
      | const value => exact (tidy_expect _ _ _).bind fun _ => ih _
      | wildcard => exact Tidy.bind (tidy_error id) fun _ => ih _

theorem tidy_checkRules [PatternEngine] (catalog : Catalog) (predicate : Predicate) (index : Nat)
    (rules : List Rule) : Tidy (checkRules catalog predicate index rules) := by
  induction rules generalizing index with
  | nil => exact tidy_ok _
  | cons rule rest ih =>
    refine Tidy.bind ?_ fun _ => ih _
    unfold checkRule
    dsimp only
    split
    · exact (tidy_checkBody _ _ _).bind fun _ => tidy_checkHead _ _ _ _
    · exact tidy_error id

/-- A derived predicate is checked, or the fault is about the program. -/
theorem tidy_checkPredicate [PatternEngine] (store : FactStore) (catalog : Catalog)
    (predicate : Predicate) :
    Tidy (checkPredicate store catalog predicate) := by
  unfold checkPredicate
  split
  · exact tidy_error id
  · exact tidy_checkRules _ _ _ _

theorem tidy_checkDiagnosticTypes (site : Site) (columns : List Column) (types : List ColumnType) :
    Tidy (checkDiagnosticTypes site columns types) := by
  induction columns generalizing types with
  | nil => exact tidy_ok _
  | cons column columns ih =>
    cases types with
    | nil => exact tidy_ok _
    | cons type types => exact (tidy_expect _ _ _).bind fun _ => ih _

/-- A query is checked, or the fault is about the program. -/
theorem tidy_checkQuery [PatternEngine] (catalog : Catalog) (query : Query) : Tidy
    (checkQuery catalog query) := by
  have hselect : ∀ site env items, Tidy (selectColumns site env items) := by
    intro site env items
    induction items with
    | nil => exact tidy_ok _
    | cons item rest ih => exact (tidy_exprType _ _ _).bind fun _ => ih.bind fun _ => tidy_ok _
  have hshape : ∀ site kind columns, Tidy (checkShape site kind columns) := by
    intro site kind columns
    unfold checkShape
    split
    · exact tidy_ok _
    · split
      · exact tidy_checkDiagnosticTypes _ _ _
      · exact tidy_error id
  unfold checkQuery
  dsimp only
  split
  · exact tidy_error id
  · exact (tidy_checkBody _ _ _).bind fun _ => (hselect _ _ _).bind fun _ =>
      (hshape _ _ _).bind fun _ => tidy_ok _

end Typing

end Stratalog
