import Stratalog.Program.Expr
import Stratalog.Program.Polarity

/-!
# Faults

Everything that can go wrong while a store is assembled or a query is prepared and evaluated. A
fault records its cause; one function gives its wording. Static faults are found before anything
is evaluated, the others while it runs.
-/

namespace Stratalog

/-- The part of a program a fault points at, innermost part outermost in the term. -/
inductive Site where
  | rule (index : Nat) (predicate : String)
  | query (name : String)
  | conjunction
  | expression
  | ruleHead
  | group (result : String)
  | head (of : Site)
  | headColumn (column : String) (of : Site)
  | selected (column : String) (of : Site)
  | diagnosticColumn (column : String) (of : Site)
  | argument (column predicate : String) (of : Site)
  | negatedArgument (column predicate : String) (of : Site)
  | aggregate (result : String) (of : Site)
  | variable (name : String) (of : Site)
  | operation (op : ArithOp) (of : Site)
  | relationColumn (column relation : String)
  | unionColumn (column : Nat) (left right : String)
  | sumTarget
  deriving DecidableEq, Repr, Inhabited

/-- A name set off by backquotes. -/
def quoted (name : String) : String :=
  "`" ++ name ++ "`"

/-- The wording of a site. -/
def Site.text : Site → String
  | .rule index predicate => "rule " ++ toString index ++ " of " ++ quoted predicate
  | .query name => "query " ++ quoted name
  | .conjunction => "body"
  | .expression => "expression"
  | .ruleHead => "rule head"
  | .group result => "aggregate " ++ quoted result
  | .head of => "head of " ++ of.text
  | .headColumn column of => "head column " ++ quoted column ++ " of " ++ of.text
  | .selected column of => "select " ++ quoted column ++ " of " ++ of.text
  | .diagnosticColumn column of => "diagnostic column " ++ quoted column ++ " of " ++ of.text
  | .argument column predicate of =>
    "argument " ++ quoted column ++ " of " ++ quoted predicate ++ " in " ++ of.text
  | .negatedArgument column predicate of =>
    "argument " ++ quoted column ++ " of " ++ quoted ("not " ++ predicate) ++ " in " ++ of.text
  | .aggregate result of => "aggregate " ++ quoted result ++ " in " ++ of.text
  | .variable name of => quoted name ++ " in " ++ of.text
  | .operation op of => op.title ++ " in " ++ of.text
  | .relationColumn column relation => "column " ++ quoted column ++ " of " ++ quoted relation
  | .unionColumn column left right =>
    "column " ++ toString column ++ " of union " ++ quoted left ++ " / " ++ quoted right
  | .sumTarget => "sum target"

/-- Ways in which a program, or a request made of it, makes no sense. -/
inductive PlanDefect where
  | duplicatePredicate (name : String)
  | duplicateQuery (name : String)
  | shadowsBase (predicate : String)
  | wildcardInHead (site : Site)
  | emptySelect (site : Site)
  | diagnosticShape (site : Site) (found : Nat)
  | missingTarget (function : FoldFunction) (site : Site)
  | patternNotConstant (site : Site)
  | badPattern (site : Site)
  | unusablePattern
  | badPatternText (pattern : String)
  | unorderable (count : Nat)
  | wildcardInRuleHead
  | projectionOutOfRange (column : Nat) (relation : String) (arity : Nat)
  | foldOutOfRange (column : Nat) (relation : String)
  | foldWithoutTarget (function : FoldFunction) (relation : String)
  | notDerived (predicate : String)
  | evaluatedTwice (predicate : String)
  | readTooEarly (predicate : String)
  | noSuchQuery (name : String)
  | notDiagnostic (query : String)
  | diagnosticRow (query : String)
  deriving DecidableEq, Repr, Inhabited

/-- What the account of a malformed pattern begins with. -/
def patternComplaint : String :=
  "regex parse error:"

/-- The wording of a plan defect. -/
def PlanDefect.text : PlanDefect → String
  | .duplicatePredicate name => "predicate " ++ quoted name ++ " defined twice"
  | .duplicateQuery name => "query " ++ quoted name ++ " defined twice"
  | .shadowsBase predicate => "derived predicate " ++ quoted predicate ++ " shadows a base relation"
  | .wildcardInHead site => "wildcard in head of " ++ site.text
  | .emptySelect site => site.text ++ " selects nothing"
  | .diagnosticShape site found =>
    "diagnostic " ++ site.text ++ " must select (entity, message, severity), found " ++
      toString found ++ " column(s)"
  | .missingTarget function site =>
    function.title ++ " in " ++ site.text ++ " needs a target expression"
  | .patternNotConstant site =>
    "pattern of " ++ quoted "matches" ++ " in " ++ site.text ++ " must be a string constant"
  | .badPattern site => "bad pattern in " ++ site.text ++ ": " ++ patternComplaint
  | .unusablePattern => quoted "matches" ++ " needs a string constant pattern"
  | .badPatternText pattern => "bad pattern " ++ quoted pattern ++ ": " ++ patternComplaint
  | .unorderable count =>
    "cannot order " ++ toString count ++ " literal(s): their variables are never bound"
  | .wildcardInRuleHead => "wildcard in rule head"
  | .projectionOutOfRange column relation arity =>
    "projection column " ++ toString column ++ " out of range for " ++ quoted relation ++
      " of arity " ++ toString arity
  | .foldOutOfRange column relation =>
    "aggregate column " ++ toString column ++ " out of range for " ++ quoted relation
  | .foldWithoutTarget function relation =>
    function.title ++ " over " ++ quoted relation ++ " needs a target column"
  | .notDerived predicate => quoted predicate ++ " is not a derived predicate"
  | .evaluatedTwice predicate => "predicate " ++ quoted predicate ++ " evaluated twice"
  | .readTooEarly predicate =>
    "predicate " ++ quoted predicate ++ " read before its stratum was evaluated"
  | .noSuchQuery name => "no query named " ++ quoted name
  | .notDiagnostic query => "query " ++ quoted query ++ " is not a diagnostic query"
  | .diagnosticRow query =>
    "row of diagnostic query " ++ quoted query ++ " is not (entity, string, int)"

/-- The budgets an evaluation can use up. -/
inductive Exhaustion where
  | join (relation : String) (produced limit : Nat)
  | size (name : String) (found limit : Nat)
  | rounds (stratum : Nat) (predicates : List String) (limit : Nat)
  | deadline (milliseconds : Nat)
  deriving DecidableEq, Repr, Inhabited

/-- The wording of an exhausted budget. -/
def Exhaustion.text : Exhaustion → String
  | .join relation produced limit =>
    "join with " ++ quoted relation ++ " passed " ++ toString produced ++
      " tuples, limit is " ++ toString limit
  | .size name found limit =>
    quoted name ++ " grew to " ++ toString found ++ " tuples, limit is " ++ toString limit
  | .rounds stratum predicates limit =>
    "stratum " ++ toString stratum ++ " (" ++ ", ".intercalate predicates ++
      ") did not converge within " ++ toString limit ++ " rounds"
  | .deadline milliseconds => "query exceeded its " ++ toString milliseconds ++ " ms deadline"

/-- Why an operation gave no answer. -/
inductive Fault where
  | unknownPredicate (name : String)
  | unsafeNegation (site : Site) (predicate : String) (vars : List String)
  | unstratifiable (predicate : String) (via : Polarity) (cycle : List String)
  | typeMismatch (site : Site) (expected found : ColumnType)
  | arityMismatch (predicate : String) (expected found : Nat)
  | unboundVariable (site : Site) (name : String)
  | invalidPlan (defect : PlanDefect)
  | resourceExhausted (budget : Exhaustion)
  | cancelled
  | duplicateRelation (name : String)
  deriving DecidableEq, Repr, Inhabited

namespace Fault

/-- The wording of a fault. -/
def message : Fault → String
  | .unknownPredicate name => "unknown predicate " ++ quoted name
  | .unsafeNegation site predicate vars =>
    "unsafe negation in " ++ site.text ++ ": variable(s) " ++ ", ".intercalate vars ++ " of " ++
      quoted ("not " ++ predicate) ++ " are not bound by the conjunction"
  | .unstratifiable predicate via cycle =>
    "unstratifiable " ++ via.text ++ ": " ++ quoted predicate ++ " depends on itself through " ++
      via.text ++ " (" ++ " -> ".intercalate cycle ++ ")"
  | .typeMismatch site expected found =>
    "type mismatch in " ++ site.text ++ ": expected " ++ expected.text ++ ", found " ++ found.text
  | .arityMismatch predicate expected found =>
    "arity mismatch for " ++ quoted predicate ++ ": expected " ++ toString expected ++
      " column(s), found " ++ toString found
  | .unboundVariable site name =>
    "variable " ++ quoted name ++ " is not bound in " ++ site.text
  | .invalidPlan defect => "invalid plan: " ++ defect.text
  | .resourceExhausted budget => "resource budget exhausted: " ++ budget.text
  | .cancelled => "evaluation cancelled"
  | .duplicateRelation name =>
    "malformed fact store: relation " ++ quoted name ++ " defined twice"

/-- The short name reports file a fault under. -/
def kind : Fault → String
  | .unknownPredicate _ => "UnknownPredicate"
  | .unsafeNegation .. => "UnsafeNegation"
  | .unstratifiable .. => "UnstratifiableNegation"
  | .typeMismatch .. => "TypeMismatch"
  | .arityMismatch .. => "ArityMismatch"
  | .unboundVariable .. => "UnboundVariable"
  | .invalidPlan _ => "InvalidPlan"
  | .resourceExhausted _ => "ResourceExhausted"
  | .cancelled => "Cancelled"
  | .duplicateRelation _ => "MalformedStore"

/-- Whether a fault is found before evaluation begins. -/
def isStatic : Fault → Bool
  | .resourceExhausted _ | .cancelled | .duplicateRelation _ => false
  | _ => true

end Fault

end Stratalog
