import Stratalog.Document.Value
import Stratalog.Json.Reader
import Stratalog.Json.Writer
import Stratalog.Program.Basic

/-!
# Programs as documents

Terms and expressions are written under the name of their alternative; a literal is a record that
also holds the name of its kind. What has a default may be left out when read, and is always there
when written.

A literal is read whole before its kind is looked at, so it has to be sound in every part, also in
those that are ignored otherwise.
-/

namespace Stratalog

/-- Write a term. -/
def Term.toJson : Term → Json
  | .var name => .object [("var", .string name)]
  | .const value => .object [("const", value.toJson)]
  | .wildcard => .string "wildcard"

/-- Read a term. -/
def Term.ofJson? (buffered : Bool) (depth : Nat) (json : Json) : Option Term :=
  match json with
  | .object [("var", name)] => if depth = 0 then none else name.string?.map .var
  | .object [("const", value)] => (Value.ofJson? (depth - 1) value).map .const
  | json => if json.choice? buffered depth = some "wildcard" then some .wildcard else none

/-- The written name of an integer operation. -/
def ArithOp.text : ArithOp → String
  | .add => "add"
  | .sub => "sub"
  | .mul => "mul"
  | .div => "div"
  | .rem => "rem"

/-- Read an integer operation. -/
def ArithOp.ofJson? (buffered : Bool) (depth : Nat) (json : Json) : Option ArithOp :=
  (json.choice? buffered depth).bind fun name =>
    [("add", ArithOp.add), ("sub", .sub), ("mul", .mul), ("div", .div), ("rem", .rem)].lookup name

/-- The written name of a comparison. -/
def CompareOp.text : CompareOp → String
  | .eq => "eq"
  | .ne => "ne"
  | .lt => "lt"
  | .le => "le"
  | .gt => "gt"
  | .ge => "ge"
  | .matches => "matches"

/-- Read a comparison. -/
def CompareOp.ofJson? (buffered : Bool) (depth : Nat) (json : Json) : Option CompareOp :=
  (json.choice? buffered depth).bind fun name =>
    [("eq", CompareOp.eq), ("ne", .ne), ("lt", .lt), ("le", .le), ("gt", .gt), ("ge", .ge),
      ("matches", .matches)].lookup name

/-- Read a fold function. -/
def FoldFunction.ofJson? (buffered : Bool) (depth : Nat) (json : Json) : Option FoldFunction :=
  (json.choice? buffered depth).bind fun name =>
    [("count", FoldFunction.count), ("sum", .sum), ("min", .min), ("max", .max)].lookup name

namespace Expr

mutual

/-- Write an expression. -/
def toJson : Expr → Json
  | .var name => .object [("var", .string name)]
  | .const value => .object [("const", value.toJson)]
  | .concat parts => .object [("concat", .array (toJsons parts))]
  | .arith op left right =>
    .object [("arith", .object [("op", .string op.text), ("left", toJson left),
      ("right", toJson right)])]

/-- Write expressions. -/
def toJsons : List Expr → List Json
  | [] => []
  | part :: rest => toJson part :: toJsons rest

end

/-- Read an expression. -/
def ofJson? (buffered : Bool) : (depth : Nat) → Json → Option Expr
  | depth + 1, .object [(kind, content)] =>
    if kind = "var" then content.string?.map .var
    else if kind = "const" then (Value.ofJson? depth content).map .const
    else
      match depth with
      | 0 => none
      | depth + 1 =>
        if kind = "concat" then
          match content with
          | .array parts => (Json.readAll? (ofJson? buffered depth) parts).map .concat
          | _ => none
        else if kind = "arith" then
          match content.fields? ["op", "left", "right"] with
          | some [some op, some left, some right] => do
            return .arith (← ArithOp.ofJson? buffered depth op)
              (← ofJson? buffered depth left) (← ofJson? buffered depth right)
          | _ => none
        else none
  | _, _ => none

end Expr

/-- Write an atom's fields. -/
def Atom.toFields (atom : Atom) : List (String × Json) :=
  [("predicate", .string atom.predicate), ("args", .array (atom.args.map Term.toJson))]

/-- Read an atom. -/
def Atom.ofJson? (depth : Nat) (json : Json) : Option Atom :=
  match json.fields? ["predicate", "args"] with
  | some [some predicate, some args] => do
    return {
      predicate := ← predicate.string?
      args := ← args.array? depth (Term.ofJson? true) }
  | _ => none

namespace Literal

mutual

/-- Write a literal. -/
def toJson : Literal → Json
  | .atom a => .object (("kind", .string "atom") :: a.toFields)
  | .negated a => .object (("kind", .string "not") :: a.toFields)
  | .compare op left right =>
    .object [("kind", .string "compare"), ("op", .string op.text), ("left", left.toJson),
      ("right", right.toJson)]
  | .assign var expr =>
    .object [("kind", .string "assign"), ("var", .string var), ("expr", expr.toJson)]
  | .aggregate result function target groupBy body =>
    .object [("kind", .string "aggregate"), ("result", .string result),
      ("func", .string function.text), ("target", .orNull (target.map Expr.toJson)),
      ("group_by", .array (groupBy.map Json.string)), ("body", .array (toJsons body))]

/-- Write literals. -/
def toJsons : List Literal → List Json
  | [] => []
  | literal :: rest => toJson literal :: toJsons rest

end

/-- The kinds of literals, in the order in which they are numbered. -/
def kinds : List String :=
  ["atom", "not", "compare", "assign", "aggregate"]

/-- Read the kind of a literal; inside a buffered value it may be given by its number. -/
def kindOf? (buffered : Bool) : Json → Option String
  | .string kind => some kind
  | .number (.natural n) => if buffered then kinds[n.toNat]? else none
  | _ => none

/-- The kind of a literal and its other fields. -/
def split? (buffered : Bool) : Json → Option (String × Json)
  | .object fields =>
    match fields.filter fun field => field.1 == "kind" with
    | [(_, kind)] =>
      (kindOf? buffered kind).map fun kind =>
        (kind, .object (fields.filter fun field => field.1 != "kind"))
    | _ => none
  | .array (kind :: items) => (kindOf? buffered kind).map fun kind => (kind, .array items)
  | _ => none

/-- Read the target of an aggregate, which may be null or missing. -/
def targetOf? (depth : Nat) : Option Json → Option (Option Expr)
  | none => some none
  | some json => json.optional? (Expr.ofJson? true depth)

/-- Read the grouping variables of an aggregate, which may be missing. -/
def groupOf? (depth : Nat) : Option Json → Option (List String)
  | none => some []
  | some json => json.array? depth fun _ item => item.string?

/-- Read a literal. -/
def ofJson? (buffered : Bool) : (depth : Nat) → Json → Option Literal
  | depth + 1, json =>
    if json.isSound (depth + 1) then
      match split? buffered json with
      | some ("atom", content) => (Atom.ofJson? depth content).map .atom
      | some ("not", content) => (Atom.ofJson? depth content).map .negated
      | some ("compare", content) =>
        match content.fields? ["op", "left", "right"] with
        | some [some op, some left, some right] => do
          return .compare (← CompareOp.ofJson? true depth op) (← Expr.ofJson? true depth left)
            (← Expr.ofJson? true depth right)
        | _ => none
      | some ("assign", content) =>
        match content.fields? ["var", "expr"] with
        | some [some var, some expr] => do
          return .assign (← var.string?) (← Expr.ofJson? true depth expr)
        | _ => none
      | some ("aggregate", content) =>
        match content.fields? ["result", "func", "target", "group_by", "body"] with
        | some [some result, some function, target, groupBy, some (.array body)] =>
          match depth with
          | 0 => none
          | inner + 1 => do
            return .aggregate (← result.string?) (← FoldFunction.ofJson? true (inner + 1) function)
              (← targetOf? (inner + 1) target) (← groupOf? (inner + 1) groupBy)
              (← Json.readAll? (ofJson? true inner) body)
        | _ => none
      | _ => none
    else none
  | 0, _ => none

end Literal

/-- Write a rule. -/
def Rule.toJson (rule : Rule) : Json :=
  .object [("head", .array (rule.head.map Term.toJson)),
    ("body", .array (Literal.toJsons rule.body))]

/-- Read a rule. -/
def Rule.ofJson? (depth : Nat) (json : Json) : Option Rule :=
  match json.record? depth ["head", "body"] with
  | some (depth, [some head, some body]) => do
    return {
      head := ← head.array? depth (Term.ofJson? false)
      body := ← body.array? depth (Literal.ofJson? false) }
  | _ => none

/-- Write a derived predicate. -/
def Predicate.toJson (predicate : Predicate) : Json :=
  .object [("name", .string predicate.name),
    ("columns", .array (predicate.columns.map Column.toJson)),
    ("rules", .array (predicate.rules.map Rule.toJson))]

/-- Read a derived predicate. -/
def Predicate.ofJson? (depth : Nat) (json : Json) : Option Predicate :=
  match json.record? depth ["name", "columns", "rules"] with
  | some (depth, [some name, some columns, some rules]) => do
    return {
      name := ← name.string?
      columns := ← columns.array? depth Column.ofJson?
      rules := ← rules.array? depth Rule.ofJson? }
  | _ => none

/-- The written name of a query kind. -/
def QueryKind.text : QueryKind → String
  | .table => "table"
  | .diagnostic => "diagnostic"

/-- Read a query kind. -/
def QueryKind.ofJson? (depth : Nat) (json : Json) : Option QueryKind :=
  (json.choice? false depth).bind fun name =>
    [("table", QueryKind.table), ("diagnostic", .diagnostic)].lookup name

/-- Read a query kind that may be missing. -/
def QueryKind.ofField? (depth : Nat) : Option Json → Option QueryKind
  | none => some .table
  | some json => QueryKind.ofJson? depth json

/-- Write a selection. -/
def Selection.toJson (item : Selection) : Json :=
  .object [("name", .string item.name), ("expr", item.expr.toJson)]

/-- Read a selection. -/
def Selection.ofJson? (depth : Nat) (json : Json) : Option Selection :=
  match json.record? depth ["name", "expr"] with
  | some (depth, [some name, some expr]) => do
    return { name := ← name.string?, expr := ← Expr.ofJson? false depth expr }
  | _ => none

/-- Write a query. -/
def Query.toJson (query : Query) : Json :=
  .object [("name", .string query.name), ("kind", .string query.kind.text),
    ("body", .array (Literal.toJsons query.body)),
    ("select", .array (query.select.map Selection.toJson))]

/-- Read a query. -/
def Query.ofJson? (depth : Nat) (json : Json) : Option Query :=
  match json.record? depth ["name", "kind", "body", "select"] with
  | some (depth, [some name, kind, some body, some select]) => do
    return {
      name := ← name.string?
      kind := ← QueryKind.ofField? depth kind
      body := ← body.array? depth (Literal.ofJson? false)
      select := ← select.array? depth Selection.ofJson? }
  | _ => none

namespace Program

/-- Write a program. -/
def toJson (program : Program) : Json :=
  .object [("predicates", .array (program.predicates.map Predicate.toJson)),
    ("queries", .array (program.queries.map Query.toJson))]

/-- Read a program. -/
def ofJson? (depth : Nat) (json : Json) : Option Program :=
  match json.record? depth ["predicates", "queries"] with
  | some (depth, [predicates, queries]) => do
    return {
      predicates := ← Json.listOf? depth Predicate.ofJson? predicates
      queries := ← Json.listOf? depth Query.ofJson? queries }
  | _ => none

/-- The compact text of a program. -/
def render (program : Program) : String :=
  program.toJson.compact

/-- The program a text is the written form of. -/
def parse? (text : String) : Option Program :=
  (Json.parse? text).bind (ofJson? Json.deepest)

end Program

end Stratalog
