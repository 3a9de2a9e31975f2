import Stratalog.Input.Program
import Stratalog.Proofs.Document.Expression
import Stratalog.Proofs.Outcome
import Stratalog.Proofs.Semantics.Body

/-!
# Reading written programs

A program that was written is read back, as long as it nests no deeper than a document may. So
different programs have different texts, and what was read from any text is read again from its own.

A literal shares its record with the name of its kind; that name is taken out before the other fields
are looked at, and none of them bears it.
-/

namespace Stratalog

open Json

/-- Columns are read back. -/
theorem Column.lossless : Lossless Column.ofJson? Column.toJson where
  printable _ := ⟨trivial, trivial, trivial⟩
  read_write {depth column} hsound := by
    obtain ⟨below, rfl, -⟩ := isSound_object_iff.1 hsound
    obtain ⟨name, type⟩ := column
    cases type <;> rfl
  isSound {depth json column} hread := by
    unfold Column.ofJson? at hread
    split at hread
    next below name type hrecord =>
      obtain ⟨rfl, -⟩ := record?_eq_some hrecord
      rfl
    next => cases hread

namespace Atom

variable {depth : Nat} {json : Json} {atom : Atom}

/-- The arguments of an atom are written with its fields. -/
theorem args_mem_toFields (atom : Atom) :
    ("args", Json.array (atom.args.map Term.toJson)) ∈ atom.toFields := by
  simp [toFields]

/-- No field of an atom bears the name of the kind of a literal. -/
theorem fst_ne_kind (atom : Atom) : ∀ field ∈ atom.toFields, field.1 ≠ "kind" := by
  simp [toFields]

/-- Atoms are printable. -/
theorem printable_toFields (atom : Atom) : FieldsPrintable atom.toFields :=
  ⟨trivial, (Term.lossless true).array.printable atom.args, trivial⟩

/-- An atom is read back from its fields. -/
theorem ofJson?_toFields
    (hsound : (Json.array (atom.args.map Term.toJson)).isSound depth = true) :
    ofJson? depth (.object atom.toFields) = some atom := by
  have hargs := (Term.lossless true).array.read_write hsound
  have hfields : (Json.object atom.toFields).fields? ["predicate", "args"] =
      some [some (.string atom.predicate), some (.array (atom.args.map Term.toJson))] := rfl
  rw [ofJson?, hfields]
  simp [string?, hargs]

/-- The arguments of an atom are written no deeper than they were read from. -/
theorem isSound_args (hread : ofJson? depth json = some atom) :
    (Json.array (atom.args.map Term.toJson)).isSound depth = true := by
  unfold ofJson? at hread
  split at hread
  next =>
    simp only [bind, Option.bind_eq_some_iff, pure, Option.some.injEq] at hread
    obtain ⟨predicate, -, args, hargs, rfl⟩ := hread
    exact (Term.lossless true).array.isSound hargs
  next => cases hread

end Atom

namespace Literal

/-- Literals are written one by one. -/
theorem toJsons_eq_map (body : List Literal) : toJsons body = body.map toJson := by
  induction body with
  | nil => rfl
  | cons literal body ih => rw [toJsons, ih, List.map_cons]

/-- The name of its kind is taken out of the record of a literal, and the other fields are left. -/
theorem split?_kind (buffered : Bool) (kind : String) (fields : List (String × Json))
    (hfields : ∀ field ∈ fields, field.1 ≠ "kind") :
    split? buffered (.object (("kind", .string kind) :: fields)) = some (kind, .object fields) := by
  have hnone : fields.filter (fun field => field.1 == "kind") = [] := by
    simpa [List.filter_eq_nil_iff] using hfields
  have hall : fields.filter (fun field => field.1 != "kind") = fields := by
    simpa [List.filter_eq_self] using hfields
  simp [split?, hnone, hall, kindOf?]

/-- Literals are printable. -/
theorem printable_toJson (literal : Literal) : literal.toJson.Printable := by
  induction literal using Literal.induction with
  | atom a => exact ⟨trivial, a.printable_toFields⟩
  | negated a => exact ⟨trivial, a.printable_toFields⟩
  | compare op left right =>
    exact ⟨trivial, trivial, left.printable_toJson, right.printable_toJson, trivial⟩
  | assign var expr => exact ⟨trivial, trivial, expr.printable_toJson, trivial⟩
  | aggregate result function target groupBy body ih =>
    rw [toJson, toJsons_eq_map]
    refine ⟨trivial, trivial, trivial, ?_, lossless_string.array.printable groupBy,
      allPrintable_iff.2 fun item hitem => ?_, trivial⟩
    · cases target with
      | none => trivial
      | some expr => exact expr.printable_toJson
    · obtain ⟨literal, hliteral, rfl⟩ := List.mem_map.1 hitem
      exact ih literal hliteral

/-- The target of an aggregate is read back, also where it is missing. -/
theorem targetOf?_orNull {depth : Nat} {target : Option Expr}
    (hsound : (Json.orNull (target.map Expr.toJson)).isSound depth = true) :
    targetOf? depth (some (.orNull (target.map Expr.toJson))) = some target := by
  cases target with
  | none => rfl
  | some expr =>
    have hread := (Expr.lossless true).read_write hsound
    have hoptional : (Json.orNull (Option.map Expr.toJson (some expr))).optional?
        (Expr.ofJson? true depth) = (Expr.ofJson? true depth expr.toJson).map some := by
      cases expr <;> rfl
    rw [targetOf?, hoptional, hread]
    rfl

/-- The target of an aggregate is written no deeper than it was read from. -/
theorem isSound_orNull {depth : Nat} {json : Option Json} {target : Option Expr}
    (hread : targetOf? depth json = some target) :
    (Json.orNull (target.map Expr.toJson)).isSound depth = true := by
  unfold targetOf? at hread
  split at hread
  next =>
    cases hread
    rfl
  next =>
    unfold optional? at hread
    split at hread
    next =>
      cases hread
      rfl
    next =>
      obtain ⟨expr, hexpr, rfl⟩ := Option.map_eq_some_iff.1 hread
      exact (Expr.lossless true).isSound hexpr

/-- The grouping variables of an aggregate are written no deeper than they were read from. -/
theorem isSound_groupBy {depth : Nat} {json : Option Json} {groupBy : List String}
    (hread : groupOf? (depth + 1) json = some groupBy) :
    (Json.array (groupBy.map Json.string)).isSound (depth + 1) = true := by
  unfold groupOf? at hread
  split at hread
  next =>
    cases hread
    rfl
  next => exact lossless_string.array.isSound hread

/-- Literals are read back. -/
theorem ofJson?_toJson {buffered : Bool} {literal : Literal} {depth : Nat}
    (hsound : literal.toJson.isSound depth = true) :
    ofJson? buffered depth literal.toJson = some literal := by
  induction literal using Literal.induction generalizing buffered depth with
  | atom a =>
    rw [toJson] at hsound ⊢
    obtain ⟨below, rfl, hfields⟩ := isSound_object_iff.1 hsound
    have hatom := Atom.ofJson?_toFields (hfields _ (List.mem_cons_of_mem _ a.args_mem_toFields))
    have hsplit := split?_kind buffered "atom" a.toFields a.fst_ne_kind
    rw [ofJson?.eq_def]
    simp [hsound, hsplit, hatom]
  | negated a =>
    rw [toJson] at hsound ⊢
    obtain ⟨below, rfl, hfields⟩ := isSound_object_iff.1 hsound
    have hatom := Atom.ofJson?_toFields (hfields _ (List.mem_cons_of_mem _ a.args_mem_toFields))
    have hsplit := split?_kind buffered "not" a.toFields a.fst_ne_kind
    rw [ofJson?.eq_def]
    simp [hsound, hsplit, hatom]
  | compare op left right =>
    rw [toJson] at hsound ⊢
    obtain ⟨below, rfl, hfields⟩ := isSound_object_iff.1 hsound
    have hop : CompareOp.ofJson? true below (.string op.text) = some op :=
      (CompareOp.lossless true).read_write rfl
    have hleft := (Expr.lossless true).read_write (hfields ("left", left.toJson) (by simp))
    have hright := (Expr.lossless true).read_write (hfields ("right", right.toJson) (by simp))
    have hsplit := split?_kind buffered "compare" [("op", .string op.text),
      ("left", left.toJson), ("right", right.toJson)] (by simp)
    have hcontent : (Json.object [("op", .string op.text), ("left", left.toJson),
        ("right", right.toJson)]).fields? ["op", "left", "right"] =
          some [some (.string op.text), some left.toJson, some right.toJson] := rfl
    rw [ofJson?.eq_def]
    simp [hsound, hsplit, hcontent, hop, hleft, hright]
  | assign var expr =>
    rw [toJson] at hsound ⊢
    obtain ⟨below, rfl, hfields⟩ := isSound_object_iff.1 hsound
    have hexpr := (Expr.lossless true).read_write (hfields ("expr", expr.toJson) (by simp))
    have hsplit := split?_kind buffered "assign"
      [("var", .string var), ("expr", expr.toJson)] (by simp)
    have hcontent : (Json.object [("var", .string var), ("expr", expr.toJson)]).fields?
        ["var", "expr"] = some [some (.string var), some expr.toJson] := rfl
    rw [ofJson?.eq_def]
    simp [hsound, hsplit, hcontent, string?, hexpr]
  | aggregate result function target groupBy body ih =>
    rw [toJson, toJsons_eq_map] at hsound ⊢
    obtain ⟨below, rfl, hfields⟩ := isSound_object_iff.1 hsound
    obtain ⟨inner, rfl, hbody⟩ := isSound_array_iff.1
      (hfields ("body", .array (body.map toJson)) (by simp))
    have hfunction : FoldFunction.ofJson? true (inner + 1) (.string function.text) =
        some function := (FoldFunction.lossless true).read_write rfl
    have htarget := targetOf?_orNull (hfields ("target", .orNull (target.map Expr.toJson)) (by simp))
    have hgroup : groupOf? (inner + 1) (some (.array (groupBy.map Json.string))) = some groupBy :=
      lossless_string.array.read_write
        (hfields ("group_by", .array (groupBy.map Json.string)) (by simp))
    have hread : readAll? (ofJson? true inner) (body.map toJson) = some body :=
      readAll?_map fun literal hliteral =>
        ih literal hliteral (hbody _ (List.mem_map_of_mem hliteral))
    have hsplit := split?_kind buffered "aggregate" [("result", .string result),
      ("func", .string function.text), ("target", .orNull (target.map Expr.toJson)),
      ("group_by", .array (groupBy.map Json.string)), ("body", .array (body.map toJson))] (by simp)
    have hcontent : (Json.object [("result", .string result), ("func", .string function.text),
        ("target", .orNull (target.map Expr.toJson)),
        ("group_by", .array (groupBy.map Json.string)), ("body", .array (body.map toJson))]).fields?
          ["result", "func", "target", "group_by", "body"] =
            some [some (.string result), some (.string function.text),
              some (.orNull (target.map Expr.toJson)), some (.array (groupBy.map Json.string)),
              some (.array (body.map toJson))] := rfl
    rw [ofJson?.eq_def]
    simp [hsound, hsplit, hcontent, string?, hfunction, htarget, hgroup, hread]

/-- A literal is written no deeper than it was read from. -/
theorem isSound_toJson {buffered : Bool} {depth : Nat} {json : Json} {literal : Literal}
    (hread : ofJson? buffered depth json = some literal) :
    literal.toJson.isSound depth = true := by
  induction depth using Nat.strongRecOn generalizing buffered json literal with
  | ind depth ih =>
    rw [ofJson?.eq_def] at hread
    split at hread
    next below =>
      split at hread
      next =>
        split at hread
        -- One case per kind; each puts together what its parts were read from.
        next =>
          obtain ⟨a, ha, rfl⟩ := Option.map_eq_some_iff.1 hread
          simp [toJson, Atom.toFields, Atom.isSound_args ha]
        next =>
          obtain ⟨a, ha, rfl⟩ := Option.map_eq_some_iff.1 hread
          simp [toJson, Atom.toFields, Atom.isSound_args ha]
        next =>
          split at hread
          next =>
            simp only [bind, Option.bind_eq_some_iff, pure, Option.some.injEq] at hread
            obtain ⟨op, -, left, hleft, right, hright, rfl⟩ := hread
            simp [toJson, (Expr.lossless true).isSound hleft, (Expr.lossless true).isSound hright]
          next => cases hread
        next =>
          split at hread
          next =>
            simp only [bind, Option.bind_eq_some_iff, pure, Option.some.injEq] at hread
            obtain ⟨var, -, expr, hexpr, rfl⟩ := hread
            simp [toJson, (Expr.lossless true).isSound hexpr]
          next => cases hread
        next =>
          split at hread
          next =>
            obtain _ | inner := below
            · cases hread
            simp only [bind, Option.bind_eq_some_iff, pure, Option.some.injEq] at hread
            obtain ⟨result, -, function, -, target, htarget, groupBy, hgroup, body, hbody, rfl⟩ :=
              hread
            have hitems : (Json.array (body.map toJson)).isSound (inner + 1) = true := by
              refine isSound_array_iff.2 ⟨inner, rfl, fun item hitem => ?_⟩
              obtain ⟨literal, hliteral, rfl⟩ := List.mem_map.1 hitem
              obtain ⟨part, -, hpart⟩ := exists_of_readAll? hbody literal hliteral
              exact ih inner (by omega) hpart
            simp [toJson, toJsons_eq_map, isSound_orNull htarget, isSound_groupBy hgroup, hitems]
          next => cases hread
        next => cases hread
      next => cases hread
    next => cases hread

/-- Literals are read back. -/
theorem lossless (buffered : Bool) : Lossless (ofJson? buffered) toJson where
  printable := printable_toJson
  read_write := ofJson?_toJson
  isSound := isSound_toJson

end Literal

/-- Rules are read back. -/
theorem Rule.lossless : Lossless Rule.ofJson? Rule.toJson where
  printable rule := by
    have hbody := (Literal.lossless false).array.printable rule.body
    rw [Rule.toJson, Literal.toJsons_eq_map]
    exact ⟨(Term.lossless false).array.printable rule.head, hbody, trivial⟩
  read_write {depth rule} hsound := by
    rw [Rule.toJson, Literal.toJsons_eq_map] at hsound ⊢
    obtain ⟨below, rfl, hfields⟩ := isSound_object_iff.1 hsound
    have hhead := (Term.lossless false).array.read_write
      (hfields ("head", .array (rule.head.map Term.toJson)) (by simp))
    have hbody := (Literal.lossless false).array.read_write
      (hfields ("body", .array (rule.body.map Literal.toJson)) (by simp))
    have hrecord : (Json.object [("head", .array (rule.head.map Term.toJson)),
        ("body", .array (rule.body.map Literal.toJson))]).record? (below + 1) ["head", "body"] =
          some (below, [some (.array (rule.head.map Term.toJson)),
            some (.array (rule.body.map Literal.toJson))]) := rfl
    simp [Rule.ofJson?, hrecord, hhead, hbody]
  isSound {depth json rule} hread := by
    unfold Rule.ofJson? at hread
    split at hread
    next hrecord =>
      obtain ⟨rfl, -⟩ := record?_eq_some hrecord
      simp only [bind, Option.bind_eq_some_iff, pure, Option.some.injEq] at hread
      obtain ⟨head, hhead, body, hbody, rfl⟩ := hread
      simp [Rule.toJson, Literal.toJsons_eq_map, (Term.lossless false).array.isSound hhead,
        (Literal.lossless false).array.isSound hbody]
    next => cases hread

/-- Predicates are read back. -/
theorem Predicate.lossless : Lossless Predicate.ofJson? Predicate.toJson where
  printable predicate :=
    ⟨trivial, Column.lossless.array.printable predicate.columns,
      Rule.lossless.array.printable predicate.rules, trivial⟩
  read_write {depth predicate} hsound := by
    rw [Predicate.toJson] at hsound ⊢
    obtain ⟨below, rfl, hfields⟩ := isSound_object_iff.1 hsound
    have hcolumns := Column.lossless.array.read_write
      (hfields ("columns", .array (predicate.columns.map Column.toJson)) (by simp))
    have hrules := Rule.lossless.array.read_write
      (hfields ("rules", .array (predicate.rules.map Rule.toJson)) (by simp))
    have hrecord : (Json.object [("name", .string predicate.name),
        ("columns", .array (predicate.columns.map Column.toJson)),
        ("rules", .array (predicate.rules.map Rule.toJson))]).record? (below + 1)
          ["name", "columns", "rules"] = some (below, [some (.string predicate.name),
            some (.array (predicate.columns.map Column.toJson)),
            some (.array (predicate.rules.map Rule.toJson))]) := rfl
    simp [Predicate.ofJson?, hrecord, string?, hcolumns, hrules]
  isSound {depth json predicate} hread := by
    unfold Predicate.ofJson? at hread
    split at hread
    next hrecord =>
      obtain ⟨rfl, -⟩ := record?_eq_some hrecord
      simp only [bind, Option.bind_eq_some_iff, pure, Option.some.injEq] at hread
      obtain ⟨name, -, columns, hcolumns, rules, hrules, rfl⟩ := hread
      simp [Predicate.toJson, Column.lossless.array.isSound hcolumns,
        Rule.lossless.array.isSound hrules]
    next => cases hread

/-- Selections are read back. -/
theorem Selection.lossless : Lossless Selection.ofJson? Selection.toJson where
  printable item := ⟨trivial, item.expr.printable_toJson, trivial⟩
  read_write {depth item} hsound := by
    rw [Selection.toJson] at hsound ⊢
    obtain ⟨below, rfl, hfields⟩ := isSound_object_iff.1 hsound
    have hexpr := (Expr.lossless false).read_write (hfields ("expr", item.expr.toJson) (by simp))
    have hrecord : (Json.object [("name", .string item.name),
        ("expr", item.expr.toJson)]).record? (below + 1) ["name", "expr"] =
          some (below, [some (.string item.name), some item.expr.toJson]) := rfl
    simp [Selection.ofJson?, hrecord, string?, hexpr]
  isSound {depth json item} hread := by
    unfold Selection.ofJson? at hread
    split at hread
    next hrecord =>
      obtain ⟨rfl, -⟩ := record?_eq_some hrecord
      simp only [bind, Option.bind_eq_some_iff, pure, Option.some.injEq] at hread
      obtain ⟨name, -, expr, hexpr, rfl⟩ := hread
      simp [Selection.toJson, (Expr.lossless false).isSound hexpr]
    next => cases hread

/-- Queries are read back. -/
theorem Query.lossless : Lossless Query.ofJson? Query.toJson where
  printable query := by
    have hbody := (Literal.lossless false).array.printable query.body
    rw [Query.toJson, Literal.toJsons_eq_map]
    exact ⟨trivial, trivial, hbody, Selection.lossless.array.printable query.select, trivial⟩
  read_write {depth query} hsound := by
    rw [Query.toJson, Literal.toJsons_eq_map] at hsound ⊢
    obtain ⟨below, rfl, hfields⟩ := isSound_object_iff.1 hsound
    have hkind : QueryKind.ofField? below (some (.string query.kind.text)) = some query.kind :=
      QueryKind.lossless.read_write rfl
    have hbody := (Literal.lossless false).array.read_write
      (hfields ("body", .array (query.body.map Literal.toJson)) (by simp))
    have hselect := Selection.lossless.array.read_write
      (hfields ("select", .array (query.select.map Selection.toJson)) (by simp))
    have hrecord : (Json.object [("name", .string query.name), ("kind", .string query.kind.text),
        ("body", .array (query.body.map Literal.toJson)),
        ("select", .array (query.select.map Selection.toJson))]).record? (below + 1)
          ["name", "kind", "body", "select"] = some (below, [some (.string query.name),
            some (.string query.kind.text), some (.array (query.body.map Literal.toJson)),
            some (.array (query.select.map Selection.toJson))]) := rfl
    simp [Query.ofJson?, hrecord, string?, hkind, hbody, hselect]
  isSound {depth json query} hread := by
    unfold Query.ofJson? at hread
    split at hread
    next hrecord =>
      obtain ⟨rfl, -⟩ := record?_eq_some hrecord
      simp only [bind, Option.bind_eq_some_iff, pure, Option.some.injEq] at hread
      obtain ⟨name, -, kind, -, body, hbody, select, hselect, rfl⟩ := hread
      simp [Query.toJson, Literal.toJsons_eq_map, (Literal.lossless false).array.isSound hbody,
        Selection.lossless.array.isSound hselect]
    next => cases hread

/-- A list that may be missing is written no deeper than it was read from. -/
theorem isSound_list {α : Type} {read : Nat → Json → Option α} {write : α → Json}
    (h : Lossless read write) {depth : Nat} {json : Option Json} {as : List α}
    (hread : Json.listOf? (depth + 1) read json = some as) :
    (Json.array (as.map write)).isSound (depth + 1) = true := by
  unfold Json.listOf? at hread
  split at hread
  next =>
    cases hread
    rfl
  next => exact h.array.isSound hread

namespace Program

/-- Programs are read back. -/
theorem faithful : Faithful ofJson? toJson where
  printable program :=
    ⟨Predicate.lossless.array.printable program.predicates,
      Query.lossless.array.printable program.queries, trivial⟩
  read_write {depth program} hsound := by
    rw [toJson] at hsound ⊢
    obtain ⟨below, rfl, hfields⟩ := isSound_object_iff.1 hsound
    have hpredicates : Json.listOf? below Predicate.ofJson?
        (some (.array (program.predicates.map Predicate.toJson))) = some program.predicates :=
      Predicate.lossless.array.read_write
        (hfields ("predicates", .array (program.predicates.map Predicate.toJson)) (by simp))
    have hqueries : Json.listOf? below Query.ofJson?
        (some (.array (program.queries.map Query.toJson))) = some program.queries :=
      Query.lossless.array.read_write
        (hfields ("queries", .array (program.queries.map Query.toJson)) (by simp))
    have hrecord : (Json.object [("predicates", .array (program.predicates.map Predicate.toJson)),
        ("queries", .array (program.queries.map Query.toJson))]).record? (below + 1)
          ["predicates", "queries"] = some (below,
            [some (.array (program.predicates.map Predicate.toJson)),
              some (.array (program.queries.map Query.toJson))]) := rfl
    simp [ofJson?, hrecord, hpredicates, hqueries]

/-- A program is written no deeper than it was read from, if its lists could have been opened: both
may be missing from what is read, and are there when it is written. -/
theorem isSound_toJson {depth : Nat} {json : Json} {program : Program}
    (hread : ofJson? (depth + 2) json = some program) :
    program.toJson.isSound (depth + 2) = true := by
  unfold ofJson? at hread
  split at hread
  next hrecord =>
    obtain ⟨hdepth, -⟩ := record?_eq_some hrecord
    cases hdepth
    simp only [bind, Option.bind_eq_some_iff, pure, Option.some.injEq] at hread
    obtain ⟨predicates, hpredicates, queries, hqueries, rfl⟩ := hread
    simp [toJson, isSound_list Predicate.lossless hpredicates, isSound_list Query.lossless hqueries]
  next => cases hread

/-- A text is taken for a program exactly when it is the written form of one. -/
theorem ofText_eq_ok_iff {text : String} {program : Program} :
    ofText text = .ok program ↔ parse? text = some program := by
  rw [ofText, atStage, mapError_eq_ok]
  cases parse? text <;> simp [orCause]

/-- A program that nests no deeper than a document may is read back from its text; different programs
have different texts; and what was read from any text is read again from its own. -/
theorem ofText_render :
    (∀ program : Program, program.toJson.nesting ≤ 127 → ofText program.render = .ok program) ∧
      Function.Injective render ∧
        ∀ (text : String) (program : Program), ofText text = .ok program →
          ofText program.render = .ok program := by
  have hback {program : Program} (hsound : program.toJson.isSound deepest = true) :
      ofText program.render = .ok program :=
    ofText_eq_ok_iff.2 (faithful.bind_parse?_compact hsound)
  refine ⟨fun program hnesting => ?_, faithful.compact_injective, fun text program h => ?_⟩
  · exact hback ((faithful.printable program).isSound_iff.2 hnesting)
  · obtain ⟨json, -, hread⟩ := Option.bind_eq_some_iff.1 (ofText_eq_ok_iff.1 h)
    exact hback (isSound_toJson hread)

/-- A program with one of each kind of literal, an aggregate inside an aggregate, the extreme numbers
and texts that have to be escaped. -/
def specimen : Program where
  predicates := [{
    name := "late \"calls\"\n\x00"
    columns := [⟨"back\\slash", .int⟩, ⟨"", .entity⟩]
    rules := [{
      head := [.const (.int (-9223372036854775808)), .const (.entity 18446744073709551615)]
      body := [
        .atom ⟨"call", [.var "x", .wildcard, .const (.bool true)]⟩,
        .negated ⟨"tab\t", []⟩,
        .compare .matches (.var "x") (.const (.string "^a/b\r$")),
        .assign "y" (.concat [.var "x", .arith .rem (.var "x") (.const (.int 9223372036854775807))]),
        .aggregate "n" .sum (some (.var "m")) ["x"]
          [.aggregate "m" .count none [] [.atom ⟨"call", [.var "x", .var "z"]⟩]]] }] }]
  queries := [{
    name := "é"
    kind := .diagnostic
    body := []
    select := [⟨"label", .const (.string "\x1f")⟩] }]

/-- The specimen is read back, and read again. -/
theorem ofText_render_specimen : specimen.toJson.nesting ≤ 127 ∧
    ofText specimen.render = .ok specimen := by
  have hnesting : specimen.toJson.nesting ≤ 127 := by decide
  have hfirst := ofText_render.1 specimen hnesting
  exact ⟨hnesting, ofText_render.2.2 _ _ hfirst⟩

end Program

end Stratalog
