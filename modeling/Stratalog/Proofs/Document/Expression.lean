import Stratalog.Document.Program
import Stratalog.Proofs.Json.Lossless
import Stratalog.Proofs.Semantics.Expression

/-!
# Reading written values, terms and expressions

A value, a term, an operation or an expression that was written is read back. The readers of what has
alternatives without a value come in two forms, for values read directly and for buffered ones; both
take back what is written.
-/

namespace Stratalog

open Json

/-- A written whole number is read back. -/
theorem Json.integer?_integer (n : Int64) : (Json.integer n).integer? = some n := by
  unfold Json.integer
  split
  next => rfl
  next hneg =>
    have hbound : n.toUInt64.toNat < Nat.pow 2 63 := by
      have hlt : n.toInt < 2 ^ 63 := n.toInt_lt
      rw [Int64.toNat_toUInt64_of_le (Int64.not_lt.1 hneg)]
      change n.toInt.toNat < 2 ^ 63
      omega
    rw [Json.integer?, if_pos hbound, Int64.toInt64_toUInt64]

/-- A written whole number is printable. -/
theorem Json.printable_integer (n : Int64) : (Json.integer n).Printable := by
  unfold Json.integer
  split
  · assumption
  · trivial

/-- A written whole number opens nothing. -/
theorem Json.isSound_integer (n : Int64) (depth : Nat) : (Json.integer n).isSound depth = true := by
  unfold Json.integer
  split <;> rfl

/-- A written value opens one object. -/
theorem Value.isSound_toJson {value : Value} {depth : Nat} :
    value.toJson.isSound depth = true ↔ 0 < depth := by
  cases depth with
  | zero => cases value <;> simp [toJson, Json.isSound]
  | succ below => cases value <;> simp [toJson, Json.isSound, fieldsAreSound, isSound_integer]

/-- Values are read back. -/
theorem Value.lossless : Lossless Value.ofJson? Value.toJson where
  printable value := by
    cases value with
    | int number => exact ⟨Json.printable_integer number, trivial⟩
    | _ => exact ⟨trivial, trivial⟩
  read_write {depth value} hsound := by
    obtain _ | below := depth
    · exact absurd (Value.isSound_toJson.1 hsound) (by decide)
    cases value with
    | int number =>
      change (Json.integer number).integer?.map Value.int = _
      rw [Json.integer?_integer]
      rfl
    | _ => rfl
  isSound {depth json value} hread := by
    cases depth with
    | zero => cases hread
    | succ below => exact Value.isSound_toJson.2 (Nat.succ_pos below)

/-- What is written as a name opens nothing, so it is read back where its name is. -/
theorem lossless_name {α : Type} {read : Nat → Json → Option α} {text : α → String}
    (h : ∀ depth a, read depth (.string (text a)) = some a) :
    Lossless read fun a => .string (text a) where
  printable _ := trivial
  read_write _ := h _ _
  isSound _ := rfl

/-- Integer operations are read back. -/
theorem ArithOp.lossless (buffered : Bool) :
    Lossless (ArithOp.ofJson? buffered) fun op => .string op.text :=
  lossless_name fun _ op => by cases op <;> rfl

/-- Comparisons are read back. -/
theorem CompareOp.lossless (buffered : Bool) :
    Lossless (CompareOp.ofJson? buffered) fun op => .string op.text :=
  lossless_name fun _ op => by cases op <;> rfl

/-- Fold functions are read back. -/
theorem FoldFunction.lossless (buffered : Bool) :
    Lossless (FoldFunction.ofJson? buffered) fun function => .string function.text :=
  lossless_name fun _ function => by cases function <;> rfl

/-- Query kinds are read back. -/
theorem QueryKind.lossless : Lossless QueryKind.ofJson? fun kind => .string kind.text :=
  lossless_name fun _ kind => by cases kind <;> rfl

/-- Terms are read back. -/
theorem Term.lossless (buffered : Bool) : Lossless (Term.ofJson? buffered) Term.toJson where
  printable term := by
    cases term with
    | const value => exact ⟨Value.lossless.printable value, trivial⟩
    | _ => simp [toJson, Printable, FieldsPrintable]
  read_write {depth term} hsound := by
    cases term with
    | var name =>
      obtain ⟨below, rfl, -⟩ := isSound_object_iff.1 hsound
      rfl
    | const value =>
      obtain ⟨below, rfl, hvalue⟩ := isSound_object_iff.1 hsound
      have hread := Value.lossless.read_write (hvalue _ List.mem_cons_self)
      change (Value.ofJson? below value.toJson).map Term.const = _
      rw [hread]
      rfl
    | wildcard => rfl
  isSound {depth json term} hread := by
    unfold Term.ofJson? at hread
    split at hread
    next name =>
      split at hread
      next => cases hread
      next hdepth =>
        obtain ⟨below, rfl⟩ := Nat.exists_eq_succ_of_ne_zero hdepth
        obtain ⟨text, -, rfl⟩ := Option.map_eq_some_iff.1 hread
        rfl
    next content =>
      obtain ⟨value, hvalue, rfl⟩ := Option.map_eq_some_iff.1 hread
      have hsound := Value.lossless.isSound hvalue
      have hdepth := Value.isSound_toJson.1 hsound
      refine isSound_object_iff.2 ⟨depth - 1, by omega, ?_⟩
      simpa using hsound
    next =>
      split at hread
      next =>
        cases hread
        rfl
      next => cases hread

namespace Expr

/-- Expressions are written one by one. -/
theorem toJsons_eq_map (parts : List Expr) : toJsons parts = parts.map toJson := by
  induction parts with
  | nil => rfl
  | cons part parts ih => rw [toJsons, ih, List.map_cons]

/-- Expressions are printable. -/
theorem printable_toJson (expr : Expr) : expr.toJson.Printable := by
  induction expr using Expr.induction with
  | var name => exact ⟨trivial, trivial⟩
  | const value => exact ⟨Value.lossless.printable value, trivial⟩
  | concat parts ih =>
    rw [toJson, toJsons_eq_map]
    refine ⟨allPrintable_iff.2 fun item hitem => ?_, trivial⟩
    obtain ⟨part, hpart, rfl⟩ := List.mem_map.1 hitem
    exact ih part hpart
  | arith op left right ihleft ihright =>
    rw [toJson]
    exact ⟨⟨trivial, ihleft, ihright, trivial⟩, trivial⟩

/-- Expressions are read back. -/
theorem ofJson?_toJson (buffered : Bool) {expr : Expr} {depth : Nat}
    (hsound : expr.toJson.isSound depth = true) :
    ofJson? buffered depth expr.toJson = some expr := by
  induction expr using Expr.induction generalizing depth with
  | var name =>
    rw [toJson] at hsound ⊢
    obtain ⟨below, rfl, -⟩ := isSound_object_iff.1 hsound
    rw [ofJson?.eq_def]
    rfl
  | const value =>
    rw [toJson] at hsound ⊢
    obtain ⟨below, rfl, hvalue⟩ := isSound_object_iff.1 hsound
    have hread := Value.lossless.read_write (hvalue _ List.mem_cons_self)
    rw [ofJson?.eq_def]
    change (Value.ofJson? below value.toJson).map Expr.const = _
    rw [hread]
    rfl
  | concat parts ih =>
    rw [toJson, toJsons_eq_map] at hsound ⊢
    obtain ⟨below, rfl, hparts⟩ := isSound_object_iff.1 hsound
    obtain ⟨inner, rfl, hitems⟩ := isSound_array_iff.1 (hparts _ List.mem_cons_self)
    have hread := readAll?_map fun part hpart => ih part hpart (hitems _ (List.mem_map_of_mem hpart))
    simp [ofJson?, hread]
  | arith op left right ihleft ihright =>
    rw [toJson] at hsound ⊢
    obtain ⟨below, rfl, hcontent⟩ := isSound_object_iff.1 hsound
    obtain ⟨inner, rfl, hfields⟩ := isSound_object_iff.1 (hcontent _ List.mem_cons_self)
    have hop : ArithOp.ofJson? buffered inner (.string op.text) = some op :=
      (ArithOp.lossless buffered).read_write rfl
    have hleft := ihleft (hfields ("left", left.toJson) (by simp))
    have hright := ihright (hfields ("right", right.toJson) (by simp))
    have hnames : (Json.object [("op", .string op.text), ("left", left.toJson),
        ("right", right.toJson)]).fields? ["op", "left", "right"] =
          some [some (.string op.text), some left.toJson, some right.toJson] := rfl
    simp [ofJson?, hnames, hop, hleft, hright]

/-- An expression is written no deeper than it was read from. -/
theorem isSound_toJson {buffered : Bool} {depth : Nat} {json : Json} {expr : Expr}
    (hread : ofJson? buffered depth json = some expr) : expr.toJson.isSound depth = true := by
  induction depth using Nat.strongRecOn generalizing json expr with
  | ind depth ih =>
    rw [ofJson?.eq_def] at hread
    split at hread
    next below kind content =>
      split at hread
      next =>
        obtain ⟨name, -, rfl⟩ := Option.map_eq_some_iff.1 hread
        rfl
      next =>
      split at hread
      next =>
        obtain ⟨value, hvalue, rfl⟩ := Option.map_eq_some_iff.1 hread
        simpa [toJson, Json.isSound, fieldsAreSound] using Value.lossless.isSound hvalue
      next =>
      obtain _ | inner := below
      · cases hread
      dsimp only at hread
      split at hread
      next =>
        split at hread
        next parts =>
          obtain ⟨exprs, hexprs, rfl⟩ := Option.map_eq_some_iff.1 hread
          rw [toJson, toJsons_eq_map]
          refine isSound_object_iff.2 ⟨inner + 1, rfl, ?_⟩
          simp only [List.mem_singleton, forall_eq]
          refine isSound_array_iff.2 ⟨inner, rfl, fun item hitem => ?_⟩
          obtain ⟨expr, hexpr, rfl⟩ := List.mem_map.1 hitem
          obtain ⟨part, -, hpart⟩ := exists_of_readAll? hexprs expr hexpr
          exact ih inner (by omega) hpart
        next => cases hread
      next =>
      split at hread
      next =>
        split at hread
        next op left right _ =>
          simp only [bind, Option.bind_eq_some_iff, pure, Option.some.injEq] at hread
          obtain ⟨op, -, left, hleft, right, hright, rfl⟩ := hread
          have hleft := ih inner (by omega) hleft
          have hright := ih inner (by omega) hright
          simp [toJson, Json.isSound, fieldsAreSound, hleft, hright]
        next => cases hread
      next => cases hread
    next => cases hread

/-- Expressions are read back. -/
theorem lossless (buffered : Bool) : Lossless (ofJson? buffered) toJson where
  printable := printable_toJson
  read_write := ofJson?_toJson buffered
  isSound := isSound_toJson

end Expr

end Stratalog
