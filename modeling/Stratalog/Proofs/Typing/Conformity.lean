import Stratalog.Proofs.Semantics.PerfectModel
import Stratalog.Proofs.Typing.Decision
import Stratalog.Proofs.Typing.Program
import Stratalog.Proofs.Typing.Values
import Stratalog.Result.Basic

/-!
# Rules and queries derive accepted rows

A rule that passes its check derives rows that the schema of its predicate accepts, from rows that are
accepted. So the accepted rows are closed under the rules of a class of predicates that read each other
in positive atoms only, and with them every step of naive iteration and the least fixpoint.

In the same way the answers to a query are accepted by the schema that its check found, and those to a
diagnostic query can be read as findings.
-/

namespace Stratalog

/-- Whether the body of a rule has a typing that gives each term of the head the type of its column. -/
def Rule.WellTyped [PatternEngine] (catalog : Catalog) (schema : Schema) (rule : Rule) : Prop :=
  ∃ Γ, Literal.IsTyping catalog rule.body Γ ∧ .wildcard ∉ rule.head ∧
    List.Forall₂ (Term.HasType Γ) rule.head schema.types

/-- Whether the body of a query has a typing that gives each selection the type of its column. -/
def Query.WellTyped [PatternEngine] (catalog : Catalog) (schema : Schema) (query : Query) (Γ : Types) :
    Prop :=
  Literal.IsTyping catalog query.body Γ ∧
    List.Forall₂ (fun item type => item.expr.HasType Γ type) query.select schema.types

/-- The rows that the schemas of some predicates accept, where any row may stand under other names. -/
def acceptedRows (predicates : List Predicate) : Interpretation := fun name =>
  {row | ∀ predicate ∈ predicates, predicate.name = name → predicate.schema.accepts row = true}

namespace Typing

variable {catalog : Catalog}

/-- A head that passes its check has no wildcard, and terms of the types of the columns. -/
theorem hasType_of_checkHead {site : Site} {env : TypeEnv} {terms : List Term}
    {columns : List Column} (hlength : terms.length = columns.length)
    (h : checkHead site env terms columns = .ok ()) : .wildcard ∉ terms ∧
      List.Forall₂ (Term.HasType env.find?) terms (columns.map Column.type) := by
  induction terms generalizing columns with
  | nil =>
    obtain rfl : columns = [] := List.length_eq_zero_iff.1 hlength.symm
    exact ⟨List.not_mem_nil, .nil⟩
  | cons term terms ih =>
    obtain _ | ⟨column, columns⟩ := columns
    · simp at hlength
    have hrest : terms.length = columns.length := by simpa using hlength
    rw [List.mem_cons, not_or, List.map_cons, List.forall₂_cons]
    cases term with
    | var name =>
      simp only [checkHead] at h
      obtain ⟨type, htype, h⟩ := bind_eq_ok.1 h
      obtain ⟨hexpect, h⟩ := check_bind_eq_ok.1 h
      obtain ⟨hnone, htyped⟩ := ih hrest h
      refine ⟨⟨by rintro ⟨⟩, hnone⟩, ?_, htyped⟩
      rw [Term.HasType, expect_eq_ok_iff.1 hexpect]
      exact TypeEnv.get_eq_ok_iff.1 htype
    | const value =>
      simp only [checkHead] at h
      obtain ⟨hexpect, h⟩ := check_bind_eq_ok.1 h
      obtain ⟨hnone, htyped⟩ := ih hrest h
      exact ⟨⟨by rintro ⟨⟩, hnone⟩, (expect_eq_ok_iff.1 hexpect).symm, htyped⟩
    | wildcard =>
      simp only [checkHead] at h
      cases h

/-- The rules of a predicate that passes its check are well typed. -/
theorem wellTyped_of_checkPredicate [PatternEngine] {store : FactStore} {predicate : Predicate}
    (h : checkPredicate store catalog predicate = .ok ()) :
    ∀ rule ∈ predicate.rules, rule.WellTyped catalog predicate.schema := by
  have hrules : ∀ index rules, checkRules catalog predicate index rules = .ok () →
      ∀ rule ∈ rules, rule.WellTyped catalog predicate.schema := by
    intro index rules
    induction rules generalizing index with
    | nil => simp
    | cons rule rest ih =>
      intro h
      rw [checkRules] at h
      obtain ⟨hrule, h⟩ := check_bind_eq_ok.1 h
      refine List.forall_mem_cons.2 ⟨?_, ih (index + 1) h⟩
      rw [checkRule] at hrule
      split at hrule
      next hlength =>
        obtain ⟨env, hbody, hhead⟩ := bind_eq_ok.1 hrule
        exact ⟨env.find?, isTyping_find? hbody, hasType_of_checkHead hlength hhead⟩
      next => cases hrule
  rw [checkPredicate] at h
  split at h
  next => cases h
  next => exact hrules 0 _ h

/-- The columns selected are those of the selections, with their types. -/
theorem hasType_of_selectColumns {site : Site} {env : TypeEnv} {select : List Selection}
    {columns : List Column} (h : selectColumns site env select = .ok columns) :
    List.Forall₂ (fun item type => item.expr.HasType env.find? type) select
      (columns.map Column.type) := by
  induction select generalizing columns with
  | nil =>
    cases h
    exact .nil
  | cons item rest ih =>
    rw [selectColumns] at h
    obtain ⟨type, htype, h⟩ := bind_eq_ok.1 h
    obtain ⟨others, hothers, h⟩ := bind_eq_ok.1 h
    cases h
    exact .cons (exprType_eq_ok_iff.1 htype) (ih hothers)

/-- Columns that pass the check of a diagnostic have its types. -/
theorem map_type_of_checkDiagnosticTypes {site : Site} {columns : List Column}
    {types : List ColumnType} (hlength : columns.length = types.length)
    (h : checkDiagnosticTypes site columns types = .ok ()) : columns.map Column.type = types := by
  induction columns generalizing types with
  | nil => exact (List.length_eq_zero_iff.1 hlength.symm).symm
  | cons column columns ih =>
    obtain _ | ⟨type, types⟩ := types
    · simp at hlength
    rw [checkDiagnosticTypes] at h
    obtain ⟨hexpect, h⟩ := check_bind_eq_ok.1 h
    rw [List.map_cons, ih (by simpa using hlength) h, expect_eq_ok_iff.1 hexpect]

/-- A query that passes its check is well typed, and has the columns of a diagnostic if it is one. -/
theorem wellTyped_of_checkQuery [PatternEngine] {query : Query} {schema : Schema}
    (h : checkQuery catalog query = .ok schema) : (∃ Γ, query.WellTyped catalog schema Γ) ∧
      (query.kind = .diagnostic → schema.types = diagnosticTypes) := by
  rw [checkQuery] at h
  split at h
  next => cases h
  next =>
    obtain ⟨env, hbody, h⟩ := bind_eq_ok.1 h
    obtain ⟨columns, hcolumns, h⟩ := bind_eq_ok.1 h
    obtain ⟨hshape, h⟩ := check_bind_eq_ok.1 h
    cases h
    refine ⟨⟨env.find?, isTyping_find? hbody, hasType_of_selectColumns hcolumns⟩, fun hkind => ?_⟩
    rw [hkind, checkShape] at hshape
    split at hshape
    next hlength => exact map_type_of_checkDiagnosticTypes hlength hshape
    next => cases hshape

end Typing

variable {catalog : Catalog} {render : Value → String} {I fixed : Interpretation}
  {σ : Assignment} {predicates : List Predicate} {schema : Schema}

/-- Terms without wildcards have values of their types. -/
theorem map_type_value {Γ : Types} {terms : List Term} {types : List ColumnType}
    (h : List.Forall₂ (Term.HasType Γ) terms types) (hwild : .wildcard ∉ terms)
    (hfits : ∀ name, σ.Fits Γ name) : (terms.map (Term.value σ)).map Value.type = types := by
  induction h with
  | nil => rfl
  | @cons term type terms types hterm _ ih =>
    rw [List.mem_cons, not_or] at hwild
    rw [List.map_cons, List.map_cons, ih hwild.2, List.cons.injEq, and_iff_left rfl]
    cases term with
    | var name => exact hfits name type hterm
    | const value => exact hterm
    | wildcard => exact absurd rfl hwild.1

/-- The row that a well-typed rule derives from accepted rows is accepted. -/
theorem Rule.WellTyped.accepts_headRow [PatternEngine] {rule : Rule} (h : rule.WellTyped catalog schema)
    (hreads : ∀ literal ∈ rule.body, ∀ read ∈ literal.reads, I.ConformsAt catalog read.1)
    (hholds : ∀ literal ∈ rule.body, literal.Holds render I σ) :
    schema.accepts (rule.headRow σ) = true := by
  obtain ⟨Γ, htyping, hwild, hhead⟩ := h
  have hfits : ∀ name, σ.Fits Γ name := htyping.fits_of_holds fun literal hliteral =>
    ⟨I, hreads literal hliteral, hholds literal hliteral⟩
  rw [Schema.accepts, beq_iff_eq]
  exact map_type_value hhead hwild hfits

/-- Accepted rows are closed under the rules of well-typed predicates that read each other in positive
atoms only and nothing else but accepted rows. -/
theorem consequences_acceptedRows_le [PatternEngine]
    (hschema : ∀ predicate ∈ predicates, catalog predicate.name = some predicate.schema)
    (hrules : ∀ predicate ∈ predicates, ∀ rule ∈ predicate.rules,
      rule.WellTyped catalog predicate.schema)
    (hpositive : PositiveWithin predicates)
    (hfixed : ∀ predicate ∈ predicates, ∀ read ∈ predicate.reads,
      read.1 ∉ predicates.map Predicate.name → fixed.ConformsAt catalog read.1) :
    consequences render predicates fixed (acceptedRows predicates) ≤ acceptedRows predicates := by
  rintro _ _ ⟨predicate, hpredicate, rfl, rule, hrule, σ, hbody, rfl⟩ other hother hname
  have hsame : other.schema = predicate.schema := by
    have hknown := hschema other hother
    rw [hname, hschema predicate hpredicate] at hknown
    exact (Option.some.inj hknown).symm
  rw [hsame]
  have hread : ∀ literal ∈ rule.body, ∀ read ∈ literal.reads, read ∈ predicate.reads :=
    fun literal hliteral read => Predicate.mem_reads hrule hliteral
  have hholds : ∀ literal ∈ rule.body, literal.Holds render (Interpretation.overlay
      (predicates.map Predicate.name) fixed (acceptedRows predicates)) σ := fun literal hliteral =>
    (Literal.holds_overlay_iff fun read hin hmember =>
      hpositive predicate hpredicate read (hread literal hliteral read hin) hmember).2
        (hbody literal hliteral)
  refine (hrules predicate hpredicate rule hrule).accepts_headRow (fun literal hliteral read hin => ?_)
    hholds
  unfold Interpretation.ConformsAt Interpretation.overlay
  split
  next hmember =>
    intro schema hknown row hrow
    obtain ⟨owner, howner, howns⟩ := List.mem_map.1 hmember
    rw [← howns, hschema owner howner] at hknown
    cases hknown
    exact hrow owner howner howns
  next hmember =>
    exact hfixed predicate hpredicate read (hread literal hliteral read hin) hmember

/-- Selections have values of their types. -/
theorem map_type_of_selected {Γ : Types} {select : List Selection} {types : List ColumnType}
    {row : Row} (h : List.Forall₂ (fun item type => item.expr.HasType Γ type) select types)
    (hrow : List.Forall₂ (fun item value => item.expr.value render σ = some value) select row)
    (hfits : ∀ name, σ.Fits Γ name) : row.map Value.type = types := by
  induction h generalizing row with
  | nil =>
    cases hrow
    rfl
  | @cons item type select types hitem _ ih =>
    obtain ⟨value, values, hvalue, hvalues, rfl⟩ := List.forall₂_cons_left_iff.1 hrow
    rw [List.map_cons, ih hvalues, hitem.type_value (fun name _ => hfits name) hvalue]

/-- The answers to a well-typed query over accepted rows are accepted by its schema. -/
theorem Query.WellTyped.accepts [PatternEngine] {query : Query} {Γ : Types}
    (h : query.WellTyped catalog schema Γ)
    (hreads : ∀ name ∈ query.reads, I.ConformsAt catalog name) {row : Row}
    (hanswer : query.Answers render I row) : schema.accepts row = true := by
  obtain ⟨htyping, hselect⟩ := h
  obtain ⟨σ, hbody, hrow⟩ := hanswer
  have hfits : ∀ name, σ.Fits Γ name := htyping.fits_of_holds fun literal hliteral =>
    ⟨I, fun read hread => hreads read.1 (mem_reads hliteral hread), hbody literal hliteral⟩
  rw [Schema.accepts, beq_iff_eq]
  exact map_type_of_selected hselect hrow hfits

/-- Rows of the types of a diagnostic can be read as findings. -/
theorem ResultSet.exists_diagnosticsOfRows (query : String) {rows : List Row}
    (hrows : ∀ row ∈ rows, row.map Value.type = Typing.diagnosticTypes) :
    ∃ findings, diagnosticsOfRows query rows = .ok findings ∧ findings.length = rows.length := by
  induction rows with
  | nil => exact ⟨[], rfl, rfl⟩
  | cons row rest ih =>
    obtain ⟨hrow, hrest⟩ := List.forall_mem_cons.1 hrows
    obtain ⟨findings, hfindings, hlength⟩ := ih hrest
    obtain ⟨finding, hfinding⟩ : ∃ finding, diagnosticOfRow query row = .ok finding := by
      rcases row with _ | ⟨entity, _ | ⟨message, _ | ⟨severity, _ | ⟨other, rest⟩⟩⟩⟩ <;>
        simp only [Typing.diagnosticTypes, List.map_cons, List.map_nil, List.cons.injEq,
          reduceCtorEq, and_false] at hrow
      cases entity <;> simp only [Value.type, reduceCtorEq, false_and] at hrow
      cases message <;> simp only [reduceCtorEq, false_and, and_false] at hrow
      cases severity <;> simp only [reduceCtorEq, false_and, and_false] at hrow
      exact ⟨_, rfl⟩
    refine ⟨finding :: findings, ?_, by simp [hlength]⟩
    rw [diagnosticsOfRows, hfinding, hfindings]
    rfl

end Stratalog
