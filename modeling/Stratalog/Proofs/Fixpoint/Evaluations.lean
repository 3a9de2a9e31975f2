import Stratalog.Proofs.Fixpoint.Stratum
import Stratalog.Proofs.Plan.Evaluations
import Stratalog.Proofs.Typing.Conformity

/-!
# The rules that a stratum evaluates

The first round of a stratum evaluates the rules that read no member, and each later one every other
rule, once per position that reads a member which grew. Whenever a rule is evaluated the members hold
what naive iteration has found, and the growth is a part of it.

So the members hold accepted rows throughout, if what is read from outside is accepted, and every
expression that the rules evaluate is defined.
-/

namespace Stratalog

namespace Evaluation

open Eval

/-- The rules that the first round evaluates in a workspace, each with the workspace it finds. -/
inductive Starts [PatternEngine] (context : Context) (predicates : List Predicate) (workspace : Workspace) :
    Rule → Workspace → Prop
  | intro {before after : List Predicate} {predicate : Predicate} {rules others : List Rule}
      {rule : Rule} {rows : RowsByName} {fresh : Fresh} {entered reached : Workspace}
      (hpredicates : predicates = before ++ predicate :: after)
      (hbefore : (startRound context (predicates.map Predicate.name) before).run.run workspace =
        (.ok rows, entered))
      (hrules : predicate.rules = rules ++ rule :: others)
      (hreached : (startRules context (predicates.map Predicate.name) {} rules).run.run entered =
        (.ok fresh, reached))
      (hstart : rule.recursivePositions (predicates.map Predicate.name) = []) :
      Starts context predicates workspace rule reached

/-- The rules that a later round evaluates in a workspace, each with the position that reads the
growth and the workspace it finds. -/
inductive Derives [PatternEngine] (context : Context) (predicates : List Predicate)
    (workspace : Workspace) :
    Rule → Nat → Workspace → Prop
  | intro {before after : List Predicate} {predicate : Predicate} {rules others : List Rule}
      {rule : Rule} {positions rest : List Nat} {position : Nat} {rows : RowsByName}
      {fresh found : Fresh} {entered begun reached : Workspace}
      (hpredicates : predicates = before ++ predicate :: after)
      (hbefore : (deriveRound context (predicates.map Predicate.name) before).run.run workspace =
        (.ok rows, entered))
      (hrules : predicate.rules = rules ++ rule :: others)
      (hbegun : (deriveRules context (predicates.map Predicate.name) predicate.name {}
        rules).run.run entered = (.ok fresh, begun))
      (hpositions : rule.recursivePositions (predicates.map Predicate.name) =
        positions ++ position :: rest)
      (hreached : (deriveAt context predicate.name rule fresh positions).run.run begun =
        (.ok found, reached))
      (hidle : isIdle reached rule.body position = false) :
      Derives context predicates workspace rule position reached

/-- The rules that the rounds of a stratum evaluate, from a workspace whose members are empty, each
with the position that reads the growth, if any, and the workspace it finds. Rounds past one that finds
nothing are counted in. -/
inductive Evaluates [PatternEngine] (context : Context) (predicates : List Predicate)
    (workspace : Workspace) :
    Rule → Option Nat → Workspace → Prop
  | first {rule : Rule} {entered reached : Workspace}
      (hpass : context.pass.run.run workspace = (.ok (), entered))
      (hstarts : Starts context predicates entered rule reached) :
      Evaluates context predicates workspace rule none reached
  | later {rule : Rule} {position k : Nat} {rows : RowsByName} {ended entered reached : Workspace}
      (hrounds : (rounds context predicates k).run.run workspace = (.ok rows, ended))
      (hpass : context.pass.run.run ended = (.ok (), entered))
      (hderives : Derives context predicates { entered with delta := deltaOf entered rows } rule
        position reached) : Evaluates context predicates workspace rule (some position) reached

variable {context : Context} {outer workspace reached : Workspace} {predicates : List Predicate}
  {catalog : Catalog} {X Y D : Interpretation} {rule : Rule} {position : Nat} {deltaAt : Option Nat}

/-- The members of a list in front of another have names of their own if all do. -/
theorem Ready.nodup_before [PatternEngine] (h : Ready catalog predicates outer)
    {before after : List Predicate}
    (heq : predicates = before ++ after) : (before.map Predicate.name).Nodup := by
  have hnodup := h.nodup
  rw [heq, List.map_append] at hnodup
  exact (List.nodup_append.1 hnodup).1

/-- Members hold the same rows whenever the first round evaluates a rule. -/
theorem Starts.growing [PatternEngine] (h : Starts context predicates workspace rule reached)
    (hready : Ready catalog predicates outer) (hgrowing : Growing outer predicates X D workspace) :
    Growing outer predicates X D reached ∧ ∃ predicate ∈ predicates, rule ∈ predicate.rules := by
  cases h with
  | @intro before after predicate rules others _ _ _ _ _ hpredicates hbefore hrules hreached =>
    have hmem : predicate ∈ predicates := by simp [hpredicates]
    have hbefores : ∀ member ∈ before, member ∈ predicates := fun member hmember => by
      simp [hpredicates, hmember]
    have hfirsts : ∀ first ∈ rules, first ∈ predicate.rules := fun first hfirst => by
      simp [hrules, hfirst]
    have hsupports := hgrowing.supports hready.admits
    have hentered := ((ensures_startRound hsupports (Workspace.Kept.refl hsupports.coherent) hbefores
      (hready.nodup_before hpredicates)).of_ok hbefore).1
    have hlast := ((ensures_startRules hsupports hentered hmem hfirsts
      (Fresh.collects_empty _)).of_ok hreached).1
    exact ⟨hgrowing.of_kept hlast, predicate, hmem, by simp [hrules]⟩

/-- Members hold the same rows whenever a later round evaluates a rule. -/
theorem Derives.growing [PatternEngine] (h : Derives context predicates workspace rule position reached)
    (hready : Ready catalog predicates outer) (hgrowing : Growing outer predicates X D workspace) :
    Growing outer predicates X D reached ∧
      (∃ predicate ∈ predicates, rule ∈ predicate.rules) ∧
        position ∈ rule.recursivePositions (predicates.map Predicate.name) := by
  cases h with
  | @intro before after predicate rules others _ positions rest _ _ _ _ _ _ _ hpredicates hbefore
      hrules hbegun hpositions hreached =>
    have hmem : predicate ∈ predicates := by simp [hpredicates]
    have hrule : rule ∈ predicate.rules := by simp [hrules]
    have hbefores : ∀ member ∈ before, member ∈ predicates := fun member hmember => by
      simp [hpredicates, hmember]
    have hfirsts : ∀ first ∈ rules, first ∈ predicate.rules := fun first hfirst => by
      simp [hrules, hfirst]
    have hpassed : ∀ i ∈ positions, i ∈ rule.recursivePositions (predicates.map Predicate.name) :=
      fun i hi => by simp [hpositions, hi]
    have hsupports := hgrowing.supports hready.admits
    have hentered := ((ensures_deriveRound hsupports (Workspace.Kept.refl hsupports.coherent) hbefores
      (hready.nodup_before hpredicates)).of_ok hbefore).1
    obtain ⟨hbegun, hfresh⟩ := (ensures_deriveRules hsupports hentered hmem hfirsts
      (Fresh.collects_empty _)).of_ok hbegun
    have hlast := ((ensures_deriveAt hsupports hbegun hmem hrule hfresh hpassed).of_ok hreached).1
    exact ⟨hgrowing.of_kept hlast, ⟨predicate, hmem, hrule⟩, by simp [hpositions]⟩

/-- Passing a checkpoint leaves what members hold alone. -/
theorem Growing.of_pass (h : Growing outer predicates X D workspace)
    (hpass : context.pass.run.run workspace = (.ok (), reached)) :
    Growing outer predicates X D reached := by
  have hensures : context.pass.Ensures workspace (fun _ after => workspace.Kept after)
      fun _ _ => True :=
    ensures_pass h.encloses.coherent (fun _ => id) fun _ _ _ _ => trivial
  exact h.of_kept (hensures.of_ok hpass)

/-- Whenever a rule of a stratum is evaluated, the members hold no more than any rows closed under the
rules, and the growth is a part of what they hold. -/
theorem Evaluates.growing [PatternEngine]
    (h : Evaluates context predicates (opened outer predicates) rule deltaAt reached)
    (hready : Ready catalog predicates outer)
    (hclosed : consequences context.entities.render predicates outer.settled Y ≤ Y) :
    (∃ X D, X ≤ Y ∧ D ≤ Y ∧ Growing outer predicates X D reached) ∧
      (∃ predicate ∈ predicates, rule ∈ predicate.rules) ∧
        ∀ i, deltaAt = some i → ∃ atom, rule.body[i]? = some (.atom atom) := by
  have hopened : Growing outer predicates ⊥ ⊥ (opened outer predicates) :=
    growing_opened hready.coherent hready.nodup
  cases h with
  | first hpass hstarts =>
    obtain ⟨hreached, hrule⟩ := hstarts.growing hready (hopened.of_pass hpass)
    exact ⟨⟨⊥, ⊥, bot_le, bot_le, hreached⟩, hrule, nofun⟩
  | @later position k rows _ _ _ hrounds hpass hderives =>
    have hafter := (ensures_rounds hready hopened k).of_ok hrounds
    obtain ⟨D, hheld⟩ := hafter.growing
    -- Naive iteration stays below whatever is closed, and the growth is a part of what it found.
    have hnaive : naive context predicates outer (k + 1) ≤ Y := iterate_consequences_le hclosed _
    have hgrown : rows.rowsOf ≤ Y := by
      rw [hafter.rowsOf_eq]
      exact fun name row hrow => hnaive name hrow.1
    obtain ⟨hreached, hrule, hposition⟩ := hderives.growing hready
      (growing_deltaOf hready.nodup (hheld.of_pass hpass) hafter.rows)
    refine ⟨⟨_, _, hnaive, hgrown, hreached⟩, hrule, ?_⟩
    rintro _ ⟨⟩
    obtain ⟨a, hget, -⟩ := mem_recursivePositions.1 hposition
    exact ⟨a, hget⟩

/-- When its rules are well typed and what they read from outside is accepted, every expression that a
rule evaluates in some round has a value for the row it is evaluated for, or a divisor of zero. -/
theorem Evaluates.defined [PatternEngine]
    (h : Evaluates context predicates (opened outer predicates) rule deltaAt reached)
    (hready : Ready catalog predicates outer)
    (hrules : ∀ predicate ∈ predicates, ∀ rule ∈ predicate.rules,
      rule.WellTyped catalog predicate.schema)
    (hsettled : ∀ name, outer.settled.ConformsAt catalog name) {expr : SlotExpr} {row : Row}
    (hmeets : BodyMeets context reached rule.body deltaAt expr row) :
    expr.Defined context.entities.render row := by
  have hclosed : consequences context.entities.render predicates outer.settled
      (acceptedRows predicates) ≤ acceptedRows predicates :=
    consequences_acceptedRows_le hready.schema hrules hready.monotone fun _ _ read _ _ =>
      hsettled read.1
  obtain ⟨⟨X, D, hX, hD, hgrowing⟩, ⟨predicate, hmem, hrule⟩, hdelta⟩ := h.growing hready hclosed
  obtain ⟨site, env, hbody, -⟩ := (hready.rules predicate hmem rule hrule).body
  refine hmeets.defined hgrowing.encloses.coherent (hgrowing.conforms hready.admits) hbody
    (fun name _ delta => ?_) hdelta
  have hread : (if delta then D else X) ≤ acceptedRows predicates := by
    split
    · exact hD
    · exact hX
  rw [hgrowing.denotes]
  unfold Interpretation.ConformsAt Interpretation.overlay
  split
  next hmember =>
    intro schema hschema row hrow
    obtain ⟨owner, howner, rfl⟩ := List.mem_map.1 hmember
    rw [hready.schema owner howner] at hschema
    cases hschema
    exact hread owner.name hrow owner howner rfl
  next => exact hsettled name

end Evaluation

end Stratalog
