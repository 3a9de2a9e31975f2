import Stratalog.Proofs.Relation.Operators

/-!
# Relational algebra

An expression is built from relations by the operators. What it means is a set of rows, found from the
sets of its parts without regard to orders, indices or repeats. Evaluating it operator by operator gives
a relation that presents this set, if every operator succeeds and no join is cut short.
-/

namespace Stratalog

/-- An expression of relational algebra over relations at hand. -/
inductive RelationalExpr where
  | base (relation : Relation)
  | select (test : Row → Bool) (operand : RelationalExpr)
  | project (columns : List Nat) (operand : RelationalExpr)
  | union (left right : RelationalExpr)
  | join (on : List (Nat × Nat)) (left right : RelationalExpr)
  | antijoin (on : List (Nat × Nat)) (left right : RelationalExpr)
  | aggregate (groupBy : List Nat) (function : FoldFunction) (target : Option Nat)
      (operand : RelationalExpr)

namespace RelationalExpr

/-- The relation an expression gives, if every operator succeeds and no join is cut short. -/
def eval? : RelationalExpr → Option Relation
  | .base relation => some relation
  | .select test operand => do
    return (← operand.eval?).select test
  | .project columns operand => do
    ((← operand.eval?).project columns).toOption
  | .union left right => do
    ((← left.eval?).union (← right.eval?)).toOption
  | .join on left right => do
    let (joined, report, _) := (← left.eval?).join (← right.eval?) on unlimited
    if report.truncated then none else some joined
  | .antijoin on left right => do
    return ((← left.eval?).antijoin (← right.eval?) on).1
  | .aggregate groupBy function target operand => do
    ((← operand.eval?).aggregate groupBy function target).toOption

/-- The set of rows an expression means. -/
def meaning : RelationalExpr → Set Row
  | .base relation => {row | row ∈ relation.rows}
  | .select test operand => {row ∈ operand.meaning | test row = true}
  | .project columns operand => (fun row => row.pick columns) '' operand.meaning
  | .union left right => left.meaning ∪ right.meaning
  | .join on left right => Row.joined on left.meaning right.meaning
  | .antijoin on left right => Row.unmatched on left.meaning right.meaning
  | .aggregate groupBy function target operand =>
    Row.aggregated groupBy function target operand.meaning

/-- Whether the relations an expression is built from are sound: their rows are distinct and conform to
their schemas, and the indices they carry are those of their rows. -/
def Sound : RelationalExpr → Prop
  | .base relation => relation.Coherent ∧ relation.rows.Nodup ∧
      ∀ row ∈ relation.rows, relation.schema.accepts row = true
  | .select _ operand | .project _ operand | .aggregate _ _ _ operand => operand.Sound
  | .union left right | .join _ left right | .antijoin _ left right => left.Sound ∧ right.Sound

variable {e other : RelationalExpr} {relation right : Relation}

/-- An expression that can be evaluated gives a relation that presents its meaning. -/
theorem Sound.presents (he : e.Sound) (heval : e.eval? = some relation) :
    relation.Presents e.meaning := by
  induction e generalizing relation with
  | base held =>
    cases heval
    obtain ⟨hcoherent, hnodup, haccepts⟩ := he
    exact ⟨hcoherent, hnodup, haccepts, fun _ => Iff.rfl⟩
  | select test operand ih =>
    obtain ⟨held, hheld, hselect⟩ := Option.bind_eq_some_iff.1 heval
    cases hselect
    exact (ih he hheld).select test
  | project columns operand ih =>
    obtain ⟨held, hheld, hproject⟩ := Option.bind_eq_some_iff.1 heval
    exact (ih he hheld).project (toOption_eq_some_iff.1 hproject)
  | union left right ihleft ihright =>
    obtain ⟨l, hl, hrest⟩ := Option.bind_eq_some_iff.1 heval
    obtain ⟨r, hr, hunion⟩ := Option.bind_eq_some_iff.1 hrest
    exact (ihleft he.1 hl).union (ihright he.2 hr) (toOption_eq_some_iff.1 hunion)
  | join on left right ihleft ihright =>
    obtain ⟨l, hl, hrest⟩ := Option.bind_eq_some_iff.1 heval
    obtain ⟨r, hr, hjoin⟩ := Option.bind_eq_some_iff.1 hrest
    obtain ⟨hwhole, hjoined⟩ := Option.ite_none_left_eq_some.1 hjoin
    cases hjoined
    exact (ihleft he.1 hl).join (ihright he.2 hr) (Bool.eq_false_iff.2 hwhole)
  | antijoin on left right ihleft ihright =>
    obtain ⟨l, hl, hrest⟩ := Option.bind_eq_some_iff.1 heval
    obtain ⟨r, hr, hantijoin⟩ := Option.bind_eq_some_iff.1 hrest
    cases hantijoin
    exact (ihleft he.1 hl).antijoin (ihright he.2 hr) on
  | aggregate groupBy function target operand ih =>
    obtain ⟨held, hheld, haggregate⟩ := Option.bind_eq_some_iff.1 heval
    exact (ih he hheld).aggregate (toOption_eq_some_iff.1 haggregate)

/-- Evaluation gives distinct rows that conform to the schema, and together they are the meaning. Of
two expressions evaluated, the rows of the first that take part in the join and those that the antijoin
keeps share out the rows of the first. Over nothing, without grouping, counts and sums are zero and there
is no least and no greatest value. -/
theorem eval?_gives_meaning (he : e.Sound) (heval : e.eval? = some relation) :
    (relation.rows.Nodup ∧ (∀ row ∈ relation.rows, relation.schema.accepts row = true) ∧
      {row | row ∈ relation.rows} = e.meaning) ∧
    (∀ (other : RelationalExpr) (right : Relation) (on : List (Nat × Nat)),
      other.Sound → other.eval? = some right → (relation.join right on unlimited).2.1.truncated = false →
        relation.takingPart right on unlimited ∩ {l | l ∈ (relation.antijoin right on).1.rows} = ∅ ∧
        relation.takingPart right on unlimited ∪ {l | l ∈ (relation.antijoin right on).1.rows} =
          {l | l ∈ relation.rows}) ∧
    ∀ (function : FoldFunction) (target : Option Nat) (folded : Relation), e.meaning = ∅ →
      (RelationalExpr.aggregate [] function target e).eval? = some folded →
        folded.rows = Relation.foldedNothing function := by
  have hpresents := he.presents heval
  refine ⟨⟨hpresents.nodup, hpresents.accepts, hpresents.rows_eq⟩,
    fun other right on hother hright hwhole => ?_, fun function target folded hempty hfolded => ?_⟩
  · have hpartner := hother.presents hright
    have hkept := hpresents.antijoin hpartner on
    constructor
    · refine Set.eq_empty_of_forall_notMem fun l h => ?_
      exact (hpresents.mem_takingPart_iff hpartner hwhole h.1.1).1 h.1 h.2
    · ext l
      constructor
      · rintro (⟨hl, -⟩ | hl)
        · exact hl
        · exact (hpresents.mem l).2 ((hkept.mem l).1 hl).1
      · intro hl
        by_cases hleft : l ∈ (relation.antijoin right on).1.rows
        · exact Or.inr hleft
        · exact Or.inl ((hpresents.mem_takingPart_iff hpartner hwhole hl).2 hleft)
  · have hrows : relation.rows = [] := List.eq_nil_iff_forall_not_mem.2 fun row hrow =>
      Set.notMem_empty row (hempty ▸ (hpresents.mem row).1 hrow)
    obtain ⟨held, hheld, haggregate⟩ := Option.bind_eq_some_iff.1 hfolded
    cases heval.symm.trans hheld
    exact Relation.rows_aggregate_nil hrows (toOption_eq_some_iff.1 haggregate)

/-- Who works for whom. -/
def staff : Relation :=
  .ofRows "staff" ⟨[⟨"name", .string⟩, ⟨"boss", .string⟩]⟩
    [[.string "ada", .string "eve"], [.string "bob", .string "eve"], [.string "eve", .string "joe"]]

/-- How many work for each one who works for someone. -/
def underlings : RelationalExpr :=
  .aggregate [2] .count none (.join [(1, 0)] (.base staff) (.base staff))

/-- Two work for one who works for someone. She and they share out the staff. -/
theorem eval?_gives_meaning_underlings : ∃ relation,
    underlings.eval? = some relation ∧ relation.rows = [[.string "eve", .int 2]] ∧
      {row | row ∈ relation.rows} = underlings.meaning ∧
        (staff.antijoin staff [(1, 0)]).1.rows = [[.string "eve", .string "joe"]] ∧
          staff.takingPart staff [(1, 0)] unlimited ∩
            {l | l ∈ (staff.antijoin staff [(1, 0)]).1.rows} = ∅ := by
  have hsound : (base staff).Sound :=
    ⟨Relation.coherent_ofDistinct _ _ _, Row.nodup_distinct _, by decide +kernel⟩
  have hrun : underlings.eval?.map Relation.rows = some [[.string "eve", .int 2]] := by
    decide +kernel
  obtain ⟨relation, heval, hrows⟩ := Option.map_eq_some_iff.1 hrun
  obtain ⟨⟨-, -, hmeaning⟩, -⟩ := eval?_gives_meaning (e := underlings) ⟨hsound, hsound⟩ heval
  have hbase : (base staff).eval? = some staff := rfl
  obtain ⟨-, hshare, -⟩ := eval?_gives_meaning hsound hbase
  obtain ⟨hdisjoint, -⟩ := hshare (base staff) staff [(1, 0)] hsound rfl (by decide +kernel)
  exact ⟨relation, heval, hrows, hmeaning, by decide +kernel, hdisjoint⟩

end RelationalExpr

end Stratalog
