import Stratalog.Pattern.Engine
import Stratalog.Proofs.Fixpoint.Stratum
import Stratalog.Proofs.Session.Serving

/-!
# Semi-naive evaluation

A stratum that passed every check, and whose lower strata are published, is evaluated as naive
iteration would: round by round its members hold the same rows, it ends in the same round, and what
it hands out is the least fixpoint of its rules. Only a cancellation, a deadline, a table grown too
large or a bound on the rounds stops it before.
-/

namespace Stratalog

namespace Evaluation

open Eval

/-- The rows of listed relations, by name. -/
def rowsIn (relations : List Relation) : Interpretation := fun name =>
  {row | ∃ relation ∈ relations, relation.name = name ∧ row ∈ relation.rows}

variable {store : FactStore} {program : Program} {outer workspace : Workspace}
  {strata : Stratification} {stratum : Stratum} {predicates : List Predicate} {i : Nat}
  {context : Context} {catalog : Catalog} {result : StratumResult}

/-- A result holds what naive iteration finds. -/
theorem StratumResult.Reaches.rowsIn_eq [PatternEngine] {k : Nat}
    (h : result.Reaches context predicates outer k) :
    rowsIn result.relations = naive context predicates outer k := by
  funext name
  ext row
  constructor
  · rintro ⟨relation, hrelation, rfl, hrow⟩
    obtain ⟨-, predicate, -, hof, hrows⟩ := h.relations relation hrelation
    rw [hof.name]
    exact (hrows row).1 hrow
  · intro hrow
    have hname : name ∈ predicates.map Predicate.name := by
      by_contra hnot
      rw [naive_eq_empty hnot] at hrow
      exact hrow
    rw [← h.names] at hname
    obtain ⟨relation, hrelation, rfl⟩ := List.mem_map.1 hname
    obtain ⟨-, predicate, -, hof, hrows⟩ := h.relations relation hrelation
    rw [hof.name] at hrow
    exact ⟨relation, hrelation, rfl, (hrows row).2 hrow⟩

/-- In a stratum that is not recursive no rule of a member reads a member. -/
theorem recursivePositions_eq_nil (hnodup : (program.predicates.map Predicate.name).Nodup)
    (hsound : strata.Sound program.predicates) (hi : i < strata.strata.length)
    (hrecursive : (strata.stratum i).recursive = false) :
    ∀ predicate ∈ program.membersOf (strata.stratum i), ∀ rule ∈ predicate.rules,
      rule.recursivePositions ((program.membersOf (strata.stratum i)).map Predicate.name) = [] := by
  intro predicate hmem rule hrule
  refine List.eq_nil_iff_forall_not_mem.2 fun position hposition => ?_
  obtain ⟨a, hget, hmember⟩ := mem_recursivePositions.1 hposition
  obtain ⟨hpredicate, hname⟩ := (Program.mem_membersOf hnodup).1 hmem
  rw [Program.map_name_membersOf hnodup (hsound.member i hi)] at hmember
  have hread : (a.predicate, Polarity.positive) ∈ predicate.reads :=
    Predicate.mem_reads hrule (List.mem_of_getElem? hget) (by simp [Literal.reads])
  exact hsound.recursive i hi hrecursive predicate.name hname a.predicate hmember
    ⟨predicate, hpredicate, rfl, ⟨_, hread⟩, hsound.member i hi _ hmember⟩

/-- Counted from one, the first round to end with is one more than counted from zero. -/
theorem isLeast_succ_of_settles [PatternEngine] {k : Nat}
    (h : IsLeast {k | Settles context stratum predicates outer k} k) :
    IsLeast {k | 1 ≤ k ∧ (stratum.recursive = true →
      naive context predicates outer k = naive context predicates outer (k - 1))} (k + 1) := by
  refine ⟨⟨Nat.le_add_left 1 k, h.1⟩, fun j hj => ?_⟩
  obtain ⟨hpos, hend⟩ := hj
  obtain ⟨j, rfl⟩ := Nat.exists_eq_add_of_le' hpos
  exact Nat.succ_le_succ (h.2 hend)

/-- Evaluation simulates naive iteration: after every round the members hold what naive iteration
has found; the rounds end where it ends, with the least fixpoint, each row once; and where nothing
interrupts and no table grows too large, the evaluation succeeds exactly when enough rounds are
allowed. -/
theorem evaluateStratum_simulates_naive [PatternEngine] (hstore : store.Built)
    (hnames : program.checkNames = .ok ())
    (hstrata : strata = Stratification.ofPredicates program.predicates)
    (hi : i < strata.strata.length) (hstratum : strata.stratum i = stratum)
    (hpredicates : stratum.predicates.filterMap program.predicate? = predicates)
    (hclean : ∀ name ∈ stratum.predicates, strata.faultOf? name = none)
    (hchecked : ∀ predicate ∈ predicates, Typing.checkPredicate store
      (Catalog.of store program.predicates) predicate = .ok ())
    (hworkspace : workspace.Serves store program.predicates)
    (hpublished : ∀ d ∈ stratum.dependsOn, Session.isPublished strata workspace d = true)
    (context : Context) :
    (∀ k rows after,
      (rounds context predicates k).run.run (opened workspace predicates) = (.ok rows, after) →
        after.growing.rowsOf = naive context predicates workspace (k + 1)) ∧
    (∀ k ≤ context.settings.maxRounds - 1,
      (∀ j < k, ¬Settles context stratum predicates workspace j) →
        (growStratum context stratum predicates).run.run (opened workspace predicates) =
          (rounds context predicates k >>= resume context stratum predicates k).run.run
            (opened workspace predicates)) ∧
    (∀ result after,
      (evaluateStratum context stratum predicates).run.run workspace = (.ok result, after) →
        IsLeast {k | 1 ≤ k ∧ (stratum.recursive = true →
            naive context predicates workspace k = naive context predicates workspace (k - 1))}
          result.rounds ∧
        result.relations.map Relation.name = predicates.map Predicate.name ∧
        (∀ relation ∈ result.relations, relation.rows.Nodup) ∧
        Function.IsFixedPt (consequences context.entities.render predicates workspace.settled)
          (rowsIn result.relations) ∧
        IsLeast {X | consequences context.entities.render predicates workspace.settled X ≤ X}
          (rowsIn result.relations) ∧
        result.derived = (result.relations.map Relation.size).sum) ∧
    ((∀ n, (context.noticing (context.observe n)).checkpoint = .ok ()) →
      (∀ fault after,
        (evaluateStratum context stratum predicates).run.run workspace = (.error fault, after) →
          ¬fault.IsTupleLimit) →
      ((∃ result after,
        (evaluateStratum context stratum predicates).run.run workspace = (.ok result, after)) ↔
          ∃ k, 1 ≤ k ∧ k ≤ max 1 context.settings.maxRounds ∧ (stratum.recursive = true →
            naive context predicates workspace k =
              naive context predicates workspace (k - 1)))) := by
  subst hstratum hpredicates
  have hnodup := (Program.nodup_of_checkNames hnames).1
  have hsound : strata.Sound program.predicates :=
    hstrata ▸ Stratification.sound_ofPredicates hnodup
  have hready := hworkspace.ready hstore.wellFormed hnodup hsound hi hclean hchecked hpublished
  have hspec : (evaluateStratum context (strata.stratum i)
      (program.membersOf (strata.stratum i))).Ensures workspace _ _ := ensures_evaluateStratum hready
  refine ⟨fun k rows after hrun => ?_, fun k hk hgoes => run_growStratum hready hk hgoes,
    fun result after hrun => ?_, fun hquiet hlimit => ⟨?_, ?_⟩⟩
  · obtain ⟨⟨D, hheld⟩, -⟩ :=
      (ensures_rounds hready (growing_opened hready.coherent hready.nodup) k).of_ok hrun
    exact hheld.rows
  · obtain ⟨-, -, k, hrounds, hleast, -, hreaches⟩ := hspec.of_ok hrun
    have hfixed := isFixedPt_of_settles (recursivePositions_eq_nil hnodup hsound hi) hleast.1
    refine ⟨hrounds ▸ isLeast_succ_of_settles hleast, hreaches.names, fun relation hrelation => ?_,
      hreaches.rowsIn_eq ▸ hfixed, hreaches.rowsIn_eq ▸ isLeast_of_isFixedPt hfixed,
      hreaches.derived⟩
    obtain ⟨-, predicate, -, hof, -⟩ := hreaches.relations relation hrelation
    exact hof.nodup
  · rintro ⟨result, after, hrun⟩
    obtain ⟨-, -, k, -, hleast, hk, -⟩ := hspec.of_ok hrun
    exact ⟨k + 1, Nat.le_add_left 1 k, by omega, hleast.1⟩
  · rintro ⟨k, hpos, hk, hend⟩
    rcases hrun : (evaluateStratum context (strata.stratum i)
      (program.membersOf (strata.stratum i))).run.run workspace with ⟨fault | result, after⟩
    · obtain ⟨-, -, htuples | ⟨n, hn⟩ | ⟨-, hnever⟩⟩ := hspec.of_error hrun
      · exact absurd htuples (hlimit fault after hrun)
      · rw [hquiet n] at hn
        cases hn
      · obtain ⟨k, rfl⟩ := Nat.exists_eq_add_of_le' hpos
        exact absurd hend (hnever k (by omega))
    · exact ⟨result, after, hrun⟩

/-- Paths are steps, and steps after paths. -/
def paths : Predicate where
  name := "path"
  columns := [⟨"from", .int⟩, ⟨"to", .int⟩]
  rules := [⟨[.var "x", .var "y"], [.atom ⟨"edge", [.var "x", .var "y"]⟩]⟩,
    ⟨[.var "x", .var "z"],
      [.atom ⟨"path", [.var "x", .var "y"]⟩, .atom ⟨"edge", [.var "y", .var "z"]⟩]⟩]

/-- The paths over two steps are found in two rounds, and a third finds nothing more. -/
theorem evaluateStratum_paths : ∃ result after,
    (evaluateStratum {} ((Stratification.ofPredicates [paths]).stratum 0) [paths]).run.run
        { base := FactStore.steps.relations, slots := Session.emptySlots ["path"] } =
      (.ok result, after) ∧ result.rounds = 3 ∧ result.derived = 3 ∧
      IsLeast {X | consequences (EntityTable.render ∅) [paths]
          ({ base := FactStore.steps.relations
             slots := Session.emptySlots ["path"] } : Workspace).settled X ≤ X}
        (rowsIn result.relations) := by
  have hcounts : ((evaluateStratum {} ((Stratification.ofPredicates [paths]).stratum 0)
      [paths]).run.run { base := FactStore.steps.relations
                         slots := Session.emptySlots ["path"] }).1.toOption.map
        (fun result => (result.rounds, result.derived)) = some (3, 3) := by decide +kernel
  have hnames : ({ predicates := [paths] } : Program).checkNames = .ok () := rfl
  have hnodup := (Program.nodup_of_checkNames hnames).1
  have hlength : 0 < (Stratification.ofPredicates [paths]).strata.length := by decide +kernel
  have hclean : ∀ name ∈ ((Stratification.ofPredicates [paths]).stratum 0).predicates,
      (Stratification.ofPredicates [paths]).faultOf? name = none := by decide +kernel
  have hchecked : ∀ predicate ∈ [paths], Typing.checkPredicate FactStore.steps
      (Catalog.of FactStore.steps [paths]) predicate = .ok () := by
    intro predicate hmem
    rw [List.mem_singleton.1 hmem]
    rfl
  have hlower : ∀ d ∈ ((Stratification.ofPredicates [paths]).stratum 0).dependsOn,
      Session.isPublished (Stratification.ofPredicates [paths])
        { base := FactStore.steps.relations, slots := Session.emptySlots ["path"] } d = true :=
    fun d hd => absurd ((Stratification.sound_ofPredicates hnodup).below 0 hlength d hd).1
      (Nat.not_lt_zero d)
  have hserves := Workspace.serves_start FactStore.built_steps.wellFormed hnodup
  obtain ⟨-, -, hresult, -⟩ := evaluateStratum_simulates_naive FactStore.built_steps hnames rfl
    hlength rfl rfl hclean hchecked hserves hlower {}
  obtain ⟨result, hanswer, hpair⟩ := Option.map_eq_some_iff.1 hcounts
  rcases hrun : (evaluateStratum {} ((Stratification.ofPredicates [paths]).stratum 0)
      [paths]).run.run { base := FactStore.steps.relations
                         slots := Session.emptySlots ["path"] } with ⟨_ | found, after⟩
  · rw [hrun] at hanswer
    cases hanswer
  · rw [hrun] at hanswer
    cases hanswer
    obtain ⟨-, -, -, -, hleast, -⟩ := hresult result after hrun
    exact ⟨result, after, rfl, congrArg Prod.fst hpair, congrArg Prod.snd hpair, hleast⟩

end Evaluation

end Stratalog
