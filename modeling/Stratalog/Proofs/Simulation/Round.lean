import Stratalog.Proofs.Fixpoint.Round
import Stratalog.Proofs.Simulation.Body

/-!
# Rounds side by side

From twins, the rules of a stratum find the same rows in every round. What a round adds is a set of
rows kept in the order in which they were found; the order may differ on the two sides, the set does
not. The members then grow by the same rows, and are checked for the same sizes.
-/

namespace Stratalog

open Evaluation

namespace Pairing

variable {p : Pairing} {members : List String} {left right : Workspace} {rows rows' : List Row}

/-- Heads of the same bindings in another order are the same rows in another order. -/
theorem map_ofList_headRows {table table' : BindingTable} (hvars : table'.vars = table.vars)
    (hrows : table.rows.Perm table'.rows) (head : List Term) :
    (headRows table' head).map Multiset.ofList = (headRows table head).map Multiset.ofList := by
  unfold headRows
  rw [hvars]
  cases headParts table.vars head with
  | error fault => rfl
  | ok parts => exact congrArg Except.ok (Multiset.coe_eq_coe.2 (hrows.symm.map _))

/-- Evaluating a rule gives the same rows in some order. -/
theorem pairs_evaluateRule [PatternEngine] (h : p.Twins members left right) {rule : Rule}
    (hreads : ∀ read ∈ Literal.readsOfAll rule.body, read.1 ∈ p.names) (deltaAt : Option Nat) :
    p.Pairs members (evaluateRule p.first rule deltaAt) (evaluateRule p.second rule deltaAt) left
      right List.Perm := by
  unfold evaluateRule
  refine Eval.pairs_get_bind (pairs_ofBody_bind h hreads fun plan hplan => ?_)
  refine (pairs_runPlan h hplan).bind fun table table' _ _ ⟨hvars, hvars', hrows⟩ hnext => ?_
  refine (pairs_noteBounds hnext _ _).bind fun _ _ _ _ _ hlast => ?_
  exact Eval.pairs_lift_of_map_eq (map_ofList_headRows (hvars'.trans hvars.symm) hrows rule.head)
    (fun _ _ _ _ heq => ⟨Multiset.coe_eq_coe.1 heq.symm, hlast⟩) hlast.toKin

/-- Collections of the same rows, each once. -/
def Alike (fresh fresh' : Fresh) : Prop :=
  ∃ S, fresh.Lists S ∧ fresh'.Lists S

/-- Collections of the same rows list them in some order. -/
theorem Alike.perm {fresh fresh' : Fresh} (h : Alike fresh fresh') :
    fresh.rows.toList.Perm fresh'.rows.toList := by
  obtain ⟨S, hfresh, hfresh'⟩ := h
  exact (List.perm_ext_iff_of_nodup hfresh.nodup hfresh'.nodup).2
    fun row => (hfresh.mem row).trans (hfresh'.mem row).symm

/-- The empty collections are alike. -/
theorem alike_empty : Alike {} {} :=
  ⟨∅, Fresh.lists_empty, Fresh.lists_empty⟩

/-- Adding the same rows keeps collections alike. -/
theorem Alike.addAll {fresh fresh' : Fresh} (h : Alike fresh fresh') (hrows : rows.Perm rows') :
    Alike (rows.foldl Fresh.add fresh) (rows'.foldl Fresh.add fresh') := by
  obtain ⟨S, hfresh, hfresh'⟩ := h
  refine ⟨_, hfresh.addAll rows, (hfresh'.addAll rows').congr fun row => ?_⟩
  simp only [Set.mem_ofPred_eq, hrows.mem_iff]

/-- Adding those of the same rows that a member does not hold keeps collections alike. -/
theorem pairs_addNew (h : p.Twins members left right) {fresh fresh' : Fresh}
    (hfresh : Alike fresh fresh') (hrows : rows.Perm rows') (name : String) :
    p.Pairs members (addNew name fresh rows) (addNew name fresh' rows') left right Alike := by
  obtain ⟨S, hlists, hlists'⟩ := hfresh
  refine Eval.pairs_of_ensures (ensures_addNew_lists h.aroundLeft.coherent hlists rows)
    (ensures_addNew_lists h.aroundRight.coherent hlists' rows') ?_
  rintro final final' left' right' ⟨hkept, ⟨hcounters, hcheckpoints⟩, hfinal⟩
    ⟨hkept', ⟨hcounters', hcheckpoints'⟩, hfinal'⟩
  refine ⟨⟨_, hfinal, hfinal'.congr fun row => ?_⟩,
    h.kept hkept hkept' id (fun _ _ => rfl) hcounters hcounters' hcheckpoints hcheckpoints'⟩
  simp only [Set.mem_ofPred_eq, hrows.mem_iff,
    holds_congr h.aroundLeft.coherent h.aroundRight.coherent (h.growing name) row]

/-- A position is idle on both sides or on neither. -/
theorem Twins.isIdle (h : p.Twins members left right) (body : List Literal) (position : Nat) :
    isIdle right body position = isIdle left body position := by
  unfold Evaluation.isIdle
  cases atomAt? body position with
  | none => rfl
  | some name =>
    have hdelta := h.delta name
    simp only [Option.bind_some]
    cases hleft : left.delta[name]? <;> cases hright : right.delta[name]? <;>
      rw [hleft, hright] at hdelta
    · cases hdelta
    · cases hdelta
    · exact Relation.isEmpty_of_outline (Option.some.inj hdelta)

/-- Evaluating a rule through its positions keeps collections alike. -/
theorem pairs_deriveAt [PatternEngine] (h : p.Twins members left right) (name : String) {rule : Rule}
    (hreads : ∀ read ∈ Literal.readsOfAll rule.body, read.1 ∈ p.names) {fresh fresh' : Fresh}
    (hfresh : Alike fresh fresh') (positions : List Nat) :
    p.Pairs members (deriveAt p.first name rule fresh positions)
      (deriveAt p.second name rule fresh' positions) left right Alike := by
  induction positions generalizing fresh fresh' left right with
  | nil => exact pairs_pure h hfresh
  | cons position rest ih =>
    rw [deriveAt, deriveAt]
    refine Eval.pairs_get_bind ?_
    rw [h.isIdle]
    split
    · exact ih h hfresh
    · exact (pairs_evaluateRule h hreads _).bind fun _ _ _ _ hrows hnext =>
        (pairs_addNew hnext hfresh hrows name).bind fun _ _ _ _ hfresh hlast => ih hlast hfresh

/-- Deriving by the rules of a member keeps collections alike. -/
theorem pairs_deriveRules [PatternEngine] (h : p.Twins members left right) (among : List String)
    (name : String)
    {rules : List Rule}
    (hreads : ∀ rule ∈ rules, ∀ read ∈ Literal.readsOfAll rule.body, read.1 ∈ p.names)
    {fresh fresh' : Fresh} (hfresh : Alike fresh fresh') :
    p.Pairs members (deriveRules p.first among name fresh rules)
      (deriveRules p.second among name fresh' rules) left right Alike := by
  induction rules generalizing fresh fresh' left right with
  | nil => exact pairs_pure h hfresh
  | cons rule rest ih =>
    obtain ⟨hrule, hrest⟩ := List.forall_mem_cons.1 hreads
    rw [deriveRules, deriveRules]
    exact (pairs_deriveAt h name hrule hfresh _).bind fun _ _ _ _ hfresh hnext =>
      ih hnext hrest hfresh

/-- Collecting the rows of the rules that read no member keeps collections alike. -/
theorem pairs_startRules [PatternEngine] (h : p.Twins members left right) (among : List String)
    {rules : List Rule}
    (hreads : ∀ rule ∈ rules, ∀ read ∈ Literal.readsOfAll rule.body, read.1 ∈ p.names)
    {fresh fresh' : Fresh} (hfresh : Alike fresh fresh') :
    p.Pairs members (startRules p.first among fresh rules)
      (startRules p.second among fresh' rules) left right Alike := by
  induction rules generalizing fresh fresh' left right with
  | nil => exact pairs_pure h hfresh
  | cons rule rest ih =>
    obtain ⟨hrule, hrest⟩ := List.forall_mem_cons.1 hreads
    rw [startRules, startRules]
    split
    · exact (pairs_evaluateRule h hrule none).bind fun _ _ _ _ hrows hnext =>
        ih hnext hrest (hfresh.addAll hrows)
    · exact ih h hrest hfresh

/-- The same rows under the same names, each in some order. -/
def AlikeByName (rows rows' : RowsByName) : Prop :=
  List.Forall₂ (fun entry entry' => entry.1 = entry'.1 ∧ entry.2.Perm entry'.2) rows rows'

/-- One more name with the rows of collections that are alike. -/
theorem AlikeByName.cons {fresh fresh' : Fresh} (hfresh : Alike fresh fresh') (name : String)
    {others others' : RowsByName} (hothers : AlikeByName others others') :
    AlikeByName (if fresh.rows.isEmpty then others else (name, fresh.rows.toList) :: others)
      (if fresh'.rows.isEmpty then others' else (name, fresh'.rows.toList) :: others') := by
  have hempty : fresh'.rows.isEmpty = fresh.rows.isEmpty := by
    rw [← Array.isEmpty_toList, ← Array.isEmpty_toList, hfresh.perm.isEmpty_eq]
  rw [hempty]
  split
  · exact hothers
  · exact List.Forall₂.cons ⟨rfl, hfresh.perm⟩ hothers

/-- Whether the rules of some predicates read no predicates but those of the pairing. -/
def Covers (p : Pairing) (predicates : List Predicate) : Prop :=
  ∀ predicate ∈ predicates, ∀ rule ∈ predicate.rules, ∀ read ∈ Literal.readsOfAll rule.body,
    read.1 ∈ p.names

variable {predicates : List Predicate}

/-- A later round finds the same rows for every member. -/
theorem pairs_deriveRound [PatternEngine] (h : p.Twins members left right) (among : List String)
    (hcovers : p.Covers predicates) :
    p.Pairs members (deriveRound p.first among predicates) (deriveRound p.second among predicates)
      left right AlikeByName := by
  induction predicates generalizing left right with
  | nil => exact pairs_pure h List.Forall₂.nil
  | cons predicate rest ih =>
    obtain ⟨hpredicate, hrest⟩ := List.forall_mem_cons.1 hcovers
    rw [deriveRound, deriveRound]
    exact (pairs_deriveRules h among _ hpredicate alike_empty).bind fun _ _ _ _ hfresh hnext =>
      (ih hnext hrest).bind fun _ _ _ _ hothers hlast => pairs_pure hlast (hothers.cons hfresh _)

/-- The first round finds the same rows for every member. -/
theorem pairs_startRound [PatternEngine] (h : p.Twins members left right) (among : List String)
    (hcovers : p.Covers predicates) :
    p.Pairs members (startRound p.first among predicates) (startRound p.second among predicates)
      left right AlikeByName := by
  induction predicates generalizing left right with
  | nil => exact pairs_pure h List.Forall₂.nil
  | cons predicate rest ih =>
    obtain ⟨hpredicate, hrest⟩ := List.forall_mem_cons.1 hcovers
    rw [startRound, startRound]
    refine (pairs_startRules h among hpredicate alike_empty).bind fun _ _ _ _ hfresh hnext => ?_
    exact (pairs_checkSize hnext hfresh.perm.length_eq.symm _ _).bind fun _ _ _ _ _ hchecked =>
      (ih hchecked hrest).bind fun _ _ _ _ hothers hlast => pairs_pure hlast (hothers.cons hfresh _)

end Pairing

end Stratalog
