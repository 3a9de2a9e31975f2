import Stratalog.Proofs.Plan.Reads
import Stratalog.Proofs.Plan.Steps
import Stratalog.Proofs.Simulation.Pairing

/-!
# Bodies side by side

From twins, a plan whose reads are named leads to twins, and to the same rows in some order. Every
step sees to this by itself: a join finds the same rows and passes its limit together with its
partner, whichever side of it is streamed and whichever index is at hand.
-/

namespace Stratalog

open Evaluation

namespace Pairing

variable {p : Pairing} {members : List String} {left right : Workspace} {rows rows' : List Row}

/-- A way of putting a relation back into a workspace that changes indices only. -/
structure Puts (keep : Relation → Workspace → Workspace) (relation : Relation)
    (workspace : Workspace) : Prop where
  kept : ∀ held, held.bare = relation.bare → held.Coherent →
    workspace.Kept (keep held workspace)
  checkpoints : ∀ held, (keep held workspace).checkpoints = workspace.checkpoints

/-- Putting a relation back where it was read changes indices only. -/
theorem puts_keep {workspace : Workspace} (h : workspace.Coherent) {name : String} {delta : Bool}
    {relation : Relation} (hread : workspace.read name delta = .ok relation) :
    Puts (fun held w => w.keep name delta held) relation workspace := by
  refine ⟨fun held hbare hheld => Workspace.kept_keep h hread hbare hheld, fun held => ?_⟩
  rw [Workspace.keep]
  split
  · rfl
  · split
    · split <;> rfl
    · split <;> rfl

/-- Not putting a relation back changes nothing. -/
theorem puts_nothing {workspace : Workspace} (h : workspace.Coherent) (relation : Relation) :
    Puts (fun _ w => w) relation workspace :=
  ⟨fun _ _ _ => Workspace.Kept.refl h, fun _ => rfl⟩

/-- A relation with the indices a join built is the relation, apart from them. -/
theorem right_joinThrough {relation : Relation} (hrelation : relation.Coherent)
    (rows : List Row) (args : List ArgSlot) (limit : Nat) :
    (joinThrough rows relation args limit).right.bare = relation.bare ∧
      (joinThrough rows relation args limit).right.Coherent := by
  rcases joinRows_right rows ((keyColumns args).map Prod.fst) relation
    ((keyColumns args).map Prod.snd) limit (extendRow args.zipIdx) with heq | heq
  · rw [joinThrough, heq]
    exact ⟨rfl, hrelation⟩
  · rw [joinThrough, heq]
    exact ⟨Relation.bare_index _ _, hrelation.snd_index _⟩

/-- Whether a join is a product does not depend on the order of rows. -/
theorem cartesian_joinThrough {relation relation' : Relation} (hrows : rows.Perm rows')
    (hrelation : relation.rows.Perm relation'.rows) (args : List ArgSlot) (limit limit' : Nat) :
    (joinThrough rows' relation' args limit').report.cartesian =
      (joinThrough rows relation args limit).report.cartesian := by
  have hstrategy : (chooseStrategy rows'.length relation' ((keyColumns args).map Prod.snd) ==
      .cartesian) = (chooseStrategy rows.length relation ((keyColumns args).map Prod.snd) ==
        .cartesian) := by
    rw [Bool.eq_iff_iff, beq_iff_eq, beq_iff_eq, chooseStrategy_eq_cartesian_iff,
      chooseStrategy_eq_cartesian_iff]
  have hleft : (rows' != [[]]) = (rows != [[]]) := by
    rw [Bool.eq_iff_iff, bne_iff_ne, bne_iff_ne]
    exact not_congr ⟨fun heq => List.perm_singleton.1 (heq ▸ hrows),
      fun heq => List.perm_singleton.1 (heq ▸ hrows.symm)⟩
  have hright : relation'.isEmpty = relation.isEmpty := by
    rw [Relation.isEmpty, Relation.isEmpty, Bool.eq_iff_iff, List.isEmpty_iff, List.isEmpty_iff]
    exact ⟨fun heq => List.perm_nil.1 (heq ▸ hrelation),
      fun heq => List.perm_nil.1 (heq ▸ hrelation.symm)⟩
  unfold joinThrough joinRows
  dsimp only
  rw [hstrategy, hleft, hright]

/-- Joining the same rows in another order with a relation of the same rows gives the same rows in
some order, and passes the limit together. -/
theorem pairs_joinAtom (h : p.Twins members left right) (hrows : rows.Perm rows')
    {relation relation' : Relation} (hrelation : relation.rows.Perm relation'.rows)
    (hcoherent : relation.Coherent) (hcoherent' : relation'.Coherent)
    {keep keep' : Relation → Workspace → Workspace}
    (hkeep : ∀ fits, Puts keep relation { left with inBounds := fits })
    (hkeep' : ∀ fits, Puts keep' relation' { right with inBounds := fits }) (args : List ArgSlot) :
    p.Pairs members (joinAtom p.first rows relation args keep)
      (joinAtom p.second rows' relation' args keep') left right List.Perm := by
  have hkeys : ((keyColumns args).map Prod.fst).length = ((keyColumns args).map Prod.snd).length := by
    simp
  unfold joinAtom
  refine Eval.pairs_modify_bind ?_
  have hnoted := h.noted (left.inBounds && argsFit rows relation args)
    (right.inBounds && argsFit rows' relation' args)
  have hputs := hkeep (left.inBounds && argsFit rows relation args)
  have hputs' := hkeep' (right.inBounds && argsFit rows' relation' args)
  generalize { left with inBounds := left.inBounds && argsFit rows relation args } = l
    at hnoted hputs ⊢
  generalize { right with inBounds := right.inBounds && argsFit rows' relation' args } = r
    at hnoted hputs' ⊢
  dsimp only
  have hcartesian := cartesian_joinThrough hrows hrelation args p.first.settings.maxTuples
    p.second.settings.maxTuples
  have hheld := right_joinThrough hcoherent rows args p.first.settings.maxTuples
  have hheld' := right_joinThrough hcoherent' rows' args p.second.settings.maxTuples
  have htruncated : (joinThrough rows' relation' args p.second.settings.maxTuples).report.truncated =
      true → (joinThrough rows relation args p.first.settings.maxTuples).report.truncated = true :=
    truncated_of_le hrows hrelation hcoherent hcoherent' hkeys p.tuples
  have hstrict (hs : p.strict) :
      (joinThrough rows relation args p.first.settings.maxTuples).report.truncated = true →
        (joinThrough rows' relation' args p.second.settings.maxTuples).report.truncated = true :=
    truncated_of_le hrows.symm hrelation.symm hcoherent' hcoherent hkeys (p.tuplesStrict hs)
  have hperm :
      (joinThrough rows relation args p.first.settings.maxTuples).report.truncated = false →
      (joinThrough rows' relation' args p.second.settings.maxTuples).report.truncated = false →
        (joinThrough rows relation args p.first.settings.maxTuples).rows.Perm
          (joinThrough rows' relation' args p.second.settings.maxTuples).rows :=
    joinRows_perm_joinRows hrows hrelation hcoherent hcoherent' hkeys
  generalize joinThrough rows relation args p.first.settings.maxTuples = result
    at hcartesian hheld htruncated hstrict hperm ⊢
  generalize joinThrough rows' relation' args p.second.settings.maxTuples = result'
    at hcartesian hheld' htruncated hstrict hperm ⊢
  refine Eval.pairs_modify_bind ?_
  have hnext : p.Twins members
      { keep result.right l with counters := l.counters.countJoin result.report.cartesian }
      { keep' result'.right r with counters := r.counters.countJoin result'.report.cartesian } :=
    hnoted.kept ((hputs.kept _ hheld.1 hheld.2).counted _) ((hputs'.kept _ hheld'.1 hheld'.2).counted _)
      (fun counters => counters.countJoin result.report.cartesian)
      (fun before gain => Counters.countJoin_add before gain _) rfl
      (by rw [hcartesian]) (hputs.checkpoints _) (hputs'.checkpoints _)
  by_cases hcut : result.report.truncated = true
  · rw [if_pos hcut]
    refine Eval.pairs_of_error rfl fun hs => ?_
    rw [if_pos (hstrict hs hcut)]
    exact ⟨_, _, rfl, hnext.toKin⟩
  · have hcut' : ¬result'.report.truncated = true := mt htruncated hcut
    rw [if_neg hcut, if_neg hcut']
    have hfound := hperm (by simpa using hcut) (by simpa using hcut')
    have hkept : (if args.contains .wildcard then Row.sortDistinct result.rows else
        result.rows).Perm (if args.contains .wildcard then Row.sortDistinct result'.rows else
          result'.rows) := by
      split
      · rw [Row.sortDistinct_of_perm hfound]
      · exact hfound
    exact (pairs_checkSize hnext hkept.length_eq.symm _ _).bind fun _ _ _ _ _ hlast =>
      pairs_pure hlast hkept

/-- What is read on both sides has the same rows in some order. -/
theorem pairs_read_bind {α β : Type} {answered : α → β → Prop} (h : p.Twins members left right)
    {name : String} (hname : name ∈ p.names) {delta : Bool} {next : Relation → Eval α}
    {next' : Relation → Eval β}
    (hnext : ∀ relation relation', left.read name delta = .ok relation →
      right.read name delta = .ok relation' → relation.rows.Perm relation'.rows →
        p.Pairs members (next relation) (next' relation') left right answered) :
    p.Pairs members (liftM (left.read name delta) >>= next) (liftM (right.read name delta) >>= next')
      left right answered :=
  Eval.pairs_lift_bind (h.read hname delta) h.toKin fun relation relation' hread hread' houtline =>
    hnext relation relation' hread hread' (Relation.perm_of_outline houtline.symm)

/-- Rejecting the partners of the same rows leaves the same rows. -/
theorem pairs_rejectAtom (h : p.Twins members left right) (hrows : rows.Perm rows')
    {predicate : String} (hname : predicate ∈ p.names) (args : List ArgSlot) :
    p.Pairs members (rejectAtom rows predicate args) (rejectAtom rows' predicate args) left right
      List.Perm := by
  have hkeys : ((keyColumns args).map Prod.fst).length = ((keyColumns args).map Prod.snd).length := by
    simp
  have hheld {relation : Relation} (hrelation : relation.Coherent) (rows : List Row) :
      (antijoinRows rows ((keyColumns args).map Prod.fst) relation
        ((keyColumns args).map Prod.snd)).2.bare = relation.bare ∧
      (antijoinRows rows ((keyColumns args).map Prod.fst) relation
        ((keyColumns args).map Prod.snd)).2.Coherent := by
    rcases antijoinRows_right rows ((keyColumns args).map Prod.fst) relation
      ((keyColumns args).map Prod.snd) with heq | heq
    · rw [heq]
      exact ⟨rfl, hrelation⟩
    · rw [heq]
      exact ⟨Relation.bare_index _ _, hrelation.snd_index _⟩
  unfold rejectAtom
  refine Eval.pairs_get_bind (pairs_read_bind h hname fun relation relation' hread hread' hperm => ?_)
  have hcoherent := h.aroundLeft.coherent.read hread
  have hcoherent' := h.aroundRight.coherent.read hread'
  have hnoted := h.noted (left.inBounds && argsFit rows relation args)
    (right.inBounds && argsFit rows' relation' args)
  have hputs := puts_keep hnoted.aroundLeft.coherent hread
  have hputs' := puts_keep hnoted.aroundRight.coherent hread'
  refine Eval.pairs_modify_bind (Eval.pairs_modify_bind (pairs_pure ?_ ?_))
  · exact hnoted.kept (hputs.kept _ (hheld hcoherent rows).1 (hheld hcoherent rows).2)
      (hputs'.kept _ (hheld hcoherent' rows').1 (hheld hcoherent' rows').2) id (fun _ _ => rfl)
      (Workspace.counters_keep _ _ _ _) (Workspace.counters_keep _ _ _ _) (hputs.checkpoints _)
      (hputs'.checkpoints _)
  · exact antijoinRows_perm hrows hperm hcoherent hcoherent' hkeys

/-- Folding the same rows in another order gives relations of the same rows. -/
theorem rows_foldRows_perm (hrows : rows.Perm rows') (label : String) (function : FoldFunction)
    (keys : List Nat) (target : Option SlotExpr) :
    (foldRows p.first label function keys target rows).rows.Perm
      (foldRows p.second label function keys target rows').rows := by
  unfold foldRows
  rw [p.entities]
  exact foldGroups_perm _ _ (hrows.map _)

mutual

/-- Taking a step on the same rows gives the same rows, each in some order. -/
theorem pairs_runStep : ∀ (step : Step), (∀ name ∈ step.reads, name ∈ p.names) →
    ∀ {left right rows rows'}, p.Twins members left right → List.Perm rows rows' →
      p.Pairs members (runStep p.first rows step) (runStep p.second rows' step) left right List.Perm
  | .join predicate delta args => by
    intro hreads left right rows rows' h hrows
    rw [runStep, runStep]
    refine Eval.pairs_get_bind (pairs_read_bind h (hreads predicate (by simp [Step.reads]))
      fun relation relation' hread hread' hperm => ?_)
    exact pairs_joinAtom h hrows hperm (h.aroundLeft.coherent.read hread)
      (h.aroundRight.coherent.read hread')
      (fun fits => puts_keep (h.noted fits fits).aroundLeft.coherent hread)
      (fun fits => puts_keep (h.noted fits fits).aroundRight.coherent hread') args
  | .fold label function inner keys target args => by
    intro hreads left right rows rows' h hrows
    rw [Step.reads] at hreads
    rw [runStep, runStep]
    refine (pairs_runSteps inner hreads h (List.Perm.refl [[]])).bind
      fun table table' l r htable hnext => ?_
    refine (pairs_noteBounds hnext _ _).bind fun _ _ l r _ hnext => ?_
    exact pairs_joinAtom hnext hrows (rows_foldRows_perm htable label function keys target)
      (Relation.coherent_ofDistinct _ _ _) (Relation.coherent_ofDistinct _ _ _)
      (fun fits => puts_nothing (hnext.noted fits fits).aroundLeft.coherent _)
      (fun fits => puts_nothing (hnext.noted fits fits).aroundRight.coherent _) args
  | .negate predicate args => by
    intro hreads left right rows rows' h hrows
    rw [runStep, runStep]
    exact pairs_rejectAtom h hrows (hreads predicate (by simp [Step.reads])) args
  | .filter test => by
    intro _ left right rows rows' h hrows
    rw [runStep, runStep]
    refine (pairs_noteBounds h _ _).bind fun _ _ _ _ _ hnext => pairs_pure hnext ?_
    rw [p.entities]
    exact hrows.filter _
  | .bind expr => by
    intro _ left right rows rows' h hrows
    rw [runStep, runStep]
    refine (pairs_noteBounds h _ _).bind fun _ _ _ _ _ hnext => pairs_pure hnext ?_
    rw [p.entities]
    exact hrows.filterMap _

/-- Taking steps on the same rows gives the same rows, each in some order. -/
theorem pairs_runSteps : ∀ (steps : List Step), (∀ name ∈ Step.readsOfAll steps, name ∈ p.names) →
    ∀ {left right rows rows'}, p.Twins members left right → List.Perm rows rows' →
      p.Pairs members (runSteps p.first rows steps) (runSteps p.second rows' steps) left right
        List.Perm
  | [] => by
    intro _ left right rows rows' h hrows
    rw [runSteps, runSteps]
    exact pairs_pure h hrows
  | step :: rest => by
    intro hreads left right rows rows' h hrows
    rw [Step.readsOfAll] at hreads
    obtain ⟨hstep, hrest⟩ := List.forall_mem_append.1 hreads
    have hempty : rows'.isEmpty = rows.isEmpty := hrows.isEmpty_eq.symm
    rw [runSteps, runSteps, hempty]
    split
    · exact pairs_pure h hrows
    · exact (pairs_runStep step hstep h hrows).bind fun _ _ _ _ hfound hnext =>
        pairs_runSteps rest hrest hnext hfound

end

/-- Running a plan gives the same rows in some order, under the variables of the plan. -/
theorem pairs_runPlan (h : p.Twins members left right) {plan : Plan}
    (hreads : plan.ReadsWithin p.names) :
    p.Pairs members (runPlan p.first plan) (runPlan p.second plan) left right fun table table' =>
      table.vars = plan.vars ∧ table'.vars = plan.vars ∧ table.rows.Perm table'.rows := by
  unfold runPlan
  refine (pairs_runSteps plan.steps hreads h (List.Perm.refl [[]])).bind
    fun _ _ _ _ hrows hnext => ?_
  exact (pairs_noteBounds hnext _ _).bind fun _ _ _ _ _ hlast => pairs_pure hlast ⟨rfl, rfl, hrows⟩

/-- Planning a body on both sides gives one plan, which reads what the body reads. -/
theorem pairs_ofBody_bind [PatternEngine] {α β : Type} {answered : α → β → Prop}
    (h : p.Twins members left right)
    {body : List Literal} (hreads : ∀ read ∈ Literal.readsOfAll body, read.1 ∈ p.names)
    {deltaAt : Option Nat} {next : Plan → Eval α} {next' : Plan → Eval β}
    (hnext : ∀ plan : Plan, plan.ReadsWithin p.names →
      p.Pairs members (next plan) (next' plan) left right answered) :
    p.Pairs members (liftM (Plan.ofBody (sizeIn left) body deltaAt) >>= next)
      (liftM (Plan.ofBody (sizeIn right) body deltaAt) >>= next') left right answered := by
  have hplan : (Plan.ofBody (sizeIn right) body deltaAt).map id =
      (Plan.ofBody (sizeIn left) body deltaAt).map id := by
    rw [Plan.ofBody_congr (fun name hname delta => h.sizeIn hname delta) hreads deltaAt]
  refine Eval.pairs_lift_bind hplan h.toKin fun plan plan' hok _ heq => ?_
  obtain rfl : plan' = plan := heq
  exact hnext plan' (Plan.readsWithin_ofBody hreads hok)

end Pairing

end Stratalog
