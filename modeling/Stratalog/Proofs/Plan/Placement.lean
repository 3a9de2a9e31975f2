import Stratalog.Proofs.Plan.Arguments
import Stratalog.Proofs.Typing.Body

/-!
# Placing one literal

Whatever guided the choice, one advance of the planner takes one waiting literal and extends the
plan by its step: a test or a negation whose variables are bound, a binding whose expression is
computable, or an atom or aggregate. Afterwards the plan binds the variables of that literal too.
-/

namespace Stratalog

namespace Plan

/-- A plan and the plan after a waiting literal was placed. -/
inductive Placed [PatternEngine] (plan : Plan) (w : Waiting) : Plan → Prop
  | test {after : Plan} (hready : w.literal.isReadyTest plan.binds = true)
      (hpush : plan.pushTest w.literal = .ok after) : Placed plan w after
  | binding {after : Plan} {var : String} {expr : Expr}
      (hbinding : w.literal.binding? plan.binds = some (var, expr))
      (hpush : plan.pushBinding var expr = .ok after) : Placed plan w after
  | negation {atom : Atom} (hliteral : w.literal = .negated atom)
      (hready : ∀ name ∈ atom.vars, name ∈ plan.vars) : Placed plan w (plan.pushNegation atom)
  | join {after : Plan} (hjoin : w.literal.isJoin = true) (hpush : plan.pushJoin w = .ok after) :
      Placed plan w after

/-- The best of some scores is one of them. -/
theorem mem_of_best {scores : List (Option Score)} {best : Score}
    (h : Score.best? scores = some best) : some best ∈ scores := by
  induction scores with
  | nil => simp [Score.best?] at h
  | cons score rest ih =>
    cases score with
    | none => exact List.mem_cons_of_mem _ (ih h)
    | some score =>
      rw [Score.best?] at h
      split at h
      next =>
        cases h
        exact List.mem_cons_self
      next other hother =>
        split at h
        · cases h
          exact List.mem_cons_of_mem _ (ih hother)
        · cases h
          exact List.mem_cons_self

/-- There is no best score only when there is no score. -/
theorem eq_none_of_best {scores : List (Option Score)} (h : Score.best? scores = none) :
    ∀ score ∈ scores, score = none := by
  induction scores with
  | nil => simp
  | cons score rest ih =>
    cases score with
    | none => exact List.forall_mem_cons.2 ⟨rfl, ih h⟩
    | some score =>
      rw [Score.best?] at h
      split at h
      · cases h
      · split at h <;> cases h

/-- Scores are listed literal by literal. -/
theorem forall₂_scores {sizeOf : SizeOf} {plan : Plan} {waiting : List Waiting}
    {scores : List (Option Score)} (h : plan.scores sizeOf waiting = .ok scores) :
    List.Forall₂ (fun w score => plan.score sizeOf w = .ok score) waiting scores := by
  induction waiting generalizing scores with
  | nil =>
    cases h
    exact List.Forall₂.nil
  | cons w rest ih =>
    rw [Plan.scores] at h
    obtain ⟨score, hscore, h⟩ := bind_eq_ok.1 h
    obtain ⟨others, hothers, h⟩ := bind_eq_ok.1 h
    cases h
    exact List.Forall₂.cons hscore (ih hothers)

/-- Only atoms and aggregates have a score, and they all do. -/
theorem isSome_score_iff {sizeOf : SizeOf} {plan : Plan} {w : Waiting} {score : Option Score}
    (h : plan.score sizeOf w = .ok score) : score.isSome = true ↔ w.literal.isJoin = true := by
  rw [Plan.score] at h
  split at h
  next atom hliteral =>
    obtain ⟨size, -, rfl⟩ := map_eq_ok.1 h
    simp [hliteral, Literal.isJoin]
  next hliteral =>
    cases h
    simp [hliteral, Literal.isJoin]
  next hatom haggregate =>
    cases h
    cases hliteral : w.literal with
    | atom a => exact absurd hliteral (hatom a)
    | aggregate => exact absurd hliteral (haggregate _ _ _ _ _)
    | _ => simp [Literal.isJoin]

/-- The best score is the score of a waiting literal. -/
theorem exists_extract?_of_best {sizeOf : SizeOf} {plan : Plan} {waiting : List Waiting}
    {scores : List (Option Score)} {best : Score} (h : plan.scores sizeOf waiting = .ok scores)
    (hbest : Score.best? scores = some best) : ∃ scored others,
      Typing.extract? (fun scored => scored.2 == some best) (waiting.zip scores) =
          some (scored, others) ∧
        waiting.Perm (scored.1 :: others.map Prod.fst) ∧ scored.1.literal.isJoin = true := by
  have hall := forall₂_scores h
  cases hscored : Typing.extract? (fun scored => scored.2 == some best) (waiting.zip scores) with
  | none =>
    obtain ⟨i, hi, heq⟩ := List.getElem_of_mem (mem_of_best hbest)
    have hlt : i < (waiting.zip scores).length := by
      rw [List.length_zip, hall.length_eq, min_self]
      exact hi
    have hfalse := Typing.extract?_eq_none.1 hscored _ (List.getElem_mem hlt)
    simp [List.getElem_zip, heq] at hfalse
  | some found =>
    obtain ⟨scored, others⟩ := found
    obtain ⟨hscore, hperm⟩ := Typing.extract?_eq_some hscored
    refine ⟨scored, others, rfl, ?_, ?_⟩
    · rw [← List.map_fst_zip hall.length_eq.le]
      exact hperm.map Prod.fst
    · have hmem : scored ∈ waiting.zip scores := hperm.mem_iff.2 List.mem_cons_self
      have heq : scored.2 = some best := by simpa using hscore
      refine (isSome_score_iff (List.forall₂_zip hall hmem)).1 ?_
      rw [heq]
      rfl

/-- One advance places one of the waiting literals and leaves the others waiting. -/
theorem advance_cases [PatternEngine] {sizeOf : SizeOf} {plan after : Plan} {waiting rest : List Waiting}
    (h : plan.advance sizeOf waiting = .ok (after, rest)) :
    ∃ w, waiting.Perm (w :: rest) ∧ plan.Placed w after := by
  unfold Plan.advance at h
  split at h
  next w others htest =>
    obtain ⟨hready, hperm⟩ := Typing.extract?_eq_some htest
    obtain ⟨_, hpush, h⟩ := bind_eq_ok.1 h
    cases h
    exact ⟨w, hperm, .test hready hpush⟩
  next =>
  split at h
  next w others hbinding =>
    obtain ⟨hsome, hperm⟩ := Typing.extract?_eq_some hbinding
    split at h
    next var expr hfound =>
      obtain ⟨_, hpush, h⟩ := bind_eq_ok.1 h
      cases h
      exact ⟨w, hperm, .binding hfound hpush⟩
    next hnone =>
      rw [hnone] at hsome
      cases hsome
  next =>
  split at h
  next w others hnegation =>
    obtain ⟨hready, hperm⟩ := Typing.extract?_eq_some hnegation
    split at h
    next atom hliteral =>
      cases h
      rw [hliteral, Literal.isReadyNegation, List.all_eq_true] at hready
      exact ⟨w, hperm, .negation hliteral fun name hname => by simpa [binds] using hready name hname⟩
    next hother =>
      cases hliteral : w.literal with
      | negated atom => exact absurd hliteral (hother atom)
      | _ =>
        rw [hliteral] at hready
        cases hready
  next =>
  obtain ⟨scores, hscores, h⟩ := bind_eq_ok.1 h
  split at h
  next => cases h
  next best hbest =>
    obtain ⟨scored, others, hscored, hperm, hjoin⟩ := exists_extract?_of_best hscores hbest
    rw [hscored] at h
    obtain ⟨_, hpush, h⟩ := bind_eq_ok.1 h
    cases h
    exact ⟨scored.1, hperm, .join hjoin hpush⟩

/-- A test that is ready mentions bound variables only. -/
theorem mem_of_isReadyTest {plan : Plan} {literal : Literal}
    (h : literal.isReadyTest plan.binds = true) : ∀ name ∈ literal.scope, name ∈ plan.vars := by
  intro name hname
  cases literal with
  | compare op left right =>
    simp only [Literal.isReadyTest, Literal.ready, Bool.and_eq_true, List.all_eq_true, binds,
      List.contains_iff_mem] at h
    rcases List.mem_append.1 hname with hname | hname
    · exact h.1 name hname
    · exact h.2 name hname
  | assign var expr =>
    simp only [Literal.isReadyTest, Literal.ready, Bool.and_eq_true, List.all_eq_true, binds,
      List.contains_iff_mem] at h
    rcases List.mem_cons.1 hname with rfl | hname
    · exact h.1
    · exact h.2 name hname
  | atom a => cases h
  | negated a => cases h
  | aggregate => cases h

/-- Testing binds nothing. -/
theorem vars_of_pushTest [PatternEngine] {plan after : Plan} {literal : Literal}
    (h : plan.pushTest literal = .ok after) : after.vars = plan.vars := by
  unfold pushTest at h
  split at h
  · obtain ⟨_, -, rfl⟩ := map_eq_ok.1 h
    exact List.append_nil _
  · obtain ⟨_, -, rfl⟩ := map_eq_ok.1 h
    exact List.append_nil _
  · cases h
    rfl

/-- The arguments bound by an atom or aggregate are its variables. -/
theorem mem_append_freshVars {plan : Plan} {terms : List Term} {name : String} :
    name ∈ plan.vars ++ freshVars plan terms ↔ name ∈ plan.vars ∨ Term.var name ∈ terms := by
  rw [List.mem_append, freshVars_eq_newVars, mem_newVars]
  tauto

/-- The variables of an atom are those among its arguments. -/
theorem mem_vars_atom {atom : Atom} {name : String} :
    name ∈ atom.vars ↔ Term.var name ∈ atom.args := by
  rw [Atom.vars, List.mem_filterMap]
  constructor
  · rintro ⟨term, hterm, heq⟩
    cases term <;> simp [Term.var?] at heq
    exact heq ▸ hterm
  · exact fun hterm => ⟨_, hterm, rfl⟩

/-- Placing a literal binds its variables and no others. -/
theorem Placed.mem_vars [PatternEngine] {plan after : Plan} {w : Waiting} (h : plan.Placed w after)
    (name : String) : name ∈ after.vars ↔ name ∈ plan.vars ∨ name ∈ w.literal.scope := by
  cases h with
  | test hready hpush =>
    rw [vars_of_pushTest hpush]
    exact ⟨Or.inl, fun hor => hor.elim id fun hname => mem_of_isReadyTest hready name hname⟩
  | @binding _ var expr hbinding hpush =>
    obtain ⟨hoffer, -, hready⟩ := Literal.offers_of_binding hbinding
    obtain ⟨_, -, rfl⟩ := map_eq_ok.1 hpush
    rw [Literal.mem_scope_of_offers hoffer]
    change name ∈ plan.vars ++ [var] ↔ _
    rw [List.mem_append, List.mem_singleton]
    constructor
    · rintro (hname | rfl)
      · exact Or.inl hname
      · exact Or.inr (Or.inl rfl)
    · rintro (hname | rfl | hname)
      · exact Or.inl hname
      · exact Or.inr rfl
      · exact Or.inl (by simpa [binds] using hready name hname)
  | @negation atom hliteral hready =>
    change name ∈ plan.vars ++ [] ↔ _
    rw [List.append_nil, hliteral]
    exact ⟨Or.inl, fun hor => hor.elim id (hready name)⟩
  | join hjoin hpush =>
    unfold pushJoin at hpush
    split at hpush
    next atom hliteral =>
      cases hpush
      rw [hliteral]
      exact mem_append_freshVars.trans (or_congr_right mem_vars_atom.symm)
    next result function target groupBy body hliteral =>
      obtain ⟨inner, -, hpush⟩ := bind_eq_ok.1 hpush
      unfold pushAggregate at hpush
      obtain ⟨keys, -, hpush⟩ := bind_eq_ok.1 hpush
      obtain ⟨compiled, -, hpush⟩ := bind_eq_ok.1 hpush
      cases hpush
      rw [hliteral]
      refine mem_append_freshVars.trans (or_congr_right ?_)
      simp [Literal.scope]
    next hatom haggregate =>
      cases hliteral : w.literal with
      | atom a => exact absurd hliteral (hatom a)
      | aggregate => exact absurd hliteral (haggregate _ _ _ _ _)
      | _ =>
        rw [hliteral] at hjoin
        cases hjoin

end Plan

end Stratalog
