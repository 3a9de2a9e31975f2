import Stratalog.Proofs.Postcondition

/-!
# Evaluations side by side

Two evaluations, each started in a workspace of its own, go alike when the second answers wherever
the first does and the two answers and workspaces are related as said. A strict comparison asks
the converse too, and relates the workspaces that two faults leave behind. Without strictness the
second may answer where the first has failed, as it does under a larger budget.

The comparison is computed along the two evaluations, step against step.
-/

namespace Stratalog

variable {α β γ δ : Type}

/-- The second evaluation answers where the first does, and ends related to it; if the comparison
is strict, the first also answers where the second does, and faults end related too. -/
def Eval.Pairs (strict : Prop) (first : Eval α) (second : Eval β) (left right : Workspace)
    (answered : α → β → Workspace → Workspace → Prop) (failed : Workspace → Workspace → Prop) :
    Prop :=
  match first.run.run left, second.run.run right with
  | (.ok a, left'), (.ok b, right') => answered a b left' right'
  | (.ok _, _), (.error _, _) => False
  | (.error _, left'), (.error _, right') => strict → failed left' right'
  | (.error _, _), (.ok _, _) => ¬strict

namespace Eval

variable {strict : Prop} {first : Eval α} {second : Eval β} {left right left' right' : Workspace}
  {answered : α → β → Workspace → Workspace → Prop} {failed : Workspace → Workspace → Prop}

/-- Where the first evaluation answers, so does the second. -/
theorem Pairs.of_ok {a : α} (h : Pairs strict first second left right answered failed)
    (hrun : first.run.run left = (.ok a, left')) :
    ∃ b right', second.run.run right = (.ok b, right') ∧ answered a b left' right' := by
  rw [Pairs, hrun] at h
  rcases hsecond : second.run.run right with ⟨fault | b, right'⟩
  · rw [hsecond] at h
    exact h.elim
  · rw [hsecond] at h
    exact ⟨b, right', rfl, h⟩

/-- Where the first evaluation fails, so does the second of a strict comparison. -/
theorem Pairs.of_error {fault : Fault} (h : Pairs strict first second left right answered failed)
    (hstrict : strict) (hrun : first.run.run left = (.error fault, left')) :
    ∃ fault' right', second.run.run right = (.error fault', right') ∧ failed left' right' := by
  rw [Pairs, hrun] at h
  rcases hsecond : second.run.run right with ⟨fault' | b, right'⟩
  · rw [hsecond] at h
    exact ⟨fault', right', rfl, h hstrict⟩
  · rw [hsecond] at h
    exact (h hstrict).elim

/-- Evaluations go alike when every answer of the first finds its partner and, in a strict
comparison, every fault does. -/
theorem pairs_of_forall
    (hok : ∀ a left', first.run.run left = (.ok a, left') →
      ∃ b right', second.run.run right = (.ok b, right') ∧ answered a b left' right')
    (herror : strict → ∀ fault left', first.run.run left = (.error fault, left') →
      ∃ fault' right', second.run.run right = (.error fault', right') ∧ failed left' right') :
    Pairs strict first second left right answered failed := by
  rw [Pairs]
  rcases hfirst : first.run.run left with ⟨fault | a, left'⟩
  · have herror := fun hstrict => herror hstrict fault left' hfirst
    rcases hsecond : second.run.run right with ⟨fault' | b, right'⟩
    · intro hstrict
      obtain ⟨_, _, hrun, hfailed⟩ := herror hstrict
      rw [hsecond] at hrun
      cases hrun
      exact hfailed
    · intro hstrict
      obtain ⟨_, _, hrun, -⟩ := herror hstrict
      rw [hsecond] at hrun
      cases hrun
  · obtain ⟨b, right', hsecond, hanswered⟩ := hok a left' hfirst
    rw [hsecond]
    exact hanswered

/-- Evaluations go alike where the first fails, if the second of a strict comparison does too. -/
theorem pairs_of_error {fault : Fault} (hrun : first.run.run left = (.error fault, left'))
    (h : strict → ∃ fault' right', second.run.run right = (.error fault', right') ∧
      failed left' right') : Pairs strict first second left right answered failed := by
  refine pairs_of_forall (fun a after hok => ?_) fun hstrict fault after herror => ?_
  · rw [hrun] at hok
    cases hok
  · rw [hrun] at herror
    cases herror
    exact h hstrict

/-- Weaker relations are established as well. -/
theorem Pairs.mono {answered' : α → β → Workspace → Workspace → Prop}
    {failed' : Workspace → Workspace → Prop}
    (h : Pairs strict first second left right answered failed)
    (hok : ∀ a b left' right', answered a b left' right' → answered' a b left' right')
    (herror : ∀ left' right', failed left' right' → failed' left' right') :
    Pairs strict first second left right answered' failed' := by
  refine pairs_of_forall (fun a left' hrun => ?_) fun hstrict fault left' hrun => ?_
  · obtain ⟨b, right', hsecond, hanswered⟩ := h.of_ok hrun
    exact ⟨b, right', hsecond, hok a b left' right' hanswered⟩
  · obtain ⟨fault', right', hsecond, hfailed⟩ := h.of_error hstrict hrun
    exact ⟨fault', right', hsecond, herror left' right' hfailed⟩

/-- Composed evaluations go alike when their first parts do and their second parts do after
that. -/
theorem Pairs.bind {next : α → Eval γ} {next' : β → Eval δ}
    {answered' : γ → δ → Workspace → Workspace → Prop}
    (h : Pairs strict first second left right answered failed)
    (hnext : ∀ a b left' right', answered a b left' right' →
      Pairs strict (next a) (next' b) left' right' answered' failed) :
    Pairs strict (first >>= next) (second >>= next') left right answered' failed := by
  rw [Pairs, run_bind, run_bind]
  rcases hfirst : first.run.run left with ⟨fault | a, left'⟩
  · rcases hsecond : second.run.run right with ⟨fault' | b, right'⟩
    · intro hstrict
      obtain ⟨_, _, hrun, hfailed⟩ := h.of_error hstrict hfirst
      rw [hsecond] at hrun
      cases hrun
      exact hfailed
    · have hloose : ¬strict := fun hstrict => by
        obtain ⟨_, _, hrun, -⟩ := h.of_error hstrict hfirst
        rw [hsecond] at hrun
        cases hrun
      rcases hrun : (next' b).run.run right' with ⟨_ | _, _⟩
      · simp only [hrun]
        exact fun hstrict => (hloose hstrict).elim
      · simp only [hrun]
        exact hloose
  · obtain ⟨b, right', hsecond, hanswered⟩ := h.of_ok hfirst
    rw [hsecond]
    exact hnext a b left' right' hanswered

theorem pairs_pure {a : α} {b : β} (h : answered a b left right) :
    Pairs strict (pure a) (pure b) left right answered failed := h

theorem pairs_throw {fault fault' : Fault} (h : failed left right) :
    Pairs strict (throw fault : Eval α) (throw fault' : Eval β) left right answered failed :=
  fun _ => h

/-- Reading the workspaces gives the workspaces. -/
theorem pairs_get_bind {next : Workspace → Eval α} {next' : Workspace → Eval β}
    (h : Pairs strict (next left) (next' right) left right answered failed) :
    Pairs strict (get >>= next) (get >>= next') left right answered failed := h

/-- Changes of the workspaces may come first. -/
theorem pairs_modify_bind {change change' : Workspace → Workspace} {next : PUnit → Eval α}
    {next' : PUnit → Eval β}
    (h : Pairs strict (next ⟨⟩) (next' ⟨⟩) (change left) (change' right) answered failed) :
    Pairs strict (modify change >>= next) (modify change' >>= next') left right answered failed :=
  h

theorem pairs_modify {change change' : Workspace → Workspace}
    {answered : PUnit → PUnit → Workspace → Workspace → Prop}
    (h : answered ⟨⟩ ⟨⟩ (change left) (change' right)) :
    Pairs strict (modify change : Eval PUnit) (modify change' : Eval PUnit) left right answered
      failed := h

/-- Computations without workspace go alike when their outcomes do. -/
theorem pairs_lift {outcome : Except Fault α} {outcome' : Except Fault β}
    (hok : ∀ a, outcome = .ok a → ∃ b, outcome' = .ok b ∧ answered a b left right)
    (herror : strict → ∀ b, outcome' = .ok b → ∃ a, outcome = .ok a) (hfailed : failed left right) :
    Pairs strict (liftM outcome) (liftM outcome') left right answered failed := by
  cases outcome with
  | ok a =>
    obtain ⟨b, rfl, hanswered⟩ := hok a rfl
    exact hanswered
  | error fault =>
    cases outcome' with
    | error fault' => exact fun _ => hfailed
    | ok b => exact fun hstrict => nomatch herror hstrict b rfl

/-- Computations whose outcomes look the same go alike. -/
theorem pairs_lift_of_map_eq {look : α → γ} {look' : β → γ} {outcome : Except Fault α}
    {outcome' : Except Fault β} (heq : outcome'.map look' = outcome.map look)
    (hok : ∀ a b, outcome = .ok a → outcome' = .ok b → look' b = look a → answered a b left right)
    (hfailed : failed left right) :
    Pairs strict (liftM outcome) (liftM outcome') left right answered failed := by
  refine pairs_lift (fun a ha => ?_) (fun _ b hb => ?_) hfailed
  · cases outcome' with
    | error fault => rw [ha] at heq; cases heq
    | ok b =>
      rw [ha] at heq
      exact ⟨b, rfl, hok a b ha rfl (Except.ok.inj heq)⟩
  · cases outcome with
    | error fault => rw [hb] at heq; cases heq
    | ok a => exact ⟨a, rfl⟩

/-- Computations whose outcomes look the same may come first. -/
theorem pairs_lift_bind {ε ζ : Type} {look : α → γ} {look' : β → γ} {outcome : Except Fault α}
    {outcome' : Except Fault β} {next : α → Eval ε} {next' : β → Eval ζ}
    {answered : ε → ζ → Workspace → Workspace → Prop}
    (heq : outcome'.map look' = outcome.map look) (hfailed : failed left right)
    (hnext : ∀ a b, outcome = .ok a → outcome' = .ok b → look' b = look a →
      Pairs strict (next a) (next' b) left right answered failed) :
    Pairs strict (liftM outcome >>= next) (liftM outcome' >>= next') left right answered failed := by
  have hlift : Pairs strict (liftM outcome) (liftM outcome') left right (fun a b l r =>
      (l = left ∧ r = right) ∧ outcome = .ok a ∧ outcome' = .ok b ∧ look' b = look a) failed :=
    pairs_lift_of_map_eq heq (fun _ _ ha hb hab => ⟨⟨rfl, rfl⟩, ha, hb, hab⟩) hfailed
  refine hlift.bind ?_
  rintro a b _ _ ⟨⟨rfl, rfl⟩, ha, hb, hab⟩
  exact hnext a b ha hb hab

/-- Evaluations that cannot fail go alike when their ends are related. -/
theorem pairs_of_ensures {ends : α → Workspace → Prop} {ends' : β → Workspace → Prop}
    (h : first.Ensures left ends fun _ _ => False)
    (h' : second.Ensures right ends' fun _ _ => False)
    (hends : ∀ a b left' right', ends a left' → ends' b right' → answered a b left' right') :
    Pairs strict first second left right answered failed := by
  refine pairs_of_forall (fun a left' hrun => ?_) fun _ fault left' hrun => (h.of_error hrun).elim
  rcases hsecond : second.run.run right with ⟨fault | b, right'⟩
  · exact (h'.of_error hsecond).elim
  · exact ⟨b, right', rfl, hends a b left' right' (h.of_ok hrun) (h'.of_ok hsecond)⟩

end Eval

end Stratalog
