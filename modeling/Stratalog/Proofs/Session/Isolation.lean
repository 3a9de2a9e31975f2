import Stratalog.Pattern.Engine
import Stratalog.Proofs.Session.Ledger
import Stratalog.Proofs.Session.Quiet
import Stratalog.Proofs.Session.Reordering

/-!
# The isolation of failures

Going through strata in order of level finishes each of them or records its failure, and never both. A
stratum fails when its own evaluation does, or because one that it depends on has failed, and for no other
reason. This holds whatever makes evaluations fail, and from whatever a session has finished before.

Where only budgets can make them fail, the strata of a level may also be gone through in any order.
-/

namespace Stratalog

open Evaluation Eval Session

/-- Each stratum is finished as a whole or not at all, and above finished strata only. -/
structure Workspace.Orderly (workspace : Workspace) (strata : Stratification) : Prop where
  coherent : workspace.Coherent
  whole : ∀ i < strata.strata.length, Session.isPublished strata workspace i = true ∨
    ∀ name ∈ (strata.stratum i).predicates, workspace.slots[name]? = some none
  below : ∀ i < strata.strata.length, Session.isPublished strata workspace i = true →
    ∀ d ∈ (strata.stratum i).dependsOn, Session.isPublished strata workspace d = true

variable {store : FactStore} {program : Program} {strata : Stratification} {settings : Settings}
  {context : Context} {workspace before after : Workspace} {i j : Nat} {ids done rest : List Nat}
  {failures : Failures} {session : Session}

namespace Workspace.Orderly

/-- A workspace that is kept up, and whose books are balanced, is orderly. -/
theorem of_upholds [PatternEngine] (hupholds : workspace.Upholds store program strata)
    (hbalanced : workspace.Balanced store program strata)
    (hsound : strata.Sound program.predicates) : workspace.Orderly strata := by
  refine ⟨hupholds.serves.coherent, fun i hi => ?_, hbalanced.below⟩
  refine or_iff_not_imp_left.2 fun hnot name hname => ?_
  exact hupholds.slot_eq_none hsound hi hnot hname

/-- A workspace stays orderly where only indices change. -/
theorem surrounds (h : before.Orderly strata) (hsurrounds : before.Surrounds after) :
    after.Orderly strata ∧
      ∀ j, Session.isPublished strata after j = Session.isPublished strata before j := by
  have hpublished (j : Nat) :
      Session.isPublished strata after j = Session.isPublished strata before j :=
    isPublished_congr fun name _ => Relation.map_map_outline_of_bare (hsurrounds.slots name)
  refine ⟨⟨hsurrounds.coherent, fun i hi => ?_, fun i hi => ?_⟩, hpublished⟩
  · rw [hpublished]
    exact (h.whole i hi).imp_right fun hempty name hname =>
      slot_eq_none_of_map (hsurrounds.slots name) (hempty name hname)
  · simp only [hpublished]
    exact h.below i hi

/-- Counting leaves a workspace orderly. -/
theorem counted (h : before.Orderly strata) (counters : Counters) :
    ({ before with counters } : Workspace).Orderly strata :=
  ⟨⟨h.coherent.base, h.coherent.slots, h.coherent.growing, h.coherent.delta⟩, h.whole, h.below⟩

/-- A workspace stays orderly when a stratum is finished above finished strata. -/
theorem fills (h : before.Orderly strata) (hsound : strata.Sound program.predicates)
    (hi : i < strata.strata.length) (hfills : before.Fills (strata.stratum i).predicates after)
    (hpublished : Session.isPublished strata after i = true)
    (hlower : ∀ d ∈ (strata.stratum i).dependsOn, Session.isPublished strata before d = true) :
    after.Orderly strata := by
  have hsame {j : Nat} (hj : j < strata.strata.length) (hne : j ≠ i) :=
    hfills.isPublished_eq hsound hi hj hne
  have hmono {j : Nat} (hj : j < strata.strata.length)
      (hbefore : Session.isPublished strata before j = true) :
      Session.isPublished strata after j = true := by
    by_cases hne : j = i
    · exact hne ▸ hpublished
    · rw [hsame hj hne, hbefore]
  refine ⟨hfills.coherent, fun j hj => ?_, fun j hj hafter d hd => ?_⟩
  · by_cases hne : j = i
    · exact Or.inl (hne ▸ hpublished)
    · rw [hsame hj hne]
      refine (h.whole j hj).imp_right fun hempty name hname => ?_
      refine slot_eq_none_of_map (hfills.slots name fun hmem => hne ?_) (hempty name hname)
      exact (hsound.together j hj name hname i hi name hmem).2 (Together.refl _ _)
  · have hd' := (hsound.below j hj d hd).1.trans hj
    by_cases hne : j = i
    · exact hmono hd' (hlower d (hne ▸ hd))
    · rw [hsame hj hne] at hafter
      exact hmono hd' (h.below j hj hafter d hd)

end Workspace.Orderly

namespace Session

/-- Finishing a stratum above finished strata finishes no other, and where it fails nothing is
finished. -/
theorem ensures_ensureStratum_of_orderly [PatternEngine] (h : workspace.Orderly strata)
    (hnodup : (program.predicates.map Predicate.name).Nodup)
    (hsound : strata.Sound program.predicates) (hi : i < strata.strata.length)
    (hlower : ∀ d ∈ (strata.stratum i).dependsOn, isPublished strata workspace d = true)
    (context : Context) :
    (ensureStratum program strata context i).Ensures workspace
      (fun _ after => after.Orderly strata ∧ isPublished strata after i = true ∧
        ∀ j < strata.strata.length, j ≠ i →
          isPublished strata after j = isPublished strata workspace j)
      fun _ after => after.Orderly strata ∧ isPublished strata workspace i = false ∧
        ∀ j, isPublished strata after j = isPublished strata workspace j := by
  unfold ensureStratum
  rw [ensures_bind, ensures_get]
  split
  next hpublished => exact ⟨h, hpublished, fun _ _ _ => rfl⟩
  next hnot =>
    have hunpublished : isPublished strata workspace i = false := Bool.eq_false_iff.2 hnot
    rw [ensures_bind]
    refine ensures_pass h.coherent (fun start hkept => ?_) fun _ after hkept _ => ?_
    · obtain ⟨hstart, hsame⟩ := h.surrounds ((Workspace.Surrounds.refl h.coherent).kept hkept)
      have hempty := (hstart.whole i hi).resolve_left (hsame i ▸ hnot)
      rw [ensures_bind]
      refine (ensures_publishStratum_of_empty hnodup hsound hi hstart.coherent hempty context).mono
        (fun _ after ⟨hfills, hpublished⟩ => ?_) fun _ after ⟨hsurrounds, _⟩ => ?_
      · rw [ensures_modify]
        have horderly := hstart.fills hsound hi hfills hpublished fun d hd =>
          (hsame d).trans (hlower d hd)
        exact ⟨horderly.counted _, hpublished, fun j hj hne =>
          (hfills.isPublished_eq hsound hi hj hne).trans (hsame j)⟩
      · obtain ⟨hafter, hsame'⟩ := hstart.surrounds hsurrounds
        exact ⟨hafter, hunpublished, fun j => (hsame' j).trans (hsame j)⟩
    · obtain ⟨hafter, hsame⟩ := h.surrounds ((Workspace.Surrounds.refl h.coherent).kept hkept)
      exact ⟨hafter, hunpublished, hsame⟩

/-- Whether the evaluation of a stratum fails where those listed before it were gone through. -/
def FailsItself [PatternEngine] (program : Program) (strata : Stratification) (context : Context)
    (ids : List Nat)
    (workspace : Workspace) (i : Nat) : Prop :=
  ∃ before after fault last, ids = before ++ i :: after ∧
    (ensureStratum program strata context i).run.run
      (goThrough program strata context before ([], workspace)).2 = (.error fault, last)

/-- What going through strata leaves: each is finished or has failed, and only they have failed, by
themselves or because of one they depend on. -/
structure Isolates [PatternEngine] (program : Program) (strata : Stratification) (context : Context)
    (ids : List Nat) (workspace : Workspace) (done : List Nat) (reached : Failures × Workspace) :
    Prop where
  orderly : reached.2.Orderly strata
  settled : ∀ i ∈ done, (isPublished strata reached.2 i = true ∧ ¬Failed reached.1 i) ∨
    (isPublished strata reached.2 i = false ∧ Failed reached.1 i)
  listed : ∀ i, Failed reached.1 i → i ∈ done
  others : ∀ i < strata.strata.length, i ∉ done →
    isPublished strata reached.2 i = isPublished strata workspace i
  cause : ∀ i ∈ done, Failed reached.1 i ↔ FailsItself program strata context ids workspace i ∨
    ∃ d ∈ (strata.stratum i).dependsOn, Failed reached.1 d

namespace Isolates

/-- A stratum that was gone through before is another one. -/
theorem ne_of_mem (hnot : i ∉ done) (hj : j ∈ done) : j ≠ i :=
  fun heq => hnot (heq ▸ hj)

variable [PatternEngine]

/-- A stratum that fails for a reason is recorded as failed. -/
theorem fail {fault : Fault}
    (h : Isolates program strata context ids workspace done (failures, before)) (hnot : i ∉ done)
    (hclosed : ∀ j ∈ done ++ [i], ∀ d ∈ (strata.stratum j).dependsOn, d ∈ done)
    (horderly : after.Orderly strata) (hunpublished : isPublished strata before i = false)
    (hsame : ∀ j, isPublished strata after j = isPublished strata before j)
    (hcause : FailsItself program strata context ids workspace i ∨
      ∃ d ∈ (strata.stratum i).dependsOn, Failed failures d) :
    Isolates program strata context ids workspace (done ++ [i])
      (failures ++ [(i, fault)], after) := by
  have hkept {j : Nat} (hj : j ∈ done) : Failed (failures ++ [(i, fault)]) j ↔ Failed failures j :=
    failed_append.trans (or_iff_left (ne_of_mem hnot hj))
  have hlower {j : Nat} (hj : j ∈ done ++ [i]) :
      (∃ d ∈ (strata.stratum j).dependsOn, Failed (failures ++ [(i, fault)]) d) ↔
        ∃ d ∈ (strata.stratum j).dependsOn, Failed failures d :=
    exists_congr fun d => and_congr_right fun hd => hkept (hclosed j hj d hd)
  have hitself : Failed (failures ++ [(i, fault)]) i := failed_append.2 (Or.inr rfl)
  refine ⟨horderly, fun j hj => ?_, fun j hj => ?_, fun j hj hout => ?_, fun j hj => ?_⟩
  · rcases List.mem_append.1 hj with hj | hj
    · rw [hsame, hkept hj]
      exact h.settled j hj
    · rw [List.mem_singleton.1 hj]
      exact Or.inr ⟨(hsame i).trans hunpublished, hitself⟩
  · rw [List.mem_append, List.mem_singleton]
    exact (failed_append.1 hj).imp_left (h.listed j)
  · rw [List.mem_append, not_or] at hout
    exact (hsame j).trans (h.others j hj hout.1)
  · rw [hlower hj]
    rcases List.mem_append.1 hj with hj | hj
    · rw [hkept hj]
      exact h.cause j hj
    · rw [List.mem_singleton.1 hj]
      exact iff_of_true hitself hcause

/-- A stratum that has no reason to fail is finished. -/
theorem finish (h : Isolates program strata context ids workspace done (failures, before))
    (hnot : i ∉ done) (hdone : ∀ j ∈ done, j < strata.strata.length)
    (horderly : after.Orderly strata) (hpublished : isPublished strata after i = true)
    (hsame : ∀ j < strata.strata.length, j ≠ i →
      isPublished strata after j = isPublished strata before j)
    (hcause : ¬(FailsItself program strata context ids workspace i ∨
      ∃ d ∈ (strata.stratum i).dependsOn, Failed failures d)) :
    Isolates program strata context ids workspace (done ++ [i]) (failures, after) := by
  have hfine : ¬Failed failures i := fun hfailed => hnot (h.listed i hfailed)
  refine ⟨horderly, fun j hj => ?_, fun j hj => List.mem_append_left _ (h.listed j hj),
    fun j hj hout => ?_, fun j hj => ?_⟩
  · rcases List.mem_append.1 hj with hj | hj
    · rw [hsame j (hdone j hj) (ne_of_mem hnot hj)]
      exact h.settled j hj
    · rw [List.mem_singleton.1 hj]
      exact Or.inl ⟨hpublished, hfine⟩
  · rw [List.mem_append, List.mem_singleton, not_or] at hout
    exact (hsame j hj hout.2).trans (h.others j hj hout.1)
  · rcases List.mem_append.1 hj with hj | hj
    · exact h.cause j hj
    · rw [List.mem_singleton.1 hj]
      exact iff_of_false hfine hcause

/-- A stratum with a failed one below it is not finished. -/
theorem isPublished_eq_false (h : Isolates program strata context ids workspace done (failures, before))
    (hi : i < strata.strata.length) {d : Nat} (hd : d ∈ (strata.stratum i).dependsOn)
    (hdone : d ∈ done) (hfailed : Failed failures d) : isPublished strata before i = false := by
  rw [Bool.eq_false_iff]
  intro hpublished
  have hbelow := h.orderly.below i hi hpublished d hd
  rcases h.settled d hdone with ⟨-, hfine⟩ | ⟨hlower, -⟩
  · exact hfine hfailed
  · rw [hbelow] at hlower
    cases hlower

/-- Going through one more stratum isolates failures if going through those before it did. -/
theorem step (h : Isolates program strata context ids workspace done (failures, before))
    (hnodup : (program.predicates.map Predicate.name).Nodup)
    (hsound : strata.Sound program.predicates) (hids : ∀ j ∈ ids, j < strata.strata.length)
    (honce : ids.Nodup) (hsplit : ids = done ++ i :: rest)
    (hclosed : ∀ j ∈ done ++ [i], ∀ d ∈ (strata.stratum j).dependsOn, d ∈ done)
    (hstate : goThrough program strata context done ([], workspace) = (failures, before)) :
    Isolates program strata context ids workspace (done ++ [i])
      (goThrough program strata context [i] (failures, before)) := by
  have hout {done rest : List Nat} (hwhole : ids = done ++ i :: rest) : i ∉ done ∧ i ∉ rest := by
    have hnot := (List.nodup_cons.1 (List.nodup_middle.1 (hwhole ▸ honce))).1
    rwa [List.mem_append, not_or] at hnot
  have hi := hids i (by simp [hsplit])
  have hdepends := hclosed i (by simp)
  rw [goThrough_cons, attempt]
  cases hfound : firstFailure? failures (strata.stratum i).dependsOn with
  | some fault =>
    obtain ⟨d, hd, hfailed⟩ := isSome_firstFailure?.1 (hfound ▸ rfl :
      (firstFailure? failures (strata.stratum i).dependsOn).isSome = true)
    exact h.fail (hout hsplit).1 hclosed h.orderly
      (h.isPublished_eq_false hi hd (hdepends d hd) hfailed) (fun _ => rfl) (Or.inr ⟨d, hd, hfailed⟩)
  | none =>
    have hfine : ¬∃ d ∈ (strata.stratum i).dependsOn, Failed failures d := by
      rw [← isSome_firstFailure?, hfound]
      exact Bool.false_ne_true
    have hlower : ∀ d ∈ (strata.stratum i).dependsOn, isPublished strata before d = true :=
      fun d hd => (h.settled d (hdepends d hd)).elim And.left
        fun hfailed => absurd ⟨d, hd, hfailed.2⟩ hfine
    have hensures := ensures_ensureStratum_of_orderly h.orderly hnodup hsound hi hlower context
    rcases hrun : (ensureStratum program strata context i).run.run before with ⟨fault | _, last⟩
    · obtain ⟨horderly, hunpublished, hsame⟩ := hensures.of_error hrun
      refine h.fail (hout hsplit).1 hclosed horderly hunpublished hsame (Or.inl ?_)
      exact ⟨done, rest, fault, last, hsplit, by rw [hstate, hrun]⟩
    · obtain ⟨horderly, hpublished, hsame⟩ := hensures.of_ok hrun
      refine h.finish (hout hsplit).1 (fun j hj => hids j (by simp [hsplit, hj])) horderly
        hpublished hsame (not_or.2 ⟨?_, hfine⟩)
      -- A stratum is gone through only once, so it did not fail anywhere else.
      rintro ⟨earlier, later, fault, last', hsplit', hfails⟩
      obtain ⟨rfl, -⟩ := (List.append_cons_inj_of_notMem (hout hsplit').1 (hout hsplit').2).1
        (hsplit'.symm.trans hsplit)
      rw [hstate, hrun] at hfails
      cases hfails

end Isolates

/-- Going through strata isolates failures. -/
theorem isolates_goThrough [PatternEngine] (h : workspace.Orderly strata)
    (hnodup : (program.predicates.map Predicate.name).Nodup)
    (hsound : strata.Sound program.predicates) (hids : ∀ i ∈ ids, i < strata.strata.length)
    (hscheduled : strata.Scheduled ids) (honce : ids.Nodup) (context : Context)
    (hsplit : ids = done ++ rest) :
    Isolates program strata context ids workspace done
      (goThrough program strata context done ([], workspace)) := by
  induction done using List.reverseRecOn generalizing rest with
  | nil => exact ⟨h, by simp, fun _ hi => absurd hi Bool.false_ne_true, fun _ _ _ => rfl, by simp⟩
  | append_singleton done i ih =>
    have hwhole : ids = done ++ i :: rest := by simp [hsplit]
    have hclosed : ∀ j ∈ done ++ [i], ∀ d ∈ (strata.stratum j).dependsOn, d ∈ done := by
      intro j hj d hd
      rcases List.mem_append.1 hj with hj | hj
      · obtain ⟨earlier, later, rfl⟩ := List.append_of_mem hj
        exact List.mem_append_left _
          (hscheduled earlier j (later ++ i :: rest) (by simp [hwhole]) d hd)
      · exact hscheduled done i rest hwhole d (List.mem_singleton.1 hj ▸ hd)
    have hreached := ih hwhole
    rw [goThrough_append]
    rcases hstate : goThrough program strata context done ([], workspace) with ⟨failures, before⟩
    rw [hstate] at hreached
    exact hreached.step hnodup hsound hids honce hwhole hclosed hstate

/-- A stratum has failed exactly when its evaluation fails or some stratum it depends on, directly or
through others, has failed. -/
theorem Isolates.failed_iff [PatternEngine] {reached : Failures × Workspace}
    (h : Isolates program strata context ids workspace ids reached)
    (hclosed : ∀ i ∈ ids, ∀ d ∈ (strata.stratum i).dependsOn, d ∈ ids) (hi : i ∈ ids) :
    Failed reached.1 i ↔ FailsItself program strata context ids workspace i ∨
      ∃ d, Relation.TransGen (fun i d => d ∈ (strata.stratum i).dependsOn) i d ∧
        Failed reached.1 d := by
  rw [h.cause i hi]
  refine or_congr_right ⟨fun ⟨d, hd, hfailed⟩ => ⟨d, .single hd, hfailed⟩, ?_⟩
  rintro ⟨d, hreaches, hfailed⟩
  induction hreaches using Relation.TransGen.head_induction_on with
  | single hd => exact ⟨d, hd, hfailed⟩
  | @head i c hc _ ih =>
    have hmem := hclosed i hi c hc
    exact ⟨c, hc, (h.cause c hmem).2 (Or.inr (ih hmem))⟩

/-- From every session that operations lead to, going through strata by level and identifier finishes
each of them or records its failure, and never both. A stratum fails exactly when its own evaluation
does or when one that it depends on, directly or through others, has failed. Without a deadline and a
cancellation, going through the strata of each level in any other order leaves the same failures, the
same finished relations up to the order of rows, and the same counters. -/
theorem Reachable.isolates_failures [PatternEngine] (h : Reachable store program settings session)
    (hstore : store.Built) (hids : ∀ i ∈ ids, i < session.strata.strata.length)
    (hclosed : ∀ i ∈ ids, ∀ d ∈ (session.strata.stratum i).dependsOn, d ∈ ids)
    (hsorted : ids.Pairwise fun a b => session.strata.precedes a b = true ∧ a ≠ b) :
    ∃ failures last, (evaluateStrata program session.strata session.context ids).run
        session.workspace = (failures, last) ∧
      (∀ i, Failed failures i → i ∈ ids) ∧
      (∀ i ∈ ids, (isPublished session.strata last i = true ∧ ¬Failed failures i) ∨
        (isPublished session.strata last i = false ∧ Failed failures i)) ∧
      (∀ i ∈ ids, Failed failures i ↔
        FailsItself program session.strata session.context ids session.workspace i ∨
          ∃ d, Relation.TransGen (fun i d => d ∈ (session.strata.stratum i).dependsOn) i d ∧
            Failed failures d) ∧
      (settings.timeoutMs = none → session.IsUncancelled → ∀ ids', ids.Perm ids' →
        ids'.Pairwise (fun a b =>
          (session.strata.stratum a).level ≤ (session.strata.stratum b).level) →
        ∃ failures' last', (evaluateStrata program session.strata session.context ids').run
            session.workspace = (failures', last') ∧
          (∀ i, Failed failures' i ↔ Failed failures i) ∧
          (∀ name, (last'.published? name).map Relation.outline =
            (last.published? name).map Relation.outline) ∧
          last'.counters = last.counters) := by
  have hbalanced := h.balanced hstore
  have hsettings := (h.turns hstore).1
  obtain ⟨hsession, rfl, rfl⟩ := h.spec hstore
  obtain ⟨-, hnodup, hsound⟩ := hsession.accepted
  have hlevels : ids.Pairwise fun a b =>
      (session.strata.stratum a).level ≤ (session.strata.stratum b).level := by
    refine hsorted.imp fun ⟨hprecedes, _⟩ => ?_
    rw [Stratification.precedes_iff] at hprecedes
    omega
  have horderly := Workspace.Orderly.of_upholds hsession.upholds hbalanced hsound
  have hscheduled := hsound.scheduled_of_pairwise hids hclosed hlevels
  have hisolates := isolates_goThrough horderly hnodup hsound hids hscheduled (hsorted.imp And.right)
    session.context (List.append_nil ids).symm
  refine ⟨_, _, run_evaluateStrata _ _ _ _ _, hisolates.listed, hisolates.settled,
    fun i hi => hisolates.failed_iff hclosed hi, fun htimeout huncancelled ids' hperm hsorted' => ?_⟩
  have hmatches : Matches (goThrough session.program session.strata session.context ids
      ([], session.workspace)) _ := matches_of_perm (huncancelled.isQuiet (hsettings ▸ htimeout))
    hnodup hsound horderly.coherent hids hperm hlevels hsorted'
  refine ⟨_, _, run_evaluateStrata _ _ _ _ _, hmatches.failed, fun name => ?_, hmatches.counters⟩
  rw [Workspace.published?, Workspace.published?, ← Option.join_map_eq_map_join,
    ← Option.join_map_eq_map_join]
  exact congrArg Option.join (hmatches.slots name)

/-- What can be reached at all. -/
def ends : Predicate where
  name := "end"
  columns := [⟨"node", .int⟩]
  rules := [⟨[.var "y"], [.atom ⟨"path", [.var "x", .var "y"]⟩]⟩]

/-- Where steps begin. -/
def starts : Predicate where
  name := "start"
  columns := [⟨"node", .int⟩]
  rules := [⟨[.var "x"], [.atom ⟨"edge", [.var "x", .var "y"]⟩]⟩]

/-- A session within a budget that suffices for the starts of steps, and not for the paths that ends
depend on. -/
def forkSession : Session where
  store := FactStore.steps
  program := { predicates := [paths, ends, starts] }
  settings := { maxTuples := 2 }
  strata := Stratification.ofPredicates [paths, ends, starts]
  faults := predicateFaults FactStore.steps { predicates := [paths, ends, starts] }
  workspace := { base := FactStore.steps.relations, slots := emptySlots ["path", "end", "start"] }

/-- The paths fail, and the ends with them, while the starts are found. It makes no difference whether the
starts are found first. -/
theorem isolates_failures_fork : ∃ failures last failures' last',
    (evaluateStrata forkSession.program forkSession.strata forkSession.context [0, 2, 1]).run
      forkSession.workspace = (failures, last) ∧
    (evaluateStrata forkSession.program forkSession.strata forkSession.context [2, 0, 1]).run
      forkSession.workspace = (failures', last') ∧
    Failed failures 0 ∧ Failed failures 1 ∧ isPublished forkSession.strata last 2 = true ∧
      (∀ i, Failed failures' i ↔ Failed failures i) ∧ last'.counters = last.counters := by
  have hstart : Session.start FactStore.steps { predicates := [paths, ends, starts] }
      { maxTuples := 2 } = .ok forkSession := rfl
  obtain ⟨failures, last, hrun, -, hsettled, hcause, horder⟩ :=
    (Reachable.start forkSession.observe hstart).isolates_failures FactStore.built_steps
      (show ∀ i ∈ [0, 2, 1], i < forkSession.strata.strata.length by decide +kernel)
      (show ∀ i ∈ [0, 2, 1], ∀ d ∈ (forkSession.strata.stratum i).dependsOn, d ∈ [0, 2, 1] by
        decide +kernel)
      (show [0, 2, 1].Pairwise fun a b => forkSession.strata.precedes a b = true ∧ a ≠ b by
        decide +kernel)
  obtain ⟨failures', last', hrun', hsame, -, hcounters⟩ := horder rfl (fun _ => rfl) [2, 0, 1]
    (.swap 2 0 [1])
    (show [2, 0, 1].Pairwise fun a b => (forkSession.strata.stratum a).level ≤
      (forkSession.strata.stratum b).level by decide +kernel)
  have hfailed : ∀ i ∈ [0, 2, 1], Failed ((evaluateStrata forkSession.program forkSession.strata
      forkSession.context [0, 2, 1]).run forkSession.workspace).1 i ↔ i = 0 ∨ i = 1 := by
    decide +kernel
  change (evaluateStrata forkSession.program forkSession.strata forkSession.context [0, 2, 1]).run
    forkSession.workspace = (failures, last) at hrun
  rw [hrun] at hfailed
  have hpaths : Failed failures 0 := (hfailed 0 (by simp)).2 (Or.inl rfl)
  refine ⟨failures, last, failures', last', hrun, hrun', hpaths, ?_, ?_, hsame, hcounters⟩
  · refine (hcause 1 (by simp)).2 (Or.inr ⟨0, .single ?_, hpaths⟩)
    change 0 ∈ (forkSession.strata.stratum 1).dependsOn
    decide +kernel
  · rcases hsettled 2 (by simp) with ⟨hpublished, -⟩ | ⟨-, hstarts⟩
    · exact hpublished
    · exact absurd ((hfailed 2 (by simp)).1 hstarts) (by decide)

end Session

end Stratalog
