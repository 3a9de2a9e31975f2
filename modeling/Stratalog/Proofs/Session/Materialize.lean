import Stratalog.Proofs.Session.Scheduling
import Stratalog.Proofs.Session.Turn

/-!
# Materializing strata

Strata are gone through in an order in which each comes after those it depends on. Each is published
in the end, or recorded with a fault: its own, or that of a stratum below. Only what may interrupt an
evaluation is ever such a fault.
-/

namespace Stratalog

open Evaluation Eval

/-- Whether a fault is met while evaluating: a budget is used up or someone cancelled. -/
def Fault.IsInterruption : Fault → Prop
  | .resourceExhausted _ | .cancelled => True
  | _ => False

/-- What the strata of a session rest on: a store as stores are built, predicates with names of
their own, and strata that are theirs. -/
structure Accepted (store : FactStore) (program : Program) (strata : Stratification) : Prop where
  store : store.WellFormed
  nodup : (program.predicates.map Predicate.name).Nodup
  sound : strata.Sound program.predicates

variable {store : FactStore} {program : Program} {context : Context} {workspace after : Workspace}
  {strata : Stratification} {i : Nat} {before ids : List Nat} {failures : Session.Failures}
  {fault : Fault} {settings : Settings}

/-- A stratum without faults is ready for its evaluation once those it depends on are published. -/
theorem Accepted.ready [PatternEngine] (h : Accepted store program strata)
    (hupholds : workspace.Upholds store program strata) (hi : i < strata.strata.length)
    (hclean : strata.Clean store program i)
    (hlower : ∀ d ∈ (strata.stratum i).dependsOn, Session.isPublished strata workspace d = true) :
    Ready (Catalog.of store program.predicates) (program.membersOf (strata.stratum i)) workspace :=
  hupholds.serves.ready h.store h.nodup h.sound hi (fun name hname => (hclean name hname).1)
    (hclean.checked h.nodup) hlower

/-- An interruption is not found before evaluation begins. -/
theorem Fault.IsInterruption.isStatic_eq_false (h : fault.IsInterruption) :
    fault.isStatic = false := by
  cases fault with
  | resourceExhausted _ => rfl
  | cancelled => rfl
  | _ => exact False.elim h

/-- A context stops evaluations when a budget is used up, or when a checkpoint finds them cancelled. -/
def Context.Stops (context : Context) : Fault → Prop
  | .resourceExhausted _ => True
  | .cancelled => context.Interrupts .cancelled
  | _ => False

/-- What stops evaluations interrupts them. -/
theorem Context.Stops.isInterruption (h : context.Stops fault) : fault.IsInterruption := by
  cases fault with
  | resourceExhausted _ => trivial
  | cancelled => trivial
  | _ => exact False.elim h

/-- A tuple limit stops evaluations in every context. -/
theorem Fault.IsTupleLimit.stops (h : fault.IsTupleLimit) (context : Context) :
    context.Stops fault := by
  cases fault with
  | resourceExhausted budget => trivial
  | _ => exact False.elim h

/-- A checkpoint raises a cancellation or a used-up budget. -/
theorem Context.Interrupts.stops (h : context.Interrupts fault) : context.Stops fault := by
  obtain ⟨i, hfault⟩ := id h
  generalize context.noticing (context.observe i) = seen at hfault
  rw [checkpoint, checkCancelled] at hfault
  split at hfault
  next => cases hfault; exact h
  next =>
    change seen.checkDeadline = .error fault at hfault
    rw [checkDeadline] at hfault
    split at hfault
    next =>
      split at hfault
      next => cases hfault; trivial
      next => cases hfault
    next => cases hfault

namespace Session

/-- One workspace becomes another, which is kept up as well, in any number of turns. What was published
stays so. -/
structure Advances [PatternEngine] (store : FactStore) (program : Program) (strata : Stratification)
    (settings : Settings) (before after : Workspace) : Prop where
  upholds : after.Upholds store program strata
  published : ∀ name, before.isPublished name = true → after.isPublished name = true
  turns : Workspace.Turns store program strata settings before after

namespace Advances

variable [PatternEngine]

/-- A workspace that is kept up need not change. -/
theorem refl (h : workspace.Upholds store program strata) :
    Advances store program strata settings workspace workspace :=
  ⟨h, fun _ => id, .refl⟩

theorem trans {last : Workspace} (h : Advances store program strata settings workspace after)
    (h' : Advances store program strata settings after last) :
    Advances store program strata settings workspace last :=
  ⟨h'.upholds, fun name hname => h'.published name (h.published name hname), h.turns.trans h'.turns⟩

/-- A workspace advances in turns to one that is kept up. -/
theorem of_turns (h : after.Upholds store program strata)
    (hturns : Workspace.Turns store program strata settings workspace after) :
    Advances store program strata settings workspace after := by
  refine ⟨h, fun name hname => ?_, hturns⟩
  obtain ⟨relation, hrelation⟩ := Workspace.isPublished_iff.1 hname
  obtain ⟨held, hheld, -⟩ := hturns.keeps (Workspace.published?_eq_some_iff.2 hrelation)
  exact Workspace.isPublished_iff.2 ⟨held, Workspace.published?_eq_some_iff.1 hheld⟩

/-- A workspace that is kept up advances to what it encloses, once there are no members, if nothing
was counted. -/
theorem of_encloses (h : workspace.Upholds store program strata)
    (hencloses : workspace.Encloses after) (hcleared : after.growing = ∅ ∧ after.delta = ∅)
    (htally : after.tally = workspace.tally) :
    Advances store program strata settings workspace after := by
  refine ⟨h.of_encloses hencloses (fun name => ?_) fun name => ?_,
    fun name hname => (hencloses.isPublished_eq name).trans hname, .single (.stay hencloses htally)⟩
  · rw [hcleared.1]
    exact Std.TreeMap.getElem?_emptyc
  · rw [hcleared.2]
    exact Std.TreeMap.getElem?_emptyc

/-- A workspace that is kept up advances to what it is kept as, if nothing was counted. -/
theorem of_kept (h : workspace.Upholds store program strata) (hkept : workspace.Kept after)
    (htally : after.tally = workspace.tally) :
    Advances store program strata settings workspace after :=
  ⟨h.of_kept hkept, fun name hname => (hkept.encloses.isPublished_eq name).trans hname,
    .single (.stay hkept.encloses htally)⟩

/-- Published predicates stay published, so published strata do. -/
theorem isPublished_stratum (h : Advances store program strata settings workspace after) {i : Nat}
    (hpublished : isPublished strata workspace i = true) : isPublished strata after i = true :=
  List.all_eq_true.2 fun name hname => h.published name (List.all_eq_true.1 hpublished name hname)

end Advances

/-- Passing a checkpoint advances a workspace, or interrupts. -/
theorem ensures_pass_advances [PatternEngine] (h : workspace.Upholds store program strata)
    (context : Context) :
    context.pass.Ensures workspace
      (fun _ after => workspace.Kept after ∧
        Advances store program strata context.settings workspace after)
      fun fault after => Advances store program strata context.settings workspace after ∧
        context.Stops fault := by
  have hpass : context.pass.Ensures workspace (fun _ after => workspace.Kept after)
      fun fault after => workspace.Kept after ∧ context.Interrupts fault :=
    ensures_pass h.serves.coherent (fun _ hkept => hkept) fun _ _ hkept hfault => ⟨hkept, hfault⟩
  refine (hpass.and (context.uncounted_pass.ensures workspace)).mono
    (fun _ after hafter => ?_) fun fault after hafter => ?_
  · exact ⟨hafter.1, Advances.of_kept h hafter.1 hafter.2⟩
  · exact ⟨Advances.of_kept h hafter.1.1 hafter.2, hafter.1.2.stops⟩

/-- A stratum that is ready and not published is evaluated and then published at once, unless its
evaluation is interrupted. -/
theorem ensures_publishStratum [PatternEngine] (h : workspace.Upholds store program strata)
    (haccepted : Accepted store program strata) (hcontext : context.entities = store.entities)
    (hi : i < strata.strata.length) (hnot : ¬isPublished strata workspace i = true)
    (hready : Ready (Catalog.of store program.predicates) (program.membersOf (strata.stratum i))
      workspace) :
    (publishStratum program context (strata.stratum i)).Ensures workspace
      (fun result after => after.Upholds store program strata ∧
        isPublished strata after i = true ∧ ∃ grown,
          Advances store program strata context.settings workspace grown ∧
            (∀ name ∈ (strata.stratum i).predicates, grown.slots[name]? = some none) ∧
              result.relations.map Relation.name = (strata.stratum i).predicates ∧
                result.derived = (result.relations.map Relation.size).sum ∧
                  grown.Derives store program strata context.settings i result.relations ∧
                    grown.Filled after result.relations)
      fun fault after => Advances store program strata context.settings workspace after ∧
        context.Stops fault := by
  obtain ⟨-, hnodup, hsound⟩ := haccepted
  rw [publishStratum]
  simp only [ensures_bind, ensures_pure]
  refine (((ensures_evaluateStratum hready).and
    ((uncounted_evaluateStratum context _ _).ensures workspace)).and ensures_run).mono
    (fun result grown hgrown => ?_) fun fault grown hgrown => ?_
  · obtain ⟨⟨⟨hencloses, hcleared, k, -, hleast, -, hreaches⟩, htally⟩, hrun⟩ := hgrown
    have hadvances : Advances store program strata context.settings workspace grown :=
      .of_encloses h hencloses hcleared htally
    have hupholds := hadvances.upholds
    have hnames : result.relations.map Relation.name = (strata.stratum i).predicates :=
      hreaches.names.trans (Program.map_name_membersOf hnodup (hsound.member i hi))
    have hgrownNot : ¬isPublished strata grown i = true := by
      rw [hencloses.isPublished_stratum]
      exact hnot
    have hempty : ∀ name ∈ (strata.stratum i).predicates, grown.slots[name]? = some none :=
      fun name hname => hupholds.slot_eq_none hsound hi hgrownNot hname
    refine (ensures_publishAll (hnames ▸ hsound.nodup i hi) fun relation hrelation =>
      hempty _ (hnames ▸ List.mem_map_of_mem hrelation)).mono
      (fun _ last hfilled => ?_) fun _ _ => False.elim
    have hrelations : ∀ relation ∈ result.relations,
        relation.Coherent ∧ ∃ predicate ∈ program.predicates, relation.IsOf predicate := by
      intro relation hrelation
      obtain ⟨hcoherent, predicate, hmem, hof, -⟩ := hreaches.relations relation hrelation
      exact ⟨hcoherent, predicate, ((Program.mem_membersOf hnodup).1 hmem).1, hof⟩
    have hmodel : ∀ relation ∈ result.relations, ∀ M,
        PerfectModel store.entities.render store.holds program.predicates M →
          ∀ row, row ∈ relation.rows ↔ row ∈ M relation.name := by
      intro relation hrelation M hM row
      obtain ⟨-, predicate, hmem, hof, hrows⟩ := hreaches.relations relation hrelation
      rw [hrows, h.naive_eq hnodup hsound hcontext hi hready hleast.1 hM hmem, hof.name]
    obtain ⟨hfinal, hpublished⟩ :=
      hupholds.publish hsound hi hnames hrelations hmodel hfilled
    exact ⟨hfinal, hpublished, grown, hadvances, hempty, hnames, hreaches.derived,
      .intro rfl hcontext h hencloses hrun, hfilled⟩
  · obtain ⟨⟨⟨hencloses, hcleared, hfault⟩, htally⟩, -⟩ := hgrown
    refine ⟨Advances.of_encloses h hencloses hcleared htally, ?_⟩
    rcases hfault with hlimit | hinterrupt | ⟨rfl, -⟩
    · exact hlimit.stops context
    · exact hinterrupt.stops
    · trivial

/-- A stratum without faults, above published strata, is published unless its evaluation is
interrupted. -/
theorem ensures_ensureStratum [PatternEngine] (h : workspace.Upholds store program strata)
    (haccepted : Accepted store program strata) (hcontext : context.entities = store.entities)
    (hi : i < strata.strata.length) (hclean : strata.Clean store program i)
    (hlower : ∀ d ∈ (strata.stratum i).dependsOn, isPublished strata workspace d = true) :
    (ensureStratum program strata context i).Ensures workspace
      (fun _ after => Advances store program strata context.settings workspace after ∧
        isPublished strata after i = true)
      fun fault after => Advances store program strata context.settings workspace after ∧
        context.Stops fault := by
  unfold ensureStratum
  rw [ensures_bind, ensures_get]
  split
  next hpublished => exact ⟨Advances.refl h, hpublished⟩
  next hnot =>
    rw [ensures_bind]
    refine (ensures_pass_advances h context).mono (fun _ start hstart => ?_) fun _ _ => id
    obtain ⟨hkept, hstart⟩ := hstart
    have hready := haccepted.ready hstart.upholds hi hclean fun d hd =>
      hstart.isPublished_stratum (hlower d hd)
    have hstartNot : ¬isPublished strata start i = true := by
      rw [hkept.encloses.isPublished_stratum]
      exact hnot
    simp only [ensures_bind, ensures_modify]
    refine (ensures_publishStratum hstart.upholds haccepted hcontext hi hstartNot hready).mono
      (fun result last hlast => ?_) fun fault last hlast => ⟨hstart.trans hlast.1, hlast.2⟩
    obtain ⟨hupholds, hpublished, grown, hgrown, hempty, hnames, hderived, hderives, hfilled⟩ :=
      hlast
    have hbefore := hstart.trans hgrown
    have hmembers : (program.membersOf (strata.stratum i)).length = result.relations.length := by
      have hmap := Program.map_name_membersOf haccepted.nodup (haccepted.sound.member i hi)
      rw [← List.length_map (f := Predicate.name), hmap, ← hnames, List.length_map]
    refine ⟨⟨hupholds.of_kept ((Workspace.Kept.refl hupholds.serves.coherent).counted _),
      fun name hname => hfilled.isPublished_mono (hbefore.published name hname),
      hbefore.turns.tail (.finish hi hclean (fun d hd => hbefore.isPublished_stratum (hlower d hd))
        hempty hnames hfilled.filled (fun name hname => hfilled.kept name (hnames ▸ hname)) ?_
          hderives)⟩,
      hpublished⟩
    rw [← hmembers, ← hderived, hfilled.frame]
    rfl

/-- A stratum that is finished, or recorded as failed. -/
def Concluded (strata : Stratification) (workspace : Workspace) (failures : Failures) (i : Nat) :
    Prop :=
  isPublished strata workspace i = true ∨ (failures.lookup i).isSome = true

/-- Where no failure is found each stratum listed is finished. -/
theorem isPublished_of_firstFailure? (hconcluded : ∀ i ∈ ids, Concluded strata workspace failures i)
    (hnone : firstFailure? failures ids = none) :
    ∀ i ∈ ids, isPublished strata workspace i = true := by
  intro i hi
  rcases hconcluded i hi with hpublished | hfailed
  · exact hpublished
  · rw [List.findSome?_eq_none_iff.1 hnone i hi] at hfailed
    cases hfailed

/-- A failure that is found was recorded for one of the strata. -/
theorem exists_of_firstFailure? (hfound : firstFailure? failures ids = some fault) :
    ∃ i ∈ ids, (i, fault) ∈ failures := by
  obtain ⟨i, hi, hlookup⟩ := List.exists_of_findSome?_eq_some hfound
  obtain ⟨before, after, rfl, -⟩ := List.lookup_eq_some_iff.1 hlookup
  exact ⟨i, hi, List.mem_append_right _ List.mem_cons_self⟩

/-- A failure that is found stops evaluations if all those recorded do. -/
theorem stops_of_firstFailure? (hfaults : ∀ entry ∈ failures, context.Stops entry.2)
    (hfound : firstFailure? failures ids = some fault) : context.Stops fault := by
  obtain ⟨i, -, hmem⟩ := exists_of_firstFailure? hfound
  exact hfaults _ hmem

/-- Recording a failure concludes its stratum and leaves the others concluded. -/
theorem concluded_append (hconcluded : ∀ j ∈ before, Concluded strata workspace failures j) :
    ∀ j ∈ before ++ [i], Concluded strata workspace (failures ++ [(i, fault)]) j := by
  intro j hj
  rw [Concluded, List.lookup_append, Option.isSome_or]
  rcases List.mem_append.1 hj with hj | hj
  · rcases hconcluded j hj with hpublished | hfailed
    · exact Or.inl hpublished
    · exact Or.inr (by rw [hfailed, Bool.true_or])
  · rw [List.mem_singleton.1 hj]
    exact Or.inr (by simp)

variable [PatternEngine]

/-- Going through strata in order concludes each of them. What is true of every failure of a stratum
whose lower strata are finished, and is passed on by failures, is true of all failures. -/
theorem evaluateEach_spec (Bad : Nat × Fault → Prop)
    (h : workspace.Upholds store program strata) (haccepted : Accepted store program strata)
    (hcontext : context.entities = store.entities) (hscheduled : strata.Scheduled ids)
    (hids : ∀ i ∈ ids, i < strata.strata.length ∧ strata.Clean store program i)
    (hinherit : ∀ i ∈ ids, ∀ d ∈ (strata.stratum i).dependsOn, ∀ fault,
      Bad (d, fault) → Bad (i, fault))
    (hfails : ∀ i ∈ ids, ∀ begun, Advances store program strata context.settings workspace begun →
      (∀ d ∈ (strata.stratum i).dependsOn, isPublished strata begun d = true) →
        (ensureStratum program strata context i).Ensures begun (fun _ _ => True)
          fun fault _ => Bad (i, fault)) :
    ∃ found last, (evaluateEach program strata context [] ids).run workspace = (found, last) ∧
      Advances store program strata context.settings workspace last ∧
      (∀ j ∈ ids, Concluded strata last found j) ∧ ∀ entry ∈ found, Bad entry := by
  have hrecord {failures : Failures} {i : Nat} {fault : Fault}
      (hfailures : ∀ entry ∈ failures, Bad entry) (hbad : Bad (i, fault)) :
      ∀ entry ∈ failures ++ [(i, fault)], Bad entry := by
    intro entry hentry
    rcases List.mem_append.1 hentry with hentry | hentry
    · exact hfailures entry hentry
    · rw [List.mem_singleton.1 hentry]
      exact hbad
  -- What is kept up: the workspace advances, what was gone through is concluded, and failures are bad.
  refine evaluateEach_induction
    (fun done failures begun =>
      Advances store program strata context.settings workspace begun ∧
        (∀ j ∈ done, Concluded strata begun failures j) ∧ ∀ entry ∈ failures, Bad entry)
    (fun done i rest failures begun fault hsplit hgood hfound => ?_)
    (fun done i rest failures begun hsplit hgood hnone => ?_) [] ids rfl
    ⟨.refl h, by simp, by simp⟩
  · obtain ⟨hbegun, hconcluded, hbad⟩ := hgood
    obtain ⟨d, hd, hmem⟩ := exists_of_firstFailure? hfound
    exact ⟨hbegun, concluded_append hconcluded,
      hrecord hbad (hinherit i (by simp [hsplit]) d hd fault (hbad _ hmem))⟩
  · obtain ⟨hbegun, hconcluded, hbad⟩ := hgood
    have hi : i ∈ ids := by simp [hsplit]
    have hlower := isPublished_of_firstFailure?
      (fun d hd => hconcluded d (hscheduled done i rest hsplit d hd)) hnone
    refine ((ensures_ensureStratum hbegun.upholds haccepted hcontext (hids i hi).1 (hids i hi).2
      hlower).and (hfails i hi begun hbegun hlower)).mono (fun _ last hlast => ?_)
      fun fault last hlast => ?_
    · obtain ⟨⟨hadvances, hpublished⟩, -⟩ := hlast
      refine ⟨hbegun.trans hadvances, fun j hj => ?_, hbad⟩
      rcases List.mem_append.1 hj with hj | hj
      · exact (hconcluded j hj).imp hadvances.isPublished_stratum id
      · rw [List.mem_singleton.1 hj]
        exact Or.inl hpublished
    · obtain ⟨⟨hadvances, -⟩, hfault⟩ := hlast
      exact ⟨hbegun.trans hadvances, concluded_append fun j hj =>
        (hconcluded j hj).imp hadvances.isPublished_stratum id, hrecord hbad hfault⟩

/-- Evaluating strata concludes each of them, and what stops evaluations is all that makes them
fail. -/
theorem evaluateStrata_spec (h : workspace.Upholds store program strata)
    (haccepted : Accepted store program strata) (hcontext : context.entities = store.entities)
    (hscheduled : strata.Scheduled ids)
    (hids : ∀ i ∈ ids, i < strata.strata.length ∧ strata.Clean store program i) :
    ∃ found last, (evaluateStrata program strata context ids).run workspace = (found, last) ∧
      Advances store program strata context.settings workspace last ∧
      (∀ i ∈ ids, Concluded strata last found i) ∧ ∀ entry ∈ found, context.Stops entry.2 := by
  rw [run_evaluateStrata]
  refine evaluateEach_spec (fun entry => context.Stops entry.2) h haccepted hcontext hscheduled
    hids (fun _ _ _ _ _ => id) fun i hi begun hbegun hlower => ?_
  exact (ensures_ensureStratum hbegun.upholds haccepted hcontext (hids i hi).1 (hids i hi).2
    hlower).mono (fun _ _ _ => trivial) fun _ _ hfault => hfault.2

/-- Having strata finished succeeds unless something interrupts it. -/
theorem ensures_materialize (h : workspace.Upholds store program strata)
    (haccepted : Accepted store program strata) (hcontext : context.entities = store.entities)
    (hscheduled : strata.Scheduled ids)
    (hids : ∀ i ∈ ids, i < strata.strata.length ∧ strata.Clean store program i) :
    (materialize program strata context ids).Ensures workspace
      (fun _ after => Advances store program strata context.settings workspace after ∧
        ∀ i ∈ ids, isPublished strata after i = true)
      fun fault after => Advances store program strata context.settings workspace after ∧
        context.Stops fault := by
  obtain ⟨found, last, hrun, hadvances, hconcluded, hfaults⟩ :=
    evaluateStrata_spec h haccepted hcontext hscheduled hids
  unfold materialize
  rw [ensures_bind, ensures_state, hrun]
  dsimp only
  split
  next fault hfailure =>
    exact ⟨hadvances, stops_of_firstFailure? hfaults hfailure⟩
  next hnone => exact ⟨hadvances, isPublished_of_firstFailure? hconcluded hnone⟩

end Session

end Stratalog
