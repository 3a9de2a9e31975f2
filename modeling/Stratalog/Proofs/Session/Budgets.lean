import Stratalog.Pattern.Engine
import Stratalog.Proofs.Session.Agreement
import Stratalog.Proofs.Session.Isolation

/-!
# Budgets

A budget decides whether there is an answer, and has no part in what the answer is. A fresh session that
answers a query within some budget answers it within every larger one, with the same result, and each
stratum that it evaluates takes as many rounds. Within a smaller budget the query has this answer or
uses up the budget.

Budgets do bind. No finished relation and no result is larger than allowed, and no stratum that is
finished took more rounds than allowed, but for the first.
-/

namespace Stratalog

open Evaluation Eval

namespace Session

/-- A stratum that is evaluated when a query is run, with the rounds that it takes. -/
inductive TakesRounds [PatternEngine] (session : Session) (query : Query) : Nat → Nat → Prop
  | intro {before after : List Nat} {i : Nat} {prepared : PreparedQuery}
      {entered begun reached last : Workspace} {failures : Failures} {result : StratumResult}
      (hprepare : session.prepare query = .ok prepared)
      (hstrata : prepared.strata = before ++ i :: after)
      (hpass : session.context.pass.run.run session.workspace = (.ok (), entered))
      (hbefore : (evaluateEach session.program session.strata session.context [] before).run
        entered = (failures, begun))
      (hnone : firstFailure? failures (session.strata.stratum i).dependsOn = none)
      (hnot : isPublished session.strata begun i = false)
      (hpasses : session.context.pass.run.run begun = (.ok (), reached))
      (hrun : (publishStratum session.program session.context
        (session.strata.stratum i)).run.run reached = (.ok result, last)) :
      TakesRounds session query i result.rounds

variable {session first second : Session} {store : FactStore} {program : Program}
  {settings settings' : Settings} {context : Context} {strata : Stratification}
  {query : Query} {prepared : PreparedQuery} {answer : ResultSet} {result : StratumResult}
  {workspace last : Workspace} {i rounds : Nat}

/-- A stratum that is evaluated with a result finishes with it. -/
theorem Sound.finishes_of_evaluates [PatternEngine] (h : session.Sound)
    (hgrounded : session.workspace.Grounded session.store session.program session.strata
      session.settings) (hstratum : session.EvaluatesStratum i workspace)
    (hrun : (publishStratum session.program session.context
      (session.strata.stratum i)).run.run workspace = (.ok result, last)) :
    Finishes session.store session.program session.strata session.settings i result := by
  obtain ⟨hadvances, ⟨hi, -⟩, hnot, hlower⟩ := h.evaluatesStratum_spec hstratum
  obtain ⟨-, -, hsound⟩ := id h.accepted
  obtain ⟨results, hrests, hresults⟩ := (hgrounded.turns h.accepted hadvances.turns).exists_restsOn
    hadvances.upholds fun d hd => ⟨(hsound.below i hi d hd).1.trans hi, hlower d hd⟩
  have hempty : ∀ name ∈ (session.strata.stratum i).predicates,
      workspace.slots[name]? = some none := fun name hname =>
    hadvances.upholds.slot_eq_none hsound hi (Bool.eq_false_iff.1 hnot) hname
  unfold publishStratum at hrun
  obtain ⟨found, grown, hevaluate, hpublish⟩ := run_bind_eq_ok.1 hrun
  obtain ⟨_, _, _, hlast⟩ := run_bind_eq_ok.1 hpublish
  cases hlast
  exact .intro rfl rfl hrests hempty hresults hevaluate

/-- A stratum that was not finished is evaluated where it is ensured. -/
theorem exists_publishStratum_of_ensureStratum [PatternEngine]
    (hnot : isPublished strata workspace i = false)
    (hrun : (ensureStratum program strata context i).run.run workspace = (.ok (), last)) :
    ∃ reached result published, context.pass.run.run workspace = (.ok (), reached) ∧
      (publishStratum program context (strata.stratum i)).run.run reached =
        (.ok result, published) := by
  unfold ensureStratum at hrun
  obtain ⟨begun, _, hget, hrun⟩ := run_bind_eq_ok.1 hrun
  cases hget
  rw [hnot] at hrun
  obtain ⟨_, reached, hpass, hrun⟩ := run_bind_eq_ok.1 hrun
  obtain ⟨result, published, hpublish, -⟩ := run_bind_eq_ok.1 hrun
  exact ⟨reached, result, published, hpass, hpublish⟩

namespace TakesRounds

/-- What takes rounds is among the strata that a session evaluates. -/
theorem exists_evaluates [PatternEngine] (h : session.TakesRounds query i rounds)
    (hprepare : session.prepare query = .ok prepared) :
    i ∈ prepared.strata ∧ ∃ reached result last, session.EvaluatesStratum i reached ∧
      (publishStratum session.program session.context
        (session.strata.stratum i)).run.run reached = (.ok result, last) ∧
        result.rounds = rounds := by
  cases h with
  | @intro before after _ found entered _ reached last _ result hfound hstrata hpass hbefore hnone hnot
      hpasses hrun =>
    rw [hprepare] at hfound
    cases hfound
    have hthrough : session.GoesThrough prepared.strata entered := .execute hprepare hpass
    refine ⟨by simp [hstrata], reached, result, last, ?_, hrun, rfl⟩
    exact .intro (hstrata ▸ hthrough) hbefore hnone hnot hpasses

end TakesRounds

namespace Fresh

variable [PatternEngine]

/-- Nothing is finished in a fresh session. -/
theorem isPublished_eq_false (h : Fresh store program settings session) (hsound : session.Sound)
    (hi : i < session.strata.strata.length) :
    isPublished session.strata session.workspace i = false := by
  cases h with
  | start observe hstart hobserve =>
    obtain ⟨_, -, heq⟩ := bind_eq_ok.1 hstart
    cases heq
    obtain ⟨-, hnodup, hstrata⟩ := hsound.accepted
    refine Bool.eq_false_iff.2 (Workspace.not_isPublished_of_empty hstrata hi fun name hname => ?_)
    exact (getElem?_emptySlots hnodup none).2 ⟨hstrata.member i hi name hname, rfl⟩

/-- A stratum that comes after others is not finished when these were gone through in a fresh session. -/
theorem isPublished_eq_false_of_split (h : Fresh store program settings session)
    (hstore : store.Built) {ids before after : List Nat} {entered begun : Workspace}
    {failures : Failures} (hscheduled : session.strata.Scheduled ids) (honce : ids.Nodup)
    (hids : ∀ j ∈ ids, j < session.strata.strata.length) (hsplit : ids = before ++ i :: after)
    (hkept : session.workspace.Kept entered)
    (hbefore : (evaluateEach session.program session.strata session.context [] before).run
      entered = (failures, begun)) : isPublished session.strata begun i = false := by
  obtain ⟨hsession, rfl, rfl, -⟩ := h.spec hstore
  obtain ⟨-, hnodup, hsound⟩ := id hsession.accepted
  have hi := hids i (by simp [hsplit])
  obtain ⟨horderly, hsame⟩ := (Workspace.Orderly.of_upholds hsession.upholds
    (h.reachable.1.balanced hstore) hsound).surrounds
      ((Workspace.Surrounds.refl hsession.upholds.serves.coherent).kept hkept)
  have hisolates :=
    isolates_goThrough horderly hnodup hsound hids hscheduled honce session.context hsplit
  have hout : i ∉ before := fun hin =>
    (List.nodup_cons.1 (List.nodup_middle.1 (hsplit ▸ honce))).1 (List.mem_append_left _ hin)
  have hothers := hisolates.others i hi hout
  rw [goThrough, hbefore, hsame] at hothers
  exact hothers.trans (h.isPublished_eq_false hsession hi)

/-- A stratum that a query needs and that finishes is evaluated when a fresh session runs the query. -/
theorem exists_takesRounds (h : Fresh store program settings session) (hstore : store.Built)
    (htimeout : settings.timeoutMs = none) (hprepare : session.prepare query = .ok prepared)
    (hmem : i ∈ prepared.strata)
    (hfinishes : Finishes session.store session.program session.strata session.settings i result) :
    ∃ rounds, session.TakesRounds query i rounds := by
  have hundisturbed := h.undisturbed hstore htimeout
  have hself := hundisturbed.allows_self
  obtain ⟨hsession, -, hquiet⟩ := id hundisturbed
  obtain ⟨-, hnodup, hsound⟩ := id hsession.accepted
  obtain ⟨-, -, hrequired, hcheck⟩ := prepare_eq_ok hprepare
  obtain ⟨hscheduled, hids⟩ := hsession.required (hrequired ▸ hcheck)
  have honce := session.strata.nodup_required query.reads
  rw [← hrequired] at hscheduled hids honce
  have hi := (hids i hmem).1
  obtain ⟨before, after, hsplit⟩ := List.append_of_mem hmem
  have hprefix : session.strata.Scheduled before := .of_append (hsplit ▸ hscheduled)
  have hidsBefore : ∀ j ∈ before, j < session.strata.strata.length ∧
      session.strata.Clean session.store session.program j := fun j hj => hids j (by simp [hsplit, hj])
  obtain ⟨_, entered, hpass, -⟩ := (hquiet.ensures_pass session.workspace).exists_ok
  obtain ⟨hkept, hentered⟩ := (ensures_pass_advances hsession.upholds session.context).of_ok hpass
  obtain ⟨failures, begun, hbefore, hbegun, hconcluded, -⟩ := evaluateStrata_spec hentered.upholds
    hsession.accepted (rfl : session.context.entities = session.store.entities) hprefix hidsBefore
  have hnone : firstFailure? failures (session.strata.stratum i).dependsOn = none := by
    refine List.findSome?_eq_none_iff.2 fun d hd => ?_
    obtain ⟨lower, hlower⟩ := hfinishes.of_mem_dependsOn hd
    exact hself.lookup_eq_none hentered hprefix hidsBefore hbefore hlower
      ⟨rfl, (hsound.below i hi d hd).1.trans hi⟩
  rw [run_evaluateStrata] at hbefore
  have hnot := h.isPublished_eq_false_of_split hstore hscheduled honce (fun j hj => (hids j hj).1)
    hsplit hkept hbefore
  have hlower := isPublished_of_firstFailure?
    (fun d hd => hconcluded d (hscheduled before i after hsplit d hd)) hnone
  obtain ⟨_, last, hensure, -⟩ := (hself.ensures_ensureStratum hfinishes ⟨rfl, hi⟩
    (hentered.trans hbegun) hlower).exists_ok
  obtain ⟨reached, result, published, hpasses, hrun⟩ :=
    exists_publishStratum_of_ensureStratum hnot hensure
  exact ⟨result.rounds, .intro hprepare hsplit hpass hbefore hnone hnot hpasses hrun⟩

/-- Of the strata that finish, those that a query needs are evaluated when a fresh session runs it, and
take the rounds in which they finish. -/
theorem takesRounds_iff (h : Fresh store program settings session) (hstore : store.Built)
    (htimeout : settings.timeoutMs = none) (hprepare : session.prepare query = .ok prepared)
    (hfinishes : Finishes session.store session.program session.strata session.settings i result) :
    session.TakesRounds query i rounds ↔ i ∈ prepared.strata ∧ result.rounds = rounds := by
  have hundisturbed := h.undisturbed hstore htimeout
  have hsession := hundisturbed.sound
  have hrounds {rounds : Nat} (htakes : session.TakesRounds query i rounds) :
      i ∈ prepared.strata ∧ result.rounds = rounds := by
    obtain ⟨hmem, reached, result', last, hstratum, hrun, rfl⟩ := htakes.exists_evaluates hprepare
    have hi := (hsession.evaluatesStratum_spec hstratum).2.1.1
    have hfinishes' := hsession.finishes_of_evaluates hundisturbed.grounded hstratum hrun
    exact ⟨hmem, (hfinishes'.outlines_eq (.refl hsession.accepted.nodup hsession.accepted.sound)
      hsession.accepted hsession.accepted ⟨rfl, hi⟩ hfinishes).2⟩
  refine ⟨hrounds, ?_⟩
  rintro ⟨hmem, rfl⟩
  obtain ⟨rounds, htakes⟩ := h.exists_takesRounds hstore htimeout hprepare hmem hfinishes
  exact (hrounds htakes).2 ▸ htakes

/-- Where fresh sessions of the same knowledge both have an answer to a query, what takes some rounds in
one takes as many in the other. -/
theorem takesRounds_of_takesRounds (hfirst : Fresh store program settings first)
    (hsecond : Fresh store program settings' second) (hstore : store.Built)
    (htimeout : settings.timeoutMs = none) (htimeout' : settings'.timeoutMs = none)
    (hknows : first.Knows second) (hprepare : first.prepare query = .ok prepared)
    (hattains : Attains second.store second.program second.strata second.settings prepared answer)
    (htakes : first.TakesRounds query i rounds) : second.TakesRounds query i rounds := by
  have hundisturbed := hfirst.undisturbed hstore htimeout
  have hsound := hundisturbed.sound
  obtain ⟨hmem, reached, result, last, hstratum, hrun, rfl⟩ := htakes.exists_evaluates hprepare
  have hi := (hsound.evaluatesStratum_spec hstratum).2.1.1
  have hfinishes := hsound.finishes_of_evaluates hundisturbed.grounded hstratum hrun
  obtain ⟨result', hfinishes'⟩ := hattains.exists_finishes hmem
  have hprepare' := (hknows.prepare_eq query).trans hprepare
  refine (hsecond.takesRounds_iff hstore htimeout' hprepare' hfinishes').2 ⟨hmem, ?_⟩
  obtain ⟨heqStore, heqProgram, heqStrata, -⟩ := hknows
  rw [heqStore, heqProgram, heqStrata] at hfinishes'
  have haccepted := hsound.accepted
  exact (hfinishes.outlines_eq (.refl haccepted.nodup haccepted.sound) haccepted haccepted ⟨rfl, hi⟩
    hfinishes').2

end Fresh

/-- A session that nothing disturbs answers a query as every session does that knows the same, and whose
budget it covers. -/
theorem Undisturbed.run_eq_ok [PatternEngine] (h : second.Undisturbed) (hfirst : first.Sound)
    (hknows : first.Knows second) (htuples : first.settings.maxTuples ≤ second.settings.maxTuples)
    (hrounds : first.settings.maxRounds ≤ second.settings.maxRounds)
    (hprepare : first.prepare query = .ok prepared)
    (hattains : Attains first.store first.program first.strata first.settings prepared answer) :
    (second.run query).1 = .ok answer := by
  have hallows := h.allows hfirst hknows htuples hrounds
  have hprepared := hfirst.corresponds_self hprepare
  have hprepare' := (hknows.prepare_eq query).trans hprepare
  obtain ⟨hstore, hprogram, -, -⟩ := hknows
  exact hallows.run_eq_ok (hstore ▸ hattains) (hprogram ▸ hprepared) hprepare'

/-- No finished relation is larger than allowed. -/
theorem Sound.size_le [PatternEngine] (h : session.Sound)
    (hgrounded : session.workspace.Grounded session.store session.program session.strata
      session.settings) {name : String} {relation : Relation}
    (hpublished : session.workspace.published? name = some relation) :
    relation.size ≤ session.settings.maxTuples := by
  obtain ⟨-, -, hsound⟩ := id h.accepted
  have hslot := Workspace.published?_eq_some_iff.1 hpublished
  have hname : name ∈ session.program.predicates.map Predicate.name := by
    rw [← h.upholds.serves.slots, Std.TreeMap.contains_eq_isSome_getElem?, hslot]
    rfl
  obtain ⟨i, hi, hin⟩ := hsound.covers name hname
  obtain ⟨result, hfinishes, hheld⟩ := hgrounded i hi
    (h.upholds.whole i hi name hin (Workspace.isPublished_iff.2 ⟨relation, hslot⟩))
  rw [← hfinishes.names h.accepted hi] at hin
  obtain ⟨found, hfound, rfl⟩ := List.mem_map.1 hin
  have houtline := hheld found hfound
  rw [hslot] at houtline
  rw [Relation.size_of_outline (Option.some.inj (Option.some.inj houtline))]
  exact hfinishes.within.1 found hfound

namespace Fresh

/-- What a fresh session answers within some budget is answered within every larger one, with the same
result and in as many rounds. -/
theorem run_eq_ok_of_le [PatternEngine] (hfirst : Fresh store program settings first)
    (hsecond : Fresh store program settings' second) (hstore : store.Built)
    (htimeout : settings.timeoutMs = none) (htimeout' : settings'.timeoutMs = none)
    (htuples : settings.maxTuples ≤ settings'.maxTuples)
    (hrounds : settings.maxRounds ≤ settings'.maxRounds) (hrun : (first.run query).1 = .ok answer) :
    (second.run query).1 = .ok answer ∧
      ∀ i rounds, first.TakesRounds query i rounds ↔ second.TakesRounds query i rounds := by
  have hundisturbed := hfirst.undisturbed hstore htimeout
  have hundisturbed' := hsecond.undisturbed hstore htimeout'
  have hknows := hfirst.knows hsecond hstore
  obtain ⟨hsound, -, -, rfl⟩ := hfirst.spec hstore
  obtain ⟨hsound', -, -, rfl⟩ := hsecond.spec hstore
  obtain ⟨prepared, hprepare, hattains⟩ := hsound.attains_of_returns hundisturbed.grounded (.run hrun)
  have hrun' := hundisturbed'.run_eq_ok hsound hknows htuples hrounds hprepare hattains
  obtain ⟨_, hprepare', hattains'⟩ :=
    hsound'.attains_of_returns hundisturbed'.grounded (.run hrun')
  rw [hknows.prepare_eq, hprepare] at hprepare'
  cases hprepare'
  exact ⟨hrun', fun i rounds =>
    ⟨hfirst.takesRounds_of_takesRounds hsecond hstore htimeout htimeout' hknows hprepare hattains',
      hsecond.takesRounds_of_takesRounds hfirst hstore htimeout' htimeout
        (hsecond.knows hfirst hstore) ((hknows.prepare_eq query).trans hprepare) hattains⟩⟩

/-- What a fresh session answers within some budget is answered within every smaller one, or uses it
up. -/
theorem run_eq_ok_or_exhausted [PatternEngine] (hfirst : Fresh store program settings first)
    (hsecond : Fresh store program settings' second) (hstore : store.Built)
    (htimeout : settings.timeoutMs = none) (htimeout' : settings'.timeoutMs = none)
    (htuples : settings.maxTuples ≤ settings'.maxTuples)
    (hrounds : settings.maxRounds ≤ settings'.maxRounds) (hrun : (second.run query).1 = .ok answer) :
    (first.run query).1 = .ok answer ∨
      (first.run query).1.mapError Fault.kind = .error "ResourceExhausted" := by
  have hundisturbed' := hsecond.undisturbed hstore htimeout'
  have hknows := hfirst.knows hsecond hstore
  have hdetermines := (hfirst.undisturbed hstore htimeout).determines_run query
  obtain ⟨hsound, -, -, rfl⟩ := hfirst.spec hstore
  obtain ⟨hsound', -, -, rfl⟩ := hsecond.spec hstore
  generalize (first.run query).1 = outcome at hdetermines ⊢
  cases hdetermines with
  | refused hrefused =>
    obtain ⟨_, hprepare', -⟩ := hsound'.attains_of_returns hundisturbed'.grounded (.run hrun)
    rw [hknows.prepare_eq, hrefused] at hprepare'
    cases hprepare'
  | answered hprepare hattains =>
    have hsame := hundisturbed'.run_eq_ok hsound hknows htuples hrounds hprepare hattains
    exact Or.inl (hsame.symm.trans hrun)
  | exhausted _ _ hkind => exact Or.inr (congrArg Except.error hkind)

end Fresh

/-- Without a deadline, what a fresh session answers within some budget a fresh session answers within
every larger one, with the same result, and it evaluates the same strata in as many rounds. Conversely,
within the smaller budget there is this answer or the budget is used up. In every session that
operations lead to, each finished relation and each returned result has at most as many rows as allowed,
and each stratum that was evaluated took at most as many rounds as allowed, or one. -/
theorem budgets_only_exhaust [PatternEngine] (hstore : store.Built) :
    (∀ settings settings' first second, Fresh store program settings first →
      Fresh store program settings' second → settings.timeoutMs = none → settings'.timeoutMs = none →
      settings.maxRounds ≤ settings'.maxRounds → settings.maxTuples ≤ settings'.maxTuples →
      ∀ query answer,
        ((first.run query).1 = .ok answer → (second.run query).1 = .ok answer ∧
          ∀ i rounds, first.TakesRounds query i rounds ↔ second.TakesRounds query i rounds) ∧
        ((second.run query).1 = .ok answer → (first.run query).1 = .ok answer ∨
          (first.run query).1.mapError Fault.kind = .error "ResourceExhausted")) ∧
    ∀ settings session, Reachable store program settings session →
      (∀ name relation, session.workspace.published? name = some relation →
        relation.size ≤ settings.maxTuples) ∧
      (∀ query answer, session.Returns query answer → answer.rows.length ≤ settings.maxTuples) ∧
      ∀ i workspace result last, session.EvaluatesStratum i workspace →
        (publishStratum program session.context (session.strata.stratum i)).run.run workspace =
          (.ok result, last) → result.rounds ≤ max 1 settings.maxRounds := by
  refine ⟨fun settings settings' first second hfirst hsecond htimeout htimeout' hrounds htuples query
    answer => ⟨hfirst.run_eq_ok_of_le hsecond hstore htimeout htimeout' htuples hrounds,
      hfirst.run_eq_ok_or_exhausted hsecond hstore htimeout htimeout' htuples hrounds⟩,
    fun settings session h => ?_⟩
  have hgrounded := h.grounded hstore
  have hsettings := (h.turns hstore).1
  obtain ⟨hsound, rfl, rfl⟩ := h.spec hstore
  rw [← hsettings]
  refine ⟨fun name relation => hsound.size_le hgrounded, fun query answer hreturns => ?_,
    fun i workspace result last hstratum hrun => ?_⟩
  · obtain ⟨_, -, hattains⟩ := hsound.attains_of_returns hgrounded hreturns
    exact hattains.length_le
  · exact (hsound.finishes_of_evaluates hgrounded hstratum hrun).within.2

/-- The session of the paths within some number of tuples. -/
def sessionWithin (maxTuples : Nat) : Session :=
  { narrowSession with settings := { maxTuples } }

/-- Three tuples suffice for the paths, and no more rounds are taken where four are allowed. Two tuples
are used up. -/
theorem budgets_only_exhaust_paths : ∃ answer,
    ((sessionWithin 3).run reached).1 = .ok answer ∧ ((sessionWithin 4).run reached).1 = .ok answer ∧
      (∀ i rounds, (sessionWithin 3).TakesRounds reached i rounds ↔
        (sessionWithin 4).TakesRounds reached i rounds) ∧
      ((sessionWithin 2).run reached).1.mapError Fault.kind = .error "ResourceExhausted" ∧
        ∀ relation, ((sessionWithin 3).run reached).2.workspace.published? "path" = some relation →
          relation.size ≤ 3 := by
  have hfresh (maxTuples : Nat) : Fresh FactStore.steps
      { predicates := [paths], queries := [reached, listed] } { maxTuples }
      (sessionWithin maxTuples) := by
    have hstart : Session.start FactStore.steps
        { predicates := [paths], queries := [reached, listed] } { maxTuples } =
          .ok (sessionWithin maxTuples) := rfl
    exact .start (sessionWithin maxTuples).observe hstart fun _ => rfl
  have hok : ((sessionWithin 3).run reached).1.isOk = true := by decide +kernel
  have hnone : ((sessionWithin 2).run reached).1.isOk = false := by decide +kernel
  obtain ⟨answer, hanswer⟩ := isOk_iff.1 hok
  obtain ⟨hdecides, hbinds⟩ := budgets_only_exhaust FactStore.built_steps
  obtain ⟨hlarger, hrounds⟩ := (hdecides _ _ _ _ (hfresh 3) (hfresh 4) rfl rfl le_rfl
    (by decide) reached answer).1 hanswer
  have hsmaller := (hdecides _ _ _ _ (hfresh 2) (hfresh 3) rfl rfl le_rfl (by decide) reached
    answer).2 hanswer
  refine ⟨answer, hanswer, hlarger, hrounds, hsmaller.resolve_left fun hfound => ?_,
    (hbinds _ _ ((hfresh 3).reachable.1.run reached)).1 "path"⟩
  rw [hfound] at hnone
  cases hnone

end Session

end Stratalog
