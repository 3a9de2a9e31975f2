import Stratalog.Pattern.Engine
import Stratalog.Proofs.Session.Cancellation
import Stratalog.Proofs.Typing.Faults

/-!
# The ledger of a session

What a session has finished and what it says of it always agree, whatever operations were carried out
and however they ended. A stratum is finished as a whole, above finished strata and without faults; no
relation is replaced; the counters are those of what is finished. Once cancelled, nothing more is.
-/

namespace Stratalog

/-- What stops an evaluation is no internal fault. -/
theorem Context.Stops.not_isInternal {context : Context} {fault : Fault}
    (h : context.Stops fault) : ¬fault.IsInternal := by
  cases fault with
  | resourceExhausted _ => exact id
  | cancelled => exact id
  | _ => exact False.elim h

/-- The fault of a stratum is that it cannot be evaluated. -/
theorem Stratification.exists_unstratifiable {predicates : List Predicate} {name : String}
    {fault : Fault} (h : (ofPredicates predicates).faultOf? name = some fault) :
    ∃ predicate via cycle, fault = .unstratifiable predicate via cycle := by
  obtain ⟨entry, hentry, rfl⟩ := Option.map_eq_some_iff.1 h
  have hmem := List.mem_reverse.1 (List.mem_of_find?_eq_some hentry)
  obtain ⟨members, -, hmem⟩ := List.mem_flatMap.1 hmem
  unfold DependencyGraph.componentFaults at hmem
  split at hmem
  · cases hmem
  · obtain ⟨v, -, rfl⟩ := List.mem_map.1 hmem
    exact ⟨_, _, _, rfl⟩

namespace Session

/-- One operation leads from a session to another. -/
inductive Operates [PatternEngine] : Session → Session → Prop where
  | execute {session : Session} {query : Query} {prepared : PreparedQuery} :
      session.prepare query = .ok prepared → Operates session (session.execute prepared).2
  | run (session : Session) (query : Query) : Operates session (session.run query).2
  | runNamed (session : Session) (name : String) : Operates session (session.runNamed name).2
  | runAll (session : Session) : Operates session session.runAll.2
  | relation (session : Session) (name : String) : Operates session (session.relation name).2
  | cancel (session : Session) : Operates session session.cancel

/-- Any number of operations lead from a session to another. -/
abbrev Leads [PatternEngine] : Session → Session → Prop :=
  Relation.ReflTransGen Operates

/-- What the operations of a session say to a query. -/
inductive Responds [PatternEngine] (session : Session) : Query → Except Fault ResultSet → Prop where
  | execute {query : Query} {prepared : PreparedQuery} :
      session.prepare query = .ok prepared → Responds session query (session.execute prepared).1
  | run (query : Query) : Responds session query (session.run query).1
  | runNamed {query : Query} {name : String} :
      session.program.query? name = some query → Responds session query (session.runNamed name).1
  | runAll {query : Query} {outcome : QueryOutcome} :
      (query, outcome) ∈ session.program.queries.zip session.runAll.1.outcomes →
        Responds session query outcome.result

/-- The faults that the operations of a session report or record. -/
inductive Complains [PatternEngine] (session : Session) : Fault → Prop where
  | prepare {query : Query} {fault : Fault} :
      session.prepare query = .error fault → Complains session fault
  | response {query : Query} {fault : Fault} :
      session.Responds query (.error fault) → Complains session fault
  | relation {name : String} {fault : Fault} :
      (session.relation name).1 = .error fault → Complains session fault
  | failure {i : Nat} {fault : Fault} :
      (i, fault) ∈ ((evaluateStrata session.program session.strata session.context
        session.neededStrata).run session.workspace).1 → Complains session fault

/-- What a session has finished agrees with itself and with the counters. -/
structure Consistent (session : Session) : Prop where
  whole : ∀ i < session.strata.strata.length,
    (∀ name ∈ (session.strata.stratum i).predicates, session.workspace.isPublished name = true) ∨
      ∀ name ∈ (session.strata.stratum i).predicates, session.workspace.isPublished name = false
  below : ∀ i < session.strata.strata.length,
    isPublished session.strata session.workspace i = true →
      ∀ d ∈ (session.strata.stratum i).dependsOn,
        isPublished session.strata session.workspace d = true
  faultless : ∀ name, session.workspace.isPublished name = true → session.faultOf? name = none
  strataEvaluated : session.counters.strataEvaluated =
    (List.range session.strata.strata.length).countP (isPublished session.strata session.workspace)
  predicatesEvaluated : session.counters.predicatesEvaluated = session.workspace.publishedCount
  tuplesDerived : session.counters.tuplesDerived =
    ((session.workspace.slots.values.filterMap id).map Relation.size).sum

variable {session next later : Session} {store : FactStore} {program : Program}
  {settings : Settings} {query : Query} {fault : Fault} {name : String}

namespace Sound

variable [PatternEngine]

/-- An operation leaves a session sound, and its workspace takes turns. -/
theorem operates (h : session.Sound) (hop : session.Operates next) : next.Sound ∧
    (next.store = session.store ∧ next.program = session.program ∧ next.strata = session.strata ∧
      next.settings = session.settings) ∧
      Workspace.Turns session.store session.program session.strata session.settings session.workspace
        next.workspace := by
  cases hop with
  | execute hprepare =>
    obtain ⟨hsound, ⟨_, hframe, hturns⟩, -, -⟩ := h.gives_execute hprepare
    rw [hframe] at hsound ⊢
    exact ⟨hsound, ⟨rfl, rfl, rfl, rfl⟩, hturns⟩
  | run query =>
    obtain ⟨hsound, ⟨_, hframe, hturns⟩, -, -⟩ := h.gives_run query
    rw [hframe] at hsound ⊢
    exact ⟨hsound, ⟨rfl, rfl, rfl, rfl⟩, hturns⟩
  | runNamed name =>
    obtain ⟨hsound, ⟨_, hframe, hturns⟩, -, -⟩ := h.gives_runNamed name
    rw [hframe] at hsound ⊢
    exact ⟨hsound, ⟨rfl, rfl, rfl, rfl⟩, hturns⟩
  | runAll =>
    obtain ⟨-, hsound, _, hframe, hturns⟩ := h.runAll_spec
    rw [hframe] at hsound ⊢
    exact ⟨hsound, ⟨rfl, rfl, rfl, rfl⟩, hturns⟩
  | relation name =>
    obtain ⟨hsound, ⟨_, hframe, hturns⟩, -, -⟩ := h.gives_relation name
    rw [hframe] at hsound ⊢
    exact ⟨hsound, ⟨rfl, rfl, rfl, rfl⟩, hturns⟩
  | cancel =>
    exact ⟨⟨h.built, h.names, h.strata, h.faults, h.upholds⟩, ⟨rfl, rfl, rfl, rfl⟩, .refl⟩

/-- Operations leave a session sound, and its workspace takes turns. -/
theorem leads (h : session.Sound) (hleads : session.Leads later) : later.Sound ∧
    (later.store = session.store ∧ later.program = session.program ∧
      later.strata = session.strata ∧ later.settings = session.settings) ∧
      Workspace.Turns session.store session.program session.strata session.settings session.workspace
        later.workspace := by
  induction hleads with
  | refl => exact ⟨h, ⟨rfl, rfl, rfl, rfl⟩, .refl⟩
  | tail _ hop ih =>
    obtain ⟨hsound, ⟨hstore, hprogram, hstrata, hsettings⟩, hturns⟩ := ih
    obtain ⟨hlast, ⟨hstore', hprogram', hstrata', hsettings'⟩, hmore⟩ := hsound.operates hop
    rw [hstore, hprogram, hstrata, hsettings] at hmore
    exact ⟨hlast, ⟨hstore'.trans hstore, hprogram'.trans hprogram, hstrata'.trans hstrata,
      hsettings'.trans hsettings⟩, hturns.trans hmore⟩

/-- The fault of a derived predicate is about the program. -/
theorem not_isInternal_of_faultOf? (h : session.Sound) (hfault : session.faultOf? name = some fault) :
    ¬fault.IsInternal := by
  unfold Session.faultOf? at hfault
  split at hfault
  next found hfound =>
    cases hfault
    rw [h.strata] at hfound
    obtain ⟨_, _, _, rfl⟩ := Stratification.exists_unstratifiable hfound
    exact id
  next =>
    rw [h.faults] at hfault
    obtain ⟨before, after, hlist, -⟩ := List.lookup_eq_some_iff.1 hfault
    have hmem : (name, fault) ∈ predicateFaults session.store session.program := by
      rw [hlist]
      exact List.mem_append_right _ List.mem_cons_self
    obtain ⟨predicate, -, hfound⟩ := List.mem_filterMap.1 hmem
    split at hfound
    next found hcheck =>
      cases hfound
      exact Typing.tidy_checkPredicate _ _ _ _ hcheck
    next => cases hfound

/-- The strata pass their check, or the fault is about the program. -/
theorem tidy_checkStrata (h : session.Sound) (ids : List Nat) : Tidy (session.checkStrata ids) := by
  unfold Session.checkStrata
  dsimp only
  split
  next fault hfound =>
    obtain ⟨name, -, hfault⟩ := List.exists_of_findSome?_eq_some hfound
    exact tidy_error (h.not_isInternal_of_faultOf? hfault)
  next => exact tidy_ok ()

/-- A query is prepared, or the fault is about the program. -/
theorem tidy_prepare (h : session.Sound) (query : Query) : Tidy (session.prepare query) := by
  unfold Session.prepare
  exact (Typing.tidy_checkQuery _ _).bind fun _ => (h.tidy_checkStrata _).bind fun _ => tidy_ok _

/-- A fault that excuses a query is no internal one. -/
theorem not_isInternal_of_excuses (h : session.Sound) (hexcuses : session.Excuses query fault) :
    ¬fault.IsInternal :=
  hexcuses.elim Context.Stops.not_isInternal (h.tidy_prepare query fault)

/-- No operation reports or records an internal fault. -/
theorem not_isInternal_of_complains (h : session.Sound) (hcomplains : session.Complains fault) :
    ¬fault.IsInternal := by
  cases hcomplains with
  | @prepare query _ hprepare => exact h.tidy_prepare query fault hprepare
  | response hresponds =>
    generalize houtcome : (Except.error fault : Except Fault ResultSet) = outcome at hresponds
    cases hresponds with
    | execute hprepare =>
      exact ((h.gives_execute hprepare).failed fault houtcome.symm).not_isInternal
    | run =>
      exact h.not_isInternal_of_excuses ((h.gives_run _).failed fault houtcome.symm)
    | @runNamed name hquery =>
      rcases (h.gives_runNamed name).failed fault houtcome.symm with ⟨hnone, -⟩ | ⟨other, -, hother⟩
      · rw [hquery] at hnone
        cases hnone
      · exact h.not_isInternal_of_excuses hother
    | runAll hmem =>
      have hreports := (List.forall₂_iff_zip.1 h.runAll_spec.1).2 hmem
      exact h.not_isInternal_of_excuses (hreports.failed fault houtcome.symm)
  | @relation name _ hrelation =>
    rcases (h.gives_relation name).failed fault hrelation with
      hstops | hcheck | ⟨-, -, rfl⟩
    · exact hstops.not_isInternal
    · exact h.tidy_checkStrata _ fault hcheck
    · exact id
  | @failure i _ hmem =>
    exact ((h.covers_neededStrata rfl).2.2 (i, fault) hmem).not_isInternal

/-- A sound session whose books are balanced is consistent. -/
theorem consistent (h : session.Sound)
    (hbalanced : session.workspace.Balanced session.store session.program session.strata) :
    session.Consistent := by
  obtain ⟨-, hnodup, hsound⟩ := h.accepted
  have htally := hbalanced.tally
  simp only [Workspace.tally, Counters.tally, Prod.mk.injEq] at htally
  refine ⟨fun i hi => ?_, hbalanced.below, fun name hname => ?_, htally.1, ?_, ?_⟩
  · by_cases hpublished : isPublished session.strata session.workspace i = true
    · exact Or.inl (List.all_eq_true.1 hpublished)
    · refine Or.inr fun name hname => ?_
      by_contra hsome
      exact hpublished (h.upholds.whole i hi name hname (by simpa using hsome))
  · obtain ⟨relation, hrelation⟩ := Workspace.isPublished_iff.1 hname
    obtain ⟨predicate, hmem, rfl, -⟩ := h.upholds.serves.fit name relation hrelation
    obtain ⟨i, hi, hin⟩ := hsound.covers predicate.name (List.mem_map_of_mem hmem)
    exact (faultOf?_eq_none_iff h.faults).2
      (hbalanced.clean i hi (h.upholds.whole i hi predicate.name hin hname) predicate.name hin)
  · rw [counters, htally.2.1, h.upholds.serves.publishedCount_eq hnodup]
  · rw [counters, htally.2.2, h.upholds.serves.sum_values_eq hnodup]

end Sound

namespace IsCancelled

/-- A session that was cancelled is. -/
theorem cancel (session : Session) : session.cancel.IsCancelled :=
  fun _ _ => rfl

variable [PatternEngine]

/-- An operation of a cancelled session leaves it cancelled, and publishes nothing. -/
theorem operates (h : session.IsCancelled) (hop : session.Operates next) :
    next.IsCancelled ∧ ∀ name, next.workspace.published? name = session.workspace.published? name := by
  have hstays (hidles : session.Idles next) : next.IsCancelled ∧
      ∀ name, next.workspace.published? name = session.workspace.published? name := by
    refine ⟨hidles.isCancelled h, ?_⟩
    obtain ⟨workspace, hworkspace, rfl⟩ := hidles
    exact hworkspace.published?_eq
  cases hop with
  | execute _ => exact hstays (h.execute _).1
  | run query => exact hstays (h.run query).1
  | runNamed name => exact hstays (h.runNamed name)
  | runAll => exact hstays h.runAll.1
  | relation name => exact hstays (h.relation name)
  | cancel => exact ⟨cancel session, fun _ => rfl⟩

/-- Operations of a cancelled session leave it cancelled, and publish nothing. -/
theorem leads (h : session.IsCancelled) (hleads : session.Leads later) :
    later.IsCancelled ∧ ∀ name, later.workspace.published? name = session.workspace.published? name := by
  induction hleads with
  | refl => exact ⟨h, fun _ => rfl⟩
  | tail _ hop ih =>
    obtain ⟨hcancelled, hsame⟩ := ih.1.operates hop
    exact ⟨hcancelled, fun name => (hsame name).trans (ih.2 name)⟩

/-- Whatever operation is asked to answer a query that can be prepared, it is cancelled. -/
theorem eq_cancelled_of_responds (h : session.IsCancelled) {prepared : PreparedQuery}
    (hprepare : session.prepare query = .ok prepared) {outcome : Except Fault ResultSet}
    (hresponds : session.Responds query outcome) : outcome = .error .cancelled := by
  cases hresponds with
  | execute _ => exact (h.execute _).2
  | run => exact (h.run query).2 prepared hprepare
  | runNamed hquery =>
    unfold Session.runNamed
    rw [hquery]
    exact (h.run query).2 prepared hprepare
  | runAll hmem => exact (List.forall₂_iff_zip.1 h.runAll.2).2 hmem prepared hprepare

end IsCancelled

namespace Reachable

variable [PatternEngine]

/-- Every session that operations lead to keeps its settings, and its workspace comes in turns from the
one it was opened with. -/
theorem turns (h : Reachable store program settings session) (hstore : store.Built) :
    session.settings = settings ∧
      Workspace.Turns store program session.strata settings
        { base := store.relations
          slots := emptySlots (program.predicates.map Predicate.name) } session.workspace := by
  have hstep {session next : Session} (h : Reachable store program settings session)
      (hop : session.Operates next) (ih : session.settings = settings ∧
        Workspace.Turns store program session.strata settings
          { base := store.relations
            slots := emptySlots (program.predicates.map Predicate.name) } session.workspace) :
      next.settings = settings ∧ Workspace.Turns store program next.strata settings
        { base := store.relations
          slots := emptySlots (program.predicates.map Predicate.name) } next.workspace := by
    obtain ⟨hsound, rfl, rfl⟩ := h.spec hstore
    obtain ⟨rfl, hbefore⟩ := ih
    obtain ⟨-, ⟨-, -, hstrata, hsettings⟩, hturns⟩ := hsound.operates hop
    rw [hstrata]
    exact ⟨hsettings, hbefore.trans hturns⟩
  induction h with
  | start observe hstart =>
    obtain ⟨_, -, heq⟩ := bind_eq_ok.1 hstart
    cases heq
    exact ⟨rfl, .refl⟩
  | execute h hprepare ih => exact hstep h (.execute hprepare) ih
  | run query h ih => exact hstep h (.run _ query) ih
  | runNamed name h ih => exact hstep h (.runNamed _ name) ih
  | runAll h ih => exact hstep h (.runAll _) ih
  | relation name h ih => exact hstep h (.relation _ name) ih
  | cancel h ih => exact hstep h (.cancel _) ih

/-- The books of every session that operations lead to are balanced. -/
theorem balanced (h : Reachable store program settings session) (hstore : store.Built) :
    session.workspace.Balanced session.store session.program session.strata := by
  obtain ⟨-, hturns⟩ := h.turns hstore
  obtain ⟨hsound, rfl, rfl⟩ := h.spec hstore
  obtain ⟨-, hnodup, hstrataSound⟩ := hsound.accepted
  have hopened : Workspace.Balanced
      { base := session.store.relations
        slots := emptySlots (session.program.predicates.map Predicate.name) }
      session.store session.program session.strata :=
    .start hstrataSound (fun name hname => (getElem?_emptySlots hnodup none).2 ⟨hname, rfl⟩) rfl
  exact hopened.turns hnodup hstrataSound hturns

/-- In every session that operations lead to, what is finished is consistent, operations keep each
finished relation but for its indices, and no fault that is reported or recorded says that a predicate
was evaluated twice. Once a session is cancelled, no further operation finishes anything, and every
query that can be prepared is cancelled. -/
theorem keeps_books (h : Reachable store program settings session) (hstore : store.Built) :
    session.Consistent ∧
    (∀ later, session.Leads later → ∀ name relation,
      session.workspace.published? name = some relation →
        ∃ held, later.workspace.published? name = some held ∧ held.bare = relation.bare) ∧
    (∀ fault, session.Complains fault → ∀ name, fault ≠ .invalidPlan (.evaluatedTwice name)) ∧
    session.cancel.IsCancelled ∧
    (session.IsCancelled → ∀ later, session.Leads later →
      (∀ name, later.workspace.published? name = session.workspace.published? name) ∧
        ∀ query prepared outcome, later.prepare query = .ok prepared →
          later.Responds query outcome → outcome = .error .cancelled) := by
  obtain ⟨hsound, -, -⟩ := h.spec hstore
  refine ⟨hsound.consistent (h.balanced hstore), fun later hleads name relation hrelation => ?_,
    fun fault hcomplains name heq => ?_, IsCancelled.cancel session,
    fun hcancelled later hleads => ?_⟩
  · obtain ⟨-, -, hturns⟩ := hsound.leads hleads
    exact hturns.keeps hrelation
  · exact hsound.not_isInternal_of_complains hcomplains (heq ▸ trivial)
  · obtain ⟨hlater, hsame⟩ := hcancelled.leads hleads
    exact ⟨hsame, fun query prepared outcome hprepare hresponds =>
      hlater.eq_cancelled_of_responds hprepare hresponds⟩

end Reachable

/-- A batch finishes the paths and counts them. They stay as they are from then on, and after the session
is cancelled the query for them, which still can be prepared, is cancelled. -/
theorem keeps_books_paths : pathSession.runAll.2.Consistent ∧
    pathSession.runAll.2.counters.tally = (1, 1, 3) ∧
      (∃ relation, pathSession.runAll.2.workspace.published? "path" = some relation ∧
        ∀ later, pathSession.runAll.2.Leads later →
          ∃ held, later.workspace.published? "path" = some held ∧ held.bare = relation.bare) ∧
        (pathSession.runAll.2.cancel.prepare reached).isOk = true ∧
          (pathSession.runAll.2.cancel.run reached).1 = .error .cancelled := by
  have hpublished : (pathSession.runAll.2.workspace.published? "path").isSome = true := by
    decide +kernel
  have hprepared : (pathSession.runAll.2.cancel.prepare reached).isOk = true := by decide +kernel
  obtain ⟨hconsistent, hkeeps, -⟩ :=
    reachable_pathSession.runAll.keeps_books FactStore.built_steps
  obtain ⟨-, -, -, -, hcancelled⟩ :=
    reachable_pathSession.runAll.cancel.keeps_books FactStore.built_steps
  obtain ⟨relation, hrelation⟩ := Option.isSome_iff_exists.1 hpublished
  obtain ⟨prepared, hprepare⟩ := isOk_iff.1 hprepared
  refine ⟨hconsistent, by decide +kernel, ⟨relation, hrelation, fun later hleads =>
    hkeeps later hleads "path" relation hrelation⟩, hprepared, ?_⟩
  exact (hcancelled (IsCancelled.cancel _) _ .refl).2 reached prepared _ hprepare (.run reached)

end Session

end Stratalog
