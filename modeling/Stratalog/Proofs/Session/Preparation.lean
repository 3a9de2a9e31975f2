import Stratalog.Pattern.Engine
import Stratalog.Proofs.Dependency.Reading
import Stratalog.Proofs.Session.Ledger

/-!
# Which queries can be prepared

A query can be prepared when it passes its own check and no derived predicate it needs has a fault:
each passes its check, and none is caught in a cycle. What a session did before makes no difference,
for no operation changes what is known of the program.
-/

namespace Stratalog

variable {store : FactStore} {program : Program} {settings : Settings}

/-- Names without repeats are accepted. -/
theorem Program.checkNames_of_nodup (hpredicates : (program.predicates.map Predicate.name).Nodup)
    (hqueries : (program.queries.map Query.name).Nodup) : program.checkNames = .ok () := by
  have hnone {names : List String} (h : names.Nodup) : firstRepeat? [] names = none :=
    (firstRepeat?_eq_none_iff [] names).2 ⟨h, fun _ _ => List.not_mem_nil⟩
  rw [checkNames, hnone hpredicates]
  dsimp only
  rw [hnone hqueries]

namespace Session

open Evaluation

variable {session next later : Session} {query : Query}

theorem knows_perform {α : Type} (session : Session) (evaluation : Eval α) :
    session.Knows (session.perform evaluation).2 :=
  ⟨rfl, rfl, rfl, rfl⟩

theorem knows_run [PatternEngine] (session : Session) (query : Query) : session.Knows
    (session.run query).2 := by
  unfold run
  split <;> exact ⟨rfl, rfl, rfl, rfl⟩

theorem knows_answer [PatternEngine] (session : Session) (failures : Failures) (query : Query) :
    session.Knows (session.answer failures query).2 := by
  unfold answer
  cases session.prepare query with
  | error fault => exact ⟨rfl, rfl, rfl, rfl⟩
  | ok prepared =>
    dsimp only
    cases firstFailure? failures prepared.strata <;> exact ⟨rfl, rfl, rfl, rfl⟩

theorem knows_answerAll [PatternEngine] (session : Session) (failures : Failures) (queries : List Query) :
    session.Knows (answerAll failures session queries).2 := by
  induction queries generalizing session with
  | nil => exact .refl session
  | cons query rest ih => exact (session.knows_answer failures query).trans (ih _)

/-- No operation changes what a session knows. -/
theorem Operates.knows [PatternEngine] (h : session.Operates next) : session.Knows next := by
  cases h with
  | execute _ => exact session.knows_perform _
  | run query => exact session.knows_run query
  | runNamed name =>
    unfold Session.runNamed
    split
    · exact session.knows_run _
    · exact .refl session
  | runAll => exact Knows.trans ⟨rfl, rfl, rfl, rfl⟩ (knows_answerAll _ _ _)
  | relation name =>
    unfold Session.relation
    split
    · exact session.knows_perform _
    · exact .refl session
  | cancel => exact ⟨rfl, rfl, rfl, rfl⟩

/-- No operations change what a session knows. -/
theorem Leads.knows [PatternEngine] (h : session.Leads later) : session.Knows later := by
  induction h with
  | refl => exact .refl session
  | tail _ hop ih => exact ih.trans hop.knows

/-- A query is prepared exactly when it and its strata pass their checks. -/
theorem exists_prepare_iff [PatternEngine] : (∃ prepared, session.prepare query = .ok prepared) ↔
    (∃ schema, Typing.checkQuery session.catalog query = .ok schema) ∧
      session.checkStrata (session.strata.required query.reads) = .ok () := by
  constructor
  · rintro ⟨prepared, h⟩
    obtain ⟨-, hschema, hstrata, hcheck⟩ := prepare_eq_ok h
    exact ⟨⟨_, hschema⟩, hstrata ▸ hcheck⟩
  · rintro ⟨⟨schema, hschema⟩, hcheck⟩
    exact ⟨⟨query, schema, _⟩, bind_eq_ok.2 ⟨schema, hschema, check_bind_eq_ok.2 ⟨hcheck, rfl⟩⟩⟩

/-- The strata that a query requires pass their check exactly when each predicate it needs passes its
own and is not caught in a cycle. -/
theorem checkStrata_required_iff [PatternEngine]
    (hnodup : (session.program.predicates.map Predicate.name).Nodup)
    (hstrata : session.strata = Stratification.ofPredicates session.program.predicates)
    (hfaults : session.faults = predicateFaults session.store session.program) :
    session.checkStrata (session.strata.required query.reads) = .ok () ↔
      ∀ predicate ∈ session.program.predicates,
        query.Needs session.program.predicates predicate.name →
          Typing.checkPredicate session.store session.catalog predicate = .ok () ∧
            ¬CaughtInCycle session.program.predicates predicate.name := by
  have hfaultless {predicate : Predicate} (hmem : predicate ∈ session.program.predicates) :
      session.faultOf? predicate.name = none ↔
        Typing.checkPredicate session.store session.catalog predicate = .ok () ∧
          ¬CaughtInCycle session.program.predicates predicate.name := by
    rw [faultOf?_eq_none_iff hfaults, hstrata,
      Stratification.faultOf?_eq_none_iff hnodup (List.mem_map_of_mem hmem), and_comm]
    refine and_congr_left fun _ => ⟨fun h => h predicate hmem rfl, fun h other hother hname => ?_⟩
    rw [List.inj_on_of_nodup_map hnodup hother hmem hname]
    exact h
  rw [checkStrata_eq_ok_iff, hstrata]
  have hsound := Stratification.sound_ofPredicates hnodup
  constructor
  · intro h predicate hmem hneeds
    obtain ⟨i, -, hin⟩ := hsound.covers predicate.name (List.mem_map_of_mem hmem)
    have hi := (Stratification.mem_required_iff hnodup).2 ⟨predicate.name, hin, hneeds⟩
    exact (hfaultless hmem).1 (h i hi predicate.name hin)
  · intro h i hi name hname
    obtain ⟨needed, hin, hneeds⟩ := (Stratification.mem_required_iff hnodup).1 hi
    have hlt := (hsound.required_spec query.reads).1 i hi
    obtain ⟨predicate, hmem, rfl⟩ := List.mem_map.1 (hsound.member i hlt name hname)
    have htogether := (hsound.mem_iff_together hlt hin hmem).1 hname
    exact (hfaultless hmem).2 (h predicate hmem (hneeds.dependsOn htogether.1))

/-- A program without repeated names opens a session, and whatever operations follow, a query is
prepared exactly when it passes its check and each derived predicate it needs passes its own and is not
caught in a cycle. The strata it is given are those of the predicates it needs, each once. -/
theorem prepares_clean_queries [PatternEngine] (store : FactStore) (program : Program) (settings : Settings)
    (hpredicates : (program.predicates.map Predicate.name).Nodup)
    (hqueries : (program.queries.map Query.name).Nodup) :
    ∃ opened, Session.start store program settings = .ok opened ∧
      ∀ (observe : Nat → Observation) (session : Session),
        ({ opened with observe } : Session).Leads session → ∀ query : Query,
          ((∃ prepared, session.prepare query = .ok prepared) ↔
            (∃ schema, Typing.checkQuery (Catalog.of store program.predicates) query = .ok schema) ∧
              ∀ predicate ∈ program.predicates, query.Needs program.predicates predicate.name →
                Typing.checkPredicate store (Catalog.of store program.predicates) predicate = .ok () ∧
                  ¬CaughtInCycle program.predicates predicate.name) ∧
          ∀ prepared, session.prepare query = .ok prepared → prepared.strata.Nodup ∧
            ∀ i, i ∈ prepared.strata ↔
              ∃ name ∈ ((Stratification.ofPredicates program.predicates).stratum i).predicates,
                query.Needs program.predicates name := by
  refine ⟨_, check_bind_eq_ok.2 ⟨Program.checkNames_of_nodup hpredicates hqueries, rfl⟩,
    fun observe session hleads query => ?_⟩
  rw [hleads.knows.prepare_eq query]
  refine ⟨?_, fun prepared hprepare => ?_⟩
  · rw [exists_prepare_iff, checkStrata_required_iff hpredicates rfl rfl]
    rfl
  · obtain ⟨-, -, hstrata, -⟩ := prepare_eq_ok hprepare
    rw [hstrata]
    exact ⟨Stratification.nodup_required _ _, fun i => Stratification.mem_required_iff hpredicates⟩

/-- Nodes with a step that are not in it. -/
def liar : Predicate where
  name := "liar"
  columns := [⟨"node", .int⟩]
  rules := [⟨[.var "x"], [.atom ⟨"edge", [.var "x", .wildcard]⟩, .negated ⟨"liar", [.var "x"]⟩]⟩]

/-- How many liars there are. -/
def liars : Predicate where
  name := "liars"
  columns := [⟨"number", .int⟩]
  rules := [⟨[.var "n"], [.aggregate "n" .count none [] [.atom ⟨"liar", [.var "x"]⟩]]⟩]

/-- The number of liars. -/
def counted : Query where
  name := "counted"
  body := [.atom ⟨"liars", [.var "n"]⟩]
  select := [⟨"number", .var "n"⟩]

/-- Next to the liars the paths are found as ever: once they were asked for, the query for them is
prepared with their stratum, and the query that counts the liars is not prepared. -/
theorem prepares_clean_queries_liars : ∃ opened, Session.start FactStore.steps
    { predicates := [paths, liar, liars], queries := [reached, counted] } {} = .ok opened ∧
      (∃ prepared, (opened.run reached).2.prepare reached = .ok prepared ∧ 0 ∈ prepared.strata) ∧
        ¬∃ prepared, (opened.run reached).2.prepare counted = .ok prepared := by
  obtain ⟨opened, hstart, hprepares⟩ := prepares_clean_queries FactStore.steps
    { predicates := [paths, liar, liars], queries := [reached, counted] } {} (by decide) (by decide)
  have hleads : ({ opened with observe := opened.observe } : Session).Leads (opened.run reached).2 :=
    .single (.run opened reached)
  obtain ⟨-, hstrata⟩ := hprepares _ _ hleads reached
  obtain ⟨hcounted, -⟩ := hprepares _ _ hleads counted
  refine ⟨opened, hstart, ?_, fun hprepared => ?_⟩
  · have hok : ((opened.run reached).2.prepare reached).isOk = true := by
      cases hstart
      decide +kernel
    obtain ⟨prepared, hprepare⟩ := isOk_iff.1 hok
    refine ⟨prepared, hprepare, ((hstrata prepared hprepare).2 0).2 ⟨"path", by decide +kernel, ?_⟩⟩
    exact .body List.mem_cons_self List.mem_cons_self (.atom _)
  · have huses : Uses [paths, liar, liars] .negative "liar" "liar" :=
      uses_iff.2 ⟨by decide, liar, by simp, rfl, by decide⟩
    have hcounts : Uses [paths, liar, liars] .aggregate "liars" "liar" :=
      uses_iff.2 ⟨by decide, liars, by simp, rfl, by decide⟩
    have hneeds : counted.Needs [paths, liar, liars] "liar" :=
      .rule (.body (by decide) List.mem_cons_self (.atom _)) hcounts
    obtain ⟨-, hclean⟩ := hcounted.1 hprepared
    exact (hclean liar (by simp) hneeds).2
      ⟨"liar", "liar", .negative, .refl, huses, by decide, .refl⟩

end Session

end Stratalog
