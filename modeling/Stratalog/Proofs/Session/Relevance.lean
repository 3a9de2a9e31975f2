import Stratalog.Pattern.Engine
import Stratalog.Proofs.Dependency.Shared
import Stratalog.Proofs.Session.Agreement
import Stratalog.Proofs.Typing.Congruence

/-!
# What a query does not read

A query reads some names, and the rules of the predicates among these read others. Predicates of other
names have no part in the query, be they invalid, caught in a cycle, or larger than any budget: a program
may gain or lose them, and any queries, and the query is answered as before.

Both programs share the definitions of the names that are read. So their strata correspond, under other
numbers, and what either session finds is found by the other.
-/

namespace Stratalog

open Evaluation Stratification

/-- The names that a query reads, directly or through the rules of derived predicates. Those of base
relations are among them. -/
inductive Query.Consults (predicates : List Predicate) (query : Query) : String → Prop where
  | body {name : String} {literal : Literal} {polarity : Polarity} :
      literal ∈ query.body → literal.Mentions name polarity → Consults predicates query name
  | rule {name : String} {predicate : Predicate} {rule : Rule} {literal : Literal}
      {polarity : Polarity} :
      Consults predicates query predicate.name → predicate ∈ predicates → rule ∈ predicate.rules →
        literal ∈ rule.body → literal.Mentions name polarity → Consults predicates query name

variable {store : FactStore} {program program' : Program} {predicates predicates' : List Predicate}
  {settings : Settings} {names : Set String} {name : String} {query : Query} {prepared : PreparedQuery}
  {answer : ResultSet}

/-- A query consults what it reads directly. -/
theorem Query.consults_of_mem_reads (hname : name ∈ query.reads) :
    query.Consults predicates name := by
  obtain ⟨⟨_, polarity⟩, hread, rfl⟩ := List.mem_map.1 hname
  obtain ⟨literal, hmem, hmentions⟩ := Literal.exists_mentions_iff.2 hread
  exact .body hmem hmentions

/-- A query consults what the predicates it consults read. -/
theorem Query.consults_of_reads {predicate : Predicate} (hmem : predicate ∈ predicates)
    (hconsults : query.Consults predicates predicate.name) {read : String × Polarity}
    (hread : read ∈ predicate.reads) : query.Consults predicates read.1 := by
  obtain ⟨rule, hrule, hbody⟩ := List.mem_flatMap.1 hread
  obtain ⟨literal, hliteral, hmentions⟩ := Literal.exists_mentions_iff.2 hbody
  exact .rule hconsults hmem hrule hliteral hmentions

/-- Predicates share the names that a query consults with those that are added to them under other
names. -/
theorem Query.shares_of_sublist (hnodup : (predicates'.map Predicate.name).Nodup)
    (hextends : predicates.Sublist predicates')
    (hunread : ∀ predicate ∈ predicates', predicate ∉ predicates →
      ¬query.Consults predicates predicate.name) :
    Shares predicates predicates' {name | query.Consults predicates name} where
  order := ⟨_, hnodup, hextends.map _, .refl _⟩
  mem_iff predicate hconsults := by
    refine ⟨fun hmem => hextends.subset hmem, fun hmem => ?_⟩
    by_contra hadded
    exact hunread predicate hmem hadded hconsults
  closed predicate hmem hconsults read hread := Query.consults_of_reads hmem hconsults hread

namespace Shares

/-- A shared name is known by the same schema. -/
theorem catalog_eq (h : Shares predicates predicates' names) (hname : name ∈ names) :
    Catalog.of store predicates' name = Catalog.of store predicates name := by
  by_cases hderived : name ∈ predicates.map Predicate.name
  · obtain ⟨predicate, hmem, rfl⟩ := List.mem_map.1 hderived
    rw [Catalog.of_derived h.nodup hmem,
      Catalog.of_derived h.symm.nodup ((h.mem_iff predicate hname).1 hmem)]
  · rw [Catalog.of_base hderived, Catalog.of_base (mt (h.symm.derived hname) hderived)]

/-- A shared name stands for the same predicate. -/
theorem predicate?_eq (h : Shares program.predicates program'.predicates names)
    (hname : name ∈ names) : program'.predicate? name = program.predicate? name := by
  refine Option.ext fun predicate => ?_
  rw [Program.predicate?_eq_some_iff h.symm.nodup, Program.predicate?_eq_some_iff h.nodup]
  exact and_congr_left fun heq => (h.mem_iff predicate (heq ▸ hname)).symm

/-- Strata that are shared correspond. -/
theorem correspondence (h : Shares program.predicates program'.predicates names) :
    Correspondence program (ofPredicates program.predicates) program'
      (ofPredicates program'.predicates)
      (SharedStrata program.predicates program'.predicates names) where
  lt hR := hR.1
  lt' hR := hR.2.1
  predicates hR := hR.predicates_eq h
  members {i i'} hR := by
    rw [Program.membersOf, Program.membersOf, hR.predicates_eq h]
    exact List.filterMap_congr fun name hname => h.predicate?_eq (hR.mem h hname).1
  recursive hR := hR.recursive_eq h
  reads {i i'} hR predicate hpredicate read hread := by
    have hsound := sound_ofPredicates h.nodup
    obtain ⟨hmem, hin⟩ := (Program.mem_membersOf h.nodup).1 hpredicate
    have hshared := h.closed predicate hmem (hR.mem h hin).1 read hread
    by_cases hown : read.1 ∈ ((ofPredicates program.predicates).stratum i).predicates
    · exact Or.inl hown
    by_cases hderived : read.1 ∈ program.predicates.map Predicate.name
    · obtain ⟨d, hd, hlt, hlower⟩ := hsound.lower_of_reads hR.1 hmem hin hread hderived hown
      obtain ⟨d', hd', hRd⟩ := hR.exists_of_reads h hin
        ⟨predicate, hmem, rfl, ⟨read.2, hread⟩, hderived⟩ (hlt.trans hR.1) hlower hown
      exact Or.inr (Or.inr ⟨d, hd, d', hd', hRd, hlower⟩)
    · exact Or.inr (Or.inl ⟨hderived, mt (h.symm.derived hshared) hderived⟩)
  lower hR d hd := hR.exists_of_mem_dependsOn h hd
  lower' {i i'} hR d' hd' := by
    obtain ⟨d, hd, hRd⟩ := hR.symm.exists_of_mem_dependsOn h.symm hd'
    exact ⟨d, hd, hRd.symm⟩

/-- A stratum that a query of shared names requires is shared with one that it requires as well. -/
theorem exists_required (h : Shares predicates predicates' names)
    (hquery : ∀ name ∈ query.reads, name ∈ names) {i : Nat}
    (hi : i ∈ (ofPredicates predicates).required query.reads) :
    ∃ i' ∈ (ofPredicates predicates').required query.reads,
      SharedStrata predicates predicates' names i i' := by
  have hlt := ((sound_ofPredicates h.nodup).required_spec query.reads).1 i hi
  obtain ⟨name, hin, hneeds⟩ := (mem_required_iff h.nodup).1 hi
  obtain ⟨hname, hneeds'⟩ := h.needs hquery hneeds
  obtain ⟨i', hR⟩ := SharedStrata.exists_of_mem h hname hlt hin
  exact ⟨i', (mem_required_iff h.symm.nodup).2 ⟨name, (hR.mem h hin).2, hneeds'⟩, hR⟩

end Shares

namespace Session

variable {first second : Session}

/-- Sessions over one store know a shared name by the same schema. -/
theorem catalog_eq_of_shares (h : Shares first.program.predicates second.program.predicates names)
    (hstore : second.store = first.store) (hname : name ∈ names) :
    second.catalog name = first.catalog name := by
  rw [catalog, catalog, hstore]
  exact h.catalog_eq hname

/-- Strata that a query of shared names requires pass their check in one session if they do in the
other. -/
theorem checkStrata_of_shares [PatternEngine]
    (h : Shares first.program.predicates second.program.predicates names)
    (hfirst : first.Sound) (hsecond : second.Sound) (hstore : second.store = first.store)
    (hquery : ∀ name ∈ query.reads, name ∈ names)
    (hcheck : first.checkStrata (first.strata.required query.reads) = .ok ()) :
    second.checkStrata (second.strata.required query.reads) = .ok () := by
  rw [checkStrata_required_iff h.nodup hfirst.strata hfirst.faults] at hcheck
  rw [checkStrata_required_iff h.symm.nodup hsecond.strata hsecond.faults]
  intro predicate hmem hneeds
  obtain ⟨hname, hneeds'⟩ := h.symm.needs hquery hneeds
  have hmem' := (h.mem_iff predicate hname).2 hmem
  obtain ⟨hchecked, hfree⟩ := hcheck predicate hmem' hneeds'
  have hcatalog : ∀ read ∈ predicate.reads, second.catalog read.1 = first.catalog read.1 :=
    fun read hread => catalog_eq_of_shares h hstore (h.closed predicate hmem' hname read hread)
  refine ⟨?_, mt (h.symm.caughtInCycle hname) hfree⟩
  rw [Typing.checkPredicate_congr second.store hcatalog, hstore]
  exact hchecked

/-- A query of shared names that one session prepares is prepared by the other, for strata that
correspond. -/
theorem exists_prepare_of_shares [PatternEngine]
    (h : Shares first.program.predicates second.program.predicates names)
    (hfirst : first.Sound) (hsecond : second.Sound) (hstore : second.store = first.store)
    (hquery : ∀ name ∈ query.reads, name ∈ names) (hprepare : first.prepare query = .ok prepared) :
    ∃ prepared', second.prepare query = .ok prepared' ∧
      prepared.Corresponds prepared' first.program first.strata second.program
        (SharedStrata first.program.predicates second.program.predicates names) := by
  have hcheckQuery : Typing.checkQuery second.catalog query = Typing.checkQuery first.catalog query :=
    Typing.checkQuery_congr fun name hname => catalog_eq_of_shares h hstore (hquery name hname)
  obtain ⟨rfl, hschema, hstrata, hcheck⟩ := prepare_eq_ok hprepare
  have hcheck' := checkStrata_of_shares h hfirst hsecond hstore hquery (hstrata ▸ hcheck)
  obtain ⟨prepared', hprepare'⟩ := exists_prepare_iff.2 ⟨⟨_, hcheckQuery.trans hschema⟩, hcheck'⟩
  obtain ⟨hsame, hschema', hstrata', -⟩ := prepare_eq_ok hprepare'
  refine ⟨prepared', hprepare', hsame, ?_, fun d' hd' => ?_, fun name hname => ?_⟩
  · rw [hcheckQuery, hschema] at hschema'
    exact (Except.ok.inj hschema').symm
  · rw [hstrata', hsecond.strata] at hd'
    obtain ⟨d, hd, hR⟩ := h.symm.exists_required hquery hd'
    exact ⟨d, hstrata.symm ▸ hfirst.strata.symm ▸ hd, hR.symm⟩
  · by_cases hderived : name ∈ first.program.predicates.map Predicate.name
    · refine Or.inr ?_
      obtain ⟨d, hd, hin⟩ := (sound_ofPredicates h.nodup).covers name hderived
      have hrequired := mem_required_of_needs h.nodup
        (Query.needs_of_mem_reads hname hderived) hd hin
      obtain ⟨d', hd', hR⟩ := h.exists_required hquery hrequired
      exact ⟨d, hstrata.symm ▸ hfirst.strata.symm ▸ hrequired, d',
        hstrata'.symm ▸ hsecond.strata.symm ▸ hd', hR, hfirst.strata.symm ▸ hin⟩
    · exact Or.inl ⟨hderived, mt (h.symm.derived (hquery name hname)) hderived⟩

/-- A query of shared names that one session answers is answered the same by another that nothing
disturbs. -/
theorem run_eq_ok_of_shares [PatternEngine]
    (h : Shares first.program.predicates second.program.predicates names)
    (hfirst : first.Undisturbed) (hsecond : second.Undisturbed) (hstore : second.store = first.store)
    (hsettings : second.settings = first.settings) (hquery : ∀ name ∈ query.reads, name ∈ names)
    (hrun : (first.run query).1 = .ok answer) : (second.run query).1 = .ok answer := by
  obtain ⟨prepared, hprepare, hattains⟩ :=
    hfirst.sound.attains_of_returns hfirst.grounded (.run hrun)
  obtain ⟨prepared', hprepare', hcorresponds⟩ :=
    exists_prepare_of_shares h hfirst.sound hsecond.sound hstore hquery hprepare
  have hallows : second.Allows first.program first.strata first.settings
      (SharedStrata first.program.predicates second.program.predicates names) :=
    { hsecond with
      accepted := hstore.symm ▸ hfirst.sound.accepted
      corresponds := by
        rw [hfirst.sound.strata, hsecond.sound.strata]
        exact h.correspondence
      maxTuples := hsettings ▸ le_rfl
      maxRounds := hsettings ▸ le_rfl }
  exact hallows.run_eq_ok (hstore.symm ▸ hattains) hcorresponds hprepare'

/-- Let one program add predicates to another, in any places and however faulty, whose names are not
among those that a query reads transitively, and let it have any queries. Without a deadline a fresh
session of either program answers the query exactly when one of the other does, and with the same
result. -/
theorem ignores_unread_predicates [PatternEngine] (hstore : store.Built)
    (htimeout : settings.timeoutMs = none)
    (hextends : program.predicates.Sublist program'.predicates)
    (hunread : ∀ predicate ∈ program'.predicates, predicate ∉ program.predicates →
      ¬query.Consults program.predicates predicate.name)
    (hfirst : Fresh store program settings first) (hsecond : Fresh store program' settings second)
    (answer : ResultSet) :
    (first.run query).1 = .ok answer ↔ (second.run query).1 = .ok answer := by
  have hundisturbed := hfirst.undisturbed hstore htimeout
  have hundisturbed' := hsecond.undisturbed hstore htimeout
  obtain ⟨-, rfl, rfl, hsettings⟩ := hfirst.spec hstore
  obtain ⟨hsound', hstore', rfl, hsettings'⟩ := hsecond.spec hstore
  have hshares := Query.shares_of_sublist hsound'.accepted.nodup hextends hunread
  have hquery : ∀ name ∈ query.reads, query.Consults first.program.predicates name :=
    fun _ => Query.consults_of_mem_reads
  exact ⟨run_eq_ok_of_shares hshares hundisturbed hundisturbed' hstore'
      (hsettings'.trans hsettings.symm) hquery,
    run_eq_ok_of_shares hshares.symm hundisturbed' hundisturbed hstore'.symm
      (hsettings.trans hsettings'.symm) hquery⟩

/-- Among the liars, who are caught in a cycle, the paths are found as where there are none. -/
theorem ignores_unread_predicates_liars : ∃ session answer,
    Fresh FactStore.steps { predicates := [liar, paths, liars], queries := [counted, reached] } {}
      session ∧ (pathSession.run reached).1 = .ok answer ∧ (session.run reached).1 = .ok answer := by
  have hstart : Session.start FactStore.steps { predicates := [paths], queries := [reached] } {} =
      .ok pathSession := rfl
  have hpaths : Fresh FactStore.steps { predicates := [paths], queries := [reached] } {} pathSession :=
    .start pathSession.observe hstart fun _ => rfl
  have hconsults : ∀ name, reached.Consults [paths] name → name = "path" ∨ name = "edge" := by
    intro name hconsults
    cases hconsults with
    | body hmem hmentions =>
      have hreads : ∀ read ∈ Literal.readsOfAll reached.body, read.1 = "path" ∨ read.1 = "edge" := by
        decide
      exact hreads _ (Literal.exists_mentions_iff.1 ⟨_, hmem, hmentions⟩)
    | rule _ hmem hrule hliteral hmentions =>
      have hreads : ∀ predicate ∈ [paths], ∀ read ∈ predicate.reads,
          read.1 = "path" ∨ read.1 = "edge" := by
        decide
      exact hreads _ hmem _ (List.mem_flatMap.2
        ⟨_, hrule, Literal.exists_mentions_iff.1 ⟨_, hliteral, hmentions⟩⟩)
  have hunread : ∀ predicate ∈ [liar, paths, liars], predicate ∉ [paths] →
      ¬reached.Consults [paths] predicate.name := by
    intro predicate hmem hadded hconsulted
    have hnames := hconsults _ hconsulted
    rcases List.mem_cons.1 hmem with rfl | hmem
    · exact absurd hnames (by decide)
    rcases List.mem_cons.1 hmem with rfl | hmem
    · exact hadded List.mem_cons_self
    · cases List.mem_singleton.1 hmem
      exact absurd hnames (by decide)
  have hextends : [paths].Sublist [liar, paths, liars] :=
    .cons liar (.cons_cons paths (List.nil_sublist [liars]))
  obtain ⟨session, hsession⟩ := Fresh.exists_of_checkNames
    (show ({ predicates := [liar, paths, liars], queries := [counted, reached] } :
      Program).checkNames = .ok () from rfl) FactStore.steps {}
  have hok : (pathSession.run reached).1.isOk = true := by decide +kernel
  obtain ⟨answer, hanswer⟩ := isOk_iff.1 hok
  exact ⟨session, answer, hsession, hanswer, (ignores_unread_predicates FactStore.built_steps rfl
    hextends hunread hpaths hsession answer).1 hanswer⟩

end Session

end Stratalog
