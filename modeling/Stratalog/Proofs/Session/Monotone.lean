import Stratalog.Pattern.Engine
import Stratalog.Proofs.Semantics.Monotone
import Stratalog.Proofs.Session.Relevance
import Stratalog.Proofs.Store.Conformity

/-!
# Positive queries are monotone

A query that reads every predicate positively, those read through rules included, loses no answer when
facts are added. Both runs may order their literals, join and iterate differently, as sizes differ
throughout. They meet in what they find: the rows of perfect models, of which that of more facts has more
wherever a query of this kind reads.
-/

namespace Stratalog

open Evaluation

/-- The body of a query and the rules of all predicates it consults mention predicates outside negations
and aggregates only. -/
structure Query.IsPositive (predicates : List Predicate) (query : Query) : Prop where
  body : ∀ literal ∈ query.body, ∀ name polarity, literal.Mentions name polarity →
    polarity = .positive
  rules : ∀ predicate ∈ predicates, query.Consults predicates predicate.name →
    ∀ rule ∈ predicate.rules, ∀ literal ∈ rule.body, ∀ name polarity,
      literal.Mentions name polarity → polarity = .positive

/-- The facts of one store are among those of another that knows the same of every entity. -/
structure FactStore.IsPartOf (store store' : FactStore) : Prop where
  entities (id : UInt64) : store.entities[id]? = store'.entities[id]?
  rows (name : String) : store.holds name ⊆ store'.holds name

variable {store store' : FactStore} {program : Program} {settings settings' : Settings}
  {predicates : List Predicate} {query : Query} {result result' : ResultSet}

/-- Stores that know the same entities show values alike. -/
theorem FactStore.IsPartOf.render_eq (h : store.IsPartOf store') :
    store.entities.render = store'.entities.render := by
  funext value
  cases value with
  | entity id => rw [EntityTable.render, EntityTable.render, h.entities id]
  | _ => rfl

/-- The names that a positive query consults are read positively. -/
theorem Query.IsPositive.readPositively (h : query.IsPositive predicates) :
    ReadPositively predicates {name | query.Consults predicates name} where
  positive predicate hmem hconsults read hread := by
    obtain ⟨rule, hrule, hbody⟩ := List.mem_flatMap.1 hread
    obtain ⟨literal, hliteral, hmentions⟩ := Literal.exists_mentions_iff.2 hbody
    exact h.rules predicate hmem hconsults rule hrule literal hliteral read.1 read.2 hmentions
  closed predicate hmem hconsults read hread := Query.consults_of_reads hmem hconsults hread

/-- A positive query that has an answer has it still where there are more facts. -/
theorem Query.IsPositive.answers_mono [PatternEngine] (h : query.IsPositive predicates)
    (hnodup : (predicates.map Predicate.name).Nodup) {render : Value → String}
    {base base' M M' : Interpretation} (hbase : ∀ name, base name ⊆ base' name)
    (hM : PerfectModel render base predicates M) (hM' : PerfectModel render base' predicates M')
    {row : Row} (hrow : query.Answers render M row) : query.Answers render M' row := by
  have hmore := h.readPositively.perfectModel_mono (Stratification.sound_ofPredicates hnodup)
    (fun name _ => hbase name) hM hM'
  refine hrow.mono (fun read hread => ?_) fun read hread => ?_
  · obtain ⟨literal, hliteral, hmentions⟩ := Literal.exists_mentions_iff.2 hread
    exact h.body literal hliteral read.1 read.2 hmentions
  · exact hmore read.1 (Query.consults_of_mem_reads (List.mem_map_of_mem hread))

namespace Session

variable {session session' : Session}

/-- Let a query read nothing under a negation or inside an aggregate, be it directly or through rules,
and let the facts of one store be among those of another with the same entities. Whatever sessions of
one program over either store were through, under whatever settings: every row that the first returns
for the query is one that the second returns. -/
theorem positive_query_monotone [PatternEngine] (hstore : store.Built) (hstore' : store'.Built)
    (hpart : store.IsPartOf store') (hquery : query.IsPositive program.predicates)
    (hsession : Reachable store program settings session)
    (hsession' : Reachable store' program settings' session')
    (hresult : session.Returns query result) (hresult' : session'.Returns query result') :
    ∀ row ∈ result.rows, row ∈ result'.rows := by
  obtain ⟨hsound, rfl, rfl⟩ := hsession.spec hstore
  obtain ⟨hsound', rfl, hprogram⟩ := hsession'.spec hstore'
  have hnodup := (Program.nodup_of_checkNames hsound.names).1
  obtain ⟨M, hM⟩ := exists_perfectModel hnodup session.store.entities.render session.store.holds
  obtain ⟨M', hM'⟩ := exists_perfectModel hnodup session.store.entities.render session'.store.holds
  have hlists := hsound.entails_of_returns hresult M hM
  have hmodels' : session'.Models M' := by
    rw [Models, hprogram, ← hpart.render_eq]
    exact hM'
  have hlists' := hsound'.entails_of_returns hresult' M' hmodels'
  intro row hrow
  refine (hlists'.2 row).2 ?_
  rw [← hpart.render_eq]
  exact hquery.answers_mono hnodup hpart.rows hM hM' ((hlists.2 row).1 hrow)

/-- The query for what is reached from one reads paths and steps, and both positively. -/
theorem isPositive_reached : reached.IsPositive [paths] where
  body literal hliteral name polarity hmentions := by
    have hreads : ∀ read ∈ Literal.readsOfAll reached.body, read.2 = .positive := by decide
    exact hreads _ (Literal.exists_mentions_iff.1 ⟨literal, hliteral, hmentions⟩)
  rules predicate hmem _ rule hrule literal hliteral name polarity hmentions := by
    cases List.mem_singleton.1 hmem
    have hreads : ∀ read ∈ paths.reads, read.2 = .positive := by decide
    exact hreads _ (List.mem_flatMap.2
      ⟨rule, hrule, Literal.exists_mentions_iff.1 ⟨literal, hliteral, hmentions⟩⟩)

/-- The steps of `steps` and two others, one of which closes a cycle. -/
def roundTrip : FactStore where
  relations := (∅ : Relations).insert "edge" (.ofRows "edge" ⟨[⟨"from", .int⟩, ⟨"to", .int⟩]⟩
    [[.int 3, .int 1], [.int 2, .int 4], [.int 1, .int 2], [.int 2, .int 3]])

/-- The steps are part of the round trip. -/
theorem isPartOf_roundTrip : FactStore.steps.IsPartOf roundTrip where
  entities _ := rfl
  rows name := by
    rintro row ⟨relation, hrelation, hrow⟩
    simp only [FactStore.steps, Std.TreeMap.getElem?_insert, Std.TreeMap.getElem?_emptyc] at hrelation
    split at hrelation
    next heq =>
      cases hrelation
      have hsteps : ∀ row ∈ [[.int 1, .int 2], [.int 2, .int 3]], row ∈
          [[.int 3, .int 1], [.int 2, .int 4], [.int 1, .int 2], [Value.int 2, .int 3]] := by
        decide
      refine ⟨_, (Std.TreeMap.getElem?_insert ..).trans (if_pos heq), (Row.mem_distinct _ _).2 ?_⟩
      exact hsteps row ((Row.mem_distinct _ _).1 hrow)
    next => cases hrelation

/-- The session of the paths over the round trip, as it is opened. -/
def roundTripSession : Session :=
  { pathSession with
    store := roundTrip
    faults := predicateFaults roundTrip { predicates := [paths], queries := [reached] }
    workspace := { base := roundTrip.relations, slots := emptySlots ["path"] } }

/-- Every perfect model over the two steps has the path from one to two, so two is an answer. -/
theorem answers_reached [PatternEngine] {M : Interpretation}
    (hM : PerfectModel (EntityTable.render ∅) FactStore.steps.holds [paths] M) :
    reached.Answers (EntityTable.render ∅) M [.int 2] := by
  have hedge : [.int 1, .int 2] ∈ M "edge" := by
    rw [hM.base "edge" (by decide)]
    exact ⟨_, Std.TreeMap.getElem?_insert_self, (Row.mem_distinct _ _).2 (by decide)⟩
  have hread : ∀ read ∈ paths.reads, read.2 = .positive := by decide
  have hpositive : PositiveWithin (classOf [paths] "path") := fun predicate hmem read hin _ => by
    cases List.mem_singleton.1 (mem_classOf.1 hmem).1
    exact hread read hin
  have hother : "edge" ∉ (classOf [paths] "path").map Predicate.name := fun hmem =>
    absurd (mem_map_classOf.1 hmem).1 (by decide)
  let σ : Assignment := fun name => if name = "y" then .int 2 else .int 1
  have hpath : [.int 1, .int 2] ∈ M "path" := by
    refine ((hM.derived "path" (by decide) hpositive).1 "path" ⟨paths,
      mem_classOf.2 ⟨List.mem_singleton_self paths, Together.refl _ _⟩, rfl, _, List.mem_cons_self, σ,
      fun literal hliteral => ?_, rfl⟩).2
    cases List.mem_singleton.1 hliteral
    simp only [Literal.HoldsOver, Literal.Holds, Interpretation.overlay, if_neg hother]
    exact ⟨_, hedge, .cons rfl (.cons rfl .nil)⟩
  refine ⟨σ, fun literal hliteral => ?_, .cons rfl .nil⟩
  cases List.mem_singleton.1 hliteral
  simp only [Literal.Holds]
  exact ⟨_, hpath, .cons rfl (.cons rfl .nil)⟩

/-- Two is reached from one by the two steps, and so it is on the round trip. -/
theorem positive_query_monotone_roundTrip : ∃ result result',
    (pathSession.run reached).1 = .ok result ∧ (roundTripSession.run reached).1 = .ok result' ∧
      [.int 2] ∈ result.rows ∧ [.int 2] ∈ result'.rows := by
  have hstart : Session.start roundTrip { predicates := [paths], queries := [reached] } {} =
      .ok roundTripSession := rfl
  have hreachable : Reachable roundTrip { predicates := [paths], queries := [reached] } {}
      roundTripSession := .start roundTripSession.observe hstart
  have hok : (pathSession.run reached).1.isOk = true := by decide +kernel
  have hok' : (roundTripSession.run reached).1.isOk = true := by decide +kernel
  obtain ⟨result, hresult⟩ := isOk_iff.1 hok
  obtain ⟨result', hresult'⟩ := isOk_iff.1 hok'
  obtain ⟨hsound, -, -⟩ := reachable_pathSession.spec FactStore.built_steps
  obtain ⟨M, hM⟩ := exists_perfectModel (Program.nodup_of_checkNames hsound.names).1
    (EntityTable.render ∅) FactStore.steps.holds
  have hrow := ((hsound.entails_of_returns (.run hresult) M hM).2 _).2 (answers_reached hM)
  exact ⟨result, result', hresult, hresult', hrow,
    positive_query_monotone FactStore.built_steps (FactStore.built_single (by decide))
      isPartOf_roundTrip isPositive_reached reachable_pathSession hreachable (.run hresult)
      (.run hresult') _ hrow⟩

end Session

end Stratalog
