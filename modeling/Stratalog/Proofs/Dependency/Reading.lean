import Stratalog.Proofs.Dependency.Schedule

/-!
# What a query needs

A literal mentions a predicate in a positive atom, under a negation, or anywhere inside an aggregate.
A query needs the derived predicates that its body mentions, and with each of them those that its rules
mention. A predicate is caught in a cycle when a chain of mentions leads from it through a negation or
an aggregate and back to it.

The strata of a list of predicates tell both: strata with a fault are those of predicates caught in a
cycle, and the strata required by a query are those of the predicates it needs.
-/

namespace Stratalog

/-- A literal mentions a predicate. Inside an aggregate every mention counts as the aggregate's. -/
inductive Literal.Mentions (name : String) : Polarity → Literal → Prop where
  | atom (args : List Term) : Mentions name .positive (.atom ⟨name, args⟩)
  | negated (args : List Term) : Mentions name .negative (.negated ⟨name, args⟩)
  | aggregate (result : String) (function : FoldFunction) (target : Option Expr)
      (groupBy : List String) {body : List Literal} {literal : Literal} {polarity : Polarity} :
      literal ∈ body → Mentions name polarity literal →
        Mentions name .aggregate (.aggregate result function target groupBy body)

/-- A rule of the derived predicate `a` mentions the derived predicate `b`. -/
def Uses (predicates : List Predicate) (polarity : Polarity) (a b : String) : Prop :=
  b ∈ predicates.map Predicate.name ∧ ∃ predicate ∈ predicates, predicate.name = a ∧
    ∃ rule ∈ predicate.rules, ∃ literal ∈ rule.body, literal.Mentions b polarity

/-- A chain of mentions, possibly empty, leads from a derived predicate to another. -/
def LeadsTo (predicates : List Predicate) : String → String → Prop :=
  Relation.ReflTransGen fun a b => ∃ polarity, Uses predicates polarity a b

/-- A chain of mentions through a negation or an aggregate leads from a predicate back to it. -/
def CaughtInCycle (predicates : List Predicate) (name : String) : Prop :=
  ∃ a b polarity, LeadsTo predicates name a ∧ Uses predicates polarity a b ∧
    polarity ≠ .positive ∧ LeadsTo predicates b name

/-- The derived predicates that a query reads, directly or through rules. -/
inductive Query.Needs (predicates : List Predicate) (query : Query) : String → Prop where
  | body {name : String} {literal : Literal} {polarity : Polarity} :
      name ∈ predicates.map Predicate.name → literal ∈ query.body →
        literal.Mentions name polarity → Needs predicates query name
  | rule {a b : String} {polarity : Polarity} :
      Needs predicates query a → Uses predicates polarity a b → Needs predicates query b

variable {predicates : List Predicate} {query : Query} {a b name : String} {polarity : Polarity}

/-- What a literal mentions is what it reads. -/
theorem Literal.mentions_iff {literal : Literal} :
    literal.Mentions name polarity ↔ (name, polarity) ∈ literal.reads := by
  constructor
  · intro h
    induction h with
    | atom args => exact List.mem_singleton_self _
    | negated args => exact List.mem_singleton_self _
    | aggregate result function target groupBy hmem _ ih => exact mem_reads_aggregate hmem ih
  · intro h
    induction literal using Literal.induction generalizing polarity with
    | atom a =>
      obtain ⟨rfl, rfl⟩ := Prod.mk.inj (List.mem_singleton.1 h)
      exact .atom a.args
    | negated a =>
      obtain ⟨rfl, rfl⟩ := Prod.mk.inj (List.mem_singleton.1 h)
      exact .negated a.args
    | compare op left right => exact absurd h List.not_mem_nil
    | assign var expr => exact absurd h List.not_mem_nil
    | aggregate result function target groupBy body ih =>
      rw [reads, readsOfAll_eq_flatMap] at h
      obtain ⟨⟨_, inner⟩, hread, heq⟩ := List.mem_map.1 h
      obtain ⟨rfl, rfl⟩ := Prod.mk.inj heq
      obtain ⟨literal, hmem, hread⟩ := List.mem_flatMap.1 hread
      exact .aggregate result function target groupBy hmem (ih literal hmem hread)

/-- Some literal of a conjunction mentions a predicate exactly when the conjunction reads it. -/
theorem Literal.exists_mentions_iff {body : List Literal} :
    (∃ literal ∈ body, literal.Mentions name polarity) ↔
      (name, polarity) ∈ Literal.readsOfAll body := by
  simp only [Literal.mentions_iff, Literal.readsOfAll_eq_flatMap, List.mem_flatMap]

/-- The rules of a predicate mention what the predicate reads. -/
theorem uses_iff : Uses predicates polarity a b ↔ b ∈ predicates.map Predicate.name ∧
    ∃ predicate ∈ predicates, predicate.name = a ∧ (b, polarity) ∈ predicate.reads := by
  simp only [Uses, Literal.exists_mentions_iff, Predicate.reads, List.mem_flatMap]

/-- A predicate reads another one when some rule mentions it in any way. -/
theorem reads_iff_uses : Reads predicates a b ↔ ∃ polarity, Uses predicates polarity a b := by
  simp only [uses_iff, Reads]
  constructor
  · rintro ⟨predicate, hmem, hname, ⟨polarity, hread⟩, hderived⟩
    exact ⟨polarity, hderived, predicate, hmem, hname, hread⟩
  · rintro ⟨polarity, hderived, predicate, hmem, hname, hread⟩
    exact ⟨predicate, hmem, hname, ⟨polarity, hread⟩, hderived⟩

/-- A predicate depends on those that chains of mentions lead to. -/
theorem leadsTo_eq (predicates : List Predicate) : LeadsTo predicates = DependsOn predicates := by
  have hstep : (fun a b => ∃ polarity, Uses predicates polarity a b) = Reads predicates := by
    funext a b
    exact propext reads_iff_uses.symm
  rw [LeadsTo, DependsOn, hstep]

/-- Chains of mentions keep to what is needed. -/
theorem Query.Needs.dependsOn (h : query.Needs predicates a) (hdepends : DependsOn predicates a b) :
    query.Needs predicates b := by
  induction hdepends with
  | refl => exact h
  | tail _ hreads ih =>
    obtain ⟨polarity, huses⟩ := reads_iff_uses.1 hreads
    exact .rule ih huses

/-- What a query needs is derived. -/
theorem Query.Needs.mem (h : query.Needs predicates name) : name ∈ predicates.map Predicate.name := by
  cases h with
  | body hderived _ _ => exact hderived
  | rule _ huses => exact huses.1

/-- A query needs the derived predicates it reads directly. -/
theorem Query.needs_of_mem_reads (hread : name ∈ query.reads)
    (hderived : name ∈ predicates.map Predicate.name) : query.Needs predicates name := by
  obtain ⟨⟨_, polarity⟩, hlisted, rfl⟩ := List.mem_map.1 hread
  obtain ⟨literal, hmem, hmentions⟩ := Literal.exists_mentions_iff.2 hlisted
  exact .body hderived hmem hmentions

namespace DependencyGraph

variable {u v : Nat}

/-- A node stands for the name at its position. -/
theorem getElem?_eq_name (hv : v < (predicates.map Predicate.name).length) :
    (predicates.map Predicate.name)[v]? = some ((ofPredicates predicates).name v) := by
  rw [name, ofPredicates, List.getD_eq_getElem?_getD, List.getElem?_eq_getElem hv, Option.getD_some]

/-- An edge stands for a mention. -/
theorem uses_of_mem_edgesOf (hnodup : (predicates.map Predicate.name).Nodup)
    (h : (v, polarity) ∈ (ofPredicates predicates).edgesOf u) :
    Uses predicates polarity ((ofPredicates predicates).name u) ((ofPredicates predicates).name v) := by
  obtain ⟨predicate, hpredicate, b, hread, hvb⟩ := (mem_edgesOf_iff hnodup).1 h
  have hua : (predicates.map Predicate.name)[u]? = some predicate.name := by
    rw [List.getElem?_map, hpredicate, Option.map_some]
  have hname := getElem?_eq_name (List.getElem?_eq_some_iff.1 hua).1
  have hother := getElem?_eq_name (List.getElem?_eq_some_iff.1 hvb).1
  rw [hua, Option.some.injEq] at hname
  rw [hvb, Option.some.injEq] at hother
  exact uses_iff.2 ⟨hother ▸ List.mem_of_getElem? hvb, predicate, List.mem_of_getElem? hpredicate, hname,
    hother ▸ hread⟩

/-- The first offending read of a component is an edge between two of its nodes. -/
theorem mem_of_violation? {graph : DependencyGraph} {members : List Nat} {read : InnerRead}
    (h : graph.violation? members = some read) : read.source ∈ members ∧ read.target ∈ members ∧
      (read.target, read.polarity) ∈ graph.edgesOf read.source ∧ read.polarity ≠ .positive := by
  obtain ⟨u, hu, hinner⟩ := List.mem_flatMap.1 (List.mem_of_find?_eq_some h)
  obtain ⟨⟨v, polarity⟩, hedge, hinside⟩ := List.mem_filterMap.1 hinner
  simp only [Option.ite_none_right_eq_some, Option.some.injEq, List.contains_iff_mem] at hinside
  obtain ⟨hv, rfl⟩ := hinside
  refine ⟨hu, hv, hedge, fun hpositive => ?_⟩
  have hviolates := List.find?_some h
  rw [hpositive] at hviolates
  cases hviolates

end DependencyGraph

namespace Stratification

variable {i : Nat}

/-- A stratum that another one depends on has a member that a member of the other reads. -/
theorem exists_reads_of_mem_dependsOn (hnodup : (predicates.map Predicate.name).Nodup) {d : Nat}
    (hi : i < (ofPredicates predicates).strata.length)
    (hd : d ∈ ((ofPredicates predicates).stratum i).dependsOn) :
    ∃ a ∈ ((ofPredicates predicates).stratum i).predicates,
      ∃ b ∈ ((ofPredicates predicates).stratum d).predicates, Reads predicates a b := by
  obtain ⟨hclasses, hall, -⟩ := components_spec hnodup
  obtain ⟨members, hmembers⟩ := exists_members hi
  rw [stratum_eq hmembers] at hd
  obtain ⟨u, hu, v, hnext, -, rfl⟩ := mem_dependsOn_iff.1 hd
  obtain ⟨-, r, -, hclass⟩ := hclasses i members hmembers
  have hua := List.getElem?_eq_getElem ((hclass u).1 hu).1
  obtain ⟨b, hvb⟩ := DependencyGraph.exists_of_mem_next hnodup hnext
  obtain ⟨others, hothers, hv⟩ := exists_componentOf (hall v (List.getElem?_eq_some_iff.1 hvb).1)
  exact ⟨_, (mem_predicates_iff hnodup hmembers).2 ⟨u, hu, hua⟩, b,
    (mem_predicates_iff hnodup hothers).2 ⟨v, hv, hvb⟩,
    (DependencyGraph.mem_next_iff hnodup hua hvb).1 hnext⟩

/-- A stratum that a query requires has a member that the query needs. -/
theorem exists_needs_of_mem_required (hnodup : (predicates.map Predicate.name).Nodup)
    (h : i ∈ (ofPredicates predicates).required query.reads) :
    ∃ name ∈ ((ofPredicates predicates).stratum i).predicates, query.Needs predicates name := by
  have hsound := sound_ofPredicates hnodup
  rw [hsound.mem_required_iff] at h
  obtain ⟨root, hroot, stratum, hfound, hlead⟩ := h
  have hstart : stratum.id < (ofPredicates predicates).strata.length ∧
      root ∈ ((ofPredicates predicates).stratum stratum.id).predicates :=
    hsound.of_stratumOf? (by rw [hfound]; rfl)
  -- Along the strata that lead to this one, each has a member that is needed.
  induction hlead with
  | refl =>
    exact ⟨root, hstart.2,
      Query.needs_of_mem_reads hroot (hsound.member _ hstart.1 root hstart.2)⟩
  | @tail middle d hprefix hd ih =>
    obtain ⟨name, hname, hneeds⟩ := ih
    have hmiddle := hsound.closed_dependsOn.lt_of_leads hstart.1 hprefix
    obtain ⟨a, ha, b, hb, hreads⟩ := exists_reads_of_mem_dependsOn hnodup hmiddle hd
    have htogether := (hsound.together middle hmiddle name hname middle hmiddle a ha).1 rfl
    exact ⟨b, hb, hneeds.dependsOn (htogether.1.tail hreads)⟩

/-- The stratum of a predicate that a query needs is required by it. -/
theorem mem_required_of_needs (hnodup : (predicates.map Predicate.name).Nodup)
    (h : query.Needs predicates name) (hi : i < (ofPredicates predicates).strata.length)
    (hname : name ∈ ((ofPredicates predicates).stratum i).predicates) :
    i ∈ (ofPredicates predicates).required query.reads := by
  have hsound := sound_ofPredicates hnodup
  obtain ⟨-, hroots, hclosed, -⟩ := hsound.required_spec query.reads
  induction h generalizing i with
  | @body name literal polarity _ hmem hmentions =>
    exact hroots name (List.mem_map_of_mem
      (Literal.exists_mentions_iff.1 ⟨literal, hmem, hmentions⟩)) i hi hname
  | @rule a b polarity hneeds huses ih =>
    obtain ⟨j, hj, hja⟩ := hsound.covers a hneeds.mem
    have hrequired := ih hj hja
    by_cases hsame : b ∈ ((ofPredicates predicates).stratum j).predicates
    · rwa [(hsound.together i hi b hname j hj b hsame).2 (Together.refl predicates b)]
    · obtain ⟨d, hd, hdb⟩ :=
        hsound.dependsOn j hj a hja b (reads_iff_uses.2 ⟨polarity, huses⟩) hsame
      have hdlt := hsound.closed_dependsOn j hj d hd
      rw [(hsound.together i hi b hname d hdlt b hdb).2 (Together.refl predicates b)]
      exact hclosed j hrequired d hd

/-- The strata that a query requires are those of the predicates it needs. -/
theorem mem_required_iff (hnodup : (predicates.map Predicate.name).Nodup) :
    i ∈ (ofPredicates predicates).required query.reads ↔
      ∃ name ∈ ((ofPredicates predicates).stratum i).predicates, query.Needs predicates name := by
  constructor
  · exact exists_needs_of_mem_required hnodup
  · rintro ⟨name, hname, hneeds⟩
    by_cases hi : i < (ofPredicates predicates).strata.length
    · exact mem_required_of_needs hnodup hneeds hi hname
    · rw [stratum, List.getD_eq_getElem?_getD, List.getElem?_eq_none (not_lt.1 hi)] at hname
      exact absurd hname List.not_mem_nil

/-- No stratum is required twice. -/
theorem nodup_required (strata : Stratification) (roots : List String) :
    (strata.required roots).Nodup := by
  rw [required, inOrder]
  exact (List.mergeSort_perm _ _).nodup_iff.2 (Digraph.nodup_reach _ _ _)

/-- A recorded fault is that of the first offending read of the predicate's component. -/
theorem exists_violation?_of_faultOf? {fault : Fault}
    (h : (ofPredicates predicates).faultOf? name = some fault) :
    ∃ (i : Nat) (members : List Nat) (v : Nat) (read : InnerRead),
      (DependencyGraph.ofPredicates predicates).components[i]? = some members ∧
        v ∈ members ∧ (DependencyGraph.ofPredicates predicates).name v = name ∧
        (DependencyGraph.ofPredicates predicates).violation? members = some read ∧
          fault = .unstratifiable name read.polarity
            ((DependencyGraph.ofPredicates predicates).cycleOf members read) := by
  obtain ⟨entry, hentry, rfl⟩ := Option.map_eq_some_iff.1 h
  have hname : entry.1 = name := by simpa using List.find?_some hentry
  have hmem := List.mem_reverse.1 (List.mem_of_find?_eq_some hentry)
  obtain ⟨members, hmembers, hrecorded⟩ := List.mem_flatMap.1 hmem
  obtain ⟨i, hi⟩ := List.getElem?_of_mem hmembers
  unfold DependencyGraph.componentFaults at hrecorded
  split at hrecorded
  next => cases hrecorded
  next read hviolation =>
    obtain ⟨v, hv, rfl⟩ := List.mem_map.1 hrecorded
    exact ⟨i, members, v, read, hi, hv, hname, hviolation, by rw [← hname]⟩

/-- A predicate has a recorded fault only when it is caught in a cycle. -/
theorem caughtInCycle_of_faultOf? (hnodup : (predicates.map Predicate.name).Nodup) {fault : Fault}
    (h : (ofPredicates predicates).faultOf? name = some fault) : CaughtInCycle predicates name := by
  obtain ⟨i, members, v, read, hmembers, hv, rfl, hviolation, -⟩ := exists_violation?_of_faultOf? h
  obtain ⟨hsource, htarget, hedge, hpolarity⟩ := DependencyGraph.mem_of_violation? hviolation
  obtain ⟨-, r, -, hclass⟩ := (components_spec hnodup).1 i members hmembers
  have hname {w : Nat} (hw : w ∈ members) := DependencyGraph.getElem?_eq_name ((hclass w).1 hw).1
  have hto := ((hclass v).1 hv).2.symm.trans ((hclass _).1 hsource).2
  have hback := ((hclass _).1 htarget).2.symm.trans ((hclass v).1 hv).2
  refine ⟨_, _, read.polarity, ?_, DependencyGraph.uses_of_mem_edgesOf hnodup hedge, hpolarity, ?_⟩
  · rw [leadsTo_eq]
    exact (DependencyGraph.leads_iff hnodup (hname hv) (hname hsource)).1 hto.1
  · rw [leadsTo_eq]
    exact (DependencyGraph.leads_iff hnodup (hname htarget) (hname hv)).1 hback.1

/-- A derived predicate has no recorded fault exactly when it is not caught in a cycle. -/
theorem faultOf?_eq_none_iff (hnodup : (predicates.map Predicate.name).Nodup)
    (hname : name ∈ predicates.map Predicate.name) :
    (ofPredicates predicates).faultOf? name = none ↔ ¬CaughtInCycle predicates name := by
  have hsound := sound_ofPredicates hnodup
  constructor
  · rintro hfault ⟨a, b, polarity, hto, huses, hpolarity, hback⟩
    rw [leadsTo_eq] at hto hback
    obtain ⟨hderived, predicate, hmem, rfl, hread⟩ := uses_iff.1 huses
    have hreads : Reads predicates predicate.name b := reads_iff_uses.2 ⟨polarity, huses⟩
    obtain ⟨i, hi, hin⟩ := hsound.covers name hname
    obtain ⟨j, hj, hjb⟩ := hsound.covers b hderived
    have hsame : i = j :=
      (hsound.together i hi name hin j hj b hjb).2 ⟨hto.tail hreads, hback⟩
    have hmember : predicate.name ∈ ((ofPredicates predicates).stratum i).predicates :=
      (hsound.mem_iff_together hi hin hmem).2 ⟨hto, hback.head hreads⟩
    exact hpolarity (hsound.positive i hi name hin hfault predicate hmem hmember (b, polarity) hread
      (hsame ▸ hjb))
  · intro hnot
    cases hfault : (ofPredicates predicates).faultOf? name with
    | none => rfl
    | some fault => exact absurd (caughtInCycle_of_faultOf? hnodup hfault) hnot

end Stratification

end Stratalog
