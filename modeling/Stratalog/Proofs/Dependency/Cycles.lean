import Stratalog.Proofs.Dependency.Levels
import Stratalog.Proofs.Dependency.ShortestPath

/-!
# Offending cycles

A predicate has a fault exactly when it is caught in a cycle. The fault names a cycle of predicates that
mention one another: it starts with a mention under a negation or inside an aggregate, stays in the stratum
of the predicate, and no cycle that starts with the same mention is shorter. Inside a stratum every way
between two members stays in the stratum, so looking among the members alone misses nothing.

A predicate without a fault negates and aggregates over lower strata only.
-/

namespace Stratalog

namespace Digraph

variable {next next' : Nat → List Nat} {n r u v : Nat} {path members : List Nat}

/-- A path with more successors to choose from is still one. -/
theorem IsPath.mono (h : IsPath next u v path) (hnext : ∀ w, ∀ x ∈ next w, x ∈ next' w) :
    IsPath next' u v path :=
  ⟨h.steps.imp fun w x hstep => hnext w x hstep, h.starts, h.ends⟩

/-- A path leads where it ends. -/
theorem IsPath.leads (h : IsPath next u v path) : Leads next u v := by
  obtain ⟨hsteps, hstarts, hends⟩ := h
  cases path with
  | nil => cases hstarts
  | cons first rest =>
    cases hstarts
    rw [List.getLast?_eq_some_getLast (List.cons_ne_nil u rest), Option.some.injEq] at hends
    exact List.relationReflTransGen_of_exists_isChain_cons rest hsteps hends

/-- A path between nodes of a class stays in the class. -/
theorem IsPath.within (hclosed : Closed next n)
    (hclass : ∀ w, w ∈ members ↔ w < n ∧ Mutual next r w) (hu : u ∈ members) (hv : v ∈ members)
    (h : IsPath next u v path) : IsPath (fun w => (next w).filter members.contains) u v path ∧
      ∀ w ∈ path, w ∈ members := by
  induction path generalizing u with
  | nil => cases h.starts
  | cons first rest ih =>
    obtain rfl : first = u := by simpa using h.starts
    cases rest with
    | nil => exact ⟨⟨List.isChain_singleton first, rfl, h.ends⟩, by simpa using hu⟩
    | cons w rest =>
      obtain ⟨hstep, hsteps⟩ := List.isChain_cons_cons.1 h.steps
      have hends : (w :: rest).getLast? = some v := by rw [← h.ends, List.getLast?_cons_cons]
      have hrest : IsPath next w v (w :: rest) := ⟨hsteps, rfl, hends⟩
      have hfirst := ((hclass first).1 hu).2
      have hlast := ((hclass v).1 hv).2
      have hw : w ∈ members := (hclass w).2 ⟨hclosed first ((hclass first).1 hu).1 w hstep,
        hfirst.1.tail hstep, hrest.leads.trans hlast.2⟩
      obtain ⟨hinside, hmembers⟩ := ih hw hrest
      refine ⟨⟨List.isChain_cons_cons.2 ⟨?_, hinside.steps⟩, rfl, h.ends⟩,
        List.forall_mem_cons.2 ⟨hu, hmembers⟩⟩
      exact List.mem_filter.2 ⟨hstep, List.contains_iff_mem.2 hw⟩

/-- A shortest path inside a class is a shortest path. -/
theorem IsShortestPath.of_within (hclosed : Closed next n)
    (hclass : ∀ w, w ∈ members ↔ w < n ∧ Mutual next r w) (hu : u ∈ members) (hv : v ∈ members)
    (h : IsShortestPath (fun w => (next w).filter members.contains) u v path) :
    IsShortestPath next u v path where
  toIsPath := h.toIsPath.mono fun _ _ hstep => (List.mem_filter.1 hstep).1
  shortest other hother := h.shortest other (hother.within hclosed hclass hu hv).1

end Digraph

/-- A list of derived predicates, each of which mentions the next, that ends as it starts after at least
one step. -/
structure IsClosedWalk (predicates : List Predicate) (walk : List String) : Prop where
  steps : walk.IsChain fun a b => ∃ polarity, Uses predicates polarity a b
  closed : walk.head? = walk.getLast?
  moves : 1 < walk.length

/-- A closed walk among some predicates that starts with a mention of a given polarity, and as short as
any that starts with the same mention. -/
structure IsShortCycle (predicates : List Predicate) (members : List String) (polarity : Polarity)
    (cycle : List String) : Prop extends IsClosedWalk predicates cycle where
  inside : ∀ name ∈ cycle, name ∈ members
  opening : ∃ a b rest, cycle = a :: b :: rest ∧ Uses predicates polarity a b
  shortest : ∀ other, IsClosedWalk predicates other → other.take 2 = cycle.take 2 →
    cycle.length ≤ other.length

variable {predicates : List Predicate} {u v : Nat} {a b name : String} {polarity : Polarity}
  {path members : List Nat} {walk : List String}

/-- What is caught in a cycle is derived. -/
theorem CaughtInCycle.mem (h : CaughtInCycle predicates name) : name ∈ predicates.map Predicate.name := by
  obtain ⟨a, b, polarity, hto, huses, -, -⟩ := h
  cases hto.cases_head with
  | inl heq =>
    obtain ⟨-, predicate, hmem, hname, -⟩ := huses
    exact heq ▸ hname ▸ List.mem_map_of_mem hmem
  | inr hstep =>
    obtain ⟨_, ⟨_, -, predicate, hmem, hname, -⟩, -⟩ := hstep
    exact hname ▸ List.mem_map_of_mem hmem

namespace DependencyGraph

/-- The name of a node stands at the node's position. -/
theorem idxOf_name (hnodup : (predicates.map Predicate.name).Nodup)
    (hv : v < (predicates.map Predicate.name).length) :
    (predicates.map Predicate.name).idxOf ((ofPredicates predicates).name v) = v := by
  obtain ⟨_, hname⟩ := List.getElem?_eq_some_iff.1 (getElem?_eq_name hv)
  rw [← hname, hnodup.idxOf_getElem]

/-- The names along a path mention one another. -/
theorem isChain_names (hnodup : (predicates.map Predicate.name).Nodup)
    (h : Digraph.IsPath (ofPredicates predicates).next u v path) :
    (path.map (ofPredicates predicates).name).IsChain
      fun a b => ∃ polarity, Uses predicates polarity a b := by
  refine (List.isChain_map _).2 (h.steps.imp fun w x hstep => ?_)
  obtain ⟨⟨_, polarity⟩, hedge, rfl⟩ := List.mem_map.1 hstep
  exact ⟨polarity, uses_of_mem_edgesOf hnodup hedge⟩

/-- Names that mention one another stand along a path. -/
theorem isPath_nodes (hnodup : (predicates.map Predicate.name).Nodup)
    (hwalk : walk.IsChain fun a b => ∃ polarity, Uses predicates polarity a b)
    (hstarts : walk.head? = some a) (hends : walk.getLast? = some b) :
    Digraph.IsPath (ofPredicates predicates).next ((predicates.map Predicate.name).idxOf a)
      ((predicates.map Predicate.name).idxOf b)
      (walk.map (predicates.map Predicate.name).idxOf) where
  steps := by
    refine (List.isChain_map _).2 (hwalk.imp fun c d huses => ?_)
    have hreads := reads_iff_uses.2 huses
    obtain ⟨predicate, hmem, hname, -, hderived⟩ := id hreads
    have hreader : c ∈ predicates.map Predicate.name := hname ▸ List.mem_map_of_mem hmem
    exact (mem_next_iff hnodup (List.getElem?_idxOf hreader) (List.getElem?_idxOf hderived)).2 hreads
  starts := by rw [List.head?_map, hstarts, Option.map_some]
  ends := by rw [List.getLast?_map, hends, Option.map_some]

/-- The path found between members of a component is a shortest one. -/
theorem isShortestPath_pathWithin (hnodup : (predicates.map Predicate.name).Nodup) {r : Nat}
    (hclass : ∀ w, w ∈ members ↔ w < (predicates.map Predicate.name).length ∧
      Digraph.Mutual (ofPredicates predicates).next r w) (hu : u ∈ members) (hv : v ∈ members) :
    Digraph.IsShortestPath (ofPredicates predicates).next u v
      ((ofPredicates predicates).pathWithin members u v) := by
  have hclosed := closed_next hnodup
  obtain ⟨sample, hsample⟩ :=
    (((hclass u).1 hu).2.symm.trans ((hclass v).1 hv).2).1.exists_isPath
  have hinside : Digraph.Closed (fun w => ((ofPredicates predicates).next w).filter members.contains)
      (ofPredicates predicates).size := fun w hw x hx => hclosed w hw x (List.mem_filter.1 hx).1
  have hpath := Digraph.isShortestPath_shortestPath hinside ((hclass u).1 hu).1
    (hsample.within hclosed hclass hu hv).1.leads
  exact hpath.of_within hclosed hclass hu hv

/-- An edge and a path back from where it leads make a closed walk. -/
theorem isClosedWalk_of_isPath (hnodup : (predicates.map Predicate.name).Nodup)
    (hedge : (v, polarity) ∈ (ofPredicates predicates).edgesOf u)
    (hpath : Digraph.IsPath (ofPredicates predicates).next v u path) :
    IsClosedWalk predicates ((ofPredicates predicates).name u ::
      path.map (ofPredicates predicates).name) := by
  have hchain := isChain_names hnodup hpath
  obtain ⟨rest, rfl⟩ := List.head?_eq_some_iff.1 hpath.starts
  rw [List.map_cons] at hchain ⊢
  refine ⟨List.isChain_cons_cons.2 ⟨⟨_, uses_of_mem_edgesOf hnodup hedge⟩, hchain⟩, ?_, by simp⟩
  rw [List.getLast?_cons_cons, ← List.map_cons, List.getLast?_map, hpath.ends]
  rfl

/-- Such a walk is as short as any that starts with the same two names, if the path is a shortest one. -/
theorem length_le_of_isClosedWalk (hnodup : (predicates.map Predicate.name).Nodup)
    (hu : u < (predicates.map Predicate.name).length)
    (hv : v < (predicates.map Predicate.name).length)
    (hpath : Digraph.IsShortestPath (ofPredicates predicates).next v u path)
    (hwalk : IsClosedWalk predicates walk)
    (hsame : walk.take 2 = [(ofPredicates predicates).name u, (ofPredicates predicates).name v]) :
    path.length + 1 ≤ walk.length := by
  obtain ⟨hsteps, hreturns, hmoves⟩ := hwalk
  match walk, hmoves with
  | first :: second :: rest, _ =>
    obtain ⟨hfirst, hsecond⟩ : first = (ofPredicates predicates).name u ∧
        second = (ofPredicates predicates).name v := by
      simpa using hsame
    have hback : (second :: rest).getLast? = some first := by
      rw [← List.getLast?_cons_cons, ← hreturns, List.head?_cons]
    -- What follows the first name stands along a path back to it.
    have hother := isPath_nodes hnodup (List.isChain_cons_cons.1 hsteps).2 rfl hback
    rw [hfirst, hsecond, idxOf_name hnodup hu, idxOf_name hnodup hv] at hother
    simpa using hpath.shortest _ hother

end DependencyGraph

namespace Stratification

variable {i : Nat} {read : InnerRead}

/-- The cycle of the first offending read of a component is a short one. -/
theorem isShortCycle_cycleOf (hnodup : (predicates.map Predicate.name).Nodup)
    (hmembers : (DependencyGraph.ofPredicates predicates).components[i]? = some members)
    (hviolation : (DependencyGraph.ofPredicates predicates).violation? members = some read) :
    IsShortCycle predicates ((ofPredicates predicates).stratum i).predicates read.polarity
      ((DependencyGraph.ofPredicates predicates).cycleOf members read) := by
  obtain ⟨hsource, htarget, hedge, -⟩ := DependencyGraph.mem_of_violation? hviolation
  obtain ⟨-, r, -, hclass⟩ := (components_spec hnodup).1 i members hmembers
  have hclosed := DependencyGraph.closed_next hnodup
  have hpath := DependencyGraph.isShortestPath_pathWithin hnodup hclass htarget hsource
  obtain ⟨-, hinside⟩ := hpath.toIsPath.within hclosed hclass htarget hsource
  have hmember {v : Nat} (hv : v ∈ members) : (DependencyGraph.ofPredicates predicates).name v ∈
      ((ofPredicates predicates).stratum i).predicates :=
    (mem_predicates_iff hnodup hmembers).2
      ⟨v, hv, DependencyGraph.getElem?_eq_name ((hclass v).1 hv).1⟩
  have hcycle : (DependencyGraph.ofPredicates predicates).cycleOf members read =
      (DependencyGraph.ofPredicates predicates).name read.source ::
        ((DependencyGraph.ofPredicates predicates).pathWithin members read.target read.source).map
          (DependencyGraph.ofPredicates predicates).name := rfl
  have hwalk := DependencyGraph.isClosedWalk_of_isPath hnodup hedge hpath.toIsPath
  obtain ⟨rest, hrest⟩ := List.head?_eq_some_iff.1 hpath.starts
  rw [hcycle]
  refine ⟨hwalk, ?_, ?_, fun other hother hsame => ?_⟩
  · refine List.forall_mem_cons.2 ⟨hmember hsource, List.forall_mem_map.2 fun w hw => ?_⟩
    exact hmember (hinside w hw)
  · exact ⟨_, _, _, by rw [hrest, List.map_cons], DependencyGraph.uses_of_mem_edgesOf hnodup hedge⟩
  · rw [List.length_cons, List.length_map]
    refine DependencyGraph.length_le_of_isClosedWalk hnodup ((hclass _).1 hsource).1
      ((hclass _).1 htarget).1 hpath hother ?_
    rw [hsame, hrest]
    rfl

/-- What a predicate without a fault reads in any other way than in a positive atom, it reads from a lower
level. -/
theorem exists_lower_of_uses (hnodup : (predicates.map Predicate.name).Nodup) {stratum : Stratum}
    (hstratum : (ofPredicates predicates).stratumOf? a = some stratum)
    (hfault : (ofPredicates predicates).faultOf? a = none) (huses : Uses predicates polarity a b)
    (hpolarity : polarity ≠ .positive) : ∃ lower, (ofPredicates predicates).stratumOf? b = some lower ∧
      lower.level < stratum.level := by
  have hsound := sound_ofPredicates hnodup
  obtain ⟨hmem, hin⟩ := hsound.stratumOf?_eq_some_iff.1 hstratum
  obtain ⟨i, hi, rfl⟩ := mem_strata_iff.1 hmem
  have hreads := reads_iff_uses.2 ⟨polarity, huses⟩
  obtain ⟨-, predicate, hpredicate, rfl, hread⟩ := uses_iff.1 huses
  have hother : b ∉ ((ofPredicates predicates).stratum i).predicates := fun hinside =>
    hpolarity (hsound.positive i hi _ hin hfault predicate hpredicate hin (b, polarity) hread hinside)
  obtain ⟨d, hd, hlower⟩ := hsound.dependsOn i hi _ hin b hreads hother
  obtain ⟨hlt, hlevel⟩ := hsound.below i hi d hd
  exact ⟨_, hsound.stratumOf?_eq_some_iff.2 ⟨mem_strata_iff.2 ⟨d, hlt.trans hi, rfl⟩, hlower⟩, hlevel⟩

/-- A predicate has a fault exactly when it is caught in a cycle. The fault then bears its name, and the
polarity of a mention from which a shortest cycle goes through predicates of its own stratum. A
predicate without a fault has each predicate that it mentions under a negation or inside an aggregate on
a lower level than itself. -/
theorem faults_show_cycles (hnodup : (predicates.map Predicate.name).Nodup) :
    (∀ name, ((ofPredicates predicates).faultOf? name).isSome = true ↔
      CaughtInCycle predicates name) ∧
    (∀ name fault, (ofPredicates predicates).faultOf? name = some fault →
      ∃ stratum polarity cycle, (ofPredicates predicates).stratumOf? name = some stratum ∧
        polarity ≠ .positive ∧ fault = .unstratifiable name polarity cycle ∧
          IsShortCycle predicates stratum.predicates polarity cycle) ∧
    ∀ name stratum, (ofPredicates predicates).stratumOf? name = some stratum →
      (ofPredicates predicates).faultOf? name = none → ∀ polarity other,
        Uses predicates polarity name other → polarity ≠ .positive →
          ∃ lower, (ofPredicates predicates).stratumOf? other = some lower ∧
            lower.level < stratum.level := by
  have hsound := sound_ofPredicates hnodup
  refine ⟨fun name => ⟨fun hsome => ?_, fun hcaught => ?_⟩, fun name fault hfault => ?_,
    fun name stratum hstratum hfault polarity other =>
      exists_lower_of_uses hnodup hstratum hfault⟩
  · obtain ⟨fault, hfault⟩ := Option.isSome_iff_exists.1 hsome
    exact caughtInCycle_of_faultOf? hnodup hfault
  · rw [← Option.ne_none_iff_isSome]
    exact fun hnone => (faultOf?_eq_none_iff hnodup hcaught.mem).1 hnone hcaught
  · obtain ⟨i, members, v, read, hmembers, hv, rfl, hviolation, rfl⟩ :=
      exists_violation?_of_faultOf? hfault
    obtain ⟨-, -, -, hpolarity⟩ := DependencyGraph.mem_of_violation? hviolation
    obtain ⟨-, r, -, hclass⟩ := (components_spec hnodup).1 i members hmembers
    have hi : i < (ofPredicates predicates).strata.length := by
      rw [length_strata]
      exact (List.getElem?_eq_some_iff.1 hmembers).1
    have hin := (mem_predicates_iff hnodup hmembers).2
      ⟨v, hv, DependencyGraph.getElem?_eq_name ((hclass v).1 hv).1⟩
    exact ⟨_, _, _, hsound.stratumOf?_eq_some_iff.2 ⟨mem_strata_iff.2 ⟨i, hi, rfl⟩, hin⟩, hpolarity, rfl,
      isShortCycle_cycleOf hnodup hmembers hviolation⟩

/-- The guilty are the accused without an excuse. One who accused the guilty is trusted; the trusted are
excused, and so is everyone with an alibi from someone they vouch for. -/
def verdicts : List Predicate :=
  [{ name := "verdicts", columns := [⟨"count", .int⟩]
     rules := [⟨[.var "n"], [.aggregate "n" .count none [] [.atom ⟨"guilty", [.var "x"]⟩]]⟩] },
    { name := "guilty", columns := [⟨"who", .int⟩]
      rules := [⟨[.var "x"],
        [.atom ⟨"accused", [.var "x", .wildcard]⟩, .negated ⟨"excused", [.var "x"]⟩]⟩] },
    { name := "excused", columns := [⟨"who", .int⟩]
      rules := [
        ⟨[.var "x"], [.atom ⟨"alibi", [.var "x", .var "y"]⟩, .atom ⟨"vouched", [.var "y"]⟩]⟩,
        ⟨[.var "x"], [.atom ⟨"trusted", [.var "x"]⟩]⟩] },
    { name := "vouched", columns := [⟨"who", .int⟩]
      rules := [⟨[.var "x"], [.atom ⟨"trusted", [.var "x"]⟩]⟩] },
    { name := "trusted", columns := [⟨"who", .int⟩]
      rules := [⟨[.var "y"],
        [.atom ⟨"accused", [.var "x", .var "y"]⟩, .atom ⟨"guilty", [.var "x"]⟩]⟩] }]

/-- The fault of those who vouch shows the negation of excuses and the short way back to it, which they are
not on. The number of verdicts has no fault, and counts on a lower level. -/
theorem faults_show_cycles_verdicts : (verdicts.map Predicate.name).Nodup ∧
    (ofPredicates verdicts).faultOf? "vouched" =
      some (.unstratifiable "vouched" .negative ["guilty", "excused", "trusted", "guilty"]) ∧
    IsShortCycle verdicts ["guilty", "excused", "vouched", "trusted"] .negative
      ["guilty", "excused", "trusted", "guilty"] ∧
    ¬CaughtInCycle verdicts "verdicts" ∧
    ∃ lower, (ofPredicates verdicts).stratumOf? "guilty" = some lower ∧ lower.level < 1 := by
  have hnodup : (verdicts.map Predicate.name).Nodup := by decide
  have hfault : (ofPredicates verdicts).faultOf? "vouched" =
      some (.unstratifiable "vouched" .negative ["guilty", "excused", "trusted", "guilty"]) := by
    decide +kernel
  have hstratum : (ofPredicates verdicts).stratumOf? "vouched" =
      some ⟨0, ["guilty", "excused", "vouched", "trusted"], true, [], 0⟩ := by decide +kernel
  have hcount : (ofPredicates verdicts).stratumOf? "verdicts" =
      some ⟨1, ["verdicts"], false, [0], 1⟩ := by decide +kernel
  have hnone : (ofPredicates verdicts).faultOf? "verdicts" = none := by decide +kernel
  have huses : Uses verdicts .aggregate "verdicts" "guilty" := uses_iff.2 (by decide)
  obtain ⟨hiff, hshows, hlower⟩ := faults_show_cycles hnodup
  refine ⟨hnodup, hfault, ?_, fun hcaught => ?_, hlower _ _ hcount hnone _ _ huses (by decide)⟩
  · obtain ⟨stratum, polarity, cycle, hfound, -, heq, hcycle⟩ := hshows _ _ hfault
    rw [hstratum] at hfound
    cases hfound
    cases heq
    exact hcycle
  · have hsome := (hiff "verdicts").2 hcaught
    rw [hnone] at hsome
    cases hsome

end Stratification

end Stratalog
