import Mathlib.Data.List.Sort
import Stratalog.Dependency.Stratification
import Stratalog.Proofs.Dependency.Components
import Stratalog.Proofs.Semantics.PerfectModel

/-!
# Strata

The strata of a list of predicates with names of their own are the classes of predicates that depend
on each other. Each stands after the strata it reads, on a higher level, so strata in order of
level are in order of dependence. A stratum without a recorded fault reads its members in positive
atoms only.
-/

namespace Stratalog

/-- The last position of a name is one of the name. -/
theorem getElem?_of_lastPosition? {names : List String} {name : String} {i : Nat}
    (h : lastPosition? names name = some i) : names[i]? = some name := by
  obtain ⟨⟨found, k⟩, hfind, rfl⟩ := Option.map_eq_some_iff.1 h
  have hname : found = name := by simpa using List.find?_some hfind
  have hmem := List.mem_reverse.1 (List.mem_of_find?_eq_some hfind)
  rw [List.mem_zipIdx_iff_getElem?] at hmem
  rwa [← hname]

/-- Where names do not repeat the last position of a name is its only one. -/
theorem lastPosition?_eq_some_iff {names : List String} (hnodup : names.Nodup) {name : String}
    {i : Nat} : lastPosition? names name = some i ↔ names[i]? = some name := by
  refine ⟨getElem?_of_lastPosition?, fun h => ?_⟩
  have hsome : (lastPosition? names name).isSome = true := by
    rw [lastPosition?, Option.isSome_map, List.find?_isSome]
    exact ⟨(name, i), List.mem_reverse.2 (List.mem_zipIdx_iff_getElem?.2 h), by simp⟩
  obtain ⟨j, hj⟩ := Option.isSome_iff_exists.1 hsome
  have hget := getElem?_of_lastPosition? hj
  obtain ⟨hlt, hi⟩ := List.getElem?_eq_some_iff.1 h
  obtain ⟨hlt', hj'⟩ := List.getElem?_eq_some_iff.1 hget
  rw [hj, hnodup.getElem_inj_iff.1 (hj'.trans hi.symm)]

namespace DependencyGraph

variable {predicates : List Predicate} {u v : Nat} {a b : String} {polarity : Polarity}

/-- An edge stands for a read. -/
theorem mem_edgesOf_iff (hnodup : (predicates.map Predicate.name).Nodup) :
    (v, polarity) ∈ (ofPredicates predicates).edgesOf u ↔
      ∃ predicate, predicates[u]? = some predicate ∧ ∃ name, (name, polarity) ∈ predicate.reads ∧
        (predicates.map Predicate.name)[v]? = some name := by
  rw [edgesOf, ofPredicates, List.getD_eq_getElem?_getD, List.getElem?_map]
  cases hget : predicates[u]? with
  | none => simp
  | some predicate =>
    simp only [Option.map_some, Option.getD_some, List.mem_eraseDups, List.mem_filterMap,
      Option.map_eq_some_iff, lastPosition?_eq_some_iff hnodup, Option.some.injEq]
    constructor
    · rintro ⟨⟨name, _⟩, hread, target, htarget, ⟨⟩⟩
      exact ⟨predicate, rfl, name, hread, htarget⟩
    · rintro ⟨_, rfl, name, hread, htarget⟩
      exact ⟨(name, polarity), hread, v, htarget, rfl⟩

/-- The successors of a node are the predicates read by its own. -/
theorem mem_next_iff (hnodup : (predicates.map Predicate.name).Nodup)
    (ha : (predicates.map Predicate.name)[u]? = some a)
    (hb : (predicates.map Predicate.name)[v]? = some b) :
    v ∈ (ofPredicates predicates).next u ↔ Reads predicates a b := by
  rw [List.getElem?_map] at ha
  obtain ⟨predicate, hget, rfl⟩ := Option.map_eq_some_iff.1 ha
  have hmem : predicate ∈ predicates := List.mem_of_getElem? hget
  simp only [next, List.mem_map, Prod.exists, exists_and_right, exists_eq_right,
    mem_edgesOf_iff hnodup]
  constructor
  · rintro ⟨polarity, reader, hreader, name, hread, hname⟩
    rw [hget] at hreader
    cases hreader
    rw [hb] at hname
    cases hname
    exact ⟨predicate, hmem, rfl, ⟨polarity, hread⟩, List.mem_of_getElem? hb⟩
  · rintro ⟨reader, hreader, hname, ⟨polarity, hread⟩, -⟩
    obtain rfl : reader = predicate := List.inj_on_of_nodup_map hnodup hreader hmem hname
    exact ⟨polarity, reader, hget, b, hread, hb⟩

/-- A successor is a node. -/
theorem exists_of_mem_next (hnodup : (predicates.map Predicate.name).Nodup)
    (h : v ∈ (ofPredicates predicates).next u) :
    ∃ b, (predicates.map Predicate.name)[v]? = some b := by
  obtain ⟨⟨_, polarity⟩, hedge, rfl⟩ := List.mem_map.1 h
  obtain ⟨-, -, name, -, hname⟩ := (mem_edgesOf_iff hnodup).1 hedge
  exact ⟨name, hname⟩

/-- The graph is closed: successors of its nodes are nodes. -/
theorem closed_next (hnodup : (predicates.map Predicate.name).Nodup) :
    Digraph.Closed (ofPredicates predicates).next (predicates.map Predicate.name).length := by
  intro u _ v hv
  obtain ⟨b, hb⟩ := exists_of_mem_next hnodup hv
  exact (List.getElem?_eq_some_iff.1 hb).1

/-- Edges lead to predicates, whether or not names repeat. -/
theorem lt_of_mem_next (h : v ∈ (ofPredicates predicates).next u) :
    v < (predicates.map Predicate.name).length := by
  obtain ⟨⟨_, polarity⟩, hedge, rfl⟩ := List.mem_map.1 h
  rw [edgesOf, ofPredicates, List.getD_eq_getElem?_getD, List.getElem?_map] at hedge
  cases hget : predicates[u]? with
  | none => simp [hget] at hedge
  | some predicate =>
    simp only [hget, Option.map_some, Option.getD_some, List.mem_eraseDups, List.mem_filterMap] at hedge
    obtain ⟨⟨name, _⟩, -, hread⟩ := hedge
    obtain ⟨target, hposition, heq⟩ := Option.map_eq_some_iff.1 hread
    cases heq
    exact (List.getElem?_eq_some_iff.1 (getElem?_of_lastPosition? hposition)).1

/-- A node leads to another exactly when its predicate depends on the other's. -/
theorem leads_iff (hnodup : (predicates.map Predicate.name).Nodup)
    (ha : (predicates.map Predicate.name)[u]? = some a)
    (hb : (predicates.map Predicate.name)[v]? = some b) :
    Digraph.Leads (ofPredicates predicates).next u v ↔ DependsOn predicates a b := by
  constructor
  · intro h
    induction h generalizing b with
    | refl =>
      rw [ha] at hb
      cases hb
      exact .refl
    | tail hprefix hstep ih =>
      rename_i middle last
      have hmiddle : middle < (predicates.map Predicate.name).length :=
        (closed_next hnodup).lt_of_leads (List.getElem?_eq_some_iff.1 ha).1 hprefix
      have hget := List.getElem?_eq_getElem hmiddle
      exact (ih hget).tail ((mem_next_iff hnodup hget hb).1 hstep)
  · intro h
    induction h generalizing v with
    | refl =>
      obtain ⟨hu, hau⟩ := List.getElem?_eq_some_iff.1 ha
      obtain ⟨hv, hbv⟩ := List.getElem?_eq_some_iff.1 hb
      rw [hnodup.getElem_inj_iff.1 (hau.trans hbv.symm)]
      exact .refl
    | tail _ hstep ih =>
      have hmem : _ ∈ predicates.map Predicate.name :=
        let ⟨reader, hreader, hname, _⟩ := hstep
        List.mem_map.2 ⟨reader, hreader, hname⟩
      obtain ⟨middle, hmiddle⟩ := List.getElem?_of_mem hmem
      exact (ih hmiddle).tail ((mem_next_iff hnodup hmiddle hb).2 hstep)

/-- The components are those of the graph. -/
theorem components_eq (predicates : List Predicate) : (ofPredicates predicates).components =
    Digraph.components (ofPredicates predicates).next (predicates.map Predicate.name).length := by
  have hnext : (fun v => ((ofPredicates predicates).edges.map fun out =>
      out.map Prod.fst).toArray.getD v []) = (ofPredicates predicates).next := by
    funext v
    simp only [next, edgesOf, Array.getD_eq_getD_getElem?, List.getElem?_toArray, List.getElem?_map,
      List.getD_eq_getElem?_getD]
    cases (ofPredicates predicates).edges[v]? <;> rfl
  rw [components, hnext]
  rfl

end DependencyGraph

/-- Building a list by one element after another, each made from those before, gives at each position
what is made there. -/
theorem getElem?_foldl_append {α β : Type} {make : List α → β → α} {items : List β}
    {start : List α} {i : Nat} {item : β} (hitem : items[i]? = some item) :
    (items.foldl (fun before item => before ++ [make before item]) start)[start.length + i]? =
      some (make ((items.foldl (fun before item => before ++ [make before item]) start).take
        (start.length + i)) item) := by
  have hprefix (items : List β) (start : List α) : ∃ more,
      items.foldl (fun before item => before ++ [make before item]) start = start ++ more := by
    induction items generalizing start with
    | nil => exact ⟨[], by simp⟩
    | cons item rest ih =>
      obtain ⟨more, hmore⟩ := ih (start ++ [make start item])
      exact ⟨make start item :: more, by rw [List.foldl_cons, hmore]; simp⟩
  induction items generalizing start i with
  | nil => cases hitem
  | cons first rest ih =>
    rw [List.foldl_cons]
    cases i with
    | zero =>
      cases hitem
      obtain ⟨more, hmore⟩ := hprefix rest (start ++ [make start item])
      rw [hmore]
      simp
    | succ i =>
      have hlength : start.length + (i + 1) = (start ++ [make start first]).length + i := by
        simp
        omega
      rw [hlength]
      exact ih hitem

/-- Building a list by one element after another gives as many. -/
theorem length_foldl_append {α β : Type} {make : List α → β → α} {items : List β}
    {start : List α} :
    (items.foldl (fun before item => before ++ [make before item]) start).length =
      start.length + items.length := by
  induction items generalizing start with
  | nil => rfl
  | cons item rest ih =>
    rw [List.foldl_cons, ih]
    simp
    omega

/-- A maximum is no less than what it is taken of. -/
theorem le_foldl_max {items : List Nat} {start a : Nat} (h : a ∈ items ∨ a ≤ start) :
    a ≤ items.foldl max start := by
  induction items generalizing start with
  | nil => exact h.resolve_left List.not_mem_nil
  | cons item rest ih =>
    rw [List.foldl_cons]
    refine ih ?_
    rcases h with h | h
    · rcases List.mem_cons.1 h with rfl | h
      · exact Or.inr (le_max_right _ _)
      · exact Or.inl h
    · exact Or.inr (h.trans (le_max_left _ _))

namespace Stratification

variable {predicates : List Predicate} {i : Nat} {members : List Nat} {name : String}

/-- There is one stratum per component. -/
theorem length_strata (predicates : List Predicate) : (ofPredicates predicates).strata.length =
    (DependencyGraph.ofPredicates predicates).components.length := by
  rw [ofPredicates, length_foldl_append, List.length_nil, Nat.zero_add]

/-- Each stratum is made from its component and the strata before it. -/
theorem stratum_eq (hmembers : (DependencyGraph.ofPredicates predicates).components[i]? =
    some members) : (ofPredicates predicates).stratum i =
      (DependencyGraph.ofPredicates predicates).stratumOf
        (DependencyGraph.ofPredicates predicates).components
        ((ofPredicates predicates).strata.take i) members := by
  have hget : (ofPredicates predicates).strata[([] : List Stratum).length + i]? =
      some ((DependencyGraph.ofPredicates predicates).stratumOf
        (DependencyGraph.ofPredicates predicates).components
        ((ofPredicates predicates).strata.take (([] : List Stratum).length + i)) members) :=
    getElem?_foldl_append hmembers
  rw [List.length_nil, Nat.zero_add] at hget
  rw [stratum, List.getD_eq_getElem?_getD]
  exact congrArg (Option.getD · default) hget

/-- The predicates of a stratum are those of the nodes of its component. -/
theorem mem_predicates_iff (hnodup : (predicates.map Predicate.name).Nodup)
    (hmembers : (DependencyGraph.ofPredicates predicates).components[i]? = some members) :
    name ∈ ((ofPredicates predicates).stratum i).predicates ↔
      ∃ v ∈ members, (predicates.map Predicate.name)[v]? = some name := by
  obtain ⟨hclasses, -, -⟩ := Digraph.components_spec (DependencyGraph.closed_next hnodup)
  rw [← DependencyGraph.components_eq] at hclasses
  obtain ⟨-, r, -, hclass⟩ := hclasses members (List.mem_of_getElem? hmembers)
  have hname (v : Nat) (hv : v ∈ members) : (predicates.map Predicate.name)[v]? =
      some ((DependencyGraph.ofPredicates predicates).name v) := by
    have hlt := ((hclass v).1 hv).1
    rw [DependencyGraph.name, DependencyGraph.ofPredicates, List.getD_eq_getElem?_getD,
      List.getElem?_eq_getElem hlt, Option.getD_some]
  rw [stratum_eq hmembers, DependencyGraph.stratumOf, List.mem_map]
  refine exists_congr fun v => and_congr_right fun hv => ?_
  rw [hname v hv, Option.some.injEq]

/-- What holds of the strata of any predicates: each is numbered by its position and depends on strata
before it, on lower levels, alone. -/
structure Layered (strata : Stratification) : Prop where
  id : ∀ i < strata.strata.length, (strata.stratum i).id = i
  below : ∀ i < strata.strata.length, ∀ d ∈ (strata.stratum i).dependsOn,
    d < i ∧ (strata.stratum d).level < (strata.stratum i).level

/-- What holds of the strata of predicates with names of their own. -/
structure Sound (strata : Stratification) (predicates : List Predicate) : Prop
    extends Layered strata where
  nodup : ∀ i < strata.strata.length, (strata.stratum i).predicates.Nodup
  nonempty : ∀ i < strata.strata.length, (strata.stratum i).predicates ≠ []
  member : ∀ i < strata.strata.length, ∀ name ∈ (strata.stratum i).predicates,
    name ∈ predicates.map Predicate.name
  covers : ∀ name ∈ predicates.map Predicate.name,
    ∃ i < strata.strata.length, name ∈ (strata.stratum i).predicates
  together : ∀ i < strata.strata.length, ∀ a ∈ (strata.stratum i).predicates,
    ∀ j < strata.strata.length, ∀ b ∈ (strata.stratum j).predicates,
      i = j ↔ Together predicates a b
  dependsOn : ∀ i < strata.strata.length, ∀ a ∈ (strata.stratum i).predicates,
    ∀ b, Reads predicates a b → b ∉ (strata.stratum i).predicates →
      ∃ d ∈ (strata.stratum i).dependsOn, b ∈ (strata.stratum d).predicates
  recursive : ∀ i < strata.strata.length, (strata.stratum i).recursive = false →
    ∀ a ∈ (strata.stratum i).predicates, ∀ b ∈ (strata.stratum i).predicates,
      ¬Reads predicates a b
  positive : ∀ i < strata.strata.length, ∀ a ∈ (strata.stratum i).predicates,
    strata.faultOf? a = none → ∀ predicate ∈ predicates,
      predicate.name ∈ (strata.stratum i).predicates → ∀ read ∈ predicate.reads,
        read.1 ∈ (strata.stratum i).predicates → read.2 = .positive

/-- A derived predicate that a member reads and that is no member has a lower stratum. -/
theorem Sound.lower_of_reads {strata : Stratification} {predicates : List Predicate} {i : Nat}
    (h : strata.Sound predicates) (hi : i < strata.strata.length) {predicate : Predicate}
    (hmem : predicate ∈ predicates) (hname : predicate.name ∈ (strata.stratum i).predicates)
    {read : String × Polarity} (hread : read ∈ predicate.reads)
    (hderived : read.1 ∈ predicates.map Predicate.name)
    (hnot : read.1 ∉ (strata.stratum i).predicates) :
    ∃ d ∈ (strata.stratum i).dependsOn, d < i ∧ read.1 ∈ (strata.stratum d).predicates := by
  obtain ⟨d, hd, hin⟩ := h.dependsOn i hi predicate.name hname read.1
    ⟨predicate, hmem, rfl, ⟨read.2, hread⟩, hderived⟩ hnot
  exact ⟨d, hd, (h.below i hi d hd).1, hin⟩

/-- The members of a stratum are the class of each of them. -/
theorem Sound.mem_iff_together {strata : Stratification} {predicates : List Predicate} {i : Nat}
    (h : strata.Sound predicates) (hi : i < strata.strata.length) {name : String}
    (hname : name ∈ (strata.stratum i).predicates) {predicate : Predicate}
    (hmem : predicate ∈ predicates) : predicate.name ∈ (strata.stratum i).predicates ↔
      Together predicates name predicate.name := by
  obtain ⟨j, hj, hin⟩ := h.covers predicate.name (List.mem_map_of_mem hmem)
  rw [← h.together i hi name hname j hj predicate.name hin]
  constructor
  · intro hother
    exact (h.together i hi predicate.name hother j hj predicate.name hin).2 (Together.refl _ _)
  · rintro rfl
    exact hin

/-- The position of the component of a node holds the node. -/
theorem exists_componentOf {components : List (List Nat)} {v : Nat}
    (h : ∃ members ∈ components, v ∈ members) :
    ∃ members, components[DependencyGraph.componentOf components v]? = some members ∧
      v ∈ members := by
  obtain ⟨members, hmem, hv⟩ := h
  have hlt : DependencyGraph.componentOf components v < components.length :=
    List.findIdx_lt_length_of_exists ⟨members, hmem, by simpa using hv⟩
  refine ⟨_, List.getElem?_eq_getElem hlt, ?_⟩
  exact List.contains_iff_mem.1 (List.findIdx_getElem (p := fun others : List Nat => others.contains v))

/-- The strata that a stratum depends on are those of the nodes its own lead to directly. -/
theorem mem_dependsOn_iff {graph : DependencyGraph} {components : List (List Nat)} {d : Nat} :
    d ∈ graph.dependsOn components members ↔ ∃ u ∈ members, ∃ v ∈ graph.next u,
      v ∉ members ∧ DependencyGraph.componentOf components v = d := by
  simp only [DependencyGraph.dependsOn, List.mem_mergeSort, List.mem_eraseDups, List.mem_map,
    List.mem_filter, List.mem_flatMap]
  constructor
  · rintro ⟨v, ⟨⟨u, hu, hv⟩, hnot⟩, rfl⟩
    exact ⟨u, hu, v, hv, by simpa using hnot, rfl⟩
  · rintro ⟨u, hu, v, hv, hnot, rfl⟩
    exact ⟨v, ⟨⟨u, hu, hv⟩, by simpa using hnot⟩, rfl⟩

/-- A stratum has a component. -/
theorem exists_members (hi : i < (ofPredicates predicates).strata.length) :
    ∃ members, (DependencyGraph.ofPredicates predicates).components[i]? = some members := by
  rw [length_strata] at hi
  exact ⟨_, List.getElem?_eq_getElem hi⟩

/-- Components are classes, hold every node, and never lead to later ones. -/
theorem components_spec (hnodup : (predicates.map Predicate.name).Nodup) :
    (∀ (i : Nat) (members : List Nat),
      (DependencyGraph.ofPredicates predicates).components[i]? = some members → members.Nodup ∧
        ∃ r < (predicates.map Predicate.name).length, ∀ v, v ∈ members ↔
          v < (predicates.map Predicate.name).length ∧
            Digraph.Mutual (DependencyGraph.ofPredicates predicates).next r v) ∧
      (∀ v < (predicates.map Predicate.name).length,
        ∃ members ∈ (DependencyGraph.ofPredicates predicates).components, v ∈ members) ∧
        ∀ (i j : Nat) (earlier later : List Nat),
          (DependencyGraph.ofPredicates predicates).components[i]? = some earlier →
          (DependencyGraph.ofPredicates predicates).components[j]? = some later →
            ∀ u ∈ earlier, ∀ v ∈ later,
              Digraph.Leads (DependencyGraph.ofPredicates predicates).next u v → j ≤ i := by
  obtain ⟨hclasses, hall, -⟩ := Digraph.components_spec (DependencyGraph.closed_next hnodup)
  rw [← DependencyGraph.components_eq] at hclasses hall
  refine ⟨fun i members hmembers => hclasses members (List.mem_of_getElem? hmembers), hall,
    fun i j earlier later hearlier hlater u hu v hv hlead => ?_⟩
  rw [DependencyGraph.components_eq] at hearlier hlater
  exact Digraph.le_of_leads (DependencyGraph.closed_next hnodup) hearlier hlater hu hv hlead

/-- The predicates of a stratum stand in the order of the program. -/
theorem predicates_sublist (hi : i < (ofPredicates predicates).strata.length) :
    ((ofPredicates predicates).stratum i).predicates.Sublist (predicates.map Predicate.name) := by
  obtain ⟨members, hmembers⟩ := exists_members hi
  have hlisted := List.mem_of_getElem? hmembers
  rw [DependencyGraph.components_eq] at hlisted
  have hnames : (List.range (predicates.map Predicate.name).length).map
      (DependencyGraph.ofPredicates predicates).name = predicates.map Predicate.name := by
    refine List.ext_getElem (by simp) fun v hv hv' => ?_
    rw [List.getElem_map, List.getElem_range, DependencyGraph.name, DependencyGraph.ofPredicates,
      List.getD_eq_getElem?_getD, List.getElem?_eq_getElem hv', Option.getD_some]
  have hclosed : Digraph.Closed (DependencyGraph.ofPredicates predicates).next
      (predicates.map Predicate.name).length := fun _ _ _ => DependencyGraph.lt_of_mem_next
  rw [stratum_eq hmembers, DependencyGraph.stratumOf, ← hnames]
  exact (Digraph.sublist_of_mem_components hclosed hlisted).map _

/-- Strata are the classes of predicates that depend on each other. -/
theorem eq_iff_together (hnodup : (predicates.map Predicate.name).Nodup) {j : Nat} {a b : String}
    (hi : i < (ofPredicates predicates).strata.length)
    (ha : a ∈ ((ofPredicates predicates).stratum i).predicates)
    (hj : j < (ofPredicates predicates).strata.length)
    (hb : b ∈ ((ofPredicates predicates).stratum j).predicates) :
    i = j ↔ Together predicates a b := by
  obtain ⟨hclasses, -, horder⟩ := components_spec hnodup
  obtain ⟨members, hmembers⟩ := exists_members hi
  obtain ⟨others, hothers⟩ := exists_members hj
  obtain ⟨u, hu, hua⟩ := (mem_predicates_iff hnodup hmembers).1 ha
  obtain ⟨v, hv, hvb⟩ := (mem_predicates_iff hnodup hothers).1 hb
  rw [Together, ← DependencyGraph.leads_iff hnodup hua hvb, ← DependencyGraph.leads_iff hnodup hvb hua]
  constructor
  · rintro rfl
    rw [hmembers] at hothers
    cases hothers
    obtain ⟨-, r, -, hclass⟩ := hclasses i members hmembers
    exact ((hclass u).1 hu).2.symm.trans ((hclass v).1 hv).2
  · rintro ⟨huv, hvu⟩
    exact le_antisymm (horder j i others members hothers hmembers v hv u hu hvu)
      (horder i j members others hmembers hothers u hu v hv huv)

/-- What a stratum reads outside itself belongs to a stratum it depends on. -/
theorem exists_dependsOn (hnodup : (predicates.map Predicate.name).Nodup) {a b : String}
    (hi : i < (ofPredicates predicates).strata.length)
    (ha : a ∈ ((ofPredicates predicates).stratum i).predicates) (hread : Reads predicates a b)
    (hb : b ∉ ((ofPredicates predicates).stratum i).predicates) :
    ∃ d ∈ ((ofPredicates predicates).stratum i).dependsOn,
      b ∈ ((ofPredicates predicates).stratum d).predicates := by
  obtain ⟨-, hall, -⟩ := components_spec hnodup
  obtain ⟨members, hmembers⟩ := exists_members hi
  obtain ⟨u, hu, hua⟩ := (mem_predicates_iff hnodup hmembers).1 ha
  obtain ⟨-, -, -, -, hname⟩ := id hread
  obtain ⟨v, hvb⟩ := List.getElem?_of_mem hname
  have hnext := (DependencyGraph.mem_next_iff hnodup hua hvb).2 hread
  have hnot : v ∉ members := fun hv => hb ((mem_predicates_iff hnodup hmembers).2 ⟨v, hv, hvb⟩)
  obtain ⟨others, hothers, hv⟩ := exists_componentOf (hall v (List.getElem?_eq_some_iff.1 hvb).1)
  refine ⟨_, ?_, (mem_predicates_iff hnodup hothers).2 ⟨v, hv, hvb⟩⟩
  rw [stratum_eq hmembers]
  exact mem_dependsOn_iff.2 ⟨u, hu, v, hnext, hnot, rfl⟩

/-- The strata that a stratum depends on come before it and are on lower levels. -/
theorem lt_of_mem_dependsOn {d : Nat} (hi : i < (ofPredicates predicates).strata.length)
    (hd : d ∈ ((ofPredicates predicates).stratum i).dependsOn) :
    d < i ∧ ((ofPredicates predicates).stratum d).level <
      ((ofPredicates predicates).stratum i).level := by
  have hclosed : Digraph.Closed (DependencyGraph.ofPredicates predicates).next
      (predicates.map Predicate.name).length := fun _ _ _ => DependencyGraph.lt_of_mem_next
  obtain ⟨members, hmembers⟩ := exists_members hi
  have hstratum := stratum_eq hmembers
  have hfound := hd
  rw [hstratum] at hfound
  obtain ⟨u, hu, v, hnext, hnot, rfl⟩ := mem_dependsOn_iff.1 hfound
  obtain ⟨-, hall, -⟩ := Digraph.components_spec hclosed
  rw [← DependencyGraph.components_eq] at hall
  obtain ⟨others, hothers, hmem⟩ := exists_componentOf (hall v (DependencyGraph.lt_of_mem_next hnext))
  have hle : DependencyGraph.componentOf (DependencyGraph.ofPredicates predicates).components v ≤ i :=
    Digraph.le_of_leads hclosed (DependencyGraph.components_eq predicates ▸ hmembers)
      (DependencyGraph.components_eq predicates ▸ hothers) hu hmem (.single hnext)
  have hne : DependencyGraph.componentOf (DependencyGraph.ofPredicates predicates).components v ≠ i := by
    intro heq
    rw [heq, hmembers] at hothers
    cases hothers
    exact hnot hmem
  have hlt := lt_of_le_of_ne hle hne
  refine ⟨hlt, ?_⟩
  have hbefore : ((ofPredicates predicates).strata.take i).getD
      (DependencyGraph.componentOf (DependencyGraph.ofPredicates predicates).components v) default =
        (ofPredicates predicates).stratum
          (DependencyGraph.componentOf (DependencyGraph.ofPredicates predicates).components v) := by
    rw [stratum, List.getD_eq_getElem?_getD, List.getD_eq_getElem?_getD, List.getElem?_take_of_lt hlt]
  rw [hstratum, ← hbefore]
  exact Nat.lt_of_succ_le (le_foldl_max (Or.inl (List.mem_map_of_mem hfound)))

/-- A read between members is an inner read. -/
theorem mem_innerReads {graph : DependencyGraph} {u v : Nat} {polarity : Polarity}
    (hu : u ∈ members) (hedge : (v, polarity) ∈ graph.edgesOf u) (hv : v ∈ members) :
    ⟨u, v, polarity⟩ ∈ graph.innerReads members := by
  refine List.mem_flatMap.2 ⟨u, hu, List.mem_filterMap.2 ⟨(v, polarity), hedge, ?_⟩⟩
  exact if_pos (List.contains_iff_mem.2 hv)

/-- A component one of whose predicates has no fault has no read that recursion does not allow. -/
theorem violation?_eq_none (hnodup : (predicates.map Predicate.name).Nodup)
    (hmembers : (DependencyGraph.ofPredicates predicates).components[i]? = some members)
    (hname : name ∈ ((ofPredicates predicates).stratum i).predicates)
    (hfault : (ofPredicates predicates).faultOf? name = none) :
    (DependencyGraph.ofPredicates predicates).violation? members = none := by
  by_contra hsome
  obtain ⟨violation, hviolation⟩ := Option.ne_none_iff_exists'.1 hsome
  obtain ⟨v, hv, hget⟩ := (mem_predicates_iff hnodup hmembers).1 hname
  have hnamed : (DependencyGraph.ofPredicates predicates).name v = name := by
    rw [DependencyGraph.name, DependencyGraph.ofPredicates, List.getD_eq_getElem?_getD, hget]
    rfl
  rw [faultOf?, Option.map_eq_none_iff, List.find?_eq_none] at hfault
  have hrecorded : ∃ fault, (name, fault) ∈
      (DependencyGraph.ofPredicates predicates).componentFaults members := by
    rw [DependencyGraph.componentFaults, hviolation, ← hnamed]
    exact ⟨_, List.mem_map_of_mem hv⟩
  obtain ⟨fault, hfaults⟩ := hrecorded
  have hlisted : (name, fault) ∈ (ofPredicates predicates).faults :=
    List.mem_flatMap.2 ⟨members, List.mem_of_getElem? hmembers, hfaults⟩
  exact hfault _ (List.mem_reverse.2 hlisted) (by simp)

/-- A recursive stratum has a member that reads a member. -/
theorem exists_reads_of_recursive (hnodup : (predicates.map Predicate.name).Nodup)
    (hi : i < (ofPredicates predicates).strata.length)
    (hrecursive : ((ofPredicates predicates).stratum i).recursive = true) :
    ∃ a ∈ ((ofPredicates predicates).stratum i).predicates,
      ∃ b ∈ ((ofPredicates predicates).stratum i).predicates, Reads predicates a b := by
  obtain ⟨members, hmembers⟩ := exists_members hi
  obtain ⟨-, r, -, hclass⟩ := (components_spec hnodup).1 i members hmembers
  rw [stratum_eq hmembers, DependencyGraph.stratumOf] at hrecursive
  have hsome : (DependencyGraph.ofPredicates predicates).innerReads members ≠ [] := by
    simpa using hrecursive
  obtain ⟨read, hread⟩ := List.exists_mem_of_ne_nil _ hsome
  obtain ⟨u, hu, hinner⟩ := List.mem_flatMap.1 hread
  obtain ⟨⟨v, polarity⟩, hedge, hinside⟩ := List.mem_filterMap.1 hinner
  simp only [Option.ite_none_right_eq_some, List.contains_iff_mem] at hinside
  have hua := List.getElem?_eq_getElem ((hclass u).1 hu).1
  have hvb := List.getElem?_eq_getElem ((hclass v).1 hinside.1).1
  exact ⟨_, (mem_predicates_iff hnodup hmembers).2 ⟨u, hu, hua⟩, _,
    (mem_predicates_iff hnodup hmembers).2 ⟨v, hinside.1, hvb⟩,
    (DependencyGraph.mem_next_iff hnodup hua hvb).1 (List.mem_map.2 ⟨_, hedge, rfl⟩)⟩

/-- A stratum that is not recursive reads no member of its own. -/
theorem not_reads_of_not_recursive (hnodup : (predicates.map Predicate.name).Nodup) {a b : String}
    (hi : i < (ofPredicates predicates).strata.length)
    (hrecursive : ((ofPredicates predicates).stratum i).recursive = false)
    (ha : a ∈ ((ofPredicates predicates).stratum i).predicates)
    (hb : b ∈ ((ofPredicates predicates).stratum i).predicates) : ¬Reads predicates a b := by
  intro hread
  obtain ⟨members, hmembers⟩ := exists_members hi
  obtain ⟨u, hu, hua⟩ := (mem_predicates_iff hnodup hmembers).1 ha
  obtain ⟨v, hv, hvb⟩ := (mem_predicates_iff hnodup hmembers).1 hb
  obtain ⟨⟨target, polarity⟩, hedge, rfl⟩ :=
    List.mem_map.1 ((DependencyGraph.mem_next_iff hnodup hua hvb).2 hread)
  rw [stratum_eq hmembers, DependencyGraph.stratumOf] at hrecursive
  have hnone : (DependencyGraph.ofPredicates predicates).innerReads members = [] := by
    simpa using hrecursive
  have hinner := mem_innerReads hu hedge hv
  rw [hnone] at hinner
  exact List.not_mem_nil hinner

/-- A stratum one of whose members has no fault reads its members in positive atoms only. -/
theorem positive_of_faultOf? (hnodup : (predicates.map Predicate.name).Nodup) {a : String}
    (hi : i < (ofPredicates predicates).strata.length)
    (ha : a ∈ ((ofPredicates predicates).stratum i).predicates)
    (hfault : (ofPredicates predicates).faultOf? a = none) {predicate : Predicate}
    (hmem : predicate ∈ predicates)
    (hname : predicate.name ∈ ((ofPredicates predicates).stratum i).predicates)
    {read : String × Polarity} (hread : read ∈ predicate.reads)
    (hinside : read.1 ∈ ((ofPredicates predicates).stratum i).predicates) :
    read.2 = .positive := by
  obtain ⟨members, hmembers⟩ := exists_members hi
  obtain ⟨u, hu, hua⟩ := (mem_predicates_iff hnodup hmembers).1 hname
  obtain ⟨v, hv, hvb⟩ := (mem_predicates_iff hnodup hmembers).1 hinside
  have hget : predicates[u]? = some predicate := by
    rw [List.getElem?_map] at hua
    obtain ⟨other, hother, heq⟩ := Option.map_eq_some_iff.1 hua
    rw [hother, List.inj_on_of_nodup_map hnodup (List.mem_of_getElem? hother) hmem heq]
  have hedge : (v, read.2) ∈ (DependencyGraph.ofPredicates predicates).edgesOf u :=
    (DependencyGraph.mem_edgesOf_iff hnodup).2 ⟨predicate, hget, read.1, hread, hvb⟩
  have hnone := violation?_eq_none hnodup hmembers ha hfault
  have hmonotone := List.find?_eq_none.1 hnone _ (mem_innerReads hu hedge hv)
  cases hpolarity : read.2 with
  | positive => rfl
  | negative => simp [hpolarity, Polarity.isMonotone] at hmonotone
  | aggregate => simp [hpolarity, Polarity.isMonotone] at hmonotone

/-- A derived predicate stands in some stratum. -/
theorem exists_mem_predicates (hname : name ∈ predicates.map Predicate.name) :
    ∃ i < (ofPredicates predicates).strata.length,
      name ∈ ((ofPredicates predicates).stratum i).predicates := by
  have hclosed : Digraph.Closed (DependencyGraph.ofPredicates predicates).next
      (predicates.map Predicate.name).length := fun _ _ _ => DependencyGraph.lt_of_mem_next
  obtain ⟨v, hv⟩ := List.getElem?_of_mem hname
  obtain ⟨-, hall, -⟩ := Digraph.components_spec hclosed
  obtain ⟨members, hmem, hmember⟩ := hall v (List.getElem?_eq_some_iff.1 hv).1
  rw [← DependencyGraph.components_eq] at hmem
  obtain ⟨i, hmembers⟩ := List.getElem?_of_mem hmem
  refine ⟨i, ?_, ?_⟩
  · rw [length_strata]
    exact (List.getElem?_eq_some_iff.1 hmembers).1
  · rw [stratum_eq hmembers, DependencyGraph.stratumOf]
    refine List.mem_map.2 ⟨v, hmember, ?_⟩
    rw [DependencyGraph.name, DependencyGraph.ofPredicates, List.getD_eq_getElem?_getD, hv]
    rfl

/-- The strata of any predicates are numbered in order of dependence. -/
theorem layered_ofPredicates (predicates : List Predicate) : (ofPredicates predicates).Layered where
  id i hi := by
    obtain ⟨members, hmembers⟩ := exists_members hi
    rw [stratum_eq hmembers, DependencyGraph.stratumOf]
    exact List.length_take_of_le hi.le
  below i hi d := lt_of_mem_dependsOn hi

/-- The strata of predicates with names of their own are as they should be. -/
theorem sound_ofPredicates (hnodup : (predicates.map Predicate.name).Nodup) :
    (ofPredicates predicates).Sound predicates where
  toLayered := layered_ofPredicates predicates
  nodup i hi := by
    obtain ⟨members, hmembers⟩ := exists_members hi
    obtain ⟨hclasses, -, -⟩ := components_spec hnodup
    obtain ⟨hmembersNodup, r, -, hclass⟩ := hclasses i members hmembers
    rw [stratum_eq hmembers, DependencyGraph.stratumOf]
    refine (List.nodup_map_iff_inj_on hmembersNodup).2 fun u hu v hv heq => ?_
    have hu' := ((hclass u).1 hu).1
    have hv' := ((hclass v).1 hv).1
    simp only [DependencyGraph.name, DependencyGraph.ofPredicates, List.getD_eq_getElem?_getD,
      List.getElem?_eq_getElem hu', List.getElem?_eq_getElem hv', Option.getD_some] at heq
    exact hnodup.getElem_inj_iff.1 heq
  nonempty i hi := by
    obtain ⟨members, hmembers⟩ := exists_members hi
    obtain ⟨hclasses, -, -⟩ := components_spec hnodup
    obtain ⟨-, r, hr, hclass⟩ := hclasses i members hmembers
    have hmem : r ∈ members := (hclass r).2 ⟨hr, Digraph.Mutual.refl _ r⟩
    exact List.ne_nil_of_mem ((mem_predicates_iff hnodup hmembers).2
      ⟨r, hmem, List.getElem?_eq_getElem hr⟩)
  member i hi name hname := by
    obtain ⟨members, hmembers⟩ := exists_members hi
    obtain ⟨v, -, hv⟩ := (mem_predicates_iff hnodup hmembers).1 hname
    exact List.mem_of_getElem? hv
  covers name hname := exists_mem_predicates hname
  together i hi a ha j hj b hb := eq_iff_together hnodup hi ha hj hb
  dependsOn i hi a ha b := exists_dependsOn hnodup hi ha
  recursive i hi hrecursive a ha b hb := not_reads_of_not_recursive hnodup hi hrecursive ha hb
  positive i hi a ha hfault predicate hmem hname read :=
    positive_of_faultOf? hnodup hi ha hfault hmem hname

end Stratification

end Stratalog
