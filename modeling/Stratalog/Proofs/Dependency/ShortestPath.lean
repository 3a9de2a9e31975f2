import Mathlib.Data.List.Chain
import Stratalog.Proofs.Dependency.Reach

/-!
# Shortest paths

A breadth-first search takes up the nodes in the order in which it met them. Each was met on a path, which
the search does not keep: it is what one gets by going back from each node to the one it was met from. These
paths never get shorter, and those of the nodes that wait differ by no more than one step; every successor of
a node taken up was met on a path that is at most one step longer than the node's own. So along every path to
the target some node still waits, on a path that leaves no less to go, and when the target is taken up, the
way back from it is a shortest path.
-/

namespace Stratalog.Digraph

/-- A list of nodes that leads from one to another, each a successor of the one before. -/
structure IsPath (next : Nat → List Nat) (source target : Nat) (path : List Nat) : Prop where
  steps : path.IsChain fun u v => v ∈ next u
  starts : path.head? = some source
  ends : path.getLast? = some target

/-- A path that no path between the same nodes is shorter than. -/
structure IsShortestPath (next : Nat → List Nat) (source target : Nat) (path : List Nat) : Prop
    extends IsPath next source target path where
  shortest : ∀ other, IsPath next source target other → path.length ≤ other.length

/-- A breadth-first search after it took up nodes on the paths in `done`, where others wait on those in
`waiting`. All the paths are written from their ends. -/
structure Searching (next : Nat → List Nat) (source target : Nat) (done waiting : List (List Nat))
    (search : Search) : Prop where
  paths : ∀ path ∈ done ++ waiting, ∃ v, IsPath next source v path.reverse
  queue : search.queue = waiting.filterMap List.head?
  known : ∀ v, v ∈ search.seen ↔ v ∈ (done ++ waiting).filterMap List.head?
  nodup : ((done ++ waiting).filterMap List.head?).Nodup
  simple : ∀ path ∈ done ++ waiting, path.Nodup ∧ ∀ v ∈ path, v ∈ search.seen
  parents : ∀ path ∈ done ++ waiting, path.IsChain fun w u => search.parent[w]? = some u
  start : [source] ∈ done ++ waiting
  ordered : (done ++ waiting).Pairwise fun path later => path.length ≤ later.length
  near : waiting.Pairwise fun path later => later.length ≤ path.length + 1
  past : ∀ path ∈ done, path.head? ≠ some target
  met : ∀ path ∈ done, ∀ v, path.head? = some v → ∀ w ∈ next v, ∃ other ∈ done ++ waiting,
    other.head? = some w ∧ other.length ≤ path.length + 1

variable {next : Nat → List Nat} {n source target u v w : Nat} {path : List Nat}
  {done waiting : List (List Nat)} {search : Search}

/-- One node is a path to itself. -/
theorem IsPath.single (next : Nat → List Nat) (v : Nat) : IsPath next v v [v] :=
  ⟨List.isChain_singleton v, rfl, rfl⟩

/-- A path goes on to a successor of its end. -/
theorem IsPath.concat (h : IsPath next source v path) (hstep : w ∈ next v) :
    IsPath next source w (path ++ [w]) where
  steps := by
    refine List.isChain_append.2 ⟨h.steps, List.isChain_singleton w, fun x hx y hy => ?_⟩
    rw [h.ends, Option.mem_some_iff] at hx
    rw [List.head?_cons, Option.mem_some_iff] at hy
    exact hx ▸ hy ▸ hstep
  starts := by rw [List.head?_append, h.starts, Option.some_or]
  ends := List.getLast?_concat

/-- A path stays among the nodes. -/
theorem IsPath.lt (hclosed : Closed next n) (hsource : source < n) (h : IsPath next source v path) :
    ∀ u ∈ path, u < n := by
  obtain ⟨hsteps, hstarts, -⟩ := h
  induction path generalizing source with
  | nil => simp
  | cons first rest ih =>
    cases hstarts
    refine List.forall_mem_cons.2 ⟨hsource, fun u hu => ?_⟩
    cases rest with
    | nil => exact absurd hu List.not_mem_nil
    | cons second rest =>
      obtain ⟨hstep, hrest⟩ := List.isChain_cons_cons.1 hsteps
      exact ih (hclosed first hsource second hstep) hrest rfl u hu

/-- What a node leads to is at the end of a path from it. -/
theorem Leads.exists_isPath (h : Leads next u v) : ∃ path, IsPath next u v path := by
  induction h with
  | refl => exact ⟨[u], IsPath.single next u⟩
  | tail _ hstep ih =>
    obtain ⟨path, hpath⟩ := ih
    exact ⟨path ++ [_], hpath.concat hstep⟩

/-- The successors not seen yet, each once. -/
def Search.fresh (search : Search) (ws : List Nat) : List Nat :=
  (ws.filter fun w => !search.seen.contains w).eraseDups

/-- What is fresh was not seen. -/
theorem Search.mem_fresh_iff {ws : List Nat} : w ∈ search.fresh ws ↔ w ∈ ws ∧ w ∉ search.seen := by
  rw [fresh, List.mem_eraseDups, List.mem_filter, Bool.not_eq_true', ← Bool.not_eq_true,
    Std.TreeSet.contains_iff_mem]

/-- What was seen is not fresh. -/
theorem Search.fresh_cons_of_mem {ws : List Nat} (h : w ∈ search.seen) :
    search.fresh (w :: ws) = search.fresh ws := by
  rw [fresh, List.filter_cons_of_neg (by simpa using h), fresh]

/-- What was not seen is fresh, and is not once it was met. -/
theorem Search.fresh_cons_of_not_mem {ws : List Nat} {search' : Search} (h : w ∉ search.seen)
    (hseen : search'.seen = search.seen.insert w) :
    search.fresh (w :: ws) = w :: search'.fresh ws := by
  have hfilter : (ws.filter fun x => !search.seen.contains x).filter (fun x => !x == w) =
      ws.filter fun x => !search'.seen.contains x := by
    rw [List.filter_filter, hseen]
    refine List.filter_congr fun x _ => ?_
    have hsame : (x == w) = (compare w x == .eq) := by
      rw [Bool.eq_iff_iff, beq_iff_eq, beq_iff_eq, Std.LawfulEqOrd.compare_eq_iff_eq, eq_comm]
    rw [Std.TreeSet.contains_insert, Bool.not_or, hsame]
  have hnew : (!search.seen.contains w) = true := by
    rw [Bool.not_eq_true', ← Bool.not_eq_true, Std.TreeSet.contains_iff_mem]
    exact h
  rw [fresh, List.filter_cons, if_pos hnew, List.eraseDups_cons, hfilter, fresh]

/-- Meeting successors puts the fresh ones into the queue, in order, each met from the node. -/
theorem Search.foldl_meet (v : Nat) (ws : List Nat) (search : Search) :
    (ws.foldl (Search.meet v) search).queue = search.queue ++ search.fresh ws ∧
      (∀ w, w ∈ (ws.foldl (Search.meet v) search).seen ↔ w ∈ search.seen ∨ w ∈ search.fresh ws) ∧
        ∀ w, (ws.foldl (Search.meet v) search).parent[w]? =
          if w ∈ search.fresh ws then some v else search.parent[w]? := by
  induction ws generalizing search with
  | nil => simp [fresh]
  | cons x ws ih =>
    obtain ⟨hqueue, hseen, hparent⟩ := ih (search.meet v x)
    rw [List.foldl_cons, hqueue]
    by_cases hmem : x ∈ search.seen
    · have hsame : search.meet v x = search := if_pos (Std.TreeSet.contains_iff_mem.2 hmem)
      rw [hsame] at hseen hparent ⊢
      rw [fresh_cons_of_mem hmem]
      exact ⟨rfl, hseen, hparent⟩
    · have hmet : search.meet v x = { parent := search.parent.insert x v, seen := search.seen.insert x,
                                      queue := search.queue ++ [x] } :=
        if_neg (mt Std.TreeSet.contains_iff_mem.1 hmem)
      rw [fresh_cons_of_not_mem hmem (congrArg Search.seen hmet)]
      refine ⟨?_, fun w => ?_, fun w => ?_⟩
      · rw [hmet, List.append_assoc, List.singleton_append]
      · rw [hseen, List.mem_cons, congrArg Search.seen hmet, mem_insert_iff, or_assoc, or_left_comm]
      · rw [hparent, congrArg Search.parent hmet, Std.TreeMap.getElem?_insert]
        by_cases hlater : w ∈ (search.meet v x).fresh ws
        · rw [if_pos hlater, if_pos (List.mem_cons_of_mem _ hlater)]
        · rw [if_neg hlater]
          refine if_congr ?_ rfl rfl
          rw [Std.LawfulEqOrd.compare_eq_iff_eq, List.mem_cons, or_iff_left hlater, eq_comm]

/-- Going back along a path on which each node was met from the next gives the path. -/
theorem traceBack_eq {parent : Std.TreeMap Nat Nat} {fuel : Nat} {rest after : List Nat}
    (hparents : (v :: rest).IsChain fun w u => parent[w]? = some u) (hnodup : (v :: rest).Nodup)
    (hlast : (v :: rest).getLast? = some source) (hfuel : rest.length ≤ fuel) :
    traceBack parent source fuel v (v :: after) = (v :: rest).reverse ++ after := by
  induction rest generalizing v after fuel with
  | nil =>
    obtain rfl : v = source := by simpa using hlast
    cases fuel with
    | zero => rfl
    | succ fuel => rw [traceBack, if_pos rfl, List.reverse_singleton, List.singleton_append]
  | cons u rest ih =>
    obtain ⟨hstep, hchain⟩ := List.isChain_cons_cons.1 hparents
    obtain ⟨hv, hrest⟩ := List.nodup_cons.1 hnodup
    rw [List.getLast?_cons_cons] at hlast
    have hne : v ≠ source := fun heq => hv (heq ▸ List.mem_of_getLast? hlast)
    cases fuel with
    | zero => cases hfuel
    | succ fuel =>
      rw [traceBack, if_neg hne, hstep]
      rw [List.reverse_cons, List.append_assoc, List.singleton_append]
      exact ih hchain hrest hlast (Nat.le_of_succ_le_succ hfuel)

namespace Searching

/-- At first the source alone waits. -/
theorem start_spec (next : Nat → List Nat) (source target : Nat) :
    Searching next source target [] [[source]] { seen := {source}, queue := [source] } where
  paths path hpath := ⟨source, List.mem_singleton.1 hpath ▸ IsPath.single next source⟩
  queue := rfl
  known v := by
    refine mem_insert_iff.trans ?_
    simp
  nodup := List.nodup_singleton source
  simple path hpath := by
    obtain rfl := List.mem_singleton.1 hpath
    simp
  parents path hpath := by
    obtain rfl := List.mem_singleton.1 hpath
    exact List.isChain_singleton source
  start := List.mem_singleton_self _
  ordered := List.pairwise_singleton _ _
  near := List.pairwise_singleton _ _
  past path hpath := absurd hpath List.not_mem_nil
  met path hpath := absurd hpath List.not_mem_nil

/-- From a node that was met every path to the target passes a node that waits, on a path that leaves no
less to go. -/
theorem exists_waiting (h : Searching next source target done waiting search) {rest : List Nat}
    (hmet : path ∈ done ++ waiting) (hhead : path.head? = some u)
    (hrest : IsPath next u target (u :: rest)) :
    ∃ later ∈ waiting, later.length ≤ path.length + rest.length := by
  induction rest generalizing path u with
  | nil =>
    have hend : u = target := by simpa using hrest.ends
    refine ⟨path, (List.mem_append.1 hmet).resolve_left fun hdone => ?_, Nat.le_add_right _ _⟩
    exact h.past path hdone (hend ▸ hhead)
  | cons w rest ih =>
    rcases List.mem_append.1 hmet with hdone | hwaiting
    · obtain ⟨hstep, hchain⟩ := List.isChain_cons_cons.1 hrest.steps
      obtain ⟨other, hother, hw, hlength⟩ := h.met path hdone u hhead w hstep
      have hlast : (w :: rest).getLast? = some target := by
        rw [← hrest.ends, List.getLast?_cons_cons]
      obtain ⟨later, hlater, hle⟩ := ih hother hw ⟨hchain, rfl, hlast⟩
      refine ⟨later, hlater, hle.trans ?_⟩
      rw [List.length_cons]
      omega
    · exact ⟨path, hwaiting, Nat.le_add_right _ _⟩

/-- Some path waits that is no longer than a given path to the target. -/
theorem exists_waiting_le (h : Searching next source target done waiting search)
    (hpath : IsPath next source target path) : ∃ later ∈ waiting, later.length ≤ path.length := by
  cases path with
  | nil => cases hpath.starts
  | cons first rest =>
    obtain rfl : first = source := by simpa using hpath.starts
    obtain ⟨later, hlater, hle⟩ := h.exists_waiting h.start rfl hpath
    refine ⟨later, hlater, hle.trans ?_⟩
    rw [List.length_singleton, List.length_cons, Nat.add_comm]

/-- When the target is taken up, the path on which it was met is a shortest one. -/
theorem isShortestPath (h : Searching next source target done ((target :: path) :: waiting) search) :
    IsShortestPath next source target (target :: path).reverse := by
  obtain ⟨v, hpath⟩ := h.paths (target :: path) (by simp)
  have hend : v = target := by simpa using hpath.ends.symm
  refine ⟨hend ▸ hpath, fun other hother => ?_⟩
  obtain ⟨later, hlater, hle⟩ := h.exists_waiting_le hother
  rw [List.length_reverse]
  obtain ⟨-, hordered, -⟩ := List.pairwise_append.1 h.ordered
  rcases List.mem_cons.1 hlater with rfl | hafter
  · exact hle
  · exact ((List.pairwise_cons.1 hordered).1 later hafter).trans hle

/-- Every path is at most one step longer than the first that waits. -/
theorem length_le_succ (h : Searching next source target done (path :: waiting) search) :
    ∀ old ∈ done ++ path :: waiting, old.length ≤ path.length + 1 := by
  obtain ⟨-, -, hbefore⟩ := List.pairwise_append.1 h.ordered
  intro old hold
  rcases List.mem_append.1 hold with hold | hold
  · exact (hbefore old hold _ List.mem_cons_self).trans (Nat.le_succ _)
  · rcases List.mem_cons.1 hold with rfl | hold
    · exact Nat.le_succ _
    · exact (List.pairwise_cons.1 h.near).1 old hold

/-- A node on a path was seen, so meeting the successors of some node leaves it met from where it was. -/
theorem isChain_meet (h : Searching next source target done waiting search) (v : Nat) (queue : List Nat)
    (hpath : path ∈ done ++ waiting) : path.IsChain fun w u =>
      ((next v).foldl (Search.meet v) { search with queue }).parent[w]? = some u := by
  obtain ⟨-, -, hparent'⟩ := Search.foldl_meet v (next v) { search with queue }
  refine (h.parents path hpath).imp_of_mem_imp fun w u hw _ hparent => ?_
  rw [hparent', if_neg, hparent]
  exact fun hfresh => (Search.mem_fresh_iff.1 hfresh).2 ((h.simple path hpath).2 w hw)

/-- Taking up a node that is not the target leaves the search as it should be. -/
theorem step (h : Searching next source target done ((v :: path) :: waiting) search) (hv : v ≠ target)
    {queue : List Nat} (hqueue : search.queue = v :: queue) :
    Searching next source target (done ++ [v :: path])
      (waiting ++ (search.fresh (next v)).map (· :: v :: path))
      ((next v).foldl (Search.meet v) { search with queue }) := by
  have hsame : (done ++ [v :: path]) ++ (waiting ++ (search.fresh (next v)).map (· :: v :: path)) =
      (done ++ (v :: path) :: waiting) ++ (search.fresh (next v)).map (· :: v :: path) := by simp
  have hheads : ((search.fresh (next v)).map (· :: v :: path)).filterMap List.head? =
      search.fresh (next v) := by
    simp [Function.comp_def]
  obtain ⟨hqueue', hseen', hparent'⟩ := Search.foldl_meet v (next v) { search with queue }
  obtain ⟨u, hpath⟩ := h.paths (v :: path) (by simp)
  obtain rfl : u = v := by simpa using hpath.ends.symm
  obtain ⟨-, hordered, -⟩ := List.pairwise_append.1 h.ordered
  obtain ⟨hfirst, -⟩ := List.pairwise_cons.1 hordered
  constructor
  case paths =>
    rw [hsame]
    intro other hother
    rcases List.mem_append.1 hother with hother | hother
    · exact h.paths other hother
    · obtain ⟨w, hw, rfl⟩ := List.mem_map.1 hother
      exact ⟨w, by simpa using hpath.concat (Search.mem_fresh_iff.1 hw).1⟩
  case queue =>
    have hrest : queue = waiting.filterMap List.head? := by
      have hold := h.queue
      rw [hqueue] at hold
      exact (List.cons.inj hold).2
    rw [hqueue', List.filterMap_append, hheads, ← hrest]
    rfl
  case known =>
    intro w
    rw [hseen', hsame, List.filterMap_append, hheads, List.mem_append, ← h.known]
    rfl
  case nodup =>
    rw [hsame, List.filterMap_append, hheads]
    refine List.nodup_append.2 ⟨h.nodup, nodup_eraseDups _, fun a ha b hb heq => ?_⟩
    exact (Search.mem_fresh_iff.1 hb).2 ((h.known b).2 (heq ▸ ha))
  case simple =>
    rw [hsame]
    intro other hother
    rcases List.mem_append.1 hother with hother | hother
    · obtain ⟨hnodup, hseen⟩ := h.simple other hother
      exact ⟨hnodup, fun w hw => (hseen' w).2 (.inl (hseen w hw))⟩
    · obtain ⟨w, hw, rfl⟩ := List.mem_map.1 hother
      obtain ⟨hnodup, hseen⟩ := h.simple (u :: path) (by simp)
      refine ⟨List.nodup_cons.2 ⟨fun hmem => ?_, hnodup⟩, List.forall_mem_cons.2 ⟨?_, fun x hx => ?_⟩⟩
      · exact (Search.mem_fresh_iff.1 hw).2 (hseen w hmem)
      · exact (hseen' w).2 (.inr hw)
      · exact (hseen' x).2 (.inl (hseen x hx))
  case parents =>
    rw [hsame]
    intro other hother
    rcases List.mem_append.1 hother with hother | hother
    · exact h.isChain_meet u queue hother
    · obtain ⟨w, hw, rfl⟩ := List.mem_map.1 hother
      refine List.isChain_cons_cons.2 ⟨?_, h.isChain_meet u queue (by simp)⟩
      rw [hparent']
      exact if_pos hw
  case start =>
    rw [hsame]
    exact List.mem_append_left _ h.start
  case ordered =>
    rw [hsame]
    refine List.pairwise_append.2 ⟨h.ordered, ?_, fun old hold new hnew => ?_⟩
    · exact List.pairwise_map.2 (List.pairwise_of_forall fun _ _ => le_rfl)
    · obtain ⟨w, -, rfl⟩ := List.mem_map.1 hnew
      exact h.length_le_succ old hold
  case near =>
    refine List.pairwise_append.2 ⟨(List.pairwise_cons.1 h.near).2, ?_, fun old hold new hnew => ?_⟩
    · exact List.pairwise_map.2 (List.pairwise_of_forall fun _ _ => Nat.le_succ _)
    · obtain ⟨w, -, rfl⟩ := List.mem_map.1 hnew
      exact Nat.succ_le_succ (hfirst old hold)
  case past =>
    intro other hother
    rcases List.mem_append.1 hother with hother | hother
    · exact h.past other hother
    · rw [List.mem_singleton.1 hother]
      simpa using hv
  case met =>
    rw [hsame]
    intro other hother x hx w hw
    rcases List.mem_append.1 hother with hother | hother
    · obtain ⟨found, hfound, hhead, hlength⟩ := h.met other hother x hx w hw
      exact ⟨found, List.mem_append_left _ hfound, hhead, hlength⟩
    · rw [List.mem_singleton.1 hother] at hx ⊢
      obtain rfl : u = x := by simpa using hx
      by_cases hseen : w ∈ search.seen
      · obtain ⟨found, hfound, hhead⟩ := List.mem_filterMap.1 ((h.known w).1 hseen)
        exact ⟨found, List.mem_append_left _ hfound, hhead, h.length_le_succ found hfound⟩
      · refine ⟨w :: u :: path, List.mem_append_right _ (List.mem_map.2 ⟨w, ?_, rfl⟩), rfl, le_rfl⟩
        exact Search.mem_fresh_iff.2 ⟨hw, hseen⟩

/-- There are never more paths than nodes. -/
theorem length_le (h : Searching next source target done waiting search) (hclosed : Closed next n)
    (hsource : source < n) : done.length + waiting.length ≤ n := by
  have hpaths : ((done ++ waiting).filterMap List.head?).length = (done ++ waiting).length := by
    rw [List.filterMap_length_eq_length]
    intro path hpath
    obtain ⟨v, hv⟩ := h.paths path hpath
    have hend : path.head? = some v := by simpa using hv.ends
    rw [hend, Option.isSome_some]
  rw [← List.length_append, ← hpaths]
  refine length_le_of_nodup h.nodup fun v hv => ?_
  obtain ⟨path, hpath, hhead⟩ := List.mem_filterMap.1 hv
  obtain ⟨u, hu⟩ := h.paths path hpath
  exact hu.lt hclosed hsource v (List.mem_reverse.2 (List.mem_of_head? hhead))

/-- The way back from the target is the path on which it was met. -/
theorem traceBack_eq (h : Searching next source target done ((target :: path) :: waiting) search)
    (hclosed : Closed next n) (hsource : source < n) :
    traceBack search.parent source n target [target] = (target :: path).reverse := by
  obtain ⟨v, hpath⟩ := h.paths (target :: path) (by simp)
  obtain ⟨hnodup, -⟩ := h.simple (target :: path) (by simp)
  have hlast : (target :: path).getLast? = some source := by
    rw [← hpath.starts, List.head?_reverse]
  have hle := length_le_of_nodup hnodup fun u hu =>
    hpath.lt hclosed hsource u (List.mem_reverse.2 hu)
  rw [← List.append_nil (target :: path).reverse]
  exact Digraph.traceBack_eq (h.parents _ (by simp)) hnodup hlast ((Nat.le_succ _).trans hle)

end Searching

/-- A search that may still take up as many nodes as there are ends when it takes up the target, if any path
leads there. -/
theorem exists_run (hclosed : Closed next n) (hsource : source < n)
    (hpath : ∃ path, IsPath next source target path) {fuel : Nat}
    (h : Searching next source target done waiting search) (hfuel : n ≤ done.length + fuel) :
    ∃ done path waiting, Searching next source target done ((target :: path) :: waiting)
      (Search.run next target fuel search) := by
  obtain ⟨sample, hsample⟩ := hpath
  induction fuel generalizing done waiting search with
  | zero =>
    obtain ⟨later, hlater, -⟩ := h.exists_waiting_le hsample
    have hlength := h.length_le hclosed hsource
    have hpos := List.length_pos_of_mem hlater
    omega
  | succ fuel ih =>
    obtain ⟨later, hlater, -⟩ := h.exists_waiting_le hsample
    cases waiting with
    | nil => exact absurd hlater List.not_mem_nil
    | cons first waiting =>
      obtain ⟨u, hu⟩ := h.paths first (by simp)
      cases first with
      | nil => cases hu.starts
      | cons v path =>
        have hqueue : search.queue = v :: waiting.filterMap List.head? := h.queue
        rw [Search.run, hqueue]
        dsimp only
        split
        next heq => exact ⟨done, path, waiting, heq ▸ h⟩
        next hne =>
          refine ih (h.step hne hqueue) ?_
          rw [List.length_append, List.length_singleton]
          omega

/-- Between nodes of a graph, a shortest path is found where there is any. -/
theorem isShortestPath_shortestPath (hclosed : Closed next n) (hsource : source < n)
    (h : Leads next source target) :
    IsShortestPath next source target (shortestPath next n source target) := by
  obtain ⟨done, path, waiting, hfound⟩ := exists_run hclosed hsource h.exists_isPath
    (Searching.start_spec next source target) (Nat.le_add_left n _)
  rw [shortestPath, hfound.traceBack_eq hclosed hsource]
  exact hfound.isShortestPath

end Stratalog.Digraph
