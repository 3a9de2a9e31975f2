import Mathlib.Data.List.Sort
import Stratalog.Proofs.Dependency.Walk

/-!
# Components

The walk from every node leaves no node open. Then every node is in a complete component, and the
components are the classes of nodes that lead to each other. Each was completed after the classes it
leads to, so no component leads to a later one.
-/

namespace Stratalog.Digraph

variable {next : Nat → List Nat} {n : Nat} {u v : Nat} {members : List Nat}

/-- The walk from every node leaves none open, and enters all. -/
theorem along_foldl_visit (hclosed : Closed next n) (nodes : List Nat) {walk : Walk}
    (h : walk.Along next n []) (hnodes : ∀ v ∈ nodes, v < n) :
    let finished := nodes.foldl
      (fun walk v => if (walk.index? v).isNone then visit next n walk v else walk) walk
    finished.Along next n [] ∧ walk.Grows finished ∧ ∀ v ∈ nodes, (finished.index? v).isSome = true := by
  induction nodes generalizing walk with
  | nil => exact ⟨h, .refl walk, by simp⟩
  | cons v nodes ih =>
    obtain ⟨hv, hnodes⟩ := List.forall_mem_cons.1 hnodes
    rw [List.foldl_cons]
    split
    next hnew =>
      have hvisit := visits_visit hclosed h hv (Option.isNone_iff_eq_none.1 hnew) (by simp)
        (Nat.le_add_left n _)
      obtain ⟨halong, hgrows, hall⟩ := ih hvisit.along hnodes
      exact ⟨halong, hvisit.grows.trans hgrows,
        List.forall_mem_cons.2 ⟨hgrows.entered hvisit.entered, hall⟩⟩
    next hknown =>
      obtain ⟨halong, hgrows, hall⟩ := ih h hnodes
      have hentered : (walk.index? v).isSome = true := by
        rwa [Option.isSome_iff_ne_none, ne_eq, ← Option.isNone_iff_eq_none]
      exact ⟨halong, hgrows, List.forall_mem_cons.2 ⟨hgrows.entered hentered, hall⟩⟩

/-- The components are classes in the order in which they were completed, and hold every node once. -/
theorem listsClasses_components (hclosed : Closed next n) :
    Walk.ListsClasses next (components next n) ∧ (components next n).flatten.Nodup ∧
      ∀ v, v ∈ (components next n).flatten ↔ v < n := by
  obtain ⟨halong, -, hall⟩ := along_foldl_visit hclosed (List.range n) (Walk.Along.start next n)
    fun v hv => List.mem_range.1 hv
  have hentered := halong.entered
  have hnodup := halong.nodup
  -- What is on the stack leads to an open node, and none is open.
  have hstack := List.eq_nil_iff_forall_not_mem.2 fun v hv =>
    let ⟨_, hr, _⟩ := halong.back v hv
    List.not_mem_nil hr
  rw [hstack, List.nil_append] at hnodup
  refine ⟨halong.classes, hnodup, fun v => ⟨fun hv => ?_, fun hv => ?_⟩⟩
  · exact halong.lt ((hentered v).2 (List.mem_append_right _ hv))
  · have hmem := (hentered v).1 (hall v (List.mem_range.2 hv))
    rw [hstack] at hmem
    exact hmem

/-- A component lists its nodes in increasing order. -/
theorem sublist_of_mem_components (hclosed : Closed next n) (h : members ∈ components next n) :
    members.Sublist (List.range n) := by
  obtain ⟨hclasses, -, hall⟩ := listsClasses_components hclosed
  obtain ⟨before, after, hsplit⟩ := List.append_of_mem h
  obtain ⟨hsorted, -⟩ := hclasses before members after hsplit
  have hnodes : ∀ v ∈ members, v ∈ List.range n := fun v hv =>
    List.mem_range.2 ((hall v).1 (List.mem_flatten.2 ⟨members, h, hv⟩))
  have hle : members.Pairwise (· ≤ ·) := hsorted.imp Nat.le_of_lt
  exact List.sublist_of_subperm_of_pairwise
    ((List.subperm_of_subset (hsorted.imp Nat.ne_of_lt) hnodes)) hle List.pairwise_le_range

/-- What the components of a graph are: classes of mutual nodes that together hold every node, each
listed after the classes it leads to. -/
theorem components_spec (hclosed : Closed next n) :
    (∀ members ∈ components next n, members.Nodup ∧
      ∃ r < n, ∀ v, v ∈ members ↔ v < n ∧ Mutual next r v) ∧
      (∀ v < n, ∃ members ∈ components next n, v ∈ members) ∧
        (components next n).Pairwise fun earlier later =>
          ∀ u ∈ earlier, ∀ v ∈ later, ¬Leads next u v := by
  obtain ⟨hclasses, hnodup, hall⟩ := listsClasses_components hclosed
  refine ⟨fun members hmembers => ?_, fun v hv => ?_, ?_⟩
  · obtain ⟨before, after, hsplit⟩ := List.append_of_mem hmembers
    obtain ⟨hsorted, r, hr, hclass, -⟩ := hclasses before members after hsplit
    have hnode {v : Nat} (hv : v ∈ members) : v < n :=
      (hall v).1 (List.mem_flatten.2 ⟨members, hmembers, hv⟩)
    refine ⟨hsorted.imp Nat.ne_of_lt, r, hnode hr, fun v => ⟨fun hv => ⟨hnode hv, (hclass v).1 hv⟩,
      fun hv => (hclass v).2 hv.2⟩⟩
  · exact List.mem_flatten.1 ((hall v).2 hv)
  · refine List.pairwise_iff_getElem.2 fun i j hi hj hlt u hu v hv hlead => ?_
    have hsplit : components next n = (components next n).take i ++
        (components next n)[i] :: (components next n).drop (i + 1) := by
      rw [List.getElem_cons_drop, List.take_append_drop]
    have hbefore : v ∈ ((components next n).take i).flatten ∨ v ∈ (components next n)[i] :=
      hclasses.mem_of_leads hsplit hu hlead
    have hafter : v ∈ ((components next n).drop (i + 1)).flatten := by
      obtain ⟨d, rfl⟩ := Nat.exists_eq_add_of_le hlt
      have hget : ((components next n).drop (i + 1))[d]? = some (components next n)[i.succ + d] := by
        rw [List.getElem?_drop, List.getElem?_eq_getElem hj]
      exact List.mem_flatten.2 ⟨_, List.mem_of_getElem? hget, hv⟩
    rw [hsplit, List.flatten_append, List.flatten_cons, ← List.append_assoc] at hnodup
    exact (List.nodup_append.1 hnodup).2.2 v (List.mem_append.2 hbefore) v hafter rfl

/-- A component leads to no later one. -/
theorem le_of_leads (hclosed : Closed next n) {i j : Nat} {earlier later : List Nat} {u v : Nat}
    (hearlier : (components next n)[i]? = some earlier)
    (hlater : (components next n)[j]? = some later) (hu : u ∈ earlier) (hv : v ∈ later)
    (hlead : Leads next u v) : j ≤ i := by
  obtain ⟨-, -, hpairs⟩ := components_spec hclosed
  by_contra hlt
  obtain ⟨hi, rfl⟩ := List.getElem?_eq_some_iff.1 hearlier
  obtain ⟨hj, rfl⟩ := List.getElem?_eq_some_iff.1 hlater
  exact List.pairwise_iff_getElem.1 hpairs i j hi hj (by omega) u hu v hv hlead

end Stratalog.Digraph
