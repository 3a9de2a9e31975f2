import Mathlib.Algebra.Order.BigOperators.Group.Finset
import Mathlib.Data.List.Nodup
import Mathlib.Logic.Relation
import Stratalog.Dependency.Digraph
import Stratalog.Proofs.Relation.Sorted

/-!
# Reachability

A node leads to another when a path of successors joins them. On a graph whose successors stay among
its nodes, working through a list finds everything its nodes lead to: what was noted has its
successors noted or still in the list. Each node gives its successors as work once, when it is
noted, so there is never more work than there are edges and roots.
-/

namespace Stratalog.Digraph

/-- A node leads to another along some path, the empty one included. -/
def Leads (next : Nat → List Nat) : Nat → Nat → Prop :=
  Relation.ReflTransGen fun u v => v ∈ next u

/-- Successors of the first `n` nodes are among them. -/
def Closed (next : Nat → List Nat) (n : Nat) : Prop :=
  ∀ u < n, ∀ v ∈ next u, v < n

variable {next : Nat → List Nat} {n fuel : Nat} {roots work : List Nat} {noted : Std.TreeSet Nat}
  {u v : Nat}

/-- Paths stay among the nodes. -/
theorem Closed.lt_of_leads (hclosed : Closed next n) (hu : u < n) (h : Leads next u v) : v < n := by
  induction h with
  | refl => exact hu
  | tail _ hstep ih => exact hclosed _ ih _ hstep

/-- Different nodes are no more than there are. -/
theorem length_le_of_nodup {items : List Nat} (hnodup : items.Nodup) (hlt : ∀ v ∈ items, v < n) :
    items.length ≤ n := by
  have hsubset : items ⊆ List.range n := fun v hv => List.mem_range.2 (hlt v hv)
  have hle := hnodup.length_le_of_subset hsubset
  rwa [List.length_range] at hle

/-- A set with a node put in holds the node and what it held. -/
theorem mem_insert_iff : u ∈ noted.insert v ↔ u = v ∨ u ∈ noted := by
  rw [Std.TreeSet.mem_insert, Std.LawfulEqOrd.compare_eq_iff_eq, eq_comm]

/-- A set lists its nodes in increasing order. -/
theorem pairwise_lt_toList : noted.toList.Pairwise (· < ·) :=
  Std.TreeSet.ordered_toList.imp Nat.compare_eq_lt.1

/-- A set of different nodes lists them in another order. -/
theorem toList_ofList_perm {items : List Nat} (h : items.Nodup) :
    (Std.TreeSet.ofList items).toList.Perm items := by
  refine (List.perm_ext_iff_of_nodup (pairwise_lt_toList.imp Nat.ne_of_lt) h).2 fun v => ?_
  rw [Std.TreeSet.mem_toList, Std.TreeSet.mem_ofList, List.contains_iff_mem]

/-- What was noted stays noted. -/
theorem mem_gather_of_mem (h : v ∈ noted) : v ∈ gather next fuel noted work := by
  induction fuel generalizing noted work with
  | zero => exact h
  | succ fuel ih =>
    cases work with
    | nil => exact h
    | cons w work =>
      rw [gather]
      split
      · exact ih h
      · exact ih (mem_insert_iff.2 (.inr h))

/-- Nothing is noted but what the work leads to. -/
theorem leads_of_mem_gather (h : v ∈ gather next fuel noted work) :
    v ∈ noted ∨ ∃ u ∈ work, Leads next u v := by
  induction fuel generalizing noted work with
  | zero => exact .inl h
  | succ fuel ih =>
    cases work with
    | nil => exact .inl h
    | cons w work =>
      rw [gather] at h
      split at h
      · exact (ih h).imp_right fun ⟨u, hu, hlead⟩ => ⟨u, List.mem_cons_of_mem _ hu, hlead⟩
      · rcases ih h with hnoted | ⟨u, hu, hlead⟩
        · rcases mem_insert_iff.1 hnoted with rfl | hnoted
          · exact .inr ⟨v, List.mem_cons_self, .refl⟩
          · exact .inl hnoted
        · rcases List.mem_append.1 hu with hstep | hu
          · exact .inr ⟨w, List.mem_cons_self, .head (List.mem_reverse.1 hstep) hlead⟩
          · exact .inr ⟨u, List.mem_cons_of_mem _ hu, hlead⟩

/-- How much work the nodes give that are not noted yet. -/
def workLeft (next : Nat → List Nat) (n : Nat) (noted : Std.TreeSet Nat) : Nat :=
  ∑ v ∈ (Finset.range n).filter (· ∉ noted), (next v).length

/-- A node that is noted has given its work. -/
theorem workLeft_insert (hv : v < n) (hnew : v ∉ noted) :
    workLeft next n (noted.insert v) + (next v).length = workLeft next n noted := by
  have herase : (Finset.range n).filter (· ∉ noted.insert v) =
      ((Finset.range n).filter (· ∉ noted)).erase v := by
    ext u
    simp only [Finset.mem_filter, Finset.mem_range, mem_insert_iff, not_or, Finset.mem_erase]
    tauto
  have hmem : v ∈ (Finset.range n).filter (· ∉ noted) := by
    rw [Finset.mem_filter, Finset.mem_range]
    exact ⟨hv, hnew⟩
  rw [workLeft, workLeft, herase]
  exact Finset.sum_erase_add _ _ hmem

/-- With room for all the work there can be, everything in the list is noted, and what is noted has
its successors noted. -/
theorem gather_closed (hclosed : Closed next n) (hlt : ∀ v ∈ work, v < n)
    (hdone : ∀ u ∈ noted, ∀ v ∈ next u, v ∈ noted ∨ v ∈ work)
    (hfuel : work.length + workLeft next n noted ≤ fuel) :
    (∀ v ∈ work, v ∈ gather next fuel noted work) ∧
      ∀ u ∈ gather next fuel noted work, ∀ v ∈ next u, v ∈ gather next fuel noted work := by
  induction fuel generalizing noted work with
  | zero =>
    obtain rfl : work = [] := List.length_eq_zero_iff.1 (by omega)
    exact ⟨by simp, fun u hu v hv => (hdone u hu v hv).resolve_right List.not_mem_nil⟩
  | succ fuel ih =>
    cases work with
    | nil => exact ⟨by simp, fun u hu v hv => (hdone u hu v hv).resolve_right List.not_mem_nil⟩
    | cons w work =>
      obtain ⟨hw, hrest⟩ := List.forall_mem_cons.1 hlt
      rw [List.length_cons] at hfuel
      rw [gather]
      split
      next hknown =>
        have hnoted : w ∈ noted := Std.TreeSet.contains_iff_mem.1 hknown
        obtain ⟨hall, hsteps⟩ := ih hrest (fun u hu v hv => (hdone u hu v hv).elim .inl fun hmem => by
          rcases List.mem_cons.1 hmem with rfl | hmem
          · exact .inl hnoted
          · exact .inr hmem) (by omega)
        exact ⟨List.forall_mem_cons.2 ⟨mem_gather_of_mem hnoted, hall⟩, hsteps⟩
      next hnew =>
        have hnoted : w ∉ noted := mt Std.TreeSet.contains_iff_mem.2 hnew
        have hleft : workLeft next n (noted.insert w) + (next w).length = workLeft next n noted :=
          workLeft_insert hw hnoted
        obtain ⟨hall, hsteps⟩ := ih
          (fun v hv => by
            rcases List.mem_append.1 hv with hv | hv
            · exact hclosed w hw v (List.mem_reverse.1 hv)
            · exact hrest v hv)
          (fun u hu v hv => by
            rw [mem_insert_iff, List.mem_append, List.mem_reverse]
            rcases mem_insert_iff.1 hu with rfl | hu
            · exact .inr (.inl hv)
            · rcases hdone u hu v hv with hv | hv
              · exact .inl (.inr hv)
              · exact (List.mem_cons.1 hv).imp .inl .inr)
          (by rw [List.length_append, List.length_reverse]; omega)
        refine ⟨List.forall_mem_cons.2 ⟨mem_gather_of_mem (mem_insert_iff.2 (.inl rfl)),
          fun v hv => hall v (List.mem_append_right _ hv)⟩, hsteps⟩

/-- No node is found twice. -/
theorem nodup_reach (next : Nat → List Nat) (n : Nat) (roots : List Nat) :
    (reach next n roots).Nodup :=
  pairwise_lt_toList.imp Nat.ne_of_lt

/-- Nodes are found exactly when some root leads to them. -/
theorem mem_reach_iff (hclosed : Closed next n) (hroots : ∀ v ∈ roots, v < n) :
    v ∈ reach next n roots ↔ ∃ u ∈ roots, Leads next u v := by
  have hroom : roots.reverse.length + workLeft next n ∅ ≤
      roots.length + ((List.range n).flatMap next).length := by
    have hedges : ((List.range n).flatMap next).length = ∑ v ∈ Finset.range n, (next v).length := by
      rw [List.length_flatMap]
      rfl
    rw [List.length_reverse, hedges]
    exact Nat.add_le_add_left (Finset.sum_le_sum_of_subset (Finset.filter_subset _ _)) _
  obtain ⟨hall, hsteps⟩ := gather_closed hclosed
    (fun v hv => hroots v (List.mem_reverse.1 hv))
    (fun u hu => absurd hu Std.TreeSet.not_mem_emptyc) hroom
  rw [reach, Std.TreeSet.mem_toList]
  constructor
  · intro h
    obtain ⟨u, hu, hlead⟩ := (leads_of_mem_gather h).resolve_left Std.TreeSet.not_mem_emptyc
    exact ⟨u, List.mem_reverse.1 hu, hlead⟩
  · rintro ⟨u, hu, hlead⟩
    induction hlead with
    | refl => exact hall u (List.mem_reverse.2 hu)
    | tail _ hstep ih => exact hsteps _ ih _ hstep

end Stratalog.Digraph
