import Stratalog.Proofs.Dependency.Reading

/-!
# Shared definitions

Two lists of predicates may define some names alike and differ in all else. If whatever these predicates
read is among the names again, then both lists tell the same of the names: what depends on what, what is
caught in a cycle, and what a query needs that reads only them.

The strata of the names are the same as well. They have the same members in the same order, are recursive
together, and depend on strata of the names only, though they are numbered differently.
-/

namespace Stratalog

open Stratification

/-- Two lists of predicates, which keep to one order, define some names alike, and what these read is
among the names. -/
structure Shares (predicates predicates' : List Predicate) (names : Set String) : Prop where
  order : ∃ all : List String, all.Nodup ∧ (predicates.map Predicate.name).Sublist all ∧
    (predicates'.map Predicate.name).Sublist all
  mem_iff : ∀ predicate : Predicate, predicate.name ∈ names →
    (predicate ∈ predicates ↔ predicate ∈ predicates')
  closed : ∀ predicate ∈ predicates, predicate.name ∈ names →
    ∀ read ∈ predicate.reads, read.1 ∈ names

namespace Shares

variable {predicates predicates' : List Predicate} {names : Set String} {query : Query}
  {polarity : Polarity} {a b name : String} {i i' : Nat}

/-- What one list shares with another, the other shares with it. -/
theorem symm (h : Shares predicates predicates' names) : Shares predicates' predicates names := by
  obtain ⟨all, hnodup, hsub, hsub'⟩ := h.order
  exact ⟨⟨all, hnodup, hsub', hsub⟩, fun predicate hname => (h.mem_iff predicate hname).symm,
    fun predicate hmem hname => h.closed predicate ((h.mem_iff predicate hname).2 hmem) hname⟩

theorem nodup (h : Shares predicates predicates' names) :
    (predicates.map Predicate.name).Nodup := by
  obtain ⟨all, hnodup, hsub, -⟩ := h.order
  exact hnodup.sublist hsub

/-- Names that are shared are derived by both or by neither. -/
theorem derived (h : Shares predicates predicates' names) (hname : name ∈ names)
    (hderived : name ∈ predicates.map Predicate.name) : name ∈ predicates'.map Predicate.name := by
  obtain ⟨predicate, hmem, rfl⟩ := List.mem_map.1 hderived
  exact List.mem_map_of_mem ((h.mem_iff predicate hname).1 hmem)

/-- Predicates that are shared use shared ones, and the same. -/
theorem uses (h : Shares predicates predicates' names) (ha : a ∈ names)
    (huses : Uses predicates polarity a b) : b ∈ names ∧ Uses predicates' polarity a b := by
  obtain ⟨hderived, predicate, hmem, rfl, hread⟩ := uses_iff.1 huses
  have hb : b ∈ names := h.closed predicate hmem ha _ hread
  exact ⟨hb, uses_iff.2 ⟨h.derived hb hderived, predicate, (h.mem_iff predicate ha).1 hmem, rfl, hread⟩⟩

theorem reads (h : Shares predicates predicates' names) (ha : a ∈ names)
    (hreads : Reads predicates a b) : b ∈ names ∧ Reads predicates' a b := by
  obtain ⟨polarity, huses⟩ := reads_iff_uses.1 hreads
  obtain ⟨hb, huses'⟩ := h.uses ha huses
  exact ⟨hb, reads_iff_uses.2 ⟨polarity, huses'⟩⟩

/-- Predicates that are shared depend on shared ones, and the same. -/
theorem dependsOn (h : Shares predicates predicates' names) (ha : a ∈ names)
    (hdepends : DependsOn predicates a b) : b ∈ names ∧ DependsOn predicates' a b := by
  induction hdepends with
  | refl => exact ⟨ha, .refl⟩
  | tail _ hreads ih =>
    obtain ⟨hmiddle, hdepends'⟩ := ih
    obtain ⟨hb, hreads'⟩ := h.reads hmiddle hreads
    exact ⟨hb, hdepends'.tail hreads'⟩

theorem together (h : Shares predicates predicates' names) (ha : a ∈ names)
    (htogether : Together predicates a b) : b ∈ names ∧ Together predicates' a b := by
  obtain ⟨hb, hto⟩ := h.dependsOn ha htogether.1
  exact ⟨hb, hto, (h.dependsOn hb htogether.2).2⟩

/-- A predicate that is shared is caught in a cycle of both or of neither. -/
theorem caughtInCycle (h : Shares predicates predicates' names) (hname : name ∈ names)
    (hcaught : CaughtInCycle predicates name) : CaughtInCycle predicates' name := by
  obtain ⟨a, b, polarity, hto, huses, hpolarity, hback⟩ := hcaught
  rw [leadsTo_eq] at hto hback
  obtain ⟨ha, hto'⟩ := h.dependsOn hname hto
  obtain ⟨hb, huses'⟩ := h.uses ha huses
  refine ⟨a, b, polarity, ?_, huses', hpolarity, ?_⟩
  · rw [leadsTo_eq]
    exact hto'
  · rw [leadsTo_eq]
    exact (h.dependsOn hb hback).2

/-- A query that reads shared names needs shared predicates, and the same. -/
theorem needs (h : Shares predicates predicates' names) (hquery : ∀ name ∈ query.reads, name ∈ names)
    (hneeds : query.Needs predicates name) : name ∈ names ∧ query.Needs predicates' name := by
  induction hneeds with
  | body hderived hmem hmentions =>
    have hname := hquery _ (List.mem_map_of_mem (Literal.exists_mentions_iff.1 ⟨_, hmem, hmentions⟩))
    exact ⟨hname, .body (h.derived hname hderived) hmem hmentions⟩
  | rule _ huses ih =>
    obtain ⟨ha, hneeds'⟩ := ih
    obtain ⟨hb, huses'⟩ := h.uses ha huses
    exact ⟨hb, .rule hneeds' huses'⟩

end Shares

/-- Strata of two lists of predicates that have one of some names in common. -/
def SharedStrata (predicates predicates' : List Predicate) (names : Set String) (i i' : Nat) : Prop :=
  i < (ofPredicates predicates).strata.length ∧ i' < (ofPredicates predicates').strata.length ∧
    ∃ name ∈ names, name ∈ ((ofPredicates predicates).stratum i).predicates ∧
      name ∈ ((ofPredicates predicates').stratum i').predicates

namespace SharedStrata

variable {predicates predicates' : List Predicate} {names : Set String} {a b name : String}
  {i i' d : Nat}

theorem symm (hR : SharedStrata predicates predicates' names i i') :
    SharedStrata predicates' predicates names i' i :=
  let ⟨hi, hi', name, hname, hin, hin'⟩ := hR
  ⟨hi', hi, name, hname, hin', hin⟩

/-- All members of a stratum that is shared are shared, and are members of the other. -/
theorem mem (h : Shares predicates predicates' names)
    (hR : SharedStrata predicates predicates' names i i')
    (ha : a ∈ ((ofPredicates predicates).stratum i).predicates) :
    a ∈ names ∧ a ∈ ((ofPredicates predicates').stratum i').predicates := by
  obtain ⟨hi, hi', name, hname, hin, hin'⟩ := hR
  have hsound' := sound_ofPredicates h.symm.nodup
  have htogether := (eq_iff_together h.nodup hi hin hi ha).1 rfl
  obtain ⟨hshared, htogether'⟩ := h.together hname htogether
  have hderived := (sound_ofPredicates h.nodup).member i hi a ha
  obtain ⟨predicate, hmem, rfl⟩ := List.mem_map.1 (h.derived hshared hderived)
  exact ⟨hshared, (hsound'.mem_iff_together hi' hin' hmem).2 htogether'⟩

/-- Strata that are shared have the same members in the same order. -/
theorem predicates_eq (h : Shares predicates predicates' names)
    (hR : SharedStrata predicates predicates' names i i') :
    ((ofPredicates predicates').stratum i').predicates =
      ((ofPredicates predicates).stratum i).predicates := by
  obtain ⟨all, hnodup, hsub, hsub'⟩ := h.order
  have hmembers := (predicates_sublist hR.1).trans hsub
  have hmembers' := (predicates_sublist hR.2.1).trans hsub'
  refine (hnodup.perm_iff_eq_of_sublist hmembers' hmembers).1 ?_
  exact (List.perm_ext_iff_of_nodup (hnodup.sublist hmembers') (hnodup.sublist hmembers)).2
    fun _ => ⟨fun hin => (hR.symm.mem h.symm hin).2, fun hin => (hR.mem h hin).2⟩

/-- Strata that are shared are recursive together. -/
theorem recursive (h : Shares predicates predicates' names)
    (hR : SharedStrata predicates predicates' names i i')
    (hrecursive : ((ofPredicates predicates).stratum i).recursive = true) :
    ((ofPredicates predicates').stratum i').recursive = true := by
  obtain ⟨a, ha, b, hb, hreads⟩ := exists_reads_of_recursive h.nodup hR.1 hrecursive
  obtain ⟨hshared, ha'⟩ := hR.mem h ha
  by_contra hnot
  exact not_reads_of_not_recursive h.symm.nodup hR.2.1 (Bool.eq_false_iff.2 hnot) ha' (hR.mem h hb).2
    (h.reads hshared hreads).2

theorem recursive_eq (h : Shares predicates predicates' names)
    (hR : SharedStrata predicates predicates' names i i') :
    ((ofPredicates predicates').stratum i').recursive =
      ((ofPredicates predicates).stratum i).recursive :=
  Bool.eq_iff_iff.2 ⟨hR.symm.recursive h.symm, hR.recursive h⟩

/-- Strata of a shared name are shared. -/
theorem exists_of_mem (h : Shares predicates predicates' names) (hname : name ∈ names)
    (hi : i < (ofPredicates predicates).strata.length)
    (hin : name ∈ ((ofPredicates predicates).stratum i).predicates) :
    ∃ i', SharedStrata predicates predicates' names i i' := by
  have hderived := (sound_ofPredicates h.nodup).member i hi name hin
  obtain ⟨i', hi', hin'⟩ :=
    (sound_ofPredicates h.symm.nodup).covers name (h.derived hname hderived)
  exact ⟨i', hi, hi', name, hname, hin, hin'⟩

/-- What a shared stratum reads outside itself is in strata below that are shared again. -/
theorem exists_of_reads (h : Shares predicates predicates' names)
    (hR : SharedStrata predicates predicates' names i i')
    (ha : a ∈ ((ofPredicates predicates).stratum i).predicates) (hreads : Reads predicates a b)
    (hd : d < (ofPredicates predicates).strata.length)
    (hb : b ∈ ((ofPredicates predicates).stratum d).predicates)
    (hnot : b ∉ ((ofPredicates predicates).stratum i).predicates) :
    ∃ d' ∈ ((ofPredicates predicates').stratum i').dependsOn,
      SharedStrata predicates predicates' names d d' := by
  have hsound' := sound_ofPredicates h.symm.nodup
  obtain ⟨hshared, ha'⟩ := hR.mem h ha
  obtain ⟨hb', hreads'⟩ := h.reads hshared hreads
  obtain ⟨d', hd', hin'⟩ := hsound'.dependsOn i' hR.2.1 a ha' b hreads' (hR.predicates_eq h ▸ hnot)
  exact ⟨d', hd', hd, (hsound'.below i' hR.2.1 d' hd').1.trans hR.2.1, b, hb', hb, hin'⟩

/-- A shared stratum depends on strata that are shared again. -/
theorem exists_of_mem_dependsOn (h : Shares predicates predicates' names)
    (hR : SharedStrata predicates predicates' names i i')
    (hd : d ∈ ((ofPredicates predicates).stratum i).dependsOn) :
    ∃ d' ∈ ((ofPredicates predicates').stratum i').dependsOn,
      SharedStrata predicates predicates' names d d' := by
  have hlower := (sound_ofPredicates h.nodup).below i hR.1 d hd
  obtain ⟨a, ha, b, hb, hreads⟩ := exists_reads_of_mem_dependsOn h.nodup hR.1 hd
  refine hR.exists_of_reads h ha hreads (hlower.1.trans hR.1) hb fun hin => ?_
  have hsame := (eq_iff_together h.nodup hR.1 hin (hlower.1.trans hR.1) hb).2 (Together.refl _ b)
  omega

end SharedStrata

end Stratalog
