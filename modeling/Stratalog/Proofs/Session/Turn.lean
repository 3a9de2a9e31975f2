import Stratalog.Proofs.Session.Publish
import Stratalog.Proofs.Workspace.Tally

/-!
# Turns of a workspace

Whatever a session does with its workspace, it does in turns of two kinds. Most turns finish nothing:
relations stay as they are but for their indices, and so does the tally. The others finish one stratum
without faults, above finished strata: it was evaluated just before, its slots are filled all at once,
and it is counted.

Both kinds of turns leave the finished relations alone and keep the books of a workspace balanced.
-/

namespace Stratalog

/-- Whether the members of a stratum have no static fault. -/
def Stratification.Clean [PatternEngine] (strata : Stratification) (store : FactStore) (program : Program)
    (i : Nat) : Prop :=
  ∀ name ∈ (strata.stratum i).predicates, strata.faultOf? name = none ∧
    ∀ predicate ∈ program.predicates, predicate.name = name →
      Typing.checkPredicate store (Catalog.of store program.predicates) predicate = .ok ()

/-- The relations that evaluating a stratum under the given settings ends with, and the workspace it
leaves. It starts in a workspace that is kept up. -/
inductive Workspace.Derives [PatternEngine] (store : FactStore) (program : Program)
    (strata : Stratification)
    (settings : Settings) (i : Nat) : List Relation → Workspace → Prop where
  | intro {context : Context} {start after : Workspace} {result : Evaluation.StratumResult}
      (hsettings : context.settings = settings) (hentities : context.entities = store.entities)
      (hupholds : start.Upholds store program strata) (hencloses : start.Encloses after)
      (hrun : (Evaluation.evaluateStratum context (strata.stratum i)
        (program.membersOf (strata.stratum i))).run.run start = (.ok result, after)) :
      Derives store program strata settings i result.relations after

/-- One turn of a workspace. -/
inductive Workspace.Turn [PatternEngine] (store : FactStore) (program : Program) (strata : Stratification)
    (settings : Settings) :
    Workspace → Workspace → Prop where
  /-- Nothing is finished. -/
  | stay {before after : Workspace} (hencloses : before.Encloses after)
      (htally : after.tally = before.tally) : Turn store program strata settings before after
  /-- A stratum is finished. -/
  | finish {before after : Workspace} {i : Nat} {relations : List Relation}
      (hi : i < strata.strata.length) (hclean : strata.Clean store program i)
      (hlower : ∀ d ∈ (strata.stratum i).dependsOn,
        Session.isPublished strata before d = true)
      (hempty : ∀ name ∈ (strata.stratum i).predicates, before.slots[name]? = some none)
      (hnames : relations.map Relation.name = (strata.stratum i).predicates)
      (hfilled : ∀ relation ∈ relations, after.slots[relation.name]? = some (some relation))
      (hkept : ∀ name : String, name ∉ (strata.stratum i).predicates →
        after.slots[name]? = before.slots[name]?)
      (htally : after.tally = (before.tally.1 + 1, before.tally.2.1 + relations.length,
        before.tally.2.2 + (relations.map Relation.size).sum))
      (hderives : Derives store program strata settings i relations before) :
      Turn store program strata settings before after

/-- Any number of turns of a workspace. -/
abbrev Workspace.Turns [PatternEngine] (store : FactStore) (program : Program) (strata : Stratification)
    (settings : Settings) :
    Workspace → Workspace → Prop :=
  Relation.ReflTransGen (Workspace.Turn store program strata settings)

/-- The books of a workspace are balanced when what is finished is without faults and rests on what
is finished, and the tally is that of the finished strata, predicates and tuples. -/
structure Workspace.Balanced [PatternEngine] (workspace : Workspace) (store : FactStore) (program : Program)
    (strata : Stratification) : Prop where
  below : ∀ i < strata.strata.length, Session.isPublished strata workspace i = true →
    ∀ d ∈ (strata.stratum i).dependsOn, Session.isPublished strata workspace d = true
  clean : ∀ i < strata.strata.length, Session.isPublished strata workspace i = true →
    strata.Clean store program i
  tally : workspace.tally =
    ((List.range strata.strata.length).countP (Session.isPublished strata workspace),
      (program.predicates.map Predicate.name).countP workspace.isPublished,
      (((program.predicates.map Predicate.name).filterMap workspace.published?).map
        Relation.size).sum)

variable {store : FactStore} {program : Program} {strata : Stratification} {settings : Settings}
  {workspace before after : Workspace} {name : String} {relation : Relation}

/-- The members of a stratum without static faults pass their check. -/
theorem Stratification.Clean.checked [PatternEngine] {i : Nat} (h : strata.Clean store program i)
    (hnodup : (program.predicates.map Predicate.name).Nodup) :
    ∀ predicate ∈ program.membersOf (strata.stratum i), Typing.checkPredicate store
      (Catalog.of store program.predicates) predicate = .ok () := by
  intro predicate hmem
  obtain ⟨hpredicate, hname⟩ := (Program.mem_membersOf hnodup).1 hmem
  exact (h predicate.name hname).2 predicate hpredicate rfl

/-- A list whose elements differ consists of any of its elements that differ and of others. -/
theorem exists_perm_append {α : Type} {items chosen : List α} (hitems : items.Nodup)
    (hchosen : chosen.Nodup) (hsub : ∀ a ∈ chosen, a ∈ items) :
    ∃ others, items.Perm (chosen ++ others) ∧ ∀ a ∈ others, a ∉ chosen := by
  obtain ⟨same, hsame, hsublist⟩ := hchosen.subperm hsub
  obtain ⟨others, hothers⟩ := hsublist.exists_perm_append
  have hperm := hothers.trans (hsame.append_right others)
  refine ⟨others, hperm, fun a ha hmem => ?_⟩
  exact (List.nodup_append.1 (hperm.nodup_iff.1 hitems)).2.2 a hmem a ha rfl

/-- What begins to pass a test is counted in addition to what did before. -/
theorem countP_eq_add_length {α : Type} {items chosen : List α} (first second : α → Bool)
    (hitems : items.Nodup) (hchosen : chosen.Nodup) (hsub : ∀ a ∈ chosen, a ∈ items)
    (hbefore : ∀ a ∈ chosen, first a = false) (hafter : ∀ a ∈ chosen, second a = true)
    (hsame : ∀ a ∈ items, a ∉ chosen → second a = first a) :
    items.countP second = items.countP first + chosen.length := by
  obtain ⟨others, hperm, hout⟩ := exists_perm_append hitems hchosen hsub
  have hothers : others.countP second = others.countP first :=
    List.countP_congr fun a ha => by
      rw [hsame a (hperm.mem_iff.2 (List.mem_append_right _ ha)) (hout a ha)]
  have hnone : chosen.countP first = 0 :=
    List.countP_eq_zero.2 fun a ha => by simp [hbefore a ha]
  rw [hperm.countP_eq, hperm.countP_eq, List.countP_append, List.countP_append, hothers, hnone,
    List.countP_eq_length.2 hafter, Nat.zero_add, Nat.add_comm]

/-- What begins to give values is summed up in addition to what did before. -/
theorem sum_filterMap_eq_add {α β : Type} {items chosen : List α} (first second : α → Option β)
    (hitems : items.Nodup) (hchosen : chosen.Nodup) (hsub : ∀ a ∈ chosen, a ∈ items)
    (hbefore : ∀ a ∈ chosen, first a = none)
    (hsame : ∀ a ∈ items, a ∉ chosen → second a = first a) (size : β → Nat) :
    ((items.filterMap second).map size).sum =
      ((items.filterMap first).map size).sum + ((chosen.filterMap second).map size).sum := by
  obtain ⟨others, hperm, hout⟩ := exists_perm_append hitems hchosen hsub
  have hothers : others.filterMap second = others.filterMap first :=
    List.filterMap_congr fun a ha =>
      hsame a (hperm.mem_iff.2 (List.mem_append_right _ ha)) (hout a ha)
  have hnone : chosen.filterMap first = [] := List.filterMap_eq_nil_iff.2 hbefore
  rw [((hperm.filterMap second).map size).sum_eq, ((hperm.filterMap first).map size).sum_eq,
    List.filterMap_append, List.filterMap_append, hothers, hnone, List.map_append, List.sum_append,
    List.nil_append, Nat.add_comm]

/-- The values of a map are those of its entries. -/
theorem values_eq_map_toList {α : Type} (entries : Std.TreeMap String α) :
    entries.values = entries.toList.map Prod.snd := by
  have hfold : entries.values = entries.foldr (fun _ value rest => value :: rest) [] := rfl
  rw [hfold, Std.TreeMap.foldr_eq_foldr_toList, List.map_eq_foldr]

namespace Workspace

/-- A finished relation is the one in the slot. -/
theorem published?_eq_some_iff :
    workspace.published? name = some relation ↔ workspace.slots[name]? = some (some relation) := by
  rw [published?, Option.join_eq_some_iff]

/-- There is one slot for each derived predicate. -/
theorem Serves.values_perm {predicates : List Predicate} (h : workspace.Serves store predicates)
    (hnodup : (predicates.map Predicate.name).Nodup) :
    workspace.slots.values.Perm ((predicates.map Predicate.name).map workspace.published?) := by
  have hkeys : workspace.slots.keys.Perm (predicates.map Predicate.name) := by
    refine (List.perm_ext_iff_of_nodup Std.TreeMap.nodup_keys hnodup).2 fun name => ?_
    rw [Std.TreeMap.mem_keys, ← Std.TreeMap.contains_iff_mem]
    exact h.slots name
  have hvalues : workspace.slots.values = workspace.slots.keys.map workspace.published? := by
    rw [values_eq_map_toList, ← Std.TreeMap.map_fst_toList_eq_keys, List.map_map]
    refine List.map_congr_left fun entry hentry => ?_
    have hget := Std.TreeMap.mem_toList_iff_getElem?_eq_some.1 hentry
    simp [published?, hget]
  rw [hvalues]
  exact hkeys.map _

/-- As many slots are filled as there are predicates that are finished. -/
theorem Serves.publishedCount_eq {predicates : List Predicate}
    (h : workspace.Serves store predicates) (hnodup : (predicates.map Predicate.name).Nodup) :
    workspace.publishedCount = (predicates.map Predicate.name).countP workspace.isPublished := by
  rw [publishedCount, (h.values_perm hnodup).countP_eq, List.countP_map]
  rfl

/-- The filled slots hold the relations of the predicates that are finished. -/
theorem Serves.sum_values_eq {predicates : List Predicate} (h : workspace.Serves store predicates)
    (hnodup : (predicates.map Predicate.name).Nodup) :
    ((workspace.slots.values.filterMap id).map Relation.size).sum =
      (((predicates.map Predicate.name).filterMap workspace.published?).map Relation.size).sum := by
  have hperm := (h.values_perm hnodup).filterMap id
  rw [List.filterMap_map, Function.id_comp] at hperm
  exact (hperm.map Relation.size).sum_eq

/-- A stratum whose slots are empty is not finished. -/
theorem not_isPublished_of_empty {i : Nat} (hsound : strata.Sound program.predicates)
    (hi : i < strata.strata.length)
    (hempty : ∀ name ∈ (strata.stratum i).predicates, workspace.slots[name]? = some none) :
    ¬Session.isPublished strata workspace i = true := by
  intro hpublished
  obtain ⟨name, hname⟩ := List.exists_mem_of_ne_nil _ (hsound.nonempty i hi)
  obtain ⟨relation, hrelation⟩ := isPublished_iff.1 (List.all_eq_true.1 hpublished name hname)
  rw [hempty name hname] at hrelation
  cases hrelation

/-- A turn leaves each finished relation as it is, but for its indices. -/
theorem Turn.keeps [PatternEngine] (h : Turn store program strata settings before after)
    (hrelation : before.published? name = some relation) :
    ∃ held, after.published? name = some held ∧ held.bare = relation.bare := by
  rw [published?_eq_some_iff] at hrelation
  simp only [published?_eq_some_iff]
  cases h with
  | stay hencloses =>
    have hslots : after.slots[name]?.map (Option.map Relation.bare) =
        before.slots[name]?.map (Option.map Relation.bare) := hencloses.agrees.slots name
    rw [hrelation] at hslots
    obtain ⟨slot, hslot, heq⟩ := Option.map_eq_some_iff.1 hslots
    obtain ⟨held, rfl, hbare⟩ := Option.map_eq_some_iff.1 heq
    exact ⟨held, hslot, hbare⟩
  | finish hi hclean hlower hempty hnames hfilled hkept =>
    refine ⟨relation, ?_, rfl⟩
    rw [← hrelation]
    refine hkept name fun hmem => ?_
    rw [hempty name hmem] at hrelation
    cases hrelation

/-- Turns leave each finished relation as it is, but for its indices. -/
theorem Turns.keeps [PatternEngine] (h : Turns store program strata settings before after)
    (hrelation : before.published? name = some relation) :
    ∃ held, after.published? name = some held ∧ held.bare = relation.bare := by
  induction h with
  | refl => exact ⟨relation, hrelation, rfl⟩
  | tail _ hturn ih =>
    obtain ⟨held, hheld, hbare⟩ := ih
    obtain ⟨last, hlast, hbare'⟩ := hturn.keeps hheld
    exact ⟨last, hlast, hbare'.trans hbare⟩

/-- Relations have the same sizes inside a workspace as outside. -/
theorem Encloses.size_published? (h : before.Encloses after) (name : String) :
    (after.published? name).map Relation.size = (before.published? name).map Relation.size := by
  have hslots : after.slots[name]?.map (Option.map Relation.bare) =
      before.slots[name]?.map (Option.map Relation.bare) := h.agrees.slots name
  have hsize (slot : Option (Option Relation)) :
      slot.join.map Relation.size = (slot.map (Option.map Relation.bare)).join.map Relation.size := by
    rcases slot with _ | _ | relation <;> rfl
  rw [published?, published?, hsize, hslots, ← hsize]

/-- Filling the slots of one stratum leaves it open whether the others are finished, since strata have
no members in common. -/
theorem isPublished_of_kept {i j : Nat} (hsound : strata.Sound program.predicates)
    (hi : i < strata.strata.length) (hj : j < strata.strata.length) (hne : j ≠ i)
    (hkept : ∀ name : String, name ∉ (strata.stratum i).predicates →
      after.slots[name]? = before.slots[name]?) :
    Session.isPublished strata after j = Session.isPublished strata before j := by
  rw [Bool.eq_iff_iff, Session.isPublished, Session.isPublished, List.all_eq_true,
    List.all_eq_true]
  refine forall₂_congr fun name hname => ?_
  have hnot : name ∉ (strata.stratum i).predicates := fun hin =>
    hne ((hsound.together j hj name hname i hi name hin).2 (Together.refl _ _))
  rw [isPublished, isPublished, published?, published?, hkept name hnot]

variable [PatternEngine]

namespace Balanced

/-- A turn that finishes nothing leaves the books balanced. -/
theorem stay (h : before.Balanced store program strata) (hencloses : before.Encloses after)
    (htally : after.tally = before.tally) : after.Balanced store program strata := by
  have hstrata := hencloses.isPublished_stratum strata
  refine ⟨fun i hi hpublished d hd => ?_, fun i hi hpublished => ?_, ?_⟩
  · rw [hstrata] at hpublished ⊢
    exact h.below i hi hpublished d hd
  · rw [hstrata] at hpublished
    exact h.clean i hi hpublished
  · rw [htally, h.tally, funext hstrata, funext hencloses.isPublished_eq, List.map_filterMap,
      List.map_filterMap]
    simp only [hencloses.size_published?]

/-- A turn that finishes a stratum leaves the books balanced. -/
theorem finish (h : before.Balanced store program strata)
    (hnodup : (program.predicates.map Predicate.name).Nodup)
    (hsound : strata.Sound program.predicates) {i : Nat} {relations : List Relation}
    (hi : i < strata.strata.length) (hclean : strata.Clean store program i)
    (hlower : ∀ d ∈ (strata.stratum i).dependsOn, Session.isPublished strata before d = true)
    (hempty : ∀ name ∈ (strata.stratum i).predicates, before.slots[name]? = some none)
    (hnames : relations.map Relation.name = (strata.stratum i).predicates)
    (hfilled : ∀ relation ∈ relations, after.slots[relation.name]? = some (some relation))
    (hkept : ∀ name : String, name ∉ (strata.stratum i).predicates →
      after.slots[name]? = before.slots[name]?)
    (htally : after.tally = (before.tally.1 + 1, before.tally.2.1 + relations.length,
      before.tally.2.2 + (relations.map Relation.size).sum)) :
    after.Balanced store program strata := by
  have hold {name : String} (hname : name ∈ (strata.stratum i).predicates) :
      before.published? name = none := by
    rw [published?, hempty name hname]
    rfl
  have hnew : (strata.stratum i).predicates.filterMap after.published? = relations := by
    rw [← hnames, List.filterMap_map]
    exact (List.filterMap_congr fun relation hrelation =>
      published?_eq_some_iff.2 (hfilled relation hrelation)).trans List.filterMap_some
  have hother {name : String} (hname : name ∉ (strata.stratum i).predicates) :
      after.published? name = before.published? name := by
    rw [published?, published?, hkept name hname]
  have hself : Session.isPublished strata after i = true := by
    refine List.all_eq_true.2 fun name hname => ?_
    obtain ⟨relation, hrelation, rfl⟩ := List.mem_map.1 (hnames.symm ▸ hname)
    exact isPublished_iff.2 ⟨relation, hfilled relation hrelation⟩
  have hstratum {j : Nat} (hj : j < strata.strata.length) (hne : j ≠ i) :
      Session.isPublished strata after j = Session.isPublished strata before j :=
    isPublished_of_kept hsound hi hj hne hkept
  have hnone := not_isPublished_of_empty hsound hi hempty
  refine ⟨fun j hj hpublished d hd => ?_, fun j hj hpublished => ?_, ?_⟩
  · by_cases hdi : d = i
    · exact hdi ▸ hself
    · have hd' : d < strata.strata.length := (hsound.below j hj d hd).1.trans hj
      rw [hstratum hd' hdi]
      by_cases hji : j = i
      · exact hlower d (hji ▸ hd)
      · exact h.below j hj (hstratum hj hji ▸ hpublished) d hd
  · by_cases hji : j = i
    · exact hji ▸ hclean
    · exact h.clean j hj (hstratum hj hji ▸ hpublished)
  · have hmember := hsound.member i hi
    have hstrata : (List.range strata.strata.length).countP (Session.isPublished strata after) =
        (List.range strata.strata.length).countP (Session.isPublished strata before) + 1 :=
      countP_eq_add_length _ _ List.nodup_range (List.nodup_singleton i) (by simpa using hi)
        (by simpa using hnone) (by simpa using hself) fun j hj hnot =>
          hstratum (List.mem_range.1 hj) (by simpa using hnot)
    have hpredicates := countP_eq_add_length before.isPublished after.isPublished hnodup
      (hsound.nodup i hi) hmember
      (fun name hname => by rw [isPublished, hold hname]; rfl)
      (fun name hname => List.all_eq_true.1 hself name hname)
      fun name _ hnot => by rw [isPublished, isPublished, hother hnot]
    have htuples := sum_filterMap_eq_add before.published? after.published? hnodup
      (hsound.nodup i hi) hmember (fun name hname => hold hname)
      (fun name _ hnot => hother hnot) Relation.size
    have hlength : relations.length = (strata.stratum i).predicates.length := by
      rw [← hnames, List.length_map]
    rw [htally, h.tally, hstrata, hpredicates, htuples, hnew, hlength]

/-- A turn leaves the books balanced. -/
theorem turn (h : before.Balanced store program strata)
    (hnodup : (program.predicates.map Predicate.name).Nodup)
    (hsound : strata.Sound program.predicates)
    (hturn : Turn store program strata settings before after) :
    after.Balanced store program strata := by
  cases hturn with
  | stay hencloses htally => exact h.stay hencloses htally
  | finish hi hclean hlower hempty hnames hfilled hkept htally _ =>
    exact h.finish hnodup hsound hi hclean hlower hempty hnames hfilled hkept htally

/-- Any number of turns leave the books balanced. -/
theorem turns (h : before.Balanced store program strata)
    (hnodup : (program.predicates.map Predicate.name).Nodup)
    (hsound : strata.Sound program.predicates)
    (hturns : Turns store program strata settings before after) :
    after.Balanced store program strata := by
  induction hturns with
  | refl => exact h
  | tail _ hturn ih => exact ih.turn hnodup hsound hturn

/-- The books are balanced as long as nothing is finished and nothing was counted. -/
theorem start (hsound : strata.Sound program.predicates)
    (hempty : ∀ name ∈ program.predicates.map Predicate.name,
      workspace.slots[name]? = some none) (htally : workspace.tally = (0, 0, 0)) :
    workspace.Balanced store program strata := by
  have hnone (i : Nat) (hi : i < strata.strata.length) :
      ¬Session.isPublished strata workspace i = true :=
    not_isPublished_of_empty hsound hi fun name hname => hempty name (hsound.member i hi name hname)
  have hold (name : String) (hname : name ∈ program.predicates.map Predicate.name) :
      workspace.published? name = none := by
    rw [published?, hempty name hname]
    rfl
  refine ⟨fun i hi hpublished => absurd hpublished (hnone i hi),
    fun i hi hpublished => absurd hpublished (hnone i hi), ?_⟩
  have hstrata : (List.range strata.strata.length).countP
      (Session.isPublished strata workspace) = 0 :=
    List.countP_eq_zero.2 fun i hi => hnone i (List.mem_range.1 hi)
  have hpredicates : (program.predicates.map Predicate.name).countP workspace.isPublished = 0 :=
    List.countP_eq_zero.2 fun name hname => by simp [isPublished, hold name hname]
  rw [htally, hstrata, hpredicates, List.filterMap_eq_nil_iff.2 hold]
  rfl

end Balanced

end Workspace

end Stratalog
