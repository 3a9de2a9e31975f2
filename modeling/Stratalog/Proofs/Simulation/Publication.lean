import Stratalog.Proofs.Session.Publish
import Stratalog.Proofs.Simulation.Stratum

/-!
# Publishing side by side

A stratum that is finished on neither side of a pairing is evaluated on both and published on both, or
on neither. Apart from indices the slots of other strata do not change, whether this succeeds or not,
so each side remains comparable with what it started from.
-/

namespace Stratalog

open Evaluation Eval Session

/-- One workspace comes from another when no slots but those of some members were filled, and other
relations are the same but for their indices. -/
structure Workspace.Fills (before : Workspace) (members : List String) (after : Workspace) :
    Prop where
  base : ∀ name : String, after.base[name]?.map Relation.bare = before.base[name]?.map Relation.bare
  slots : ∀ name ∉ members, after.slots[name]?.map (Option.map Relation.bare) =
    before.slots[name]?.map (Option.map Relation.bare)
  coherent : after.Coherent

namespace Workspace

variable {before after last : Workspace} {members : List String} {name : String}
  {strata : Stratification} {relation : Relation}

/-- Nothing need be filled. -/
theorem Surrounds.fills (h : before.Surrounds after) (members : List String) :
    before.Fills members after :=
  ⟨h.base, fun name _ => h.slots name, h.coherent⟩

/-- The slot of a member may be filled with a coherent relation. -/
theorem Fills.insert (h : before.Fills members after) (hname : name ∈ members)
    (hrelation : relation.Coherent) :
    before.Fills members { after with slots := after.slots.insert name (some relation) } := by
  refine ⟨h.base, fun other hother => ?_, h.coherent.base, fun other found hfound => ?_,
    h.coherent.growing, h.coherent.delta⟩
  · rw [Std.TreeMap.getElem?_insert, if_neg]
    · exact h.slots other hother
    · intro heq
      exact hother (Std.LawfulEqOrd.eq_of_compare heq ▸ hname)
  · rcases of_getElem?_insert hfound with heq | hold
    · cases heq
      exact hrelation
    · exact h.coherent.slots other found hold

/-- Filling slots around which nothing changed fills those of the relations. -/
theorem Surrounds.filled {relations : List Relation} (h : before.Surrounds after)
    (hfilled : after.Filled last relations)
    (hrelations : ∀ relation ∈ relations, relation.Coherent) :
    before.Fills (relations.map Relation.name) last := by
  refine ⟨fun name => ?_, fun name hname => ?_, hfilled.coherent h.coherent hrelations⟩
  · rw [hfilled.frame]
    exact h.base name
  · rw [hfilled.kept name hname]
    exact h.slots name

/-- Where the slots of a stratum look the same, it is finished in both workspaces or in neither. -/
theorem isPublished_congr {i : Nat} (h : ∀ name ∈ (strata.stratum i).predicates,
    after.slots[name]?.map (Option.map Relation.outline) =
      before.slots[name]?.map (Option.map Relation.outline)) :
    Session.isPublished strata after i = Session.isPublished strata before i := by
  have hname : ∀ name ∈ (strata.stratum i).predicates,
      after.isPublished name = before.isPublished name := by
    intro name hname
    have hslots := h name hname
    rw [isPublished, isPublished, published?, published?]
    rcases hnew : after.slots[name]? with _ | _ | relation <;>
      rcases hold : before.slots[name]? with _ | _ | old <;> rw [hnew, hold] at hslots <;>
        first | rfl | cases hslots
  rw [Bool.eq_iff_iff, Session.isPublished, Session.isPublished, List.all_eq_true,
    List.all_eq_true]
  exact forall₂_congr fun name hmem => by rw [hname name hmem]

end Workspace

/-- Filling the slots of one stratum leaves it open whether the others are finished. -/
theorem Workspace.Fills.isPublished_eq {before after : Workspace} {predicates : List Predicate}
    {strata : Stratification} {i j : Nat}
    (h : before.Fills (strata.stratum i).predicates after) (hsound : strata.Sound predicates)
    (hi : i < strata.strata.length) (hj : j < strata.strata.length) (hne : j ≠ i) :
    Session.isPublished strata after j = Session.isPublished strata before j := by
  refine isPublished_congr fun name hname => Relation.map_map_outline_of_bare (h.slots name ?_)
  exact fun hmem => hne ((hsound.together j hj name hname i hi name hmem).2 (Together.refl _ _))

/-- A stratum whose slots are empty is published unless its evaluation fails. -/
theorem Session.ensures_publishStratum_of_empty [PatternEngine] {program : Program}
    {strata : Stratification}
    {i : Nat} {start : Workspace} (hnodup : (program.predicates.map Predicate.name).Nodup)
    (hsound : strata.Sound program.predicates) (hi : i < strata.strata.length)
    (hcoherent : start.Coherent)
    (hempty : ∀ name ∈ (strata.stratum i).predicates, start.slots[name]? = some none)
    (context : Context) :
    (publishStratum program context (strata.stratum i)).Ensures start
      (fun _ after => start.Fills (strata.stratum i).predicates after ∧
        Session.isPublished strata after i = true)
      fun fault after => start.Surrounds after ∧ (evaluateStratum context (strata.stratum i)
        (program.membersOf (strata.stratum i))).run.run start = (.error fault, after) := by
  unfold publishStratum
  rw [ensures_bind]
  refine ((Pairing.ensures_evaluateStratum_alone hcoherent context (strata.stratum i)
    (program.membersOf (strata.stratum i))).and ensures_run).mono
    (fun result grown ⟨⟨hsurrounds, halike⟩, hrun⟩ => ?_) fun _ _ ⟨hsurrounds, hrun⟩ =>
      ⟨hsurrounds, hrun⟩
  have hnames : result.relations.map Relation.name = (strata.stratum i).predicates := by
    rw [halike.names, Program.map_name_membersOf hnodup (hsound.member i hi),
      eraseDups_eq_self (hsound.nodup i hi)]
  have hgrown : ∀ relation ∈ result.relations, grown.slots[relation.name]? = some none :=
    fun relation hrelation => Workspace.slot_eq_none_of_map (hsurrounds.slots relation.name)
      (hempty _ (hnames ▸ List.mem_map_of_mem hrelation))
  rw [ensures_bind]
  refine (ensures_publishAll (hnames ▸ hsound.nodup i hi) hgrown).mono
    (fun _ after hfilled => ?_) fun _ _ => False.elim
  rw [ensures_pure]
  refine ⟨?_, List.all_eq_true.2 fun name hname => hfilled.isPublished_of_mem (hnames ▸ hname)⟩
  rw [← hnames]
  exact hsurrounds.filled hfilled fun relation hrelation =>
    (List.forall₂_same.1 halike.relations relation hrelation).coherent

namespace Pairing

variable {p : Pairing} {members : List String} {left right : Workspace}
  {relations relations' : List Relation} {limit : Nat} {program : Program}
  {strata : Stratification} {i : Nat}

/-- Workspaces to which publishing a stratum with the given members has led, in whole or in part: each
comes from what was started from, the slots of the members look the same, and as much was counted. -/
structure Heirs (p : Pairing) (members : List String) (left right : Workspace) : Prop where
  fillsLeft : p.left.Fills members left
  fillsRight : p.right.Fills members right
  slots : ∀ name ∈ members, right.slots[name]?.map (Option.map Relation.outline) =
    left.slots[name]?.map (Option.map Relation.outline)
  gain : ∃ gain, left.counters = p.left.counters + gain ∧ right.counters = p.right.counters + gain

/-- Kin are heirs to whom nothing was published. -/
theorem Kin.heirs (h : p.Kin left right) (hmembers : ∀ name ∈ members, name ∈ p.names) :
    p.Heirs members left right where
  fillsLeft := h.aroundLeft.fills members
  fillsRight := h.aroundRight.fills members
  slots name hname := by
    rw [Relation.map_map_outline_of_bare (h.aroundLeft.slots name),
      Relation.map_map_outline_of_bare (h.aroundRight.slots name)]
    exact p.slots name (hmembers name hname)
  gain := h.gain

/-- The slots of a member are filled alike on both sides. -/
theorem Heirs.insert (h : p.Heirs members left right) {relation relation' : Relation}
    (hname : relation.name ∈ members) (halike : AlikeRelations limit relation relation') :
    p.Heirs members { left with slots := left.slots.insert relation.name (some relation) }
      { right with slots := right.slots.insert relation.name (some relation') } where
  fillsLeft := h.fillsLeft.insert hname halike.coherent
  fillsRight := h.fillsRight.insert hname halike.coherent'
  slots name hmem := by
    rw [Std.TreeMap.getElem?_insert, Std.TreeMap.getElem?_insert]
    split
    · exact congrArg (fun outline => some (some outline)) halike.outline
    · exact h.slots name hmem
  gain := h.gain

/-- Heirs remain heirs when as much is counted on both sides. -/
theorem Heirs.counted (h : p.Heirs members left right) (counted : Counters → Counters)
    (hcounted : ∀ before gain, counted (before + gain) = before + counted gain) :
    p.Heirs members { left with counters := counted left.counters }
      { right with counters := counted right.counters } where
  fillsLeft := ⟨h.fillsLeft.base, h.fillsLeft.slots, h.fillsLeft.coherent.base,
    h.fillsLeft.coherent.slots, h.fillsLeft.coherent.growing, h.fillsLeft.coherent.delta⟩
  fillsRight := ⟨h.fillsRight.base, h.fillsRight.slots, h.fillsRight.coherent.base,
    h.fillsRight.coherent.slots, h.fillsRight.coherent.growing, h.fillsRight.coherent.delta⟩
  slots := h.slots
  gain := by
    obtain ⟨gain, hgain, hgain'⟩ := h.gain
    exact ⟨counted gain, by rw [hgain, hcounted], by rw [hgain', hcounted]⟩

/-- Relations of the same outlines are published on both sides or on neither. -/
theorem pairs_publishAll (h : p.Heirs members left right)
    (hrelations : List.Forall₂ (AlikeRelations limit) relations relations')
    (hmembers : ∀ relation ∈ relations, relation.name ∈ members) :
    Eval.Pairs p.strict (publishAll relations) (publishAll relations') left right
      (fun _ _ => p.Heirs members) (p.Heirs members) := by
  induction hrelations generalizing left right with
  | nil => exact Eval.pairs_pure h
  | @cons relation relation' rest rest' halike _ ih =>
    obtain ⟨hname, hrest⟩ := List.forall_mem_cons.1 hmembers
    have hnames : relation'.name = relation.name := (Relation.outline_eq_iff.1 halike.outline).1
    have hslot := h.slots relation.name hname
    rw [publishAll, publishAll, hnames]
    refine Eval.pairs_get_bind ?_
    rw [Workspace.publish, Workspace.publish]
    rcases hleft : left.slots[relation.name]? with _ | _ | old <;>
      rcases hright : right.slots[relation.name]? with _ | _ | old' <;>
        rw [hleft, hright] at hslot <;> try cases hslot
    -- The slots are missing, or empty, or filled already.
    · exact fun _ => h
    · exact ih (h.insert hname halike) hrest
    · exact fun _ => h

/-- A stratum is evaluated and published on both sides or on neither. -/
theorem pairs_publishStratum [PatternEngine] (h : p.Kin left right) {stratum : Stratum}
    (hcovers : p.Covers (program.membersOf stratum))
    (hmembers : ∀ name ∈ stratum.predicates, name ∈ p.names) :
    Eval.Pairs p.strict (publishStratum program p.first stratum)
      (publishStratum program p.second stratum) left right
      (fun result result' l r => AlikeResults p.first.settings (program.membersOf stratum) result
        result' ∧ p.Heirs stratum.predicates l r) (p.Heirs stratum.predicates) := by
  unfold publishStratum
  refine (Eval.Pairs.mono (pairs_evaluateStratum rfl hcovers h) (fun _ _ _ _ => id)
    fun _ _ hkin => hkin.heirs hmembers).bind fun result result' l r ⟨halike, htwins⟩ => ?_
  have hnames : ∀ relation ∈ result.relations, relation.name ∈ stratum.predicates := by
    intro relation hrelation
    have hname := List.mem_map_of_mem hrelation (f := Relation.name)
    rw [halike.names, List.mem_eraseDups] at hname
    obtain ⟨predicate, hpredicate, heq⟩ := List.mem_map.1 hname
    exact heq ▸ Program.name_mem_of_mem_membersOf hpredicate
  exact (pairs_publishAll (htwins.toKin.heirs hmembers) halike.relations hnames).bind
    fun _ _ _ _ hheirs => Eval.pairs_pure ⟨halike, hheirs⟩

/-- A stratum is finished on both sides or on neither, and as much is counted. -/
theorem pairs_ensureStratum [PatternEngine] (hleft : p.left.Coherent) (hright : p.right.Coherent)
    (hfirst : p.strict → p.first.IsQuiet) (hsecond : p.second.IsQuiet)
    (hcovers : p.Covers (program.membersOf (strata.stratum i)))
    (hmembers : ∀ name ∈ (strata.stratum i).predicates, name ∈ p.names) :
    Eval.Pairs p.strict (ensureStratum program strata p.first i)
      (ensureStratum program strata p.second i) p.left p.right
      (fun _ _ => p.Heirs (strata.stratum i).predicates)
      (p.Heirs (strata.stratum i).predicates) := by
  have hkin := p.kin_of_isQuiet hleft hright hfirst hsecond
  unfold ensureStratum
  refine Eval.pairs_get_bind ?_
  rw [Workspace.isPublished_congr fun name hname => p.slots name (hmembers name hname)]
  split
  · exact Eval.pairs_pure (hkin.heirs hmembers)
  · have hpass : Eval.Pairs p.strict p.first.pass p.second.pass p.left p.right
        (fun _ _ => p.Kin) (p.Heirs (strata.stratum i).predicates) :=
      pairs_pass_of_kin hkin hkin.passed (hkin.passed.heirs hmembers)
    refine hpass.bind fun _ _ _ _ hpassed => ?_
    refine (pairs_publishStratum hpassed hcovers hmembers).bind
      fun result result' l r ⟨halike, hheirs⟩ => Eval.pairs_modify ?_
    rw [halike.rounds, halike.derived]
    exact hheirs.counted (fun counters => counters.countStratum _ result.rounds result.derived)
      fun before gain => Counters.countStratum_add before gain _ _ _

end Pairing

end Stratalog
