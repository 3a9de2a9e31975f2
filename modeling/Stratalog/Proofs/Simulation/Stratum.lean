import Stratalog.Proofs.Fixpoint.Stratum
import Stratalog.Proofs.Simulation.Round

/-!
# Strata side by side

From twins, a stratum is evaluated in the same number of rounds to relations of the same outlines.
The second side may have more rounds to spend; it spends as many as the first. Between rounds the
members grow by the same rows, so the twins of one round lead to the twins of the next.
-/

namespace Stratalog

open Evaluation Eval

namespace Pairing

variable {p : Pairing} {members : List String} {left right : Workspace}
  {rows rows' : RowsByName} {predicates : List Predicate} {stratum stratum' : Stratum}

/-- Twins stay twins when what grows is replaced by relations of the same outlines. -/
theorem Twins.replace (h : p.Twins members left right) {others : List String}
    {growing growing' delta delta' : Relations}
    (hgrowing : ∀ name : String,
      growing'[name]?.map Relation.outline = growing[name]?.map Relation.outline)
    (hdelta : ∀ name : String,
      delta'[name]?.map Relation.outline = delta[name]?.map Relation.outline)
    (hnamed : ∀ name : String,
      growing[name]?.map Relation.name = if name ∈ others then some name else none)
    (hcoherent : ∀ relations ∈ [growing, growing', delta, delta'],
      ∀ (name : String) (relation : Relation),
        relations[name]? = some relation → relation.Coherent)
    (hsizes : ∀ (name : String) (relation : Relation), growing[name]? = some relation →
      relation.size ≤ p.first.settings.maxTuples) :
    p.Twins others { left with growing := growing, delta := delta }
      { right with growing := growing', delta := delta' } where
  aroundLeft := ⟨h.aroundLeft.base, h.aroundLeft.slots, h.aroundLeft.coherent.base,
    h.aroundLeft.coherent.slots, hcoherent growing (by simp), hcoherent delta (by simp)⟩
  aroundRight := ⟨h.aroundRight.base, h.aroundRight.slots, h.aroundRight.coherent.base,
    h.aroundRight.coherent.slots, hcoherent growing' (by simp), hcoherent delta' (by simp)⟩
  growing := hgrowing
  delta := hdelta
  named := hnamed
  sizes := hsizes
  gain := h.gain
  ahead := h.ahead
  behind := h.behind

/-- A member grows by the same rows on both sides. -/
theorem Twins.grow (h : p.Twins members left right) {name : String} {relation relation' : Relation}
    (hget : left.growing[name]? = some relation) (hget' : right.growing[name]? = some relation')
    {fresh fresh' : List Row} (hfresh : fresh.Perm fresh') :
    p.Kin { left with growing := left.growing.insert name (relation.extend fresh) }
      { right with growing := right.growing.insert name (relation'.extend fresh') } ∧
    ((relation.extend fresh).size ≤ p.first.settings.maxTuples →
      p.Twins members { left with growing := left.growing.insert name (relation.extend fresh) }
        { right with growing := right.growing.insert name (relation'.extend fresh') }) := by
  have houtline : relation'.outline = relation.outline := by
    have heq := h.growing name
    rw [hget, hget'] at heq
    exact Option.some.inj heq
  have hcoherent {workspace : Workspace} (hw : workspace.Coherent) {relation : Relation}
      (hrelation : workspace.growing[name]? = some relation) (fresh : List Row) (other : String)
      (found : Relation)
      (hfound : (workspace.growing.insert name (relation.extend fresh))[other]? = some found) :
      found.Coherent := by
    rcases of_getElem?_insert hfound with rfl | hold
    · exact (hw.growing _ _ hrelation).extend fresh
    · exact hw.growing _ _ hold
  have hleft := hcoherent h.aroundLeft.coherent hget fresh
  have hright := hcoherent h.aroundRight.coherent hget' fresh'
  refine ⟨⟨⟨h.aroundLeft.base, h.aroundLeft.slots, h.aroundLeft.coherent.base,
      h.aroundLeft.coherent.slots, hleft, h.aroundLeft.coherent.delta⟩,
    ⟨h.aroundRight.base, h.aroundRight.slots, h.aroundRight.coherent.base,
      h.aroundRight.coherent.slots, hright, h.aroundRight.coherent.delta⟩, h.gain, h.ahead,
    h.behind⟩, fun hsize => h.replace (fun other => ?_) h.delta (fun other => ?_) ?_
      fun other found hfound => ?_⟩
  · rw [Std.TreeMap.getElem?_insert, Std.TreeMap.getElem?_insert]
    split
    · exact congrArg some (Relation.outline_extend houtline hfresh.symm)
    · exact h.growing other
  · have hname : (relation.extend fresh).name = relation.name := rfl
    exact (@map_getElem?_insert _ _ _ _ _ _ Relation.name hget hname other).trans (h.named other)
  · simp only [List.forall_mem_cons, List.not_mem_nil, false_imp_iff, implies_true, and_true]
    exact ⟨hleft, hright, h.aroundLeft.coherent.delta, h.aroundRight.coherent.delta⟩
  · rcases of_getElem?_insert hfound with rfl | hold
    · exact hsize
    · exact h.sizes other found hold

/-- The members absorb the same rows, and are found too large together. -/
theorem pairs_absorb (h : p.Twins members left right) (hrows : AlikeByName rows rows') :
    p.Pairs members (absorb p.first rows) (absorb p.second rows') left right fun _ _ => True := by
  induction hrows generalizing left right with
  | nil => exact pairs_pure h trivial
  | @cons entry entry' rest rest' hentry _ ih =>
    obtain ⟨name, fresh⟩ := entry
    obtain ⟨name', fresh'⟩ := entry'
    obtain ⟨rfl, hfresh⟩ := hentry
    rw [absorb, absorb]
    refine Eval.pairs_get_bind ?_
    have houtline := h.growing name
    dsimp only
    cases hget : left.growing[name]? with
    | none =>
      rw [hget] at houtline
      rw [Option.map_eq_none_iff.1 houtline]
      exact ih h
    | some relation =>
      rw [hget] at houtline
      obtain ⟨relation', hget', heq⟩ := Option.map_eq_some_iff.1 houtline
      rw [hget']
      have hsize : (relation'.extend fresh').size = (relation.extend fresh).size :=
        Relation.size_of_outline (Relation.outline_extend heq hfresh.symm)
      obtain ⟨hkin, htwins⟩ := h.grow hget hget' hfresh
      dsimp only at hsize ⊢
      rw [hsize]
      exact Eval.pairs_modify_bind ((pairs_checkSize_of_kin hkin _ _ htwins).bind
        fun _ _ _ _ _ hnext => ih hnext)

/-- The rows of a round become relations of the same outlines. -/
theorem map_outline_deltaOf (h : p.Twins members left right) (hrows : AlikeByName rows rows')
    (name : String) : (deltaOf right rows')[name]?.map Relation.outline =
      (deltaOf left rows)[name]?.map Relation.outline := by
  unfold deltaOf
  rw [Std.TreeMap.ofList_eq_insertMany_empty, Std.TreeMap.ofList_eq_insertMany_empty]
  refine map_getElem?_insertMany ?_ (fun _ => rfl) name
  rw [List.forall₂_map_left_iff, List.forall₂_map_right_iff]
  refine hrows.flip.imp fun entry' entry hentry => ?_
  obtain ⟨name', fresh'⟩ := entry'
  obtain ⟨name, fresh⟩ := entry
  obtain ⟨rfl, hperm⟩ : name = name' ∧ fresh.Perm fresh' := hentry
  have hschema : right.growing[name]?.map Relation.schema = left.growing[name]?.map Relation.schema := by
    have hmap := congrArg (Option.map fun outline => outline.2.1) (h.growing name)
    rw [Option.map_map, Option.map_map] at hmap
    exact hmap
  dsimp only
  rw [hschema]
  exact ⟨rfl, Relation.outline_ofDistinct _ _ hperm.symm⟩

/-- The rows of a round become coherent relations. -/
theorem coherent_deltaOf (workspace : Workspace) (rows : RowsByName) (name : String)
    (relation : Relation) (h : (deltaOf workspace rows)[name]? = some relation) :
    relation.Coherent := by
  unfold deltaOf at h
  rw [Std.TreeMap.ofList_eq_insertMany_empty] at h
  rcases of_getElem?_insertMany h with ⟨entry, hentry, rfl⟩ | hnone
  · obtain ⟨_, -, rfl⟩ := List.mem_map.1 hentry
    exact Relation.coherent_ofDistinct _ _ _
  · simp at hnone

/-- The first round goes alike. -/
theorem pairs_openRounds [PatternEngine] (h : p.Twins members left right) (hcovers : p.Covers predicates) :
    p.Pairs members (openRounds p.first predicates) (openRounds p.second predicates) left right
      AlikeByName := by
  unfold openRounds
  exact (pairs_pass h).bind fun _ _ _ _ _ hpassed =>
    (pairs_startRound hpassed _ hcovers).bind fun _ _ _ _ hrows hfound =>
      (pairs_absorb hfound hrows).bind fun _ _ _ _ _ hlast => pairs_pure hlast hrows

/-- A later round goes alike. -/
theorem pairs_nextRound [PatternEngine] (h : p.Twins members left right) (hcovers : p.Covers predicates)
    (hrows : AlikeByName rows rows') :
    p.Pairs members (nextRound p.first predicates rows) (nextRound p.second predicates rows') left
      right AlikeByName := by
  unfold nextRound
  refine (pairs_pass h).bind fun _ _ l r _ hpassed => Eval.pairs_modify_bind ?_
  have hdelta : p.Twins members { l with delta := deltaOf l rows }
      { r with delta := deltaOf r rows' } := by
    refine hpassed.replace hpassed.growing (map_outline_deltaOf hpassed hrows) hpassed.named ?_
      hpassed.sizes
    simp only [List.forall_mem_cons, List.not_mem_nil, false_imp_iff, implies_true, and_true]
    exact ⟨hpassed.aroundLeft.coherent.growing, hpassed.aroundRight.coherent.growing,
      coherent_deltaOf l rows, coherent_deltaOf r rows'⟩
  exact (pairs_deriveRound hdelta _ hcovers).bind fun _ _ _ _ hfresh hfound =>
    (pairs_absorb hfound hfresh).bind fun _ _ _ _ _ hlast => pairs_pure hlast hfresh

/-- Going from round to round takes the same number of rounds, and no more than there is fuel for. -/
theorem pairs_iterate [PatternEngine] (hrecursive : stratum'.recursive = stratum.recursive)
    (hcovers : p.Covers predicates) {fuel fuel' : Nat} (hfuel : fuel ≤ fuel')
    (hstrict : p.strict → fuel' ≤ fuel) (h : p.Twins members left right)
    (hrows : AlikeByName rows rows') (rounds : Nat) :
    p.Pairs members (iterate p.first stratum predicates fuel rounds rows)
      (iterate p.second stratum' predicates fuel' rounds rows') left right
      fun n n' => n' = n ∧ n ≤ rounds + fuel := by
  have hempty {rows rows' : RowsByName} (hrows : AlikeByName rows rows') :
      rows'.isEmpty = rows.isEmpty := by
    cases hrows <;> rfl
  induction fuel generalizing fuel' rounds rows rows' left right with
  | zero =>
    cases fuel' with
    | zero =>
      rw [iterate, iterate, hrecursive, hempty hrows]
      split
      · exact pairs_pure h ⟨rfl, Nat.le_add_right _ _⟩
      · exact Eval.pairs_throw h.toKin
    | succ fuel' =>
      rw [iterate, iterate, hrecursive, hempty hrows]
      split
      · exact pairs_pure h ⟨rfl, Nat.le_add_right _ _⟩
      · exact Eval.pairs_of_error rfl fun hs => absurd (hstrict hs) (Nat.not_succ_le_zero _)
  | succ fuel ih =>
    obtain ⟨fuel', rfl⟩ : ∃ n, fuel' = n + 1 := ⟨fuel' - 1, by omega⟩
    rw [iterate, iterate, hrecursive, hempty hrows]
    split
    · exact pairs_pure h ⟨rfl, Nat.le_add_right _ _⟩
    · refine (pairs_nextRound h hcovers hrows).bind fun _ _ _ _ hnext hlast => ?_
      refine (ih (Nat.le_of_succ_le_succ hfuel) (fun hs => Nat.le_of_succ_le_succ (hstrict hs))
        hlast hnext (rounds + 1)).mono fun n n' hn => ⟨hn.1, ?_⟩
      rw [Nat.add_right_comm] at hn
      exact hn.2

/-- The empty relations of the members carry the names of the members. -/
theorem map_name_emptyMembers (predicates : List Predicate) (name : String) :
    (emptyMembers predicates)[name]?.map Relation.name =
      if name ∈ predicates.map Predicate.name then some name else none := by
  have hnamed : ∀ e ∈ predicates.map fun predicate =>
      (predicate.name, Relation.empty predicate.name predicate.schema), e.2.name = e.1 := by
    intro e he
    obtain ⟨predicate, -, rfl⟩ := List.mem_map.1 he
    rfl
  unfold emptyMembers
  rw [Std.TreeMap.ofList_eq_insertMany_empty, map_getElem?_insertMany_of_named hnamed,
    List.map_map]
  simp [Function.comp_def]

/-- The relations of the members are empty at first. -/
theorem exists_eq_empty_of_emptyMembers {predicates : List Predicate} {name : String}
    {relation : Relation} (h : (emptyMembers predicates)[name]? = some relation) :
    ∃ predicate ∈ predicates, relation = Relation.empty predicate.name predicate.schema := by
  unfold emptyMembers at h
  rw [Std.TreeMap.ofList_eq_insertMany_empty] at h
  rcases of_getElem?_insertMany h with ⟨entry, hentry, rfl⟩ | hnone
  · obtain ⟨predicate, hmem, rfl⟩ := List.mem_map.1 hentry
    exact ⟨predicate, hmem, rfl⟩
  · simp at hnone

/-- The empty relations of the members are coherent. -/
theorem coherent_emptyMembers (predicates : List Predicate) (name : String) (relation : Relation)
    (h : (emptyMembers predicates)[name]? = some relation) : relation.Coherent := by
  obtain ⟨_, -, rfl⟩ := exists_eq_empty_of_emptyMembers h
  exact Relation.coherent_ofDistinct _ _ _

/-- The empty relations of the members have no rows. -/
theorem size_emptyMembers {predicates : List Predicate} {name : String} {relation : Relation}
    (h : (emptyMembers predicates)[name]? = some relation) : relation.size = 0 := by
  obtain ⟨_, -, rfl⟩ := exists_eq_empty_of_emptyMembers h
  rfl

/-- Finished relations of the same outlines, of no more rows than allowed. -/
structure AlikeRelations (limit : Nat) (relation relation' : Relation) : Prop where
  outline : relation'.outline = relation.outline
  coherent : relation.Coherent
  coherent' : relation'.Coherent
  size : relation.size ≤ limit

/-- Results of a stratum on both sides: relations of the same outlines, one for each member, found in the
same number of rounds, all within the budget of the first context. -/
structure AlikeResults (settings : Settings) (predicates : List Predicate)
    (result result' : StratumResult) : Prop where
  names : result.relations.map Relation.name = (predicates.map Predicate.name).eraseDups
  relations : List.Forall₂ (AlikeRelations settings.maxTuples) result.relations result'.relations
  rounds : result'.rounds = result.rounds
  bound : result.rounds ≤ max 1 settings.maxRounds
  derived : result'.derived = result.derived

/-- The members are finished with relations of the same outlines. -/
theorem Twins.alikeRelations (h : p.Twins (predicates.map Predicate.name) left right) :
    (finishedMembers left predicates).map Relation.name = (predicates.map Predicate.name).eraseDups ∧
      List.Forall₂ (AlikeRelations p.first.settings.maxTuples) (finishedMembers left predicates)
        (finishedMembers right predicates) := by
  have hall (names : List String) (hnames : ∀ name ∈ names, name ∈ predicates.map Predicate.name) :
      (names.filterMap fun name => left.growing[name]?).map Relation.name = names ∧
        List.Forall₂ (AlikeRelations p.first.settings.maxTuples)
          (names.filterMap fun name => left.growing[name]?)
          (names.filterMap fun name => right.growing[name]?) := by
    induction names with
    | nil => exact ⟨rfl, List.Forall₂.nil⟩
    | cons name rest ih =>
      obtain ⟨hname, hrest⟩ := List.forall_mem_cons.1 hnames
      have hnamed := h.named name
      rw [if_pos hname] at hnamed
      obtain ⟨relation, hget, rfl⟩ := Option.map_eq_some_iff.1 hnamed
      have houtline := h.growing relation.name
      rw [hget] at houtline
      obtain ⟨relation', hget', heq⟩ := Option.map_eq_some_iff.1 houtline
      obtain ⟨hmap, hforall⟩ := ih hrest
      rw [List.filterMap_cons_some hget, List.filterMap_cons_some hget', List.map_cons, hmap]
      exact ⟨rfl, List.Forall₂.cons ⟨heq, h.aroundLeft.coherent.growing _ _ hget,
        h.aroundRight.coherent.growing _ _ hget', h.sizes _ _ hget⟩ hforall⟩
  exact hall _ fun name hname => List.mem_eraseDups.1 hname

/-- Relations of the same outlines have as many rows together. -/
theorem foldr_size_of_alike {limit : Nat} {relations relations' : List Relation}
    (h : List.Forall₂ (AlikeRelations limit) relations relations') :
    relations'.foldr (fun relation total => relation.size + total) 0 =
      relations.foldr (fun relation total => relation.size + total) 0 := by
  induction h with
  | nil => rfl
  | cons hrelation _ ih =>
    rw [List.foldr_cons, List.foldr_cons, ih, Relation.size_of_outline hrelation.outline]

variable [PatternEngine]

/-- Growing the members from nothing ends with relations of the same outlines. -/
theorem pairs_growStratum (hrecursive : stratum'.recursive = stratum.recursive)
    (hcovers : p.Covers predicates)
    (h : p.Twins (predicates.map Predicate.name) left right) :
    p.Pairs (predicates.map Predicate.name) (growStratum p.first stratum predicates)
      (growStratum p.second stratum' predicates) left right
      (AlikeResults p.first.settings predicates) := by
  unfold growStratum
  refine (pairs_openRounds h hcovers).bind fun rows rows' _ _ hrows hnext => ?_
  refine (pairs_iterate hrecursive hcovers (Nat.sub_le_sub_right p.rounds 1)
    (fun hs => Nat.sub_le_sub_right (p.roundsStrict hs) 1) hnext hrows 1).bind ?_
  intro count count' l r hcount hlast
  obtain ⟨hnames, hrelations⟩ := hlast.alikeRelations
  have hbound : count ≤ max 1 p.first.settings.maxRounds := by
    have := hcount.2
    omega
  exact Eval.pairs_get_bind (pairs_pure hlast ⟨hnames, hrelations, hcount.1, hbound,
    foldr_size_of_alike hrelations⟩)

/-- Evaluating a stratum ends with relations of the same outlines, and leaves no member behind. -/
theorem pairs_evaluateStratum (hrecursive : stratum'.recursive = stratum.recursive)
    (hcovers : p.Covers predicates) (h : p.Kin left right) :
    p.Pairs [] (evaluateStratum p.first stratum predicates)
      (evaluateStratum p.second stratum' predicates) left right
      (AlikeResults p.first.settings predicates) := by
  have hkin (l r : Workspace) (hkin : p.Kin l r) {growing growing' : Relations}
      (hgrowing : ∀ (name : String) (relation : Relation),
        growing[name]? = some relation → relation.Coherent)
      (hgrowing' : ∀ (name : String) (relation : Relation),
        growing'[name]? = some relation → relation.Coherent) :
      p.Kin { l with growing := growing, delta := ∅ } { r with growing := growing', delta := ∅ } :=
    { hkin with
      aroundLeft := ⟨hkin.aroundLeft.base, hkin.aroundLeft.slots, hkin.aroundLeft.coherent.base,
        hkin.aroundLeft.coherent.slots, hgrowing, by simp⟩
      aroundRight := ⟨hkin.aroundRight.base, hkin.aroundRight.slots, hkin.aroundRight.coherent.base,
        hkin.aroundRight.coherent.slots, hgrowing', by simp⟩ }
  have hopened : p.Twins (predicates.map Predicate.name) (opened left predicates)
      (opened right predicates) :=
    { hkin left right h (coherent_emptyMembers predicates) (coherent_emptyMembers predicates) with
      growing := fun _ => rfl
      delta := fun _ => rfl
      named := map_name_emptyMembers predicates
      sizes := fun name relation hget => by
        rw [size_emptyMembers hget]
        exact Nat.zero_le _ }
  have hcleared {l r : Workspace} (h : p.Kin l r) :
      p.Kin { l with growing := ∅, delta := ∅ } { r with growing := ∅, delta := ∅ } :=
    hkin l r h (by simp) (by simp)
  have hclosed {l r : Workspace} (h : p.Kin l r) :
      p.Twins [] { l with growing := ∅, delta := ∅ } { r with growing := ∅, delta := ∅ } :=
    { hcleared h with
      growing := fun _ => rfl
      delta := fun _ => rfl
      named := by simp
      sizes := by simp }
  have hgrown := pairs_growStratum hrecursive hcovers hopened
  unfold Pairs Eval.Pairs
  rw [run_evaluateStratum, run_evaluateStratum]
  rcases hleft : (growStratum p.first stratum predicates).run.run (opened left predicates) with
    ⟨fault | result, l⟩
  · rcases hright : (growStratum p.second stratum' predicates).run.run (opened right predicates) with
      ⟨fault' | result', r⟩
    · intro hs
      obtain ⟨_, _, hrun, hlast⟩ := hgrown.of_error hs hleft
      rw [hright] at hrun
      cases hrun
      exact hcleared hlast
    · intro hs
      obtain ⟨_, _, hrun, -⟩ := hgrown.of_error hs hleft
      rw [hright] at hrun
      cases hrun
  · obtain ⟨result', r, hright, halike, hlast⟩ := hgrown.of_ok hleft
    rw [hright]
    exact ⟨halike, hclosed hlast.toKin⟩

/-- Evaluating a stratum keeps the workspace around the members, whether it succeeds or not. Its
relations are those of the members, within the budget, as is the number of its rounds. -/
theorem ensures_evaluateStratum_alone {workspace : Workspace} (h : workspace.Coherent)
    (context : Context) (stratum : Stratum) (predicates : List Predicate) :
    (evaluateStratum context stratum predicates).Ensures workspace
      (fun result after => workspace.Surrounds after ∧
        AlikeResults context.settings predicates result result)
      fun _ after => workspace.Surrounds after := by
  have hcovers : (alone context workspace).Covers predicates := fun _ _ _ _ _ _ => trivial
  have hpairs := pairs_evaluateStratum (Eq.refl stratum.recursive) hcovers (kin_alone context h)
  refine ensures_of_forall (fun result after hrun => ?_) fun fault after hrun => ?_
  · obtain ⟨_, _, hrun', halike, htwins⟩ := hpairs.of_ok hrun
    change (evaluateStratum context stratum predicates).run.run workspace = _ at hrun'
    rw [hrun] at hrun'
    cases hrun'
    exact ⟨htwins.aroundLeft, halike⟩
  · obtain ⟨_, _, -, hkin⟩ := hpairs.of_error trivial hrun
    exact hkin.aroundLeft

end Pairing

end Stratalog
