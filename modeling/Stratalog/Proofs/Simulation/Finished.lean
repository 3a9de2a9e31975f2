import Stratalog.Proofs.Session.Materialize
import Stratalog.Proofs.Simulation.Correspondence
import Stratalog.Proofs.Simulation.Query

/-!
# What strata finish with

The evaluation of a stratum starts from the relations of a store and from what the strata below it
finished with. Nothing else has a part in what it finishes with: not what was done before, not which
indices were built meanwhile, and not what a program defines elsewhere. A budget has no part in it
either, as long as it suffices.

`Finishes` says that a stratum finishes with a result within some settings. It follows that such
a result is the same for corresponding strata, up to the order of rows, and that an evaluation which no
checkpoint stops finds it again within every larger budget.
-/

namespace Stratalog

open Evaluation

/-- The relations of a result in outline. -/
def Evaluation.StratumResult.outlines (result : StratumResult) :
    List (String × Schema × Multiset Row) :=
  result.relations.map Relation.outline

/-- A workspace between operations holds the relations of a store and what some strata finished
with, and nothing under the names that no predicate derives. -/
structure Workspace.RestsOn (workspace : Workspace) (store : FactStore) (program : Program)
    (ids : List Nat) (results : Nat → StratumResult) : Prop where
  coherent : workspace.Coherent
  growing : ∀ name : String, workspace.growing[name]? = none
  delta : ∀ name : String, workspace.delta[name]? = none
  base : ∀ name : String,
    workspace.base[name]?.map Relation.outline = store.relations[name]?.map Relation.outline
  underived : ∀ name : String, name ∉ program.predicates.map Predicate.name →
    workspace.slots[name]? = none
  slots : ∀ i ∈ ids, ∀ relation ∈ (results i).relations,
    workspace.slots[relation.name]?.map (Option.map Relation.outline) =
      some (some relation.outline)

/-- Within some settings a stratum finishes with a result, from what those below finish with. -/
inductive Finishes [PatternEngine] (store : FactStore) (program : Program) (strata : Stratification)
    (settings : Settings) : Nat → StratumResult → Prop where
  | intro {i : Nat} {context : Context} {start after : Workspace} {result : StratumResult}
      {lower : Nat → StratumResult} (hsettings : context.settings = settings)
      (hentities : context.entities = store.entities)
      (hrests : start.RestsOn store program (strata.stratum i).dependsOn lower)
      (hempty : ∀ name ∈ (strata.stratum i).predicates, start.slots[name]? = some none)
      (hlower : ∀ d ∈ (strata.stratum i).dependsOn,
        Finishes store program strata settings d (lower d))
      (hrun : (evaluateStratum context (strata.stratum i)
        (program.membersOf (strata.stratum i))).run.run start = (.ok result, after)) :
      Finishes store program strata settings i result

variable {store : FactStore} {program program' : Program} {strata strata' : Stratification}
  {settings settings' : Settings} {R : Nat → Nat → Prop} {i i' : Nat} {ids ids' : List Nat}
  {result result' : StratumResult} {results results' : Nat → StratumResult}
  {left right : Workspace} {name : String}

/-- Where two workspaces rest on results of the same outlines, their slots look the same. -/
theorem Workspace.RestsOn.slot_eq (h : left.RestsOn store program ids results)
    (h' : right.RestsOn store program' ids' results') {d d' : Nat} (hd : d ∈ ids) (hd' : d' ∈ ids')
    (heq : (results' d').outlines = (results d).outlines)
    (hname : name ∈ (results d).relations.map Relation.name) :
    right.slots[name]?.map (Option.map Relation.outline) =
      left.slots[name]?.map (Option.map Relation.outline) := by
  obtain ⟨relation, hrelation, rfl⟩ := List.mem_map.1 hname
  have hin : relation.outline ∈ (results' d').outlines := heq ▸ List.mem_map_of_mem hrelation
  obtain ⟨relation', hrelation', houtline⟩ := List.mem_map.1 hin
  have hslot := h'.slots d' hd' relation' hrelation'
  rw [houtline, (Relation.outline_eq_iff.1 houtline).1] at hslot
  rw [hslot, h.slots d hd relation hrelation]

/-- Workspaces that rest on results are twins if they are kin, for they have no members. -/
theorem Workspace.RestsOn.twins (h : left.RestsOn store program ids results)
    (h' : right.RestsOn store program' ids' results') {p : Pairing} (hkin : p.Kin left right) :
    p.Twins [] left right :=
  { hkin with
    growing := fun name => by rw [h.growing, h'.growing]
    delta := fun name => by rw [h.delta, h'.delta]
    named := fun name => by
      rw [h.growing]
      rfl
    sizes := fun name relation hget => by
      rw [h.growing] at hget
      cases hget }

variable [PatternEngine]

/-- Evaluations of corresponding strata, from workspaces that rest on the same results, end with the
same result, if the second is allowed as much as the first and nothing stops it. -/
theorem Correspondence.evaluates (h : Correspondence program strata program' strata' R)
    (hR : R i i') (hleft : left.RestsOn store program (strata.stratum i).dependsOn results)
    (hright : right.RestsOn store program' (strata'.stratum i').dependsOn results')
    (hempty : ∀ name ∈ (strata.stratum i).predicates, left.slots[name]? = some none)
    (hempty' : ∀ name ∈ (strata'.stratum i').predicates, right.slots[name]? = some none)
    (hsame : ∀ d ∈ (strata.stratum i).dependsOn, ∀ d' ∈ (strata'.stratum i').dependsOn, R d d' →
      (results' d').outlines = (results d).outlines)
    (hnames : ∀ d ∈ (strata.stratum i).dependsOn,
      (results d).relations.map Relation.name = (strata.stratum d).predicates)
    {first : Context} (second : Context) (hentities : second.entities = first.entities)
    (htuples : first.settings.maxTuples ≤ second.settings.maxTuples)
    (hrounds : first.settings.maxRounds ≤ second.settings.maxRounds) (hquiet : second.IsQuiet)
    {after : Workspace} (hrun : (evaluateStratum first (strata.stratum i)
      (program.membersOf (strata.stratum i))).run.run left = (.ok result, after)) :
    ∃ result' after', (evaluateStratum second (strata'.stratum i')
        (program'.membersOf (strata'.stratum i'))).run.run right = (.ok result', after') ∧
      result'.outlines = result.outlines ∧ result'.rounds = result.rounds := by
  have hslots : ∀ name ∈ {name | ∃ predicate ∈ program.membersOf (strata.stratum i),
      ∃ read ∈ predicate.reads, read.1 = name}, right.slots[name]?.map (Option.map Relation.outline) =
        left.slots[name]?.map (Option.map Relation.outline) := by
    rintro name ⟨predicate, hpredicate, read, hread, rfl⟩
    rcases h.reads hR predicate hpredicate read hread with
      hown | ⟨hbase, hbase'⟩ | ⟨d, hd, d', hd', hRd, hin⟩
    · rw [hempty _ hown, hempty' _ (h.predicates hR ▸ hown)]
    · rw [hleft.underived _ hbase, hright.underived _ hbase']
    · exact hleft.slot_eq hright hd hd' (hsame d hd d' hd' hRd) (hnames d hd ▸ hin)
  let p := Pairing.loose first second left right _ hentities htuples hrounds
    (fun name _ => (hright.base name).trans (hleft.base name).symm) hslots
  have hkin : p.Kin left right := p.kin_of_isQuiet hleft.coherent hright.coherent False.elim hquiet
  have hcovers : p.Covers (program.membersOf (strata.stratum i)) :=
    fun predicate hpredicate rule hrule read hread =>
      ⟨predicate, hpredicate, read, List.mem_flatMap.2 ⟨rule, hrule, hread⟩, rfl⟩
  obtain ⟨result', after', hrun', halike, -⟩ :=
    (Pairing.pairs_evaluateStratum (h.recursive hR) hcovers hkin).of_ok hrun
  refine ⟨result', after', (h.members hR).symm ▸ hrun', ?_, halike.rounds⟩
  rw [StratumResult.outlines, StratumResult.outlines, ← List.forall₂_eq_eq_eq,
    List.forall₂_map_left_iff, List.forall₂_map_right_iff]
  exact halike.relations.flip.imp fun _ _ hrelation => hrelation.outline

namespace Finishes

/-- A stratum finishes with relations for its members. -/
theorem names (h : Finishes store program strata settings i result)
    (haccepted : Accepted store program strata) (hi : i < strata.strata.length) :
    result.relations.map Relation.name = (strata.stratum i).predicates := by
  obtain ⟨-, hnodup, hsound⟩ := haccepted
  cases h with
  | intro _ _ hrests _ _ hrun =>
    have halike := ((Pairing.ensures_evaluateStratum_alone hrests.coherent _ _ _).of_ok hrun).2
    rw [halike.names, Program.map_name_membersOf hnodup (hsound.member i hi),
      eraseDups_eq_self (hsound.nodup i hi)]

/-- A result keeps within the budget. -/
theorem within (h : Finishes store program strata settings i result) :
    (∀ relation ∈ result.relations, relation.size ≤ settings.maxTuples) ∧
      result.rounds ≤ max 1 settings.maxRounds := by
  cases h with
  | intro hsettings _ hrests _ _ hrun =>
    have halike := ((Pairing.ensures_evaluateStratum_alone hrests.coherent _ _ _).of_ok hrun).2
    rw [← hsettings]
    exact ⟨fun relation hrelation => (List.forall₂_same.1 halike.relations relation hrelation).size,
      halike.bound⟩

/-- What a stratum finishes with rests on what those below finish with. -/
theorem of_mem_dependsOn (h : Finishes store program strata settings i result) {d : Nat}
    (hd : d ∈ (strata.stratum i).dependsOn) :
    ∃ lower, Finishes store program strata settings d lower := by
  cases h with
  | intro _ _ _ _ hlower _ => exact ⟨_, hlower d hd⟩

/-- Corresponding strata finish with the same result, up to the order of rows, in as many rounds. -/
theorem outlines_eq (h : Finishes store program strata settings i result)
    (hcorresponds : Correspondence program strata program' strata' R)
    (haccepted : Accepted store program strata) (haccepted' : Accepted store program' strata')
    (hR : R i i') (h' : Finishes store program' strata' settings' i' result') :
    result'.outlines = result.outlines ∧ result'.rounds = result.rounds := by
  induction h generalizing i' result' with
  | @intro i context start after result lower hsettings hentities hrests hempty hlower hrun ih =>
    cases h' with
    | @intro _ context' start' after' _ lower' hsettings' hentities' hrests' hempty' hlower' hrun' =>
      -- Both evaluations are compared with one that is allowed what either is.
      let ample := Context.allowing store.entities settings settings'
      have hi := hcorresponds.lt hR
      have hi' := hcorresponds.lt' hR
      have hnames {d : Nat} (hd : d ∈ (strata.stratum i).dependsOn) :=
        (hlower d hd).names haccepted ((haccepted.sound.below i hi d hd).1.trans hi)
      have hnames' {d : Nat} (hd : d ∈ (strata'.stratum i').dependsOn) :=
        (hlower' d hd).names haccepted' ((haccepted'.sound.below i' hi' d hd).1.trans hi')
      obtain ⟨found, _, hfound, houtlines, hrounds⟩ := hcorresponds.evaluates hR hrests hrests' hempty
        hempty' (fun d hd d' hd' hRd => (ih d hd hRd (hlower' d' hd')).1) (fun _ => hnames)
        ample hentities.symm (hsettings ▸ le_max_left _ _) (hsettings ▸ le_max_left _ _) (fun _ => rfl)
        hrun
      obtain ⟨found', _, hfound', houtlines', hrounds'⟩ :=
        (Correspondence.refl haccepted'.nodup haccepted'.sound).evaluates ⟨rfl, hi'⟩ hrests' hrests'
          hempty' hempty' (fun d _ d' _ hd => hd.1 ▸ rfl) (fun _ => hnames') ample
          hentities'.symm (hsettings' ▸ le_max_right _ _) (hsettings' ▸ le_max_right _ _)
          (fun _ => rfl) hrun'
      rw [hfound] at hfound'
      cases hfound'
      exact ⟨houtlines'.symm.trans houtlines, hrounds'.symm.trans hrounds⟩

/-- A stratum finishes with its result again, wherever a corresponding one is evaluated in a context
that allows as much and that nothing stops. -/
theorem evaluates (h : Finishes store program strata settings i result)
    (hcorresponds : Correspondence program strata program' strata' R)
    (haccepted : Accepted store program strata) (haccepted' : Accepted store program' strata')
    (hR : R i i') (hrests' : right.RestsOn store program' (strata'.stratum i').dependsOn results')
    (hempty' : ∀ name ∈ (strata'.stratum i').predicates, right.slots[name]? = some none)
    (hlower' : ∀ d ∈ (strata'.stratum i').dependsOn,
      Finishes store program' strata' settings' d (results' d))
    (context : Context) (hentities' : context.entities = store.entities)
    (htuples : settings.maxTuples ≤ context.settings.maxTuples)
    (hrounds : settings.maxRounds ≤ context.settings.maxRounds) (hquiet : context.IsQuiet) :
    ∃ result' after', (evaluateStratum context (strata'.stratum i')
        (program'.membersOf (strata'.stratum i'))).run.run right = (.ok result', after') ∧
      result'.outlines = result.outlines ∧ result'.rounds = result.rounds := by
  cases h with
  | intro hsettings hentities hrests hempty hlower hrun =>
    have hi := hcorresponds.lt hR
    refine hcorresponds.evaluates hR hrests hrests' hempty hempty' (fun d hd d' hd' hRd => ?_)
      (fun d hd => (hlower d hd).names haccepted ((haccepted.sound.below i hi d hd).1.trans hi))
      context (hentities'.trans hentities.symm) (hsettings ▸ htuples) (hsettings ▸ hrounds) hquiet
      hrun
    exact ((hlower d hd).outlines_eq hcorresponds haccepted haccepted' hRd (hlower' d' hd')).1

end Finishes

/-- Within some settings a query is answered with a result, from what the strata it needs finish
with. -/
inductive Attains (store : FactStore) (program : Program) (strata : Stratification)
    (settings : Settings) (prepared : PreparedQuery) (result : ResultSet) : Prop where
  | intro {context : Context} {start after : Workspace} {lower : Nat → StratumResult}
      (hsettings : context.settings = settings) (hentities : context.entities = store.entities)
      (hrests : start.RestsOn store program prepared.strata lower)
      (hlower : ∀ i ∈ prepared.strata, Finishes store program strata settings i (lower i))
      (hrun : (Session.evaluateQuery context prepared).run.run start = (.ok result, after)) :
      Attains store program strata settings prepared result

namespace Attains

variable {prepared prepared' : PreparedQuery} {answer : ResultSet}

/-- What a query needs finishes if the query is answered. -/
theorem exists_finishes (h : Attains store program strata settings prepared answer)
    (hi : i ∈ prepared.strata) : ∃ result, Finishes store program strata settings i result := by
  cases h with
  | intro _ _ _ hlower _ => exact ⟨_, hlower i hi⟩

/-- A result has no more rows than the budget allows. -/
theorem length_le (h : Attains store program strata settings prepared answer) :
    answer.rows.length ≤ settings.maxTuples := by
  cases h with
  | @intro context start _ _ hsettings _ hrests _ hrun =>
    have htwins : (Pairing.alone context start).Twins [] start start :=
      hrests.twins hrests (Pairing.kin_alone context hrests.coherent)
    obtain ⟨_, _, -, ⟨-, hlength⟩, -⟩ :=
      (Pairing.pairs_evaluateQuery htwins rfl rfl fun _ _ => trivial).of_ok hrun
    exact hsettings ▸ hlength

/-- A query is answered with its result again, wherever corresponding strata are finished, in a context
that allows as much and that nothing stops. -/
theorem evaluates (h : Attains store program strata settings prepared answer)
    (hcorresponds : Correspondence program strata program' strata' R)
    (haccepted : Accepted store program strata) (haccepted' : Accepted store program' strata')
    (hprepared : prepared.Corresponds prepared' program strata program' R)
    (hrests' : right.RestsOn store program' prepared'.strata results')
    (hlower' : ∀ i ∈ prepared'.strata,
      Finishes store program' strata' settings' i (results' i))
    (context : Context) (hentities' : context.entities = store.entities)
    (htuples : settings.maxTuples ≤ context.settings.maxTuples)
    (hrounds : settings.maxRounds ≤ context.settings.maxRounds) (hquiet : context.IsQuiet) :
    ∃ after', (Session.evaluateQuery context prepared').run.run right = (.ok answer, after') := by
  cases h with
  | @intro first start _ lower hsettings hentities hrests hlower hrun =>
    have hslots : ∀ name ∈ {name | name ∈ prepared.query.reads},
        right.slots[name]?.map (Option.map Relation.outline) =
          start.slots[name]?.map (Option.map Relation.outline) := by
      intro name hname
      rcases hprepared.reads name hname with ⟨hbase, hbase'⟩ | ⟨d, hd, d', hd', hRd, hin⟩
      · rw [hrests.underived _ hbase, hrests'.underived _ hbase']
      · exact hrests.slot_eq hrests' hd hd'
          ((hlower d hd).outlines_eq hcorresponds haccepted haccepted' hRd (hlower' d' hd')).1
          ((hlower d hd).names haccepted (hcorresponds.lt hRd) ▸ hin)
    let p := Pairing.loose first context start right _ (hentities'.trans hentities.symm)
      (hsettings ▸ htuples) (hsettings ▸ hrounds)
      (fun name _ => (hrests'.base name).trans (hrests.base name).symm) hslots
    have htwins : p.Twins [] start right := hrests.twins hrests'
      (p.kin_of_isQuiet hrests.coherent hrests'.coherent False.elim hquiet)
    obtain ⟨_, after', hrun', ⟨rfl, -⟩, -⟩ :=
      (Pairing.pairs_evaluateQuery htwins hprepared.query hprepared.schema fun _ => id).of_ok hrun
    exact ⟨after', hrun'⟩

end Attains

end Stratalog
