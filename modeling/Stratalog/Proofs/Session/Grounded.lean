import Stratalog.Proofs.Session.Ledger
import Stratalog.Proofs.Simulation.Finished

/-!
# What a session holds

Whatever a session finished, it finished as strata do: each finished relation is one of those that its
stratum finishes with under the settings of the session. So nothing of the history of a session can be
read off what it holds, but which strata were finished.
-/

namespace Stratalog

open Evaluation Session

variable [PatternEngine]

/-- Each finished stratum of a workspace holds what the stratum finishes with. -/
def Workspace.Grounded (workspace : Workspace) (store : FactStore) (program : Program)
    (strata : Stratification) (settings : Settings) : Prop :=
  ∀ i < strata.strata.length, Session.isPublished strata workspace i = true →
    ∃ result, Finishes store program strata settings i result ∧
      ∀ relation ∈ result.relations,
        workspace.slots[relation.name]?.map (Option.map Relation.outline) =
          some (some relation.outline)

variable {store : FactStore} {program : Program} {strata : Stratification} {settings : Settings}
  {workspace before after : Workspace} {ids : List Nat} {results : Nat → StratumResult}

namespace Workspace

/-- A workspace that is kept up rests on the results that its slots hold. -/
theorem Upholds.restsOn (h : workspace.Upholds store program strata)
    (hslots : ∀ i ∈ ids, ∀ relation ∈ (results i).relations,
      workspace.slots[relation.name]?.map (Option.map Relation.outline) =
        some (some relation.outline)) : workspace.RestsOn store program ids results where
  coherent := h.serves.coherent
  growing := h.growing
  delta := h.delta
  base name := Relation.map_outline_of_bare (h.serves.base name)
  underived name hname := getElem?_eq_none_of_not_contains (mt (h.serves.slots name).1 hname)
  slots := hslots

namespace Grounded

/-- Finished strata hold some results on which a workspace rests. -/
theorem exists_restsOn (h : workspace.Grounded store program strata settings)
    (hupholds : workspace.Upholds store program strata)
    (hids : ∀ i ∈ ids, i < strata.strata.length ∧ Session.isPublished strata workspace i = true) :
    ∃ results, workspace.RestsOn store program ids results ∧
      ∀ i ∈ ids, Finishes store program strata settings i (results i) := by
  have hresult (i : Nat) : ∃ result : StratumResult, i ∈ ids →
      Finishes store program strata settings i result ∧ ∀ relation ∈ result.relations,
        workspace.slots[relation.name]?.map (Option.map Relation.outline) =
          some (some relation.outline) := by
    by_cases hi : i ∈ ids
    · obtain ⟨result, hresult⟩ := h i (hids i hi).1 (hids i hi).2
      exact ⟨result, fun _ => hresult⟩
    · exact ⟨⟨[], 0, 0⟩, fun hin => absurd hin hi⟩
  choose results hresults using hresult
  exact ⟨results, hupholds.restsOn fun i hi => (hresults i hi).2, fun i hi => (hresults i hi).1⟩

/-- Slots that look the same hold the same results. -/
theorem congr (h : before.Grounded store program strata settings)
    (hslots : ∀ name : String, after.slots[name]?.map (Option.map Relation.bare) =
      before.slots[name]?.map (Option.map Relation.bare))
    (hpublished : ∀ i, Session.isPublished strata after i = Session.isPublished strata before i) :
    after.Grounded store program strata settings := by
  intro i hi hafter
  obtain ⟨result, hfinishes, hheld⟩ := h i hi (hpublished i ▸ hafter)
  exact ⟨result, hfinishes, fun relation hrelation =>
    (Relation.map_map_outline_of_bare (hslots relation.name)).trans (hheld relation hrelation)⟩

/-- A stratum that was evaluated above finished strata finishes with what it was evaluated to. -/
theorem exists_finishes (h : before.Grounded store program strata settings)
    (haccepted : Accepted store program strata) {i : Nat} {relations : List Relation}
    (hi : i < strata.strata.length)
    (hlower : ∀ d ∈ (strata.stratum i).dependsOn, Session.isPublished strata before d = true)
    (hempty : ∀ name ∈ (strata.stratum i).predicates, before.slots[name]? = some none)
    (hderives : before.Derives store program strata settings i relations) :
    ∃ result, Finishes store program strata settings i result ∧ result.relations = relations := by
  cases hderives with
  | @intro context start _ result hsettings hentities hupholds hencloses hrun =>
    have hstarted : start.Grounded store program strata settings :=
      h.congr (fun name => (hencloses.agrees.slots name).symm)
        fun i => (hencloses.isPublished_stratum strata i).symm
    have hpublished : ∀ d ∈ (strata.stratum i).dependsOn, d < strata.strata.length ∧
        Session.isPublished strata start d = true := fun d hd =>
      ⟨(haccepted.sound.below i hi d hd).1.trans hi,
        (hencloses.isPublished_stratum strata d).symm.trans (hlower d hd)⟩
    obtain ⟨lower, hrests, hfinishes⟩ := hstarted.exists_restsOn hupholds hpublished
    refine ⟨result, .intro hsettings hentities hrests (fun name hname => ?_) hfinishes hrun, rfl⟩
    have hslots : before.slots[name]?.map (Option.map Relation.bare) =
        start.slots[name]?.map (Option.map Relation.bare) := hencloses.agrees.slots name
    exact slot_eq_none_of_map hslots.symm (hempty name hname)

/-- A turn leaves a workspace grounded. -/
theorem turn (h : before.Grounded store program strata settings)
    (haccepted : Accepted store program strata)
    (hturn : Turn store program strata settings before after) :
    after.Grounded store program strata settings := by
  cases hturn with
  | stay hencloses htally =>
    exact h.congr hencloses.agrees.slots fun i => hencloses.isPublished_stratum strata i
  | @finish i relations hi hclean hlower hempty hnames hfilled hkept htally hderives =>
    intro j hj hpublished
    by_cases hji : j = i
    · subst hji
      obtain ⟨result, hfinishes, rfl⟩ := h.exists_finishes haccepted hi hlower hempty hderives
      exact ⟨result, hfinishes, fun relation hrelation => by rw [hfilled relation hrelation]; rfl⟩
    · rw [isPublished_of_kept haccepted.sound hi hj hji hkept] at hpublished
      obtain ⟨result, hfinishes, hheld⟩ := h j hj hpublished
      refine ⟨result, hfinishes, fun relation hrelation => ?_⟩
      have hname : relation.name ∈ (strata.stratum j).predicates :=
        hfinishes.names haccepted hj ▸ List.mem_map_of_mem hrelation
      have hnot : relation.name ∉ (strata.stratum i).predicates := fun hin =>
        hji ((haccepted.sound.together j hj _ hname i hi _ hin).2 (Together.refl _ _))
      rw [hkept _ hnot]
      exact hheld relation hrelation

/-- Any number of turns leave a workspace grounded. -/
theorem turns (h : before.Grounded store program strata settings)
    (haccepted : Accepted store program strata)
    (hturns : Turns store program strata settings before after) :
    after.Grounded store program strata settings := by
  induction hturns with
  | refl => exact h
  | tail _ hturn ih => exact ih.turn haccepted hturn

end Grounded

end Workspace

/-- Every session that operations lead to is grounded. -/
theorem Session.Reachable.grounded {session : Session}
    (h : Reachable store program settings session) (hstore : store.Built) :
    session.workspace.Grounded session.store session.program session.strata session.settings := by
  obtain ⟨hsettings, hturns⟩ := h.turns hstore
  obtain ⟨hsound, rfl, rfl⟩ := h.spec hstore
  obtain ⟨-, hnodup, hstrata⟩ := hsound.accepted
  have hopened : Workspace.Grounded
      { base := session.store.relations
        slots := emptySlots (session.program.predicates.map Predicate.name) }
      session.store session.program session.strata settings := by
    intro i hi hpublished
    refine absurd hpublished (Workspace.not_isPublished_of_empty hstrata hi fun name hname => ?_)
    exact (getElem?_emptySlots hnodup none).2 ⟨hstrata.member i hi name hname, rfl⟩
  exact hsettings ▸ hopened.turns hsound.accepted hturns

end Stratalog
