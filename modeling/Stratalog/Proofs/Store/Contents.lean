import Stratalog.Pattern.Engine
import Stratalog.Proofs.Relation.Outline
import Stratalog.Proofs.Session.Reachable
import Stratalog.Proofs.Store.Fingerprint
import Stratalog.Proofs.Store.Published

/-!
# Fingerprints depend on contents only

Stores are alike when they know the same of each entity and their relations have the same outlines: the
rows may be listed in any order and have any indices. The bytes that are hashed are sorted, so alike stores
have the same fingerprint.

The same contents may be added in any order and with any repetitions, and finishing a store adds nothing
that its contents do not decide. Answering queries gives its relations indices, and nothing else.
-/

namespace Stratalog

variable {store other : FactStore} {steps others : List FactStore.BuildStep} {program : Program}
  {settings : Settings} {session : Session}

namespace FactStore

/-- Whether the relations of two stores have the same outlines, and the entities are the same. -/
structure Alike (store other : FactStore) : Prop where
  relations (name : String) :
    store.relations[name]?.map Relation.outline = other.relations[name]?.map Relation.outline
  entities (id : UInt64) : store.entities[id]? = other.entities[id]?

theorem Alike.trans {third : FactStore} (h : store.Alike other) (h' : other.Alike third) :
    store.Alike third :=
  ⟨fun name => (h.relations name).trans (h'.relations name),
    fun id => (h.entities id).trans (h'.entities id)⟩

/-- Entities that are the same one by one are listed alike. -/
theorem Alike.toList_entities (h : store.Alike other) :
    store.entities.toList = other.entities.toList :=
  Std.TreeMap.equiv_iff_toList_eq.1 (.of_forall_constGet?_eq h.entities)

/-- The bytes that are hashed are the same for alike stores: rows, relations and entities are sorted. -/
theorem Alike.contentBytes_eq (h : store.Alike other) : store.contentBytes = other.contentBytes := by
  have hsorted (name : String) :
      store.relations[name]?.map (fun relation => (relation.schema, Row.sort relation.rows)) =
        other.relations[name]?.map fun relation => (relation.schema, Row.sort relation.rows) := by
    have houtline := h.relations name
    revert houtline
    cases store.relations[name]? <;> cases other.relations[name]? <;>
      simp +contextual [Relation.outline_eq_iff, Row.sort_eq_iff_perm]
  rw [contentBytes, contentBytes, h.toList_entities]
  congr 1
  exact relationsBytes_eq ((map_toList_eq_iff _).1 hsorted)

/-- What is published of entities does not depend on how they came in. -/
theorem Alike.finish (h : store.Alike other) : store.finish.Alike other.finish := by
  have hpublished (name : String) :
      published? store.entities name = published? other.entities name := by
    unfold published? entityKinds entityLocations
    rw [← Std.TreeMap.isEmpty_toList, ← Std.TreeMap.isEmpty_toList, h.toList_entities]
  refine ⟨fun name => ?_, fun id => ?_⟩
  · rw [relations_finish, relations_finish, Option.map_or, Option.map_or, h.relations, hpublished]
  · rw [entities_finish, entities_finish, h.entities]

/-- Well-formed stores of the same contents are alike. -/
theorem SameContents.alike (h : store.SameContents other) (hstore : store.WellFormed)
    (hother : other.WellFormed) : store.Alike other := by
  refine ⟨fun name => ?_, h.entities⟩
  have hschema := h.schemas name
  cases hleft : store.relations[name]? with
  | none =>
    rw [hleft] at hschema
    cases hright : other.relations[name]? with
    | none => rfl
    | some relation' => simp [hright] at hschema
  | some relation =>
    rw [hleft] at hschema
    cases hright : other.relations[name]? with
    | none => simp [hright] at hschema
    | some relation' =>
      obtain ⟨hname, -, hnodup, -⟩ := hstore name relation hleft
      obtain ⟨hname', -, hnodup', -⟩ := hother name relation' hright
      rw [hright] at hschema
      have hrows := (List.perm_ext_iff_of_nodup hnodup hnodup').2 (h.rows name _ _ hleft hright)
      exact congrArg some (Relation.outline_eq_iff.2
        ⟨hname.trans hname'.symm, Option.some.inj hschema, hrows⟩)

/-- Alike stores have the same contents. -/
theorem Alike.sameContents (h : store.Alike other) : store.SameContents other := by
  refine ⟨fun name => ?_, fun name relation relation' hrelation hrelation' row => ?_, h.entities⟩
  · have hmap := congrArg (Option.map fun outline : String × Schema × Multiset Row => outline.2.1)
      (h.relations name)
    rwa [Option.map_map, Option.map_map] at hmap
  · have houtline := h.relations name
    rw [hrelation, hrelation'] at houtline
    exact (Relation.perm_of_outline (Option.some.inj houtline)).mem_iff

/-- Whether each relation that the first steps add is added by the others too, with the same rows in some
order and with any repetitions. -/
def AddedBy (steps others : List BuildStep) : Prop :=
  ∀ name schema rows, .relation name schema rows ∈ steps →
    ∃ rows', .relation name schema rows' ∈ others ∧ ∀ row, row ∈ rows ↔ row ∈ rows'

/-- Steps that add the same relations and say the same of each entity in the end lead to alike stores. -/
theorem alike_performAll (hsteps : performAll {} steps = .ok store)
    (hothers : performAll {} others = .ok other) (hadded : AddedBy steps others)
    (hadded' : AddedBy others steps)
    (hentities : ∀ id, (steps.filterMap (BuildStep.info? id)).getLast? =
      (others.filterMap (BuildStep.info? id)).getLast?) : store.Alike other := by
  have hfound {steps others : List BuildStep} {store other : FactStore} {name : String}
      {relation : Relation} (hsteps : performAll {} steps = .ok store)
      (hothers : performAll {} others = .ok other) (hadded : AddedBy steps others)
      (hrelation : store.relations[name]? = some relation) :
      ∃ relation', other.relations[name]? = some relation' ∧ relation.outline = relation'.outline := by
    rcases (relations_performAll hsteps).1 hrelation with hempty | ⟨schema, rows, hstep, rfl⟩
    · simp at hempty
    obtain ⟨rows', hstep', hrows⟩ := hadded _ _ _ hstep
    refine ⟨_, (relations_performAll hothers).2 (.inr ⟨schema, rows', hstep', rfl⟩),
      Relation.outline_eq_iff.2 ⟨rfl, rfl, ?_⟩⟩
    refine (List.perm_ext_iff_of_nodup (Row.nodup_distinct _) (Row.nodup_distinct _)).2 fun row => ?_
    rw [Row.mem_distinct, Row.mem_distinct, hrows]
  refine ⟨fun name => ?_, fun id => ?_⟩
  · cases hleft : store.relations[name]? with
    | some relation =>
      obtain ⟨relation', hright, houtline⟩ := hfound hsteps hothers hadded hleft
      rw [hright, Option.map_some, Option.map_some, houtline]
    | none =>
      cases hright : other.relations[name]? with
      | some relation' =>
        obtain ⟨relation, hfree, -⟩ := hfound hothers hsteps hadded' hright
        rw [hleft] at hfree
        cases hfree
      | none => rfl
  · rw [← (performAll_eq_ok_iff.1 hsteps).2, ← (performAll_eq_ok_iff.1 hothers).2, entities_attemptAll,
      entities_attemptAll, hentities]

end FactStore

namespace Session

/-- The store of a session as it stands, with the indices that were built over its relations. -/
def held (session : Session) : FactStore :=
  { session.store with relations := session.workspace.base }

/-- Whatever was done in a session, its store is still alike. -/
theorem Reachable.alike_held [PatternEngine] (h : Reachable store program settings session)
    (hstore : store.Built) :
    session.held.Alike store := by
  obtain ⟨hsound, rfl, -⟩ := h.spec hstore
  exact ⟨fun name => Relation.map_outline_of_bare (hsound.upholds.serves.base name), fun _ => rfl⟩

end Session

namespace FactStore

/-- Stores that are assembled in different ways but have the same contents, before or after they are
finished, are hashed from the same bytes. They are in whatever order the rows are listed, and still are
whatever was done in a session over one of them. -/
theorem fingerprint_eq_of_sameContents [PatternEngine] (hsteps : performAll {} steps = .ok store)
    (hothers : performAll {} others = .ok other)
    (hsame : store.SameContents other ∨ store.finish.SameContents other.finish) :
    store.finish.contentBytes = other.finish.contentBytes ∧
    store.finish.fingerprint = other.finish.fingerprint ∧
    (∀ listed : FactStore, listed.Alike store.finish →
      listed.contentBytes = other.finish.contentBytes ∧
      listed.fingerprint = other.finish.fingerprint) ∧
    ∀ program settings session, Session.Reachable store.finish program settings session →
      session.held.contentBytes = other.finish.contentBytes ∧
      session.held.fingerprint = other.finish.fingerprint ∧
      session.runAll.1.storeFingerprint = other.finish.fingerprint := by
  have hassembled {steps : List BuildStep} {store : FactStore} (hsteps : performAll {} steps = .ok store) :
      store.Assembled := (performAll_eq_ok_iff.1 hsteps).2 ▸ Assembled.empty.attemptAll steps
  have hbuilt := Built.finish (hassembled hsteps)
  have halike : store.finish.Alike other.finish := by
    rcases hsame with hsame | hsame
    · exact (hsame.alike (hassembled hsteps).wellFormed (hassembled hothers).wellFormed).finish
    · exact hsame.alike hbuilt.wellFormed (Built.finish (hassembled hothers)).wellFormed
  have hlisted {listed : FactStore} (h : listed.Alike store.finish) :
      listed.contentBytes = other.finish.contentBytes ∧
        listed.fingerprint = other.finish.fingerprint :=
    ⟨(h.trans halike).contentBytes_eq, congrArg Blake3.hexHash (h.trans halike).contentBytes_eq⟩
  obtain ⟨hbytes, hfingerprint⟩ := hlisted ⟨fun _ => rfl, fun _ => rfl⟩
  refine ⟨hbytes, hfingerprint, fun _ => hlisted, fun program settings session hreachable => ?_⟩
  obtain ⟨hheld, hheldFingerprint⟩ := hlisted (hreachable.alike_held hbuilt)
  obtain ⟨-, hstore, -⟩ := hreachable.runAll.spec hbuilt
  have hreport : session.runAll.1.storeFingerprint = session.runAll.2.store.fingerprint := rfl
  exact ⟨hheld, hheldFingerprint, by rw [hreport, hstore, hfingerprint]⟩

/-- Two steps of a path with one of them repeated, and two entities one of which is recorded anew. -/
def scattered : List BuildStep :=
  [.entity 2 ⟨"node", "old", none⟩,
    .relation "edge" ⟨[⟨"from", .int⟩, ⟨"to", .int⟩]⟩
      [[.int 1, .int 2], [.int 2, .int 3], [.int 1, .int 2]],
    .entity 1 ⟨"node", "a", some ⟨"f", 1, 2, 3, 4⟩⟩, .entity 2 ⟨"leaf", "b", none⟩]

/-- The same contents added differently. -/
def gathered : List BuildStep :=
  [.entity 1 ⟨"node", "a", some ⟨"f", 1, 2, 3, 4⟩⟩, .entity 2 ⟨"leaf", "b", none⟩,
    .relation "edge" ⟨[⟨"from", .int⟩, ⟨"to", .int⟩]⟩ [[.int 2, .int 3], [.int 1, .int 2]]]

/-- After the paths were asked for, the store made one way still has the fingerprint of the store made the
other way. -/
theorem fingerprint_eq_scattered_gathered : ∃ store other session,
    performAll {} scattered = .ok store ∧ performAll {} gathered = .ok other ∧
    store.SameContents other ∧
    Session.start store.finish ⟨[Evaluation.paths], [Session.reached]⟩ {} = .ok session ∧
      session.runAll.2.held.fingerprint = other.finish.fingerprint := by
  have hscattered : performAll {} scattered = .ok (attemptAll {} scattered) := rfl
  have hgathered : performAll {} gathered = .ok (attemptAll {} gathered) := rfl
  have hadded : AddedBy scattered gathered := by
    intro name schema rows hstep
    simp [scattered] at hstep
    obtain ⟨rfl, rfl, rfl⟩ := hstep
    exact ⟨_, .tail _ (.tail _ (.head _)), by simp [or_comm]⟩
  have hadded' : AddedBy gathered scattered := by
    intro name schema rows hstep
    simp [gathered] at hstep
    obtain ⟨rfl, rfl, rfl⟩ := hstep
    exact ⟨_, .tail _ (.head _), by simp [or_comm]⟩
  have halike := alike_performAll hscattered hgathered hadded hadded' fun id => by
    rcases eq_or_ne 1 id with rfl | hfirst
    · rfl
    rcases eq_or_ne 2 id with rfl | hsecond
    · rfl
    simp [scattered, gathered, BuildStep.info?, List.filterMap_cons, hfirst, hsecond]
  have hok : (Session.start (attemptAll {} scattered).finish ⟨[Evaluation.paths], [Session.reached]⟩
    {}).isOk = true := by decide +kernel
  obtain ⟨session, hstart⟩ := isOk_iff.1 hok
  have hsame := halike.sameContents
  obtain ⟨-, -, -, hsessions⟩ := fingerprint_eq_of_sameContents hscattered hgathered (.inl hsame)
  exact ⟨_, _, session, hscattered, hgathered, hsame, hstart,
    (hsessions _ _ _ (.runAll (.start session.observe hstart))).2.1⟩

end FactStore

end Stratalog
