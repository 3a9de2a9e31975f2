import Stratalog.Proofs.Relation.Sorted
import Stratalog.Proofs.Store.Conformity

/-!
# Assembling a store step by step

A store grows by steps that add a relation or record an entity. A step that adds a relation fails when the
name is taken or a row is not accepted, and then leaves the store as it was, so the store is that of the
successful steps. It holds each relation they add with the first occurrences of its rows, and of each
entity what was recorded last.
-/

namespace Stratalog

namespace Row

end Row

namespace FactStore

/-- A step in assembling a store. -/
inductive BuildStep where
  | relation (name : String) (schema : Schema) (rows : List Row)
  | entity (id : UInt64) (info : EntityInfo)

/-- What a step says of an entity, if it is about that one. -/
def BuildStep.info? (id : UInt64) : BuildStep → Option EntityInfo
  | .relation .. => none
  | .entity other info => if other = id then some info else none

/-- The name a step takes, if it adds a relation. -/
def BuildStep.name? : BuildStep → Option String
  | .relation name .. => some name
  | .entity .. => none

/-- Whether a step adds no relation with a row that is not accepted. -/
def BuildStep.Accepted : BuildStep → Prop
  | .relation _ schema rows => ∀ row ∈ rows, schema.accepts row = true
  | .entity .. => True

/-- Take a step, which may fail. -/
def perform (store : FactStore) : BuildStep → Except Fault FactStore
  | .relation name schema rows => store.addRelation name schema rows
  | .entity id info => .ok (store.addEntity id info)

/-- Take steps in turn, unless one of them fails. -/
def performAll (store : FactStore) : List BuildStep → Except Fault FactStore
  | [] => .ok store
  | step :: rest => do (← store.perform step).performAll rest

/-- Try a step; where it fails the store is still there. -/
def attempt (store : FactStore) (step : BuildStep) : FactStore :=
  match store.perform step with
  | .ok next => next
  | .error _ => store

/-- Try steps in turn. -/
def attemptAll (store : FactStore) (steps : List BuildStep) : FactStore :=
  steps.foldl attempt store

/-- The steps that succeed when all are tried in turn. -/
def successes (store : FactStore) : List BuildStep → List BuildStep
  | [] => []
  | step :: rest =>
    match store.perform step with
    | .ok next => step :: next.successes rest
    | .error _ => store.successes rest

variable {store next : FactStore} {name : String} {schema : Schema} {rows : List Row}
  {relation : Relation} {steps : List BuildStep}

/-- Steps that all succeed are tried with success. -/
theorem performAll_eq_ok_iff :
    store.performAll steps = .ok next ↔ store.successes steps = steps ∧ store.attemptAll steps = next := by
  have hshorter (store : FactStore) (steps : List BuildStep) :
      (store.successes steps).length ≤ steps.length := by
    induction steps generalizing store with
    | nil => exact Nat.le_refl _
    | cons step rest ih =>
      rw [successes]
      split
      · exact Nat.succ_le_succ (ih _)
      · exact Nat.le_succ_of_le (ih _)
  induction steps generalizing store with
  | nil => simp [performAll, successes, attemptAll]
  | cons step rest ih =>
    rw [performAll, successes, attemptAll, List.foldl_cons, attempt]
    cases store.perform step with
    | ok taken => simp [bind, Except.bind, ih, attemptAll]
    | error fault =>
      simp only [bind, Except.bind, reduceCtorEq, false_iff, not_and]
      intro hsame
      have hlength := congrArg List.length hsame
      have hle := hshorter store rest
      rw [List.length_cons] at hlength
      omega

/-- A relation is added when its name is free and all its rows are accepted. -/
theorem addRelation_eq_ok_iff : store.addRelation name schema rows = .ok next ↔
    store.relations.contains name = false ∧ (∀ row ∈ rows, schema.accepts row = true) ∧
      { store with relations := store.relations.insert name (.ofRows name schema rows) } = next := by
  unfold addRelation
  split
  next htaken => simp [htaken]
  next hfree =>
    have hfree := Bool.eq_false_of_not_eq_true hfree
    simp [map_eq_ok, Relation.checked_eq_ok_iff, Relation.rowFault?_eq_none_iff, hfree]

/-- Steps that are tried keep on assembling a store. -/
theorem Assembled.attemptAll (h : store.Assembled) (steps : List BuildStep) :
    (store.attemptAll steps).Assembled := by
  induction steps generalizing store with
  | nil => exact h
  | cons step rest ih =>
    refine ih ?_
    unfold attempt
    split
    next taken htaken =>
      cases step with
      | relation name schema rows => exact .relation h htaken
      | entity id info =>
        cases htaken
        exact .entity id info h
    next => exact h

/-- Steps all succeed when the names they take are free and no two of them the same, and all rows are
accepted. -/
theorem isOk_performAll_iff : (store.performAll steps).isOk = true ↔
    (∀ step ∈ steps, step.Accepted) ∧ (steps.filterMap BuildStep.name?).Nodup ∧
      ∀ name ∈ steps.filterMap BuildStep.name?, store.relations.contains name = false := by
  induction steps generalizing store with
  | nil => simp [performAll, Except.isOk, Except.toBool]
  | cons step rest ih =>
    rw [performAll, isOk_bind_iff, List.forall_mem_cons]
    cases step with
    | entity id info =>
      have htaken : (∃ taken, store.perform (.entity id info) = .ok taken ∧
          (taken.performAll rest).isOk = true) ↔
            ((store.addEntity id info).performAll rest).isOk = true := by
        simp [perform]
      rw [htaken, ih, List.filterMap_cons_none rfl,
        and_iff_right (show BuildStep.Accepted (.entity id info) from trivial)]
      rfl
    | relation name schema rows =>
      have hfree (relation : Relation) : (∀ other ∈ rest.filterMap BuildStep.name?,
          (store.relations.insert name relation).contains other = false) ↔
            name ∉ rest.filterMap BuildStep.name? ∧
              ∀ other ∈ rest.filterMap BuildStep.name?, store.relations.contains other = false := by
        simp only [Std.TreeMap.contains_insert, Bool.or_eq_false_iff, beq_eq_false_iff_ne, ne_eq,
          Std.LawfulEqOrd.compare_eq_iff_eq, forall_and, List.forall_mem_ne]
      have hnames : (BuildStep.relation name schema rows :: rest).filterMap BuildStep.name? =
          name :: rest.filterMap BuildStep.name? := List.filterMap_cons_some rfl
      simp only [perform, addRelation_eq_ok_iff, and_assoc, exists_and_left, exists_eq_left', ih, hfree,
        hnames, List.nodup_cons, List.forall_mem_cons]
      change _ ↔ (∀ row ∈ rows, schema.accepts row = true) ∧ _
      tauto

/-- Steps that all succeed leave the relations there were and those they add. -/
theorem relations_performAll (h : store.performAll steps = .ok next) :
    next.relations[name]? = some relation ↔ store.relations[name]? = some relation ∨
      ∃ schema rows, .relation name schema rows ∈ steps ∧ .ofRows name schema rows = relation := by
  induction steps generalizing store with
  | nil =>
    cases h
    simp
  | cons step rest ih =>
    obtain ⟨taken, hstep, hrest⟩ := bind_eq_ok.1 h
    rw [ih hrest]
    cases step with
    | entity id info =>
      cases hstep
      simp [addEntity]
    | relation other schema rows =>
      obtain ⟨hfree, -, rfl⟩ := addRelation_eq_ok_iff.1 hstep
      have hadded : (∃ schema' rows', .relation name schema' rows' ∈ .relation other schema rows :: rest ∧
          .ofRows name schema' rows' = relation) ↔
            (other = name ∧ .ofRows name schema rows = relation) ∨
              ∃ schema' rows', .relation name schema' rows' ∈ rest ∧
                .ofRows name schema' rows' = relation := by
        simp only [List.mem_cons, BuildStep.relation.injEq, or_and_right, exists_or]
        refine or_congr_left ⟨?_, ?_⟩
        · rintro ⟨_, _, ⟨rfl, rfl, rfl⟩, hrelation⟩
          exact ⟨rfl, hrelation⟩
        · rintro ⟨rfl, hrelation⟩
          exact ⟨schema, rows, ⟨rfl, rfl, rfl⟩, hrelation⟩
      rw [hadded, Std.TreeMap.getElem?_insert]
      split
      next hsame =>
        obtain rfl : other = name := Std.LawfulEqOrd.eq_of_compare hsame
        rw [getElem?_eq_none_of_not_contains (Bool.not_eq_true _ ▸ hfree)]
        simp
      next hother =>
        have hne : other ≠ name := fun heq => hother (Std.LawfulEqOrd.compare_eq_iff_eq.2 heq)
        simp [hne]

/-- What is recorded of an entity is what a step said of it last, or else what was recorded before. -/
theorem entities_attemptAll (store : FactStore) (steps : List BuildStep) (id : UInt64) :
    (store.attemptAll steps).entities[id]? =
      (steps.filterMap (BuildStep.info? id)).getLast?.or store.entities[id]? := by
  induction steps generalizing store with
  | nil => rfl
  | cons step rest ih =>
    have hstep : (store.attempt step).entities[id]? = (step.info? id).or store.entities[id]? := by
      cases step with
      | relation name schema rows =>
        rw [attempt]
        split
        next next hadd =>
          obtain ⟨-, -, rfl⟩ := addRelation_eq_ok_iff.1 hadd
          rfl
        next => rfl
      | entity other info =>
        simp only [attempt, perform, addEntity, BuildStep.info?, Std.TreeMap.getElem?_insert,
          Std.LawfulEqOrd.compare_eq_iff_eq]
        split <;> rfl
    rw [attemptAll, List.foldl_cons, ← attemptAll, ih, hstep]
    cases hinfo : step.info? id with
    | none => rw [List.filterMap_cons_none hinfo, Option.none_or]
    | some info =>
      rw [List.filterMap_cons_some hinfo, List.getLast?_cons]
      cases (rest.filterMap (BuildStep.info? id)).getLast? <;> rfl

end FactStore

end Stratalog
