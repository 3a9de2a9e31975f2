import Mathlib.Data.Set.Basic
import Stratalog.Proofs.Postcondition
import Stratalog.Proofs.Relation.Coherence
import Stratalog.Proofs.Semantics.Body

/-!
# What evaluations leave alone

Evaluating a body builds indices and counts what it does; the relations themselves stay as they
are. Two workspaces agree when they hold the same relations, indices apart, so every read gives the
same rows in both.

A workspace is coherent when its indices speak of the rows held, and conforms to a catalog when
the rows of every relation that can be read are distinct and as wide as the catalog says.
-/

namespace Stratalog

/-- A relation without its indices. -/
def Relation.bare (relation : Relation) : Relation :=
  ofDistinct relation.name relation.schema relation.rows

namespace Relation

/-- Relations are the same without indices when names, schemas and rows are. -/
theorem bare_eq_iff {left right : Relation} : left.bare = right.bare ↔
    left.name = right.name ∧ left.schema = right.schema ∧ left.rows = right.rows := by
  simp [bare, ofDistinct]

/-- Building an index changes a relation in its indices only. -/
@[simp] theorem bare_index (relation : Relation) (columns : List Nat) :
    (relation.index columns).2.bare = relation.bare := by
  simp [bare_eq_iff]

/-- Testing membership changes a relation in its indices only. -/
@[simp] theorem bare_contains (relation : Relation) (row : Row) :
    (relation.contains row).2.bare = relation.bare := by
  rw [contains]
  split
  · exact bare_index relation _
  · rfl

end Relation

/-- Replacing an entry by one that looks the same leaves every look-up the same. -/
theorem map_getElem?_insert {α β : Type} {entries : Std.TreeMap String α} {name : String}
    {old new : α} {look : α → β} (hold : entries[name]? = some old) (hlook : look new = look old)
    (other : String) : (entries.insert name new)[other]?.map look = entries[other]?.map look := by
  rw [Std.TreeMap.getElem?_insert]
  split
  next h =>
    obtain rfl : name = other := Std.LawfulEqOrd.eq_of_compare h
    rw [hold, Option.map_some, Option.map_some, hlook]
  next => rfl

/-- Every entry after an insertion was there before or is the one inserted. -/
theorem of_getElem?_insert {α : Type} {entries : Std.TreeMap String α} {name other : String}
    {new entry : α} (h : (entries.insert name new)[other]? = some entry) :
    entry = new ∨ entries[other]? = some entry := by
  rw [Std.TreeMap.getElem?_insert] at h
  split at h
  · exact Or.inl (Option.some.inj h).symm
  · exact Or.inr h

/-- A name that is no key has no entry. -/
theorem getElem?_eq_none_of_not_contains {α : Type} {entries : Std.TreeMap String α} {name : String}
    (h : ¬entries.contains name = true) : entries[name]? = none := by
  rw [Std.TreeMap.contains_eq_isSome_getElem?] at h
  exact Option.not_isSome_iff_eq_none.1 h

/-- A name that is a key has an entry. -/
theorem exists_getElem?_of_contains {α : Type} {entries : Std.TreeMap String α} {name : String}
    (h : entries.contains name = true) : ∃ entry, entries[name]? = some entry := by
  rw [Std.TreeMap.contains_eq_isSome_getElem?] at h
  exact Option.isSome_iff_exists.1 h

/-- A map made from a list whose keys are distinct holds the entries of the list. -/
theorem getElem?_ofList_iff {α : Type} {entries : List (String × α)} {name : String} {entry : α}
    (hnodup : (entries.map Prod.fst).Nodup) :
    (Std.TreeMap.ofList entries compare)[name]? = some entry ↔ (name, entry) ∈ entries := by
  have hkeys : entries.Pairwise fun a b => ¬compare a.1 b.1 = .eq := by
    refine (List.pairwise_map.1 hnodup).imp fun hne heq => hne ?_
    exact Std.LawfulEqOrd.eq_of_compare heq
  have hfound {other : α} (hmem : (name, other) ∈ entries) :
      (Std.TreeMap.ofList entries compare)[name]? = some other :=
    Std.TreeMap.getElem?_ofList_of_mem Std.ReflOrd.compare_self hkeys hmem
  refine ⟨fun h => ?_, hfound⟩
  have hcontains : (Std.TreeMap.ofList entries compare).contains name = true := by
    rw [Std.TreeMap.contains_eq_isSome_getElem?, h]
    rfl
  rw [Std.TreeMap.contains_ofList, List.contains_iff_mem] at hcontains
  obtain ⟨⟨_, other⟩, hmem, rfl⟩ := List.mem_map.1 hcontains
  rw [hfound hmem] at h
  cases h
  exact hmem

section Lists

variable {α β : Type} {entries entries' : List (String × α)} {t t' : Std.TreeMap String α}

/-- Maps that look alike still do after inserting entries that look alike under the same names. -/
theorem map_getElem?_insertMany {look : α → β}
    (h : List.Forall₂ (fun e e' => e.1 = e'.1 ∧ look e.2 = look e'.2) entries entries')
    (ht : ∀ name : String, t[name]?.map look = t'[name]?.map look) (name : String) :
    (t.insertMany entries)[name]?.map look = (t'.insertMany entries')[name]?.map look := by
  induction h generalizing t t' with
  | nil => simpa using ht name
  | @cons e e' rest rest' hentry _ ih =>
    obtain ⟨key, entry⟩ := e
    obtain ⟨key', entry'⟩ := e'
    obtain ⟨rfl, hlook⟩ := hentry
    rw [Std.TreeMap.insertMany_cons, Std.TreeMap.insertMany_cons]
    refine ih fun other => ?_
    rw [Std.TreeMap.getElem?_insert, Std.TreeMap.getElem?_insert]
    split
    · exact congrArg some hlook
    · exact ht other

/-- After inserting entries that say their names, every name inserted is said. -/
theorem map_getElem?_insertMany_of_named {look : α → String} (h : ∀ e ∈ entries, look e.2 = e.1)
    (name : String) : (t.insertMany entries)[name]?.map look =
      if name ∈ entries.map Prod.fst then some name else t[name]?.map look := by
  induction entries generalizing t with
  | nil => simp
  | cons e rest ih =>
    obtain ⟨key, entry⟩ := e
    obtain ⟨hentry, hrest⟩ := List.forall_mem_cons.1 h
    rw [Std.TreeMap.insertMany_cons, ih hrest, Std.TreeMap.getElem?_insert, List.map_cons]
    by_cases hkey : key = name
    · subst hkey
      simp only [Std.ReflCmp.compare_self, if_true, List.mem_cons, true_or, Option.map_some]
      rw [hentry, ite_self]
    · have hcompare : compare key name ≠ .eq := fun heq => hkey (Std.LawfulEqOrd.eq_of_compare heq)
      have hmem : name ∈ key :: rest.map Prod.fst ↔ name ∈ rest.map Prod.fst :=
        List.mem_cons.trans (or_iff_right (Ne.symm hkey))
      simp only [hcompare, if_false, hmem]

/-- What is found after inserting entries was found before or is one of them. -/
theorem of_getElem?_insertMany {name : String} {entry : α}
    (h : (t.insertMany entries)[name]? = some entry) :
    (∃ e ∈ entries, e.2 = entry) ∨ t[name]? = some entry := by
  induction entries generalizing t with
  | nil => exact Or.inr (by simpa using h)
  | cons e rest ih =>
    obtain ⟨key, first⟩ := e
    rw [Std.TreeMap.insertMany_cons] at h
    rcases ih h with ⟨e, he, heq⟩ | hinsert
    · exact Or.inl ⟨e, List.mem_cons_of_mem _ he, heq⟩
    · rcases of_getElem?_insert hinsert with rfl | hold
      · exact Or.inl ⟨_, List.mem_cons_self, rfl⟩
      · exact Or.inr hold

end Lists

namespace Workspace

/-- Two workspaces hold the same relations, indices apart. -/
structure Agrees (before after : Workspace) : Prop where
  base : ∀ name : String, after.base[name]?.map Relation.bare = before.base[name]?.map Relation.bare
  slots : ∀ name : String, after.slots[name]?.map (Option.map Relation.bare) =
    before.slots[name]?.map (Option.map Relation.bare)
  growing : ∀ name : String,
    after.growing[name]?.map Relation.bare = before.growing[name]?.map Relation.bare
  delta : ∀ name : String,
    after.delta[name]?.map Relation.bare = before.delta[name]?.map Relation.bare

/-- Every relation held is coherent. -/
structure Coherent (workspace : Workspace) : Prop where
  base : ∀ (name : String) (relation : Relation),
    workspace.base[name]? = some relation → relation.Coherent
  slots : ∀ (name : String) (relation : Relation),
    workspace.slots[name]? = some (some relation) → relation.Coherent
  growing : ∀ (name : String) (relation : Relation),
    workspace.growing[name]? = some relation → relation.Coherent
  delta : ∀ (name : String) (relation : Relation),
    workspace.delta[name]? = some relation → relation.Coherent

/-- The rows of every relation that can be read are distinct, and as wide as the catalog says. -/
def Conforms (catalog : Catalog) (workspace : Workspace) : Prop :=
  ∀ name delta relation, workspace.read name delta = .ok relation → relation.rows.Nodup ∧
    ∀ schema, catalog name = some schema → ∀ row ∈ relation.rows, row.length = schema.arity

/-- What the atoms of a body hold: all that can be read, or the growth of the round before. -/
def denotes (workspace : Workspace) (delta : Bool) : Interpretation := fun name =>
  {row | ∃ relation, workspace.read name delta = .ok relation ∧ row ∈ relation.rows}

/-- An evaluation kept the workspace: relations are the same, indices are true to them, and every
index used was within its row. -/
structure Kept (before after : Workspace) : Prop where
  agrees : before.Agrees after
  coherent : after.Coherent
  inBounds : after.inBounds = before.inBounds

theorem Agrees.refl (workspace : Workspace) : workspace.Agrees workspace :=
  ⟨fun _ => rfl, fun _ => rfl, fun _ => rfl, fun _ => rfl⟩

theorem Agrees.trans {first second third : Workspace} (h : first.Agrees second)
    (h' : second.Agrees third) : first.Agrees third :=
  ⟨fun name => (h'.base name).trans (h.base name), fun name => (h'.slots name).trans (h.slots name),
    fun name => (h'.growing name).trans (h.growing name),
    fun name => (h'.delta name).trans (h.delta name)⟩

theorem Kept.refl {workspace : Workspace} (h : workspace.Coherent) : workspace.Kept workspace :=
  ⟨Agrees.refl workspace, h, rfl⟩

theorem Kept.trans {first second third : Workspace} (h : first.Kept second)
    (h' : second.Kept third) : first.Kept third :=
  ⟨h.agrees.trans h'.agrees, h'.coherent, h'.inBounds.trans h.inBounds⟩

/-- Workspaces whose entries for a name look alike resolve the name alike. -/
theorem resolve_congr {β : Type} {look : Relation → β} {before after : Workspace} {name : String}
    (hslots : after.slots[name]?.map (Option.map look) = before.slots[name]?.map (Option.map look))
    (hbase : after.base[name]?.map look = before.base[name]?.map look) :
    (after.resolve name).map look = (before.resolve name).map look := by
  unfold Workspace.resolve
  generalize after.slots[name]? = afterSlot at hslots ⊢
  generalize before.slots[name]? = beforeSlot at hslots ⊢
  generalize after.base[name]? = afterBase at hbase ⊢
  generalize before.base[name]? = beforeBase at hbase ⊢
  rcases afterSlot with _ | _ | r <;> rcases beforeSlot with _ | _ | r' <;>
    simp_all [Except.map]
  rcases afterBase with _ | r <;> rcases beforeBase with _ | r' <;> simp_all

/-- Workspaces whose entries for a name look alike read the name alike, as far as the look of an
empty relation follows from that of the relation it stands for. -/
theorem read_congr {β : Type} {look : Relation → β} {before after : Workspace} {name : String}
    (hempty : ∀ {left right : Relation}, look left = look right →
      look (Relation.empty name left.schema) = look (Relation.empty name right.schema))
    (hgrowing : after.growing[name]?.map look = before.growing[name]?.map look)
    (hdelta : after.delta[name]?.map look = before.delta[name]?.map look)
    (hresolve : (after.resolve name).map look = (before.resolve name).map look) (delta : Bool) :
    (after.read name delta).map look = (before.read name delta).map look := by
  unfold Workspace.read
  generalize after.growing[name]? = afterGrowing at hgrowing ⊢
  generalize before.growing[name]? = beforeGrowing at hgrowing ⊢
  generalize after.delta[name]? = afterDelta at hdelta ⊢
  generalize before.delta[name]? = beforeDelta at hdelta ⊢
  generalize after.resolve name = afterResolved at hresolve ⊢
  generalize before.resolve name = beforeResolved at hresolve ⊢
  cases delta with
  | false =>
    rcases afterGrowing with _ | r <;> rcases beforeGrowing with _ | r' <;>
      simp_all [Except.map]
  | true =>
    rcases afterDelta with _ | d <;> rcases beforeDelta with _ | d' <;>
      simp_all [Except.map]
    rcases afterGrowing with _ | r <;> rcases beforeGrowing with _ | r' <;> simp_all
    exact hempty hgrowing

/-- A slot that looks empty is empty. -/
theorem slot_eq_none_of_map {β : Type} {look : Relation → β} {slot slot' : Option (Option Relation)}
    (h : slot.map (Option.map look) = slot'.map (Option.map look)) (hslot : slot' = some none) :
    slot = some none := by
  rw [hslot] at h
  obtain ⟨found, hfound, hnone⟩ := Option.map_eq_some_iff.1 h
  rw [hfound, Option.map_eq_none_iff.1 hnone]

/-- Agreeing workspaces resolve a name alike. -/
theorem Agrees.resolve {before after : Workspace} (h : before.Agrees after) (name : String) :
    (after.resolve name).map Relation.bare = (before.resolve name).map Relation.bare :=
  resolve_congr (h.slots name) (h.base name)

/-- Agreeing workspaces read a name alike. -/
theorem Agrees.read {before after : Workspace} (h : before.Agrees after) (name : String)
    (delta : Bool) :
    (after.read name delta).map Relation.bare = (before.read name delta).map Relation.bare :=
  read_congr (fun hbare => by rw [(Relation.bare_eq_iff.1 hbare).2.1]) (h.growing name)
    (h.delta name) (h.resolve name) delta

/-- What is read after was read before, with the same rows. -/
theorem Agrees.exists_read {before after : Workspace} (h : before.Agrees after) {name : String}
    {delta : Bool} {relation : Relation} (hread : after.read name delta = .ok relation) :
    ∃ old, before.read name delta = .ok old ∧ relation.bare = old.bare := by
  have heq := h.read name delta
  rw [hread] at heq
  cases hbefore : before.read name delta with
  | error fault => rw [hbefore] at heq; cases heq
  | ok old =>
    rw [hbefore] at heq
    exact ⟨old, rfl, Except.ok.inj heq⟩

/-- A read that fails after failed before, in the same way. -/
theorem Agrees.read_error {before after : Workspace} (h : before.Agrees after) {name : String}
    {delta : Bool} {fault : Fault} (hread : after.read name delta = .error fault) :
    before.read name delta = .error fault := by
  have heq := h.read name delta
  rw [hread] at heq
  cases hbefore : before.read name delta with
  | error other => rw [hbefore] at heq; cases heq; rfl
  | ok old => rw [hbefore] at heq; cases heq

theorem Agrees.symm {before after : Workspace} (h : before.Agrees after) : after.Agrees before :=
  ⟨fun name => (h.base name).symm, fun name => (h.slots name).symm,
    fun name => (h.growing name).symm, fun name => (h.delta name).symm⟩

/-- Agreeing workspaces denote the same rows. -/
theorem Agrees.denotes {before after : Workspace} (h : before.Agrees after) (delta : Bool) :
    after.denotes delta = before.denotes delta := by
  have hone {first second : Workspace} (hagrees : first.Agrees second) (name : String) (row : Row)
      (hrow : row ∈ second.denotes delta name) : row ∈ first.denotes delta name := by
    obtain ⟨relation, hread, hmem⟩ := hrow
    obtain ⟨old, hold, hbare⟩ := hagrees.exists_read hread
    exact ⟨old, hold, (Relation.bare_eq_iff.1 hbare).2.2 ▸ hmem⟩
  funext name
  ext row
  exact ⟨hone h name row, hone h.symm name row⟩

/-- A workspace that agrees with a conforming one conforms. -/
theorem Agrees.conforms {before after : Workspace} (h : before.Agrees after) {catalog : Catalog}
    (hconforms : before.Conforms catalog) : after.Conforms catalog := by
  intro name delta relation hread
  obtain ⟨old, hold, hbare⟩ := h.exists_read hread
  have hrows : relation.rows = old.rows := (Relation.bare_eq_iff.1 hbare).2.2
  rw [hrows]
  exact hconforms name delta old hold

/-- What a coherent workspace reads is coherent. -/
theorem Coherent.read {workspace : Workspace} (h : workspace.Coherent) {name : String}
    {delta : Bool} {relation : Relation} (hread : workspace.read name delta = .ok relation) :
    relation.Coherent := by
  unfold Workspace.read at hread
  split at hread
  next found hfound =>
    cases hread
    cases delta with
    | false => cases hfound
    | true => exact h.delta name _ hfound
  next found hfound =>
    cases hread
    split
    · exact Relation.coherent_ofDistinct _ _ _
    · exact h.growing name _ hfound
  next =>
    unfold Workspace.resolve at hread
    split at hread
    next found hfound =>
      cases hread
      exact h.slots name _ hfound
    next => cases hread
    next =>
      split at hread
      next found hfound =>
        cases hread
        exact h.base name _ hfound
      next => cases hread

/-- A base relation may be replaced by itself with other indices. -/
theorem kept_base {workspace : Workspace} (h : workspace.Coherent) {name : String}
    {relation held : Relation} (hget : workspace.base[name]? = some relation)
    (hbare : held.bare = relation.bare) (hheld : held.Coherent) :
    workspace.Kept { workspace with base := workspace.base.insert name held } := by
  refine ⟨⟨map_getElem?_insert hget hbare, fun _ => rfl, fun _ => rfl, fun _ => rfl⟩,
    ⟨fun other found hfound => ?_, h.slots, h.growing, h.delta⟩, rfl⟩
  rcases of_getElem?_insert hfound with rfl | hfound
  · exact hheld
  · exact h.base other found hfound

/-- A finished relation may be replaced by itself with other indices. -/
theorem kept_slots {workspace : Workspace} (h : workspace.Coherent) {name : String}
    {relation held : Relation} (hget : workspace.slots[name]? = some (some relation))
    (hbare : held.bare = relation.bare) (hheld : held.Coherent) :
    workspace.Kept { workspace with slots := workspace.slots.insert name (some held) } := by
  have hlook : Option.map Relation.bare (some held) = Option.map Relation.bare (some relation) :=
    congrArg some hbare
  refine ⟨⟨fun _ => rfl, map_getElem?_insert hget hlook, fun _ => rfl, fun _ => rfl⟩,
    ⟨h.base, fun other found hfound => ?_, h.growing, h.delta⟩, rfl⟩
  rcases of_getElem?_insert hfound with heq | hfound
  · cases heq
    exact hheld
  · exact h.slots other found hfound

/-- A growing relation may be replaced by itself with other indices. -/
theorem kept_growing {workspace : Workspace} (h : workspace.Coherent) {name : String}
    {relation held : Relation} (hget : workspace.growing[name]? = some relation)
    (hbare : held.bare = relation.bare) (hheld : held.Coherent) :
    workspace.Kept { workspace with growing := workspace.growing.insert name held } := by
  refine ⟨⟨fun _ => rfl, fun _ => rfl, map_getElem?_insert hget hbare, fun _ => rfl⟩,
    ⟨h.base, h.slots, fun other found hfound => ?_, h.delta⟩, rfl⟩
  rcases of_getElem?_insert hfound with rfl | hfound
  · exact hheld
  · exact h.growing other found hfound

/-- A growth may be replaced by itself with other indices. -/
theorem kept_delta {workspace : Workspace} (h : workspace.Coherent) {name : String}
    {relation held : Relation} (hget : workspace.delta[name]? = some relation)
    (hbare : held.bare = relation.bare) (hheld : held.Coherent) :
    workspace.Kept { workspace with delta := workspace.delta.insert name held } := by
  refine ⟨⟨fun _ => rfl, fun _ => rfl, fun _ => rfl, map_getElem?_insert hget hbare⟩,
    ⟨h.base, h.slots, h.growing, fun other found hfound => ?_⟩, rfl⟩
  rcases of_getElem?_insert hfound with rfl | hfound
  · exact hheld
  · exact h.delta other found hfound

/-- Putting a relation back where it was read keeps the workspace. -/
theorem kept_keep {workspace : Workspace} (h : workspace.Coherent) {name : String} {delta : Bool}
    {relation held : Relation} (hread : workspace.read name delta = .ok relation)
    (hbare : held.bare = relation.bare) (hheld : held.Coherent) :
    workspace.Kept (workspace.keep name delta held) := by
  unfold Workspace.read at hread
  unfold keep
  split
  next hdelta =>
    obtain ⟨rfl, hcontains⟩ : delta = true ∧ workspace.delta.contains name = true := by
      simpa using hdelta
    obtain ⟨old, hold⟩ := exists_getElem?_of_contains hcontains
    rw [if_pos rfl, hold] at hread
    cases hread
    exact kept_delta h hold hbare hheld
  next hdelta =>
    have hnone : (if delta = true then workspace.delta[name]? else none) = none := by
      cases delta with
      | false => rfl
      | true =>
        rw [Bool.true_and] at hdelta
        exact getElem?_eq_none_of_not_contains hdelta
    rw [hnone] at hread
    split
    next hgrowing =>
      split
      next => exact Kept.refl h
      next hfull =>
        obtain ⟨old, hold⟩ := exists_getElem?_of_contains hgrowing
        rw [hold] at hread
        simp only [if_neg hfull] at hread
        cases hread
        exact kept_growing h hold hbare hheld
    next hgrowing =>
      rw [getElem?_eq_none_of_not_contains hgrowing] at hread
      unfold Workspace.resolve at hread
      split
      next hslots =>
        obtain ⟨slot, hslot⟩ := exists_getElem?_of_contains hslots
        rw [hslot] at hread
        obtain _ | old := slot
        · cases hread
        · cases hread
          exact kept_slots h hslot hbare hheld
      next hslots =>
        rw [getElem?_eq_none_of_not_contains hslots] at hread
        simp only at hread
        split at hread
        next old hold =>
          cases hread
          exact kept_base h hold hbare hheld
        next => cases hread

end Workspace

end Stratalog
