import Stratalog.Json.Decode
import Stratalog.Proofs.Json.RoundTrip

/-!
# Writers and readers of one kind of data

A writer and a reader belong together when everything written can be printed and is read back
wherever it may go deep enough. Then different data have different texts. Most such pairs also never
write anything deeper than what it was read from, and so do lists of them.
-/

namespace Stratalog.Json

mutual

/-- The number of arrays and objects of a value that are open at once. -/
def nesting : Json → Nat
  | .array items => itemNesting items + 1
  | .object fields => fieldNesting fields + 1
  | _ => 0

/-- The greatest nesting of the items. -/
def itemNesting : List Json → Nat
  | [] => 0
  | item :: items => max (nesting item) (itemNesting items)

/-- The greatest nesting of the values of the fields. -/
def fieldNesting : List (String × Json) → Nat
  | [] => 0
  | (_, value) :: fields => max (nesting value) (fieldNesting fields)

end

variable {depth : Nat}

/-- All items nest no deeper than a bound exactly when each does. -/
theorem itemNesting_le_iff {items : List Json} :
    itemNesting items ≤ depth ↔ ∀ item ∈ items, item.nesting ≤ depth := by
  induction items with
  | nil => simp [itemNesting]
  | cons item items ih => rw [itemNesting, Nat.max_le, ih, List.forall_mem_cons]

/-- All fields nest no deeper than a bound exactly when the value of each does. -/
theorem fieldNesting_le_iff {fields : List (String × Json)} :
    fieldNesting fields ≤ depth ↔ ∀ field ∈ fields, field.2.nesting ≤ depth := by
  induction fields with
  | nil => simp [fieldNesting]
  | cons field fields ih => rw [fieldNesting, Nat.max_le, ih, List.forall_mem_cons]

/-- All items are sound exactly when each is. -/
theorem areSound_iff {items : List Json} :
    areSound depth items = true ↔ ∀ item ∈ items, item.isSound depth = true := by
  induction items with
  | nil => simp [areSound]
  | cons item items ih => rw [areSound, Bool.and_eq_true, ih, List.forall_mem_cons]

/-- All fields are sound exactly when the value of each is. -/
theorem fieldsAreSound_iff {fields : List (String × Json)} :
    fieldsAreSound depth fields = true ↔ ∀ field ∈ fields, field.2.isSound depth = true := by
  induction fields with
  | nil => simp [fieldsAreSound]
  | cons field fields ih => rw [fieldsAreSound, Bool.and_eq_true, ih, List.forall_mem_cons]

/-- A text is sound wherever it stands. -/
@[simp] theorem isSound_string (text : String) : (Json.string text).isSound depth = true := rfl

/-- An opened object is sound when the values of its fields are. -/
@[simp] theorem isSound_object_succ {fields : List (String × Json)} :
    (Json.object fields).isSound (depth + 1) = true ↔
      ∀ field ∈ fields, field.2.isSound depth = true :=
  fieldsAreSound_iff

/-- An array is sound where there is room to open it and its items are sound below. -/
theorem isSound_array_iff {items : List Json} :
    (Json.array items).isSound depth = true ↔
      ∃ below, depth = below + 1 ∧ ∀ item ∈ items, item.isSound below = true := by
  cases depth with
  | zero => simp [isSound]
  | succ below => simp [isSound, areSound_iff]

/-- An object is sound where there is room to open it and the values of its fields are sound below. -/
theorem isSound_object_iff {fields : List (String × Json)} :
    (Json.object fields).isSound depth = true ↔
      ∃ below, depth = below + 1 ∧ ∀ field ∈ fields, field.2.isSound below = true := by
  cases depth with
  | zero => simp [isSound]
  | succ below => simp [isSound, fieldsAreSound_iff]

/-- A printable value is sound where it nests no deeper than allowed. -/
theorem Printable.isSound_iff {json : Json} (h : json.Printable) :
    json.isSound depth = true ↔ json.nesting ≤ depth := by
  induction json using induction generalizing depth with
  | array items ih =>
    cases depth with
    | zero => simp [isSound, nesting]
    | succ below =>
      rw [isSound, areSound_iff, nesting, Nat.add_le_add_iff_right, itemNesting_le_iff]
      exact forall₂_congr fun item hitem => ih item hitem (allPrintable_iff.1 h item hitem)
  | object fields ih =>
    cases depth with
    | zero => simp [isSound, nesting]
    | succ below =>
      rw [isSound, fieldsAreSound_iff, nesting, Nat.add_le_add_iff_right, fieldNesting_le_iff]
      exact forall₂_congr fun field hfield =>
        ih field hfield (fieldsPrintable_iff.1 h field hfield)
  | unreadable => cases h
  | _ => simp [isSound, nesting]

/-- A writer and a reader that belong together. -/
structure Faithful {α : Type} (read : Nat → Json → Option α) (write : α → Json) : Prop where
  printable (a : α) : (write a).Printable
  read_write {depth : Nat} {a : α} :
    (write a).isSound depth = true → read depth (write a) = some a

/-- A writer and a reader that belong together, where nothing is written deeper than it was read. -/
structure Lossless {α : Type} (read : Nat → Json → Option α) (write : α → Json) : Prop
    extends Faithful read write where
  isSound {depth : Nat} {json : Json} {a : α} :
    read depth json = some a → (write a).isSound depth = true

namespace Faithful

variable {α : Type} {read : Nat → Json → Option α} {write : α → Json} {a : α}

/-- Different data are written differently. -/
theorem injective (h : Faithful read write) : Function.Injective write := by
  intro a b hwrite
  have hdeep (a : α) : read (write a).nesting (write a) = some a :=
    h.read_write ((h.printable a).isSound_iff.2 (Nat.le_refl _))
  have hread := hdeep a
  rw [hwrite, hdeep b] at hread
  exact (Option.some.inj hread).symm

/-- Different data have different texts. -/
theorem compact_injective (h : Faithful read write) :
    Function.Injective fun a => (write a).compact := by
  intro a b hcompact
  have hparse := parse?_compact (h.printable a)
  rw [show (write a).compact = (write b).compact from hcompact, parse?_compact (h.printable b)]
    at hparse
  exact h.injective (Option.some.inj hparse).symm

/-- What is sound once written is read back from its text. -/
theorem bind_parse?_compact (h : Faithful read write) (hsound : (write a).isSound depth = true) :
    (parse? (write a).compact).bind (read depth) = some a := by
  rw [parse?_compact (h.printable a)]
  exact h.read_write hsound

end Faithful

section Items

variable {α : Type} {read : Json → Option α} {write : α → Json} {items : List Json} {as : List α}

/-- Items that are read back one by one are read back together. -/
theorem readAll?_map (h : ∀ a ∈ as, read (write a) = some a) :
    readAll? read (as.map write) = some as := by
  induction as with
  | nil => rfl
  | cons a as ih =>
    obtain ⟨ha, has⟩ := List.forall_mem_cons.1 h
    rw [List.map_cons, readAll?, ha]
    simp only [ih has, Option.map_some]

/-- What is read of items is read of one of them each. -/
theorem exists_of_readAll? (h : readAll? read items = some as) :
    ∀ a ∈ as, ∃ item ∈ items, read item = some a := by
  induction items generalizing as with
  | nil =>
    cases h
    simp
  | cons item items ih =>
    rw [readAll?] at h
    split at h
    next a hitem =>
      obtain ⟨rest, hrest, rfl⟩ := Option.map_eq_some_iff.1 h
      refine List.forall_mem_cons.2 ⟨⟨item, List.mem_cons_self, hitem⟩, fun b hb => ?_⟩
      obtain ⟨item', hitem', hread⟩ := ih hrest b hb
      exact ⟨item', List.mem_cons_of_mem _ hitem', hread⟩
    next => cases h

end Items

/-- Lists of what is read back are read back. -/
theorem Lossless.array {α : Type} {read : Nat → Json → Option α} {write : α → Json}
    (h : Lossless read write) :
    Lossless (fun depth json => json.array? depth read) fun as => .array (as.map write) where
  printable as := by
    refine allPrintable_iff.2 fun item hitem => ?_
    obtain ⟨a, -, rfl⟩ := List.mem_map.1 hitem
    exact h.printable a
  read_write {depth as} hsound := by
    obtain ⟨below, rfl, hitems⟩ := isSound_array_iff.1 hsound
    exact readAll?_map fun a ha => h.read_write (hitems _ (List.mem_map_of_mem ha))
  isSound {depth json as} hread := by
    unfold array? at hread
    split at hread
    next items =>
      cases depth with
      | zero => cases hread
      | succ below =>
        refine isSound_array_iff.2 ⟨below, rfl, fun item hitem => ?_⟩
        obtain ⟨a, ha, rfl⟩ := List.mem_map.1 hitem
        obtain ⟨item, -, hitem⟩ := exists_of_readAll? hread a ha
        exact h.isSound hitem
    next => cases hread

/-- Texts are read back. -/
theorem lossless_string : Lossless (fun _ => string?) Json.string where
  printable _ := trivial
  read_write _ := rfl
  isSound _ := rfl

/-- A record is read only where there is room to open it. -/
theorem record?_eq_some {depth below : Nat} {names : List String} {json : Json}
    {contents : List (Option Json)} (h : json.record? depth names = some (below, contents)) :
    depth = below + 1 ∧ json.fields? names = some contents := by
  unfold record? at h
  split at h
  next => cases h
  next below' =>
    obtain ⟨contents', hfields, hpair⟩ := Option.map_eq_some_iff.1 h
    cases hpair
    exact ⟨rfl, hfields⟩

end Stratalog.Json
