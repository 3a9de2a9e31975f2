import Mathlib.Data.List.Basic
import Stratalog.Input.Path

/-!
# Paths and places

A name is a part of a path that names something below where it stands. A path inside a folder leads to the
place of the folder and on to its name. Wherever a path leads, two dots stand at the front only, so what
comes after a name are names.
-/

namespace Stratalog.Path

variable {path folder name : String} {names : List String}

/-- Whether a text is one part of a path and names something. -/
structure IsName (name : String) : Prop where
  ne_empty : name ≠ ""
  slash : '/' ∉ name.toList
  ne_dot : name ≠ "."
  ne_dots : name ≠ ".."

instance : Decidable (IsName name) :=
  decidable_of_iff (name ≠ "" ∧ '/' ∉ name.toList ∧ name ≠ "." ∧ name ≠ "..")
    ⟨fun ⟨hempty, hslash, hdot, hdots⟩ => ⟨hempty, hslash, hdot, hdots⟩,
      fun h => ⟨h.ne_empty, h.slash, h.ne_dot, h.ne_dots⟩⟩

/-- A path ends with a text when the characters of the text are its last. -/
theorem endsWith_iff {text : String} : path.endsWith text = true ↔ text.toList <:+ path.toList := by
  rw [String.endsWith_eq_endsWith_toSlice, String.Slice.endsWith_string_iff, String.copy_toSlice]

/-- A text without slashes has no parts before or after it. -/
theorem parts_of_slash (h : '/' ∉ name.toList) :
    parts name = [name].filter fun part => part != "" && part != "." := by
  rw [parts, List.splitOn_eq_singleton h, List.map_singleton, String.ofList_toList]

/-- An empty path has no parts. -/
@[simp] theorem parts_empty : parts "" = [] := by
  decide

/-- A name is the only part of itself. -/
theorem IsName.parts (h : IsName name) : parts name = [name] := by
  simp [parts_of_slash h.slash, h.ne_empty, h.ne_dot]

/-- A slash ends one part and begins another. -/
theorem parts_slash (folder name : String) :
    parts (folder ++ "/" ++ name) = parts folder ++ parts name := by
  have hlist : (folder ++ "/" ++ name).toList = folder.toList ++ '/' :: name.toList := by
    simp [String.toList_append]
  rw [parts, hlist, List.splitOn_append_cons_self, List.map_append, List.filter_append]
  rfl

/-- A path inside a folder is the name alone, or the folder, a slash and the name. -/
theorem inside_cases (folder name : String) : folder = "" ∧ inside folder name = name ∨
    folder ≠ "" ∧ ∃ stem, inside folder name = stem ++ "/" ++ name ∧
      (folder = stem ∨ folder = stem ++ "/") := by
  rcases eq_or_ne folder "" with rfl | hne
  · exact .inl ⟨rfl, String.empty_append⟩
  refine .inr ⟨hne, ?_⟩
  unfold inside
  split
  next h =>
    obtain ⟨stem, hstem⟩ := endsWith_iff.1 (by simpa [hne] using h)
    have hfolder : folder = String.ofList stem ++ "/" := by
      rw [← String.toList_inj, String.toList_append, String.toList_ofList, hstem]
    exact ⟨_, by rw [hfolder], .inr hfolder⟩
  next => exact ⟨folder, rfl, .inl rfl⟩

/-- The parts of a path inside a folder are those of the folder and the name. -/
theorem parts_inside (folder : String) (h : IsName name) :
    parts (inside folder name) = parts folder ++ [name] := by
  rcases inside_cases folder name with ⟨rfl, hinside⟩ | ⟨-, stem, hinside, rfl | rfl⟩
  · rw [hinside, parts_empty, h.parts, List.nil_append]
  · rw [hinside, parts_slash, h.parts]
  · have hfolder := parts_slash stem ""
    rw [String.append_empty, parts_empty, List.append_nil] at hfolder
    rw [hinside, parts_slash, h.parts, hfolder]

/-- A path inside a folder begins with a slash when the folder does. -/
theorem startsWith_inside (folder : String) (h : IsName name) :
    (inside folder name).startsWith "/" = folder.startsWith "/" := by
  rw [Bool.eq_iff_iff, String.startsWith_string_iff, String.startsWith_string_iff]
  rcases eq_or_ne folder "" with rfl | hne
  · rw [(inside_cases "" name).elim And.right fun hfolder => absurd rfl hfolder.1]
    exact iff_of_false (fun hslash => h.slash (hslash.mem List.mem_cons_self)) (by simp)
  · obtain ⟨rest, hinside⟩ : ∃ rest, inside folder name = folder ++ rest := by
      unfold inside
      split
      · exact ⟨name, rfl⟩
      · exact ⟨"/" ++ name, String.append_assoc⟩
    obtain ⟨first, others, hfolder⟩ := List.exists_cons_of_ne_nil fun hnil =>
      hne (String.toList_eq_nil_iff.1 hnil)
    rw [hinside, String.toList_append, hfolder]
    simp

/-- A name comes on top of what is above it. -/
theorem step_name (h : IsName name) {above : List String} : step above name = name :: above := by
  unfold step
  split
  next => exact absurd rfl h.ne_dots
  next => rfl

/-- A path inside a folder leads to the place of the folder and on to the name. -/
theorem place_inside (folder : String) (h : IsName name) :
    place (inside folder name) = place folder ++ [name] := by
  rw [place, place, parts_inside folder h, startsWith_inside folder h, List.foldl_append,
    List.foldl_cons, List.foldl_nil, step_name h, List.reverse_cons]

/-- What stands on top of a place: names, and below them the steps that lead nowhere. -/
def Stacked (above : List String) : Prop :=
  ∃ names base, above = names ++ base ∧ (∀ name ∈ names, IsName name) ∧
    ∀ part ∈ base, part = ".." ∨ part = "/"

/-- What is between marks has no mark in it. -/
theorem not_mem_of_mem_splitOn {α : Type} [BEq α] [LawfulBEq α] {mark : α} {items piece : List α}
    (h : piece ∈ items.splitOn mark) : mark ∉ piece := by
  induction items generalizing piece with
  | nil =>
    obtain rfl := List.mem_singleton.1 h
    exact List.not_mem_nil
  | cons item items ih =>
    rw [List.splitOn_cons_eq_if_modifyHead] at h
    split at h
    next =>
      rcases List.mem_cons.1 h with rfl | h
      · exact List.not_mem_nil
      · exact ih h
    next hitem =>
      obtain ⟨first, rest, hsplit⟩ := List.exists_cons_of_ne_nil (List.splitOn_ne_nil mark items)
      rw [hsplit, List.modifyHead_cons] at h
      rcases List.mem_cons.1 h with rfl | h
      · rw [List.mem_cons, not_or]
        exact ⟨fun heq => hitem (beq_iff_eq.2 heq.symm), ih (hsplit ▸ List.mem_cons_self)⟩
      · exact ih (hsplit ▸ List.mem_cons_of_mem _ h)

/-- A part is a name or two dots. -/
theorem isName_of_mem_parts (h : name ∈ parts path) : name = ".." ∨ IsName name := by
  refine or_iff_not_imp_left.2 fun hdots => ?_
  obtain ⟨hsegment, hkept⟩ := List.mem_filter.1 h
  obtain ⟨segment, hmem, rfl⟩ := List.mem_map.1 hsegment
  simp only [bne_iff_ne, Bool.and_eq_true] at hkept
  refine ⟨hkept.1, ?_, hkept.2, hdots⟩
  rw [String.toList_ofList]
  exact not_mem_of_mem_splitOn hmem

/-- Taking one more part leaves names on top. -/
theorem Stacked.step {above : List String} (h : Stacked above) {part : String}
    (hpart : part = ".." ∨ IsName part) : Stacked (step above part) := by
  obtain ⟨names, base, rfl, hnames, hbase⟩ := h
  rcases hpart with rfl | hpart
  · cases names with
    | nil =>
      refine ⟨[], ".." :: base, ?_, by simp, List.forall_mem_cons.2 ⟨.inl rfl, hbase⟩⟩
      cases base with
      | nil => simp [Path.step]
      | cons part base => simp [Path.step, hbase part List.mem_cons_self]
    | cons name names =>
      obtain ⟨hname, hnames⟩ := List.forall_mem_cons.1 hnames
      have hroot : name ≠ "/" := fun heq => hname.slash (by rw [heq]; decide)
      exact ⟨names, base, by simp [Path.step, hname.ne_dots, hroot], hnames, hbase⟩
  · exact ⟨part :: names, base, step_name hpart, List.forall_mem_cons.2 ⟨hpart, hnames⟩, hbase⟩

/-- Names stay on top along the parts of a path. -/
theorem Stacked.foldl {above : List String} (h : Stacked above) (parts : List String)
    (hparts : ∀ part ∈ parts, part = ".." ∨ IsName part) : Stacked (parts.foldl Path.step above) := by
  induction parts generalizing above with
  | nil => exact h
  | cons part parts ih =>
    obtain ⟨hpart, hparts⟩ := List.forall_mem_cons.1 hparts
    exact ih (h.step hpart) hparts

/-- Wherever a path leads, what comes after a name are names. -/
theorem isName_of_place {before after : List String} (hname : IsName name)
    (hplace : place path = before ++ name :: after) : ∀ other ∈ after, IsName other := by
  have hstart : Stacked (if path.startsWith "/" then ["/"] else []) := by
    split
    · exact ⟨[], ["/"], rfl, by simp, by simp⟩
    · exact ⟨[], [], rfl, by simp, by simp⟩
  obtain ⟨names, base, habove, hnames, hbase⟩ :=
    hstart.foldl (parts path) fun part hpart => isName_of_mem_parts hpart
  rw [place, habove, List.reverse_append] at hplace
  -- The name stands among the names, as no step that leads nowhere is a name.
  rcases List.append_eq_append_iff.1 hplace with ⟨middle, -, hmiddle⟩ | ⟨middle, hmiddle, hafter⟩
  · intro other hother
    refine hnames other (List.mem_reverse.1 ?_)
    rw [hmiddle]
    exact List.mem_append_right _ (List.mem_cons_of_mem _ hother)
  · cases middle with
    | nil =>
      rw [List.nil_append] at hafter
      intro other hother
      refine hnames other (List.mem_reverse.1 ?_)
      rw [← hafter]
      exact List.mem_cons_of_mem _ hother
    | cons part middle =>
      obtain ⟨rfl, -⟩ := List.cons_eq_cons.1 hafter
      have hpart : name ∈ base := List.mem_reverse.1 (hmiddle ▸ by simp)
      rcases hbase name hpart with rfl | rfl
      · exact absurd rfl hname.ne_dots
      · exact absurd (by decide) hname.slash

/-- A path into folders inside each other leads on to their names. -/
theorem place_foldl_inside (path : String) (h : ∀ name ∈ names, IsName name) :
    place (names.foldl inside path) = place path ++ names := by
  induction names generalizing path with
  | nil => exact (List.append_nil _).symm
  | cons name names ih =>
    obtain ⟨hname, hnames⟩ := List.forall_mem_cons.1 h
    rw [List.foldl_cons, ih _ hnames, place_inside path hname, List.append_assoc]
    rfl

/-- An empty path leads nowhere. -/
@[simp] theorem place_empty : place "" = [] := by
  rw [place, parts_empty]
  simp

/-- A name leads to a place of its own. -/
theorem IsName.place (h : IsName name) : place name = [name] := by
  simpa [inside] using place_inside "" h

/-- Some path leads to a place that is given by names. -/
theorem exists_place_eq (h : ∀ name ∈ names, IsName name) : ∃ path, place path = names :=
  ⟨names.foldl inside "", by rw [place_foldl_inside _ h, place_empty, List.nil_append]⟩

/-- The last part of a path inside a folder is the name. -/
theorem name?_inside (folder : String) (h : IsName name) : name? (inside folder name) = some name := by
  rw [name?, parts_inside _ h, List.getLast?_concat]
  split
  next heq => exact absurd (Option.some.inj heq) h.ne_dots
  next heq => cases heq
  next heq => exact heq.symm

/-- A path that ends with a name does not make itself a folder. -/
theorem isFolder_inside (folder : String) (h : IsName name) :
    isFolder (inside folder name) = false := by
  have hname : name.toList <:+ (inside folder name).toList := by
    rcases inside_cases folder name with ⟨-, hinside⟩ | ⟨-, stem, hinside, -⟩
    · exact ⟨[], by rw [hinside, List.nil_append]⟩
    · rw [hinside, String.toList_append]
      exact List.suffix_append _ _
  have hends {text : String} (hslash : '/' ∈ text.toList)
      (hshort : name.toList <:+ text.toList → False) : (inside folder name).endsWith text = false := by
    rw [← Bool.not_eq_true, endsWith_iff]
    intro htext
    rcases List.suffix_or_suffix_of_suffix htext hname with hsuffix | hsuffix
    · exact h.slash (hsuffix.mem hslash)
    · exact hshort hsuffix
  have hempty : name.toList ≠ [] := fun hnil => h.ne_empty (String.toList_eq_nil_iff.1 hnil)
  have hdot : name.toList ≠ ['.'] := fun hdot => h.ne_dot (String.toList_inj.1 hdot)
  have hslash : ∀ rest, name.toList ≠ '/' :: rest := fun rest heq =>
    h.slash (heq ▸ List.mem_cons_self)
  rw [isFolder, hends (by decide), hends (by decide)]
  · rfl
  all_goals simp [List.suffix_cons_iff, hempty, hdot, hslash]

/-- A path that leads on to names is a path inside a folder. -/
theorem exists_foldl_inside_eq (path : String) (h : ∀ name ∈ names, IsName name)
    (hlast : names.getLast? = some name) :
    IsName name ∧ ∃ folder, names.foldl inside path = inside folder name := by
  obtain ⟨before, rfl⟩ := List.getLast?_eq_some_iff.1 hlast
  refine ⟨h name (List.mem_append_right _ List.mem_cons_self), before.foldl inside path, ?_⟩
  rw [List.foldl_append, List.foldl_cons, List.foldl_nil]

end Stratalog.Path
