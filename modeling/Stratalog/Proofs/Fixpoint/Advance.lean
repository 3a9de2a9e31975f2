import Stratalog.Proofs.Fixpoint.Round

/-!
# From round to round

The rows that a round found are absorbed by the members, and the next round reads them as what is
new. So what the members hold advances by one step of the immediate consequences, while only rules
with an atom that reads something new are evaluated.
-/

namespace Stratalog

namespace Evaluation

open Eval

/-- The rows listed under each name. -/
def RowsByName.rowsOf (rows : RowsByName) : Interpretation := fun name =>
  {row | ∃ list, (name, list) ∈ rows ∧ row ∈ list}

/-- The rows of a round: for each predicate that has some, its rows in a list of its own, each
once and of full width. -/
structure RowsByName.Lists (rows : RowsByName) (predicates : List Predicate)
    (S : Predicate → Set Row) : Prop where
  nodup : (rows.map Prod.fst).Nodup
  each : ∀ entry ∈ rows, entry.2.Nodup ∧ entry.2 ≠ [] ∧ ∃ predicate ∈ predicates,
    predicate.name = entry.1 ∧ ∀ row ∈ entry.2, row.length = predicate.columns.length
  mem : ∀ predicate ∈ predicates, rows.rowsOf predicate.name = S predicate

namespace RowsByName

variable {rows : RowsByName} {predicates : List Predicate} {predicate : Predicate}
  {S : Predicate → Set Row}

/-- Only predicates have rows. -/
theorem Lists.rowsOf_eq_empty (h : rows.Lists predicates S) {name : String}
    (hname : name ∉ predicates.map Predicate.name) : rows.rowsOf name = ∅ := by
  refine Set.eq_empty_iff_forall_notMem.2 fun row hrow => ?_
  obtain ⟨list, hlist, -⟩ := hrow
  obtain ⟨-, -, predicate, hmem, rfl, -⟩ := h.each _ hlist
  exact hname (List.mem_map_of_mem hmem)

/-- The rows of a round are those of any equal sets. -/
theorem Lists.congr {T : Predicate → Set Row} (h : rows.Lists predicates S)
    (heq : ∀ predicate ∈ predicates, S predicate = T predicate) : rows.Lists predicates T :=
  ⟨h.nodup, h.each, fun predicate hmem => (h.mem predicate hmem).trans (heq predicate hmem)⟩

/-- The list of a predicate has exactly its rows. -/
theorem Lists.mem_list_iff (h : rows.Lists predicates S) (hmem : predicate ∈ predicates)
    {list : List Row} (hlist : (predicate.name, list) ∈ rows) {row : Row} :
    row ∈ list ↔ row ∈ S predicate := by
  rw [← h.mem predicate hmem]
  constructor
  · exact fun hrow => ⟨list, hlist, hrow⟩
  · rintro ⟨other, hother, hrow⟩
    cases List.inj_on_of_nodup_map h.nodup hother hlist rfl
    exact hrow

/-- A predicate has a list when it has rows. -/
theorem Lists.mem_names_iff (h : rows.Lists predicates S) (hmem : predicate ∈ predicates) :
    predicate.name ∈ rows.map Prod.fst ↔ ∃ row, row ∈ S predicate := by
  constructor
  · intro hname
    obtain ⟨⟨_, list⟩, hlist, rfl⟩ := List.mem_map.1 hname
    obtain ⟨row, hrow⟩ := List.exists_mem_of_ne_nil _ (h.each _ hlist).2.1
    exact ⟨row, (h.mem_list_iff hmem hlist).1 hrow⟩
  · rintro ⟨row, hrow⟩
    rw [← h.mem predicate hmem] at hrow
    obtain ⟨list, hlist, -⟩ := hrow
    exact List.mem_map_of_mem hlist

/-- Only predicates have lists. -/
theorem Lists.name_mem (h : rows.Lists predicates S) :
    ∀ name ∈ rows.map Prod.fst, name ∈ predicates.map Predicate.name := by
  intro name hname
  obtain ⟨entry, hentry, rfl⟩ := List.mem_map.1 hname
  obtain ⟨-, -, predicate, hmem, hsame, -⟩ := h.each entry hentry
  exact List.mem_map.2 ⟨predicate, hmem, hsame⟩

/-- Where no predicate has rows nothing is listed. -/
theorem Lists.eq_nil (h : rows.Lists predicates S)
    (hnone : ∀ predicate ∈ predicates, ∀ row, row ∉ S predicate) : rows = [] := by
  refine List.eq_nil_iff_forall_not_mem.2 fun entry hentry => ?_
  have hname := List.mem_map_of_mem (f := Prod.fst) hentry
  obtain ⟨predicate, hmem, hsame⟩ := List.mem_map.1 (h.name_mem _ hname)
  obtain ⟨row, hrow⟩ := (h.mem_names_iff hmem).1 (hsame ▸ hname)
  exact hnone predicate hmem row hrow

/-- The rows listed under a name first are those of the name. -/
theorem rowsOf_cons_self {name : String} {list : List Row} (hname : name ∉ rows.map Prod.fst) :
    rowsOf ((name, list) :: rows) name = {row | row ∈ list} := by
  ext row
  constructor
  · rintro ⟨other, hother, hrow⟩
    rcases List.mem_cons.1 hother with heq | hmem
    · cases heq
      exact hrow
    · exact absurd (List.mem_map_of_mem hmem) hname
  · exact fun hrow => ⟨list, List.mem_cons_self, hrow⟩

/-- The rows of other names are listed behind. -/
theorem rowsOf_cons_of_ne {name other : String} {list : List Row} (hne : other ≠ name) :
    rowsOf ((name, list) :: rows) other = rows.rowsOf other := by
  ext row
  constructor
  · rintro ⟨found, hfound, hrow⟩
    rcases List.mem_cons.1 hfound with heq | hmem
    · cases heq
      exact absurd rfl hne
    · exact ⟨found, hmem, hrow⟩
  · rintro ⟨found, hfound, hrow⟩
    exact ⟨found, List.mem_cons_of_mem _ hfound, hrow⟩

/-- The rows found for a predicate come before those of the others, unless there are none. -/
theorem Lists.cons (h : rows.Lists predicates S)
    (hname : predicate.name ∉ predicates.map Predicate.name) {fresh : Fresh}
    (hfresh : fresh.Collects predicate.columns.length (S predicate)) :
    RowsByName.Lists (if fresh.rows.isEmpty then rows
      else (predicate.name, fresh.rows.toList) :: rows) (predicate :: predicates) S := by
  have hfst : predicate.name ∉ rows.map Prod.fst := by
    intro hmem
    obtain ⟨entry, hentry, heq⟩ := List.mem_map.1 hmem
    obtain ⟨-, -, other, hother, hsame, -⟩ := h.each entry hentry
    exact hname (List.mem_map.2 ⟨other, hother, hsame.trans heq⟩)
  have hne : ∀ other ∈ predicates, other.name ≠ predicate.name := fun other hother heq =>
    hname (List.mem_map.2 ⟨other, hother, heq⟩)
  have hwiden : ∀ entry ∈ rows, entry.2.Nodup ∧ entry.2 ≠ [] ∧
      ∃ other ∈ predicate :: predicates, other.name = entry.1 ∧
        ∀ row ∈ entry.2, row.length = other.columns.length := by
    intro entry hentry
    obtain ⟨hnodup, hsome, other, hother, hrest⟩ := h.each entry hentry
    exact ⟨hnodup, hsome, other, List.mem_cons_of_mem _ hother, hrest⟩
  split
  next hempty =>
    refine ⟨h.nodup, hwiden, List.forall_mem_cons.2 ⟨?_, h.mem⟩⟩
    rw [h.rowsOf_eq_empty hname]
    refine (Set.eq_empty_iff_forall_notMem.2 fun row hrow => ?_).symm
    rw [← hfresh.mem, Array.isEmpty_iff.1 hempty] at hrow
    exact List.not_mem_nil hrow
  next hempty =>
    refine ⟨List.nodup_cons.2 ⟨hfst, h.nodup⟩, List.forall_mem_cons.2 ⟨?_, hwiden⟩,
      List.forall_mem_cons.2 ⟨?_, fun other hother => ?_⟩⟩
    · refine ⟨hfresh.nodup, fun hnil => hempty ?_, predicate, List.mem_cons_self, rfl,
        hfresh.length⟩
      exact Array.isEmpty_iff.2 (Array.toList_eq_nil_iff.1 hnil)
    · rw [rowsOf_cons_self hfst]
      exact Set.ext hfresh.mem
    · rw [rowsOf_cons_of_ne (hne other hother), h.mem other hother]

end RowsByName

variable {context : Context} {outer start workspace : Workspace}
  {predicates members : List Predicate} {catalog : Catalog} {X D : Interpretation}

/-- A round finds, for each member, what its rules derive through some growth and it does not
hold. -/
theorem ensures_deriveRound [PatternEngine] (h : Supports catalog predicates start)
    (hkept : start.Kept workspace)
    (hmembers : ∀ member ∈ members, member ∈ predicates)
    (hnodup : (members.map Predicate.name).Nodup) :
    (deriveRound context (predicates.map Predicate.name) members).Ensures workspace
      (fun rows after => start.Kept after ∧ rows.Lists members fun member =>
        {row | (∃ rule ∈ member.rules,
          ∃ i ∈ rule.recursivePositions (predicates.map Predicate.name),
            row ∈ headsIn context start rule (some i)) ∧
          row ∉ start.growing.rowsOf member.name})
      fun fault after => start.Kept after ∧
        ((∀ member ∈ members, ∀ rule ∈ member.rules, Feeds start rule) →
          fault.IsTupleLimit) := by
  induction members generalizing workspace with
  | nil =>
    rw [deriveRound, ensures_pure]
    exact ⟨hkept, List.nodup_nil, by simp, by simp⟩
  | cons member rest ih =>
    obtain ⟨hmember, hrest⟩ := List.forall_mem_cons.1 hmembers
    obtain ⟨hname, hnames⟩ := List.nodup_cons.1 hnodup
    rw [deriveRound, ensures_bind]
    refine (ensures_deriveRules h hkept hmember (fun _ => id) (Fresh.collects_empty _)).mono
      (fun fresh after hfresh => ?_) fun _ _ hfault =>
        ⟨hfault.1, fun hfeeds => hfault.2 (List.forall_mem_cons.1 hfeeds).1⟩
    rw [ensures_bind]
    refine (ih hfresh.1 hrest hnames).mono (fun others last hothers => ?_) fun _ _ hfault =>
      ⟨hfault.1, fun hfeeds => hfault.2 (List.forall_mem_cons.1 hfeeds).2⟩
    rw [ensures_pure]
    refine ⟨hothers.1, hothers.2.cons hname (hfresh.2.congr fun row => ?_)⟩
    exact or_iff_right (Set.notMem_empty row)

/-- The first round finds, for each member, what its rules derive that read no member. -/
theorem ensures_startRound [PatternEngine] (h : Supports catalog predicates start)
    (hkept : start.Kept workspace)
    (hmembers : ∀ member ∈ members, member ∈ predicates)
    (hnodup : (members.map Predicate.name).Nodup) :
    (startRound context (predicates.map Predicate.name) members).Ensures workspace
      (fun rows after => start.Kept after ∧ rows.Lists members fun member =>
        {row | ∃ rule ∈ member.rules,
          rule.recursivePositions (predicates.map Predicate.name) = [] ∧
            row ∈ headsIn context start rule none})
      fun fault after => start.Kept after ∧
        ((∀ member ∈ members, ∀ rule ∈ member.rules, Feeds start rule) →
          fault.IsTupleLimit) := by
  induction members generalizing workspace with
  | nil =>
    rw [startRound, ensures_pure]
    exact ⟨hkept, List.nodup_nil, by simp, by simp⟩
  | cons member rest ih =>
    obtain ⟨hmember, hrest⟩ := List.forall_mem_cons.1 hmembers
    obtain ⟨hname, hnames⟩ := List.nodup_cons.1 hnodup
    rw [startRound, ensures_bind]
    refine (ensures_startRules h hkept hmember (fun _ => id) (Fresh.collects_empty _)).mono
      (fun fresh after hfresh => ?_) fun _ _ hfault =>
        ⟨hfault.1, fun hfeeds => hfault.2 (List.forall_mem_cons.1 hfeeds).1⟩
    rw [ensures_bind, ensures_lift]
    refine ⟨fun _ _ => ?_, fun fault hfault =>
      ⟨hfresh.1, fun _ => isTupleLimit_of_checkSize hfault⟩⟩
    rw [ensures_bind]
    refine (ih hfresh.1 hrest hnames).mono (fun others last hothers => ?_) fun _ _ hfault =>
      ⟨hfault.1, fun hfeeds => hfault.2 (List.forall_mem_cons.1 hfeeds).2⟩
    rw [ensures_pure]
    refine ⟨hothers.1, hothers.2.cons hname (hfresh.2.congr fun row => ?_)⟩
    exact or_iff_right (Set.notMem_empty row)

/-- A later round of a stratum finds what is derived through some position and not held. -/
theorem Growing.ensures_deriveRound [PatternEngine] (h : Growing outer predicates X D workspace)
    (hready : Ready catalog predicates outer) :
    (deriveRound context (predicates.map Predicate.name) predicates).Ensures workspace
      (fun rows after => Growing outer predicates X D after ∧
        rows.Lists predicates fun member =>
          {row | (∃ rule ∈ member.rules,
            ∃ i ∈ rule.recursivePositions (predicates.map Predicate.name),
              row ∈ through context predicates outer X D rule i) ∧ row ∉ X member.name})
      fun fault after => outer.Encloses after ∧ fault.IsTupleLimit := by
  refine (Evaluation.ensures_deriveRound (h.supports hready.admits)
    (Workspace.Kept.refl h.encloses.coherent) (fun _ => id) hready.nodup).mono
    (fun rows after hafter => ⟨h.of_kept hafter.1, hafter.2.congr fun member hmem => ?_⟩)
    fun fault after hfault => ⟨h.encloses.trans hfault.1,
      hfault.2 fun member hmem rule hrule => h.readable hready hmem hrule⟩
  ext row
  simp only [Set.mem_ofPred_eq, h.rows]
  refine and_congr_left fun _ => exists_congr fun rule => and_congr_right fun hrule => ?_
  simp only [h.headsIn_some hready hmem hrule]

/-- The first round of a stratum finds what rules derive that read no member. -/
theorem Growing.ensures_startRound [PatternEngine] (h : Growing outer predicates X D workspace)
    (hready : Ready catalog predicates outer) :
    (startRound context (predicates.map Predicate.name) predicates).Ensures workspace
      (fun rows after => Growing outer predicates X D after ∧
        rows.Lists predicates fun member =>
          {row | ∃ rule ∈ member.rules,
            rule.recursivePositions (predicates.map Predicate.name) = [] ∧
              row ∈ derivedFrom context predicates outer X rule})
      fun fault after => outer.Encloses after ∧ fault.IsTupleLimit := by
  refine (Evaluation.ensures_startRound (h.supports hready.admits)
    (Workspace.Kept.refl h.encloses.coherent) (fun _ => id) hready.nodup).mono
    (fun rows after hafter => ⟨h.of_kept hafter.1, hafter.2.congr fun member hmem => ?_⟩)
    fun fault after hfault => ⟨h.encloses.trans hfault.1,
      hfault.2 fun member hmem rule hrule => h.readable hready hmem hrule⟩
  ext row
  simp only [Set.mem_ofPred_eq]
  refine exists_congr fun rule => and_congr_right fun hrule => ?_
  rw [h.headsIn_none hready hmem hrule]

/-- Members go on to be fit for their predicates when one of them grows by new rows. -/
theorem Growing.insert (h : Growing outer predicates X D workspace) {name : String}
    {relation : Relation} (hrelation : workspace.growing[name]? = some relation) {list : List Row}
    (hnodup : list.Nodup) (hnew : ∀ row ∈ list, row ∉ X name) {predicate : Predicate}
    (hmem : predicate ∈ predicates) (hname : predicate.name = name)
    (hlength : ∀ row ∈ list, row.length = predicate.columns.length)
    (hunique : ∀ other ∈ predicates, other.name = name → other = predicate) :
    Growing outer predicates (fun other => {row | row ∈ X other ∨ other = name ∧ row ∈ list}) D
      { workspace with growing := workspace.growing.insert name (relation.extend list) } := by
  obtain ⟨holder, hholder, hheld, hof⟩ := h.members name relation hrelation
  obtain rfl : holder = predicate := hunique holder hholder hheld
  have hrows (row : Row) : row ∈ relation.rows ↔ row ∈ X name := by
    rw [← h.rows, Relations.mem_rowsOf_iff hrelation]
  have hextended : (relation.extend list).IsOf holder := by
    refine ⟨hof.name, hof.schema, ?_, ?_⟩
    · refine List.nodup_append.2 ⟨hof.nodup, hnodup, fun a ha b hb heq => ?_⟩
      subst heq
      exact hnew a hb ((hrows a).1 ha)
    · intro row hrow
      rcases List.mem_append.1 hrow with hrow | hrow
      · exact hof.length row hrow
      · exact hlength row hrow
  refine ⟨h.encloses.replace (fun other found hfound => ?_) h.encloses.coherent.delta,
    fun other found hfound => ?_, fun other hother => ?_, ?_, h.growth, h.new⟩
  · rcases of_getElem?_insert hfound with rfl | hfound
    · exact (h.encloses.coherent.growing name relation hrelation).extend list
    · exact h.encloses.coherent.growing other found hfound
  · rw [Std.TreeMap.getElem?_insert] at hfound
    split at hfound
    next heq =>
      cases hfound
      exact ⟨holder, hholder, hheld.trans (Std.LawfulEqOrd.eq_of_compare heq), hextended⟩
    next => exact h.members other found hfound
  · simp only [Std.TreeMap.getElem?_insert]
    split
    · exact ⟨_, rfl⟩
    · exact h.complete other hother
  · funext other
    ext row
    simp only [Relations.rowsOf, Std.TreeMap.getElem?_insert, Set.mem_ofPred_eq]
    by_cases heq : name = other
    · subst heq
      simp [Std.ReflOrd.compare_self, Relation.extend, hrows]
    · have hcompare : ¬compare name other = .eq := fun hsame =>
        heq (Std.LawfulEqOrd.eq_of_compare hsame)
      rw [if_neg hcompare, ← h.rows]
      simp [Relations.rowsOf, Ne.symm heq]

/-- The members absorb new rows, unless one of them grows too large. -/
theorem ensures_absorb (hmembers : (predicates.map Predicate.name).Nodup)
    (h : Growing outer predicates X D workspace) {rows : RowsByName}
    (hnodup : (rows.map Prod.fst).Nodup)
    (heach : ∀ entry ∈ rows, entry.2.Nodup ∧ ∃ predicate ∈ predicates, predicate.name = entry.1 ∧
      ∀ row ∈ entry.2, row.length = predicate.columns.length ∧ row ∉ X predicate.name) :
    (absorb context rows).Ensures workspace
      (fun _ after => Growing outer predicates (X ⊔ rows.rowsOf) D after)
      fun fault after => outer.Encloses after ∧ fault.IsTupleLimit := by
  induction rows generalizing X workspace with
  | nil =>
    rw [absorb, ensures_pure]
    have hnone : X ⊔ RowsByName.rowsOf [] = X := by
      refine sup_eq_left.2 fun name row hrow => ?_
      obtain ⟨list, hlist, -⟩ := hrow
      exact absurd hlist List.not_mem_nil
    rwa [hnone]
  | cons entry rest ih =>
    obtain ⟨name, list⟩ := entry
    obtain ⟨⟨hlist, predicate, hmem, rfl, hrows⟩, hrest⟩ := List.forall_mem_cons.1 heach
    obtain ⟨hname, hnames⟩ := List.nodup_cons.1 hnodup
    obtain ⟨relation, hrelation⟩ := h.complete predicate hmem
    have hunique : ∀ other ∈ predicates, other.name = predicate.name → other = predicate :=
      fun other hother heq => List.inj_on_of_nodup_map hmembers hother hmem heq
    have hgrown := h.insert hrelation hlist (fun row hrow => (hrows row hrow).2) hmem rfl
      (fun row hrow => (hrows row hrow).1) hunique
    rw [absorb]
    simp only [ensures_bind, ensures_get, hrelation, ensures_modify, ensures_lift]
    refine ⟨fun _ _ => ?_, fun fault hfault =>
      ⟨hgrown.encloses, isTupleLimit_of_checkSize hfault⟩⟩
    refine (ih hgrown hnames fun other hother => ?_).mono (fun _ after hafter => ?_) fun _ _ => id
    · obtain ⟨hdistinct, owner, howner, hsame, hfresh⟩ := hrest other hother
      refine ⟨hdistinct, owner, howner, hsame, fun row hrow => ⟨(hfresh row hrow).1, ?_⟩⟩
      rintro (hheld | ⟨heq, -⟩)
      · exact (hfresh row hrow).2 hheld
      · exact hname (List.mem_map.2 ⟨other, hother, hsame.symm.trans heq⟩)
    · convert hafter using 1
      funext other
      ext row
      by_cases heq : other = predicate.name
      · subst heq
        have hnone : RowsByName.rowsOf rest predicate.name = ∅ := by
          refine Set.eq_empty_iff_forall_notMem.2 fun row hrow => ?_
          obtain ⟨found, hfound, -⟩ := hrow
          exact hname (List.mem_map.2 ⟨_, hfound, rfl⟩)
        simp [RowsByName.rowsOf_cons_self hname, hnone]
      · simp [RowsByName.rowsOf_cons_of_ne heq, heq]

/-- The members absorb the rows of a round that are new to them. -/
theorem ensures_absorb_lists (hmembers : (predicates.map Predicate.name).Nodup)
    (h : Growing outer predicates X D workspace) {rows : RowsByName} {S : Predicate → Set Row}
    (hrows : rows.Lists predicates S)
    (hnew : ∀ predicate ∈ predicates, ∀ row ∈ S predicate, row ∉ X predicate.name) :
    (absorb context rows).Ensures workspace
      (fun _ after => Growing outer predicates (X ⊔ rows.rowsOf) D after)
      fun fault after => outer.Encloses after ∧ fault.IsTupleLimit := by
  refine ensures_absorb hmembers h hrows.nodup fun entry hentry => ?_
  obtain ⟨hnodup, -, predicate, hmem, hname, hlength⟩ := hrows.each entry hentry
  refine ⟨hnodup, predicate, hmem, hname, fun row hrow => ⟨hlength row hrow, ?_⟩⟩
  have hlisted : row ∈ rows.rowsOf predicate.name := ⟨entry.2, by rw [hname]; exact hentry, hrow⟩
  rw [hrows.mem predicate hmem] at hlisted
  exact hnew predicate hmem row hlisted

end Evaluation

end Stratalog
