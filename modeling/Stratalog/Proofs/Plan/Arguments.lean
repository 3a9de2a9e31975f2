import Stratalog.Proofs.Relation.Join
import Stratalog.Proofs.Relation.Sorted
import Stratalog.Proofs.Semantics.Body

/-!
# Arguments as slots

Against a list of bound variables every argument of an atom becomes a slot: part of the join key,
a new column, a repeat of an earlier argument, or nothing to check. Slot by slot the row of
bindings and the row of the relation agree, and the new columns carry the values of the new
variables, exactly when the atom matches the row under the assignment.
-/

namespace Stratalog

namespace Evaluation

/-- What a slot asks of a row of bindings and a row of the relation. -/
def SlotAgrees (left right : Row) : ArgSlot × Nat → Prop
  | (.const value, i) => right.cell i = value
  | (.bound column, i) => right.cell i = left.cell column
  | (.same first, i) => right.cell i = right.cell first
  | (.fresh, _) | (.wildcard, _) => True

/-- The keys agree and repeats repeat exactly when every slot agrees. -/
theorem forall_slotAgrees_iff {args : List ArgSlot} {left right : Row} :
    (∀ slot ∈ args.zipIdx, SlotAgrees left right slot) ↔
      right.pick ((keyColumns args).map Prod.snd) = leftKey ((keyColumns args).map Prod.fst) left ∧
        repeats args.zipIdx right = true := by
  unfold keyColumns
  generalize args.zipIdx = slots
  induction slots with
  | nil => simp [Row.pick, leftKey, repeats]
  | cons slot rest ih =>
    obtain ⟨slot, i⟩ := slot
    rw [List.forall_mem_cons, ih]
    cases slot with
    | const value => simp [SlotAgrees, Row.pick, leftKey, KeyPart.read, repeats, and_assoc]
    | bound column => simp [SlotAgrees, Row.pick, leftKey, KeyPart.read, repeats, and_assoc]
    | fresh => simp [SlotAgrees, Row.pick, leftKey, repeats]
    | same first => simp [SlotAgrees, Row.pick, leftKey, repeats, and_left_comm]
    | wildcard => simp [SlotAgrees, Row.pick, leftKey, repeats]

end Evaluation

/-- The variables among terms that are neither bound nor seen, each once. -/
def newVars (vars : List String) (seen : List (String × Nat)) (terms : List Term) : List String :=
  ((terms.filterMap Term.var?).filter fun name =>
    !vars.contains name && (seen.lookup name).isNone).eraseDups

/-- The variables that an atom binds are the new ones among its arguments. -/
theorem freshVars_eq_newVars (plan : Plan) (terms : List Term) :
    freshVars plan terms = newVars plan.vars [] terms := by
  simp [freshVars, newVars, Plan.binds]

/-- A new variable is one of the terms and is not bound. -/
theorem mem_newVars {vars : List String} {terms : List Term} {name : String} :
    name ∈ newVars vars [] terms ↔ Term.var name ∈ terms ∧ name ∉ vars := by
  have hvar : (∃ term ∈ terms, term.var? = some name) ↔ Term.var name ∈ terms := by
    constructor
    · rintro ⟨term, hterm, heq⟩
      cases term <;> simp [Term.var?] at heq
      exact heq ▸ hterm
    · exact fun hterm => ⟨_, hterm, rfl⟩
  rw [newVars, List.mem_eraseDups, List.mem_filter, List.mem_filterMap, hvar]
  simp

/-- The new variables are listed once. -/
theorem nodup_newVars (vars : List String) (seen : List (String × Nat)) (terms : List Term) :
    (newVars vars seen terms).Nodup :=
  nodup_eraseDups _

/-- The new variables stand beside the bound ones without repeats. -/
theorem nodup_append_newVars {vars : List String} (hvars : vars.Nodup) (terms : List Term) :
    (vars ++ newVars vars [] terms).Nodup := by
  rw [List.nodup_append]
  refine ⟨hvars, nodup_newVars vars [] terms, fun a ha b hb => ?_⟩
  rintro rfl
  exact (mem_newVars.1 hb).2 ha

/-- A variable that occurs for the first time is the first new one. -/
theorem newVars_cons_new {vars : List String} {seen : List (String × Nat)} {name : String}
    {terms : List Term} (position : Nat) (hvars : name ∉ vars) (hseen : seen.lookup name = none) :
    newVars vars seen (.var name :: terms) =
      name :: newVars vars ((name, position) :: seen) terms := by
  have hkeep : (!vars.contains name && (seen.lookup name).isNone) = true := by
    simp [hvars, hseen]
  rw [newVars, List.filterMap_cons_some (by rfl), List.filter_cons, if_pos hkeep,
    List.eraseDups_cons, List.filter_filter, newVars]
  congr 2
  refine List.filter_congr fun other _ => ?_
  by_cases h : other = name
  · subst h
    simp
  · have hne : (other == name) = false := by simpa using h
    simp [List.lookup_cons, hne]

/-- A variable that is bound or was seen is not new. -/
theorem newVars_cons_old {vars : List String} {seen : List (String × Nat)} {name : String}
    {terms : List Term} (h : name ∈ vars ∨ (seen.lookup name).isSome) :
    newVars vars seen (.var name :: terms) = newVars vars seen terms := by
  have hdrop : ¬(!vars.contains name && (seen.lookup name).isNone) = true := by
    rcases h with h | h
    · simp [h]
    · cases hlookup : seen.lookup name <;> simp_all
  rw [newVars, List.filterMap_cons_some (by rfl), List.filter_cons, if_neg hdrop, newVars]

/-- A term other than a variable brings no new variable. -/
theorem newVars_cons_other {vars : List String} {seen : List (String × Nat)} {term : Term}
    {terms : List Term} (h : term.var? = none) :
    newVars vars seen (term :: terms) = newVars vars seen terms := by
  rw [newVars, List.filterMap_cons_none h, newVars]

open Evaluation in
/-- A fresh slot contributes the cell at its position. -/
theorem freshCells_cons_fresh (position : Nat) (slots : List (ArgSlot × Nat)) (right : Row) :
    freshCells ((.fresh, position) :: slots) right =
      right.cell position :: freshCells slots right :=
  rfl

/-- What was seen stays true to the row when a variable is seen whose value the row has. -/
theorem seen_cons {σ : Assignment} {right : Row} {seen : List (String × Nat)} {name : String}
    {position : Nat} (hseen : ∀ name first, seen.lookup name = some first → right.cell first = σ name)
    (hcell : right.cell position = σ name) : ∀ other first,
      ((name, position) :: seen).lookup other = some first → right.cell first = σ other := by
  intro other first hfirst
  rw [List.lookup_cons] at hfirst
  split at hfirst
  next heq =>
    obtain rfl : other = name := by simpa using heq
    cases hfirst
    exact hcell
  next => exact hseen other first hfirst

open Evaluation in
/-- Slots agree and new columns carry the values of the new variables exactly when every term
agrees with its cell. Variables seen at earlier positions have the values found there. -/
theorem slotAgrees_and_freshCells_iff {vars : List String} {σ : Assignment} {right : Row}
    {position : Nat} {seen : List (String × Nat)} {terms : List Term}
    (hseen : ∀ name first, seen.lookup name = some first → right.cell first = σ name) :
    ((∀ slot ∈ (argSlotsFrom vars.idxOf? position seen terms).zipIdx position,
        SlotAgrees (vars.map σ) right slot) ∧
      freshCells ((argSlotsFrom vars.idxOf? position seen terms).zipIdx position) right =
        (newVars vars seen terms).map σ) ↔
      ∀ entry ∈ terms.zipIdx position, entry.1.Agrees σ (right.cell entry.2) := by
  induction terms generalizing position seen with
  | nil => simp [argSlotsFrom, freshCells, newVars]
  | cons term terms ih =>
    rw [List.zipIdx_cons, List.forall_mem_cons]
    cases term with
    | const value =>
      rw [newVars_cons_other (by rfl), argSlotsFrom, List.zipIdx_cons, List.forall_mem_cons,
        ← ih hseen, and_assoc]
      exact and_congr eq_comm Iff.rfl
    | wildcard =>
      rw [newVars_cons_other (by rfl), argSlotsFrom, List.zipIdx_cons, List.forall_mem_cons,
        ← ih hseen, and_assoc]
      exact and_congr Iff.rfl Iff.rfl
    | var name =>
      cases hlayout : vars.idxOf? name with
      | some column =>
        have hvars : name ∈ vars := List.isSome_idxOf?.1 (by simp [hlayout])
        rw [newVars_cons_old (Or.inl hvars), argSlotsFrom, hlayout]
        simp only [List.zipIdx_cons, List.forall_mem_cons]
        rw [← ih hseen, and_assoc]
        refine and_congr ?_ Iff.rfl
        rw [SlotAgrees, Assignment.cell_map_of_idxOf σ hlayout, Term.Agrees, eq_comm]
      | none =>
        have hvars : name ∉ vars := by simpa using hlayout
        cases hlookup : seen.lookup name with
        | some first =>
          rw [newVars_cons_old (Or.inr (by simp [hlookup])), argSlotsFrom, hlayout, hlookup]
          simp only [List.zipIdx_cons, List.forall_mem_cons]
          rw [← ih hseen, and_assoc]
          refine and_congr ?_ Iff.rfl
          rw [SlotAgrees, hseen name first hlookup, Term.Agrees, eq_comm]
        | none =>
          rw [newVars_cons_new position hvars hlookup, argSlotsFrom, hlayout, hlookup]
          simp only [List.zipIdx_cons, List.forall_mem_cons]
          rw [freshCells_cons_fresh, List.map_cons, List.cons.injEq]
          constructor
          · rintro ⟨⟨-, hslots⟩, hcell, hfresh⟩
            exact ⟨hcell.symm, (ih (seen_cons hseen hcell)).1 ⟨hslots, hfresh⟩⟩
          · rintro ⟨hcell, hrest⟩
            obtain ⟨hslots, hfresh⟩ := (ih (seen_cons hseen hcell.symm)).2 hrest
            exact ⟨⟨trivial, hslots⟩, hcell.symm, hfresh⟩

/-- Terms agree with the cells of a row as wide when the row matches. -/
theorem forall_zipIdx_agrees_iff {σ : Assignment} {terms : List Term} {right : Row}
    (hlength : right.length = terms.length) :
    (∀ entry ∈ terms.zipIdx, entry.1.Agrees σ (right.cell entry.2)) ↔
      List.Forall₂ (Term.Agrees σ) terms right := by
  rw [List.forall₂_iff_get]
  constructor
  · refine fun h => ⟨hlength.symm, fun i hi hi' => ?_⟩
    have hentry := h (terms[i], i) (by rw [List.mem_zipIdx_iff_getElem?]; simp [hi])
    simpa [Row.cell, hi'] using hentry
  · rintro ⟨-, h⟩ ⟨term, i⟩ hmem
    rw [List.mem_zipIdx_iff_getElem?] at hmem
    obtain ⟨hi, hterm⟩ := List.getElem?_eq_some_iff.1 hmem
    have hi' : i < right.length := hlength ▸ hi
    have hentry := h i hi hi'
    rw [List.get_eq_getElem, hterm] at hentry
    simpa [Row.cell, hi'] using hentry

open Evaluation in
/-- Bindings join with a row of the relation, and give the bindings of all variables, exactly when
the terms match the row. -/
theorem extendRow_iff_forall₂ {vars : List String} {σ : Assignment} {terms : List Term}
    {right : Row} (hlength : right.length = terms.length) :
    (right.pick ((keyColumns (argSlots vars.idxOf? terms)).map Prod.snd) =
        leftKey ((keyColumns (argSlots vars.idxOf? terms)).map Prod.fst) (vars.map σ) ∧
      extendRow (argSlots vars.idxOf? terms).zipIdx (vars.map σ) right =
        some ((vars ++ newVars vars [] terms).map σ)) ↔
      List.Forall₂ (Term.Agrees σ) terms right := by
  have hslots : ((∀ slot ∈ (argSlotsFrom vars.idxOf? 0 [] terms).zipIdx,
      SlotAgrees (vars.map σ) right slot) ∧
        freshCells (argSlotsFrom vars.idxOf? 0 [] terms).zipIdx right =
          (newVars vars [] terms).map σ) ↔
      ∀ entry ∈ terms.zipIdx, entry.1.Agrees σ (right.cell entry.2) :=
    slotAgrees_and_freshCells_iff (by simp)
  rw [← forall_zipIdx_agrees_iff hlength, ← hslots, ← argSlots, forall_slotAgrees_iff, extendRow,
    and_assoc]
  refine and_congr_right fun _ => ?_
  split
  next h => simp [h]
  next h => simp [h]

open Evaluation in
/-- A row of the relation gives one cell for each new variable. -/
theorem length_freshCells {vars : List String} {right : Row} {position : Nat}
    {seen : List (String × Nat)} {terms : List Term} :
    (freshCells ((argSlotsFrom vars.idxOf? position seen terms).zipIdx position) right).length =
      (newVars vars seen terms).length := by
  induction terms generalizing position seen with
  | nil => simp [argSlotsFrom, freshCells, newVars]
  | cons term terms ih =>
    cases term with
    | const value =>
      rw [newVars_cons_other (by rfl), ← ih, argSlotsFrom, List.zipIdx_cons]
      rfl
    | wildcard =>
      rw [newVars_cons_other (by rfl), ← ih, argSlotsFrom, List.zipIdx_cons]
      rfl
    | var name =>
      cases hlayout : vars.idxOf? name with
      | some column =>
        have hvars : name ∈ vars := List.isSome_idxOf?.1 (by simp [hlayout])
        rw [newVars_cons_old (Or.inl hvars), ← ih, argSlotsFrom, hlayout]
        rfl
      | none =>
        have hvars : name ∉ vars := by simpa using hlayout
        cases hlookup : seen.lookup name with
        | some first =>
          rw [newVars_cons_old (Or.inr (by simp [hlookup])), ← ih, argSlotsFrom, hlayout, hlookup]
          rfl
        | none =>
          rw [newVars_cons_new position hvars hlookup, List.length_cons, ← ih, argSlotsFrom,
            hlayout, hlookup]
          rfl

/-- There is one slot per argument. -/
@[simp] theorem length_argSlotsFrom (layout : Layout) (position : Nat)
    (seen : List (String × Nat)) (terms : List Term) :
    (argSlotsFrom layout position seen terms).length = terms.length := by
  induction terms generalizing position seen with
  | nil => rfl
  | cons term terms ih =>
    cases term with
    | const value => simp [argSlotsFrom, ih]
    | wildcard => simp [argSlotsFrom, ih]
    | var name =>
      rw [argSlotsFrom]
      split <;> simp [ih]

/-- Slots refer to bound columns and to earlier arguments only. -/
theorem fits_argSlotsFrom {vars : List String} {position arity : Nat}
    {seen : List (String × Nat)} {terms : List Term} (harity : position + terms.length ≤ arity)
    (hseen : ∀ name first, seen.lookup name = some first → first < arity) :
    ∀ slot ∈ argSlotsFrom vars.idxOf? position seen terms, slot.fits vars.length arity = true := by
  induction terms generalizing position seen with
  | nil => simp [argSlotsFrom]
  | cons term terms ih =>
    rw [List.length_cons] at harity
    have hrest : ∀ slot ∈ argSlotsFrom vars.idxOf? (position + 1) seen terms,
        slot.fits vars.length arity = true := ih (by omega) hseen
    cases term with
    | const value =>
      rw [argSlotsFrom, List.forall_mem_cons]
      exact ⟨rfl, hrest⟩
    | wildcard =>
      rw [argSlotsFrom, List.forall_mem_cons]
      exact ⟨rfl, hrest⟩
    | var name =>
      rw [argSlotsFrom]
      split
      next column hlayout =>
        have hcolumn : column < vars.length := (List.idxOf?_eq_some_iff.1 hlayout).1
        rw [List.forall_mem_cons]
        exact ⟨by simpa [ArgSlot.fits] using hcolumn, hrest⟩
      next first _ hlookup =>
        rw [List.forall_mem_cons]
        exact ⟨by simpa [ArgSlot.fits] using hseen name first hlookup, hrest⟩
      next =>
        rw [List.forall_mem_cons]
        refine ⟨rfl, ih (by omega) fun other first hfirst => ?_⟩
        rw [List.lookup_cons] at hfirst
        split at hfirst
        · cases hfirst
          omega
        · exact hseen other first hfirst

/-- A slot is a wildcard exactly where an argument is. -/
theorem wildcard_mem_argSlotsFrom {layout : Layout} {position : Nat} {seen : List (String × Nat)}
    {terms : List Term} :
    ArgSlot.wildcard ∈ argSlotsFrom layout position seen terms ↔ Term.wildcard ∈ terms := by
  induction terms generalizing position seen with
  | nil => simp [argSlotsFrom]
  | cons term terms ih =>
    cases term with
    | const value => simp [argSlotsFrom, ih]
    | wildcard => simp [argSlotsFrom]
    | var name =>
      rw [argSlotsFrom]
      split <;> simp [ih]

/-- A slot repeats an earlier argument only where a variable is not bound. -/
theorem same_not_mem_argSlotsFrom {vars : List String} {position first : Nat}
    {seen : List (String × Nat)} {terms : List Term}
    (hbound : ∀ name, Term.var name ∈ terms → name ∈ vars) :
    ArgSlot.same first ∉ argSlotsFrom vars.idxOf? position seen terms := by
  induction terms generalizing position seen with
  | nil => simp [argSlotsFrom]
  | cons term terms ih =>
    have hrest : ∀ name, Term.var name ∈ terms → name ∈ vars := fun name hname =>
      hbound name (List.mem_cons_of_mem _ hname)
    cases term with
    | const value => simp [argSlotsFrom, ih hrest]
    | wildcard => simp [argSlotsFrom, ih hrest]
    | var name =>
      obtain ⟨column, hcolumn⟩ := Option.isSome_iff_exists.1
        (List.isSome_idxOf?.2 (hbound name List.mem_cons_self))
      rw [argSlotsFrom, hcolumn]
      simp [ih hrest]

open Evaluation in
/-- Where all variables are bound the keys alone say whether the terms match a row. -/
theorem keys_iff_forall₂ {vars : List String} {σ : Assignment} {terms : List Term} {right : Row}
    (hlength : right.length = terms.length)
    (hbound : ∀ name, Term.var name ∈ terms → name ∈ vars) :
    right.pick ((keyColumns (argSlots vars.idxOf? terms)).map Prod.snd) =
        leftKey ((keyColumns (argSlots vars.idxOf? terms)).map Prod.fst) (vars.map σ) ↔
      List.Forall₂ (Term.Agrees σ) terms right := by
  refine Iff.trans ⟨fun hkey => ⟨hkey, ?_⟩, And.left⟩ (extendRow_iff_forall₂ hlength)
  have hnew : newVars vars [] terms = [] := by
    refine List.eq_nil_iff_forall_not_mem.2 fun name hname => ?_
    obtain ⟨hmem, hvars⟩ := mem_newVars.1 hname
    exact hvars (hbound name hmem)
  have hcells : freshCells (argSlots vars.idxOf? terms).zipIdx right = [] := by
    refine List.length_eq_zero_iff.1 ?_
    rw [argSlots, length_freshCells, hnew, List.length_nil]
  have hrepeats : repeats (argSlots vars.idxOf? terms).zipIdx right = true := by
    rw [repeats, List.all_eq_true]
    rintro ⟨slot, i⟩ hslot
    have hmem : slot ∈ argSlots vars.idxOf? terms := List.fst_mem_of_mem_zipIdx hslot
    cases slot with
    | same first => exact absurd hmem (same_not_mem_argSlotsFrom hbound)
    | _ => rfl
  rw [extendRow, if_pos hrepeats, hcells, hnew, List.append_nil, List.append_nil]

/-- Where no term is a wildcard at most one row matches under an assignment. -/
theorem forall₂_agrees_unique {σ : Assignment} {terms : List Term} {first second : Row}
    (hwild : Term.wildcard ∉ terms) (hfirst : List.Forall₂ (Term.Agrees σ) terms first)
    (hsecond : List.Forall₂ (Term.Agrees σ) terms second) : first = second := by
  induction hfirst generalizing second with
  | nil =>
    cases hsecond
    rfl
  | @cons term value terms rest hvalue hrest ih =>
    obtain ⟨hne, hwild⟩ : term ≠ .wildcard ∧ Term.wildcard ∉ terms := by
      simpa [eq_comm, not_or] using hwild
    cases hsecond with
    | cons hother hothers =>
      rw [ih hwild hothers]
      cases term with
      | var name => rw [← show σ name = value from hvalue, ← show σ name = _ from hother]
      | const constant =>
        rw [← show constant = value from hvalue, ← show constant = _ from hother]
      | wildcard => exact absurd rfl hne

end Stratalog
