import Stratalog.Proofs.Plan.Fold
import Stratalog.Proofs.Typing.Environment
import Stratalog.Proofs.Workspace.Frame

/-!
# What a step does

Started from a table that lists a property, a step ends in a table that lists a stronger one, or
fails because a table grew too large or a relation could not be read. Either way the workspace is
kept: relations change in their indices only, and no index out of range was used.
-/

namespace Stratalog

/-- Whether a fault says that a table grew larger than allowed. -/
def Fault.IsTupleLimit : Fault → Prop
  | .resourceExhausted (.join ..) | .resourceExhausted (.size ..) => True
  | _ => False

namespace Workspace

/-- The faults that reading some predicates can lead to: a table is too large, or one of them
cannot be read. -/
def Refuses (workspace : Workspace) (names : List String) (fault : Fault) : Prop :=
  fault.IsTupleLimit ∨ ∃ name ∈ names, ∃ delta, workspace.read name delta = .error fault

/-- Counting leaves everything else alone. -/
theorem Kept.counted {before after : Workspace} (h : before.Kept after) (counters : Counters) :
    before.Kept { after with counters } :=
  ⟨⟨h.agrees.base, h.agrees.slots, h.agrees.growing, h.agrees.delta⟩,
    ⟨h.coherent.base, h.coherent.slots, h.coherent.growing, h.coherent.delta⟩, h.inBounds⟩

/-- Putting a relation back into a kept workspace keeps it. -/
theorem Kept.keep {before after : Workspace} (h : before.Kept after) {name : String}
    {delta : Bool} {relation held : Relation} (hread : after.read name delta = .ok relation)
    (hbare : held.bare = relation.bare) (hheld : held.Coherent) :
    before.Kept (after.keep name delta held) :=
  h.trans (kept_keep h.coherent hread hbare hheld)

end Workspace

namespace Evaluation

open Eval

variable {context : Context} {workspace start : Workspace}

/-- Noting that indices are within range changes nothing. -/
theorem ensures_noteBounds {fits : Bool} (hfits : fits = true) {answered : Unit → Workspace → Prop}
    {failed : Fault → Workspace → Prop} (h : answered () workspace) :
    (noteBounds fits).Ensures workspace answered failed := by
  subst hfits
  unfold noteBounds
  rw [ensures_modify, Bool.and_true]
  exact h

/-- Checking a size fails with a tuple limit only. -/
theorem isTupleLimit_of_checkSize {size : Nat} {name : String} {fault : Fault}
    (h : context.checkSize size name = .error fault) : fault.IsTupleLimit := by
  unfold Context.checkSize at h
  split at h
  · cases h
    trivial
  · cases h

variable {table : BindingTable} {P : Assignment → Prop} {relation : Relation} {terms : List Term}

/-- The arguments of an atom as wide as its relation refer to existing columns and rows. -/
theorem argsFit_argSlots (h : table.Lists P) (hrelation : relation.Coherent)
    (hlength : ∀ r ∈ relation.rows, r.length = terms.length) :
    argsFit table.rows relation (argSlots table.vars.idxOf? terms) = true := by
  simp only [argsFit, argSlots, length_argSlotsFrom, Bool.and_eq_true, List.all_eq_true,
    decide_eq_true_eq]
  refine ⟨⟨fun row hrow slot hslot => ?_, fun r hr => (hlength r hr).ge⟩, hrelation.indicesFit⟩
  rw [h.length row hrow]
  exact fits_argSlotsFrom (Nat.zero_add _).le (by simp) slot hslot

/-- Joining an atom lists the bindings for which some row of its relation matches. -/
theorem ensures_joinAtom (h : table.Lists P)
    (hrelation : relation.Coherent) (hnodup : relation.rows.Nodup)
    (hlength : ∀ r ∈ relation.rows, r.length = terms.length)
    {keep : Relation → Workspace → Workspace}
    (hkeep : ∀ held, held.bare = relation.bare → held.Coherent → start.Kept (keep held workspace)) :
    (joinAtom context table.rows relation (argSlots table.vars.idxOf? terms) keep).Ensures workspace
      (fun rows after => start.Kept after ∧
        (⟨table.vars ++ newVars table.vars [] terms, rows⟩ : BindingTable).Lists
          fun σ => P σ ∧ ∃ r ∈ relation.rows, List.Forall₂ (Term.Agrees σ) terms r)
      fun fault after => start.Kept after ∧ fault.IsTupleLimit := by
  unfold joinAtom
  rw [ensures_bind]
  refine ensures_noteBounds (argsFit_argSlots h hrelation hlength) ?_
  have hright : (table.joined relation terms context.settings.maxTuples).right = relation ∨
      ∃ columns, (table.joined relation terms context.settings.maxTuples).right =
        (relation.index columns).2 :=
    (joinRows_right _ _ _ _ _ _).imp id fun heq => ⟨_, heq⟩
  have hlists := h.join context.settings.maxTuples hrelation hnodup hlength
  unfold BindingTable.joined at hright hlists
  dsimp only
  generalize joinThrough table.rows relation (argSlots table.vars.idxOf? terms)
    context.settings.maxTuples = result at hright hlists ⊢
  rw [ensures_bind, ensures_modify]
  have hkept : start.Kept { keep result.right workspace with
      counters := workspace.counters.countJoin result.report.cartesian } := by
    refine Workspace.Kept.counted ?_ _
    rcases hright with heq | ⟨columns, heq⟩
    · exact hkeep _ (by rw [heq]) (by rw [heq]; exact hrelation)
    · exact hkeep _ (by rw [heq, Relation.bare_index]) (by rw [heq]; exact hrelation.snd_index _)
  by_cases htruncated : result.report.truncated = true
  · rw [if_pos htruncated, ensures_bind, ensures_throw]
    exact ⟨hkept, trivial⟩
  · rw [if_neg htruncated]
    simp only [ensures_bind, ensures_lift, ensures_pure]
    refine ⟨fun _ _ => ⟨hkept, hlists (by simpa using htruncated)⟩, fun fault hfault => ?_⟩
    exact ⟨hkept, isTupleLimit_of_checkSize hfault⟩

/-- Started from any workspace that keeps the given one, an evaluation ends in a table that lists a
property, or in a fault that reading the named predicates can lead to. -/
def Yields (start : Workspace) (names : List String) (evaluation : Eval (List Row))
    (vars : List String) (P : Assignment → Prop) : Prop :=
  ∀ workspace, start.Kept workspace → evaluation.Ensures workspace
    (fun rows after => start.Kept after ∧ (⟨vars, rows⟩ : BindingTable).Lists P)
    fun fault after => start.Kept after ∧ start.Refuses names fault

variable {names : List String} {catalog : Catalog} {rows : List Row} {vars : List String}
  {Q : Assignment → Prop}

/-- An evaluation yields equivalent properties alike. -/
theorem Yields.congr {evaluation : Eval (List Row)} (h : Yields start names evaluation vars P)
    (hiff : ∀ σ, P σ ↔ Q σ) : Yields start names evaluation vars Q :=
  fun workspace hkept => (h workspace hkept).mono
    (fun _ _ hrows => ⟨hrows.1, hrows.2.congr hiff⟩) fun _ _ => id

/-- Reading in a kept workspace gives what the predicate denotes, or a fault that was to be
expected. -/
theorem ensures_read (hconforms : start.Conforms catalog) (hkept : start.Kept workspace)
    {name : String} (hname : name ∈ names) (delta : Bool)
    {answered : Relation → Workspace → Prop} {failed : Fault → Workspace → Prop}
    (hok : ∀ relation, workspace.read name delta = .ok relation → relation.Coherent →
      relation.rows.Nodup →
      (∀ schema, catalog name = some schema → ∀ row ∈ relation.rows, row.length = schema.arity) →
      (∀ row, row ∈ relation.rows ↔ row ∈ start.denotes delta name) → answered relation workspace)
    (herror : ∀ fault, start.Refuses names fault → failed fault workspace) :
    (liftM (workspace.read name delta) : Eval Relation).Ensures workspace answered failed := by
  rw [ensures_lift]
  constructor
  · intro relation hread
    obtain ⟨hnodup, hlength⟩ := hkept.agrees.conforms hconforms name delta relation hread
    refine hok relation hread (hkept.coherent.read hread) hnodup hlength fun row => ?_
    rw [← hkept.agrees.denotes]
    constructor
    · exact fun hrow => ⟨relation, hread, hrow⟩
    · rintro ⟨other, hother, hrow⟩
      rw [hread] at hother
      cases hother
      exact hrow
  · exact fun fault hread => herror fault (Or.inr ⟨name, hname, delta, hkept.agrees.read_error hread⟩)

/-- A join step lists the bindings for which the atom holds. -/
theorem yields_join (hconforms : start.Conforms catalog)
    (h : (⟨vars, rows⟩ : BindingTable).Lists P) {atom : Atom} (hfits : atom.Fits catalog)
    (hname : atom.predicate ∈ names) (delta : Bool) :
    Yields start names
      (runStep context rows (.join atom.predicate delta (argSlots vars.idxOf? atom.args)))
      (vars ++ newVars vars [] atom.args)
      fun σ => P σ ∧ ∃ row ∈ start.denotes delta atom.predicate, atom.Matches σ row := by
  intro workspace hkept
  obtain ⟨schema, hschema, harity⟩ := hfits
  rw [runStep]
  simp only [ensures_bind, ensures_get]
  refine ensures_read hconforms hkept hname delta
    (fun relation hread hcoherent hnodup hlength hmem => ?_)
    fun fault hfault => ⟨hkept, hfault⟩
  refine (ensures_joinAtom h hcoherent hnodup (fun r hr => ?_) fun held hbare hheld => ?_).mono
    (fun _ after hrows => ⟨hrows.1, hrows.2.congr fun σ => ?_⟩)
      fun _ _ hfault => ⟨hfault.1, Or.inl hfault.2⟩
  · rw [hlength schema hschema r hr, harity]
  · exact hkept.keep hread hbare hheld
  · simp only [hmem]
    rfl

/-- A negation step lists the bindings for which the atom does not hold. -/
theorem yields_negate (hconforms : start.Conforms catalog)
    (h : (⟨vars, rows⟩ : BindingTable).Lists P) {atom : Atom} (hfits : atom.Fits catalog)
    (hname : atom.predicate ∈ names) (hbound : ∀ name ∈ atom.vars, name ∈ vars) :
    Yields start names
      (runStep context rows (.negate atom.predicate (argSlots vars.idxOf? atom.args))) vars
      fun σ => P σ ∧ ¬∃ row ∈ start.denotes false atom.predicate, atom.Matches σ row := by
  intro workspace hkept
  obtain ⟨schema, hschema, harity⟩ := hfits
  rw [runStep, rejectAtom]
  simp only [ensures_bind, ensures_get]
  refine ensures_read hconforms hkept hname false
    (fun relation hread hcoherent hnodup hlength hmem => ?_)
    fun fault hfault => ⟨hkept, hfault⟩
  have hwidth : ∀ r ∈ relation.rows, r.length = atom.args.length := fun r hr => by
    rw [hlength schema hschema r hr, harity]
  refine ensures_noteBounds (argsFit_argSlots h hcoherent hwidth) ?_
  have hreject := h.reject hcoherent hwidth fun name hmem => hbound name
    (List.mem_filterMap.2 ⟨_, hmem, rfl⟩)
  have hright := antijoinRows_right rows
    ((keyColumns (argSlots vars.idxOf? atom.args)).map Prod.fst) relation
    ((keyColumns (argSlots vars.idxOf? atom.args)).map Prod.snd)
  dsimp only at hreject ⊢
  generalize antijoinRows rows ((keyColumns (argSlots vars.idxOf? atom.args)).map Prod.fst) relation
    ((keyColumns (argSlots vars.idxOf? atom.args)).map Prod.snd) = result at hreject hright ⊢
  rw [ensures_modify, ensures_pure]
  refine ⟨?_, hreject.congr fun σ => ?_⟩
  · rcases hright with heq | heq
    · exact hkept.keep hread (by rw [heq]) (by rw [heq]; exact hcoherent)
    · exact hkept.keep hread (by rw [heq, Relation.bare_index])
        (by rw [heq]; exact hcoherent.snd_index _)
  · simp only [hmem]
    rfl

/-- A filter step lists the bindings that pass the test. -/
theorem yields_filter (h : (⟨vars, rows⟩ : BindingTable).Lists P) {test : RowTest}
    (hfits : test.fits vars.length = true)
    (htest : ∀ σ, test.holds context.entities.render (vars.map σ) = true ↔ Q σ) :
    Yields start names (runStep context rows (.filter test)) vars fun σ => P σ ∧ Q σ := by
  intro workspace hkept
  rw [runStep]
  simp only [ensures_bind, ensures_pure]
  have hall : (rows.all fun row => test.fits row.length) = true := by
    rw [List.all_eq_true]
    intro row hrow
    rw [h.length row hrow]
    exact hfits
  exact ensures_noteBounds hall ⟨hkept, h.filter htest⟩

/-- A binding step lists the bindings that give the value of the expression to the variable. -/
theorem yields_bind (h : (⟨vars, rows⟩ : BindingTable).Lists P) {var : String} (hvar : var ∉ vars)
    {expr : Expr} {compiled : SlotExpr} (hcompile : SlotExpr.compile vars.idxOf? expr = .ok compiled) :
    Yields start names (runStep context rows (.bind compiled)) (vars ++ [var])
      fun σ => P σ ∧ expr.value context.entities.render σ = some (σ var) := by
  intro workspace hkept
  rw [runStep]
  simp only [ensures_bind, ensures_pure]
  have hall : (rows.all fun row => compiled.fits row.length) = true := by
    rw [List.all_eq_true]
    intro row hrow
    rw [h.length row hrow]
    exact SlotExpr.fits_compile (fun _ _ hfound => (List.idxOf?_eq_some_iff.1 hfound).1) hcompile
  exact ensures_noteBounds hall
    ⟨hkept, h.bind hvar fun σ => SlotExpr.eval_compile_map _ hcompile σ⟩

/-- Variables match a row when it holds their values. -/
theorem forall₂_var_iff {σ : Assignment} {names : List String} {row : Row} :
    List.Forall₂ (Term.Agrees σ) (names.map Term.var) row ↔ row = names.map σ := by
  induction names generalizing row with
  | nil => simp
  | cons name rest ih =>
    rw [List.map_cons, List.map_cons, List.forall₂_cons_left_iff]
    constructor
    · rintro ⟨value, others, hvalue, hothers, rfl⟩
      rw [ih.1 hothers, ← show σ name = value from hvalue]
    · rintro rfl
      exact ⟨_, _, rfl, ih.2 rfl, rfl⟩

/-- The keys and the target of an aggregate refer to columns of its table. -/
theorem foldFits_compile {inner : Plan} {result : String} {groupBy : List String} {keys : List Nat}
    {target : Option Expr} {compiled : Option SlotExpr}
    (h : (⟨inner.vars, rows⟩ : BindingTable).Lists Q)
    (hkeys : inner.groupColumns result groupBy = .ok keys)
    (htarget : inner.compileTarget target = .ok compiled) : foldFits rows keys compiled = true := by
  simp only [foldFits, List.all_eq_true, Bool.and_eq_true, decide_eq_true_eq]
  intro row hrow
  rw [h.length row hrow]
  refine ⟨lt_of_mem_groupColumns hkeys, ?_⟩
  cases target with
  | none =>
    cases htarget
    rfl
  | some expr =>
    obtain ⟨slots, hslots, rfl⟩ := map_eq_ok.1 htarget
    exact SlotExpr.fits_compile (fun _ _ hfound => (List.idxOf?_eq_some_iff.1 hfound).1) hslots

/-- A fold step lists the bindings for which the aggregate over the inner table holds. -/
theorem yields_fold (h : (⟨vars, rows⟩ : BindingTable).Lists P) {inner : Plan} {result : String}
    {groupBy : List String} {keys : List Nat} {target : Option Expr} {compiled : Option SlotExpr}
    (hinner : Yields start names (runSteps context [[]] inner.steps) inner.vars Q)
    (hkeys : inner.groupColumns result groupBy = .ok keys)
    (htarget : inner.compileTarget target = .ok compiled) (label : String)
    (function : FoldFunction) :
    Yields start names
      (runStep context rows (.fold label function inner.steps keys compiled
        (argSlots vars.idxOf? (groupBy.map Term.var ++ [.var result]))))
      (vars ++ newVars vars [] (groupBy.map Term.var ++ [.var result]))
      fun σ => P σ ∧ function.Folds (!groupBy.isEmpty)
        {τ | τ.IsOver inner.vars ∧ Q τ ∧ ∀ name ∈ groupBy, τ name = σ name}
        (fun τ => target.bind (·.value context.entities.render τ)) (σ result) := by
  intro workspace hkept
  rw [runStep, ensures_bind]
  refine (hinner workspace hkept).mono (fun table after htable => ?_) fun _ _ => id
  obtain ⟨hafter, hlists⟩ := htable
  rw [ensures_bind]
  refine ensures_noteBounds (foldFits_compile hlists hkeys htarget) ?_
  have hcoherent : (foldRows context label function keys compiled table).Coherent :=
    Relation.coherent_ofDistinct _ _ _
  have hnodup : (foldRows context label function keys compiled table).rows.Nodup :=
    nodup_foldGroups _ _ _
  have hlength : ∀ r ∈ (foldRows context label function keys compiled table).rows,
      r.length = (groupBy.map Term.var ++ [Term.var result]).length := by
    intro r hr
    rw [length_foldRows hkeys hr]
    simp
  have hmem (σ : Assignment) :
      groupBy.map σ ++ [σ result] ∈ (foldRows context label function keys compiled table).rows ↔
        _ := mem_foldRows hlists hkeys htarget σ
  generalize foldRows context label function keys compiled table = relation
    at hcoherent hnodup hlength hmem ⊢
  refine (ensures_joinAtom h hcoherent hnodup hlength fun _ _ _ => hafter).mono
    (fun _ final hrows => ⟨hrows.1, hrows.2.congr fun σ => and_congr_right fun _ => ?_⟩)
    fun _ _ hfault => ⟨hfault.1, Or.inl hfault.2⟩
  have hterms : groupBy.map Term.var ++ [Term.var result] = (groupBy ++ [result]).map Term.var := by
    simp
  rw [← hmem σ, hterms]
  simp only [forall₂_var_iff, exists_eq_right]
  rw [List.map_append, List.map_singleton]

end Evaluation

end Stratalog
