import Stratalog.Proofs.Relation.Outline
import Stratalog.Proofs.Simulation.Pairs
import Stratalog.Proofs.Workspace.Tally

/-!
# Two workspaces that cannot be told apart

A pairing sets two contexts and two workspaces side by side. What an evaluation may read looks the
same in both: the relations of the names it reads have the same outlines, whatever else the
workspaces hold and whatever indices were built. The second context allows at least as much as the
first, and exactly as much where the comparison is strict.

Workspaces that such evaluations reach are twins. Each still surrounds what it started from, the
relations that grow have the same outlines, both have counted the same, and no checkpoint to come
tells them apart.
-/

namespace Stratalog

namespace Counters

instance : Zero Counters := ⟨{}⟩

/-- Numbers add up one by one. -/
instance : Add Counters where
  add a b := {
    strataEvaluated := a.strataEvaluated + b.strataEvaluated
    predicatesEvaluated := a.predicatesEvaluated + b.predicatesEvaluated
    rounds := a.rounds + b.rounds
    tuplesDerived := a.tuplesDerived + b.tuplesDerived
    joins := a.joins + b.joins
    cartesianJoins := a.cartesianJoins + b.cartesianJoins
    queriesRun := a.queriesRun + b.queriesRun
    queriesFailed := a.queriesFailed + b.queriesFailed }

theorem add_def (a b : Counters) : a + b =
    ⟨a.strataEvaluated + b.strataEvaluated, a.predicatesEvaluated + b.predicatesEvaluated,
      a.rounds + b.rounds, a.tuplesDerived + b.tuplesDerived, a.joins + b.joins,
      a.cartesianJoins + b.cartesianJoins, a.queriesRun + b.queriesRun,
      a.queriesFailed + b.queriesFailed⟩ := rfl

theorem zero_def : (0 : Counters) = ⟨0, 0, 0, 0, 0, 0, 0, 0⟩ := rfl

instance : AddCommMonoid Counters where
  add_assoc a b c := by simp [add_def, Nat.add_assoc]
  zero_add a := by simp [add_def, zero_def]
  add_zero a := by simp [add_def, zero_def]
  add_comm a b := by simp [add_def, Nat.add_comm]
  nsmul := nsmulRec

/-- A join counts on top of what was counted. -/
theorem countJoin_add (before gain : Counters) (cartesian : Bool) :
    (before + gain).countJoin cartesian = before + gain.countJoin cartesian := by
  simp [countJoin, add_def, Nat.add_assoc]

/-- A finished stratum counts on top of what was counted. -/
theorem countStratum_add (before gain : Counters) (predicates rounds derived : Nat) :
    (before + gain).countStratum predicates rounds derived =
      before + gain.countStratum predicates rounds derived := by
  simp [countStratum, add_def, Nat.add_assoc]

end Counters

/-- Whether a context lets an evaluation pass its checkpoint of a number. -/
def Context.Passes (context : Context) (number : Nat) : Prop :=
  (context.noticing (context.observe number)).checkpoint = .ok ()

/-- Whether a context lets an evaluation pass every checkpoint. -/
def Context.IsQuiet (context : Context) : Prop :=
  ∀ number, context.Passes number

/-- A context that allows what either of two settings does, and lets an evaluation pass every
checkpoint. -/
def Context.allowing (entities : EntityTable) (first second : Settings) : Context where
  settings :=
    { maxRounds := max first.maxRounds second.maxRounds
      maxTuples := max first.maxTuples second.maxTuples }
  entities := entities

/-- A workspace that differs from the one around it in the indices of relations, in what grows and
in what is counted. -/
structure Workspace.Surrounds (outer inner : Workspace) : Prop where
  base : ∀ name : String, inner.base[name]?.map Relation.bare = outer.base[name]?.map Relation.bare
  slots : ∀ name : String, inner.slots[name]?.map (Option.map Relation.bare) =
    outer.slots[name]?.map (Option.map Relation.bare)
  coherent : inner.Coherent

/-- A coherent workspace surrounds itself. -/
theorem Workspace.Surrounds.refl {workspace : Workspace} (h : workspace.Coherent) :
    workspace.Surrounds workspace :=
  ⟨fun _ => rfl, fun _ => rfl, h⟩

/-- A workspace surrounds what was kept of one that it surrounds. -/
theorem Workspace.Surrounds.kept {outer inner after : Workspace} (h : outer.Surrounds inner)
    (hkept : inner.Kept after) : outer.Surrounds after :=
  ⟨fun name => (hkept.agrees.base name).trans (h.base name),
    fun name => (hkept.agrees.slots name).trans (h.slots name), hkept.coherent⟩

/-- Two contexts and two workspaces for evaluations that read some names: what they read has the
same outlines, and the second allows at least as much. -/
structure Pairing where
  strict : Prop
  first : Context
  second : Context
  left : Workspace
  right : Workspace
  names : Set String
  entities : second.entities = first.entities
  tuples : first.settings.maxTuples ≤ second.settings.maxTuples
  rounds : first.settings.maxRounds ≤ second.settings.maxRounds
  tuplesStrict : strict → second.settings.maxTuples ≤ first.settings.maxTuples
  roundsStrict : strict → second.settings.maxRounds ≤ first.settings.maxRounds
  base : ∀ name ∈ names,
    right.base[name]?.map Relation.outline = left.base[name]?.map Relation.outline
  slots : ∀ name ∈ names, right.slots[name]?.map (Option.map Relation.outline) =
    left.slots[name]?.map (Option.map Relation.outline)

namespace Pairing

/-- Workspaces reached on both sides, whether evaluations go on from there or not: they still surround
what was started from, as much was counted, and no checkpoint to come tells them apart. -/
structure Kin (p : Pairing) (left right : Workspace) : Prop where
  aroundLeft : p.left.Surrounds left
  aroundRight : p.right.Surrounds right
  gain : ∃ gain, left.counters = p.left.counters + gain ∧ right.counters = p.right.counters + gain
  ahead : ∀ i, p.first.Passes (left.checkpoints + i) → p.second.Passes (right.checkpoints + i)
  behind : p.strict →
    ∀ i, p.second.Passes (right.checkpoints + i) → p.first.Passes (left.checkpoints + i)

/-- Workspaces from which evaluations of a stratum with the given members go on: its members have the
same outlines, and no more rows than the first context allows. -/
structure Twins (p : Pairing) (members : List String) (left right : Workspace) : Prop
    extends p.Kin left right where
  growing : ∀ name : String,
    right.growing[name]?.map Relation.outline = left.growing[name]?.map Relation.outline
  delta : ∀ name : String,
    right.delta[name]?.map Relation.outline = left.delta[name]?.map Relation.outline
  named : ∀ name : String,
    left.growing[name]?.map Relation.name = if name ∈ members then some name else none
  sizes : ∀ (name : String) (relation : Relation), left.growing[name]? = some relation →
    relation.size ≤ p.first.settings.maxTuples

variable {p : Pairing} {members : List String} {left right left' right' : Workspace}

/-- The workspaces of a pairing are kin if no checkpoint of either context stops anything. -/
theorem kin_of_isQuiet (hleft : p.left.Coherent) (hright : p.right.Coherent)
    (hfirst : p.strict → p.first.IsQuiet) (hsecond : p.second.IsQuiet) : p.Kin p.left p.right where
  aroundLeft := .refl hleft
  aroundRight := .refl hright
  gain := ⟨0, (add_zero _).symm, (add_zero _).symm⟩
  ahead _ _ := hsecond _
  behind hstrict _ _ := hfirst hstrict _

/-- Two contexts, the second of which allows at least as much as the first, with workspaces that look
the same under some names. -/
def loose (first second : Context) (left right : Workspace) (names : Set String)
    (hentities : second.entities = first.entities)
    (htuples : first.settings.maxTuples ≤ second.settings.maxTuples)
    (hrounds : first.settings.maxRounds ≤ second.settings.maxRounds)
    (hbase : ∀ name ∈ names,
      right.base[name]?.map Relation.outline = left.base[name]?.map Relation.outline)
    (hslots : ∀ name ∈ names, right.slots[name]?.map (Option.map Relation.outline) =
      left.slots[name]?.map (Option.map Relation.outline)) : Pairing where
  strict := False
  first := first
  second := second
  left := left
  right := right
  names := names
  entities := hentities
  tuples := htuples
  rounds := hrounds
  tuplesStrict := False.elim
  roundsStrict := False.elim
  base := hbase
  slots := hslots

/-- One context, with workspaces that look the same under some names. -/
def within (context : Context) (left right : Workspace) (names : Set String)
    (hbase : ∀ name ∈ names,
      right.base[name]?.map Relation.outline = left.base[name]?.map Relation.outline)
    (hslots : ∀ name ∈ names, right.slots[name]?.map (Option.map Relation.outline) =
      left.slots[name]?.map (Option.map Relation.outline)) : Pairing where
  strict := True
  first := context
  second := context
  left := left
  right := right
  names := names
  entities := rfl
  tuples := le_rfl
  rounds := le_rfl
  tuplesStrict _ := le_rfl
  roundsStrict _ := le_rfl
  base := hbase
  slots := hslots

/-- A context and a workspace next to themselves. -/
abbrev alone (context : Context) (workspace : Workspace) : Pairing :=
  within context workspace workspace Set.univ (fun _ _ => rfl) fun _ _ => rfl

/-- A coherent workspace is kin to itself. -/
theorem kin_alone (context : Context) {workspace : Workspace} (h : workspace.Coherent) :
    (alone context workspace).Kin workspace workspace where
  aroundLeft := .refl h
  aroundRight := .refl h
  gain := ⟨0, (add_zero _).symm, (add_zero _).symm⟩
  ahead _ := id
  behind _ _ := id

/-- Twins resolve the names of the pairing alike. -/
theorem Twins.resolve (h : p.Twins members left right) {name : String} (hname : name ∈ p.names) :
    (right.resolve name).map Relation.outline = (left.resolve name).map Relation.outline := by
  refine Workspace.resolve_congr ?_ ?_
  · rw [Relation.map_map_outline_of_bare (h.aroundLeft.slots name),
      Relation.map_map_outline_of_bare (h.aroundRight.slots name)]
    exact p.slots name hname
  · rw [Relation.map_outline_of_bare (h.aroundLeft.base name),
      Relation.map_outline_of_bare (h.aroundRight.base name)]
    exact p.base name hname

/-- Twins read the names of the pairing alike. -/
theorem Twins.read (h : p.Twins members left right) {name : String} (hname : name ∈ p.names)
    (delta : Bool) :
    (right.read name delta).map Relation.outline = (left.read name delta).map Relation.outline := by
  refine Workspace.read_congr (fun {l r} heq => ?_) (h.growing name) (h.delta name)
    (h.resolve hname) delta
  rw [(Relation.outline_eq_iff.1 heq).2.1]

/-- Twins find the same sizes. -/
theorem Twins.sizeIn (h : p.Twins members left right) {name : String} (hname : name ∈ p.names)
    (delta : Bool) : Evaluation.sizeIn right name delta = Evaluation.sizeIn left name delta := by
  have hread := congrArg (Except.map fun outline => outline.2.2.card) (h.read hname delta)
  unfold Evaluation.sizeIn
  cases hleft : left.read name delta <;> cases hright : right.read name delta <;>
    rw [hleft, hright] at hread <;> exact hread

/-- Twins stay twins where both are kept and as much is counted. -/
theorem Twins.kept (h : p.Twins members left right) (hleft : left.Kept left')
    (hright : right.Kept right') (counted : Counters → Counters)
    (hcounted : ∀ before gain, counted (before + gain) = before + counted gain)
    (hcounters : left'.counters = counted left.counters)
    (hcounters' : right'.counters = counted right.counters)
    (hcheckpoints : left'.checkpoints = left.checkpoints)
    (hcheckpoints' : right'.checkpoints = right.checkpoints) : p.Twins members left' right' where
  aroundLeft := h.aroundLeft.kept hleft
  aroundRight := h.aroundRight.kept hright
  growing name := by
    rw [Relation.map_outline_of_bare (hleft.agrees.growing name),
      Relation.map_outline_of_bare (hright.agrees.growing name)]
    exact h.growing name
  delta name := by
    rw [Relation.map_outline_of_bare (hleft.agrees.delta name),
      Relation.map_outline_of_bare (hright.agrees.delta name)]
    exact h.delta name
  named name := by
    have hname := congrArg (Option.map Relation.name) (hleft.agrees.growing name)
    rw [Option.map_map, Option.map_map] at hname
    exact hname.trans (h.named name)
  sizes name relation hget := by
    have hbare := hleft.agrees.growing name
    rw [hget] at hbare
    obtain ⟨old, hold, heq⟩ := Option.map_eq_some_iff.1 hbare.symm
    rw [← Relation.size_of_outline (Relation.outline_of_bare heq)]
    exact h.sizes name old hold
  gain := by
    obtain ⟨gain, hgain, hgain'⟩ := h.gain
    exact ⟨counted gain, by rw [hcounters, hgain, hcounted], by rw [hcounters', hgain', hcounted]⟩
  ahead := by
    rw [hcheckpoints, hcheckpoints']
    exact h.ahead
  behind := by
    rw [hcheckpoints, hcheckpoints']
    exact h.behind

variable {α β γ δ : Type} {first : Eval α} {second : Eval β} {answered : α → β → Prop}

/-- Evaluations that end in twins with related answers, or in kin with faults. -/
def Pairs (p : Pairing) (members : List String) (first : Eval α) (second : Eval β)
    (left right : Workspace) (answered : α → β → Prop) : Prop :=
  Eval.Pairs p.strict first second left right
    (fun a b left' right' => answered a b ∧ p.Twins members left' right') p.Kin

/-- Evaluations that go on alike after related answers, from twins to twins, may be composed. -/
theorem Pairs.bind {next : α → Eval γ} {next' : β → Eval δ} {answered' : γ → δ → Prop}
    (h : p.Pairs members first second left right answered)
    (hnext : ∀ a b left' right', answered a b → p.Twins members left' right' →
      p.Pairs members (next a) (next' b) left' right' answered') :
    p.Pairs members (first >>= next) (second >>= next') left right answered' :=
  Eval.Pairs.bind h fun a b left' right' hab => hnext a b left' right' hab.1 hab.2

/-- Answers related more closely are related. -/
theorem Pairs.mono {answered' : α → β → Prop}
    (h : p.Pairs members first second left right answered)
    (hanswered : ∀ a b, answered a b → answered' a b) :
    p.Pairs members first second left right answered' :=
  Eval.Pairs.mono h (fun a b _ _ hab => ⟨hanswered a b hab.1, hab.2⟩) fun _ _ => id

theorem pairs_pure (h : p.Twins members left right) {a : α} {b : β} (hab : answered a b) :
    p.Pairs members (pure a) (pure b) left right answered :=
  Eval.pairs_pure ⟨hab, h⟩

/-- Kin stay kin when each has passed a checkpoint. -/
theorem Kin.passed (h : p.Kin left right) :
    p.Kin { left with checkpoints := left.checkpoints + 1 }
      { right with checkpoints := right.checkpoints + 1 } where
  aroundLeft := ⟨h.aroundLeft.base, h.aroundLeft.slots,
    ⟨h.aroundLeft.coherent.base, h.aroundLeft.coherent.slots, h.aroundLeft.coherent.growing,
      h.aroundLeft.coherent.delta⟩⟩
  aroundRight := ⟨h.aroundRight.base, h.aroundRight.slots,
    ⟨h.aroundRight.coherent.base, h.aroundRight.coherent.slots, h.aroundRight.coherent.growing,
      h.aroundRight.coherent.delta⟩⟩
  gain := h.gain
  ahead i := by
    have hpass := h.ahead (1 + i)
    rwa [← Nat.add_assoc, ← Nat.add_assoc] at hpass
  behind hstrict i := by
    have hpass := h.behind hstrict (1 + i)
    rwa [← Nat.add_assoc, ← Nat.add_assoc] at hpass

/-- From kin a checkpoint is passed on both sides, or on neither if the comparison is strict. -/
theorem pairs_pass_of_kin (h : p.Kin left right)
    {answered : Unit → Unit → Workspace → Workspace → Prop}
    {failed : Workspace → Workspace → Prop}
    (hpassed : answered () () { left with checkpoints := left.checkpoints + 1 }
      { right with checkpoints := right.checkpoints + 1 })
    (hfailed : failed { left with checkpoints := left.checkpoints + 1 }
      { right with checkpoints := right.checkpoints + 1 }) :
    Eval.Pairs p.strict p.first.pass p.second.pass left right answered failed := by
  unfold Context.pass
  refine Eval.pairs_get_bind (Eval.pairs_modify_bind (Eval.pairs_lift ?_ ?_ hfailed))
  · exact fun _ hfirst => ⟨(), h.ahead 0 hfirst, hpassed⟩
  · exact fun hstrict _ hsecond => ⟨(), h.behind hstrict 0 hsecond⟩

/-- Passing a checkpoint leads from twins to twins. -/
theorem pairs_pass (h : p.Twins members left right) :
    p.Pairs members p.first.pass p.second.pass left right fun _ _ => True :=
  pairs_pass_of_kin h.toKin
    ⟨trivial, { h.toKin.passed with
      growing := h.growing, delta := h.delta, named := h.named, sizes := h.sizes }⟩
    h.toKin.passed

/-- Twins do not show whether bounds were kept. -/
theorem Twins.noted (h : p.Twins members left right) (fits fits' : Bool) :
    p.Twins members { left with inBounds := fits } { right with inBounds := fits' } :=
  { h with
    aroundLeft := ⟨h.aroundLeft.base, h.aroundLeft.slots,
      ⟨h.aroundLeft.coherent.base, h.aroundLeft.coherent.slots, h.aroundLeft.coherent.growing,
        h.aroundLeft.coherent.delta⟩⟩
    aroundRight := ⟨h.aroundRight.base, h.aroundRight.slots,
      ⟨h.aroundRight.coherent.base, h.aroundRight.coherent.slots, h.aroundRight.coherent.growing,
        h.aroundRight.coherent.delta⟩⟩ }

/-- Noting bounds leads from twins to twins. -/
theorem pairs_noteBounds (h : p.Twins members left right) (fits fits' : Bool) :
    p.Pairs members (Evaluation.noteBounds fits) (Evaluation.noteBounds fits') left right
      fun _ _ => True :=
  Eval.pairs_modify ⟨trivial, h.noted _ _⟩

/-- A context allows the sizes up to its limit. -/
theorem checkSize_eq_ok {context : Context} {size : Nat} {name : String} :
    context.checkSize size name = .ok () ↔ size ≤ context.settings.maxTuples := by
  rw [Context.checkSize]
  split
  next hlt => exact ⟨nofun, fun hle => absurd hlt (Nat.not_lt.2 hle)⟩
  next hle => exact ⟨fun _ => Nat.not_lt.1 hle, fun _ => rfl⟩

/-- The second context allows every size that the first allows, and evaluations go on from twins where
both do. -/
theorem pairs_checkSize_of_kin (h : p.Kin left right) {size : Nat} (name name' : String)
    (htwins : size ≤ p.first.settings.maxTuples → p.Twins members left right) :
    p.Pairs members (liftM (p.first.checkSize size name)) (liftM (p.second.checkSize size name'))
      left right fun _ _ => size ≤ p.first.settings.maxTuples := by
  refine Eval.pairs_lift (fun _ hfirst => ?_) (fun hstrict _ hsecond => ?_) h
  · have hsize := checkSize_eq_ok.1 hfirst
    exact ⟨(), checkSize_eq_ok.2 (hsize.trans p.tuples), hsize, htwins hsize⟩
  · exact ⟨(), checkSize_eq_ok.2 ((checkSize_eq_ok.1 hsecond).trans (p.tuplesStrict hstrict))⟩

/-- The second context allows every size that the first allows. -/
theorem pairs_checkSize (h : p.Twins members left right) {size size' : Nat} (hsize : size' = size)
    (name name' : String) :
    p.Pairs members (liftM (p.first.checkSize size name)) (liftM (p.second.checkSize size' name'))
      left right fun _ _ => size ≤ p.first.settings.maxTuples := by
  subst hsize
  exact pairs_checkSize_of_kin h.toKin name name' fun _ => h

end Pairing

end Stratalog
