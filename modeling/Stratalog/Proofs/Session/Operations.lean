import Stratalog.Proofs.Session.Answer
import Stratalog.Proofs.Session.Materialize

/-!
# Operations of a session

Every operation leaves a sound session sound, whether it gives an answer or a fault. Answers are
those of every perfect model, and once the static checks are passed only an interruption prevents
them.
-/

namespace Stratalog

open Evaluation Eval

namespace Session

/-- A session as it was opened, whose workspace is kept up. -/
structure Sound [PatternEngine] (session : Session) : Prop where
  built : session.store.Built
  names : session.program.checkNames = .ok ()
  strata : session.strata = Stratification.ofPredicates session.program.predicates
  faults : session.faults = predicateFaults session.store session.program
  upholds : session.workspace.Upholds session.store session.program session.strata

/-- What a session's models are. -/
def Models [PatternEngine] (session : Session) (M : Interpretation) : Prop :=
  PerfectModel session.store.entities.render session.store.holds session.program.predicates M

/-- A result lists what every model of a session says of a query. -/
def Entails [PatternEngine] (session : Session) (query : Query) (result : ResultSet) : Prop :=
  ∀ M, session.Models M → result.Lists session.store.entities.render query M

/-- A relation holds what every model of a session says of a name, each row once. -/
def Extends [PatternEngine] (session : Session) (name : String) (relation : Relation) : Prop :=
  relation.rows.Nodup ∧ ∀ M, session.Models M → ∀ row, row ∈ relation.rows ↔ row ∈ M name

/-- A fault interrupts, or is the static fault of a query. -/
def Excuses [PatternEngine] (session : Session) (query : Query) (fault : Fault) : Prop :=
  session.context.Stops fault ∨ session.prepare query = .error fault

/-- A fault interrupts, or is the static fault of a predicate, or says that a name is unknown. -/
def Denies (session : Session) (name : String) (fault : Fault) : Prop :=
  session.context.Stops fault ∨ session.checkStrata (session.strata.required [name]) = .error fault ∨
    (name ∉ session.program.predicates.map Predicate.name ∧ session.store.relation? name = none ∧
      fault = .unknownPredicate name)

/-- An operation changed no more than the workspace of a session, in any number of turns, and left the
session sound. Its answer and its fault are as described. -/
structure Gives [PatternEngine] (session : Session) {α : Type} (good : α → Prop) (bad : Fault → Prop)
    (outcome : Except Fault α) (next : Session) : Prop where
  sound : next.Sound
  frame : ∃ workspace, next = { session with workspace } ∧
    Workspace.Turns session.store session.program session.strata session.settings
      session.workspace workspace
  answered : ∀ answer, outcome = .ok answer → good answer
  failed : ∀ fault, outcome = .error fault → bad fault

/-- A fault that is described more closely is described. -/
theorem Gives.mono [PatternEngine] {session next : Session} {α : Type} {good : α → Prop}
    {bad bad' : Fault → Prop}
    {outcome : Except Fault α} (h : session.Gives good bad outcome next)
    (hbad : ∀ fault, bad fault → bad' fault) : session.Gives good bad' outcome next :=
  ⟨h.sound, h.frame, h.answered, fun fault hfault => hbad fault (h.failed fault hfault)⟩

variable {session next later : Session} {store : FactStore} {program : Program} {settings : Settings}
  {query : Query} {prepared : PreparedQuery} {ids : List Nat} {i : Nat} {name : String}
  {M : Interpretation} {workspace : Workspace} {failures : Failures}

/-- A session opens sound. -/
theorem sound_start [PatternEngine] (hstore : store.Built)
    (h : start store program settings = .ok session) :
    session.Sound := by
  obtain ⟨_, hnames, heq⟩ := bind_eq_ok.1 h
  cases heq
  have hnodup := (Program.nodup_of_checkNames hnames).1
  have hnone (name : String) : (∅ : Relations)[name]? = none := Std.TreeMap.getElem?_emptyc
  have hempty := emptySlots_ne_some hnodup
  refine ⟨hstore, hnames, rfl, rfl, ⟨Workspace.serves_start hstore.wellFormed hnodup, hnone, hnone,
    rfl, fun i _ name _ hpublished => ?_,
    fun M _ name relation hrelation => absurd hrelation (hempty name relation)⟩⟩
  obtain ⟨relation, hrelation⟩ := Workspace.isPublished_iff.1 hpublished
  exact absurd hrelation (hempty name relation)

/-- A name has no fault exactly when none was found in its strata and its predicates pass their check. -/
theorem faultOf?_eq_none_iff [PatternEngine] (hfaults : session.faults =
    predicateFaults session.store session.program) : session.faultOf? name = none ↔
      session.strata.faultOf? name = none ∧ ∀ predicate ∈ session.program.predicates,
        predicate.name = name → Typing.checkPredicate session.store
          (Catalog.of session.store session.program.predicates) predicate = .ok () := by
  have hlookup : session.faults.lookup name = none ↔ ∀ predicate ∈ session.program.predicates,
      predicate.name = name → Typing.checkPredicate session.store
        (Catalog.of session.store session.program.predicates) predicate = .ok () := by
    rw [hfaults, List.lookup_eq_none_iff]
    constructor
    · intro hnone predicate hmem hname
      cases hcheck : Typing.checkPredicate session.store
          (Catalog.of session.store session.program.predicates) predicate with
      | ok _ => rfl
      | error fault =>
        have hrecorded : (predicate.name, fault) ∈ predicateFaults session.store session.program :=
          List.mem_filterMap.2 ⟨predicate, hmem, by rw [hcheck]⟩
        have hne := hnone _ hrecorded
        simp [hname] at hne
    · intro hchecked entry hentry
      obtain ⟨predicate, hpredicate, hfound⟩ := List.mem_filterMap.1 hentry
      split at hfound
      next fault hcheck =>
        cases hfound
        rw [bne_iff_ne]
        rintro rfl
        rw [hchecked predicate hpredicate rfl] at hcheck
        cases hcheck
      next => cases hfound
  rw [faultOf?, ← hlookup]
  cases session.strata.faultOf? name <;> simp

/-- Strata pass their check exactly when no member has a fault. -/
theorem checkStrata_eq_ok_iff : session.checkStrata ids = .ok () ↔
    ∀ i ∈ ids, ∀ name ∈ (session.strata.stratum i).predicates, session.faultOf? name = none := by
  have hmembers : (ids.flatMap fun id => (session.strata.stratum id).predicates).findSome?
      session.faultOf? = none ↔ ∀ i ∈ ids, ∀ name ∈ (session.strata.stratum i).predicates,
        session.faultOf? name = none := by
    simp only [List.findSome?_eq_none_iff, List.mem_flatMap]
    exact ⟨fun h i hi name hname => h name ⟨i, hi, hname⟩,
      fun h name ⟨i, hi, hname⟩ => h i hi name hname⟩
  rw [← hmembers, checkStrata]
  split
  next hfault => simp [hfault]
  next hnone => simp [hnone]

namespace Sound

variable [PatternEngine]

/-- The strata of a sound session rest on what they should. -/
theorem accepted (h : session.Sound) : Accepted session.store session.program session.strata := by
  have hnodup := (Program.nodup_of_checkNames h.names).1
  exact ⟨h.built.wellFormed, hnodup, h.strata ▸ Stratification.sound_ofPredicates hnodup⟩

/-- A session stays sound with any workspace that is kept up. -/
theorem with_workspace (h : session.Sound)
    (hworkspace : workspace.Upholds session.store session.program session.strata) :
    ({ session with workspace } : Session).Sound :=
  ⟨h.built, h.names, h.strata, h.faults, hworkspace⟩

/-- Strata that pass their check are clean. -/
theorem clean_of_checkStrata (h : session.Sound) (hcheck : session.checkStrata ids = .ok ()) :
    ∀ i ∈ ids, session.strata.Clean session.store session.program i :=
  fun i hi name hname =>
    (faultOf?_eq_none_iff h.faults).1 (checkStrata_eq_ok_iff.1 hcheck i hi name hname)

end Sound

/-- A query that was prepared passed its check, and the strata it requires passed theirs. -/
theorem prepare_eq_ok [PatternEngine] (h : session.prepare query = .ok prepared) :
    prepared.query = query ∧ Typing.checkQuery session.catalog query = .ok prepared.schema ∧
      prepared.strata = session.strata.required query.reads ∧
        session.checkStrata prepared.strata = .ok () := by
  unfold prepare at h
  obtain ⟨schema, hschema, h⟩ := bind_eq_ok.1 h
  obtain ⟨_, hcheck, h⟩ := bind_eq_ok.1 h
  cases h
  exact ⟨rfl, hschema, rfl, hcheck⟩

/-- Whether one session knows of its program what another one does. -/
def Knows (session next : Session) : Prop :=
  next.store = session.store ∧ next.program = session.program ∧ next.strata = session.strata ∧
    next.faults = session.faults

theorem Knows.refl (session : Session) : session.Knows session :=
  ⟨rfl, rfl, rfl, rfl⟩

theorem Knows.trans (h : session.Knows next) (h' : next.Knows later) : session.Knows later :=
  ⟨h'.1.trans h.1, h'.2.1.trans h.2.1, h'.2.2.1.trans h.2.2.1, h'.2.2.2.trans h.2.2.2⟩

/-- Sessions that know the same prepare alike. -/
theorem Knows.prepare_eq [PatternEngine] (h : session.Knows next) (query : Query) :
    next.prepare query = session.prepare query := by
  obtain ⟨hstore, hprogram, hstrata, hfaults⟩ := h
  have hfaultOf : next.faultOf? = session.faultOf? := by
    funext name
    simp only [faultOf?, hstrata, hfaults]
  simp only [prepare, catalog, checkStrata, hstore, hprogram, hstrata, hfaultOf]

/-- An evaluation changes the workspace only, and ends as it ensures. -/
theorem perform_of_ensures {α : Type} {evaluation : Eval α} {good : α → Workspace → Prop}
    {bad : Fault → Workspace → Prop} (h : evaluation.Ensures session.workspace good bad) :
    ∃ outcome after, session.perform evaluation = (outcome, { session with workspace := after }) ∧
      (∀ answer, outcome = .ok answer → good answer after) ∧
      ∀ fault, outcome = .error fault → bad fault after := by
  have hperform : session.perform evaluation = ((evaluation.run.run session.workspace).1,
      { session with workspace := (evaluation.run.run session.workspace).2 }) := rfl
  rw [hperform]
  refine ⟨_, _, rfl, fun answer hanswer => ?_, fun fault hfault => ?_⟩
  · exact h.of_ok (Prod.ext hanswer rfl)
  · exact h.of_error (Prod.ext hfault rfl)

variable [PatternEngine]

namespace Sound

/-- The strata that names require are clean once they pass their check, and are listed each after
those it depends on. -/
theorem required (h : session.Sound) {roots : List String}
    (hcheck : session.checkStrata (session.strata.required roots) = .ok ()) :
    session.strata.Scheduled (session.strata.required roots) ∧
      ∀ i ∈ session.strata.required roots, i < session.strata.strata.length ∧
        session.strata.Clean session.store session.program i := by
  obtain ⟨hlt, -, -, hscheduled⟩ := h.accepted.sound.required_spec roots
  exact ⟨hscheduled, fun i hi => ⟨hlt i hi, h.clean_of_checkStrata hcheck i hi⟩⟩

/-- Once the strata it requires are published, a derived predicate is resolved. -/
theorem isOk_resolve (h : session.Sound) {roots : List String} (hname : name ∈ roots)
    (hderived : name ∈ session.program.predicates.map Predicate.name)
    (hpublished : ∀ i ∈ session.strata.required roots,
      isPublished session.strata workspace i = true) : (workspace.resolve name).isOk = true := by
  obtain ⟨-, hroots, -, -⟩ := h.accepted.sound.required_spec roots
  obtain ⟨i, hi, hin⟩ := h.accepted.sound.covers name hderived
  exact Workspace.Serves.isOk_resolve_of_isPublished
    (hpublished i (hroots name hname i hi hin)) hin

/-- A prepared query whose strata are published is answered as every perfect model says, unless
something interrupts it. -/
theorem ensures_evaluateQuery (h : session.Sound) (hprepare : session.prepare query = .ok prepared)
    (hworkspace : workspace.Upholds session.store session.program session.strata)
    (hpublished : ∀ i ∈ prepared.strata, isPublished session.strata workspace i = true) :
    (evaluateQuery session.context prepared).Ensures workspace
      (fun result after => (workspace.Kept after ∧
        Advances session.store session.program session.strata session.settings workspace after) ∧
          session.Entails query result)
      fun fault after => (workspace.Kept after ∧
        Advances session.store session.program session.strata session.settings workspace after) ∧
          session.context.Stops fault := by
  obtain ⟨rfl, hcheck, hstrata, -⟩ := prepare_eq_ok hprepare
  obtain ⟨hstore, hnodup, hsound⟩ := h.accepted
  obtain ⟨site, env, hbody, -⟩ := Typing.checked_of_checkQuery hcheck
  have hresolve : ∀ name ∈ prepared.query.reads, (workspace.resolve name).isOk = true := by
    intro name hname
    by_cases hderived : name ∈ session.program.predicates.map Predicate.name
    · exact h.isOk_resolve hname hderived (hstrata ▸ hpublished)
    · obtain ⟨read, hread, rfl⟩ := List.mem_map.1 hname
      exact hworkspace.serves.isOk_resolve_base hderived
        (Typing.exists_schema_of_checkBody hbody read hread)
  have hreadable : workspace.Readable prepared.query.reads := by
    intro name hname delta
    rw [hworkspace.read_eq_resolve]
    exact hresolve name hname
  refine ((Session.ensures_evaluateQuery (hworkspace.conforms hstore hnodup)
    hworkspace.serves.coherent hcheck hreadable).and
      ((uncounted_evaluateQuery session.context prepared).ensures workspace)).mono
    (fun result after hresult => ?_) fun fault after hfault =>
      ⟨⟨hfault.1.1, Advances.of_kept hworkspace hfault.1.1 hfault.2⟩, hfault.1.2.stops _⟩
  obtain ⟨⟨hkept, hnodupRows, hrows⟩, htally⟩ := hresult
  refine ⟨⟨hkept, Advances.of_kept hworkspace hkept htally⟩,
    fun M hM => ⟨hnodupRows, fun row => (hrows row).trans ?_⟩⟩
  rw [hworkspace.denotes_eq_settled]
  exact Query.answers_congr fun name hname => hworkspace.settled_eq hM (hresolve name hname)

/-- An evaluation that keeps the workspace up gives what it ensures. -/
theorem gives_perform (h : session.Sound) {α : Type} {evaluation : Eval α} {good : α → Prop}
    {bad : Fault → Prop} (hensures : evaluation.Ensures session.workspace
      (fun answer after =>
        Advances session.store session.program session.strata session.settings session.workspace
          after ∧ good answer)
      fun fault after =>
        Advances session.store session.program session.strata session.settings session.workspace
          after ∧ bad fault) :
    session.Gives good bad (session.perform evaluation).1 (session.perform evaluation).2 := by
  obtain ⟨outcome, after, hperform, hok, herror⟩ := perform_of_ensures hensures
  rw [hperform]
  have hadvances : Advances session.store session.program session.strata session.settings
      session.workspace after := by
    cases outcome with
    | ok answer => exact (hok answer rfl).1
    | error fault => exact (herror fault rfl).1
  exact ⟨h.with_workspace hadvances.upholds, ⟨after, rfl, hadvances.turns⟩,
    fun answer heq => (hok answer heq).2,
    fun fault heq => (herror fault heq).2⟩

/-- Evaluating a prepared query gives the answer that every perfect model says. -/
theorem gives_execute (h : session.Sound) (hprepare : session.prepare query = .ok prepared) :
    session.Gives (session.Entails query) session.context.Stops (session.execute prepared).1
      (session.execute prepared).2 := by
  obtain ⟨-, -, hstrata, hcheck⟩ := prepare_eq_ok hprepare
  obtain ⟨hscheduled, hids⟩ := h.required (hstrata ▸ hcheck)
  rw [← hstrata] at hscheduled hids
  refine h.gives_perform ?_
  rw [ensures_bind]
  refine (ensures_pass_advances h.upholds session.context).mono (fun _ start hstart => ?_)
    fun _ _ => id
  obtain ⟨-, hstart⟩ := hstart
  rw [ensures_bind]
  refine (ensures_materialize hstart.upholds h.accepted rfl hscheduled hids).mono
    (fun _ ready hready => ?_) fun _ _ hfault => ⟨hstart.trans hfault.1, hfault.2⟩
  have hadvances := hstart.trans hready.1
  exact (h.ensures_evaluateQuery hprepare hready.1.upholds hready.2).mono
    (fun result after hresult => ⟨hadvances.trans hresult.1.2, hresult.2⟩)
    fun fault after hfault => ⟨hadvances.trans hfault.1.2, hfault.2⟩

/-- The relation of a derived predicate whose strata pass their check holds what every perfect model
says, each row once. -/
theorem gives_relation_of_derived (h : session.Sound)
    (hderived : name ∈ session.program.predicates.map Predicate.name)
    (hcheck : session.checkStrata (session.strata.required [name]) = .ok ()) :
    session.Gives (session.Extends name) session.context.Stops (session.relation name).1
      (session.relation name).2 := by
  obtain ⟨hscheduled, hids⟩ := h.required hcheck
  obtain ⟨hstore, hnodup, -⟩ := h.accepted
  have hisDerived : session.workspace.isDerived name = true :=
    (h.upholds.serves.slots name).2 hderived
  rw [Session.relation, if_pos hisDerived]
  refine h.gives_perform ?_
  rw [ensures_bind, hcheck, ensures_lift]
  refine ⟨fun _ _ => ?_, fun fault heq => by cases heq⟩
  rw [ensures_bind]
  refine (ensures_materialize h.upholds h.accepted rfl hscheduled hids).mono
    (fun _ ready hready => ?_) fun _ _ => id
  obtain ⟨relation, hrelation⟩ := isOk_iff.1 (h.isOk_resolve List.mem_cons_self hderived hready.2)
  rw [ensures_bind, ensures_get, hrelation, ensures_lift]
  refine ⟨fun answer heq => ?_, fun fault heq => by cases heq⟩
  cases heq
  have hupholds := hready.1.upholds
  exact ⟨hready.1, (hupholds.serves.conforms hstore hnodup hrelation).1, fun M hM =>
    hupholds.rows_of_resolve hM hrelation⟩

/-- The relation of a name that is not derived is that of the store, and fails for want of one
only. -/
theorem gives_relation_of_base (h : session.Sound)
    (hname : name ∉ session.program.predicates.map Predicate.name) :
    session.Gives (session.Extends name)
      (fun fault => session.store.relation? name = none ∧ fault = .unknownPredicate name)
      (session.relation name).1 (session.relation name).2 := by
  obtain ⟨hstore, hnodup, -⟩ := h.accepted
  have hisDerived : ¬session.workspace.isDerived name = true := fun hslot =>
    hname ((h.upholds.serves.slots name).1 hslot)
  rw [Session.relation, if_neg hisDerived]
  refine ⟨h, ⟨session.workspace, rfl, .refl⟩, fun relation hrelation => ?_, fun fault hfault => ?_⟩
  · exact ⟨(h.upholds.serves.conforms hstore hnodup hrelation).1, fun M hM =>
      h.upholds.rows_of_resolve hM hrelation⟩
  · cases hbase : session.store.relation? name with
    | none =>
      rw [h.upholds.serves.resolve_unknown hname hbase] at hfault
      exact ⟨rfl, (Except.error.inj hfault).symm⟩
    | some relation =>
      obtain ⟨held, hheld, -⟩ := h.upholds.serves.resolve_base hname hbase
      rw [hheld] at hfault
      cases hfault

/-- The relation of a derived predicate with a fault below it is refused. -/
theorem gives_relation_of_fault (h : session.Sound)
    (hderived : name ∈ session.program.predicates.map Predicate.name) {fault : Fault}
    (hcheck : session.checkStrata (session.strata.required [name]) = .error fault) :
    session.Gives (session.Extends name) (fun found => found = fault) (session.relation name).1
      (session.relation name).2 := by
  have hisDerived : session.workspace.isDerived name = true :=
    (h.upholds.serves.slots name).2 hderived
  rw [Session.relation, if_pos hisDerived]
  refine h.gives_perform ?_
  rw [ensures_bind, hcheck, ensures_lift]
  refine ⟨fun _ heq => ?_, fun found heq => ⟨.refl h.upholds, (Except.error.inj heq).symm⟩⟩
  cases heq

/-- The relation of a name holds what every perfect model says. -/
theorem gives_relation (h : session.Sound) (name : String) :
    session.Gives (session.Extends name) (session.Denies name) (session.relation name).1
      (session.relation name).2 := by
  by_cases hderived : name ∈ session.program.predicates.map Predicate.name
  · cases hcheck : session.checkStrata (session.strata.required [name]) with
    | error fault =>
      refine (h.gives_relation_of_fault hderived hcheck).mono fun found heq => ?_
      exact Or.inr (Or.inl (heq ▸ hcheck))
    | ok _ =>
      exact (h.gives_relation_of_derived hderived hcheck).mono fun fault hfault => Or.inl hfault
  · refine (h.gives_relation_of_base hderived).mono fun fault hfault => ?_
    exact Or.inr (Or.inr ⟨hderived, hfault⟩)

end Sound

end Session

end Stratalog
