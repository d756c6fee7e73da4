import Dataflow.Proofs.Component.Execution
import Dataflow.Proofs.Execution.Outputs

set_option autoImplicit false

/-! # Bindings of prepared inputs

A component that the wiring uses is looked at twice: as a revision of the store when the input is
prepared, and as a record of the input when the binding is served. `Engine.prepare_binds` says
how far the two agree. What is accepted as a revision is accepted as a record, so that a binding
of a prepared input can fail only over a filter, if the revision holds code. A revision that
calls itself a component and holds a graph is accepted as well, but it has no record: each
binding that refers to it fails, because the component is not there.
-/

namespace Dataflow

namespace Engine

variable {e : Engine} {s : MemoryStore} {r : ExecutionRequest} {x : ExecutionInput}
  {entry : WiringEntry} {direction : Direction}

/-- The component of an entry is stored under its reference and accepted. -/
theorem accepted_of_componentOf {bound : Revision} (h : e.componentOf entry direction = .ok bound) :
    ∃ id, Uuid.ofString? (entry.reference?.getD "") = some id ∧ e.store.get id = .ok bound ∧
      e.componentConfig.accept (.ofRevision bound) direction true = .ok () := by
  rw [componentOf] at h
  cases hid : Uuid.ofString? (entry.reference?.getD "") with
  | none =>
      simp only [hid] at h
      cases h
  | some id =>
      simp only [hid] at h
      cases hget : e.store.get id with
      | error cause =>
          simp only [hget] at h
          cases h
      | ok found =>
          simp only [hget] at h
          obtain ⟨_, haccept, hsame⟩ := bind_eq_ok.1 h
          cases hsame
          rw [mapError_eq_ok] at haccept
          exact ⟨id, rfl, hget, haccept⟩

/-- An entry for the component adapter with a reference is left to the adapter. -/
theorem resolve_of_componentEntry {w : Wiring} (hentry : (entry, direction) ∈ componentEntries w)
    {id : Uuid} (hid : Uuid.ofString? (entry.reference?.getD "") = some id) :
    entry.resolve direction = .ok (.adapter componentAdapterId entry.descriptor) := by
  obtain ⟨-, hadapter⟩ := mem_componentEntries hentry
  have hdirect : entry.isDirect = false := by
    rw [WiringEntry.isDirect, hadapter]
    decide
  cases hreference : entry.reference? with
  | none =>
      rw [hreference] at hid
      cases hid
  | some reference =>
      rw [Adapters.resolve_of_not_direct hdirect, hreference, hadapter]
      rfl

/-- The rules see no difference between a component and its record. -/
theorem ofRecord_of_ofRevision? {bound : Revision} {m : CodeModule} {c : ComponentRecord}
    (h : Artifacts.ofRevision? bound = some (m, c)) :
    ComponentProfile.ofRecord c = .ofRevision bound := by
  obtain ⟨m', -, hrest⟩ := Option.bind_eq_some_iff.1 h
  obtain ⟨c', hc, hpair⟩ := Option.bind_eq_some_iff.1 hrest
  cases hpair
  rw [ComponentRecord.ofRevision?] at hc
  by_cases hkind : bound.kind = .component
  · rw [if_pos hkind] at hc
    obtain ⟨code, -, rfl⟩ := Option.map_eq_some_iff.1 hc
    rw [ComponentProfile.ofRecord, ComponentProfile.ofRevision, hkind]
  · rw [if_neg hkind] at hc
    cases hc

/-- A revision of a component with code has artifacts. -/
theorem exists_ofRevision? {bound : Revision} (hkind : bound.kind = .component)
    {code : CodeContent} (hcode : bound.content = .code code) :
    ∃ m c, Artifacts.ofRevision? bound = some (m, c) := by
  rw [Artifacts.ofRevision?, CodeModule.ofRevision?, ComponentRecord.ofRevision?, if_pos hkind,
    Revision.code?_eq_some.2 hcode]
  exact ⟨_, _, rfl⟩

/-- What a binding refers to is there and accepted, so that only its filters can fail it. -/
structure ServesUpToFilters (e : Engine) (x : ExecutionInput) (entry : WiringEntry)
    (direction : Direction) (sent : Option Json) (bound : Revision) : Prop where
  referenced : ∃ record ∈ x.components, ∃ m ∈ x.codeModules, record.id = bound.id ∧
    record.interface = bound.interface ∧ m.id = record.codeModule ∧
    e.componentConfig.referenced (.ofInput x) direction entry.descriptor = .ok (record, m)
  succeeds : ∀ operatorId jobId,
    (∃ input, (e.componentConfig.bindingExecution (.ofInput x) direction entry.descriptor sent
        operatorId jobId).result = .ok input) ↔
      bound.interface.TakesFilters entry.descriptor.filters sent
  fails : ∀ operatorId jobId fault,
    (e.componentConfig.bindingExecution (.ofInput x) direction entry.descriptor sent operatorId
        jobId).result = .error fault →
      ∃ u, fault = .unknownFilter u ∧ entry.descriptor.filters.contains u.filter ∧
        bound.interface.input? u.filter = none

section Prepared

variable {root : Revision} {closure : Closure} {components : List Revision}

/-- A component with code that the wiring uses is found by its bindings. -/
theorem Prepared.referenced_of_code (h : e.Prepared r root closure components x)
    (hstore : e.store = s.toStore) {bound : Revision} (hbound : bound ∈ components) {id : Uuid}
    (hid : Uuid.ofString? (entry.reference?.getD "") = some id) (hget : s.get id = .ok bound)
    (haccept : e.componentConfig.accept (.ofRevision bound) direction true = .ok ())
    {code : CodeContent} (hcode : bound.content = .code code) :
    ∃ record ∈ x.components, ∃ m ∈ x.codeModules, record.id = bound.id ∧
      record.interface = bound.interface ∧ m.id = record.codeModule ∧
      e.componentConfig.referenced (.ofInput x) direction entry.descriptor =
        .ok (record, m) := by
  have hconsistent := ExecutionInput.defect?_eq_none_iff.1 h.consistent
  have hkind := (ComponentConfig.accept_eq_ok_iff.1 haccept).1
  obtain ⟨m, c, hof⟩ := exists_ofRevision? hkind hcode
  obtain ⟨code', -, hm, hcid, hinterface, -, hcmodule⟩ := Artifacts.ofRevision?_eq_some hof
  obtain ⟨hc, m', hm', hmid⟩ :=
    h.exists_artifacts hstore (List.mem_append_right _ hbound) hof
  have hmodule : m'.id = c.codeModule := by
    calc m'.id = m.id := hmid
      _ = code'.codeModule := hm
      _ = c.codeModule := hcmodule.symm
  have hrecord : c.id = id := hcid.trans (MemoryStore.id_of_get hget)
  refine ⟨c, hc, m', hm', hcid, hinterface, hmodule, ?_⟩
  refine ComponentConfig.referenced_eq_ok_iff.2 ⟨id, hid, ?_, ?_, ?_⟩
  · exact (Artifacts.component?_ofInput_eq_some_iff hconsistent.components_nodup).2 ⟨hc, hrecord⟩
  · exact (Artifacts.codeModule?_ofInput_eq_some_iff hconsistent.modules_nodup).2 ⟨hm', hmodule⟩
  · rw [ofRecord_of_ofRevision? hof]
    exact haccept

/-- A component with a graph that the wiring uses is not found by its bindings. -/
theorem Prepared.referenced_of_graph (h : e.Prepared r root closure components x)
    (hstore : e.store = s.toStore) {bound : Revision} (hbound : bound ∈ components) {id : Uuid}
    (hid : Uuid.ofString? (entry.reference?.getD "") = some id) (hget : s.get id = .ok bound)
    {content : WorkflowContent} (hcontent : bound.content = .workflow content) :
    e.componentConfig.referenced (.ofInput x) direction entry.descriptor =
      .error (.componentNotPresent id) := by
  have hconsistent := ExecutionInput.defect?_eq_none_iff.1 h.consistent
  refine ComponentConfig.referenced_of_no_record hid ?_
  cases hrecord : (Artifacts.ofInput x).component? id with
  | none => rfl
  | some c =>
      obtain ⟨hc, hcid⟩ :=
        (Artifacts.component?_ofInput_eq_some_iff hconsistent.components_nodup).1 hrecord
      obtain ⟨m, hof⟩ := h.ofRevision?_eq hstore hc (List.mem_append_right _ hbound)
        (hcid.trans (MemoryStore.id_of_get hget).symm)
      obtain ⟨code, hcode, -⟩ := Artifacts.ofRevision?_eq_some hof
      rw [hcontent] at hcode
      cases hcode

/-- A component with code that the wiring uses serves its bindings, up to their filters. -/
theorem Prepared.servesUpToFilters (h : e.Prepared r root closure components x)
    (hstore : e.store = s.toStore) {bound : Revision} (hbound : bound ∈ components) {id : Uuid}
    (hid : Uuid.ofString? (entry.reference?.getD "") = some id) (hget : s.get id = .ok bound)
    (haccept : e.componentConfig.accept (.ofRevision bound) direction true = .ok ())
    {code : CodeContent} (hcode : bound.content = .code code) {sent : Option Json}
    (hsent : sent.isSome → direction = .send) :
    e.ServesUpToFilters x entry direction sent bound := by
  obtain ⟨record, hrecord, m, hm, hrid, hinterface, hmodule, href⟩ :=
    h.referenced_of_code hstore hbound hid hget haccept hcode
  have hresult := fun operatorId jobId =>
    ComponentConfig.result_bindingExecution_of_referenced operatorId jobId href hmodule hsent
  refine ⟨⟨record, hrecord, m, hm, hrid, hinterface, hmodule, href⟩,
    fun operatorId jobId => ?_, fun operatorId jobId fault hfault => ?_⟩
  · rw [← hinterface, ← ComponentRecord.exists_bindingWiring_iff, hresult]
    simp only [mapError_map_eq_ok]
    constructor
    · rintro ⟨_, wiring, hwiring, -⟩
      exact ⟨wiring, hwiring⟩
    · rintro ⟨wiring, hwiring⟩
      exact ⟨_, wiring, hwiring, rfl⟩
  · rw [hresult, mapError_map_eq_error] at hfault
    obtain ⟨u, hunknown, rfl⟩ := hfault
    obtain ⟨hfilter, hnone, -⟩ := ComponentRecord.of_bindingWiring_eq_error hunknown
    rw [hinterface] at hnone
    exact ⟨u, rfl, hfilter, hnone⟩

end Prepared

/-- **How far preparing and serving agree.** Every entry of a prepared input for the component
adapter refers to a stored revision, and is left to the adapter. If the revision holds code, its
record and a module for it are there and accepted, and only a filter can fail the binding. If it
holds a graph, every binding fails, because the component is not there. -/
theorem prepare_binds (hstore : e.store = s.toStore) (h : (e.prepare r).result = .ok x)
    (hentry : (entry, direction) ∈ componentEntries x.wiring) {sent : Option Json}
    (hsent : sent.isSome ↔ direction = .send) :
    ∃ id bound, Uuid.ofString? (entry.reference?.getD "") = some id ∧ s.get id = .ok bound ∧
      entry.resolve direction = .ok (.adapter componentAdapterId entry.descriptor) ∧
      (∀ code, bound.content = .code code →
        e.ServesUpToFilters x entry direction sent bound) ∧
      ∀ content, bound.content = .workflow content → ∀ operatorId jobId,
        (e.componentConfig.bindingExecution (.ofInput x) direction entry.descriptor sent
          operatorId jobId).result = .error (.componentNotPresent id) := by
  obtain ⟨root, closure, components, hprepared⟩ := exists_prepared h
  obtain ⟨bound, hbound, hof⟩ :=
    (exists_of_forall₂ (forall₂_boundComponents hprepared.bound)).1 _ hentry
  obtain ⟨id, hid, hget, haccept⟩ := accepted_of_componentOf hof
  rw [hstore] at hget
  refine ⟨id, bound, hid, hget, resolve_of_componentEntry hentry hid, fun code hcode => ?_,
    fun content hcontent operatorId jobId => ?_⟩
  · exact hprepared.servesUpToFilters hstore hbound hid hget haccept hcode hsent.1
  · rw [ComponentConfig.result_bindingExecution,
      hprepared.referenced_of_graph hstore hbound hid hget hcontent]
    rfl

theorem prepare_binds_sample :
    ∃ x, (sampleEngine.prepare sampleRequest).result = .ok x ∧
      ∃ entry, (entry, Direction.load) ∈ componentEntries x.wiring ∧
        sampleEngine.ServesUpToFilters x entry .load none sampleSource := by
  have hentries : (sampleEngine.prepare sampleRequest).result.toOption.map (fun x =>
      componentEntries x.wiring) = some [(⟨"in", componentAdapterId,
        { Descriptor.empty with refId := some "00000000-0000-0000-0000-000000000004" }⟩,
        .load)] := rfl
  cases hresult : (sampleEngine.prepare sampleRequest).result with
  | error f =>
      rw [hresult] at hentries
      cases hentries
  | ok x =>
      rw [hresult] at hentries
      have hentry := (Option.some.inj hentries) ▸ List.mem_singleton_self _
      refine ⟨x, rfl, _, hentry, ?_⟩
      have hsent : (none : Option Json).isSome ↔ Direction.load = .send := by decide
      obtain ⟨id, bound, hid, hget, -, hserves, -⟩ :=
        prepare_binds (e := sampleEngine) rfl hresult hentry hsent
      cases hid
      obtain rfl : sampleSource = bound := Except.ok.inj hget
      exact hserves _ rfl

/-! A revision that calls itself a component and holds a graph. -/

/-- A source without code. -/
def hollowSource : Revision :=
  { sampleSource with content := .workflow .empty }

/-- An engine over a store with this source in the place of the other one. -/
def hollowEngine : Engine :=
  .inProcess .standard .standard
    (MemoryStore.ofList [sampleWorkflow, sampleStep, hollowSource]).toStore .standard

/-- **A component may be accepted when an input is prepared, and be missing in it.** -/
theorem prepared_component_not_present :
    ∃ x, (hollowEngine.prepare sampleRequest).result = .ok x ∧
      ∃ entry, (entry, Direction.load) ∈ componentEntries x.wiring ∧
        entry.descriptor.filters = .empty ∧
        (hollowEngine.componentConfig.bindingExecution (.ofInput x) .load entry.descriptor none
          (.ofNat 20) (.ofNat 21)).result = .error (.componentNotPresent (.ofNat 4)) := by
  have hprepared : (hollowEngine.prepare sampleRequest).result.toOption.map (fun x =>
      (componentEntries x.wiring, (Artifacts.ofInput x).component? (.ofNat 4))) =
        some ([(⟨"in", componentAdapterId,
          { Descriptor.empty with refId := some "00000000-0000-0000-0000-000000000004" }⟩,
          .load)], none) := rfl
  cases hresult : (hollowEngine.prepare sampleRequest).result with
  | error f =>
      rw [hresult] at hprepared
      cases hprepared
  | ok x =>
      rw [hresult] at hprepared
      obtain ⟨hentries, hmissing⟩ := Prod.mk.inj (Option.some.inj hprepared)
      refine ⟨x, rfl, _, hentries ▸ List.mem_singleton_self _, rfl, ?_⟩
      rw [ComponentConfig.result_bindingExecution,
        ComponentConfig.referenced_of_no_record rfl hmissing]
      rfl

end Engine

end Dataflow
