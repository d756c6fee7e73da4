import Dataflow.Engine
import Dataflow.Proofs.Execution.Artifacts
import Dataflow.Proofs.Journal.Leaves
import Dataflow.Proofs.Node.Flatten

set_option autoImplicit false

/-! # What a prepared execution input contains

An execution input is made by three passes over the store: the closure of the root is
collected, the root is unfolded along it, and the artifacts of the root, of the closure and of
the components that the wiring uses are merged by identifier. `Engine.prepare_selfContained`
says that the passes agree: nothing that the tree refers to is missing or differs from it, and
nothing is there that neither the tree nor the wiring refers to.

The passes meet in two facts. In a store of revisions under their own identifiers, artifacts
with the same component identifier stem from the same revision, so it does not matter which of
them was added first. And the closure holds only revisions that the root reaches, each of which
has a place in the tree.
-/

namespace Dataflow

/-! ## The passes of a preparation -/

theorem RevisionStore.result_fetchClosure (s : RevisionStore) (root : Revision) :
    (s.fetchClosure root).result = s.nestedClosure root := by
  rw [fetchClosure]
  cases s.nestedClosure root <;> rfl

theorem Revision.result_flattenLogged (root : Revision) (closure : Closure) :
    (root.flattenLogged closure).result = (root.flatten closure).mapError .integrity := by
  rw [flattenLogged]
  cases root.flatten closure <;> rfl

theorem Assembly.result_assembleLogged (a : Assembly) (jobId : Uuid) (workflow : Node) :
    (a.assembleLogged jobId workflow).result =
      (a.assemble jobId workflow).mapError .inputValidation := by
  rw [assembleLogged]
  cases a.assemble jobId workflow <;> rfl

section Leaves

variable {P : Entry → Prop}

theorem RevisionStore.leaves_fetchClosure (hevent : ∀ e, P (.event e)) (s : RevisionStore)
    (root : Revision) : (s.fetchClosure root).Leaves P := by
  refine (Traced.leaves_ofExcept _).bind fun closure _ => ?_
  exact (Traced.leaves_log (hevent _)).bind fun _ _ => Traced.leaves_pure _

theorem Revision.leaves_flattenLogged (hevent : ∀ e, P (.event e)) (root : Revision)
    (closure : Closure) : (root.flattenLogged closure).Leaves P := by
  refine ((Traced.leaves_ofExcept _).mapError _).bind fun node _ => ?_
  exact (Traced.leaves_log (hevent _)).bind fun _ _ => Traced.leaves_pure _

theorem Assembly.leaves_assembleLogged (hevent : ∀ e, P (.event e)) (a : Assembly) (jobId : Uuid)
    (workflow : Node) : (a.assembleLogged jobId workflow).Leaves P := by
  refine ((Traced.leaves_ofExcept _).mapError _).bind fun input _ => ?_
  exact (Traced.leaves_log (hevent _)).bind fun _ _ => Traced.leaves_pure _

end Leaves

theorem Assembly.assemble_eq_ok_iff {a : Assembly} {jobId : Uuid} {workflow : Node}
    {x : ExecutionInput} :
    a.assemble jobId workflow = .ok x ↔ x = a.build jobId workflow ∧ x.defect? = none := by
  cases hdefect : (a.build jobId workflow).defect? with
  | some fault =>
      have hfail : a.assemble jobId workflow = .error fault := by
        simp only [assemble, hdefect]
      rw [hfail]
      constructor
      · intro h
        cases h
      · rintro ⟨rfl, hnone⟩
        rw [hdefect] at hnone
        cases hnone
  | none =>
      have hbuilt : a.assemble jobId workflow = .ok (a.build jobId workflow) := by
        simp only [assemble, hdefect]
      rw [hbuilt]
      constructor
      · intro h
        cases h
        exact ⟨rfl, hdefect⟩
      · rintro ⟨rfl, -⟩
        rfl

namespace Engine

theorem fetchRoot_eq_ok_iff {e : Engine} {id : Uuid} {root : Revision} :
    e.fetchRoot id = .ok root ↔ e.store.get id = .ok root ∧ root.check = .ok () := by
  show ((e.store.get id).mapError ExecutionError.ofModel >>= fun r =>
    (r.check.mapError fun cause => ExecutionError.inputValidation (.model cause)) >>= fun _ =>
      Except.ok r) = .ok root ↔ _
  simp only [bind_eq_ok, mapError_eq_ok]
  constructor
  · rintro ⟨r, hget, ⟨⟩, hcheck, hsame⟩
    cases hsame
    exact ⟨hget, hcheck⟩
  · rintro ⟨hget, hcheck⟩
    exact ⟨root, hget, (), hcheck, rfl⟩

theorem result_fetchComponents (e : Engine) (w : Wiring) :
    (e.fetchComponents w).result = (e.boundComponents w).mapError .componentsNotFound := by
  rw [fetchComponents]
  cases e.boundComponents w with
  | error f => rfl
  | ok components =>
      cases components <;> rfl

/-- The artifacts of a request. -/
def artifacts (root : Revision) (closure : Closure) (components : List Revision) : Artifacts :=
  ((Artifacts.empty.addRevisions [root]).addRevisions closure.values).addRevisions components

/-- What a request is prepared from. -/
structure Prepared (e : Engine) (r : ExecutionRequest) (root : Revision) (closure : Closure)
    (components : List Revision) (x : ExecutionInput) : Prop where
  fetched : e.store.get r.revision = .ok root
  valid : root.check = .ok ()
  collected : e.store.nestedClosure root = .ok closure
  flattened : root.flatten closure = .ok x.workflow
  wiring : x.wiring = r.wiring.getD root.testWiring
  bound : e.boundComponents x.wiring = .ok components
  codeModules : x.codeModules = (artifacts root closure components).codeModules.values
  components : x.components = (artifacts root closure components).components.values
  consistent : x.defect? = none

/-- **A preparation that succeeds** went through all of its passes. -/
theorem exists_prepared {e : Engine} {r : ExecutionRequest} {x : ExecutionInput}
    (h : (e.prepare r).result = .ok x) :
    ∃ root closure components, e.Prepared r root closure components x := by
  rw [prepare, Traced.bind_eq_ok] at h
  obtain ⟨root, hroot, h⟩ := h
  rw [Traced.bind_eq_ok] at h
  obtain ⟨closure, hclosure, h⟩ := h
  rw [Traced.bind_eq_ok] at h
  obtain ⟨workflow, hworkflow, h⟩ := h
  rw [Traced.bind_eq_ok] at h
  obtain ⟨components, hcomponents, h⟩ := h
  rw [Traced.result_ofExcept, fetchRoot_eq_ok_iff] at hroot
  rw [Traced.result_mapError, mapError_eq_ok, RevisionStore.result_fetchClosure] at hclosure
  rw [Revision.result_flattenLogged, mapError_eq_ok] at hworkflow
  rw [result_fetchComponents, mapError_eq_ok] at hcomponents
  rw [Assembly.result_assembleLogged, mapError_eq_ok, Assembly.assemble_eq_ok_iff] at h
  obtain ⟨rfl, hdefect⟩ := h
  exact ⟨root, closure, components, hroot.1, hroot.2, hclosure, hworkflow, rfl, hcomponents, rfl,
    rfl, hdefect⟩

/-! ## Components that the wiring uses -/

/-- An entry of a wiring that uses a component. -/
def UsesComponent (entry : WiringEntry) (component : Uuid) : Prop :=
  entry.adapterId = componentAdapterId ∧
    ∃ reference, entry.reference? = some reference ∧ Uuid.ofString? reference = some component

theorem mem_componentEntries {w : Wiring} {entry : WiringEntry} {direction : Direction}
    (h : (entry, direction) ∈ componentEntries w) :
    entry ∈ w.inputs ++ w.outputs ∧ entry.adapterId = componentAdapterId := by
  obtain ⟨hmem, hadapter⟩ := List.mem_filter.1 h
  refine ⟨?_, beq_iff_eq.1 hadapter⟩
  rw [List.mem_append] at hmem ⊢
  refine hmem.imp (fun hin => ?_) (fun hout => ?_)
  · obtain ⟨entry', hentry, hpair⟩ := List.mem_map.1 hin
    cases hpair
    exact hentry
  · obtain ⟨entry', hentry, hpair⟩ := List.mem_map.1 hout
    cases hpair
    exact hentry

theorem componentOf_eq_ok {e : Engine} {entry : WiringEntry} {direction : Direction}
    {r : Revision} (h : e.componentOf entry direction = .ok r) :
    ∃ id, Uuid.ofString? (entry.reference?.getD "") = some id ∧ e.store.get id = .ok r := by
  rw [componentOf] at h
  cases hid : Uuid.ofString? (entry.reference?.getD "") with
  | none =>
      simp only [hid] at h
      cases h
  | some id =>
      simp only [hid] at h
      cases hget : e.store.get id with
      | error cause =>
          simp only [hget] at h
          cases h
      | ok found =>
          simp only [hget] at h
          obtain ⟨-, -, hsame⟩ := bind_eq_ok.1 h
          cases hsame
          exact ⟨id, rfl, hget⟩

/-- Whether or not there are entries for components, all of them have been looked up. -/
theorem forall₂_boundComponents {e : Engine} {w : Wiring} {components : List Revision}
    (h : e.boundComponents w = .ok components) :
    List.Forall₂ (fun b r => e.componentOf b.1 b.2 = .ok r) (componentEntries w) components := by
  rw [boundComponents] at h
  rw [← mapM_eq_ok_iff]
  cases hentries : componentEntries w with
  | nil =>
      rw [hentries] at h
      exact h
  | cons b rest =>
      rw [hentries] at h
      dsimp only at h
      by_cases hactive : e.componentConfig.active
      · rwa [if_pos hactive] at h
      · rw [if_neg hactive] at h
        cases h

/-- Each component that has been fetched is stored, and an entry of the wiring uses it. -/
theorem mem_boundComponents {e : Engine} {w : Wiring} {components : List Revision}
    (h : e.boundComponents w = .ok components) {r : Revision} (hr : r ∈ components) :
    ∃ id, e.store.get id = .ok r ∧ ∃ entry ∈ w.inputs ++ w.outputs, UsesComponent entry id := by
  obtain ⟨⟨entry, direction⟩, hmem, hof⟩ :=
    (exists_of_forall₂ (forall₂_boundComponents h)).2 r hr
  obtain ⟨id, hid, hget⟩ := componentOf_eq_ok hof
  obtain ⟨hentry, hadapter⟩ := mem_componentEntries hmem
  -- an entry without a reference is read as one with the empty text, which is no identifier
  refine ⟨id, hget, entry, hentry, hadapter, ?_⟩
  cases hreference : entry.reference? with
  | none =>
      rw [hreference] at hid
      cases hid
  | some reference =>
      rw [hreference] at hid
      exact ⟨reference, rfl, hid⟩

end Engine

/-! ## The input as a whole -/

namespace ExecutionInput

/-- An execution input holds exactly what its tree and its wiring refer to: no identifier twice,
for every component node a record that equals it and the module of the record, no record that
neither a node nor an entry for the component adapter refers to, and no module without a
record. -/
structure SelfContained (x : ExecutionInput) : Prop where
  components_nodup : (x.components.map (·.id)).Nodup
  modules_nodup : (x.codeModules.map (·.id)).Nodup
  node : ∀ n, Node.Inside (.component n) x.workflow →
    (∃! c, c ∈ x.components ∧ c.id = n.component) ∧
      (∀ c ∈ x.components, c.id = n.component →
        c.interface = n.interface ∧ c.function = n.function ∧ c.codeModule = n.codeModule) ∧
      ∃! m, m ∈ x.codeModules ∧ m.id = n.codeModule
  component : ∀ c ∈ x.components,
    (∃ n, Node.Inside (.component n) x.workflow ∧ n.component = c.id) ∨
      ∃ entry ∈ x.wiring.inputs ++ x.wiring.outputs, Engine.UsesComponent entry c.id
  codeModule : ∀ m ∈ x.codeModules, ∃ c ∈ x.components, c.codeModule = m.id

/-- Every node of an input that is consistent has a record. -/
theorem exists_component_of_defect? {x : ExecutionInput} (h : x.defect? = none)
    {n : ComponentNode} (hn : Node.Inside (.component n) x.workflow) :
    ∃ c ∈ x.components, c.id = n.component := by
  rw [defect?, Option.or_eq_none_iff, Option.or_eq_none_iff, Option.or_eq_none_iff,
    List.findSome?_eq_none_iff] at h
  have hnode := h.2.2.1 n (Node.mem_componentNodes_iff.2 hn)
  rw [nodeDefect?] at hnode
  cases hfind : x.components.find? (·.id == n.component) with
  | none =>
      rw [hfind] at hnode
      cases hnode
  | some c =>
      have hid := List.find?_some hfind
      exact ⟨c, List.mem_of_find?_eq_some hfind, beq_iff_eq.1 hid⟩

end ExecutionInput

namespace Engine

section Prepared

variable {e : Engine} {s : MemoryStore} {r : ExecutionRequest} {root : Revision}
  {closure : Closure} {components : List Revision} {x : ExecutionInput}

/-- The revisions whose artifacts are gathered. -/
theorem gathered_artifacts (root : Revision) (closure : Closure) (components : List Revision) :
    Artifacts.Gathered ([root] ++ closure.values ++ components)
      (artifacts root closure components) :=
  ((Artifacts.gathered_empty.add [root]).add closure.values).add components

/-- A revision that is gathered is reached from the root, or an entry of the wiring uses it. -/
theorem Prepared.cases (h : e.Prepared r root closure components x) {r' : Revision}
    (hr : r' ∈ [root] ++ closure.values ++ components) :
    ∃ id, e.store.get id = .ok r' ∧ (root.Reaches closure r' ∨
      ∃ entry ∈ x.wiring.inputs ++ x.wiring.outputs, UsesComponent entry id) := by
  rcases List.mem_append.1 hr with hr | hr
  · rcases List.mem_append.1 hr with hr | hr
    · rw [List.mem_singleton.1 hr]
      exact ⟨_, h.fetched, .inl .root⟩
    · obtain ⟨o, ho⟩ := (Dict.mem_values_iff _ _).1 hr
      obtain ⟨⟨id, hid⟩, hreached⟩ := RevisionStore.reaches_of_nestedClosure h.collected ho
      exact ⟨id, hid, .inl hreached⟩
  · obtain ⟨id, hid, huses⟩ := mem_boundComponents h.bound hr
    exact ⟨id, hid, .inr huses⟩

/-- Revisions that are gathered from a memory store are known by their identifiers. -/
theorem Prepared.eq_of_id_eq (h : e.Prepared r root closure components x)
    (hstore : e.store = s.toStore) {r₁ r₂ : Revision}
    (hr₁ : r₁ ∈ [root] ++ closure.values ++ components)
    (hr₂ : r₂ ∈ [root] ++ closure.values ++ components) (hid : r₁.id = r₂.id) : r₁ = r₂ := by
  obtain ⟨id₁, hget₁, -⟩ := h.cases hr₁
  obtain ⟨id₂, hget₂, -⟩ := h.cases hr₂
  rw [hstore] at hget₁ hget₂
  have hsame : id₁ = id₂ := by
    calc id₁ = r₁.id := (MemoryStore.id_of_get hget₁).symm
      _ = r₂.id := hid
      _ = id₂ := MemoryStore.id_of_get hget₂
  subst hsame
  exact Except.ok.inj (hget₁.symm.trans hget₂)

/-- A revision that is reached is gathered. -/
theorem mem_gathered_of_reaches {r' : Revision} (h : root.Reaches closure r') :
    r' ∈ [root] ++ closure.values ++ components := by
  refine List.mem_append_left _ ?_
  cases h with
  | root => exact List.mem_append_left _ (List.mem_singleton_self root)
  | nested _ _ _ hget => exact List.mem_append_right _ ((Dict.mem_values_iff _ _).2 ⟨_, hget⟩)

/-- A record stems from a revision that is gathered. -/
theorem Prepared.of_component (h : e.Prepared r root closure components x) {c : ComponentRecord}
    (hc : c ∈ x.components) :
    ∃ r' ∈ [root] ++ closure.values ++ components, ∃ m, Artifacts.ofRevision? r' = some (m, c) := by
  rw [h.components] at hc
  obtain ⟨id, hget⟩ := (Dict.mem_values_iff _ _).1 hc
  exact ((gathered_artifacts root closure components).of_component hget).2

/-- The record with the identifier of a revision is the one of this revision. -/
theorem Prepared.ofRevision?_eq (h : e.Prepared r root closure components x)
    (hstore : e.store = s.toStore) {c : ComponentRecord} (hc : c ∈ x.components) {r' : Revision}
    (hr : r' ∈ [root] ++ closure.values ++ components) (hid : c.id = r'.id) :
    ∃ m, Artifacts.ofRevision? r' = some (m, c) := by
  obtain ⟨r'', hr'', m, hof⟩ := h.of_component hc
  obtain ⟨code, -, -, hid'', -⟩ := Artifacts.ofRevision?_eq_some hof
  have hsame : r'' = r' := h.eq_of_id_eq hstore hr'' hr (hid''.symm.trans hid)
  exact ⟨m, hsame ▸ hof⟩

/-- The artifacts of a revision that is gathered are in the input: the record itself, and a
module with the identifier of its module. -/
theorem Prepared.exists_artifacts (h : e.Prepared r root closure components x)
    (hstore : e.store = s.toStore) {r' : Revision}
    (hr : r' ∈ [root] ++ closure.values ++ components) {m : CodeModule} {c : ComponentRecord}
    (hof : Artifacts.ofRevision? r' = some (m, c)) :
    c ∈ x.components ∧ ∃ m' ∈ x.codeModules, m'.id = m.id := by
  have hgathered := gathered_artifacts root closure components
  obtain ⟨code, -, -, hid, -⟩ := Artifacts.ofRevision?_eq_some hof
  obtain ⟨c', hc'⟩ := hgathered.exists_component hr hof
  obtain ⟨m', hm'⟩ := hgathered.exists_module hr hof
  have hmem : c' ∈ x.components := by
    rw [h.components]
    exact (Dict.mem_values_iff _ _).2 ⟨_, hc'⟩
  have hmodule : m' ∈ x.codeModules := by
    rw [h.codeModules]
    exact (Dict.mem_values_iff _ _).2 ⟨_, hm'⟩
  obtain ⟨m'', hof'⟩ :=
    h.ofRevision?_eq hstore hmem hr ((hgathered.of_component hc').1.trans hid)
  rw [hof, Option.some.injEq, Prod.mk.injEq] at hof'
  rw [hof'.2]
  exact ⟨hmem, m', hmodule, (hgathered.of_module hm').1⟩

theorem Prepared.selfContained (h : e.Prepared r root closure components x)
    (hstore : e.store = s.toStore) : x.SelfContained := by
  have hgathered := gathered_artifacts root closure components
  have hmodules : (x.codeModules.map (·.id)).Nodup := by
    rw [h.codeModules, hgathered.map_id_modules]
    exact Dict.nodup_keys _
  refine ⟨?_, hmodules, fun n hn => ?_, fun c hc => ?_, fun m hm => ?_⟩
  · rw [h.components, hgathered.map_id_components]
    exact Dict.nodup_keys _
  · -- the node is the leaf of a revision, and every record of its identifier is the one of
    -- this revision
    obtain ⟨r', code, id, name, hreached, hcode, rfl⟩ :=
      Revision.exists_leaf_of_inside .root h.flattened hn
    have hr : r' ∈ [root] ++ closure.values ++ components := mem_gathered_of_reaches hreached
    have hrecord : ∀ c ∈ x.components, c.id = r'.id →
        ∃ m, Artifacts.ofRevision? r' = some (m, c) :=
      fun c hc hid => h.ofRevision?_eq hstore hc hr hid
    obtain ⟨c, hc, hid⟩ := ExecutionInput.exists_component_of_defect? h.consistent hn
    obtain ⟨m, hof⟩ := hrecord c hc hid
    obtain ⟨code', hcode', hm, -⟩ := Artifacts.ofRevision?_eq_some hof
    rw [hcode, RevisionContent.code.injEq] at hcode'
    subst hcode'
    obtain ⟨-, m', hm', hid'⟩ := h.exists_artifacts hstore hr hof
    refine ⟨⟨c, ⟨hc, hid⟩, fun c' ⟨hc', hid'⟩ => ?_⟩, fun c' hc' hid' => ?_, ?_⟩
    · obtain ⟨m', hof'⟩ := hrecord c' hc' hid'
      rw [hof, Option.some.injEq, Prod.mk.injEq] at hof'
      exact hof'.2.symm
    · obtain ⟨m', hof'⟩ := hrecord c' hc' hid'
      obtain ⟨code', hcode', -, -, hinterface, hfunction, hmodule⟩ :=
        Artifacts.ofRevision?_eq_some hof'
      rw [hcode, RevisionContent.code.injEq] at hcode'
      subst hcode'
      exact ⟨hinterface, hfunction, hmodule⟩
    · refine ⟨m', ⟨hm', hid'.trans hm⟩, fun m'' ⟨hm'', hid''⟩ => ?_⟩
      have hsame : m''.id = m'.id := by
        calc m''.id = code.codeModule := hid''
          _ = m.id := hm.symm
          _ = m'.id := hid'.symm
      exact List.inj_on_of_nodup_map hmodules hm'' hm' hsame
  · -- the record is that of a revision that was gathered for the tree or for the wiring
    obtain ⟨r', hr, m, hof⟩ := h.of_component hc
    obtain ⟨code, hcode, -, hid, -⟩ := Artifacts.ofRevision?_eq_some hof
    obtain ⟨id, hget, hreached | ⟨entry, hentry, huses⟩⟩ := h.cases hr
    · obtain ⟨n, hn, hcomponent⟩ := Revision.exists_inside_of_reaches h.flattened hreached hcode
      exact .inl ⟨n, hn, hcomponent.trans hid.symm⟩
    · rw [hstore] at hget
      rw [hid, MemoryStore.id_of_get hget]
      exact .inr ⟨entry, hentry, huses⟩
  · rw [h.codeModules] at hm
    obtain ⟨id, hget⟩ := (Dict.mem_values_iff _ _).1 hm
    obtain ⟨-, r', hr, c, hof⟩ := hgathered.of_module hget
    obtain ⟨code, -, hmodule, -, -, -, hrecord⟩ := Artifacts.ofRevision?_eq_some hof
    exact ⟨c, (h.exists_artifacts hstore hr hof).1, hrecord.trans hmodule.symm⟩

end Prepared

/-- **A request of a memory store is prepared into an input that is self-contained, free of
duplicates and minimal**, and its wiring is the explicit one of the request, or else the one
that the stored revision brings. -/
theorem prepare_selfContained {e : Engine} {s : MemoryStore} (hstore : e.store = s.toStore)
    {r : ExecutionRequest} {x : ExecutionInput} (h : (e.prepare r).result = .ok x) :
    x.SelfContained ∧
      ∃ root, s.get r.revision = .ok root ∧ x.wiring = r.wiring.getD root.testWiring := by
  obtain ⟨root, closure, components, hprepared⟩ := exists_prepared h
  refine ⟨hprepared.selfContained hstore, root, ?_, hprepared.wiring⟩
  have hget := hprepared.fetched
  rw [hstore] at hget
  exact hget

/-! A workflow that runs one component twice on what another one reads. -/

/-- A component that hands its input on. -/
def sampleStep : Revision :=
  .component (.ofNat 1) (.ofNat 2) "step" "steps" ⟨[.required "x" .any], [⟨"y", .any⟩]⟩
    ⟨.ofNat 3, passThroughFunction, ""⟩

/-- A component that may be used as a source. -/
def sampleSource : Revision :=
  { Revision.component (.ofNat 4) (.ofNat 2) "reading" "sources" ⟨[], [⟨"y", .any⟩]⟩
      ⟨.ofNat 5, "read", ""⟩ with
    state := .released }

/-- A workflow of two operators that instance the same component. -/
def sampleWorkflow : Revision :=
  .workflow (.ofNat 6) (.ofNat 7) "twice" "steps" ⟨[.required "in" .any], [⟨"out", .any⟩]⟩
    { operators := [⟨.ofNat 8, .ofNat 1, "first"⟩, ⟨.ofNat 9, .ofNat 1, "second"⟩]
      connections := [⟨⟨.ofNat 8, "y"⟩, ⟨.ofNat 9, "x"⟩⟩]
      inputs := [⟨"in", ⟨.ofNat 8, "x"⟩⟩]
      outputs := [⟨"out", ⟨.ofNat 9, "y"⟩⟩] }

/-- An engine over a store of the three. -/
def sampleEngine : Engine :=
  .inProcess .standard .standard
    (MemoryStore.ofList [sampleWorkflow, sampleStep, sampleSource]).toStore .standard

/-- A request to run the workflow on what the source reads. -/
def sampleRequest : ExecutionRequest where
  revision := .ofNat 6
  wiring := some
    { inputs := [⟨"in", componentAdapterId,
        { Descriptor.empty with refId := some "00000000-0000-0000-0000-000000000004" }⟩]
      outputs := [] }
  jobId := .ofNat 10
  runPurePlots := none

theorem prepare_selfContained_sample :
    ∃ x, (sampleEngine.prepare sampleRequest).result = .ok x ∧ x.SelfContained ∧
      x.components.map (·.id) = [.ofNat 1, .ofNat 4] ∧
      x.codeModules.map (·.id) = [.ofNat 3, .ofNat 5] := by
  have hids : (sampleEngine.prepare sampleRequest).result.toOption.map (fun x =>
      (x.components.map (·.id), x.codeModules.map (·.id))) =
        some ([.ofNat 1, .ofNat 4], [.ofNat 3, .ofNat 5]) := rfl
  cases hresult : (sampleEngine.prepare sampleRequest).result with
  | error f =>
      rw [hresult] at hids
      cases hids
  | ok x =>
      rw [hresult] at hids
      obtain ⟨hcomponents, hmodules⟩ := Prod.mk.inj (Option.some.inj hids)
      exact ⟨x, rfl, (prepare_selfContained rfl hresult).1, hcomponents, hmodules⟩

end Engine

end Dataflow
