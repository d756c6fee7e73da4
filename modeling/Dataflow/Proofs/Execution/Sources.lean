import Dataflow.Proofs.Execution.Consistency
import Dataflow.Proofs.Execution.Payload

set_option autoImplicit false

/-! # The source that is shipped for a node

Code modules are merged by identifier and the first one stays, so what a module contains is
decided by the order in which revisions are added: the root, the closure in the order in which
its entries are listed, the components of the wiring. `Engine.prepareIn` leaves that order open;
an engine's own is one choice (`Engine.prepareIn_values`). In each order the module of a node holds
the source of a component node with the same module, and `Engine.prepareIn_sources` says when that
is the source of the node itself: exactly if no two component nodes share a module and differ in
their stored sources.
-/

namespace Dataflow

/-- The source text that is stored for a component. -/
def MemoryStore.source? (s : MemoryStore) (id : Uuid) : Option String :=
  (s.get id).toOption.bind fun r => r.code?.map (·.source)

theorem MemoryStore.source?_of_get {s : MemoryStore} {r : Revision} {code : CodeContent}
    (h : s.get r.id = .ok r) (hcode : r.content = .code code) :
    s.source? r.id = some code.source := by
  rw [source?, h]
  show r.code?.map (·.source) = some code.source
  rw [Revision.code?_eq_some.2 hcode, Option.map_some]

theorem Artifacts.module_of_ofRevision? {r : Revision} {m : CodeModule} {c : ComponentRecord}
    {code : CodeContent} (h : ofRevision? r = some (m, c)) (hcode : r.content = .code code) :
    m = ⟨code.codeModule, code.source⟩ := by
  obtain ⟨m', hm, hrest⟩ := Option.bind_eq_some_iff.1 h
  obtain ⟨c', -, hpair⟩ := Option.bind_eq_some_iff.1 hrest
  cases hpair
  rw [CodeModule.ofRevision?, Revision.code?_eq_some.2 hcode, Option.map_some] at hm
  exact (Option.some.inj hm).symm

/-- A module with an identifier that is brought by the first of two lists is brought by the
first. -/
theorem Artifacts.Gathered.of_module_append {l l' : List Revision} {a : Artifacts}
    (h : a.Gathered (l ++ l')) {r : Revision} (hr : r ∈ l) {m' m : CodeModule}
    {c : ComponentRecord} (hof : ofRevision? r = some (m', c))
    (hm : a.codeModules.get? m'.id = some m) :
    ∃ r₀ ∈ l, ∃ c₀, ofRevision? r₀ = some (m, c₀) := by
  rw [h.modules, List.filterMap_append, List.find?_append] at hm
  have hfirst : ((l.filterMap ofRevision?).find? fun p => p.1.id = m'.id).isSome :=
    List.find?_isSome.2 ⟨_, List.mem_filterMap.2 ⟨r, hr, hof⟩, decide_eq_true rfl⟩
  obtain ⟨⟨m₀, c₀⟩, hfind⟩ := Option.isSome_iff_exists.1 hfirst
  rw [hfind, Option.some_or, Option.map_some, Option.some.injEq] at hm
  obtain ⟨r₀, hr₀, hof₀⟩ := List.mem_filterMap.1 (List.mem_of_find?_eq_some hfind)
  exact ⟨r₀, hr₀, c₀, hm ▸ hof₀⟩

namespace Engine

/-- The preparation of a request that adds the closure in the order of a given listing. -/
def prepareIn (listing : Closure → List Revision) (e : Engine) (r : ExecutionRequest) :
    Traced ExecutionError ExecutionInput := do
  let root ← Traced.ofExcept (e.fetchRoot r.revision)
  let closure ← (e.store.fetchClosure root).mapError .ofModel
  let workflow ← root.flattenLogged closure
  let components ← e.fetchComponents (r.wiring.getD root.testWiring)
  let configuration : Configuration :=
    ⟨root.displayName, r.runPurePlots.getD e.config.runPurePlots⟩
  let gathered :=
    ((Assembly.start root.id |>.addRevisions [root]).addRevisions (listing closure)).addRevisions
      components
  let assembly : Assembly :=
    { gathered with
      wiring := r.wiring, defaultWiring := root.testWiring, configuration := some configuration }
  assembly.assembleLogged r.jobId workflow

/-- An engine lists the closure by operators. -/
theorem prepareIn_values (e : Engine) (r : ExecutionRequest) :
    e.prepareIn Dict.values r = e.prepare r :=
  rfl

variable {e : Engine} {s : MemoryStore} {r : ExecutionRequest} {x : ExecutionInput}

/-- What a request of a memory store is prepared from, in whatever order the closure is listed. -/
structure PreparedFrom (s : MemoryStore) (root : Revision) (closure : Closure)
    (listed components : List Revision) (x : ExecutionInput) : Prop where
  flattened : root.flatten closure = .ok x.workflow
  collected : s.toStore.nestedClosure root = .ok closure
  listed_perm : listed.Perm closure.values
  stored : ∀ r' ∈ [root] ++ listed ++ components, s.get r'.id = .ok r'
  artifacts : ∃ a : Artifacts, a.Gathered ([root] ++ listed ++ components) ∧
    x.codeModules = a.codeModules.values ∧ x.components = a.components.values
  consistent : x.Consistent

theorem exists_preparedFrom (hstore : e.store = s.toStore) {listing : Closure → List Revision}
    (hlisting : ∀ closure, (listing closure).Perm closure.values)
    (h : (e.prepareIn listing r).result = .ok x) :
    ∃ root closure components, PreparedFrom s root closure (listing closure) components x := by
  -- each step of the preparation has succeeded, and is read as what it says of the store
  rw [prepareIn, Traced.bind_eq_ok] at h
  obtain ⟨root, hroot, h⟩ := h
  rw [Traced.bind_eq_ok] at h
  obtain ⟨closure, hclosure, h⟩ := h
  rw [Traced.bind_eq_ok] at h
  obtain ⟨workflow, hworkflow, h⟩ := h
  rw [Traced.bind_eq_ok] at h
  obtain ⟨components, hcomponents, h⟩ := h
  rw [Traced.result_ofExcept, fetchRoot_eq_ok_iff, hstore] at hroot
  rw [Traced.result_mapError, mapError_eq_ok, RevisionStore.result_fetchClosure,
    hstore] at hclosure
  rw [Revision.result_flattenLogged, mapError_eq_ok] at hworkflow
  rw [result_fetchComponents, mapError_eq_ok] at hcomponents
  rw [Assembly.result_assembleLogged, mapError_eq_ok, Assembly.assemble_eq_ok_iff] at h
  obtain ⟨rfl, hdefect⟩ := h
  -- a memory store keeps a revision under its own identifier
  have hkept : ∀ {id : Uuid} {r' : Revision}, s.get id = .ok r' → s.get r'.id = .ok r' := by
    intro id r' hget
    rw [MemoryStore.id_of_get hget]
    exact hget
  refine ⟨root, closure, components, hworkflow, hclosure, hlisting closure, fun r' hr => ?_,
    ⟨_, ((Artifacts.gathered_empty.add [root]).add (listing closure)).add components, rfl, rfl⟩,
    ExecutionInput.defect?_eq_none_iff.1 hdefect⟩
  rcases List.mem_append.1 hr with hr | hr
  · rcases List.mem_append.1 hr with hr | hr
    · rw [List.mem_singleton.1 hr]
      exact hkept hroot.1
    · obtain ⟨o, ho⟩ := (Dict.mem_values_iff _ _).1 ((hlisting closure).mem_iff.1 hr)
      obtain ⟨⟨id, hid⟩, -⟩ := RevisionStore.reaches_of_nestedClosure hclosure ho
      exact hkept hid
  · obtain ⟨id, hid, -⟩ := mem_boundComponents hcomponents hr
    rw [hstore] at hid
    exact hkept hid

namespace PreparedFrom

variable {root : Revision} {closure : Closure} {listed components : List Revision}

/-- A revision that the root reaches is the root or listed. -/
theorem mem_listed (h : PreparedFrom s root closure listed components x) {r' : Revision}
    (hr : root.Reaches closure r') : r' ∈ [root] ++ listed := by
  cases hr with
  | root => exact List.mem_append_left _ (List.mem_singleton_self root)
  | nested _ _ _ hget =>
      have hvalue := (Dict.mem_values_iff _ _).2 ⟨_, hget⟩
      exact List.mem_append_right _ (h.listed_perm.mem_iff.2 hvalue)

/-- The root and what is listed are reached. -/
theorem reaches_of_mem (h : PreparedFrom s root closure listed components x) {r' : Revision}
    (hr : r' ∈ [root] ++ listed) : root.Reaches closure r' := by
  rcases List.mem_append.1 hr with hr | hr
  · rw [List.mem_singleton.1 hr]
    exact .root
  · obtain ⟨o, ho⟩ := (Dict.mem_values_iff _ _).1 (h.listed_perm.mem_iff.1 hr)
    exact (RevisionStore.reaches_of_nestedClosure h.collected ho).2

/-- A component node is made from a stored revision with the code that the node runs. -/
theorem exists_code (h : PreparedFrom s root closure listed components x) {n : ComponentNode}
    (hn : Node.Inside (.component n) x.workflow) :
    ∃ r' code, r' ∈ [root] ++ listed ∧ s.get n.component = .ok r' ∧
      r'.content = .code code ∧ n.codeModule = code.codeModule := by
  obtain ⟨r', code, id, name, hreached, hcode, rfl⟩ :=
    Revision.exists_leaf_of_inside .root h.flattened hn
  have hr := h.mem_listed hreached
  exact ⟨r', code, hr, h.stored r' (List.mem_append_left _ hr), hcode, rfl⟩

/-- The revision of a component node brings a module for it: it has a record, for else the
input would not be consistent. -/
theorem exists_artifacts (h : PreparedFrom s root closure listed components x) {n : ComponentNode}
    (hn : Node.Inside (.component n) x.workflow) :
    ∃ r' ∈ [root] ++ listed, ∃ m c, Artifacts.ofRevision? r' = some (m, c) ∧
      m.id = n.codeModule := by
  obtain ⟨a, hgathered, -, hcomponents⟩ := h.artifacts
  obtain ⟨r', code, hr, hget, hcode, hmodule⟩ := h.exists_code hn
  obtain ⟨c, hc, hid, -⟩ := h.consistent.node n hn
  rw [hcomponents] at hc
  obtain ⟨key, hrecord⟩ := (Dict.mem_values_iff _ _).1 hc
  obtain ⟨-, r'', hr'', m, hof⟩ := hgathered.of_component hrecord
  obtain ⟨code', hcode', hm, hid', -⟩ := Artifacts.ofRevision?_eq_some hof
  -- the record and the node name the same revision, and the store has one of each name
  have hget'' := h.stored r'' hr''
  rw [hid'.symm.trans hid, hget] at hget''
  obtain rfl : r' = r'' := Except.ok.inj hget''
  rw [hcode, RevisionContent.code.injEq] at hcode'
  subst hcode'
  exact ⟨r', hr, m, c, hof, hm.trans hmodule.symm⟩

/-- Listed code is run by a component node, and its source is the stored one of this node. -/
theorem exists_node (h : PreparedFrom s root closure listed components x) {r' : Revision}
    (hr : r' ∈ [root] ++ listed) {code : CodeContent} (hcode : r'.content = .code code) :
    ∃ n, Node.Inside (.component n) x.workflow ∧ n.codeModule = code.codeModule ∧
      s.source? n.component = some code.source := by
  obtain ⟨n, hn, hid⟩ :=
    Revision.exists_inside_of_reaches h.flattened (h.reaches_of_mem hr) hcode
  have hstored := h.stored r' (List.mem_append_left _ hr)
  obtain ⟨r'', code', -, hget, hcode', hmodule⟩ := h.exists_code hn
  rw [hid, hstored] at hget
  obtain rfl : r' = r'' := Except.ok.inj hget
  rw [hcode, RevisionContent.code.injEq] at hcode'
  subst hcode'
  exact ⟨n, hn, hmodule, by rw [hid, MemoryStore.source?_of_get hstored hcode]⟩

/-- **The module of a node is that of a node**: it holds the stored source of a component node
with the same module. -/
theorem exists_source (h : PreparedFrom s root closure listed components x) {n : ComponentNode}
    (hn : Node.Inside (.component n) x.workflow) {m : CodeModule} (hm : m ∈ x.codeModules)
    (hid : m.id = n.codeModule) :
    ∃ n', Node.Inside (.component n') x.workflow ∧ n'.codeModule = n.codeModule ∧
      s.source? n'.component = some m.code := by
  obtain ⟨a, hgathered, hmodules, -⟩ := h.artifacts
  rw [hmodules] at hm
  obtain ⟨key, hkey⟩ := (Dict.mem_values_iff _ _).1 hm
  obtain ⟨hmkey, -⟩ := hgathered.of_module hkey
  -- the revision of the node brings a module, so the first one is not from the wiring
  obtain ⟨r', hr, m', c, hof, hm'⟩ := h.exists_artifacts hn
  have hsame : key = m'.id := by
    calc key = m.id := hmkey.symm
      _ = n.codeModule := hid
      _ = m'.id := hm'.symm
  rw [hsame] at hkey
  obtain ⟨r₀, hr₀, c₀, hof₀⟩ := hgathered.of_module_append hr hof hkey
  obtain ⟨code₀, hcode₀, hm₀, -⟩ := Artifacts.ofRevision?_eq_some hof₀
  obtain ⟨n', hn', hmodule, hsource⟩ := h.exists_node hr₀ hcode₀
  refine ⟨n', hn', ?_, ?_⟩
  · calc n'.codeModule = code₀.codeModule := hmodule
      _ = m.id := hm₀.symm
      _ = n.codeModule := hid
  · rw [hsource, Artifacts.module_of_ofRevision? hof₀ hcode₀]

end PreparedFrom

/-- **When every node is shipped with its own source.** In whatever order the closure is listed,
a prepared input has one module for each component node, which holds the stored source of a
component node with this module. It is the source of the node itself, for all of them, exactly
if component nodes with the same module do not differ in their sources. -/
theorem prepareIn_sources (hstore : e.store = s.toStore) {listing : Closure → List Revision}
    (hlisting : ∀ closure, (listing closure).Perm closure.values)
    (h : (e.prepareIn listing r).result = .ok x) :
    (∀ n, Node.Inside (.component n) x.workflow →
        (∃! m, m ∈ x.codeModules ∧ m.id = n.codeModule) ∧
          ∀ m ∈ x.codeModules, m.id = n.codeModule →
            ∃ n', Node.Inside (.component n') x.workflow ∧ n'.codeModule = n.codeModule ∧
              s.source? n'.component = some m.code) ∧
      ((∀ n, Node.Inside (.component n) x.workflow →
          ∀ m ∈ x.codeModules, m.id = n.codeModule → s.source? n.component = some m.code) ↔
        ∀ n n', Node.Inside (.component n) x.workflow → Node.Inside (.component n') x.workflow →
          n.codeModule = n'.codeModule → s.source? n.component = s.source? n'.component) := by
  obtain ⟨root, closure, components, hprepared⟩ := exists_preparedFrom hstore hlisting h
  refine ⟨fun n hn => ⟨hprepared.consistent.existsUnique_module hn, fun m hm hid => ?_⟩, ?_, ?_⟩
  · exact hprepared.exists_source hn hm hid
  · intro hown n n' hn hn' hsame
    obtain ⟨m, ⟨hm, hid⟩, -⟩ := hprepared.consistent.existsUnique_module hn
    rw [hown n hn m hm hid, hown n' hn' m hm (hid.trans hsame)]
  · intro hagree n hn m hm hid
    obtain ⟨n', hn', hmodule, hsource⟩ := hprepared.exists_source hn hm hid
    rw [hagree n n' hn hn' hmodule.symm, hsource]

/-- The two operators of the workflow share a module, and its source. -/
theorem prepareIn_sources_sample :
    ∃ x, (sampleEngine.prepareIn (·.values.reverse) sampleRequest).result = .ok x ∧
      ∀ n, Node.Inside (.component n) x.workflow → ∀ m ∈ x.codeModules, m.id = n.codeModule →
        ∃ n', Node.Inside (.component n') x.workflow ∧ n'.codeModule = n.codeModule ∧
          (MemoryStore.ofList [sampleWorkflow, sampleStep, sampleSource]).source? n'.component =
            some m.code := by
  have hsome : (sampleEngine.prepareIn (·.values.reverse) sampleRequest).result.toOption.isSome :=
    rfl
  cases hresult : (sampleEngine.prepareIn (·.values.reverse) sampleRequest).result with
  | error f =>
      rw [hresult] at hsome
      cases hsome
  | ok x =>
      refine ⟨x, rfl, fun n hn => ?_⟩
      have hsources := prepareIn_sources (e := sampleEngine) rfl
        (fun closure => closure.values.reverse_perm) hresult
      exact (hsources.1 n hn).2

/-! Two components that name the same module and bring different sources for it. -/

/-- A component in the module of the step. -/
def sampleRival : Revision :=
  .component (.ofNat 11) (.ofNat 2) "rival" "steps" ⟨[], [⟨"y", .any⟩]⟩
    ⟨.ofNat 3, "rival", "a source of its own"⟩

/-- A workflow that runs both of them. -/
def sampleMixture : Revision :=
  .workflow (.ofNat 12) (.ofNat 7) "mixture" "steps" .empty
    { WorkflowContent.empty with
      operators := [⟨.ofNat 8, .ofNat 1, "first"⟩, ⟨.ofNat 9, .ofNat 11, "second"⟩] }

/-- A store of the three. -/
def mixtureStore : MemoryStore := .ofList [sampleMixture, sampleStep, sampleRival]

/-- An engine over this store. -/
def mixtureEngine : Engine := .inProcess .standard .standard mixtureStore.toStore .standard

/-- A request to run both components. -/
def mixtureRequest : ExecutionRequest := ⟨.ofNat 12, none, .ofNat 10, none⟩

/-- **A node may be shipped with the source of another one.** -/
theorem shared_module_mixes_sources :
    ∃ x, (mixtureEngine.prepare mixtureRequest).result = .ok x ∧
      ∃ n, Node.Inside (.component n) x.workflow ∧ ∃ m ∈ x.codeModules, m.id = n.codeModule ∧
        mixtureStore.source? n.component ≠ some m.code := by
  have hprepared : (mixtureEngine.prepare mixtureRequest).result.toOption.map (fun x =>
      (x.workflow.componentNodes, x.codeModules)) =
        some ([sampleStep.leaf ⟨.ofNat 3, passThroughFunction, ""⟩ (.ofNat 8) "first",
          sampleRival.leaf ⟨.ofNat 3, "rival", "a source of its own"⟩ (.ofNat 9) "second"],
          [⟨.ofNat 3, ""⟩]) := rfl
  cases hresult : (mixtureEngine.prepare mixtureRequest).result with
  | error f =>
      rw [hresult] at hprepared
      cases hprepared
  | ok x =>
      rw [hresult] at hprepared
      obtain ⟨hnodes, hmodules⟩ := Prod.mk.inj (Option.some.inj hprepared)
      refine ⟨x, rfl, sampleRival.leaf ⟨.ofNat 3, "rival", "a source of its own"⟩ (.ofNat 9)
        "second", ?_, ⟨.ofNat 3, ""⟩, ?_, rfl, ?_⟩
      · rw [← Node.mem_componentNodes_iff, hnodes]
        exact List.mem_cons_of_mem _ List.mem_cons_self
      · rw [hmodules]
        exact List.mem_cons_self
      · have hsource : mixtureStore.source? (.ofNat 11) = some "a source of its own" := rfl
        show mixtureStore.source? (.ofNat 11) ≠ some ""
        rw [hsource]
        decide

end Engine

end Dataflow
