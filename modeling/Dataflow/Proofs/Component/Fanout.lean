import Dataflow.Proofs.Component.Binding

set_option autoImplicit false

/-! # Both levels of fan-out

Loading and sending are fan-outs over the entries of a wiring, and the component adapter runs a
further fan-out over the bindings of a call. `Adapters.fanOuts_pointwise` says of both that they
are pointwise. The first needs adapters whose answers depend on the calls only; the component
adapter is one of them (`ComponentConfig.steady_adapter`), and its own fan-outs need nothing.
-/

namespace Dataflow

namespace ComponentConfig

/-- The units of loading bindings. -/
def loadUnits (c : ComponentConfig) (ctx : AdapterContext) (bindings : Bindings) : List Work :=
  bindings.toList.map fun b => (b.1, c.runBinding ctx .load b.2 none)

/-- The units of sending bindings. -/
def sendUnits (c : ComponentConfig) (ctx : AdapterContext) (values : Values)
    (bindings : Bindings) : List Work :=
  bindings.toList.map fun b => (b.1, c.sendBinding ctx values b.1 b.2)

variable {c : ComponentConfig} {x : Executor} {artifacts : Artifacts} {bindings : Bindings}
  {values : Values} {nested : ExecutionInput → Attempt ExecutionError ExecutionResult}

theorem nodup_loadUnits (ctx : AdapterContext) :
    ((c.loadUnits ctx bindings).map (·.1)).Nodup := by
  rw [loadUnits, List.map_map]
  exact bindings.nodup_keys

theorem nodup_sendUnits (ctx : AdapterContext) :
    ((c.sendUnits ctx values bindings).map (·.1)).Nodup := by
  rw [sendUnits, List.map_map]
  exact bindings.nodup_keys

theorem steady_sendBinding (name : String) (d : Descriptor) :
    (c.sendBinding ⟨artifacts, x.runWith nested⟩ values name d).Steady := by
  unfold sendBinding
  cases values.get? name with
  | none => exact Attempt.steady_of_constant fun _ _ => rfl
  | some v => exact steady_runBinding

theorem steady_loadUnits :
    ∀ u ∈ c.loadUnits ⟨artifacts, x.runWith nested⟩ bindings, u.2.Steady := by
  intro u hu
  obtain ⟨b, -, rfl⟩ := List.mem_map.1 hu
  exact steady_runBinding

theorem steady_sendUnits :
    ∀ u ∈ c.sendUnits ⟨artifacts, x.runWith nested⟩ values bindings, u.2.Steady := by
  intro u hu
  obtain ⟨b, -, rfl⟩ := List.mem_map.1 hu
  exact steady_sendBinding b.1 b.2

theorem pointwise_loadBindings :
    Pointwise .load (c.loadUnits ⟨artifacts, x.runWith nested⟩ bindings)
      (c.loadBindings ⟨artifacts, x.runWith nested⟩ bindings) := by
  refine pointwise_of_settled (nodup_loadUnits _) steady_loadUnits id fun s j => ?_
  obtain ⟨j', hresume, hcourse⟩ := exists_resume_settle (s := s) (j := j) .load
    (c.loadUnits ⟨artifacts, x.runWith nested⟩ bindings)
  exact ⟨j', by rw [Except.map_id]; exact hresume, hcourse⟩

theorem valuesPointwise_loadBindings :
    ValuesPointwise (c.loadUnits ⟨artifacts, x.runWith nested⟩ bindings)
      (c.loadBindings ⟨artifacts, x.runWith nested⟩ bindings) := by
  refine valuesPointwise_of_settled .load (nodup_loadUnits _) steady_loadUnits
    fun s j => ?_
  obtain ⟨j', hresume, -⟩ := exists_resume_settle (s := s) (j := j) .load
    (c.loadUnits ⟨artifacts, x.runWith nested⟩ bindings)
  exact congrArg Prod.fst hresume

theorem exists_resume_sendBindings (c : ComponentConfig) (bindings : Bindings) (values : Values)
    (ctx : AdapterContext) (s : Supply) (j : Journal) :
    ∃ j', (c.sendBindings ctx bindings values).resume s j =
        (((Work.outcomes s j (c.sendUnits ctx values bindings)).settled .send).map
          fun _ => .empty, j') ∧
      Journal.Course (Work.perform s) (c.sendUnits ctx values bindings) j j' :=
  exists_resume_settle_bind (fun _ => Dict.empty) .send (c.sendUnits ctx values bindings)
    fun _ j => ⟨j, rfl, .here j⟩

theorem pointwise_sendBindings :
    Pointwise .send (c.sendUnits ⟨artifacts, x.runWith nested⟩ values bindings)
      (c.sendBindings ⟨artifacts, x.runWith nested⟩ bindings values) :=
  pointwise_of_settled (nodup_sendUnits _) steady_sendUnits (fun _ => .empty)
    (exists_resume_sendBindings _ _ _ _)

/-! ## The component adapter as one of the adapters -/

/-- A fan-out over one steady unit is steady. -/
theorem steady_of_settled_single (direction : Direction) (u : Work) (h : u.2.Steady)
    {fanOut : Attempt AdapterError Values} (result : Values → Values)
    (hresume : ∀ s j, ∃ j', fanOut.resume s j =
      (((Work.outcomes s j [u]).settled direction).map result, j')) : fanOut.Steady := by
  refine h.map (f := fun r => (Outcomes.settled direction [(u.1, r)]).map result) (g := id)
    (fun s j => ?_) (fun _ _ _ _ hsame => hsame) fun r r' hr => ?_
  · obtain ⟨j', hj'⟩ := hresume s j
    rw [hj']
    rfl
  · cases r with
    | error f =>
        cases r' with
        | error f' => rfl
        | ok v' => cases hr
    | ok v =>
        cases r' with
        | error f' => cases hr
        | ok v' =>
            obtain rfl := Option.some.inj hr
            rfl

/-- The answers of the component adapter depend on the call only, up to generated identities. -/
theorem steady_adapter (c : ComponentConfig) :
    c.adapter.Steady ⟨artifacts, x.runWith nested⟩ where
  load name d := by
    refine steady_of_settled_single .load
      (name, c.runBinding ⟨artifacts, x.runWith nested⟩ .load d none) steady_runBinding id
      fun s j => ?_
    obtain ⟨j', hresume, -⟩ := exists_resume_settle (s := s) (j := j) .load
      [(name, c.runBinding ⟨artifacts, x.runWith nested⟩ .load d none)]
    exact ⟨j', by rw [Except.map_id]; exact hresume⟩
  send name d v := by
    refine steady_of_settled_single .send
      (name, c.sendBinding ⟨artifacts, x.runWith nested⟩ (.singleton name v) name d)
      (steady_sendBinding name d) (fun _ => .empty) fun s j => ?_
    obtain ⟨j', hresume, -⟩ := exists_resume_sendBindings c (.singleton name d)
      (.singleton name v) ⟨artifacts, x.runWith nested⟩ s j
    exact ⟨j', hresume⟩

end ComponentConfig

namespace Adapters

/-! ## Both levels -/

theorem agreeing_load {a : Adapters} {ctx : AdapterContext} (h : a.Steady ctx)
    {entries entries' : List WiringEntry} (hnames : (entries.map (·.name)).Nodup)
    (hperm : entries'.Perm entries) (s : Supply) (j : Journal) (s' : Supply) (j' : Journal) :
    Agreeing (a.loadUnits ctx entries) (a.loadUnits ctx entries') s j s' j'
      ((a.load ctx entries).resume s j).1 ((a.load ctx entries').resume s' j').1 := by
  have hnames' : (entries'.map (·.name)).Nodup := (hperm.map _).nodup_iff.2 hnames
  have hunits : (a.loadUnits ctx entries').Perm (a.loadUnits ctx entries) := hperm.map _
  refine (pointwise_load h hnames).reordered (pointwise_load h hnames') hunits ?_ s j s' j'
  intro s j s' j' values values' hv hv'
  exact (valuesPointwise_load h hnames).eq (valuesPointwise_load h hnames') hunits hv hv'

theorem agreeing_send {a : Adapters} {ctx : AdapterContext} (h : a.Steady ctx)
    {entries entries' : List WiringEntry} (hnames : (entries.map (·.name)).Nodup)
    (values : Values) (hperm : entries'.Perm entries) (s : Supply) (j : Journal) (s' : Supply)
    (j' : Journal) :
    Agreeing (a.sendUnits ctx values entries) (a.sendUnits ctx values entries') s j s' j'
      ((a.send ctx entries values).resume s j).1
      ((a.send ctx entries' values).resume s' j').1 := by
  have hnames' : (entries'.map (·.name)).Nodup := (hperm.map _).nodup_iff.2 hnames
  have hunits : (a.sendUnits ctx values entries').Perm (a.sendUnits ctx values entries) :=
    hperm.map _
  exact (pointwise_send h hnames values).reordered (pointwise_send h hnames' values) hunits
    (fun _ _ _ _ _ _ _ _ => rfl) s j s' j'

/-- **Fan-outs are all or nothing, and pointwise.** With adapters whose answers depend on the calls
only, loading and sending entries under distinct names runs every entry, ends as the entries do
when they are served alone, and does so in every order. Loading and sending the bindings of a
call by the component adapter does the same with any adapters. -/
theorem fanOuts_pointwise {a : Adapters} {ctx : AdapterContext} (h : a.Steady ctx)
    {entries : List WiringEntry} (hnames : (entries.map (·.name)).Nodup) (values : Values) :
    (Pointwise .load (a.loadUnits ctx entries) (a.load ctx entries) ∧
      ValuesPointwise (a.loadUnits ctx entries) (a.load ctx entries) ∧
      Pointwise .send (a.sendUnits ctx values entries) (a.send ctx entries values)) ∧
    (∀ entries', entries'.Perm entries → ∀ s j s' j',
      Agreeing (a.loadUnits ctx entries) (a.loadUnits ctx entries') s j s' j'
        ((a.load ctx entries).resume s j).1 ((a.load ctx entries').resume s' j').1 ∧
      Agreeing (a.sendUnits ctx values entries) (a.sendUnits ctx values entries') s j s' j'
        ((a.send ctx entries values).resume s j).1
        ((a.send ctx entries' values).resume s' j').1) ∧
    ∀ (c : ComponentConfig) (artifacts : Artifacts) (x : Executor)
      (nested : ExecutionInput → Attempt ExecutionError ExecutionResult) (bindings : Bindings)
      (sent : Values), let ctx : AdapterContext := ⟨artifacts, x.runWith nested⟩
      Pointwise .load (c.loadUnits ctx bindings) (c.loadBindings ctx bindings) ∧
      ValuesPointwise (c.loadUnits ctx bindings) (c.loadBindings ctx bindings) ∧
      Pointwise .send (c.sendUnits ctx sent bindings) (c.sendBindings ctx bindings sent) := by
  refine ⟨⟨pointwise_load h hnames, valuesPointwise_load h hnames,
    pointwise_send h hnames values⟩, ?_, ?_⟩
  · intro entries' hperm s j s' j'
    exact ⟨agreeing_load h hnames hperm s j s' j', agreeing_send h hnames values hperm s j s' j'⟩
  · intro c artifacts x nested bindings sent ctx
    exact ⟨ComponentConfig.pointwise_loadBindings, ComponentConfig.valuesPointwise_loadBindings,
      ComponentConfig.pointwise_sendBindings⟩

/-! The adapter that gives names for values, next to the component adapter. -/

/-- The two adapters. -/
def sampleAdapters : Adapters := .ofList [Executor.echo, ComponentConfig.standard.adapter]

/-- A context without artifacts. -/
def sampleContext : AdapterContext :=
  ⟨.empty, (⟨sampleAdapters, .empty⟩ : Executor).runNested 1⟩

/-- An entry that is loaded, one for a component that is not there, and one for no adapter. -/
def sampleEntries : List WiringEntry :=
  [⟨"x", "echo", Executor.echoDescriptor⟩, ⟨"y", componentAdapterId, Executor.echoDescriptor⟩,
    ⟨"z", "nobody", Executor.echoDescriptor⟩]

theorem steady_echo (ctx : AdapterContext) : Executor.echo.Steady ctx :=
  ⟨fun _ _ => Attempt.steady_of_constant fun _ _ => rfl,
    fun _ _ _ => Attempt.steady_of_constant fun _ _ => rfl⟩

theorem sampleAdapters_cases {id : String} {adapter : Adapter}
    (h : sampleAdapters.get? id = some adapter) :
    adapter = ComponentConfig.standard.adapter ∨ adapter = Executor.echo := by
  have hget : sampleAdapters.get? id = if id = componentAdapterId then
      some ComponentConfig.standard.adapter
    else if id = "echo" then some Executor.echo else none := by
    show ((Dict.insert .empty "echo" Executor.echo).insert componentAdapterId
      ComponentConfig.standard.adapter).get? id = _
    rw [Dict.get?_insert, Dict.get?_insert, Dict.get?_empty]
  rw [hget] at h
  split at h
  · exact .inl (Option.some.inj h).symm
  · split at h
    · exact .inr (Option.some.inj h).symm
    · cases h

theorem steady_sampleAdapters : sampleAdapters.Steady sampleContext := by
  intro id adapter h
  rcases sampleAdapters_cases h with rfl | rfl
  · exact ComponentConfig.steady_adapter _
  · exact steady_echo _

theorem fanOuts_pointwise_sample :
    sampleAdapters.Steady sampleContext ∧ (sampleEntries.map (·.name)).Nodup ∧
      ∃ error, ((sampleAdapters.load sampleContext sampleEntries).resume
          Executor.countingSupply .empty).1 = .error error ∧
        (∀ name, (∃ f, error.failures.get? name = some f) ↔
          ∃ u ∈ sampleAdapters.loadUnits sampleContext sampleEntries,
            u.1 = name ∧ u.2.Fails) ∧
        error.failures.keys = ["y", "z"] := by
  have hnames : (sampleEntries.map (·.name)).Nodup := by decide
  have hpointwise := (fanOuts_pointwise steady_sampleAdapters hnames .empty).1.1
  have hkeys : (match ((sampleAdapters.load sampleContext sampleEntries).resume
      Executor.countingSupply .empty).1 with
    | .error error => error.failures.keys
    | .ok _ => []) = ["y", "z"] := rfl
  refine ⟨steady_sampleAdapters, hnames, ?_⟩
  cases hload : ((sampleAdapters.load sampleContext sampleEntries).resume
      Executor.countingSupply .empty).1 with
  | ok values =>
      rw [hload] at hkeys
      cases hkeys
  | error error =>
      rw [hload] at hkeys
      exact ⟨error, rfl, hpointwise.failed_iff _ _ error hload, hkeys⟩

end Adapters

end Dataflow
