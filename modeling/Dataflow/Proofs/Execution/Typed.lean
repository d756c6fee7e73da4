import Dataflow.Engine
import Dataflow.Proofs.Component.Refinement
import Dataflow.Proofs.Component.Typed
import Dataflow.Proofs.Graph.Evaluation
import Dataflow.Proofs.Node.Tree

set_option autoImplicit false

/-! # Calls of bodies are well typed

Wherever a value comes from — a wiring, an adapter, the body of another component, a default of a
workflow or of a component — it gets to a body through the component that takes it, and that
component makes it fit. So what holds of a single component (`ComponentNode.leaves_evaluate`)
holds of trees, by induction on the tree, and of executions, by induction on how deep they nest.
An execution that serves a binding runs a record of the execution that the binding stands in, and
calls nothing else (`ComponentConfig.covers_of_builtFrom`). `Executor.run_typed` says it in two
ways: each call in a trace is one that the components and the records of the input allow for, on
inputs that fit, and bodies may be exchanged for others that do the same on inputs that fit.
-/

namespace Dataflow

variable {P : Entry → Prop} {bodies : Bodies} {plots : Bool}

/-! ## Trees -/

namespace WorkflowFrame

theorem leaves_runChildren (w : WorkflowFrame) {l : List Child}
    (h : ∀ child ∈ l, ∀ inputs, (child.evaluate inputs).Leaves P)
    (pending produced : OperatorValues) : (w.runChildren l pending produced).Leaves P := by
  induction l generalizing pending produced with
  | nil => exact Traced.leaves_pure _
  | cons child rest ih =>
      have hchild := h child List.mem_cons_self
      refine (Traced.leaves_ofExcept _).bind fun inputs _ => ?_
      refine (hchild inputs).bind fun outputs _ => ?_
      exact ih (fun child hmem => h child (List.mem_cons_of_mem _ hmem)) _ _

/-- A workflow leaves what its children leave, and log events. -/
theorem leaves_evaluate (w : WorkflowFrame) (hevent : ∀ e, P (.event e)) {children : List Child}
    (h : ∀ child ∈ children, ∀ inputs, (child.evaluate inputs).Leaves P) (provided : Values) :
    (w.evaluate children provided).Leaves P := by
  rw [evaluate_eq]
  refine (Traced.leaves_ofExcept _).bind fun order _ => ?_
  refine (Traced.leaves_ofExcept _).bind fun start _ => ?_
  refine (w.leaves_runChildren (fun child hchild => ?_) _ _).bind fun produced _ => ?_
  · obtain ⟨p, -, hp⟩ := List.mem_filterMap.1 hchild
    exact h child (List.mem_of_getElem? hp)
  · refine (Traced.leaves_ofExcept _).bind fun outputs _ => ?_
    exact (Traced.leaves_log (hevent _)).bind fun _ _ => Traced.leaves_pure _

end WorkflowFrame

namespace Node

/-- **A tree leaves what its components leave**, and log events. -/
theorem leaves_evaluate (hevent : ∀ e, P (.event e)) {n : Node}
    (h : ∀ c ∈ n.componentNodes, ∀ provided, (c.evaluate bodies plots provided).Leaves P)
    (provided : Values) : (n.evaluate bodies plots provided).Leaves P := by
  induction n using Node.induction generalizing provided with
  | component c => exact h c (mem_componentNodes_iff.2 .here) provided
  | workflow w children ih =>
      rw [evaluate_workflow_eq]
      refine w.leaves_evaluate hevent (fun child hchild inputs => ?_) provided
      rw [evaluateAll_eq] at hchild
      obtain ⟨n, hn, rfl⟩ := List.mem_map.1 hchild
      refine ih n hn (fun c hc => h c ?_) inputs
      exact mem_componentNodes_iff.2 (.deeper hn (mem_componentNodes_iff.1 hc))

/-- What bodies do on inputs that do not fit makes no difference to a tree. -/
theorem evaluate_agreeing {bodies bodies' : Bodies} (h : bodies.AgreeOnFitting bodies')
    (plots : Bool) (n : Node) : n.evaluate bodies' plots = n.evaluate bodies plots := by
  induction n using Node.induction with
  | component c => exact c.evaluate_agreeing h plots
  | workflow w children ih =>
      have hkids : evaluateAll bodies' plots children = evaluateAll bodies plots children := by
        rw [evaluateAll_eq, evaluateAll_eq]
        exact List.map_congr_left fun n hn => by rw [ih n hn]
      rw [evaluate_workflow_eq, evaluate_workflow_eq, hkids]

end Node

/-! ## Functions that may be called -/

/-- The functions that an execution may call, each with its interface: those of the components of
its tree, and those of the records that it holds for its adapters. -/
inductive ExecutionInput.MayCall (y : ExecutionInput) : Uuid → String → Interface → Prop
  | node {c : ComponentNode} (h : c ∈ y.workflow.componentNodes) :
      MayCall y c.codeModule c.function c.interface
  | record {c : ComponentRecord} (h : c ∈ y.components) :
      MayCall y c.codeModule c.function c.interface

/-- An execution covers another one if it may call each function of the other, with an interface
that all inputs fit that fit the one of the other. -/
def ExecutionInput.Covers (y z : ExecutionInput) : Prop :=
  ∀ codeModule function i, z.MayCall codeModule function i →
    ∃ i', y.MayCall codeModule function i' ∧ ∀ inputs, i.Fits inputs → i'.Fits inputs

theorem ExecutionInput.Covers.refl (y : ExecutionInput) : y.Covers y :=
  fun _ _ i h => ⟨i, h, fun _ hfits => hfits⟩

theorem ExecutionInput.Covers.trans {y z w : ExecutionInput} (h : y.Covers z)
    (h' : z.Covers w) : y.Covers w := by
  intro codeModule function i hi
  obtain ⟨i', hi', hfits'⟩ := h' codeModule function i hi
  obtain ⟨i'', hi'', hfits''⟩ := h codeModule function i' hi'
  exact ⟨i'', hi'', fun inputs hfits => hfits'' inputs (hfits' inputs hfits)⟩

/-- Settling the kinds of inputs does not change what fits them. -/
theorem ComponentRecord.fits_of_fits_regenerate {c : ComponentRecord} {m : CodeModule}
    {inputs : Values} (h : (c.regenerate m).interface.Fits inputs) : c.interface.Fits inputs where
  names name := by
    rw [h.names name]
    show name ∈ (c.interface.inputs.map settled).map (·.name) ↔ _
    rw [List.map_map]
    rfl
  typed name input v hlast hget := by
    refine h.typed name (settled input) v ?_ hget
    show lastWith (·.name) (c.interface.inputs.map settled) name = _
    rw [lastWith_map]
    exact congrArg (Option.map settled) hlast

namespace ComponentConfig

/-- The executions that serve a binding where there are certain artifacts, under whatever
restrictions, filters and value that is sent. -/
def BuiltFrom (artifacts : Artifacts) (y : ExecutionInput) : Prop :=
  ∃ (c : ComponentConfig) (direction : Direction) (d : Descriptor) (sent : Option Json)
    (operatorId : OperatorId) (jobId : Uuid),
    (c.bindingExecution artifacts direction d sent operatorId jobId).result = .ok y

/-- **An execution covers those that serve its bindings.** -/
theorem covers_of_builtFrom {y z : ExecutionInput} (h : BuiltFrom (.ofInput y) z) :
    y.Covers z := by
  obtain ⟨c, direction, d, sent, operatorId, jobId, hz⟩ := h
  have hsteps := hz
  rw [result_bindingExecution] at hsteps
  obtain ⟨⟨record, m⟩, href, -⟩ := bind_eq_ok.1 hsteps
  obtain ⟨id, -, hrecord, -, -⟩ := referenced_eq_ok_iff.1 href
  have hallowed : y.MayCall record.codeModule record.function record.interface :=
    .record (Artifacts.mem_of_component?_ofInput hrecord)
  have hmodule : m.id = record.codeModule := id_of_bindingExecution href hz
  obtain ⟨wiring, rfl⟩ := eq_bindingInput_of_bindingExecution href hz
  rintro _ _ _ (hnode | hheld)
  · -- the only component of the tree is the regenerated one
    obtain rfl := List.mem_singleton.1 hnode
    have hfits : ∀ inputs, (record.regenerate m).interface.Fits inputs →
        record.interface.Fits inputs := fun _ => ComponentRecord.fits_of_fits_regenerate
    refine ⟨record.interface, ?_, hfits⟩
    show y.MayCall m.id record.function record.interface
    rw [hmodule]
    exact hallowed
  · obtain rfl := List.mem_singleton.1 hheld
    exact ⟨_, hallowed, fun _ hfits => hfits⟩

end ComponentConfig

/-! ## Adapters -/

/-- An adapter calls bodies through the executions that it starts only, and starts only some: what
these leave and what is no call of a body is all that it leaves. -/
structure Adapter.StartsOnly (a : Adapter) (starts : Artifacts → ExecutionInput → Prop) : Prop where
  load : ∀ {P : Entry → Prop}, (∀ entry, entry.bodyCall? = none → P entry) →
    ∀ ctx, (∀ y, starts ctx.artifacts y → (ctx.execute y).Leaves P) →
      ∀ bindings, (a.load ctx bindings).Leaves P
  send : ∀ {P : Entry → Prop}, (∀ entry, entry.bodyCall? = none → P entry) →
    ∀ ctx, (∀ y, starts ctx.artifacts y → (ctx.execute y).Leaves P) →
      ∀ bindings values, (a.send ctx bindings values).Leaves P

theorem Adapter.StartsOnly.mono {a : Adapter} {starts starts' : Artifacts → ExecutionInput → Prop}
    (h : a.StartsOnly starts) (hmono : ∀ artifacts y, starts artifacts y → starts' artifacts y) :
    a.StartsOnly starts' where
  load hquiet ctx hruns := h.load hquiet ctx fun y hy => hruns y (hmono ctx.artifacts y hy)
  send hquiet ctx hruns := h.send hquiet ctx fun y hy => hruns y (hmono ctx.artifacts y hy)

/-- A fan-out leaves what its units leave, and log events. -/
theorem leaves_settle (hevent : ∀ e, P (.event e)) (direction : Direction) {units : List Work}
    (h : ∀ u ∈ units, u.2.Leaves P) : (settle direction units).Leaves P := by
  intro s j
  obtain ⟨j', hresume, hcourse⟩ := exists_resume_settle (s := s) (j := j) direction units
  rw [hresume]
  exact hcourse.grows hevent fun u hu j => h u hu s j

section Serving

variable {ctx : AdapterContext} {starts : Artifacts → ExecutionInput → Prop}
  (hquiet : ∀ entry, entry.bodyCall? = none → P entry)
  (hruns : ∀ y, starts ctx.artifacts y → (ctx.execute y).Leaves P)

include hquiet hruns

namespace Adapter

variable {a : Adapter} (honly : a.StartsOnly starts)

include honly

theorem leaves_loadOne (name : String) (d : Descriptor) : (a.loadOne ctx name d).Leaves P := by
  unfold loadOne
  refine (Attempt.leaves_leave (hquiet _ rfl)).bind fun _ _ _ _ _ => ?_
  refine ((honly.load hquiet ctx hruns _).mapError _).bind fun _ _ values _ _ => ?_
  cases values.get? name with
  | none => exact Attempt.leaves_throw _
  | some v => exact Attempt.leaves_pure _

theorem leaves_sendOne (name : String) (d : Descriptor) (v : Json) :
    (a.sendOne ctx name d v).Leaves P := by
  unfold sendOne
  refine (Attempt.leaves_leave (hquiet _ rfl)).bind fun _ _ _ _ _ => ?_
  refine ((honly.send hquiet ctx hruns _ _).mapError _).bind fun _ _ _ _ _ => ?_
  exact Attempt.leaves_pure _

end Adapter

namespace Adapters

variable {a : Adapters} (hadapters : ∀ id adapter, a.get? id = some adapter →
  adapter.StartsOnly starts)

include hadapters

theorem leaves_hand (direction : Direction) (name id : String) (d : Descriptor)
    (value : Option Json) : (a.hand ctx direction name id d value).Leaves P := by
  unfold hand
  cases hget : a.get? id with
  | none => exact Attempt.leaves_throw _
  | some adapter =>
      have honly : adapter.StartsOnly starts := hadapters id adapter hget
      cases direction with
      | load => exact Adapter.leaves_loadOne hquiet hruns honly name d
      | send =>
          cases value with
          | none => exact Attempt.leaves_throw _
          | some v => exact Adapter.leaves_sendOne hquiet hruns honly name d v

theorem leaves_serve (direction : Direction) (e : WiringEntry) (value : Option Json) :
    (a.serve ctx direction e value).Leaves P := by
  unfold serve
  cases e.resolve direction with
  | error fault => exact Attempt.leaves_throw _
  | ok binding =>
      cases binding with
      | direct v => exact Attempt.leaves_pure _
      | adapter id d => exact leaves_hand hquiet hruns hadapters direction e.name id d value

theorem leaves_load (entries : List WiringEntry) : (a.load ctx entries).Leaves P := by
  have hevent : ∀ e, P (.event e) := fun e => hquiet _ rfl
  have hsettle : (settle .load (a.loadUnits ctx entries)).Leaves P := by
    apply leaves_settle hevent .load
    intro u hu
    obtain ⟨e, -, rfl⟩ := List.mem_map.1 hu
    exact leaves_serve hquiet hruns hadapters .load e none
  refine hsettle.bind fun _ _ values _ _ => ?_
  exact (Attempt.leaves_log (hevent _)).bind fun _ _ _ _ _ => Attempt.leaves_pure _

theorem leaves_send (entries : List WiringEntry) (values : Values) :
    (a.send ctx entries values).Leaves P := by
  have hevent : ∀ e, P (.event e) := fun e => hquiet _ rfl
  have hsettle : (settle .send (a.sendUnits ctx values entries)).Leaves P := by
    apply leaves_settle hevent .send
    intro u hu
    obtain ⟨e, -, rfl⟩ := List.mem_map.1 hu
    exact leaves_serve hquiet hruns hadapters .send e (values.get? e.name)
  exact hsettle.bind fun _ _ sent _ _ => Attempt.leaves_log (hevent _)

end Adapters

end Serving

/-! ## The adapter of components -/

namespace ComponentConfig

variable {c : ComponentConfig} {ctx : AdapterContext}

theorem leaves_runBinding (hevent : ∀ e, P (.event e))
    (hruns : ∀ y, BuiltFrom ctx.artifacts y → (ctx.execute y).Leaves P) (direction : Direction)
    (d : Descriptor) (sent : Option Json) : (c.runBinding ctx direction d sent).Leaves P := by
  unfold runBinding
  refine Attempt.leaves_freshOperatorId.bind fun _ _ operatorId _ _ => ?_
  refine Attempt.leaves_freshId.bind fun _ _ jobId _ _ => ?_
  have hexecution : (c.bindingExecution ctx.artifacts direction d sent operatorId jobId).Leaves P :=
    leaves_bindingExecution hevent operatorId jobId
  refine ((Attempt.leaves_ofTraced hexecution).mapError _).bind fun s j y j' hy => ?_
  have hbuilt : BuiltFrom ctx.artifacts y := by
    have hresult := congrArg Prod.fst hy
    rw [Attempt.resume_mapError] at hresult
    exact ⟨c, direction, d, sent, operatorId, jobId, mapError_eq_ok.1 hresult⟩
  refine (Attempt.leaves_log (hevent _)).bind fun _ _ _ _ _ => ?_
  refine ((hruns y hbuilt).mapError _).bind fun _ _ result _ _ => ?_
  exact fun s j => by
    rw [resume_bindingValue_snd]
    exact .refl j

/-- **The adapter of components starts executions of bindings only**, and these are made of the
artifacts that it is called with. -/
theorem startsOnly_adapter (c : ComponentConfig) : c.adapter.StartsOnly BuiltFrom where
  load := by
    intro P hquiet ctx hruns bindings
    have hevent : ∀ e, P (.event e) := fun e => hquiet _ rfl
    refine leaves_settle hevent .load fun u hu => ?_
    obtain ⟨b, -, rfl⟩ := List.mem_map.1 hu
    exact leaves_runBinding hevent hruns .load b.2 none
  send := by
    intro P hquiet ctx hruns bindings values
    have hevent : ∀ e, P (.event e) := fun e => hquiet _ rfl
    refine (leaves_settle hevent .send fun u hu => ?_).bind fun _ _ _ _ _ =>
      Attempt.leaves_pure _
    obtain ⟨b, -, rfl⟩ := List.mem_map.1 hu
    show (c.sendBinding ctx values b.1 b.2).Leaves P
    unfold sendBinding
    cases values.get? b.1 with
    | none => exact Attempt.leaves_throw _
    | some v => exact leaves_runBinding hevent hruns .send b.2 (some v)

/-- Executions in this process have no other adapter. -/
theorem get?_adapters {id : String} {a : Adapter} (h : c.adapters.get? id = some a) :
    a = c.adapter := by
  unfold adapters at h
  split at h
  · have hget : (Adapters.empty.register c.adapter).get? id =
        if id = c.adapter.id then some c.adapter else none := Dict.get?_insert _ _ _ _
    rw [hget] at h
    split at h
    · exact (Option.some.inj h).symm
    · cases h
  · cases h

end ComponentConfig

/-! ## Executions -/

namespace Executor

variable {x : Executor} {starts : Artifacts → ExecutionInput → Prop}

section Running

variable (hquiet : ∀ entry, entry.bodyCall? = none → P entry)
  (hadapters : ∀ id a, x.adapters.get? id = some a → a.StartsOnly starts)

include hquiet hadapters

theorem leaves_finish {ctx : AdapterContext}
    (hruns : ∀ y, starts ctx.artifacts y → (ctx.execute y).Leaves P)
    (input : ExecutionInput) (outputs : Values) : (x.finish ctx input outputs).Leaves P := by
  rw [finish_eq]
  refine Attempt.leaves_now.bind fun _ _ first _ _ => ?_
  refine ((Adapters.leaves_send hquiet hruns hadapters _ _).mapError _).bind fun _ _ _ _ _ => ?_
  refine (Attempt.leaves_timingSince first).bind fun _ _ timing _ _ => ?_
  exact (Attempt.leaves_log (hquiet _ rfl)).bind fun _ _ _ _ _ => Attempt.leaves_pure _

theorem leaves_conclude {ctx : AdapterContext}
    (hruns : ∀ y, starts ctx.artifacts y → (ctx.execute y).Leaves P)
    (input : ExecutionInput) (loading running : Timing) (outcome : Except NodeFailure Values) :
    (x.conclude ctx input loading running outcome).Leaves P := by
  cases outcome with
  | error failure =>
      have hreport : (do
          Attempt.log (.graphFailed input.jobId failure.message)
          pure (.failure input.jobId failure.message) :
            Attempt ExecutionError ExecutionResult).Leaves P :=
        (Attempt.leaves_log (hquiet _ rfl)).bind fun _ _ _ _ _ => Attempt.leaves_pure _
      exact hreport.bind fun _ _ _ _ _ => Attempt.leaves_pure _
  | ok outputs =>
      have hfinish := leaves_finish hquiet hadapters hruns input outputs
      exact hfinish.bind fun _ _ _ _ _ => Attempt.leaves_pure _

/-- A run leaves what its tree leaves, what the executions leave that its adapters start, and what
is no call of a body. -/
theorem leaves_runWith {nested : ExecutionInput → Attempt ExecutionError ExecutionResult}
    {input : ExecutionInput} (hnested : ∀ y, starts (.ofInput input) y → (nested y).Leaves P)
    (htree : ∀ provided, (x.evaluation input provided).Leaves P) :
    (x.runWith nested input).Leaves P := by
  rw [runWith_eq]
  refine (Attempt.leaves_ofExcept _).bind fun _ _ _ _ _ => ?_
  refine Attempt.leaves_now.bind fun _ _ first _ _ => ?_
  refine ((Adapters.leaves_load hquiet hnested hadapters _).mapError _).bind
    fun _ _ values _ _ => ?_
  refine (Attempt.leaves_timingSince first).bind fun _ _ loading _ _ => ?_
  refine Attempt.leaves_now.bind fun _ _ first _ _ => ?_
  refine (Attempt.leaves_ofTraced (htree values)).outcome.bind fun _ _ outcome _ _ => ?_
  refine (Attempt.leaves_timingSince first).bind fun _ _ running _ _ => ?_
  exact leaves_conclude hquiet hadapters hnested input loading running outcome

/-- However deep executions nest, they leave what the trees of the inputs that are run leave, and
what is no call of a body. -/
theorem leaves_runNested {runs : ExecutionInput → Prop}
    (hclosed : ∀ y, runs y → ∀ z, starts (.ofInput y) z → runs z)
    (htree : ∀ y, runs y → ∀ provided, (x.evaluation y provided).Leaves P) (depth : Nat) :
    ∀ y, runs y → (x.runNested depth y).Leaves P := by
  induction depth with
  | zero => exact fun y _ => Attempt.leaves_throw _
  | succ depth ih =>
      intro y hy
      have hnested : ∀ z, starts (.ofInput y) z → (x.runNested depth z).Leaves P :=
        fun z hz => ih z (hclosed y hy z hz)
      exact leaves_runWith hquiet hadapters hnested (htree y hy)

end Running

/-- Bodies that agree on inputs that fit make the same runs. -/
theorem runNested_agreeing {bodies : Bodies} (h : x.bodies.AgreeOnFitting bodies) (depth : Nat) :
    runNested { x with bodies } depth = x.runNested depth := by
  induction depth with
  | zero => rfl
  | succ depth ih =>
      funext input
      have hevaluation : ∀ values, evaluate { x with bodies } input values =
          x.evaluate input values := by
        intro values
        unfold evaluate
        rw [input.workflow.evaluate_agreeing h]
      show runWith { x with bodies } (runNested { x with bodies } depth) input =
        x.runWith (x.runNested depth) input
      rw [ih]
      unfold runWith
      simp only [hevaluation]
      rfl

/-- An entry is the call of a body only as one that one of the given executions may make, and on
inputs that fit the interface. -/
def WellTyped (sources : ExecutionInput → Prop) (entry : Entry) : Prop :=
  ∀ codeModule function inputs, entry = .bodyCalled codeModule function inputs →
    ∃ y i, sources y ∧ y.MayCall codeModule function i ∧ i.Fits inputs

/-- The tree of an execution that is covered makes calls that are well typed. -/
theorem leaves_evaluation {sources : ExecutionInput → Prop} {y z : ExecutionInput}
    (hy : sources y) (hcovers : y.Covers z) (provided : Values) :
    (x.evaluation z provided).Leaves (WellTyped sources) := by
  have hevent : ∀ e, WellTyped sources (.event e) := fun e _ _ _ h => nomatch h
  refine Node.leaves_evaluate hevent (fun c hc provided => ?_) provided
  refine c.leaves_evaluate hevent fun inputs hfits => ?_
  rintro _ _ _ ⟨⟩
  obtain ⟨i, hi, hfits'⟩ := hcovers _ _ _ (.node hc)
  exact ⟨y, i, hy, hi, hfits' inputs hfits⟩

/-- However deep executions nest, their calls are well typed: what adapters start is covered by
the execution that they are called in, or one of the sources itself. -/
theorem leaves_runNested_wellTyped {starts sources : ExecutionInput → Prop}
    (hadapters : ∀ id a, x.adapters.get? id = some a →
      (∃ config : ComponentConfig, a = config.adapter) ∨ a.StartsOnly fun _ => starts)
    (hstarts : ∀ y, starts y → sources y) (depth : Nat) {input : ExecutionInput}
    (hinput : sources input) : (x.runNested depth input).Leaves (WellTyped sources) := by
  have hquiet : ∀ entry : Entry, entry.bodyCall? = none → WellTyped sources entry := by
    rintro _ hnone _ _ _ rfl
    cases hnone
  have honly : ∀ id a, x.adapters.get? id = some a →
      a.StartsOnly fun artifacts y => ComponentConfig.BuiltFrom artifacts y ∨ starts y := by
    intro id a hget
    rcases hadapters id a hget with ⟨config, rfl⟩ | ha
    · exact config.startsOnly_adapter.mono fun _ _ => .inl
    · exact ha.mono fun _ _ => .inr
  have hclosed : ∀ z, (∃ y, sources y ∧ y.Covers z) →
      ∀ w, ComponentConfig.BuiltFrom (.ofInput z) w ∨ starts w → ∃ y, sources y ∧ y.Covers w := by
    rintro z ⟨y, hy, hcovers⟩ w (hbuilt | hw)
    · exact ⟨y, hy, hcovers.trans (ComponentConfig.covers_of_builtFrom hbuilt)⟩
    · exact ⟨w, hstarts w hw, .refl w⟩
  have htree : ∀ z, (∃ y, sources y ∧ y.Covers z) → ∀ provided,
      (x.evaluation z provided).Leaves (WellTyped sources) := by
    rintro z ⟨y, hy, hcovers⟩ provided
    exact leaves_evaluation hy hcovers provided
  exact leaves_runNested hquiet honly hclosed htree depth input ⟨input, hinput, .refl input⟩

/-- **Calls of bodies are well typed**, in a run and in the executions that its adapters start,
these being adapters of components and others that call bodies by starting certain executions
only. Each call in the trace of a run is one of a component in the tree of the input or of one of
its records, or else belongs to an execution of those other adapters, and the inputs fit the
interface. The run is the same with bodies that differ on inputs that do not fit. Both hold however
deep executions may nest. A component calls its body once, and first of all, if its inputs can be
brought into their types, and fails without any call if they cannot. -/
theorem run_typed {x : Executor} {starts : ExecutionInput → Prop}
    (hadapters : ∀ id a, x.adapters.get? id = some a →
      (∃ config : ComponentConfig, a = config.adapter) ∨ a.StartsOnly fun _ => starts)
    (input : ExecutionInput) :
    ((x.run input).Leaves (WellTyped fun y => y = input ∨ starts y) ∧
      ∀ depth, (x.runNested depth input).Leaves (WellTyped fun y => y = input ∨ starts y)) ∧
    (∀ bodies, x.bodies.AgreeOnFitting bodies →
      run { x with bodies } input = x.run input ∧
        ∀ depth, runNested { x with bodies } depth input = x.runNested depth input) ∧
    ∀ (c : ComponentNode) plots provided, ¬ (!plots && c.interface.isPurePlot) = true →
      (c.interface.Supplied provided → ∀ body, x.bodies.get? c.codeModule c.function = some body →
        ∃ inputs rest, c.interface.Fits inputs ∧ bodyCalls rest = [] ∧
          (c.evaluate x.bodies plots provided).entries =
            .bodyCalled c.codeModule c.function inputs :: rest) ∧
      (¬ c.interface.Supplied provided →
        ∃ failure, c.evaluate x.bodies plots provided = .fail failure) := by
  have htyped : ∀ depth,
      (x.runNested depth input).Leaves (WellTyped fun y => y = input ∨ starts y) :=
    fun depth => leaves_runNested_wellTyped hadapters (fun _ => .inr) depth (.inl rfl)
  refine ⟨⟨htyped 2, htyped⟩, ?_, ?_⟩
  · intro bodies hagree
    have hsame : ∀ depth, runNested { x with bodies } depth input = x.runNested depth input :=
      fun depth => congrFun (runNested_agreeing hagree depth) input
    exact ⟨hsame 2, hsame⟩
  · intro c plots provided hskipped
    constructor
    · intro hsupplied body hbody
      exact ComponentNode.evaluate_of_supplied hskipped hsupplied hbody
    · intro hsupplied
      exact ComponentNode.evaluate_of_not_supplied hskipped hsupplied

/-! A step that takes an integer, which the adapter of components loads for it as a text. -/

/-- What the step takes and yields. -/
def typedInterface : Interface := ⟨[.required "n" .int], [⟨"m", .int⟩]⟩

/-- The execution of the step, which calls the same function as the source of its value. -/
def typedInput : ExecutionInput :=
  let source : Descriptor :=
    { ComponentConfig.relayDescriptor with filters := .singleton "x" (.text "7") }
  { codeModules := [ComponentConfig.relayModule]
    components := [ComponentConfig.relayRecord, ⟨.ofNat 3, "step", "1.0.0", "steps", .released,
      typedInterface, .ofNat 2, passThroughFunction⟩]
    workflow :=
      .component ⟨.ofNat 4, "step", .ofNat 3, .ofNat 2, passThroughFunction, typedInterface⟩
    configuration := ⟨"sample", false⟩
    wiring := ⟨[⟨"n", componentAdapterId, source⟩], []⟩
    jobId := .ofNat 5
    rootId := .ofNat 3 }

/-- How it ends, and what it leaves. -/
def typedRun : Except ExecutionError ExecutionResult × Journal :=
  (run ⟨ComponentConfig.standard.adapters, .standard⟩ typedInput).resume countingSupply .empty

/-- No function that may be called takes the text under the name of the integer. -/
theorem not_fits_of_mayCall_typedInput {codeModule : Uuid} {function : String} {i : Interface}
    (h : typedInput.MayCall codeModule function i) : ¬ i.Fits (.singleton "n" (.text "7")) := by
  have hstep : ¬ typedInterface.Fits (.singleton "n" (.text "7")) := by
    intro hfits
    obtain ⟨n, hn⟩ := (hfits.typed "n" (.required "n" .int) (.text "7") rfl rfl).represents
    cases hn
  have hrelay : ¬ ComponentConfig.relayRecord.interface.Fits (.singleton "n" (.text "7")) :=
    fun hfits => nomatch (hfits.names "x").2 List.mem_cons_self
  rcases h with hnode | hheld
  · obtain rfl := List.mem_singleton.1 hnode
    exact hstep
  · rcases List.mem_cons.1 hheld with rfl | hlast
    · exact hrelay
    · obtain rfl := List.mem_singleton.1 hlast
      exact hstep

/-- The source is called on the text, the step on the integer; to call the step on the text would
not be well typed. -/
theorem run_typed_step :
    (typedRun.2.bodyCalls.map fun call => call.2.2.toList.map fun v => (v.1, v.2.render)) =
        [[("x", "\"7\"")], [("n", "7")]] ∧
      (∀ entry ∈ typedRun.2.entries, WellTyped (· = typedInput) entry) ∧
      ¬ WellTyped (· = typedInput)
        (.bodyCalled (.ofNat 2) passThroughFunction (.singleton "n" (.text "7"))) := by
  have hadapters : ∀ id a, ComponentConfig.standard.adapters.get? id = some a →
      (∃ config : ComponentConfig, a = config.adapter) ∨ a.StartsOnly fun _ _ => False := by
    intro id a hget
    exact .inl ⟨.standard, ComponentConfig.get?_adapters hget⟩
  have htyped := @run_typed ⟨ComponentConfig.standard.adapters, .standard⟩ _ hadapters typedInput
  simp only [or_false] at htyped
  refine ⟨by decide +kernel, fun entry hentry => ?_, fun hwell => ?_⟩
  · unfold typedRun at hentry
    exact htyped.1.1.of_mem hentry
  · obtain ⟨_, i, rfl, hi, hfits⟩ := hwell _ _ _ rfl
    exact not_fits_of_mayCall_typedInput hi hfits

end Executor

end Dataflow
