import Dataflow.Proofs.Component.Fanout
import Dataflow.Proofs.Execution.Outputs

set_option autoImplicit false

/-! # The descriptors of failures

A failure that the dispatch finds itself carries the descriptor of its entry, and so does a
failure made of an adapter's error that does not mention the binding. What an adapter itself
reports of the binding is passed on as it is (`Adapters.descriptor_serve`). Hence every failure
carries the descriptor of the entry of its name exactly if no adapter reports a binding under
another descriptor than the one that it was handed, or under none
(`Adapters.tracesAll_iff`); the component adapter does not.
-/

namespace Dataflow

variable {ctx : AdapterContext} {s : Supply} {j : Journal}

/-! ## What adapters report -/

namespace Adapter

/-- What an adapter answers that is asked for one binding, or handed its value. -/
def answer (a : Adapter) (ctx : AdapterContext) (name : String) (d : Descriptor) (s : Supply)
    (j : Journal) : Option Json → Except AdapterError Values
  | none =>
      ((a.load ctx (.singleton name d)).resume s
        (j.push (.loadCalled a.id (.singleton name d)))).1
  | some v =>
      ((a.send ctx (.singleton name d) (.singleton name v)).resume s
        (j.push (.sendCalled a.id (.singleton name d) (.singleton name v)))).1

/-- An adapter that is asked for one binding, or handed its value, reports a failure of it. -/
def Reports (a : Adapter) (ctx : AdapterContext) (name : String) (d : Descriptor)
    (sent : Option Json) (f : BindingFailure) : Prop :=
  ∃ s j e, a.answer ctx name d s j sent = .error e ∧ e.failures.get? name = some f

/-- An adapter reports each binding that it is called for under the descriptor that it was
handed. Bindings without a reference are not handed to adapters. -/
def Labels (a : Adapter) (ctx : AdapterContext) : Prop :=
  ∀ name d sent f, d.reference?.isSome → a.Reports ctx name d sent f → f.descriptor = some d

variable {a : Adapter} {name : String} {d : Descriptor} {f : BindingFailure}

theorem descriptor_failureOf {e : AdapterError} (h : failureOf name d e = f) :
    f.descriptor = some d ∨ e.failures.get? name = some f := by
  rw [failureOf] at h
  cases hreported : e.failures.get? name with
  | none =>
      rw [hreported] at h
      left
      rw [← h]
      rfl
  | some f' =>
      rw [hreported] at h
      exact .inr (congrArg some h)

theorem descriptor_loadOne (h : ((a.loadOne ctx name d).resume s j).1 = .error f) :
    f.descriptor = some d ∨ a.Reports ctx name d none f := by
  rw [resume_loadOne] at h
  have hloaded : a.loaded name d (a.answer ctx name d s j none) = .error f := h
  cases hanswer : a.answer ctx name d s j none with
  | ok values =>
      rw [hanswer, loaded] at hloaded
      cases hvalue : values.get? name with
      | some v =>
          rw [hvalue] at hloaded
          cases hloaded
      | none =>
          rw [hvalue] at hloaded
          left
          rw [← Except.error.inj hloaded]
  | error e =>
      rw [hanswer] at hloaded
      exact (descriptor_failureOf (Except.error.inj hloaded)).imp_right
        fun hreported => ⟨s, j, e, hanswer, hreported⟩

theorem descriptor_sendOne {v : Json} (h : ((a.sendOne ctx name d v).resume s j).1 = .error f) :
    f.descriptor = some d ∨ a.Reports ctx name d (some v) f := by
  rw [resume_sendOne] at h
  have hsent : sent name d (a.answer ctx name d s j (some v)) = .error f := h
  cases hanswer : a.answer ctx name d s j (some v) with
  | ok values =>
      rw [hanswer] at hsent
      cases hsent
  | error e =>
      rw [hanswer] at hsent
      exact (descriptor_failureOf (Except.error.inj hsent)).imp_right
        fun hreported => ⟨s, j, e, hanswer, hreported⟩

end Adapter

/-! ## What the dispatch reports -/

theorem WiringEntry.resolve_eq_adapter {e : WiringEntry} {direction : Direction} {id : String}
    {d : Descriptor} (h : e.resolve direction = .ok (.adapter id d)) :
    id = e.adapterId ∧ d = e.descriptor ∧ e.adapterId ≠ directProvisioning ∧
      e.descriptor.reference?.isSome := by
  unfold resolve at h
  cases hdirect : e.isDirect with
  | true =>
      rw [hdirect, if_pos rfl] at h
      cases direction with
      | send => cases h
      | load =>
          dsimp only at h
          cases hvalue : e.descriptor.filters.get? valueFilter with
          | none =>
              rw [hvalue] at h
              cases h
          | some value =>
              rw [hvalue] at h
              cases h
  | false =>
      rw [hdirect, if_neg Bool.false_ne_true] at h
      cases hreference : e.descriptor.reference? with
      | none =>
          rw [reference?, hreference] at h
          cases h
      | some reference =>
          rw [reference?, hreference] at h
          cases h
          refine ⟨rfl, rfl, ?_, rfl⟩
          intro hid
          rw [isDirect, hid, beq_self_eq_true] at hdirect
          cases hdirect

namespace Adapters

/-- The adapter of an entry reports a failure of it. -/
def Reports (a : Adapters) (ctx : AdapterContext) (e : WiringEntry) (sent : Option Json)
    (f : BindingFailure) : Prop :=
  ∃ adapter, a.get? e.adapterId = some adapter ∧ e.adapterId ≠ directProvisioning ∧
    e.descriptor.reference?.isSome ∧ adapter.Reports ctx e.name e.descriptor sent f

variable {a : Adapters} {f : BindingFailure}

/-- A failed entry has its descriptor in the failure, unless its adapter reports it. -/
theorem descriptor_serve {direction : Direction} {e : WiringEntry} {value : Option Json}
    (hload : direction = .load → value = none)
    (h : ((a.serve ctx direction e value).resume s j).1 = .error f) :
    f.descriptor = some e.descriptor ∨ a.Reports ctx e value f := by
  rw [serve] at h
  cases hresolve : e.resolve direction with
  | error fault =>
      rw [hresolve] at h
      left
      rw [← Except.error.inj h]
  | ok binding =>
      rw [hresolve] at h
      cases binding with
      | direct v => cases h
      | adapter id d =>
          obtain ⟨rfl, rfl, hid, hreference⟩ := WiringEntry.resolve_eq_adapter hresolve
          dsimp only at h
          rw [hand] at h
          cases hget : a.get? e.adapterId with
          | none =>
              rw [hget] at h
              left
              rw [← Except.error.inj h]
          | some adapter =>
              rw [hget] at h
              cases direction with
              | load =>
                  rw [hload rfl]
                  exact (Adapter.descriptor_loadOne h).imp_right
                    fun hreports => ⟨adapter, hget, hid, hreference, hreports⟩
              | send =>
                  cases value with
                  | none =>
                      left
                      rw [← Except.error.inj h]
                  | some v =>
                      exact (Adapter.descriptor_sendOne h).imp_right
                        fun hreports => ⟨adapter, hget, hid, hreference, hreports⟩

/-- What a fan-out over the entries of a wiring serves. -/
def units (a : Adapters) (ctx : AdapterContext) (direction : Direction)
    (value : WiringEntry → Option Json) (entries : List WiringEntry) : List Work :=
  entries.map fun e => (e.name, a.serve ctx direction e (value e))

/-- A gathered failure is that of the entry of its name. -/
theorem exists_entry_of_failure (direction : Direction) {value : WiringEntry → Option Json}
    {entries : List WiringEntry} (hload : direction = .load → ∀ e, value e = none)
    (hnames : (entries.map (·.name)).Nodup) {name : String}
    (h : (Work.outcomes s j (a.units ctx direction value entries)).failures.get? name = some f) :
    ∃ e ∈ entries, e.name = name ∧
      (f.descriptor = some e.descriptor ∨ a.Reports ctx e (value e) f) := by
  have hdistinct : ((Work.outcomes s j (a.units ctx direction value entries)).map (·.1)).Nodup := by
    rw [Work.map_fst_outcomes, units, List.map_map]
    exact hnames
  rw [Outcomes.get?_failures_eq_some_iff hdistinct, Work.mem_outcomes_iff] at h
  obtain ⟨l, u, l', hunits, ho⟩ := h
  have hu : u ∈ a.units ctx direction value entries := by
    rw [hunits]
    exact List.mem_append_right _ List.mem_cons_self
  obtain ⟨e, he, rfl⟩ := List.mem_map.1 hu
  obtain ⟨rfl, hfailed⟩ := Prod.mk.inj ho
  exact ⟨e, he, rfl, descriptor_serve (fun hdir => hload hdir e) hfailed.symm⟩

/-- An entry that is handed to its adapter. -/
theorem serve_eq_hand {e : WiringEntry} (hid : e.adapterId ≠ directProvisioning)
    (hreference : e.descriptor.reference?.isSome) (direction : Direction) (value : Option Json) :
    a.serve ctx direction e value =
      a.hand ctx direction e.name e.adapterId e.descriptor value := by
  have hdirect : e.isDirect = false := beq_eq_false_iff_ne.2 hid
  obtain ⟨reference, hsome⟩ := Option.isSome_iff_exists.1 hreference
  rw [serve, resolve_of_not_direct hdirect, WiringEntry.reference?, hsome]
  rfl

/-- What an adapter reports of an entry that is handed to it is the failure of the entry. -/
theorem exists_failed_of_reports {e : WiringEntry} {sent : Option Json}
    (h : a.Reports ctx e sent f) :
    ∃ s j, ((a.serve ctx (if sent.isSome then .send else .load) e sent).resume s j).1 =
      .error f := by
  obtain ⟨adapter, hget, hid, hreference, s, j, error, hanswer, hreported⟩ := h
  have hfailure : Adapter.failureOf e.name e.descriptor error = f := by
    rw [Adapter.failureOf, hreported]
    rfl
  refine ⟨s, j, ?_⟩
  rw [serve_eq_hand hid hreference, hand, hget]
  cases sent with
  | none =>
      have hloaded : ((adapter.loadOne ctx e.name e.descriptor).resume s j).1 =
          adapter.loaded e.name e.descriptor (adapter.answer ctx e.name e.descriptor s j none) := by
        rw [Adapter.resume_loadOne]
        rfl
      rw [hanswer, Adapter.loaded, hfailure] at hloaded
      exact hloaded
  | some v =>
      have hsent : ((adapter.sendOne ctx e.name e.descriptor v).resume s j).1 =
          Adapter.sent e.name e.descriptor
            (adapter.answer ctx e.name e.descriptor s j (some v)) := by
        rw [Adapter.resume_sendOne]
        rfl
      rw [hanswer, Adapter.sent, hfailure] at hsent
      exact hsent

/-! ## All failures of an error -/

/-- Each failure of an error is that of the entry of its name, and carries its descriptor, unless
the adapter of the entry reports it. -/
def TracedOrReported (a : Adapters) (ctx : AdapterContext) (entries : List WiringEntry)
    (value : WiringEntry → Option Json) (error : AdapterError) : Prop :=
  ∀ name f, error.failures.get? name = some f → ∃ e ∈ entries, e.name = name ∧
    (f.descriptor = some e.descriptor ∨ a.Reports ctx e (value e) f)

/-- Each failure of an error is that of the entry of its name, and carries its descriptor. -/
def Traced (entries : List WiringEntry) (error : AdapterError) : Prop :=
  ∀ name f, error.failures.get? name = some f →
    ∃ e ∈ entries, e.name = name ∧ f.descriptor = some e.descriptor

theorem tracedOrReported_load {entries : List WiringEntry}
    (hnames : (entries.map (·.name)).Nodup) {error : AdapterError}
    (h : ((a.load ctx entries).resume s j).1 = .error error) :
    a.TracedOrReported ctx entries (fun _ => none) error := by
  obtain ⟨j', hresume, -⟩ := exists_resume_load (s := s) (j := j) a ctx entries
  rw [hresume] at h
  have hsettled : ((Work.outcomes s j (a.loadUnits ctx entries)).settled .load).map id =
      .error error := by
    rw [Except.map_id]
    exact h
  rw [Outcomes.eq_gathered_of_map_settled hsettled]
  intro name f hf
  rw [Outcomes.failures_gathered] at hf
  exact exists_entry_of_failure .load (fun _ _ => rfl) hnames hf

theorem tracedOrReported_send {entries : List WiringEntry}
    (hnames : (entries.map (·.name)).Nodup) {values : Values} {error : AdapterError}
    (h : ((a.send ctx entries values).resume s j).1 = .error error) :
    a.TracedOrReported ctx entries (fun e => values.get? e.name) error := by
  obtain ⟨j', hresume, -⟩ := exists_resume_send (s := s) (j := j) a ctx entries values
  rw [hresume] at h
  rw [Outcomes.eq_gathered_of_map_settled h]
  intro name f hf
  rw [Outcomes.failures_gathered] at hf
  exact exists_entry_of_failure .send (fun hdirection => by cases hdirection) hnames hf

/-- The failure of a fan-out over one unit. -/
theorem exists_settled_single (direction : Direction) {name : String} {l : Outcomes}
    (h : l = [(name, .error f)]) :
    ∃ error, l.settled direction = .error error ∧ error.failures.get? name = some f := by
  subst h
  have hnames : (([(name, .error f)] : Outcomes).map (·.1)).Nodup := List.nodup_singleton name
  refine ⟨_, Outcomes.settled_of_failed_ne_nil direction (List.cons_ne_nil _ _), ?_⟩
  rw [Outcomes.failures_gathered, Outcomes.get?_failures_eq_some_iff hnames]
  exact List.mem_singleton_self _

/-- What an adapter reports of an entry is the failure of a fan-out over it alone. -/
theorem exists_load_of_reports {e : WiringEntry} (h : a.Reports ctx e none f) :
    ∃ s j error, ((a.load ctx [e]).resume s j).1 = .error error ∧
      error.failures.get? e.name = some f := by
  obtain ⟨s, j, hfailed⟩ := exists_failed_of_reports h
  have houtcomes : Work.outcomes s j (a.loadUnits ctx [e]) = [(e.name, .error f)] := by
    rw [← hfailed]
    rfl
  obtain ⟨j', hresume, -⟩ := exists_resume_load (s := s) (j := j) a ctx [e]
  obtain ⟨error, hsettled, hget⟩ := exists_settled_single .load houtcomes
  exact ⟨s, j, error, by rw [hresume, hsettled], hget⟩

theorem exists_send_of_reports {e : WiringEntry} {v : Json} (h : a.Reports ctx e (some v) f) :
    ∃ s j error, ((a.send ctx [e] (.singleton e.name v)).resume s j).1 = .error error ∧
      error.failures.get? e.name = some f := by
  obtain ⟨s, j, hfailed⟩ := exists_failed_of_reports h
  have houtcomes : Work.outcomes s j (a.sendUnits ctx (.singleton e.name v) [e]) =
      [(e.name, .error f)] := by
    rw [← hfailed]
    show [(e.name, ((a.serve ctx .send e ((Dict.singleton e.name v).get? e.name)).resume s j).1)] =
      _
    rw [Dict.get?_singleton, if_pos rfl]
    rfl
  obtain ⟨j', hresume, -⟩ := exists_resume_send (s := s) (j := j) a ctx [e] (.singleton e.name v)
  obtain ⟨error, hsettled, hget⟩ := exists_settled_single .send houtcomes
  exact ⟨s, j, error, by rw [hresume, hsettled]; rfl, hget⟩

/-- No fan-out of a registry fails with another descriptor than that of the entry. -/
def TracesAll (a : Adapters) (ctx : AdapterContext) : Prop :=
  ∀ entries : List WiringEntry, (entries.map (·.name)).Nodup → ∀ s j error,
    (((a.load ctx entries).resume s j).1 = .error error → Traced entries error) ∧
    ∀ values, ((a.send ctx entries values).resume s j).1 = .error error → Traced entries error

theorem TracedOrReported.traced {entries : List WiringEntry} {value : WiringEntry → Option Json}
    {error : AdapterError} (h : a.TracedOrReported ctx entries value error)
    (hlabels : ∀ id adapter, a.get? id = some adapter → id ≠ directProvisioning →
      adapter.Labels ctx) : Traced entries error := by
  intro name f hf
  obtain ⟨e, he, hname, hcase⟩ := h name f hf
  refine ⟨e, he, hname, ?_⟩
  rcases hcase with htraced | ⟨adapter, hget, hid, hreference, hreports⟩
  · exact htraced
  · exact hlabels e.adapterId adapter hget hid e.name e.descriptor _ f hreference hreports

theorem tracesAll_iff :
    a.TracesAll ctx ↔
      ∀ id adapter, a.get? id = some adapter → id ≠ directProvisioning → adapter.Labels ctx := by
  constructor
  · -- a fan-out over one entry shows what the adapter reports of it
    intro htraces id adapter hget hid name d sent f hreference hreports
    let e : WiringEntry := ⟨name, id, d⟩
    have hentry : a.Reports ctx e sent f := ⟨adapter, hget, hid, hreference, hreports⟩
    have htraced : ∃ error, Traced [e] error ∧ error.failures.get? name = some f := by
      cases sent with
      | none =>
          obtain ⟨s, j, error, hload, hf⟩ := exists_load_of_reports hentry
          exact ⟨error, (htraces [e] (List.nodup_singleton _) s j error).1 hload, hf⟩
      | some v =>
          obtain ⟨s, j, error, hsend, hf⟩ := exists_send_of_reports hentry
          exact ⟨error, (htraces [e] (List.nodup_singleton _) s j error).2 _ hsend, hf⟩
    obtain ⟨error, htraced, hf⟩ := htraced
    obtain ⟨e', he', -, hdescriptor⟩ := htraced name f hf
    rw [List.mem_singleton.1 he'] at hdescriptor
    exact hdescriptor
  · intro hlabels entries hnames s j error
    exact ⟨fun h => (tracedOrReported_load hnames h).traced hlabels,
      fun values h => (tracedOrReported_send hnames h).traced hlabels⟩

end Adapters

/-! ## The component adapter -/

namespace Attempt

variable {ε ε' α β : Type} {P : ε → Prop}

/-- Every failure of an attempt has a property. -/
def FailsOnly (a : Attempt ε α) (P : ε → Prop) : Prop :=
  ∀ s j e, (a.resume s j).1 = .error e → P e

theorem failsOnly_pure (v : α) : (pure v : Attempt ε α).FailsOnly P := by
  intro s j e h
  cases h

theorem failsOnly_throw {e : ε} (he : P e) : (throw e : Attempt ε α).FailsOnly P := by
  intro s j e' h
  cases h
  exact he

theorem failsOnly_ofRun (r : Run α) : (ofRun r : Attempt ε α).FailsOnly P := by
  intro s j e h
  cases h

theorem failsOnly_log (event : Event) : (log event : Attempt ε Unit).FailsOnly P := by
  intro s j e h
  cases h

theorem failsOnly_mapError {a : Attempt ε' α} {g : ε' → ε} (hg : ∀ e, P (g e)) :
    (a.mapError g).FailsOnly P := by
  intro s j e h
  rw [resume_mapError] at h
  cases hresult : (a.resume s j).1 with
  | ok v =>
      rw [hresult] at h
      cases h
  | error e' =>
      rw [hresult] at h
      rw [← Except.error.inj h]
      exact hg e'

theorem FailsOnly.bind {a : Attempt ε α} {f : α → Attempt ε β} (ha : a.FailsOnly P)
    (hf : ∀ v, (f v).FailsOnly P) : (a >>= f : Attempt ε β).FailsOnly P := by
  intro s j e h
  cases hfirst : a.resume s j with
  | mk outcome j' =>
      cases outcome with
      | ok v =>
          rw [resume_bind_of_ok hfirst] at h
          exact hf v s j' e h
      | error e' =>
          rw [resume_bind_of_error hfirst] at h
          obtain rfl := Except.error.inj h
          exact ha s j e' (congrArg Prod.fst hfirst)

end Attempt

namespace ComponentConfig

variable {c : ComponentConfig} {d : Descriptor} {direction : Direction}

/-- A failure has a descriptor. -/
def Describes (d : Descriptor) (f : BindingFailure) : Prop := f.descriptor = some d

theorem describes_bindingValue (x : ExecutionInput) (result : ExecutionResult) :
    (bindingValue direction d x result).FailsOnly (Describes d) := by
  unfold bindingValue
  split
  · exact Attempt.failsOnly_throw rfl
  · split
    · split
      · exact Attempt.failsOnly_pure _
      · exact Attempt.failsOnly_throw rfl
    · exact Attempt.failsOnly_pure _

theorem describes_runBinding (sent : Option Json) :
    (c.runBinding ctx direction d sent).FailsOnly (Describes d) := by
  unfold runBinding
  refine (Attempt.failsOnly_ofRun _).bind fun operatorId => ?_
  refine (Attempt.failsOnly_ofRun _).bind fun jobId => ?_
  refine Attempt.FailsOnly.bind (Attempt.failsOnly_mapError fun _ => rfl) fun x => ?_
  refine (Attempt.failsOnly_log _).bind fun _ => ?_
  exact Attempt.FailsOnly.bind (Attempt.failsOnly_mapError fun _ => rfl) fun result =>
    describes_bindingValue x result

theorem describes_sendBinding (values : Values) (name : String) :
    (c.sendBinding ctx values name d).FailsOnly (Describes d) := by
  unfold sendBinding
  cases values.get? name with
  | none => exact Attempt.failsOnly_throw rfl
  | some v => exact describes_runBinding (some v)

/-- The failure of a fan-out over one binding carries the descriptor of the binding. -/
theorem descriptor_of_settled_single {name : String} {u : Work}
    (hu : u.2.FailsOnly (Describes d)) {result : Values → Values} {error : AdapterError}
    (h : ((Work.outcomes s j [u]).settled direction).map result = .error error)
    {f : BindingFailure} (hf : error.failures.get? name = some f) : f.descriptor = some d := by
  have hnames : ((Work.outcomes s j [u]).map (·.1)).Nodup := List.nodup_singleton u.1
  rw [Outcomes.eq_gathered_of_map_settled h, Outcomes.failures_gathered,
    Outcomes.get?_failures_eq_some_iff hnames, Work.outcomes_cons] at hf
  obtain ⟨-, hfailed⟩ := Prod.mk.inj (List.mem_singleton.1 hf)
  exact hu s j f hfailed.symm

/-- The component adapter reports each binding under the descriptor that it was handed. -/
theorem labels_adapter (c : ComponentConfig) (ctx : AdapterContext) : c.adapter.Labels ctx := by
  -- the adapter runs a fan-out of its own over the one binding
  rintro name d sent f - ⟨s, j, error, hanswer, hf⟩
  cases sent with
  | none =>
      obtain ⟨j', hresume, -⟩ := exists_resume_settle (s := s)
        (j := j.push (.loadCalled c.adapter.id (.singleton name d))) .load
        [(name, c.runBinding ctx .load d none)]
      have hsettled : ((Work.outcomes s (j.push (.loadCalled c.adapter.id (.singleton name d)))
          [(name, c.runBinding ctx .load d none)]).settled .load).map id = .error error := by
        rw [Except.map_id, id, ← hanswer]
        exact (congrArg Prod.fst hresume).symm
      exact descriptor_of_settled_single (describes_runBinding none) hsettled hf
  | some v =>
      obtain ⟨j', hresume, -⟩ := exists_resume_sendBindings c (.singleton name d)
        (.singleton name v) ctx s
        (j.push (.sendCalled c.adapter.id (.singleton name d) (.singleton name v)))
      have hsettled := (congrArg Prod.fst hresume).symm.trans hanswer
      exact descriptor_of_settled_single
        (u := (name, c.sendBinding ctx (.singleton name v) name d)) (describes_sendBinding _ name)
        hsettled hf

end ComponentConfig

namespace Adapters

/-- **The descriptors of failures.** Each failure of loading or sending entries with distinct names
is that of the entry of its name, and carries its descriptor unless the adapter of the entry
reports it. All failures carry the descriptors of their entries exactly if no adapter reports a
binding under another descriptor than it was handed, as the component adapter never does. -/
theorem failures_carry_descriptors (a : Adapters) (ctx : AdapterContext) :
    (∀ entries : List WiringEntry, (entries.map (·.name)).Nodup → ∀ s j error,
      (((a.load ctx entries).resume s j).1 = .error error →
        a.TracedOrReported ctx entries (fun _ => none) error) ∧
      ∀ values, ((a.send ctx entries values).resume s j).1 = .error error →
        a.TracedOrReported ctx entries (fun e => values.get? e.name) error) ∧
    (a.TracesAll ctx ↔
      ∀ id adapter, a.get? id = some adapter → id ≠ directProvisioning → adapter.Labels ctx) ∧
    ∀ c : ComponentConfig, c.adapter.Labels ctx := by
  refine ⟨?_, tracesAll_iff, fun c => c.labels_adapter ctx⟩
  intro entries hnames s j error
  exact ⟨tracedOrReported_load hnames, fun values h => tracedOrReported_send hnames h⟩

theorem labels_echo (ctx : AdapterContext) : Executor.echo.Labels ctx := by
  rintro name d sent f - ⟨s, j, error, hanswer, -⟩
  cases sent with
  | none => cases hanswer
  | some v => cases hanswer

theorem labels_sampleAdapters {id : String} {adapter : Adapter}
    (h : sampleAdapters.get? id = some adapter) : adapter.Labels sampleContext := by
  rcases sampleAdapters_cases h with rfl | rfl
  · exact ComponentConfig.labels_adapter _ _
  · exact labels_echo _

/-- A component that is not there and an adapter that is not there, next to a binding that is
served. -/
theorem failures_carry_descriptors_sample :
    (sampleEntries.map (·.name)).Nodup ∧
      ∃ error, ((sampleAdapters.load sampleContext sampleEntries).resume
          Executor.countingSupply .empty).1 = .error error ∧
        Traced sampleEntries error ∧ error.failures.keys = ["y", "z"] := by
  have hnames : (sampleEntries.map (·.name)).Nodup := by decide
  have htraces : sampleAdapters.TracesAll sampleContext :=
    (failures_carry_descriptors sampleAdapters sampleContext).2.1.2
      fun id adapter hget _ => labels_sampleAdapters hget
  have hkeys : (match ((sampleAdapters.load sampleContext sampleEntries).resume
      Executor.countingSupply .empty).1 with
    | .error error => error.failures.keys
    | .ok _ => []) = ["y", "z"] := rfl
  refine ⟨hnames, ?_⟩
  cases hload : ((sampleAdapters.load sampleContext sampleEntries).resume
      Executor.countingSupply .empty).1 with
  | ok values =>
      rw [hload] at hkeys
      cases hkeys
  | error error =>
      rw [hload] at hkeys
      exact ⟨error, rfl, (htraces sampleEntries hnames _ _ error).1 hload, hkeys⟩

/-- An adapter that reports every binding without a descriptor. -/
def anonymous : Adapter :=
  .source "anonymous" fun _ bindings =>
    throw (.gathered .load (bindings.map fun _ _ => ⟨"out of order", none⟩))

/-- **What an adapter reports without a descriptor is reported without one.** -/
theorem reported_without_descriptor :
    ∃ error f,
      (((ofList [anonymous]).load sampleContext [⟨"x", "anonymous", Executor.echoDescriptor⟩]).resume
        Executor.countingSupply .empty).1 = .error error ∧
      error.failures.get? "x" = some f ∧ f.descriptor = none :=
  ⟨_, _, rfl, rfl, rfl⟩

end Adapters

end Dataflow
