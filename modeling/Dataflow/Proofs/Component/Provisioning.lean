import Dataflow.Proofs.Component.Execution

set_option autoImplicit false

/-! # What becomes of a binding

A binding of a component becomes an execution, or fails over the first thing that it asks for and
does not get (`ComponentConfig.FirstFault`): a reference that can be read, the record, its module,
permission to use the component, and an input for each filter. Filters are taken in the order of
their keys (`ComponentRecord.bindingWiring_eq_error_iff`).

`ComponentConfig.bindingExecution_decided` says so of every catalog and every record, valid or not,
and that the execution carries the values of the binding and nothing else
(`ExecutionInput.Carries`). That the component is wrapped, unfolded and assembled on the way can
never be noticed.
-/

namespace Dataflow

/-! ## The entries of a binding -/

/-- The entry that provides a value directly, with the type that is declared for it. -/
def WiringEntry.provision (name : String) (type : Option ExternalType) (v : Json) :
    WiringEntry where
  name := name
  adapterId := directProvisioning
  descriptor :=
    { refId := none, refIdType := none, refKey := none, externalType := type,
      filters := .singleton valueFilter v }

namespace ComponentRecord

variable {c : ComponentRecord} {filters : Dict String Json} {sent : Option Json}
  {type : Option ExternalType}

/-- The first filter, in the order of the keys, that counts and is no input. -/
structure FirstUnknown (c : ComponentRecord) (filters : Dict String Json) (sent : Option Json)
    (key : String) : Prop where
  present : ∃ v, filters.get? key = some v
  counts : ¬ (sent.isSome ∧ key = sinkDataInput)
  unknown : c.interface.input? key = none
  first : ∀ key' v, filters.get? key' = some v → ¬ (sent.isSome ∧ key' = sinkDataInput) →
    c.interface.input? key' = none → compare key' key ≠ .lt

theorem filterEntry_eq_ok {key : String} {v : Json} {e : WiringEntry} :
    c.filterEntry key v = .ok e ↔ ∃ i, c.interface.input? key = some i ∧
      e = .provision key (some i.dataType.external) v := by
  rw [filterEntry]
  cases c.interface.input? key with
  | none => simp
  | some i =>
      constructor
      · intro h
        exact ⟨i, rfl, (Except.ok.inj h).symm⟩
      · rintro ⟨i', hi, rfl⟩
        rw [← Option.some.inj hi]
        rfl

theorem filterEntry_eq_error {key : String} {v : Json} {u : UnknownFilter} :
    c.filterEntry key v = .error u ↔ c.interface.input? key = none ∧ u = ⟨key, c.displayName⟩ := by
  rw [filterEntry]
  cases c.interface.input? key <;> simp [eq_comm]

theorem dataEntry_eq (s : SentValue) :
    dataEntry s = .provision sinkDataInput s.externalType s.value := by
  cases s with
  | mk v type => cases type <;> rfl

/-- **A binding has no wiring because of the first filter that is no input.** -/
theorem bindingWiring_eq_error_iff {u : UnknownFilter} :
    c.bindingWiring filters (sent.map fun v => ⟨v, type⟩) = .error u ↔
      ∃ key, c.FirstUnknown filters sent key ∧ u = ⟨key, c.displayName⟩ := by
  have hascending : (filters.toList.filter
      (fun f => !(sent.isSome && f.1 == sinkDataInput))).Pairwise
        fun f g => compare f.1 g.1 = .lt :=
    (List.pairwise_map.1 (Dict.ascending_keys filters)).filter _
  have hwiring : c.bindingWiring filters (sent.map fun v => ⟨v, type⟩) = .error u ↔
      List.mapM (fun f => c.filterEntry f.1 f.2)
        (filters.toList.filter fun f => !(sent.isSome && f.1 == sinkDataInput)) = .error u := by
    rw [bindingWiring, Option.isSome_map]
    refine bind_eq_error.trans (or_iff_left ?_)
    rintro ⟨entries, -, hentries⟩
    cases hentries
  rw [hwiring, mapM_eq_error_iff]
  constructor
  · rintro ⟨before, f, after, hl, hbefore, hfail⟩
    obtain ⟨hunknown, rfl⟩ := filterEntry_eq_error.1 hfail
    have hf : f ∈ before ++ f :: after := List.mem_append_right before List.mem_cons_self
    obtain ⟨hget, hcounts⟩ := mem_usedFilters.1 (hl ▸ hf)
    refine ⟨f.1, ⟨⟨f.2, hget⟩, hcounts, hunknown, fun key v hkey hcounts' hunknown' => ?_⟩, rfl⟩
    -- what comes before is known, and what comes after has a greater key
    have hmem : (key, v) ∈ before ++ f :: after := hl ▸ mem_usedFilters.2 ⟨hkey, hcounts'⟩
    rw [hl] at hascending
    obtain ⟨-, hafter, -⟩ := List.pairwise_append.1 hascending
    rcases List.mem_append.1 hmem with hmem | hmem
    · obtain ⟨e, he⟩ := hbefore (key, v) hmem
      rw [filterEntry_eq_error.2 ⟨hunknown', rfl⟩] at he
      cases he
    · rcases List.mem_cons.1 hmem with rfl | hmem
      · rw [Std.compare_self]
        decide
      · rw [Std.OrientedOrd.eq_swap, (List.pairwise_cons.1 hafter).1 _ hmem]
        decide
  · rintro ⟨key, hfirst, rfl⟩
    obtain ⟨v, hget⟩ := hfirst.present
    have hused : (key, v) ∈ filters.toList.filter
        fun f => !(sent.isSome && f.1 == sinkDataInput) :=
      mem_usedFilters.2 ⟨hget, hfirst.counts⟩
    obtain ⟨before, after, hl⟩ := List.append_of_mem hused
    refine ⟨before, (key, v), after, hl, fun f hf => ?_,
      filterEntry_eq_error.2 ⟨hfirst.unknown, rfl⟩⟩
    have hmem : f ∈ before ++ (key, v) :: after := List.mem_append_left _ hf
    obtain ⟨hf', hcounts⟩ := mem_usedFilters.1 (hl ▸ hmem)
    rw [hl] at hascending
    have hless : compare f.1 key = .lt :=
      (List.pairwise_append.1 hascending).2.2 f hf (key, v) List.mem_cons_self
    refine filterEntry_eq_ok_iff.2 (Option.isSome_iff_ne_none.2 fun hnone => ?_)
    exact hfirst.first f.1 f.2 hf' hcounts hnone hless

/-- The entries of a binding: one for each filter that counts, and one for what is sent. -/
theorem mem_inputs_bindingWiring_iff {w : Wiring}
    (h : c.bindingWiring filters (sent.map fun v => ⟨v, type⟩) = .ok w) {e : WiringEntry} :
    e ∈ w.inputs ↔
      (∃ key v i, filters.get? key = some v ∧ ¬ (sent.isSome ∧ key = sinkDataInput) ∧
        c.interface.input? key = some i ∧ e = .provision key (some i.dataType.external) v) ∨
      ∃ v, sent = some v ∧ e = .provision sinkDataInput type v := by
  obtain ⟨entries, hentries, hw⟩ := bind_eq_ok.1 h
  obtain rfl := Except.ok.inj hw
  rw [Option.isSome_map, mapM_eq_ok_iff] at hentries
  have hfilters : e ∈ entries ↔
      ∃ key v i, filters.get? key = some v ∧ ¬ (sent.isSome ∧ key = sinkDataInput) ∧
        c.interface.input? key = some i ∧ e = .provision key (some i.dataType.external) v := by
    constructor
    · intro he
      obtain ⟨f, hf, hentry⟩ := (exists_of_forall₂ hentries).2 e he
      obtain ⟨hget, hcounts⟩ := mem_usedFilters.1 hf
      obtain ⟨i, hi, rfl⟩ := filterEntry_eq_ok.1 hentry
      exact ⟨f.1, f.2, i, hget, hcounts, hi, rfl⟩
    · rintro ⟨key, v, i, hget, hcounts, hi, rfl⟩
      obtain ⟨e', he', hentry⟩ :=
        (exists_of_forall₂ hentries).1 (key, v) (mem_usedFilters.2 ⟨hget, hcounts⟩)
      rw [filterEntry_eq_ok.2 ⟨i, hi, rfl⟩, Except.ok.injEq] at hentry
      rwa [hentry]
  show e ∈ entries ++ ((sent.map fun v => (⟨v, type⟩ : SentValue)).map dataEntry).toList ↔ _
  rw [List.mem_append, hfilters]
  refine or_congr_right ?_
  cases sent with
  | none => simp
  | some v => simp [dataEntry_eq]

end ComponentRecord

/-! ## What is asked for -/

/-- An execution runs one component and carries the values of a binding: each filter once, typed
as the input of its name, and what is sent once, typed as the binding says. -/
structure ExecutionInput.Carries (x : ExecutionInput) (record : ComponentRecord) (m : CodeModule)
    (d : Descriptor) (sent : Option Json) : Prop where
  components : x.components = [record]
  codeModules : x.codeModules = [m]
  once : (x.wiring.inputs.map (·.name)).Nodup
  inputs : ∀ e, e ∈ x.wiring.inputs ↔
    (∃ key v i, d.filters.get? key = some v ∧ ¬ (sent.isSome ∧ key = sinkDataInput) ∧
      record.interface.input? key = some i ∧
      e = .provision key (some i.dataType.external) v) ∨
    ∃ v, sent = some v ∧ e = .provision sinkDataInput d.externalType v
  outputs : x.wiring.outputs = []

/-- A reference leads to a record with its module. -/
def Artifacts.Finds (artifacts : Artifacts) (d : Descriptor) (record : ComponentRecord)
    (m : CodeModule) : Prop :=
  ∃ id, Uuid.ofString? (d.reference?.getD "") = some id ∧
    artifacts.component? id = some record ∧ artifacts.codeModule? record.codeModule = some m

namespace ComponentConfig

/-- The first thing that a binding asks for and does not get. -/
inductive FirstFault (c : ComponentConfig) (artifacts : Artifacts) (direction : Direction)
    (d : Descriptor) (sent : Option Json) : BindingFault → Prop
  | reference (hid : Uuid.ofString? (d.reference?.getD "") = none) :
      FirstFault c artifacts direction d sent (.invalidReference (d.reference?.getD ""))
  | component {id : Uuid} (hid : Uuid.ofString? (d.reference?.getD "") = some id)
      (hnone : artifacts.component? id = none) :
      FirstFault c artifacts direction d sent (.componentNotPresent id)
  | codeModule {id : Uuid} {record : ComponentRecord}
      (hid : Uuid.ofString? (d.reference?.getD "") = some id)
      (hrecord : artifacts.component? id = some record)
      (hnone : artifacts.codeModule? record.codeModule = none) :
      FirstFault c artifacts direction d sent (.codeModuleNotPresent record.codeModule)
  | unsuitable {record : ComponentRecord} {m : CodeModule} {fault : Unsuitability}
      (hfinds : artifacts.Finds d record m)
      (hrejected : c.accept (.ofRecord record) direction true = .error fault) :
      FirstFault c artifacts direction d sent (.unsuitable fault)
  | unknownFilter {record : ComponentRecord} {m : CodeModule} {key : String}
      (hfinds : artifacts.Finds d record m)
      (haccepted : c.accept (.ofRecord record) direction true = .ok ())
      (hfirst : record.FirstUnknown d.filters sent key) :
      FirstFault c artifacts direction d sent (.unknownFilter ⟨key, record.displayName⟩)

section

variable {c : ComponentConfig} {artifacts : Artifacts} {direction : Direction} {d : Descriptor}
  {sent : Option Json} {record : ComponentRecord} {m : CodeModule} {operatorId : OperatorId}
  {jobId : Uuid} {fault : BindingFault}

/-! ## What a binding comes to -/

theorem result_bindingExecution_of_not_referenced
    (h : c.referenced artifacts direction d = .error fault) :
    (c.bindingExecution artifacts direction d sent operatorId jobId).result = .error fault := by
  rw [result_bindingExecution, h]
  rfl

theorem referenced_of_rejected (h : artifacts.Finds d record m) {rejection : Unsuitability}
    (hrejected : c.accept (.ofRecord record) direction true = .error rejection) :
    c.referenced artifacts direction d = .error (.unsuitable rejection) := by
  obtain ⟨id, hid, hrecord, hmodule⟩ := h
  rw [referenced_of_module hid hrecord hmodule, hrejected]
  rfl

theorem referenced_of_accepted (h : artifacts.Finds d record m)
    (haccepted : c.accept (.ofRecord record) direction true = .ok ()) :
    c.referenced artifacts direction d = .ok (record, m) := by
  obtain ⟨id, hid, hrecord, hmodule⟩ := h
  exact referenced_eq_ok_iff.2 ⟨id, hid, hrecord, hmodule, haccepted⟩

/-- A binding fails at once over what it refers to, or leads to a component that is accepted. -/
theorem firstFault_or_accepted (c : ComponentConfig) (artifacts : Artifacts)
    (direction : Direction) (d : Descriptor) (sent : Option Json) :
    (∃ fault, c.referenced artifacts direction d = .error fault ∧
        FirstFault c artifacts direction d sent fault) ∨
      ∃ record m, artifacts.Finds d record m ∧
        c.accept (.ofRecord record) direction true = .ok () := by
  cases hid : Uuid.ofString? (d.reference?.getD "") with
  | none => exact .inl ⟨_, referenced_of_not_id hid, .reference hid⟩
  | some id =>
      cases hrecord : artifacts.component? id with
      | none => exact .inl ⟨_, referenced_of_no_record hid hrecord, .component hid hrecord⟩
      | some record =>
          cases hmodule : artifacts.codeModule? record.codeModule with
          | none =>
              exact .inl ⟨_, referenced_of_no_module hid hrecord hmodule,
                .codeModule hid hrecord hmodule⟩
          | some m =>
              have hfinds : artifacts.Finds d record m := ⟨id, hid, hrecord, hmodule⟩
              cases haccept : c.accept (.ofRecord record) direction true with
              | error rejection =>
                  exact .inl ⟨_, referenced_of_rejected hfinds haccept, .unsuitable hfinds haccept⟩
              | ok _ => exact .inr ⟨record, m, hfinds, haccept⟩

section

variable (hkeyed : ∀ id m, artifacts.codeModule? id = some m → m.id = id)
  (hsent : sent.isSome → direction = .send)

include hkeyed hsent

/-- Once a component is accepted, only filters are left to fail over. -/
theorem result_of_accepted (hfinds : artifacts.Finds d record m)
    (haccepted : c.accept (.ofRecord record) direction true = .ok ()) :
    (c.bindingExecution artifacts direction d sent operatorId jobId).result =
      ((record.bindingWiring d.filters (sent.map fun v => ⟨v, d.externalType⟩)).map
        fun wiring => bindingInput record m direction wiring operatorId jobId).mapError
          .unknownFilter := by
  have href := referenced_of_accepted hfinds haccepted
  obtain ⟨id, -, -, hmodule⟩ := hfinds
  exact result_bindingExecution_of_referenced operatorId jobId href (hkeyed _ _ hmodule) hsent

/-- **A binding fails over the first thing that it does not get, and over nothing else.** -/
theorem result_eq_error_iff :
    (c.bindingExecution artifacts direction d sent operatorId jobId).result = .error fault ↔
      FirstFault c artifacts direction d sent fault := by
  constructor
  · intro h
    rcases firstFault_or_accepted c artifacts direction d sent with
      ⟨fault', href, hfirst⟩ | ⟨record, m, hfinds, haccepted⟩
    · rw [result_bindingExecution_of_not_referenced href, Except.error.injEq] at h
      exact h ▸ hfirst
    · rw [result_of_accepted hkeyed hsent hfinds haccepted, mapError_map_eq_error] at h
      obtain ⟨u, hu, rfl⟩ := h
      obtain ⟨key, hfirst, rfl⟩ := ComponentRecord.bindingWiring_eq_error_iff.1 hu
      exact .unknownFilter hfinds haccepted hfirst
  · intro h
    cases h with
    | reference hid =>
        exact result_bindingExecution_of_not_referenced (referenced_of_not_id hid)
    | component hid hnone =>
        exact result_bindingExecution_of_not_referenced (referenced_of_no_record hid hnone)
    | codeModule hid hrecord hnone =>
        exact result_bindingExecution_of_not_referenced (referenced_of_no_module hid hrecord hnone)
    | unsuitable hfinds hrejected =>
        exact result_bindingExecution_of_not_referenced (referenced_of_rejected hfinds hrejected)
    | unknownFilter hfinds haccepted hfirst =>
        rw [result_of_accepted hkeyed hsent hfinds haccepted, mapError_map_eq_error]
        exact ⟨_, ComponentRecord.bindingWiring_eq_error_iff.2 ⟨_, hfirst, rfl⟩, rfl⟩

/-- **A binding that gets all that it asks for has an execution**, and no other has one. -/
theorem result_eq_ok_iff {x : ExecutionInput} :
    (c.bindingExecution artifacts direction d sent operatorId jobId).result = .ok x ↔
      ∃ record m wiring, artifacts.Finds d record m ∧
        c.accept (.ofRecord record) direction true = .ok () ∧
        record.bindingWiring d.filters (sent.map fun v => ⟨v, d.externalType⟩) = .ok wiring ∧
        x = bindingInput record m direction wiring operatorId jobId := by
  constructor
  · intro h
    rcases firstFault_or_accepted c artifacts direction d sent with
      ⟨fault, href, -⟩ | ⟨record, m, hfinds, haccepted⟩
    · rw [result_bindingExecution_of_not_referenced href] at h
      cases h
    · rw [result_of_accepted hkeyed hsent hfinds haccepted, mapError_map_eq_ok] at h
      obtain ⟨wiring, hwiring, rfl⟩ := h
      exact ⟨record, m, wiring, hfinds, haccepted, hwiring, rfl⟩
  · rintro ⟨record, m, wiring, hfinds, haccepted, hwiring, rfl⟩
    rw [result_of_accepted hkeyed hsent hfinds haccepted, mapError_map_eq_ok]
    exact ⟨wiring, hwiring, rfl⟩

end

/-- What the execution of a binding carries. -/
theorem carries_bindingInput {wiring : Wiring}
    (hwiring : record.bindingWiring d.filters (sent.map fun v => ⟨v, d.externalType⟩) =
      .ok wiring) :
    (bindingInput record m direction wiring operatorId jobId).Carries record m d sent where
  components := rfl
  codeModules := rfl
  once := ComponentRecord.nodup_bindingWiring hwiring
  inputs _ := ComponentRecord.mem_inputs_bindingWiring_iff hwiring
  outputs := (ComponentRecord.provides_bindingWiring hwiring).outputs

end

/-- **What becomes of a binding.** It has an execution exactly if its reference leads to a record
with its module, the component is accepted, a disabled one too, and every filter that counts is an
input. Otherwise it fails over the first of these. That the component cannot be made into an
execution is never the reason. The execution is valid and carries the values of the binding. -/
theorem bindingExecution_decided (c : ComponentConfig) (codeModules : List CodeModule)
    (records : List ComponentRecord) (direction : Direction) (d : Descriptor) (sent : Option Json)
    (operatorId : OperatorId) (jobId : Uuid) (hsent : sent.isSome ↔ direction = .send) :
    let artifacts := Artifacts.ofLists codeModules records
    let result := (c.bindingExecution artifacts direction d sent operatorId jobId).result
    ((∃ x, result = .ok x) ↔
        ∃ record m, artifacts.Finds d record m ∧
          c.accept (.ofRecord record) direction true = .ok () ∧
          record.interface.TakesFilters d.filters sent) ∧
      (∀ fault, result = .error fault ↔ FirstFault c artifacts direction d sent fault) ∧
      (∀ error, result ≠ .error (.execution error)) ∧
      ∀ x, result = .ok x → x.check = .ok () ∧
        ∃ record m, artifacts.Finds d record m ∧
          record.interface.TakesFilters d.filters sent ∧ x.Carries record m d sent := by
  intro artifacts result
  have hkeyed : ∀ id m, artifacts.codeModule? id = some m → m.id = id :=
    fun _ _ => Artifacts.id_of_codeModule?_ofLists
  have hok : ∀ x, result = .ok x ↔ _ := fun x => result_eq_ok_iff hkeyed hsent.1
  have herror : ∀ fault, result = .error fault ↔ _ :=
    fun fault => result_eq_error_iff hkeyed hsent.1
  refine ⟨?_, herror, fun error h => ?_, fun x hx => ?_⟩
  · constructor
    · rintro ⟨x, hx⟩
      obtain ⟨record, m, wiring, hfinds, haccepted, hwiring, -⟩ := (hok x).1 hx
      exact ⟨record, m, hfinds, haccepted,
        ComponentRecord.exists_bindingWiring_iff.1 ⟨wiring, hwiring⟩⟩
    · rintro ⟨record, m, hfinds, haccepted, htakes⟩
      obtain ⟨wiring, hwiring⟩ := ComponentRecord.exists_bindingWiring_iff.2 htakes
      exact ⟨_, (hok _).2 ⟨record, m, wiring, hfinds, haccepted, hwiring, rfl⟩⟩
  · cases (herror _).1 h
  · obtain ⟨record, m, wiring, hfinds, -, hwiring, rfl⟩ := (hok x).1 hx
    exact ⟨(provides_of_bindingExecution hx).1, record, m, hfinds,
      ComponentRecord.exists_bindingWiring_iff.1 ⟨wiring, hwiring⟩, carries_bindingInput hwiring⟩

/-! A component that takes what is sent to it, in a mode. -/

/-- A sink with an input besides `data`. -/
def recorderRecord : ComponentRecord where
  id := .ofNat 1
  name := "recorder"
  versionTag := "1.0.0"
  category := "sinks"
  state := .disabled
  interface := ⟨[.required "data" .any, .required "mode" .string], []⟩
  codeModule := .ofNat 2
  function := "record"

/-- A binding that refers to the sink. -/
def recorderDescriptor : Descriptor :=
  { Descriptor.empty with
    refId := some "00000000-0000-0000-0000-000000000001"
    filters := .singleton "mode" (.text "append") }

theorem bindingExecution_decided_recorder :
    ∃ x, (standard.bindingExecution (.ofLists [⟨.ofNat 2, ""⟩] [recorderRecord]) .send
        recorderDescriptor (some (.text "seven")) (.ofNat 3) (.ofNat 4)).result = .ok x ∧
      x.check = .ok () ∧
      .provision "mode" (some DataType.string.external) (.text "append") ∈ x.wiring.inputs ∧
      .provision "data" none (.text "seven") ∈ x.wiring.inputs := by
  have htakes : recorderRecord.interface.TakesFilters recorderDescriptor.filters
      (some (.text "seven")) := by
    intro key v hget _
    rw [recorderDescriptor, Dict.get?_singleton] at hget
    split at hget
    · next hkey => rw [hkey]; rfl
    · cases hget
  obtain ⟨hsucceeds, -, -, hcarries⟩ := bindingExecution_decided standard [⟨.ofNat 2, ""⟩]
    [recorderRecord] .send recorderDescriptor (some (.text "seven")) (.ofNat 3) (.ofNat 4)
    (by decide)
  obtain ⟨x, hx⟩ := hsucceeds.2 ⟨recorderRecord, ⟨.ofNat 2, ""⟩, ⟨.ofNat 1, rfl, rfl, rfl⟩, rfl,
    htakes⟩
  obtain ⟨hcheck, record, m, ⟨id, hid, hrecord, -⟩, -, hx'⟩ := hcarries x hx
  obtain rfl : Uuid.ofNat 1 = id := Option.some.inj hid
  obtain rfl : recorderRecord = record := Option.some.inj hrecord
  refine ⟨x, hx, hcheck, ?_, ?_⟩
  · exact (hx'.inputs _).2 (.inl ⟨"mode", .text "append", _, rfl, by decide, rfl, rfl⟩)
  · exact (hx'.inputs _).2 (.inr ⟨_, rfl, rfl⟩)

end ComponentConfig

end Dataflow
