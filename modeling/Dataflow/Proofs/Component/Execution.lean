import Dataflow.Proofs.Component.Binding
import Dataflow.Proofs.Execution.Consistency

set_option autoImplicit false

/-! # When a binding has an execution

A binding fails to become an execution for one of three reasons: what it refers to is not there
(`ComponentConfig.referenced_eq_ok_iff`), the component may not be used in this direction, or a
filter is no input of the component (`ComponentRecord.exists_bindingWiring_iff`). There is no
fourth reason: the execution that is made is always consistent
(`ComponentConfig.consistent_bindingInput`).
-/

namespace Dataflow

/-! ## The look-ups of an input -/

/-- In a table of a list, what is found is an element, under its own key. -/
theorem mem_of_get?_table {κ α : Type} [Ord κ] [Std.TransOrd κ] [Std.LawfulEqOrd κ]
    [DecidableEq κ] {key : α → κ} {l : List α} {k : κ} {a : α}
    (h : (l.foldl (fun d a => d.insertNew (key a) a) Dict.empty).get? k = some a) :
    a ∈ l ∧ key a = k := by
  rw [Dict.get?_foldl_insertNew key (fun a => a), Dict.get?_empty, Option.none_or,
    Option.map_id'] at h
  have hkey := List.find?_some h
  exact ⟨List.mem_of_find?_eq_some h, of_decide_eq_true hkey⟩

/-- In a table of a list with distinct keys each element is found under its own key. -/
theorem get?_table_eq_some_iff {κ α : Type} [Ord κ] [Std.TransOrd κ] [Std.LawfulEqOrd κ]
    [DecidableEq κ] {key : α → κ} {l : List α} (h : (l.map key).Nodup) {k : κ} {a : α} :
    (l.foldl (fun d a => d.insertNew (key a) a) Dict.empty).get? k = some a ↔
      a ∈ l ∧ key a = k := by
  rw [Dict.get?_foldl_insertNew key (fun a => a), Dict.get?_empty, Option.none_or,
    Option.map_id', find?_key_eq_some_iff h fun _ => decide_eq_true_iff]

namespace Artifacts

/-- A module is found under its own identifier. -/
theorem id_of_codeModule?_ofLists {codeModules : List CodeModule}
    {components : List ComponentRecord} {id : Uuid} {m : CodeModule}
    (h : (ofLists codeModules components).codeModule? id = some m) : m.id = id :=
  (mem_of_get?_table h).2

/-- A record that is found is one of the input. -/
theorem mem_of_component?_ofInput {x : ExecutionInput} {id : Uuid} {c : ComponentRecord}
    (h : (ofInput x).component? id = some c) : c ∈ x.components :=
  (mem_of_get?_table h).1

/-- The record that is found under an identifier. -/
theorem component?_ofInput_eq_some_iff {x : ExecutionInput}
    (h : (x.components.map (·.id)).Nodup) {id : Uuid} {c : ComponentRecord} :
    (ofInput x).component? id = some c ↔ c ∈ x.components ∧ c.id = id :=
  get?_table_eq_some_iff h

/-- The module that is found under an identifier. -/
theorem codeModule?_ofInput_eq_some_iff {x : ExecutionInput}
    (h : (x.codeModules.map (·.id)).Nodup) {id : Uuid} {m : CodeModule} :
    (ofInput x).codeModule? id = some m ↔ m ∈ x.codeModules ∧ m.id = id :=
  get?_table_eq_some_iff h

end Artifacts

namespace ComponentConfig

variable {c : ComponentConfig} {artifacts : Artifacts} {direction : Direction} {d : Descriptor}
  {record : ComponentRecord} {m : CodeModule}

/-! ## What a binding refers to -/

section Referenced

variable {id : Uuid}

theorem referenced_of_not_id (hid : Uuid.ofString? (d.reference?.getD "") = none) :
    c.referenced artifacts direction d =
      .error (.invalidReference (d.reference?.getD "")) := by
  rw [referenced, hid]
  rfl

theorem referenced_of_no_record (hid : Uuid.ofString? (d.reference?.getD "") = some id)
    (hrecord : artifacts.component? id = none) :
    c.referenced artifacts direction d = .error (.componentNotPresent id) := by
  rw [referenced, hid]
  dsimp only
  rw [hrecord]
  rfl

theorem referenced_of_no_module (hid : Uuid.ofString? (d.reference?.getD "") = some id)
    (hrecord : artifacts.component? id = some record)
    (hmodule : artifacts.codeModule? record.codeModule = none) :
    c.referenced artifacts direction d = .error (.codeModuleNotPresent record.codeModule) := by
  rw [referenced, hid]
  dsimp only
  rw [hrecord]
  dsimp only
  rw [hmodule]
  rfl

/-- What is there counts if it is accepted. -/
theorem referenced_of_module (hid : Uuid.ofString? (d.reference?.getD "") = some id)
    (hrecord : artifacts.component? id = some record)
    (hmodule : artifacts.codeModule? record.codeModule = some m) :
    c.referenced artifacts direction d =
      ((c.accept (.ofRecord record) direction true).mapError .unsuitable).map
        fun _ => (record, m) := by
  rw [referenced, hid]
  dsimp only
  rw [hrecord]
  dsimp only
  rw [hmodule]
  dsimp only
  cases c.accept (.ofRecord record) direction true <;> rfl

/-- **What a binding refers to**: a record with its module, if the component is accepted. -/
theorem referenced_eq_ok_iff :
    c.referenced artifacts direction d = .ok (record, m) ↔
      ∃ id, Uuid.ofString? (d.reference?.getD "") = some id ∧
        artifacts.component? id = some record ∧
        artifacts.codeModule? record.codeModule = some m ∧
        c.accept (.ofRecord record) direction true = .ok () := by
  constructor
  · intro h
    cases hid : Uuid.ofString? (d.reference?.getD "") with
    | none =>
        rw [referenced_of_not_id hid] at h
        cases h
    | some id =>
        cases hrecord : artifacts.component? id with
        | none =>
            rw [referenced_of_no_record hid hrecord] at h
            cases h
        | some record' =>
            cases hmodule : artifacts.codeModule? record'.codeModule with
            | none =>
                rw [referenced_of_no_module hid hrecord hmodule] at h
                cases h
            | some m' =>
                rw [referenced_of_module hid hrecord hmodule] at h
                cases haccept : c.accept (.ofRecord record') direction true with
                | error fault =>
                    rw [haccept] at h
                    cases h
                | ok _ =>
                    rw [haccept] at h
                    cases h
                    exact ⟨id, rfl, hrecord, hmodule, haccept⟩
  · rintro ⟨id, hid, hrecord, hmodule, haccept⟩
    rw [referenced_of_module hid hrecord hmodule, haccept]
    rfl

end Referenced

/-! ## What is accepted -/

theorem isNone_unsuitability?_iff {p : ComponentProfile} {allowDisabled : Bool} :
    (c.unsuitability? p direction allowDisabled).isNone = true ↔
      c.accept p direction allowDisabled = .ok () := by
  rw [accept]
  cases c.unsuitability? p direction allowDisabled <;> simp

/-- What is asked of a component that is to serve in a direction. -/
theorem accept_eq_ok_iff {p : ComponentProfile} {allowDisabled : Bool} :
    c.accept p direction allowDisabled = .ok () ↔
      p.kind = .component ∧ p.state ∈ c.allowedStates allowDisabled ∧
        c.allowsCategory direction p.category = true ∧
        shapeFault? direction p.label p.interface = none := by
  rw [← isNone_unsuitability?_iff, Option.isNone_iff_eq_none, unsuitability?, allowsCategory]
  by_cases hkind : p.kind = .component
  · by_cases hstate : p.state ∈ c.allowedStates allowDisabled
    · cases hallowed : c.allowedCategories direction with
      | none => simp [hkind, hstate]
      | some allowed =>
          by_cases hcategory : p.category ∈ allowed <;> simp [hkind, hstate, hcategory]
    · simp [hkind, hstate]
  · simp [hkind]

/-- A component that serves as a sink has an input for what is sent. -/
theorem exists_data_of_accept {p : ComponentProfile} {allowDisabled : Bool}
    (h : c.accept p .send allowDisabled = .ok ()) :
    (p.interface.input? sinkDataInput).isSome := by
  have hshape := (accept_eq_ok_iff.1 h).2.2.2
  rw [shapeFault?] at hshape
  by_cases hdata : (p.interface.input? sinkDataInput).isNone
  · rw [if_pos hdata] at hshape
    cases hshape
  · exact Option.isSome_iff_ne_none.2 fun hnone => hdata (Option.isNone_iff_eq_none.2 hnone)

/-- A component that serves as a source has one output. -/
theorem exists_output_of_accept {p : ComponentProfile} {allowDisabled : Bool}
    (h : c.accept p .load allowDisabled = .ok ()) : ∃ o, p.interface.outputs = [o] := by
  have hshape := (accept_eq_ok_iff.1 h).2.2.2
  cases houtputs : p.interface.outputs with
  | nil => simp [shapeFault?, houtputs] at hshape
  | cons o rest =>
      cases rest with
      | nil => exact ⟨o, rfl⟩
      | cons o' rest => simp [shapeFault?, houtputs] at hshape

/-- A component that serves as a sink has no outputs. -/
theorem outputs_of_accept {p : ComponentProfile} {allowDisabled : Bool}
    (h : c.accept p .send allowDisabled = .ok ()) : p.interface.outputs = [] := by
  have hshape := (accept_eq_ok_iff.1 h).2.2.2
  have hdata := Option.isSome_iff_ne_none.1 (exists_data_of_accept h)
  cases houtputs : p.interface.outputs with
  | nil => rfl
  | cons o rest => simp [shapeFault?, hdata, houtputs] at hshape

end ComponentConfig

/-! ## The filters of a binding -/

/-- Whether every filter is an input. What is sent takes the place of a filter `data`. -/
def Interface.TakesFilters (i : Interface) (filters : Dict String Json) (sent : Option Json) :
    Prop :=
  ∀ key v, filters.get? key = some v → ¬ (sent.isSome ∧ key = sinkDataInput) →
    (i.input? key).isSome

namespace ComponentRecord

variable {c : ComponentRecord} {filters : Dict String Json} {sent : Option Json}
  {type : Option ExternalType}

/-- The filters that count. -/
theorem mem_usedFilters {f : String × Json} :
    f ∈ filters.toList.filter (fun f => !(sent.isSome && f.1 == sinkDataInput)) ↔
      filters.get? f.1 = some f.2 ∧ ¬ (sent.isSome ∧ f.1 = sinkDataInput) := by
  rw [List.mem_filter, Dict.toList, Dict.mem_entries_iff filters f.1 f.2]
  cases sent <;> simp

theorem filterEntry_eq_ok_iff {key : String} {v : Json} :
    (∃ e, c.filterEntry key v = .ok e) ↔ (c.interface.input? key).isSome := by
  rw [filterEntry]
  cases c.interface.input? key <;> simp

/-- **A binding has a wiring exactly if every filter is an input of the component.** -/
theorem exists_bindingWiring_iff :
    (∃ w, c.bindingWiring filters (sent.map fun v => ⟨v, type⟩) = .ok w) ↔
      c.interface.TakesFilters filters sent := by
  constructor
  · rintro ⟨w, hw⟩ key v hget hused
    obtain ⟨entries, hentries, -⟩ := bind_eq_ok.1 hw
    rw [Option.isSome_map] at hentries
    obtain ⟨e, -, he⟩ := (exists_of_forall₂ (mapM_eq_ok_iff.1 hentries)).1 (key, v)
      (mem_usedFilters.2 ⟨hget, hused⟩)
    exact filterEntry_eq_ok_iff.1 ⟨e, he⟩
  · intro h
    rw [bindingWiring, Option.isSome_map]
    cases hentries : List.mapM (fun f => c.filterEntry f.1 f.2)
        (filters.toList.filter fun f => !(sent.isSome && f.1 == sinkDataInput)) with
    | ok entries => exact ⟨_, rfl⟩
    | error u =>
        obtain ⟨f, hf, hfail⟩ := mapM_eq_error hentries
        obtain ⟨hget, hused⟩ := mem_usedFilters.1 hf
        obtain ⟨e, he⟩ := filterEntry_eq_ok_iff.2 (h f.1 f.2 hget hused)
        rw [hfail] at he
        cases he

/-- A filter that is reported is a filter of the binding and no input. -/
theorem of_bindingWiring_eq_error {u : UnknownFilter}
    (h : c.bindingWiring filters (sent.map fun v => ⟨v, type⟩) = .error u) :
    filters.contains u.filter ∧ c.interface.input? u.filter = none ∧
      u.component = c.displayName := by
  rw [bindingWiring, Option.isSome_map] at h
  cases hentries : List.mapM (fun f => c.filterEntry f.1 f.2)
      (filters.toList.filter fun f => !(sent.isSome && f.1 == sinkDataInput)) with
  | ok entries =>
      rw [hentries] at h
      cases h
  | error u' =>
      rw [hentries] at h
      obtain rfl : u' = u := Except.error.inj h
      obtain ⟨f, hf, hfail⟩ := mapM_eq_error hentries
      rw [filterEntry] at hfail
      cases hinput : c.interface.input? f.1 with
      | some i =>
          rw [hinput] at hfail
          cases hfail
      | none =>
          rw [hinput] at hfail
          obtain rfl := Except.error.inj hfail
          exact ⟨(Dict.contains_iff _ _).2 ⟨_, (mem_usedFilters.1 hf).1⟩, hinput, rfl⟩

/-- No name is provided twice: what is sent is not a filter any more. -/
theorem nodup_boundValues (filters : Dict String Json) (sent : Option Json) :
    ((boundValues filters sent).map (·.1)).Nodup := by
  have hfilters : ((filters.toList.filter
      (fun f => !(sent.isSome && f.1 == sinkDataInput))).map (·.1)).Nodup :=
    (Dict.nodup_keys filters).sublist (List.filter_sublist.map _)
  rw [boundValues, List.map_append]
  cases sent with
  | none => simpa using hfilters
  | some v =>
      refine List.Nodup.append hfilters (List.nodup_singleton _) ?_
      rintro key hkey hdata
      obtain ⟨f, hf, rfl⟩ := List.mem_map.1 hkey
      exact (mem_usedFilters.1 hf).2 ⟨rfl, List.mem_singleton.1 hdata⟩

/-- No input is wired twice. -/
theorem nodup_bindingWiring {w : Wiring}
    (h : c.bindingWiring filters (sent.map fun v => ⟨v, type⟩) = .ok w) :
    (w.inputs.map (·.name)).Nodup := by
  have hnames : w.inputs.map (·.name) = (boundValues filters sent).map (·.1) :=
    List.forall₂_eq_eq_eq ▸ List.forall₂_map_left_iff.2
      (List.forall₂_map_right_iff.2 ((provides_bindingWiring h).inputs.imp fun _ _ h => h.1))
  rw [hnames]
  exact nodup_boundValues filters sent

/-- Every value that is provided is one of an input. -/
theorem isSome_input?_of_bindingWiring {w : Wiring}
    (h : c.bindingWiring filters (sent.map fun v => ⟨v, type⟩) = .ok w)
    (hdata : sent.isSome → (c.interface.input? sinkDataInput).isSome) {value : String × Json}
    (hvalue : value ∈ boundValues filters sent) : (c.interface.input? value.1).isSome := by
  rcases List.mem_append.1 hvalue with hfilter | hsent
  · obtain ⟨hget, hused⟩ := mem_usedFilters.1 hfilter
    exact exists_bindingWiring_iff.1 ⟨w, h⟩ _ _ hget hused
  · cases sent with
    | none => cases hsent
    | some v =>
        rw [List.mem_singleton.1 hsent]
        exact hdata rfl

end ComponentRecord

/-! ## The execution of a binding -/

/-- Settling the kinds of inputs does not change what they are called. -/
theorem ComponentRecord.input?_regenerate (c : ComponentRecord) (m : CodeModule) (name : String) :
    (c.regenerate m).interface.input? name = (c.interface.input? name).map settled := by
  show (c.interface.inputs.map settled).find? _ = _
  rw [List.find?_map]
  rfl

namespace ComponentConfig

variable {c : ComponentConfig} {artifacts : Artifacts} {direction : Direction} {d : Descriptor}
  {sent : Option Json} {record : ComponentRecord} {m : CodeModule}

/-- **The execution of a binding is consistent.** -/
theorem consistent_bindingInput {filters : Dict String Json} {type : Option ExternalType}
    {wiring : Wiring} (hmodule : m.id = record.codeModule)
    (hwiring : record.bindingWiring filters (sent.map fun v => ⟨v, type⟩) = .ok wiring)
    (hdata : sent.isSome → (record.interface.input? sinkDataInput).isSome)
    (operatorId : OperatorId) (jobId : Uuid) :
    (bindingInput record m direction wiring operatorId jobId).Consistent := by
  have hprovides := ComponentRecord.provides_bindingWiring hwiring
  refine ⟨List.nodup_singleton _, List.nodup_singleton _, fun c' hc' => ?_, fun n hn => ?_, ?_⟩
  · rw [List.mem_singleton.1 hc']
    exact ⟨m, List.mem_singleton_self m, hmodule⟩
  · -- the only node is the one of the component
    have hnode : n ∈ [(record.regenerate m).leaf ⟨m.id, record.function, m.code⟩ operatorId
        record.name] := Node.mem_componentNodes_iff.2 hn
    rw [List.mem_singleton.1 hnode]
    exact ⟨record, List.mem_singleton_self record, rfl, hmodule.symm⟩
  · have hinputs : Wiring.entriesDefect?
        (fun name => ((record.regenerate m).interface.input? name).isSome) .unmatchedInput []
          wiring.inputs = none := by
      rw [Wiring.entriesDefect?_eq_none_iff]
      refine ⟨⟨ComponentRecord.nodup_bindingWiring hwiring, fun _ _ => List.not_mem_nil⟩,
        fun e he => ?_⟩
      obtain ⟨v, hv, hname, hprovided⟩ := (exists_of_forall₂ hprovides.inputs).1 e he
      refine ⟨?_, .inl hprovided.direct⟩
      rw [hname, ComponentRecord.input?_regenerate, Option.isSome_map]
      exact ComponentRecord.isSome_input?_of_bindingWiring hwiring hdata hv
    show Wiring.defect? wiring (record.regenerate m).interface = none
    rw [Wiring.defect?, hinputs, hprovides.outputs]
    rfl

/-- **What the execution of a binding comes to** once what it refers to is there: it fails over a
filter, or not at all. -/
theorem result_bindingExecution_of_referenced (operatorId : OperatorId) (jobId : Uuid)
    (href : c.referenced artifacts direction d = .ok (record, m))
    (hmodule : m.id = record.codeModule) (hsent : sent.isSome → direction = .send) :
    (c.bindingExecution artifacts direction d sent operatorId jobId).result =
      ((record.bindingWiring d.filters (sent.map fun v => ⟨v, d.externalType⟩)).map
        fun wiring => bindingInput record m direction wiring operatorId jobId).mapError
          .unknownFilter := by
  have hdata : sent.isSome → (record.interface.input? sinkDataInput).isSome := by
    intro h
    obtain ⟨-, -, -, -, haccept⟩ := referenced_eq_ok_iff.1 href
    rw [hsent h] at haccept
    exact exists_data_of_accept haccept
  rw [result_bindingExecution, href]
  show (record.bindingWiring d.filters _).mapError BindingFault.unknownFilter >>= _ = _
  cases hwiring : record.bindingWiring d.filters (sent.map fun v => ⟨v, d.externalType⟩) with
  | error u => rfl
  | ok wiring =>
      have hconsistent : (bindingInput record m direction wiring operatorId jobId).Consistent :=
        consistent_bindingInput hmodule hwiring hdata operatorId jobId
      have hcheck := ExecutionInput.check_eq_ok_iff.2 hconsistent
      show ((bindingInput record m direction wiring operatorId jobId).check.map
        fun _ => bindingInput record m direction wiring operatorId jobId).mapError _ = _
      rw [hcheck]
      rfl

end ComponentConfig

end Dataflow
