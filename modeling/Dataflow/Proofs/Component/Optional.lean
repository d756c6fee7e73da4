import Dataflow.Proofs.Component.Listing
import Dataflow.Proofs.Component.Provisioning
import Dataflow.Proofs.Component.Refinement
import Dataflow.Proofs.Component.Typed
import Dataflow.Proofs.Component.Wrapped

set_option autoImplicit false

/-! # Which filters may be left out

Whether an input may be left out is decided twice. The entry of a component calls a filter
required if the input is declared so; a component that is regenerated from its record requires
what has no default value, whatever was declared. The two agree on an input that is required
without a default value or optional with one. `ComponentConfig.optional_filters_iff` says what
comes of the other cases: an input that is declared optional and has no default value is a filter
that the entry calls optional and that cannot be left out, and there is no other.
-/

namespace Dataflow

/-! ## Inputs without a value -/

/-- A value is there for an input, a provided one or else the default, and can be brought into
its type. -/
def Input.Finds (i : Input) (provided : Values) : Prop :=
  ∃ v w, (provided.get? i.name).or i.default? = some v ∧ coerce i.dataType v = .ok w

namespace ComponentNode

variable {bodies : Bodies} {c : ComponentNode} {provided taken : Values} {label node name : String}

/-- One step of taking inputs: the first of them has no value, or it has one that can be brought
into its type, and one of the others has none. -/
theorem takeInputs_cons_eq_missing_iff {i : Input} {rest : List Input} :
    takeInputs label (i :: rest) provided taken = .error (.missingInput node name) ↔
      (node = label ∧ i.name = name ∧ (provided.get? i.name).or i.default? = none) ∨
      ∃ v w, (provided.get? i.name).or i.default? = some v ∧ coerce i.dataType v = .ok w ∧
        takeInputs label rest (provided.erase i.name) (taken.insert i.name w) =
          .error (.missingInput node name) := by
  rw [takeInputs]
  cases (provided.get? i.name).or i.default? with
  | none => simp [eq_comm]
  | some v =>
      simp only [← coerceAs_eq_ok_iff, Option.some.injEq, exists_and_left, exists_eq_left']
      cases coerceAs i.dataType v with
      | error cause => simp
      | ok w => simp

/-- **A component lacks a value for the first input without one**, if it gets so far. -/
theorem takeInputs_eq_missing_iff {inputs : List Input} (hnames : (inputs.map (·.name)).Nodup) :
    takeInputs label inputs provided taken = .error (.missingInput node name) ↔
      node = label ∧ ∃ before i after, inputs = before ++ i :: after ∧ i.name = name ∧
        (provided.get? i.name).or i.default? = none ∧ ∀ i' ∈ before, i'.Finds provided := by
  induction inputs generalizing provided taken with
  | nil => simp [takeInputs]
  | cons i rest ih =>
      obtain ⟨hnew, hrest⟩ := List.nodup_cons.1 (List.map_cons ▸ hnames)
      -- a value that is taken for this input is none of the values for the others
      have herase : ∀ taken, takeInputs label rest (provided.erase i.name) taken =
          takeInputs label rest provided taken := by
        refine fun taken => takeInputs_congr label hrest (fun i' hi' => ?_) taken
        have hne : i'.name ≠ i.name := fun hname => hnew (hname ▸ List.mem_map_of_mem hi')
        rw [Dict.get?_erase, if_neg hne]
      have hsplit := @exists_split_cons_iff _ (fun before i => i.name = name ∧
        (provided.get? i.name).or i.default? = none ∧ ∀ i' ∈ before, i'.Finds provided) i rest
      rw [takeInputs_cons_eq_missing_iff, hsplit]
      simp only [herase, ih hrest]
      constructor
      · rintro (⟨hnode, hname, hnone⟩ | ⟨v, w, hv, hw, hnode, before, i', after, hl, hname, hnone,
          hbefore⟩)
        · exact ⟨hnode, .inl ⟨hname, hnone, List.forall_mem_nil _⟩⟩
        · have hfound : i.Finds provided := ⟨v, w, hv, hw⟩
          exact ⟨hnode, .inr ⟨before, i', after, hl, hname, hnone,
            List.forall_mem_cons.2 ⟨hfound, hbefore⟩⟩⟩
      · rintro ⟨hnode, ⟨hname, hnone, -⟩ | ⟨before, i', after, hl, hname, hnone, hbefore⟩⟩
        · exact .inl ⟨hnode, hname, hnone⟩
        · obtain ⟨⟨v, w, hv, hw⟩, hbefore⟩ := List.forall_mem_cons.1 hbefore
          exact .inr ⟨v, w, hv, hw, hnode, before, i', after, hl, hname, hnone, hbefore⟩

/-- A run lacks a value only where inputs are taken. -/
theorem evaluate_eq_missing_iff :
    (c.evaluate bodies true provided).result = .error (.missingInput node name) ↔
      takeInputs c.label c.interface.inputs provided .empty = .error (.missingInput node name) := by
  constructor
  · intro h
    rcases evaluate_eq_error h with hinputs | hbody | ⟨message, hbody⟩ | ⟨o, -, houtput⟩
    · exact hinputs
    · cases hbody
    · cases hbody
    · cases houtput
  · intro h
    rw [result_evaluate c rfl, h]
    rfl

end ComponentNode

/-- Filters provide no value for an input that has no default value either, while there is a value
for each input before it. -/
def Interface.LacksValue (i : Interface) (filters : Dict String Json) (name : String) : Prop :=
  ∃ before input after, i.inputs = before ++ input :: after ∧ input.name = name ∧
    filters.get? name = none ∧ input.value = none ∧
    ∀ input' ∈ before, ∃ v w, (filters.get? input'.name).or input'.value = some v ∧
      coerce input'.dataType v = .ok w

namespace ComponentRecord

/-- A regenerated input is optional exactly if it has a default value. -/
theorem default?_settled (i : Input) : (settled i).default? = i.value := by
  rw [settled, Input.default?]
  cases i.value <;> rfl

theorem takeInputs_settled_eq_missing_iff {i : Interface}
    (hnames : (i.inputs.map (·.name)).Nodup) {filters : Dict String Json}
    {label node name : String} :
    ComponentNode.takeInputs label (i.inputs.map settled) filters .empty =
        .error (.missingInput node name) ↔
      node = label ∧ i.LacksValue filters name := by
  have hsettled : ((i.inputs.map settled).map (·.name)).Nodup := by
    rw [List.map_map]
    exact hnames
  have hfinds : ∀ before : List Input, (∀ i' ∈ before.map settled, i'.Finds filters) ↔
      ∀ i' ∈ before, ∃ v w, (filters.get? i'.name).or i'.value = some v ∧
        coerce i'.dataType v = .ok w := by
    intro before
    rw [List.forall_mem_map]
    simp only [Input.Finds, default?_settled]
    rfl
  rw [ComponentNode.takeInputs_eq_missing_iff hsettled]
  refine and_congr_right fun _ => ?_
  constructor
  · rintro ⟨before, input, after, hinputs, rfl, hnone, hbefore⟩
    obtain ⟨before, rest, hsplit, rfl, hrest⟩ := List.map_eq_append_iff.1 hinputs
    obtain ⟨input, after, rfl, rfl, rfl⟩ := List.map_eq_cons_iff.1 hrest
    rw [default?_settled, Option.or_eq_none_iff] at hnone
    exact ⟨before, input, after, hsplit, rfl, hnone.1, hnone.2, (hfinds before).1 hbefore⟩
  · rintro ⟨before, input, after, hinputs, rfl, hfilter, hvalue, hbefore⟩
    refine ⟨before.map settled, settled input, after.map settled, ?_, rfl, ?_,
      (hfinds before).2 hbefore⟩
    · rw [hinputs, List.map_append, List.map_cons]
    · rw [default?_settled, Option.or_eq_none_iff]
      exact ⟨hfilter, hvalue⟩

end ComponentRecord

/-! ## Runs that fail for an input -/

namespace ComponentConfig

variable {c : ComponentConfig} {x : Executor} {artifacts : Artifacts} {d : Descriptor}
  {nested : ExecutionInput → Attempt ExecutionError ExecutionResult} {supply : Supply}
  {j : Journal} {record : ComponentRecord} {m : CodeModule} {name : String}

/-- A run of a binding of a source fails for an input that has no value: the evaluation of its
execution does, and the run reports it. -/
def FailsForInput (c : ComponentConfig) (x : Executor) (artifacts : Artifacts) (d : Descriptor)
    (nested : ExecutionInput → Attempt ExecutionError ExecutionResult) (supply : Supply)
    (j : Journal) (name : String) : Prop :=
  ∃ input node,
    (c.bindingExecution artifacts .load d none (supply.operatorId j.operatorIds)
      (supply.randomId j.randomIds)).result = .ok input ∧
    (x.evaluation input d.filters).result = .error (.missingInput node name) ∧
    ((c.runBinding ⟨artifacts, x.runWith nested⟩ .load d none).resume supply j).1 =
      .error ⟨(NodeFailure.missingInput node name).message, some d⟩

/-- What the evaluation of an execution fails for is reported. -/
theorem resume_runBinding_of_failure {input : ExecutionInput} {failure : NodeFailure}
    (hinput : (c.bindingExecution artifacts .load d none (supply.operatorId j.operatorIds)
      (supply.randomId j.randomIds)).result = .ok input)
    (hfailure : (x.evaluation input d.filters).result = .error failure) :
    ((c.runBinding ⟨artifacts, x.runWith nested⟩ .load d none).resume supply j).1 =
      .error ⟨failure.message, some d⟩ := by
  rw [resume_runBinding, answer, hinput]
  show ((x.evaluation input
    (.ofList (ComponentRecord.boundValues d.filters none))).result.mapError _ >>= _) = _
  rw [ComponentRecord.ofList_boundValues, ComponentRecord.providedValues, hfailure]
  rfl

/-- **When a run of a binding fails for an input**: every filter is an input, and the filters and
the default values leave the first input without a value at this one. -/
theorem failsForInput_iff (hfinds : artifacts.Finds d record m)
    (haccepted : c.accept (.ofRecord record) .load true = .ok ())
    (hkeyed : ∀ id m, artifacts.codeModule? id = some m → m.id = id)
    (hnames : (record.interface.inputs.map (·.name)).Nodup) :
    c.FailsForInput x artifacts d nested supply j name ↔
      record.interface.TakesFilters d.filters none ∧
        record.interface.LacksValue d.filters name := by
  have hsent : (none : Option Json).isSome → Direction.load = .send := by
    intro h
    cases h
  -- the evaluation takes the inputs of the regenerated component, whatever the wiring
  have hresult : ∀ wiring node, (x.evaluation (bindingInput record m .load wiring
        (supply.operatorId j.operatorIds) (supply.randomId j.randomIds)) d.filters).result =
          .error (.missingInput node name) ↔
        node = labelled record.name (supply.operatorId j.operatorIds) ∧
          record.interface.LacksValue d.filters name := by
    intro wiring node
    rw [evaluation_bindingInput hnames, Traced.result_then_log,
      ComponentNode.evaluate_eq_missing_iff]
    exact ComponentRecord.takeInputs_settled_eq_missing_iff hnames
  constructor
  · rintro ⟨input, node, hinput, hfailure, -⟩
    obtain ⟨record', m', wiring, hfinds', -, hwiring, rfl⟩ :=
      (result_eq_ok_iff hkeyed hsent).1 hinput
    -- the reference leads to one record only
    obtain ⟨id, hid, hrecord, hmodule⟩ := hfinds
    obtain ⟨id', hid', hrecord', hmodule'⟩ := hfinds'
    obtain rfl := Option.some.inj (hid.symm.trans hid')
    obtain rfl := Option.some.inj (hrecord.symm.trans hrecord')
    obtain rfl := Option.some.inj (hmodule.symm.trans hmodule')
    exact ⟨ComponentRecord.exists_bindingWiring_iff.1 ⟨wiring, hwiring⟩,
      ((hresult wiring node).1 hfailure).2⟩
  · rintro ⟨htakes, hlacks⟩
    obtain ⟨wiring, hwiring⟩ := ComponentRecord.exists_bindingWiring_iff.2 htakes
    have hinput : (c.bindingExecution artifacts .load d none (supply.operatorId j.operatorIds)
        (supply.randomId j.randomIds)).result = .ok (bindingInput record m .load wiring
          (supply.operatorId j.operatorIds) (supply.randomId j.randomIds)) :=
      (result_eq_ok_iff hkeyed hsent).2 ⟨record, m, wiring, hfinds, haccepted, hwiring, rfl⟩
    have hfailure := (hresult wiring _).2 ⟨rfl, hlacks⟩
    exact ⟨_, _, hinput, hfailure, resume_runBinding_of_failure hinput hfailure⟩

end ComponentConfig

/-! ## What the entry says -/

/-- In a map by the names of inputs, each input that counts is found under its own name. -/
theorem Interface.get?_byName_eq_some_iff {α : Type} {i : Interface}
    (hnames : (i.inputs.map (·.name)).Nodup) (counts : Input → Bool) (f : Input → α)
    {key : String} {a : α} :
    (Dict.ofList ((i.inputs.filter counts).map fun i => (i.name, f i))).get? key = some a ↔
      ∃ input ∈ i.inputs, counts input = true ∧ input.name = key ∧ f input = a := by
  have hkeys : (((i.inputs.filter counts).map fun i => (i.name, f i)).map (·.1)).Nodup := by
    rw [List.map_map]
    exact hnames.sublist (List.filter_sublist.map _)
  rw [Dict.get?_ofList_eq_some_iff hkeys]
  simp only [List.mem_map, List.mem_filter, Prod.mk.injEq, and_assoc]

namespace StructureEntry

variable {r : Revision} {listed : StructureEntry} {name : String}

/-- The filters of the entry of a source: one for each input but those that are set by other
means. -/
theorem get?_filters_eq_some_iff (hmade : ofRevision? .load r = some listed)
    (hnames : (r.interface.inputs.map (·.name)).Nodup) {f : StructureFilter} :
    listed.filters.get? name = some f ↔
      ∃ i ∈ r.interface.inputs, i.name ∉ implicitFilters ∧ i.name = name ∧ filterOf i = f := by
  obtain ⟨t, -, rfl⟩ := Option.map_eq_some_iff.1 hmade
  show (filtersOf .load r.interface).get? name = some f ↔ _
  rw [filtersOf, Interface.get?_byName_eq_some_iff hnames]
  simp [isFilter]

/-- A binding of the entry of a source supplies what the entry calls required, and the inputs that
are set by other means. It may leave out any other filter. -/
structure SuppliedBy (listed : StructureEntry) (i : Interface) (d : Descriptor) : Prop where
  refId : d.refId = some listed.id
  refKey : d.refKey = listed.metadataKey
  required : ∀ name f, listed.filters.get? name = some f → f.required = true →
    (d.filters.get? name).isSome
  implicit : ∀ name ∈ implicitFilters, name ∈ i.inputs.map (·.name) →
    (d.filters.get? name).isSome

/-- What such a binding leaves out is called optional. -/
theorem SuppliedBy.get?_filters_of_lacksValue {d : Descriptor}
    (h : listed.SuppliedBy r.interface d) (hmade : ofRevision? .load r = some listed)
    (hnames : (r.interface.inputs.map (·.name)).Nodup)
    (hlacks : r.interface.LacksValue d.filters name) :
    d.filters.get? name = none ∧ listed.filters.get? name = some ⟨name, false, none⟩ := by
  obtain ⟨before, input, after, hinputs, rfl, hleft, hvalue, -⟩ := hlacks
  have hmem : input ∈ r.interface.inputs := by
    rw [hinputs]
    exact List.mem_append_right before List.mem_cons_self
  have hexplicit : input.name ∉ implicitFilters := by
    intro himplicit
    have hset := h.implicit _ himplicit (List.mem_map_of_mem hmem)
    rw [hleft] at hset
    cases hset
  have hfilter : listed.filters.get? input.name = some (filterOf input) :=
    (get?_filters_eq_some_iff hmade hnames).2 ⟨input, hmem, hexplicit, rfl, rfl⟩
  -- a required filter would have been supplied
  have hoptional : decide (input.kind = .required) = false := by
    by_contra hrequired
    have hset := h.required _ _ hfilter (Bool.eq_true_of_not_eq_false hrequired)
    rw [hleft] at hset
    cases hset
  refine ⟨hleft, ?_⟩
  rw [hfilter, filterOf, hoptional, hvalue]

/-- A binding of an entry that sets every input but one to a text. -/
def bindingWithout (listed : StructureEntry) (i : Interface) (name : String) : Descriptor :=
  { Descriptor.empty with
    refId := some listed.id
    refKey := listed.metadataKey
    filters := .ofList ((i.inputs.filter fun i => i.name ≠ name).map fun i => (i.name, .text "1")) }

theorem get?_bindingWithout {i : Interface} (hnames : (i.inputs.map (·.name)).Nodup)
    {key : String} {v : Json} :
    (listed.bindingWithout i name).filters.get? key = some v ↔
      key ∈ i.inputs.map (·.name) ∧ key ≠ name ∧ v = .text "1" := by
  rw [bindingWithout, Interface.get?_byName_eq_some_iff hnames, List.mem_map]
  constructor
  · rintro ⟨input, hinput, hne, rfl, rfl⟩
    exact ⟨⟨input, hinput, rfl⟩, of_decide_eq_true hne, rfl⟩
  · rintro ⟨⟨input, hinput, rfl⟩, hne, rfl⟩
    exact ⟨input, hinput, decide_eq_true hne, rfl, rfl⟩

/-- What the entry calls optional may be left out, as far as the entry goes. -/
theorem suppliedBy_bindingWithout (hmade : ofRevision? .load r = some listed)
    (hnames : (r.interface.inputs.map (·.name)).Nodup) {f : StructureFilter}
    (hfilter : listed.filters.get? name = some f) (hoptional : f.required = false) :
    listed.SuppliedBy r.interface (listed.bindingWithout r.interface name) where
  refId := rfl
  refKey := rfl
  required key f' hkey hrequired := by
    obtain ⟨i, hi, -, rfl, -⟩ := (get?_filters_eq_some_iff hmade hnames).1 hkey
    have hne : i.name ≠ name := by
      intro hname
      rw [hname, hfilter, Option.some.injEq] at hkey
      rw [← hkey, hoptional] at hrequired
      cases hrequired
    rw [(get?_bindingWithout hnames).2 ⟨List.mem_map_of_mem hi, hne, rfl⟩]
    rfl
  implicit key himplicit hkey := by
    obtain ⟨i, -, hexplicit, rfl, -⟩ := (get?_filters_eq_some_iff hmade hnames).1 hfilter
    have hne : key ≠ i.name := fun hname => hexplicit (hname ▸ himplicit)
    rw [(get?_bindingWithout hnames).2 ⟨hkey, hne, rfl⟩]
    rfl

/-- There is a text that every type takes. -/
theorem exists_coerce_text (t : DataType) : ∃ w, coerce t (.text "1") = .ok w := by
  have htext : (coerce t (.text "1")).toOption.isSome = true := by
    cases t <;> decide +kernel
  obtain ⟨w, hw⟩ := Option.isSome_iff_exists.1 htext
  exact ⟨w, toOption_eq_some_iff.1 hw⟩

/-- **An input without a default value cannot be left out**: everything else is there. -/
theorem lacksValue_bindingWithout {i : Interface} (hnames : (i.inputs.map (·.name)).Nodup)
    {input : Input} (hinput : input ∈ i.inputs) (hvalue : input.value = none) :
    i.LacksValue (listed.bindingWithout i input.name).filters input.name := by
  obtain ⟨before, after, hinputs⟩ := List.append_of_mem hinput
  have hleft : (listed.bindingWithout i input.name).filters.get? input.name = none := by
    rw [Option.eq_none_iff_forall_ne_some]
    intro v hv
    exact ((get?_bindingWithout hnames).1 hv).2.1 rfl
  refine ⟨before, input, after, hinputs, rfl, hleft, hvalue, fun input' hinput' => ?_⟩
  obtain ⟨w, hw⟩ := exists_coerce_text input'.dataType
  have hmem : input'.name ∈ i.inputs.map (·.name) := by
    rw [hinputs]
    exact List.mem_map_of_mem (List.mem_append_left _ hinput')
  have hne : input'.name ≠ input.name := by
    rw [hinputs, List.map_append, List.map_cons] at hnames
    exact (List.nodup_append.1 hnames).2.2 _ (List.mem_map_of_mem hinput') _ List.mem_cons_self
  refine ⟨.text "1", w, ?_, hw⟩
  rw [(get?_bindingWithout hnames).2 ⟨hmem, hne, rfl⟩, Option.some_or]

theorem takesFilters_bindingWithout {i : Interface} (hnames : (i.inputs.map (·.name)).Nodup) :
    i.TakesFilters (listed.bindingWithout i name).filters none := by
  intro key v hv _
  obtain ⟨hkey, -, -⟩ := (get?_bindingWithout hnames).1 hv
  obtain ⟨input, hinput, rfl⟩ := List.mem_map.1 hkey
  rw [i.input?_of_mem hnames hinput]
  rfl

end StructureEntry

/-! ## Listed sources -/

theorem Interface.check_eq_ok_iff {i : Interface} :
    i.check = .ok () ↔
      (i.inputs.map (·.name)).Nodup ∧ (i.outputs.map (·.name)).Nodup := by
  rw [← defect?_eq_none_iff, check]
  cases i.defect? <;> simp

namespace ComponentConfig

/-- A component that is listed as a source, whose interface is valid, and the record and the module
that its bindings find. -/
structure ListedSource (c : ComponentConfig) (s : MemoryStore) (artifacts : Artifacts)
    (r : Revision) (listed : StructureEntry) (record : ComponentRecord) (m : CodeModule) :
    Prop where
  lists : c.Lists s.toStore .load listed
  stored : s.get r.id = .ok r
  made : StructureEntry.ofRevision? .load r = some listed
  valid : r.interface.check = .ok ()
  extracted : ∃ own, Artifacts.ofRevision? r = some (own, record)
  component : artifacts.component? r.id = some record
  codeModule : artifacts.codeModule? record.codeModule = some m

namespace ListedSource

variable {c : ComponentConfig} {s : MemoryStore} {artifacts : Artifacts} {r : Revision}
  {listed : StructureEntry} {record : ComponentRecord} {m : CodeModule}

theorem interface_eq (h : c.ListedSource s artifacts r listed record m) :
    record.interface = r.interface := by
  obtain ⟨own, hown⟩ := h.extracted
  exact congrArg ComponentProfile.interface (Engine.ofRecord_of_ofRevision? hown)

theorem accepted (h : c.ListedSource s artifacts r listed record m) :
    c.accept (.ofRecord record) .load true = .ok () := by
  obtain ⟨r', hoffers⟩ := lists_iff.1 h.lists
  have hid : r'.id = r.id := StructureEntry.id_eq_of_ofRevision? hoffers.made h.made
  have hstored := hoffers.stored
  rw [hid, h.stored] at hstored
  obtain rfl := Except.ok.inj hstored
  obtain ⟨own, hown⟩ := h.extracted
  rw [Engine.ofRecord_of_ofRevision? hown]
  exact (accept_false_iff.1 hoffers.accepted).1

theorem nodup_names (h : c.ListedSource s artifacts r listed record m) :
    (r.interface.inputs.map (·.name)).Nodup :=
  (Interface.check_eq_ok_iff.1 h.valid).1

end ListedSource

section

variable {c : ComponentConfig} {s : MemoryStore} {codeModules : List CodeModule}
  {records : List ComponentRecord} {r : Revision} {listed : StructureEntry}
  {record : ComponentRecord} {m : CodeModule}

/-- **A filter that is called optional may be left out exactly if it has a default value.** Take a
component that is listed as a source, with a valid interface, and bindings of its entry that supply
all that the entry calls required. A run of such a binding fails for an input that has no value
only where the binding leaves out a filter that the entry calls optional and shows without a
default value. If the entry shows such a filter, a run of some binding fails in this way. -/
theorem optional_filters_iff
    (h : c.ListedSource s (.ofLists codeModules records) r listed record m) (x : Executor)
    (nested : ExecutionInput → Attempt ExecutionError ExecutionResult) (supply : Supply)
    (j : Journal) :
    let failsForInput := fun d name =>
      c.FailsForInput x (.ofLists codeModules records) d nested supply j name
    (∀ d name, listed.SuppliedBy r.interface d → failsForInput d name →
        d.filters.get? name = none ∧ listed.filters.get? name = some ⟨name, false, none⟩) ∧
      ((∀ d name, listed.SuppliedBy r.interface d → ¬ failsForInput d name) ↔
        ∀ name f, listed.filters.get? name = some f → f.required = false →
          f.defaultValue.isSome) := by
  intro failsForInput
  have hnames := h.nodup_names
  have hfails : ∀ d name, listed.SuppliedBy r.interface d → (failsForInput d name ↔
      r.interface.TakesFilters d.filters none ∧ r.interface.LacksValue d.filters name) := by
    intro d name hsupplied
    have hfinds : (Artifacts.ofLists codeModules records).Finds d record m :=
      ⟨r.id, StructureEntry.reference_of_descriptor hsupplied.refId hsupplied.refKey h.made,
        h.component, h.codeModule⟩
    rw [← h.interface_eq] at hnames ⊢
    exact failsForInput_iff hfinds h.accepted (fun _ _ => Artifacts.id_of_codeModule?_ofLists)
      hnames
  have honly : ∀ d name, listed.SuppliedBy r.interface d → failsForInput d name →
      d.filters.get? name = none ∧ listed.filters.get? name = some ⟨name, false, none⟩ := by
    intro d name hsupplied hfail
    exact hsupplied.get?_filters_of_lacksValue h.made hnames ((hfails d name hsupplied).1 hfail).2
  refine ⟨honly, fun hnever name f hfilter hoptional => ?_,
    fun hdefault d name hsupplied hfail => ?_⟩
  · -- leave out this filter and set all others: the entry has nothing against it
    by_contra hnone
    obtain ⟨input, hinput, -, rfl, rfl⟩ :=
      (StructureEntry.get?_filters_eq_some_iff h.made hnames).1 hfilter
    have hsupplied := StructureEntry.suppliedBy_bindingWithout h.made hnames hfilter hoptional
    refine hnever _ input.name hsupplied ((hfails _ _ hsupplied).2 ⟨?_, ?_⟩)
    · exact StructureEntry.takesFilters_bindingWithout hnames
    · exact StructureEntry.lacksValue_bindingWithout hnames hinput
        (Option.not_isSome_iff_eq_none.1 hnone)
  · obtain ⟨-, hfilter⟩ := honly d name hsupplied hfail
    cases hdefault name _ hfilter rfl

end

/-! A source with an input that is declared optional, with and without a default value. -/

/-- The source. -/
def readingSource (value : Option Json) : Revision :=
  { Revision.component (.ofNat 1) (.ofNat 2) "reading" "sources"
      ⟨[⟨"x", .int, .optional, value⟩], [⟨"y", .int⟩]⟩ ⟨.ofNat 101, "constant", ""⟩ with
    state := .released }

/-- Its record. -/
def readingRecord (value : Option Json) : ComponentRecord where
  id := .ofNat 1
  name := "reading"
  versionTag := "1.0.0"
  category := "sources"
  state := .released
  interface := ⟨[⟨"x", .int, .optional, value⟩], [⟨"y", .int⟩]⟩
  codeModule := .ofNat 101
  function := "constant"

/-- Its entry, which is metadata of its category. -/
def readingEntry (value : Option Json) : StructureEntry where
  id := "sources"
  category := "sources"
  name := "reading (1.0.0)"
  externalType := DataType.int.external
  metadataKey := some (toString (Uuid.ofNat 1))
  filters := .singleton "x" ⟨"x", false, value⟩

/-- What its bindings find. -/
def readingArtifacts (value : Option Json) : Artifacts :=
  .ofLists [⟨.ofNat 101, ""⟩] [readingRecord value]

theorem listedSource_reading (value : Option Json) :
    standard.ListedSource (.ofList [readingSource value]) (readingArtifacts value)
      (readingSource value) (readingEntry value) (readingRecord value) ⟨.ofNat 101, ""⟩ where
  lists := lists_iff.2 ⟨readingSource value, rfl, rfl, rfl⟩
  stored := rfl
  made := rfl
  valid := rfl
  extracted := ⟨_, rfl⟩
  component := rfl
  codeModule := rfl

/-- A binding of the source that sets no filter. -/
def readingDescriptor : Descriptor :=
  { Descriptor.empty with
    refId := some "sources"
    refKey := some "00000000-0000-0000-0000-000000000001" }

theorem suppliedBy_reading (value : Option Json) :
    (readingEntry value).SuppliedBy (readingSource value).interface readingDescriptor where
  refId := rfl
  refKey := by
    show some _ = some (toString (Uuid.ofNat 1))
    decide +kernel
  required name f hget hrequired := by
    rw [readingEntry, Dict.get?_singleton] at hget
    split at hget
    · obtain rfl := Option.some.inj hget
      cases hrequired
    · cases hget
  implicit name himplicit hname := by
    obtain rfl : name = "x" := List.mem_singleton.1 hname
    revert himplicit
    decide

/-- The source is listed, the binding supplies all that the entry calls required, and the run fails
because the input has no value. -/
theorem optional_filter_missed :
    standard.ListedSource (.ofList [readingSource none]) (readingArtifacts none)
        (readingSource none) (readingEntry none) (readingRecord none) ⟨.ofNat 101, ""⟩ ∧
      (readingEntry none).SuppliedBy (readingSource none).interface readingDescriptor ∧
      standard.FailsForInput ⟨.empty, .standard⟩ (readingArtifacts none) readingDescriptor
        (fun _ => throw (.internal .nesting)) Executor.countingSupply .empty "x" := by
  have h := listedSource_reading none
  have hsupplied := suppliedBy_reading none
  have hfinds : (readingArtifacts none).Finds readingDescriptor (readingRecord none)
      ⟨.ofNat 101, ""⟩ :=
    ⟨_, StructureEntry.reference_of_descriptor hsupplied.refId hsupplied.refKey h.made,
      h.component, h.codeModule⟩
  have hnames : ((readingRecord none).interface.inputs.map (·.name)).Nodup :=
    List.nodup_singleton _
  refine ⟨h, hsupplied, (failsForInput_iff hfinds h.accepted
    (fun _ _ => Artifacts.id_of_codeModule?_ofLists) hnames).2 ⟨?_, ?_⟩⟩
  · intro key v hget
    cases hget
  · exact ⟨[], _, [], rfl, rfl, rfl, rfl, List.forall_mem_nil _⟩

/-- With a default value the filter may be left out. -/
theorem optional_filters_iff_reading :
    ¬ standard.FailsForInput ⟨.empty, .standard⟩ (readingArtifacts (some (.text "7")))
        readingDescriptor (fun _ => throw (.internal .nesting)) Executor.countingSupply .empty
        "x" := by
  obtain ⟨-, hiff⟩ := optional_filters_iff (listedSource_reading (some (.text "7")))
    ⟨.empty, .standard⟩ (fun _ => throw (.internal .nesting)) Executor.countingSupply .empty
  refine hiff.2 (fun name f hget _ => ?_) readingDescriptor "x" (suppliedBy_reading _)
  rw [readingEntry, Dict.get?_singleton] at hget
  split at hget
  · obtain rfl := Option.some.inj hget
    rfl
  · cases hget

end ComponentConfig

end Dataflow
