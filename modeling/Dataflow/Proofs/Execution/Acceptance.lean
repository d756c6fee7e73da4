import Dataflow.Proofs.Execution.Consistency
import Dataflow.Proofs.Execution.Phases

set_option autoImplicit false

/-! # Which inputs are accepted

`ExecutionInput.Has` says of each fault what it means that an input has it, and `Wiring.Has` the
same of a defect of a wiring. A walk that stops does so at a fault that the input has
(`has_of_defect?`), and a `Consistent` input has none (`Consistent.not_has`). The main statement
`check_accepts_iff` spells out on these terms which inputs are accepted and what a rejection says.
-/

namespace Dataflow

/-! ## Repetitions -/

/-- A key stands twice in a list, what was seen before it included. -/
def RepeatsAfter {κ : Type} (seen l : List κ) (k : κ) : Prop :=
  (k ∈ seen ∧ k ∈ l) ∨ List.Duplicate k l

/-- What repeats behind the head of a list, the head counted among what was seen, repeats in the
whole list. -/
theorem RepeatsAfter.cons {κ : Type} {seen l : List κ} {a k : κ}
    (h : RepeatsAfter (a :: seen) l k) : RepeatsAfter seen (a :: l) k := by
  rcases h with ⟨hseen, hmem⟩ | htwice
  · rcases List.mem_cons.1 hseen with rfl | hseen
    · exact .inr (List.duplicate_cons_self_iff.2 hmem)
    · exact .inl ⟨hseen, List.mem_cons_of_mem _ hmem⟩
  · exact .inr (htwice.duplicate_cons a)

theorem repeatsAfter_nil_iff {κ : Type} {l : List κ} {k : κ} :
    RepeatsAfter [] l k ↔ List.Duplicate k l := by
  simp [RepeatsAfter]

/-! ## Defects of wirings -/

theorem Interface.isSome_input?_iff {i : Interface} {name : String} :
    (i.input? name).isSome = true ↔ name ∈ i.inputs.map (·.name) := by
  simp [input?]

theorem Interface.isSome_output?_iff {i : Interface} {name : String} :
    (i.output? name).isSome = true ↔ name ∈ i.outputs.map (·.name) := by
  simp [output?]

theorem WiringEntry.isDirect_iff {e : WiringEntry} :
    e.isDirect = true ↔ e.adapterId = directProvisioning := by
  simp [isDirect]

namespace Wiring

/-- A wiring has a defect with respect to an interface. -/
inductive Has (w : Wiring) (i : Interface) : Defect → Prop
  | unmatchedInput {e : WiringEntry} (he : e ∈ w.inputs) (hname : e.name ∉ i.inputs.map (·.name)) :
      Has w i (.unmatchedInput e.name)
  | unmatchedOutput {e : WiringEntry} (he : e ∈ w.outputs)
      (hname : e.name ∉ i.outputs.map (·.name)) : Has w i (.unmatchedOutput e.name)
  | inputTwice {name : String} (h : List.Duplicate name (w.inputs.map (·.name))) :
      Has w i (.wiredTwice name)
  | outputTwice {name : String} (h : List.Duplicate name (w.outputs.map (·.name))) :
      Has w i (.wiredTwice name)
  | noReference {e : WiringEntry} (he : e ∈ w.inputs ++ w.outputs)
      (hadapter : e.adapterId ≠ directProvisioning) (hnone : e.reference? = none) :
      Has w i (.noReference e.name e.adapterId)

/-- What is wrong with the entries of one direction. -/
inductive EntriesHave (declared : String → Bool) (undeclared : String → Defect)
    (seen : List String) (entries : List WiringEntry) : Defect → Prop
  | undeclared {e : WiringEntry} (he : e ∈ entries) (hname : declared e.name = false) :
      EntriesHave declared undeclared seen entries (undeclared e.name)
  | twice {name : String} (h : RepeatsAfter seen (entries.map (·.name)) name) :
      EntriesHave declared undeclared seen entries (.wiredTwice name)
  | noReference {e : WiringEntry} (he : e ∈ entries) (hadapter : e.adapterId ≠ directProvisioning)
      (hnone : e.reference? = none) :
      EntriesHave declared undeclared seen entries (.noReference e.name e.adapterId)

/-- The walk through the entries of one direction stops at something that is wrong with them. -/
theorem entriesHave_of_entriesDefect? {declared : String → Bool} {undeclared : String → Defect}
    {seen : List String} {entries : List WiringEntry} {d : Defect}
    (h : entriesDefect? declared undeclared seen entries = some d) :
    EntriesHave declared undeclared seen entries d := by
  induction entries generalizing seen with
  | nil => cases h
  | cons e rest ih =>
      rw [entriesDefect?] at h
      split at h
      next hname =>
        cases h
        exact .undeclared List.mem_cons_self (by simpa using hname)
      next hname =>
        split at h
        next hseen =>
          cases h
          exact .twice (.inl ⟨hseen, List.mem_cons_self⟩)
        next hseen =>
          split at h
          next hreference =>
            cases h
            rw [Bool.and_eq_true, Bool.not_eq_true', Option.isNone_iff_eq_none] at hreference
            obtain ⟨hindirect, hnone⟩ := hreference
            refine .noReference List.mem_cons_self (fun hdirect => ?_) hnone
            rw [WiringEntry.isDirect_iff.2 hdirect] at hindirect
            cases hindirect
          next hreference =>
            -- what is wrong with the rest is wrong with the whole list
            cases ih h with
            | undeclared he hname => exact .undeclared (List.mem_cons_of_mem _ he) hname
            | twice htwice => exact .twice htwice.cons
            | noReference he hadapter hnone =>
                exact .noReference (List.mem_cons_of_mem _ he) hadapter hnone

/-- The defect that a check of a wiring reports is one that the wiring has. -/
theorem has_of_defect? {w : Wiring} {i : Interface} {d : Defect} (h : w.defect? i = some d) :
    w.Has i d := by
  have hundeclared : ∀ {p : Prop} {b : Bool}, (b = true ↔ p) → b = false → ¬ p := by
    rintro p b hiff rfl hp
    cases hiff.2 hp
  rw [defect?] at h
  split at h
  next d' hinputs =>
    cases h
    cases entriesHave_of_entriesDefect? hinputs with
    | undeclared he hname =>
        exact .unmatchedInput he (hundeclared Interface.isSome_input?_iff hname)
    | twice htwice => exact .inputTwice (repeatsAfter_nil_iff.1 htwice)
    | noReference he hadapter hnone =>
        exact .noReference (List.mem_append_left _ he) hadapter hnone
  next hinputs =>
    cases entriesHave_of_entriesDefect? h with
    | undeclared he hname =>
        exact .unmatchedOutput he (hundeclared Interface.isSome_output?_iff hname)
    | twice htwice => exact .outputTwice (repeatsAfter_nil_iff.1 htwice)
    | noReference he hadapter hnone =>
        exact .noReference (List.mem_append_right _ he) hadapter hnone

/-- **When a wiring fits an interface**: its names are declared, each of them is wired once in a
direction, and what is not provided directly has a reference. -/
theorem defect?_eq_none_iff {w : Wiring} {i : Interface} :
    w.defect? i = none ↔
      (∀ e ∈ w.inputs, e.name ∈ i.inputs.map (·.name)) ∧
        (∀ e ∈ w.outputs, e.name ∈ i.outputs.map (·.name)) ∧
        (w.inputs.map (·.name)).Nodup ∧ (w.outputs.map (·.name)).Nodup ∧
        ∀ e ∈ w.inputs ++ w.outputs, e.adapterId ≠ directProvisioning →
          ∃ reference, e.reference? = some reference := by
  have hbound : ∀ e : WiringEntry, (e.isDirect = true ∨ e.reference?.isSome = true) ↔
      (e.adapterId ≠ directProvisioning → ∃ reference, e.reference? = some reference) := by
    intro e
    rw [WiringEntry.isDirect_iff, Option.isSome_iff_exists, or_iff_not_imp_left]
  have hboth : w.defect? i = none ↔
      entriesDefect? (fun n => (i.input? n).isSome) .unmatchedInput [] w.inputs = none ∧
        entriesDefect? (fun n => (i.output? n).isSome) .unmatchedOutput [] w.outputs = none := by
    rw [defect?]
    cases entriesDefect? (fun n => (i.input? n).isSome) .unmatchedInput [] w.inputs <;> simp
  rw [hboth, entriesDefect?_eq_none_iff, entriesDefect?_eq_none_iff, List.forall_mem_append]
  simp only [hbound, Interface.isSome_input?_iff, Interface.isSome_output?_iff,
    List.not_mem_nil, not_false_iff, implies_true, and_true, forall_and]
  constructor
  · rintro ⟨⟨hinputs, hdeclared, hreference⟩, houtputs, hdeclared', hreference'⟩
    exact ⟨hdeclared, hdeclared', hinputs, houtputs, hreference, hreference'⟩
  · rintro ⟨hdeclared, hdeclared', hinputs, houtputs, hreference, hreference'⟩
    exact ⟨⟨hinputs, hdeclared, hreference⟩, houtputs, hdeclared', hreference'⟩

/-- A wiring that fits has no defect. -/
theorem not_has_of_defect?_eq_none {w : Wiring} {i : Interface} (h : w.defect? i = none)
    {d : Defect} : ¬ w.Has i d := by
  obtain ⟨hinputs, houtputs, hnodup, hnodup', hreference⟩ := defect?_eq_none_iff.1 h
  intro hhas
  cases hhas with
  | unmatchedInput he hname => exact hname (hinputs _ he)
  | unmatchedOutput he hname => exact hname (houtputs _ he)
  | inputTwice htwice => exact htwice.not_nodup hnodup
  | outputTwice htwice => exact htwice.not_nodup hnodup'
  | noReference he hadapter hnone =>
      obtain ⟨reference, hsome⟩ := hreference _ he hadapter
      rw [hnone] at hsome
      cases hsome

end Wiring

/-! ## Faults of inputs -/

namespace ExecutionInput

/-- An input has a fault. -/
inductive Has (x : ExecutionInput) : InputFault → Prop
  | duplicateModule {id : Uuid} (h : List.Duplicate id (x.codeModules.map (·.id))) :
      Has x (.duplicateModule id)
  | duplicateComponent {id : Uuid} (h : List.Duplicate id (x.components.map (·.id))) :
      Has x (.duplicateComponent id)
  | missingModule {c : ComponentRecord} (hc : c ∈ x.components)
      (hmissing : ∀ m ∈ x.codeModules, m.id ≠ c.codeModule) :
      Has x (.missingModule c.codeModule c.id)
  | missingComponent {n : ComponentNode} (hn : Node.Inside (.component n) x.workflow)
      (hmissing : ∀ c ∈ x.components, c.id ≠ n.component) :
      Has x (.missingComponent n.component n.name n.id)
  | otherModule {n : ComponentNode} {c : ComponentRecord}
      (hn : Node.Inside (.component n) x.workflow) (hc : c ∈ x.components)
      (hid : c.id = n.component) (hother : c.codeModule ≠ n.codeModule) :
      Has x (.otherModule n.name n.id n.codeModule c.id c.codeModule)
  | wiring {d : Defect} (h : x.wiring.Has x.workflow.interface d) : Has x (.model (.invalid d))

theorem repeatsAfter_of_moduleDefect? {seen : List Uuid} {l : List CodeModule} {fault : InputFault}
    (h : moduleDefect? seen l = some fault) :
    ∃ id, fault = .duplicateModule id ∧ RepeatsAfter seen (l.map (·.id)) id := by
  induction l generalizing seen with
  | nil => cases h
  | cons m rest ih =>
      rw [moduleDefect?] at h
      split at h
      next hseen =>
        cases h
        exact ⟨m.id, rfl, .inl ⟨hseen, List.mem_cons_self⟩⟩
      next hseen =>
        obtain ⟨id, rfl, hrepeats⟩ := ih h
        exact ⟨id, rfl, hrepeats.cons⟩

theorem fault_of_componentDefect? {modules : List CodeModule} {seen : List Uuid}
    {l : List ComponentRecord} {fault : InputFault}
    (h : componentDefect? modules seen l = some fault) :
    (∃ id, fault = .duplicateComponent id ∧ RepeatsAfter seen (l.map (·.id)) id) ∨
      ∃ c ∈ l, fault = .missingModule c.codeModule c.id ∧ ∀ m ∈ modules, m.id ≠ c.codeModule := by
  induction l generalizing seen with
  | nil => cases h
  | cons c rest ih =>
      rw [componentDefect?] at h
      split at h
      next hseen =>
        cases h
        exact .inl ⟨c.id, rfl, .inl ⟨hseen, List.mem_cons_self⟩⟩
      next hseen =>
        split at h
        next hmissing =>
          cases h
          exact .inr ⟨c, List.mem_cons_self, rfl, by simpa using hmissing⟩
        next hmissing =>
          rcases ih h with ⟨id, rfl, hrepeats⟩ | ⟨c', hc', hfault⟩
          · exact .inl ⟨id, rfl, hrepeats.cons⟩
          · exact .inr ⟨c', List.mem_cons_of_mem _ hc', hfault⟩

theorem fault_of_nodeDefect? {components : List ComponentRecord} {n : ComponentNode}
    {fault : InputFault} (h : nodeDefect? components n = some fault) :
    (fault = .missingComponent n.component n.name n.id ∧ ∀ c ∈ components, c.id ≠ n.component) ∨
      ∃ c ∈ components, c.id = n.component ∧ c.codeModule ≠ n.codeModule ∧
        fault = .otherModule n.name n.id n.codeModule c.id c.codeModule := by
  rw [nodeDefect?] at h
  split at h
  next hfind =>
    cases h
    exact .inl ⟨rfl, by simpa using hfind⟩
  next c hfind =>
    split at h
    next => cases h
    next hother =>
      cases h
      exact .inr ⟨c, List.mem_of_find?_eq_some hfind, by simpa using List.find?_some hfind, hother,
        rfl⟩

/-- **A rejection is deserved**: the fault that it reports is one that the input has. -/
theorem has_of_defect? {x : ExecutionInput} {fault : InputFault} (h : x.defect? = some fault) :
    x.Has fault := by
  rw [defect?, Option.or_eq_some_iff, Option.or_eq_some_iff, Option.or_eq_some_iff] at h
  rcases h with hmodule | ⟨-, hcomponent | ⟨-, hnode | ⟨-, hwiring⟩⟩⟩
  · obtain ⟨id, rfl, hrepeats⟩ := repeatsAfter_of_moduleDefect? hmodule
    exact .duplicateModule (repeatsAfter_nil_iff.1 hrepeats)
  · rcases fault_of_componentDefect? hcomponent with ⟨id, rfl, hrepeats⟩ | ⟨c, hc, rfl, hmissing⟩
    · exact .duplicateComponent (repeatsAfter_nil_iff.1 hrepeats)
    · exact .missingModule hc hmissing
  · obtain ⟨n, hn, hfault⟩ := List.exists_of_findSome?_eq_some hnode
    have hinside := Node.mem_componentNodes_iff.1 hn
    rcases fault_of_nodeDefect? hfault with ⟨rfl, hmissing⟩ | ⟨c, hc, hid, hother, rfl⟩
    · exact .missingComponent hinside hmissing
    · exact .otherModule hinside hc hid hother
  · obtain ⟨d, hd, rfl⟩ := Option.map_eq_some_iff.1 hwiring
    exact .wiring (Wiring.has_of_defect? hd)

/-- A consistent input has no fault. -/
theorem Consistent.not_has {x : ExecutionInput} (h : x.Consistent) {fault : InputFault} :
    ¬ x.Has fault := by
  intro hhas
  cases hhas with
  | duplicateModule htwice => exact htwice.not_nodup h.modules_nodup
  | duplicateComponent htwice => exact htwice.not_nodup h.components_nodup
  | missingModule hc hmissing =>
      obtain ⟨m, hm, hid⟩ := h.module _ hc
      exact hmissing m hm hid
  | missingComponent hn hmissing =>
      obtain ⟨c, hc, hid, -⟩ := h.node _ hn
      exact hmissing c hc hid
  | otherModule hn hc hid hother =>
      -- the record of the node is the only one with its identifier
      obtain ⟨c', hc', hid', hsame⟩ := h.node _ hn
      obtain rfl := List.inj_on_of_nodup_map h.components_nodup hc' hc (hid'.trans hid.symm)
      exact hother hsame
  | wiring hd => exact Wiring.not_has_of_defect?_eq_none h.wiring hd

theorem check_eq_error_iff {x : ExecutionInput} {fault : InputFault} :
    x.check = .error fault ↔ x.defect? = some fault := by
  rw [check]
  cases x.defect? <;> simp

/-- An input with a fault is rejected, if maybe for another one. -/
theorem Has.exists_check_eq_error {x : ExecutionInput} {fault : InputFault} (h : x.Has fault) :
    ∃ reported, x.check = .error reported := by
  cases hcheck : x.check with
  | ok _ => exact absurd h (check_eq_ok_iff.1 hcheck).not_has
  | error reported => exact ⟨reported, rfl⟩

/-- **Which inputs are accepted, and what a rejection is.** Identifiers are distinct, records have
their modules, component nodes their records, and the wiring fits the root. A rejection is an error
of the validation of inputs that reports a fault of the input, and an executor that is given the
input does nothing else; every fault leads to one. -/
theorem check_accepts_iff (x : ExecutionInput) :
    (x.check = .ok () ↔
      (x.codeModules.map (·.id)).Nodup ∧ (x.components.map (·.id)).Nodup ∧
        (∀ c ∈ x.components, ∃ m ∈ x.codeModules, m.id = c.codeModule) ∧
        (∀ n, Node.Inside (.component n) x.workflow →
          ∃ c ∈ x.components, c.id = n.component ∧ c.codeModule = n.codeModule) ∧
        (∀ e ∈ x.wiring.inputs, e.name ∈ x.workflow.interface.inputs.map (·.name)) ∧
        (∀ e ∈ x.wiring.outputs, e.name ∈ x.workflow.interface.outputs.map (·.name)) ∧
        (x.wiring.inputs.map (·.name)).Nodup ∧ (x.wiring.outputs.map (·.name)).Nodup ∧
        ∀ e ∈ x.wiring.inputs ++ x.wiring.outputs, e.adapterId ≠ directProvisioning →
          ∃ reference, e.reference? = some reference) ∧
      (∀ fault, x.check = .error fault → x.Has fault ∧
        ∀ (executor : Executor) (s : Supply) (j : Journal),
          (executor.run x).resume s j = (.error (.inputValidation fault), j)) ∧
      ∀ fault, x.Has fault → ∃ reported, x.check = .error reported := by
  refine ⟨?_, fun fault hfault => ⟨?_, fun executor s j => ?_⟩, fun fault hhas => ?_⟩
  · rw [check_eq_ok_iff, ← Wiring.defect?_eq_none_iff]
    constructor
    · rintro ⟨hmodules, hcomponents, hmodule, hnode, hwiring⟩
      exact ⟨hmodules, hcomponents, hmodule, hnode, hwiring⟩
    · rintro ⟨hmodules, hcomponents, hmodule, hnode, hwiring⟩
      exact ⟨hmodules, hcomponents, hmodule, hnode, hwiring⟩
  · exact has_of_defect? (check_eq_error_iff.1 hfault)
  · exact Executor.runWith_of_fault hfault
  · exact hhas.exists_check_eq_error

/-- The sample input with its one record given twice. -/
def repeatedInput : ExecutionInput :=
  { Executor.echoInput with
    components := Executor.echoInput.components ++ Executor.echoInput.components }

theorem check_accepts_iff_repeated :
    Executor.echoInput.check = .ok () ∧
      (Executor.echoInput.wiring.inputs.map (·.name)).Nodup ∧
      repeatedInput.check = .error (.duplicateComponent (.ofNat 2)) ∧
      repeatedInput.Has (.duplicateComponent (.ofNat 2)) ∧
      (Executor.empty.run repeatedInput).resume Executor.countingSupply .empty =
        (.error (.inputValidation (.duplicateComponent (.ofNat 2))), .empty) := by
  have haccepted : Executor.echoInput.check = .ok () := rfl
  have hrejected : repeatedInput.check = .error (.duplicateComponent (.ofNat 2)) := rfl
  obtain ⟨-, -, -, -, -, -, hnames, -⟩ := (check_accepts_iff Executor.echoInput).1.1 haccepted
  obtain ⟨hhas, hrun⟩ := (check_accepts_iff repeatedInput).2.1 _ hrejected
  exact ⟨haccepted, hnames, hrejected, hhas, hrun Executor.empty Executor.countingSupply .empty⟩

end ExecutionInput

end Dataflow
