import Dataflow.Proofs.Coercion
import Dataflow.Proofs.Component.Bare
import Dataflow.Proofs.Graph.Routing
import Dataflow.Proofs.Journal.Leaves

set_option autoImplicit false

/-! # What bodies are called on

A component takes one value for each declared input, in the representation of its type
(`ComponentNode.fits_of_takeInputs`). If that can be done it calls its body on them, once and
before anything else (`ComponentNode.evaluate_of_supplied`), and otherwise it fails without a call
(`ComponentNode.evaluate_of_not_supplied`). So its body is called on inputs that fit the interface,
and what the body does on others does not matter (`ComponentNode.leaves_evaluate`,
`ComponentNode.evaluate_agreeing`).

An interface may name an input twice. Then the first of them has the provided value, the others
their defaults, and the last one decides over the value and its type.
-/

namespace Dataflow

/-! ## Inputs that fit -/

/-- Values fit the inputs of an interface: there is one for each name and no other, in the
representation of the type of the last input of the name. -/
structure Interface.Fits (i : Interface) (inputs : Values) : Prop where
  names : ∀ name, (inputs.get? name).isSome ↔ name ∈ i.inputs.map (·.name)
  typed : ∀ name input v, lastWith (·.name) i.inputs name = some input →
    inputs.get? name = some v → Canonical input.dataType v

/-- What is there for an input behind `earlier` ones: the provided value, unless one of those of
the name has taken it, or else the default. -/
def Input.offered (input : Input) (provided : Values) (earlier : List Input) : Option Json :=
  (if input.name ∈ earlier.map (·.name) then none else provided.get? input.name).or input.default?

/-- For every input there is a value that can be brought into its type. -/
def Interface.Supplied (i : Interface) (provided : Values) : Prop :=
  ∀ earlier input later, i.inputs = earlier ++ input :: later →
    ∃ v w, input.offered provided earlier = some v ∧ coerce input.dataType v = .ok w

/-- What holds wherever a list is split holds at its head, and wherever its tail is split. -/
theorem forall_split_cons_iff {α : Type} {Q : List α → α → Prop} {a : α} {l : List α} :
    (∀ before b after, a :: l = before ++ b :: after → Q before b) ↔
      Q [] a ∧ ∀ before b after, l = before ++ b :: after → Q (a :: before) b := by
  constructor
  · intro h
    refine ⟨h [] a l rfl, fun before b after hsplit => h (a :: before) b after ?_⟩
    rw [hsplit, List.cons_append]
  · rintro ⟨hhead, htail⟩ before b after hsplit
    cases before with
    | nil =>
        obtain ⟨rfl, -⟩ := List.cons.inj hsplit
        exact hhead
    | cons first before =>
        obtain ⟨rfl, hrest⟩ := List.cons.inj hsplit
        exact htail before b after hrest

/-- What holds somewhere where a list is split holds at its head, or where its tail is split. -/
theorem exists_split_cons_iff {α : Type} {Q : List α → α → Prop} {a : α} {l : List α} :
    (∃ before b after, a :: l = before ++ b :: after ∧ Q before b) ↔
      Q [] a ∨ ∃ before b after, l = before ++ b :: after ∧ Q (a :: before) b := by
  have hdual := not_congr (@forall_split_cons_iff α (fun before b => ¬ Q before b) a l)
  simpa [not_and_or, imp_iff_not_or] using hdual

namespace ComponentNode

/-- One step of taking inputs: there is a value for the first of them, it can be brought into its
type, and the others are taken. -/
theorem takeInputs_cons_eq_ok_iff {label : String} {i : Input} {rest : List Input}
    {provided taken inputs : Values} :
    takeInputs label (i :: rest) provided taken = .ok inputs ↔
      ∃ v w, (provided.get? i.name).or i.default? = some v ∧ coerce i.dataType v = .ok w ∧
        takeInputs label rest (provided.erase i.name) (taken.insert i.name w) = .ok inputs := by
  rw [takeInputs]
  cases (provided.get? i.name).or i.default? with
  | none => simp
  | some v =>
      simp only [← coerceAs_eq_ok_iff, Option.some.injEq, exists_and_left, exists_eq_left']
      cases coerceAs i.dataType v with
      | error cause => simp
      | ok w => simp

/-- What is taken under a name: a value in the type of the last input of the name. -/
theorem get?_of_takeInputs {label : String} {l : List Input} {provided taken inputs : Values}
    (h : takeInputs label l provided taken = .ok inputs) (name : String) :
    (∃ input v, lastWith (·.name) l name = some input ∧ inputs.get? name = some v ∧
        Canonical input.dataType v) ∨
      lastWith (·.name) l name = none ∧ inputs.get? name = taken.get? name := by
  induction l generalizing provided taken with
  | nil =>
      obtain rfl : taken = inputs := Except.ok.inj h
      exact .inr ⟨rfl, rfl⟩
  | cons i rest ih =>
      obtain ⟨v, w, -, hcoerce, hrest⟩ := takeInputs_cons_eq_ok_iff.1 h
      have hw : Canonical i.dataType w := canonical_of_coerce hcoerce
      -- the rest of the list goes before `i`, and `i` before what was taken
      rw [lastWith_cons]
      rcases ih hrest with ⟨input, v', hlast, hget, hv'⟩ | ⟨hlast, hget⟩
      · exact .inl ⟨input, v', by rw [hlast, Option.some_or], hget, hv'⟩
      · rw [Dict.get?_insert] at hget
        rw [hlast, Option.none_or]
        by_cases hname : i.name = name
        · rw [if_pos hname.symm] at hget
          rw [if_pos hname]
          exact .inl ⟨i, w, rfl, hget, hw⟩
        · rw [if_neg (Ne.symm hname)] at hget
          rw [if_neg hname]
          exact .inr ⟨rfl, hget⟩

/-- **What a component takes fits its interface.** -/
theorem fits_of_takeInputs {label : String} {i : Interface} {provided inputs : Values}
    (h : takeInputs label i.inputs provided .empty = .ok inputs) : i.Fits inputs where
  names name := by
    rcases get?_of_takeInputs h name with ⟨input, v, hlast, hget, -⟩ | ⟨hlast, hget⟩
    · obtain ⟨hmem, rfl⟩ := mem_of_lastWith _ hlast
      simp only [hget, Option.isSome_some, true_iff]
      exact List.mem_map_of_mem hmem
    · simp only [hget, Dict.get?_empty, Option.isSome_none, Bool.false_eq_true, false_iff]
      intro hmem
      obtain ⟨input, hinput, rfl⟩ := List.mem_map.1 hmem
      obtain ⟨last, hsome⟩ := exists_lastWith (·.name) hinput
      rw [hlast] at hsome
      cases hsome
  typed name input v hlast hget := by
    rcases get?_of_takeInputs h name with ⟨input', v', hlast', hget', hv'⟩ | ⟨hnone, -⟩
    · rw [hlast, Option.some.injEq] at hlast'
      rw [hget, Option.some.injEq] at hget'
      rw [hlast', hget']
      exact hv'
    · rw [hlast] at hnone
      cases hnone

/-- The step of `takeInputs`: `left` are the provided values without those that the inputs
`earlier` have taken. -/
theorem exists_takeInputs_iff {label : String} {l earlier : List Input}
    {provided left taken : Values}
    (hleft : ∀ name, left.get? name =
      if name ∈ earlier.map (·.name) then none else provided.get? name) :
    (∃ inputs, takeInputs label l left taken = .ok inputs) ↔
      ∀ before input after, l = before ++ input :: after →
        ∃ v w, input.offered provided (earlier ++ before) = some v ∧
          coerce input.dataType v = .ok w := by
  induction l generalizing earlier left taken with
  | nil => simp [takeInputs]
  | cons i rest ih =>
      have hoffered : (left.get? i.name).or i.default? = i.offered provided earlier := by
        rw [hleft, Input.offered]
      have hnext : ∀ name, (left.erase i.name).get? name =
          if name ∈ (earlier ++ [i]).map (·.name) then none else provided.get? name := by
        intro name
        rw [Dict.get?_erase, hleft]
        by_cases hname : name = i.name
        · simp [hname]
        · simp [hname]
      -- what is taken for `i` makes no difference to whether there is a value for the others
      have hrest : ∀ w, (∃ inputs, takeInputs label rest (left.erase i.name)
          (taken.insert i.name w) = .ok inputs) ↔ ∀ before input after,
            rest = before ++ input :: after → ∃ v w,
              input.offered provided (earlier ++ i :: before) = some v ∧
                coerce input.dataType v = .ok w := by
        intro w
        rw [ih hnext]
        simp only [List.append_assoc, List.singleton_append]
      rw [forall_split_cons_iff, List.append_nil, ← hoffered]
      simp only [takeInputs_cons_eq_ok_iff]
      constructor
      · rintro ⟨inputs, v, w, hv, hw, htake⟩
        exact ⟨⟨v, w, hv, hw⟩, (hrest w).1 ⟨inputs, htake⟩⟩
      · rintro ⟨⟨v, w, hv, hw⟩, hothers⟩
        obtain ⟨inputs, htake⟩ := (hrest w).2 hothers
        exact ⟨inputs, v, w, hv, hw, htake⟩

/-- **When a component finds its inputs**: for each there is a value of the type. -/
theorem exists_takeInputs_iff_supplied {label : String} {i : Interface} {provided : Values} :
    (∃ inputs, takeInputs label i.inputs provided .empty = .ok inputs) ↔ i.Supplied provided :=
  @exists_takeInputs_iff label i.inputs [] provided provided .empty fun _ => rfl

/-! ## The run of a component -/

variable {bodies bodies' : Bodies} {plots : Bool} {c : ComponentNode} {provided : Values}

/-- **A component whose inputs are not there fails, and its body is not called.** -/
theorem evaluate_of_not_supplied (hskipped : ¬ (!plots && c.interface.isPurePlot) = true)
    (h : ¬ c.interface.Supplied provided) : ∃ f, c.evaluate bodies plots provided = .fail f := by
  rw [evaluate, if_neg hskipped]
  cases htake : takeInputs c.label c.interface.inputs provided .empty with
  | ok inputs => exact absurd (exists_takeInputs_iff_supplied.1 ⟨inputs, htake⟩) h
  | error f => exact ⟨f, Traced.ofExcept_error_bind _ _⟩

/-- **A component whose inputs are there calls its body once**, on inputs that fit and before
anything else. -/
theorem evaluate_of_supplied (hskipped : ¬ (!plots && c.interface.isPurePlot) = true)
    (h : c.interface.Supplied provided) {body : Body}
    (hbody : bodies.get? c.codeModule c.function = some body) :
    ∃ inputs rest, c.interface.Fits inputs ∧ bodyCalls rest = [] ∧
      (c.evaluate bodies plots provided).entries =
        .bodyCalled c.codeModule c.function inputs :: rest := by
  obtain ⟨inputs, htake⟩ := exists_takeInputs_iff_supplied.2 h
  obtain ⟨rest, hrest, hentries⟩ := exists_entries_evaluate hskipped htake hbody
  exact ⟨inputs, rest, fits_of_takeInputs htake, hrest, hentries⟩

/-- **A component calls its body on inputs that fit.** -/
theorem leaves_evaluate {P : Entry → Prop} (hevent : ∀ e, P (.event e))
    (hcall : ∀ inputs, c.interface.Fits inputs →
      P (.bodyCalled c.codeModule c.function inputs)) :
    (c.evaluate bodies plots provided).Leaves P := by
  unfold evaluate
  split
  · exact (Traced.leaves_log (hevent _)).bind fun _ _ => Traced.leaves_pure _
  · refine (Traced.leaves_ofExcept _).bind fun inputs hinputs => ?_
    cases bodies.get? c.codeModule c.function with
    | none => exact Traced.leaves_fail _
    | some body =>
        refine (Traced.leaves_leave (hcall inputs (fits_of_takeInputs hinputs))).bind fun _ _ => ?_
        refine (Traced.leaves_ofExcept _).bind fun produced _ => ?_
        refine (Traced.leaves_ofExcept _).bind fun outputs _ => ?_
        exact (Traced.leaves_log (hevent _)).bind fun _ _ => Traced.leaves_pure _

end ComponentNode

/-- Two registries have bodies for the same functions, and these agree on inputs that fit the
interface that they are called with. -/
def Bodies.AgreeOnFitting (bodies bodies' : Bodies) : Prop :=
  ∀ codeModule function, Option.Rel
    (fun body body' => ∀ (i : Interface) inputs, i.Fits inputs → body i inputs = body' i inputs)
    (bodies.get? codeModule function) (bodies'.get? codeModule function)

/-- **What bodies do on inputs that do not fit makes no difference to a component.** -/
theorem ComponentNode.evaluate_agreeing {bodies bodies' : Bodies}
    (h : bodies.AgreeOnFitting bodies') (plots : Bool) (c : ComponentNode) :
    c.evaluate bodies' plots = c.evaluate bodies plots := by
  funext provided
  unfold evaluate
  refine if_congr Iff.rfl rfl (Traced.bind_congr_of_ok fun inputs hinputs => ?_)
  have hfits : c.interface.Fits inputs := fits_of_takeInputs hinputs
  have hbodies := h c.codeModule c.function
  cases hbody : bodies.get? c.codeModule c.function with
  | none =>
      rw [hbody] at hbodies
      cases hbody' : bodies'.get? c.codeModule c.function with
      | none => rfl
      | some body' =>
          rw [hbody'] at hbodies
          cases hbodies
  | some body =>
      rw [hbody] at hbodies
      cases hbody' : bodies'.get? c.codeModule c.function with
      | none =>
          rw [hbody'] at hbodies
          cases hbodies
      | some body' =>
          rw [hbody'] at hbodies
          cases hbodies with
          | some hsame => simp only [hsame c.interface inputs hfits]

end Dataflow
