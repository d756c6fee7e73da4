import Dataflow.Proofs.Dict
import Dataflow.Proofs.Graph.Schedule

set_option autoImplicit false

/-! # Where values come from

Three loops move values through a workflow. `carry` and `exposeOutputs` are one loop with
different keys (`layOver`): for each element of a list it fetches the value at a connector and
lays it over what is there. It succeeds exactly if every value is there, and under each key the
last element counts (`layOver_eq_ok_iff`).

`routeInputs` brings the provided values to operators. A provided value is used up by the first
mapping of its name; `mappedValue` is what is left for a mapping, and `arriving` says which of
the mappings to a connector counts.
-/

namespace Dataflow

/-! ## Values by operator and connector -/

namespace OperatorValues

theorem at?_put (d : OperatorValues) (e e' : Endpoint) (v : Json) :
    (d.put e v).at? e' = if e' = e then some v else d.at? e' := by
  obtain ⟨a, k⟩ := e
  obtain ⟨a', k'⟩ := e'
  simp only [put, at?, Dict.get?_insert, Endpoint.mk.injEq]
  -- a connector of another operator is not touched, nor is another one of the same operator
  by_cases ha : a' = a
  · subst ha
    by_cases hk : k' = k
    · rw [if_pos rfl, if_pos ⟨rfl, hk⟩, Option.bind_some, Dict.get?_insert, if_pos hk]
    · rw [if_pos rfl, if_neg fun h => hk h.2, Option.bind_some, Dict.get?_insert, if_neg hk]
      cases d.get? a' <;> rfl
  · rw [if_neg ha, if_neg fun h => ha h.1]

end OperatorValues

/-! ## Laying values over values -/

section LayOver

variable {ι : Type} (produced : OperatorValues) (source : ι → Endpoint) (key : ι → String)
  (missing : ι → NodeFailure)

/-- For each element of a list, puts the value at its source under its key. -/
def layOver : List ι → Values → Except NodeFailure Values
  | [], base => .ok base
  | i :: rest, base =>
      match produced.at? (source i) with
      | none => .error (missing i)
      | some v => layOver rest (base.insert (key i) v)

/-- The last element of a list with a key. -/
def lastWith (l : List ι) (k : String) : Option ι := (l.filter fun i => key i = k).getLast?

theorem lastWith_cons (i : ι) (l : List ι) (k : String) :
    lastWith key (i :: l) k = (lastWith key l k).or (if key i = k then some i else none) := by
  unfold lastWith
  by_cases hk : key i = k
  · rw [List.filter_cons_of_pos (by simpa using hk), List.getLast?_cons, if_pos hk]
    cases (l.filter fun i => key i = k).getLast? <;> rfl
  · rw [List.filter_cons_of_neg (by simpa using hk), if_neg hk, Option.or_none]

theorem lastWith_map {α : Type} (f : α → ι) (l : List α) (k : String) :
    lastWith key (l.map f) k = (lastWith (fun a => key (f a)) l k).map f := by
  unfold lastWith
  rw [List.filter_map, List.getLast?_map]
  rfl

theorem exists_lastWith {l : List ι} {i : ι} (hi : i ∈ l) :
    ∃ j, lastWith key l (key i) = some j := by
  cases h : lastWith key l (key i) with
  | some j => exact ⟨j, rfl⟩
  | none =>
      have hempty := List.getLast?_eq_none_iff.1 h
      have hmem : i ∈ l.filter fun j => key j = key i := by
        rw [List.mem_filter, decide_eq_true_eq]
        exact ⟨hi, rfl⟩
      rw [hempty] at hmem
      cases hmem

theorem mem_of_lastWith {l : List ι} {k : String} {i : ι} (h : lastWith key l k = some i) :
    i ∈ l ∧ key i = k := by
  have hmem := List.mem_of_getLast? h
  rw [List.mem_filter, decide_eq_true_eq] at hmem
  exact hmem

/-- **What laying over yields**: every value has to be there, and under each key the last
element counts. -/
theorem layOver_eq_ok_iff {l : List ι} {base r : Values} :
    layOver produced source key missing l base = .ok r ↔
      (∀ i ∈ l, ∃ v, produced.at? (source i) = some v) ∧
        ∀ k, r.get? k =
          ((lastWith key l k).map fun i => produced.at? (source i)).getD (base.get? k) := by
  induction l generalizing base with
  | nil =>
      simp only [layOver, Except.ok.injEq, List.not_mem_nil, false_imp_iff, implies_true, true_and]
      constructor
      · rintro rfl k
        rfl
      · intro h
        exact Dict.ext_get? fun k => (h k).symm
  | cons i rest ih =>
      rw [layOver, List.forall_mem_cons]
      cases hv : produced.at? (source i) with
      | none => simp
      | some v =>
          simp only [Option.some.injEq, exists_eq', true_and]
          rw [ih]
          refine and_congr_right fun _ => forall_congr' fun k => ?_
          -- the rest of the list goes before `i`, and `i` before what was there
          rw [lastWith_cons, Dict.get?_insert]
          cases lastWith key rest k with
          | some j => rfl
          | none =>
              by_cases hk : key i = k
              · rw [if_pos hk.symm, if_pos hk, Option.none_or, Option.map_some, Option.getD_some,
                  hv]
                rfl
              · rw [if_neg (Ne.symm hk), if_neg hk]
                rfl

theorem layOver_eq_error {l : List ι} {base : Values} {f : NodeFailure}
    (h : layOver produced source key missing l base = .error f) :
    ∃ i ∈ l, f = missing i ∧ produced.at? (source i) = none := by
  induction l generalizing base with
  | nil => cases h
  | cons i rest ih =>
      rw [layOver] at h
      cases hv : produced.at? (source i) with
      | none =>
          rw [hv] at h
          cases h
          exact ⟨i, List.mem_cons_self, rfl, hv⟩
      | some v =>
          rw [hv] at h
          obtain ⟨j, hj, hf, hnone⟩ := ih h
          exact ⟨j, List.mem_cons_of_mem _ hj, hf, hnone⟩

end LayOver

namespace WorkflowFrame

/-- The failure of a connection whose source has produced nothing. -/
def missingAlong (c : Connection) : NodeFailure :=
  .missingOutput ("operator " ++ toString c.source.operator) c.source.connector

theorem carry_eq_layOver (produced : OperatorValues) (l : List Connection) (inputs : Values) :
    carry produced l inputs =
      layOver produced (·.source) (·.target.connector) missingAlong l inputs := by
  induction l generalizing inputs with
  | nil => rfl
  | cons c rest ih =>
      rw [carry, layOver]
      cases produced.at? c.source with
      | none => rfl
      | some v => exact ih _

theorem exposeOutputs_eq_layOver (w : WorkflowFrame) (produced : OperatorValues)
    (l : List Mapping) (outputs : Values) :
    w.exposeOutputs produced l outputs =
      layOver produced (·.endpoint) (·.name) (fun m => .missingOutput w.label m.name) l
        outputs := by
  induction l generalizing outputs with
  | nil => rfl
  | cons m rest ih =>
      rw [exposeOutputs, layOver]
      cases produced.at? m.endpoint with
      | none => rfl
      | some v => exact ih _

/-- The last connection that ends at a connector. -/
def ending (w : WorkflowFrame) (e : Endpoint) : Option Connection :=
  (w.connections.filter fun c => c.target = e).getLast?

theorem mem_of_ending {w : WorkflowFrame} {e : Endpoint} {k : Connection}
    (h : w.ending e = some k) : k ∈ w.connections ∧ k.target = e := by
  have hmem := List.mem_of_getLast? h
  rw [List.mem_filter, decide_eq_true_eq] at hmem
  exact hmem

/-- The connections that end at an operator. -/
def incoming (w : WorkflowFrame) (a : OperatorId) : List Connection :=
  w.connections.filter (·.target.operator == a)

theorem lastWith_incoming (w : WorkflowFrame) (e : Endpoint) :
    lastWith (·.target.connector) (w.incoming e.operator) e.connector = w.ending e := by
  rw [lastWith, incoming, ending, List.filter_filter]
  congr 1
  refine List.filter_congr fun c _ => ?_
  obtain ⟨a, k⟩ := e
  obtain ⟨s, ⟨a', k'⟩⟩ := c
  simp only [Endpoint.mk.injEq]
  by_cases ha : a' = a <;> by_cases hk : k' = k <;> simp [ha, hk]

/-! ## Inputs of the workflow -/

/-- What a mapping hands on, behind the mappings `earlier`: the provided value unless one of
them has used it up, and else the default of the input. -/
def mappedValue (w : WorkflowFrame) (provided : Values) (earlier : List Mapping) (m : Mapping) :
    Option Json :=
  (if m.name ∈ earlier.map (·.name) then none else provided.get? m.name).or
    ((w.interface.input? m.name).bind Input.default?)

/-- What mappings bring to a connector, the latest one first: of those to it that hand anything
on, the latest counts. -/
def arriving (w : WorkflowFrame) (provided : Values) (e : Endpoint) : List Mapping → Option Json
  | [] => none
  | m :: earlier =>
      if m.endpoint = e then (w.mappedValue provided earlier m).or (w.arriving provided e earlier)
      else w.arriving provided e earlier

/-- The step of `routeInputs`: `left` are the provided values without those that the mappings
`earlier` have used up. -/
theorem routeInputs_step {w : WorkflowFrame} {ids : List OperatorId} {provided : Values}
    {l earlier : List Mapping} {left : Values} {pending pending' : OperatorValues}
    (hleft : ∀ name, left.get? name =
      if name ∈ earlier.map (·.name) then none else provided.get? name)
    (hpending : ∀ e, pending.at? e = w.arriving provided e earlier)
    (h : w.routeInputs ids l left pending = .ok pending') (e : Endpoint) :
    pending'.at? e = w.arriving provided e (l.reverse ++ earlier) := by
  induction l generalizing earlier left pending with
  | nil =>
      rw [routeInputs, Except.ok.injEq] at h
      rw [← h]
      exact hpending e
  | cons m rest ih =>
      rw [routeInputs] at h
      cases hpos : w.position ids m.endpoint.operator with
      | error f =>
          rw [hpos] at h
          cases h
      | ok p =>
          rw [hpos] at h
          rw [List.reverse_cons, List.append_assoc, List.singleton_append]
          refine ih (fun name => ?_) (fun e' => ?_) h
          · rw [Dict.get?_erase, hleft]
            simp only [List.map_cons, List.mem_cons]
            by_cases hname : name = m.name
            · rw [if_pos hname, if_pos (.inl hname)]
            · rw [if_neg hname]
              simp only [hname, false_or]
          · -- what is left under the name of `m` is what `mappedValue` looks up
            rw [arriving, mappedValue, ← hleft]
            cases (left.get? m.name).or ((w.interface.input? m.name).bind Input.default?) with
            | none =>
                rw [Option.none_or, ite_self]
                exact hpending e'
            | some v =>
                simp only [OperatorValues.at?_put, Option.some_or, hpending, eq_comm]

/-- **What reaches a connector from the inputs of a workflow.** -/
theorem at?_of_routeInputs {w : WorkflowFrame} {ids : List OperatorId} {provided : Values}
    {pending : OperatorValues} (h : w.routeInputs ids w.inputs provided .empty = .ok pending)
    (e : Endpoint) : pending.at? e = w.arriving provided e w.inputs.reverse := by
  have hstep : pending.at? e = w.arriving provided e (w.inputs.reverse ++ []) :=
    routeInputs_step (fun _ => rfl) (fun _ => rfl) h e
  rwa [List.append_nil] at hstep

/-- Inputs are routed if every mapping ends at a known operator, and fail otherwise. -/
theorem routeInputs_cases {w : WorkflowFrame} {ids : List OperatorId} (hids : ids.Nodup)
    (l : List Mapping) (left : Values) (pending : OperatorValues) :
    ((∀ m ∈ l, m.endpoint.operator ∈ ids) ∧
        ∃ pending', w.routeInputs ids l left pending = .ok pending') ∨
      (∃ m ∈ l, m.endpoint.operator ∉ ids) ∧
        ∃ f, w.routeInputs ids l left pending = .error f ∧ w.IsUnknown ids f := by
  induction l generalizing left pending with
  | nil => exact .inl ⟨fun m hm => absurd hm List.not_mem_nil, pending, rfl⟩
  | cons m rest ih =>
      rw [routeInputs, List.forall_mem_cons, List.exists_mem_cons_iff]
      by_cases hm : m.endpoint.operator ∈ ids
      · simp only [position_of_mem hids hm, hm, not_true_eq_false, true_and, false_or]
        exact ih _ _
      · rw [position_of_notMem hm]
        exact .inr ⟨.inl hm, _, rfl, _, hm, rfl⟩

end WorkflowFrame

end Dataflow
