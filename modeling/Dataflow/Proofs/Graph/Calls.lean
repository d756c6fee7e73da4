import Dataflow.Proofs.Graph.Routing
import Dataflow.Proofs.Journal.Traced

set_option autoImplicit false

/-! # The calls of a run

A `Call` is the evaluation of one child on inputs. `WorkflowFrame.calls` lists those that a run
makes, in order, and this file proves what they are:

* the entries of the run are those of its calls, one call after another, and a run with other
  children that answer the same to these calls is the same run (`runChildren_congr`): the run
  asks its children nothing else;
* each call is given what the calls before it have produced (`FedBy`);
* the run of the children ends behind the last child, with a call that fails, or with an output
  that a child has not produced (`Ending`).

Everything is proved by induction on the children that are left; `runChildren_step` says once
what can happen to the first of them.
-/

namespace Dataflow

/-- The evaluation of a child on inputs. -/
structure Call where
  child : Child
  inputs : Values

namespace Call

/-- What comes of a call. -/
def outcome (c : Call) : Traced NodeFailure Values := c.child.evaluate c.inputs

/-- The outputs of a call, if it succeeds. -/
def outputs? (c : Call) : Option Values := c.outcome.result.toOption

/-- The call yields outputs. -/
def Succeeds (c : Call) : Prop := ∃ outputs, c.outcome.result = .ok outputs

end Call

/-- What an operator has produced in a list of calls. -/
def outputsOf (calls : List Call) (a : OperatorId) : Option Values :=
  (calls.find? (·.child.id == a)).bind Call.outputs?

/-- The value that an operator has produced at a connector in a list of calls. -/
def outputAt (calls : List Call) (e : Endpoint) : Option Json :=
  (outputsOf calls e.operator).bind (·.get? e.connector)

theorem outputs?_eq_some {c : Call} {outputs : Values} :
    c.outputs? = some outputs ↔ c.outcome.result = .ok outputs := by
  rw [Call.outputs?]
  cases c.outcome.result <;> simp [Except.toOption]

theorem find?_of_notMem {calls : List Call} {a : OperatorId}
    (ha : a ∉ calls.map (·.child.id)) : calls.find? (·.child.id == a) = none := by
  rw [List.find?_eq_none]
  intro c hc hid
  exact ha (List.mem_map.2 ⟨c, hc, beq_iff_eq.1 hid⟩)

theorem outputsOf_of_notMem {calls : List Call} {a : OperatorId}
    (ha : a ∉ calls.map (·.child.id)) : outputsOf calls a = none := by
  rw [outputsOf, find?_of_notMem ha, Option.bind_none]

theorem outputsOf_of_mem {calls : List Call} (hids : (calls.map (·.child.id)).Nodup) {c : Call}
    (hc : c ∈ calls) : outputsOf calls c.child.id = c.outputs? := by
  induction calls with
  | nil => cases hc
  | cons first rest ih =>
      rw [List.map_cons, List.nodup_cons] at hids
      rw [outputsOf, List.find?_cons]
      rcases List.mem_cons.1 hc with rfl | hmem
      · rw [beq_self_eq_true]
        rfl
      · have hne : (first.child.id == c.child.id) = false := by
          rw [beq_eq_false_iff_ne]
          intro heq
          exact hids.1 (heq ▸ List.mem_map_of_mem hmem)
        rw [hne]
        exact ih hids.2 hmem

/-- What has been produced stays. -/
theorem outputAt_append {before after : List Call} {e : Endpoint} {v : Json}
    (h : outputAt before e = some v) : outputAt (before ++ after) e = some v := by
  obtain ⟨outputs, houtputs, hv⟩ := Option.bind_eq_some_iff.1 h
  obtain ⟨c, hfind, hc⟩ := Option.bind_eq_some_iff.1 houtputs
  rw [outputAt, outputsOf, List.find?_append, hfind, Option.some_or, Option.bind_some, hc,
    Option.bind_some, hv]

/-- A value stems from a call that has succeeded with it. -/
theorem exists_of_outputAt {calls : List Call} {e : Endpoint} {v : Json}
    (h : outputAt calls e = some v) :
    ∃ c ∈ calls, c.child.id = e.operator ∧
      ∃ outputs, c.outcome.result = .ok outputs ∧ outputs.get? e.connector = some v := by
  obtain ⟨outputs, houtputs, hv⟩ := Option.bind_eq_some_iff.1 h
  obtain ⟨c, hfind, hc⟩ := Option.bind_eq_some_iff.1 houtputs
  have hid := List.find?_some hfind
  exact ⟨c, List.mem_of_find?_eq_some hfind, beq_iff_eq.1 hid, outputs, outputs?_eq_some.1 hc, hv⟩

namespace WorkflowFrame

/-- The calls that `runChildren` makes. -/
def childCalls (w : WorkflowFrame) :
    List Child → OperatorValues → OperatorValues → List Call
  | [], _, _ => []
  | child :: rest, pending, produced =>
      match carry produced (w.incoming child.id) ((pending.get? child.id).getD .empty) with
      | .error _ => []
      | .ok inputs =>
          ⟨child, inputs⟩ ::
            match (child.evaluate inputs).result with
            | .error _ => []
            | .ok outputs =>
                w.childCalls rest (pending.erase child.id) (produced.insert child.id outputs)

/-- The calls of children that a run of the workflow makes, in order. -/
def calls (w : WorkflowFrame) (children : List Child) (provided : Values) : List Call :=
  let ids := children.map (·.id)
  match w.order ids, w.routeInputs ids w.inputs provided .empty with
  | .ok order, .ok pending => w.childCalls (inOrder children order) pending .empty
  | _, _ => []

/-! ## One child -/

/-- **What can happen to the first child**: a value it needs is missing and it is not called; it
is called and fails, which ends the run; or it is called and the run goes on with what it has
produced. -/
theorem runChildren_step (w : WorkflowFrame) (child : Child) (rest : List Child)
    (pending produced : OperatorValues) :
    (∃ k ∈ w.incoming child.id, produced.at? k.source = none ∧
        w.runChildren (child :: rest) pending produced = .fail (missingAlong k) ∧
        w.childCalls (child :: rest) pending produced = []) ∨
      ∃ inputs, carry produced (w.incoming child.id) ((pending.get? child.id).getD .empty) =
          .ok inputs ∧
        ((∃ f, (child.evaluate inputs).result = .error f ∧
            w.runChildren (child :: rest) pending produced =
              ⟨(child.evaluate inputs).entries, .error f⟩ ∧
            w.childCalls (child :: rest) pending produced = [⟨child, inputs⟩]) ∨
          ∃ outputs, (child.evaluate inputs).result = .ok outputs ∧
            w.runChildren (child :: rest) pending produced =
              ⟨(child.evaluate inputs).entries ++
                (w.runChildren rest (pending.erase child.id)
                  (produced.insert child.id outputs)).entries,
                (w.runChildren rest (pending.erase child.id)
                  (produced.insert child.id outputs)).result⟩ ∧
            w.childCalls (child :: rest) pending produced =
              ⟨child, inputs⟩ ::
                w.childCalls rest (pending.erase child.id) (produced.insert child.id outputs)) := by
  cases hcarry : carry produced (w.incoming child.id) ((pending.get? child.id).getD .empty) with
  | error f =>
      have hlay := hcarry
      rw [carry_eq_layOver] at hlay
      obtain ⟨k, hk, rfl, hnone⟩ := layOver_eq_error _ _ _ _ hlay
      refine .inl ⟨k, hk, hnone, ?_, ?_⟩
      · rw [runChildren]
        show Traced.ofExcept (carry produced (w.incoming child.id) _) >>= _ = _
        rw [hcarry, Traced.ofExcept_error_bind]
      · rw [childCalls, hcarry]
  | ok inputs =>
      have hrun : w.runChildren (child :: rest) pending produced =
          child.evaluate inputs >>= fun outputs =>
            w.runChildren rest (pending.erase child.id) (produced.insert child.id outputs) := by
        rw [runChildren]
        show Traced.ofExcept (carry produced (w.incoming child.id) _) >>= _ = _
        rw [hcarry, Traced.ofExcept_ok_bind]
      refine .inr ⟨inputs, rfl, ?_⟩
      cases hresult : (child.evaluate inputs).result with
      | error f =>
          refine .inl ⟨f, rfl, ?_, ?_⟩
          · rw [hrun, Traced.bind_of_error hresult]
          · rw [childCalls, hcarry]
            simp only [hresult]
      | ok outputs =>
          refine .inr ⟨outputs, rfl, ?_, ?_⟩
          · rw [hrun, Traced.bind_of_ok hresult]
          · rw [childCalls, hcarry]
            simp only [hresult]

/-! ## What a run leaves, and whom it asks -/

/-- The calls of a run are made one after another. -/
theorem entries_runChildren (w : WorkflowFrame) (l : List Child)
    (pending produced : OperatorValues) :
    (w.runChildren l pending produced).entries =
      (w.childCalls l pending produced).flatMap (·.outcome.entries) := by
  induction l generalizing pending produced with
  | nil => rfl
  | cons child rest ih =>
      rcases w.runChildren_step child rest pending produced with
        ⟨k, -, -, hrun, hcalls⟩ | ⟨inputs, -, ⟨f, -, hrun, hcalls⟩ | ⟨outputs, -, hrun, hcalls⟩⟩
      · rw [hrun, hcalls]
        rfl
      · rw [hrun, hcalls, List.flatMap_singleton]
        rfl
      · rw [hrun, hcalls, List.flatMap_cons, ← ih]
        rfl

/-- Children of the same identities that answer the same to the calls of a run. -/
theorem runChildren_congr {w : WorkflowFrame} {l l' : List Child}
    {pending produced : OperatorValues} (hids : l.map (·.id) = l'.map (·.id))
    (h : ∀ c ∈ w.childCalls l pending produced, ∀ child ∈ l', child.id = c.child.id →
      child.evaluate c.inputs = c.outcome) :
    w.runChildren l' pending produced = w.runChildren l pending produced := by
  induction l generalizing l' pending produced with
  | nil =>
      rw [List.map_nil, eq_comm, List.map_eq_nil_iff] at hids
      rw [hids]
  | cons child rest ih =>
      cases l' with
      | nil => cases hids
      | cons child' rest' =>
          rw [List.map_cons, List.map_cons, List.cons.injEq] at hids
          obtain ⟨hid, hrest⟩ := hids
          rw [runChildren, runChildren, ← hid]
          cases hcarry : carry produced (w.incoming child.id)
              ((pending.get? child.id).getD .empty) with
          | error f =>
              show Traced.ofExcept (carry produced (w.incoming child.id) _) >>= _ =
                Traced.ofExcept (carry produced (w.incoming child.id) _) >>= _
              rw [hcarry, Traced.ofExcept_error_bind, Traced.ofExcept_error_bind]
          | ok inputs =>
              show Traced.ofExcept (carry produced (w.incoming child.id) _) >>= _ =
                Traced.ofExcept (carry produced (w.incoming child.id) _) >>= _
              rw [childCalls, hcarry] at h
              -- the first child of both lists is called with the same inputs, and answers the same
              obtain ⟨hhead, htail⟩ := List.forall_mem_cons.1 h
              have hsame : child'.evaluate inputs = child.evaluate inputs :=
                hhead child' List.mem_cons_self hid.symm
              rw [hcarry, Traced.ofExcept_ok_bind, Traced.ofExcept_ok_bind, hsame]
              cases hresult : (child.evaluate inputs).result with
              | error f => rw [Traced.bind_of_error hresult, Traced.bind_of_error hresult]
              | ok outputs =>
                  simp only [hresult] at htail
                  rw [Traced.bind_of_ok hresult, Traced.bind_of_ok hresult,
                    ih hrest fun c hc k hk => htail c hc k (List.mem_cons_of_mem _ hk)]

/-! ## What a call is given -/

/-- The values that operators have produced are those of a list of calls. -/
def Records (done : List Call) (produced : OperatorValues) : Prop :=
  ∀ a, produced.get? a = outputsOf done a

theorem Records.at? {done : List Call} {produced : OperatorValues} (h : Records done produced)
    (e : Endpoint) : produced.at? e = outputAt done e := by
  rw [OperatorValues.at?, h, outputAt]

theorem Records.snoc {done : List Call} {produced : OperatorValues} (h : Records done produced)
    {c : Call} {outputs : Values} (hfresh : c.child.id ∉ done.map (·.child.id))
    (hresult : c.outcome.result = .ok outputs) :
    Records (done ++ [c]) (produced.insert c.child.id outputs) := by
  intro a
  rw [Dict.get?_insert, outputsOf, List.find?_append]
  by_cases ha : a = c.child.id
  · subst ha
    rw [if_pos rfl, find?_of_notMem hfresh, Option.none_or, List.find?_singleton,
      if_pos (beq_self_eq_true _), Option.bind_some, outputs?_eq_some.2 hresult]
  · have hother : ¬ (c.child.id == a) = true := fun hsame => ha (beq_iff_eq.1 hsame).symm
    rw [if_neg ha, h, outputsOf, List.find?_singleton, if_neg hother, Option.or_none]

/-- A call is given what the calls `before` it have produced: each connection that ends at its
child brings a value, at every connector the last connection counts, and a connector at which
none ends has what it had at the start. -/
structure FedBy (w : WorkflowFrame) (start : OperatorValues)
    (before : List Call) (c : Call) : Prop where
  sources : ∀ k ∈ w.connections, k.target.operator = c.child.id →
    ∃ v, outputAt before k.source = some v
  inputs : ∀ connector, c.inputs.get? connector =
    ((w.ending ⟨c.child.id, connector⟩).map fun k => outputAt before k.source).getD
      (start.at? ⟨c.child.id, connector⟩)

/-- The run of the children on the way: after the calls `done`, the children `l` are left, each
behind those that feed it, and they have all that was pending for them at the start. -/
structure Underway (w : WorkflowFrame) (start : OperatorValues) (done : List Call)
    (l : List Child) (pending produced : OperatorValues) : Prop where
  distinct : (done.map (·.child.id) ++ l.map (·.id)).Nodup
  fed : w.FedInOrder (done.map (·.child) ++ l)
  records : Records done produced
  waiting : ∀ child ∈ l, pending.get? child.id = start.get? child.id

section Underway

variable {w : WorkflowFrame} {start pending produced : OperatorValues} {done : List Call}
  {child : Child} {rest : List Child} {inputs : Values}

/-- The operators that feed the next child have been called. -/
theorem Underway.source_done (h : Underway w start done (child :: rest) pending produced)
    {k : Connection} (hk : k ∈ w.connections) (htarget : k.target.operator = child.id) :
    ∃ s ∈ done, s.child.id = k.source.operator := by
  obtain ⟨source, hsource, hid⟩ := h.fed _ child rest rfl k hk htarget
  obtain ⟨s, hs, rfl⟩ := List.mem_map.1 hsource
  exact ⟨s, hs, hid⟩

/-- The next call is given what the calls so far have produced. -/
theorem Underway.fedBy (h : Underway w start done (child :: rest) pending produced)
    (hcarry : carry produced (w.incoming child.id) ((pending.get? child.id).getD .empty) =
      .ok inputs) : w.FedBy start done ⟨child, inputs⟩ := by
  rw [carry_eq_layOver, layOver_eq_ok_iff] at hcarry
  obtain ⟨hvalues, hinputs⟩ := hcarry
  refine ⟨fun k hk htarget => ?_, fun connector => ?_⟩
  · rw [← h.records.at?]
    exact hvalues k (List.mem_filter.2 ⟨hk, beq_iff_eq.2 htarget⟩)
  · have hstart : ((pending.get? child.id).getD .empty).get? connector =
        start.at? ⟨child.id, connector⟩ := by
      rw [h.waiting child List.mem_cons_self, OperatorValues.at?]
      cases start.get? child.id <;> rfl
    rw [hinputs, hstart]
    simp only [← h.records.at?]
    rw [← lastWith_incoming]

/-- A call that succeeds leads on. -/
theorem Underway.next {outputs : Values}
    (h : Underway w start done (child :: rest) pending produced)
    (hresult : (child.evaluate inputs).result = .ok outputs) :
    Underway w start (done ++ [⟨child, inputs⟩]) rest (pending.erase child.id)
      (produced.insert child.id outputs) := by
  have hdistinct := h.distinct
  rw [List.map_cons] at hdistinct
  -- calls and children together stay the same list: the call moves from one part to the other
  refine ⟨?_, ?_, h.records.snoc (fun hmem => ?_) hresult, fun other hother => ?_⟩
  · rw [List.map_append, List.append_assoc]
    exact hdistinct
  · rw [List.map_append, List.append_assoc]
    exact h.fed
  · exact List.disjoint_of_nodup_append hdistinct hmem List.mem_cons_self
  · have hne : other.id ≠ child.id := by
      intro heq
      have hhead := (List.nodup_append.1 hdistinct).2.1
      exact (List.nodup_cons.1 hhead).1 (heq ▸ List.mem_map_of_mem hother)
    rw [Dict.get?_erase, if_neg hne]
    exact h.waiting other (List.mem_cons_of_mem _ hother)

/-- **Every call of a run is given what the calls before it have produced.** -/
theorem fedBy_of_mem_childCalls (w : WorkflowFrame) (l : List Child)
    (h : Underway w start done l pending produced) {before after : List Call} {c : Call}
    (hsplit : w.childCalls l pending produced = before ++ c :: after) :
    w.FedBy start (done ++ before) c := by
  induction l generalizing done pending produced before with
  | nil => simp [childCalls] at hsplit
  | cons child rest ih =>
      rcases w.runChildren_step child rest pending produced with
        ⟨k, -, -, -, hcalls⟩ |
          ⟨inputs, hcarry, ⟨f, -, -, hcalls⟩ | ⟨outputs, hresult, -, hcalls⟩⟩
      · rw [hcalls] at hsplit
        simp at hsplit
      · rw [hcalls] at hsplit
        cases before with
        | nil =>
            rw [List.nil_append, List.cons.injEq] at hsplit
            rw [List.append_nil, ← hsplit.1]
            exact h.fedBy hcarry
        | cons first before => simp at hsplit
      · rw [hcalls] at hsplit
        cases before with
        | nil =>
            rw [List.nil_append, List.cons.injEq] at hsplit
            rw [List.append_nil, ← hsplit.1]
            exact h.fedBy hcarry
        | cons first before =>
            rw [List.cons_append, List.cons.injEq] at hsplit
            rw [← hsplit.1, List.append_cons]
            exact ih (h.next hresult) hsplit.2

end Underway

/-! ## How a run ends -/

/-- How the run of the children `l` ends after its calls: behind the last child, with what the
calls `all` have produced; with a call that fails; or with a value that a connection needs and
that its source has been called for and has not produced. -/
inductive Ending (w : WorkflowFrame) (all : List Call) (l : List Child) (calls : List Call) :
    Except NodeFailure OperatorValues → Prop
  | finished {produced : OperatorValues} (hall : calls.map (·.child) = l)
      (hsucceed : ∀ c ∈ calls, c.Succeeds) (hrecords : Records all produced) :
      Ending w all l calls (.ok produced)
  | failed {before : List Call} {c : Call} {f : NodeFailure} (hcalls : calls = before ++ [c])
      (hsucceed : ∀ s ∈ before, s.Succeeds) (hresult : c.outcome.result = .error f) :
      Ending w all l calls (.error f)
  | missing {k : Connection} (hk : k ∈ w.connections)
      (hdone : ∃ s ∈ all, s.child.id = k.source.operator) (hmissing : outputAt all k.source = none)
      (hsucceed : ∀ c ∈ calls, c.Succeeds) : Ending w all l calls (.error (missingAlong k))

theorem Ending.cons {w : WorkflowFrame} {all calls : List Call} {l : List Child} {c : Call}
    {r : Except NodeFailure OperatorValues} (h : Ending w all l calls r) (hc : c.Succeeds) :
    Ending w all (c.child :: l) (c :: calls) r := by
  cases h with
  | finished hall hsucceed hrecords =>
      exact .finished (by rw [List.map_cons, hall]) (List.forall_mem_cons.2 ⟨hc, hsucceed⟩) hrecords
  | failed hcalls hsucceed hresult =>
      exact .failed (by rw [hcalls, List.cons_append]) (List.forall_mem_cons.2 ⟨hc, hsucceed⟩)
        hresult
  | missing hk hdone hmissing hsucceed =>
      exact .missing hk hdone hmissing (List.forall_mem_cons.2 ⟨hc, hsucceed⟩)

/-- The calls before another one have succeeded. -/
theorem Ending.succeeds_before {w : WorkflowFrame} {all calls : List Call} {l : List Child}
    {r : Except NodeFailure OperatorValues} (h : Ending w all l calls r)
    {before after : List Call} {c : Call} (hsplit : calls = before ++ c :: after) :
    ∀ s ∈ before, s.Succeeds := by
  intro s hs
  have hmem : s ∈ calls.dropLast := by
    rw [hsplit, List.dropLast_append_of_ne_nil (List.cons_ne_nil _ _)]
    exact List.mem_append_left _ hs
  cases h with
  | finished _ hsucceed _ => exact hsucceed s (List.mem_of_mem_dropLast hmem)
  | failed hcalls hsucceed _ =>
      rw [hcalls, List.dropLast_concat] at hmem
      exact hsucceed s hmem
  | missing _ _ _ hsucceed => exact hsucceed s (List.mem_of_mem_dropLast hmem)

theorem ending_runChildren (w : WorkflowFrame) (l : List Child) {start pending produced :
    OperatorValues} {done : List Call} (h : Underway w start done l pending produced) :
    Ending w (done ++ w.childCalls l pending produced) l (w.childCalls l pending produced)
      (w.runChildren l pending produced).result := by
  induction l generalizing done pending produced with
  | nil =>
      refine .finished rfl (fun c hc => absurd hc List.not_mem_nil) ?_
      rw [childCalls, List.append_nil]
      exact h.records
  | cons child rest ih =>
      rcases w.runChildren_step child rest pending produced with
        ⟨k, hk, hnone, hrun, hcalls⟩ |
          ⟨inputs, -, ⟨f, hresult, hrun, hcalls⟩ | ⟨outputs, hresult, hrun, hcalls⟩⟩
      · -- the source has been called, since it stands before the child
        obtain ⟨hk, htarget⟩ := List.mem_filter.1 hk
        rw [h.records.at?] at hnone
        rw [hrun, hcalls, List.append_nil]
        exact .missing hk (h.source_done hk (beq_iff_eq.1 htarget)) hnone
          fun c hc => absurd hc List.not_mem_nil
      · rw [hrun, hcalls]
        exact .failed (List.nil_append _).symm (fun c hc => absurd hc List.not_mem_nil) hresult
      · have hsucceeds : Call.Succeeds ⟨child, inputs⟩ := ⟨outputs, hresult⟩
        rw [hrun, hcalls, List.append_cons]
        exact (ih (h.next hresult)).cons hsucceeds

/-- A run calls its children in the order they stand in, each at most once. -/
theorem childCalls_prefix (w : WorkflowFrame) (l : List Child) (pending produced : OperatorValues) :
    (w.childCalls l pending produced).map (·.child) <+: l := by
  induction l generalizing pending produced with
  | nil => exact List.nil_prefix
  | cons child rest ih =>
      rcases w.runChildren_step child rest pending produced with
        ⟨k, -, -, -, hcalls⟩ | ⟨inputs, -, ⟨f, -, -, hcalls⟩ | ⟨outputs, -, -, hcalls⟩⟩
      · rw [hcalls]
        exact List.nil_prefix
      · rw [hcalls]
        exact List.cons_prefix_cons.2 ⟨rfl, List.nil_prefix⟩
      · rw [hcalls]
        exact List.cons_prefix_cons.2 ⟨rfl, ih _ _⟩

end WorkflowFrame

end Dataflow
