import Dataflow.Adapter.Dispatch
import Dataflow.Proofs.Dict
import Dataflow.Proofs.Journal.Run

set_option autoImplicit false

/-! # Fan-outs

A fan-out serves its units one after another, each from the journal that the ones before it
left, whatever becomes of them (`Work.course_after`, `Work.outcomes_append`). What it yields is
read off the outcomes: the values if every unit succeeded, else the failures of those that did
not (`Outcomes.settled`, `exists_resume_settle`).

Loading and sending are fan-outs over one unit for each entry of a wiring
(`Adapters.exists_resume_load`, `Adapters.exists_resume_send`).
-/

namespace Dataflow

variable {s : Supply} {j : Journal}

/-! ## Units -/

/-- A unit of a fan-out, by the name of the binding that it serves. -/
abbrev Work := String × Attempt BindingFailure Json

namespace Work

/-- What a unit does to a journal. -/
def perform (s : Supply) (u : Work) (j : Journal) : Journal := (u.2.resume s j).2

/-- How units end that are served from a journal on. -/
def outcomes (s : Supply) (j : Journal) (units : List Work) : Outcomes :=
  (Run.resume (serveEach units) s j).1

/-- The journal that served units leave. -/
def after (s : Supply) (j : Journal) (units : List Work) : Journal :=
  units.foldl (fun j u => u.perform s j) j

theorem outcomes_cons (u : Work) (rest : List Work) :
    outcomes s j (u :: rest) = (u.1, (u.2.resume s j).1) :: outcomes s (u.perform s j) rest := rfl

theorem resume_serveEach (units : List Work) :
    Run.resume (serveEach units) s j = (outcomes s j units, after s j units) := by
  induction units generalizing j with
  | nil => rfl
  | cons u rest ih =>
      have hrest : (Run.resume (serveEach rest) s (u.perform s j)).2 =
          after s (u.perform s j) rest := by rw [ih]
      exact Prod.ext rfl hrest

theorem course_after (units : List Work) :
    Journal.Course (perform s) units j (after s j units) := by
  induction units generalizing j with
  | nil => exact .here j
  | cons u rest ih => exact .acts u ih

theorem outcomes_append (l l' : List Work) :
    outcomes s j (l ++ l') = outcomes s j l ++ outcomes s (after s j l) l' := by
  induction l generalizing j with
  | nil => rfl
  | cons u rest ih =>
      rw [List.cons_append, outcomes_cons, ih, outcomes_cons, List.cons_append]
      rfl

theorem map_fst_outcomes (units : List Work) :
    (outcomes s j units).map (·.1) = units.map (·.1) := by
  induction units generalizing j with
  | nil => rfl
  | cons u rest ih => rw [outcomes_cons, List.map_cons, ih, List.map_cons]

/-- The outcome of a unit is the one it has after the units before it. -/
theorem mem_outcomes_iff {units : List Work} {o : String × Except BindingFailure Json} :
    o ∈ outcomes s j units ↔
      ∃ l u l', units = l ++ u :: l' ∧ o = (u.1, (u.2.resume s (after s j l)).1) := by
  constructor
  · induction units generalizing j with
    | nil => intro h; cases h
    | cons u rest ih =>
        intro h
        rw [outcomes_cons] at h
        rcases List.mem_cons.1 h with rfl | h
        · exact ⟨[], u, rest, rfl, rfl⟩
        · obtain ⟨l, u', l', rfl, ho⟩ := ih h
          exact ⟨u :: l, u', l', rfl, ho⟩
  · rintro ⟨l, u, l', rfl, rfl⟩
    rw [outcomes_append, outcomes_cons]
    exact List.mem_append_right _ List.mem_cons_self

end Work

/-! ## What a fan-out yields -/

namespace Outcomes

variable {l : Outcomes}

/-- What outcomes amount to: all values, or else the failures. -/
def settled (direction : Direction) (l : Outcomes) : Except AdapterError Values :=
  if l.failed.isEmpty then .ok l.values else .error (.gathered direction l.failures)

/-- What is found in the outcomes of bindings, by the names of the bindings. -/
def picked {α : Type} (pick : Except BindingFailure Json → Option α) (l : Outcomes) :
    List (String × α) :=
  l.filterMap fun o => (pick o.2).map fun found => (o.1, found)

/-- The failure in an outcome. -/
def failure? : Except BindingFailure Json → Option BindingFailure
  | .ok _ => none
  | .error f => some f

theorem values_eq : l.values = .ofList (l.picked Except.toOption) := by
  refine congrArg _ (List.filterMap_congr fun o _ => ?_)
  cases o.2 <;> rfl

theorem failed_eq : l.failed = l.picked failure? := by
  refine List.filterMap_congr fun o _ => ?_
  cases o.2 <;> rfl

section Picked

variable {α : Type} {pick : Except BindingFailure Json → Option α}

theorem mem_picked_iff {name : String} {found : α} :
    (name, found) ∈ l.picked pick ↔ ∃ r, (name, r) ∈ l ∧ pick r = some found := by
  unfold picked
  rw [List.mem_filterMap]
  constructor
  · rintro ⟨⟨name', r⟩, ho, h⟩
    obtain ⟨found', hfound, heq⟩ := Option.map_eq_some_iff.1 h
    obtain ⟨rfl, rfl⟩ := Prod.mk.inj heq
    exact ⟨r, ho, hfound⟩
  · rintro ⟨r, ho, hfound⟩
    exact ⟨(name, r), ho, by rw [hfound]; rfl⟩

theorem nodup_picked (h : (l.map (·.1)).Nodup) : ((l.picked pick).map (·.1)).Nodup := by
  refine h.sublist ?_
  induction l with
  | nil => exact .slnil
  | cons o rest ih =>
      obtain ⟨name, r⟩ := o
      rw [picked, List.filterMap_cons]
      cases pick r with
      | none => exact (ih h.of_cons).cons name
      | some found => exact (ih h.of_cons).cons_cons name

end Picked

theorem mem_failed_iff {name : String} {f : BindingFailure} :
    (name, f) ∈ l.failed ↔ (name, .error f) ∈ l := by
  rw [failed_eq, mem_picked_iff]
  constructor
  · rintro ⟨r, ho, hr⟩
    cases r with
    | ok v => cases hr
    | error f' =>
        obtain rfl := Option.some.inj hr
        exact ho
  · exact fun ho => ⟨_, ho, rfl⟩

/-- Nothing failed if every unit yields a value. -/
theorem failed_eq_nil_iff : l.failed = [] ↔ ∀ o ∈ l, ∃ v, o.2 = .ok v := by
  rw [List.eq_nil_iff_forall_not_mem]
  constructor
  · rintro h ⟨name, r⟩ ho
    cases r with
    | ok v => exact ⟨v, rfl⟩
    | error f => exact absurd (mem_failed_iff.2 ho) (h (name, f))
  · rintro h ⟨name, f⟩ hf
    obtain ⟨v, hv⟩ := h _ (mem_failed_iff.1 hf)
    cases hv

theorem settled_of_failed_eq_nil (direction : Direction) (h : l.failed = []) :
    l.settled direction = .ok l.values := by
  rw [settled, h]
  rfl

theorem settled_of_failed_ne_nil (direction : Direction) (h : l.failed ≠ []) :
    l.settled direction = .error (.gathered direction l.failures) := by
  rw [settled, List.isEmpty_eq_false_iff.2 h]
  rfl

@[simp] theorem failures_gathered (direction : Direction) (failures : Dict String BindingFailure) :
    (AdapterError.gathered direction failures).failures = failures := by
  cases direction <;> rfl

/-- A value comes of outcomes if nothing failed. -/
theorem exists_map_settled_iff {α : Type} {direction : Direction} {result : Values → α} :
    (∃ v, (l.settled direction).map result = .ok v) ↔ l.failed = [] := by
  by_cases h : l.failed = []
  · rw [settled_of_failed_eq_nil _ h]
    exact ⟨fun _ => h, fun _ => ⟨_, rfl⟩⟩
  · rw [settled_of_failed_ne_nil _ h]
    refine ⟨?_, fun hfailed => absurd hfailed h⟩
    rintro ⟨v, hv⟩
    cases hv

/-- An error that comes of outcomes gathers their failures. -/
theorem eq_gathered_of_map_settled {α : Type} {direction : Direction} {result : Values → α}
    {error : AdapterError} (h : (l.settled direction).map result = .error error) :
    error = .gathered direction l.failures := by
  by_cases hfailed : l.failed = []
  · rw [settled_of_failed_eq_nil _ hfailed] at h
    cases h
  · rw [settled_of_failed_ne_nil _ hfailed] at h
    exact (Except.error.inj h).symm

/-- The values that come of outcomes are all values. -/
theorem eq_values_of_settled {direction : Direction} {values : Values}
    (h : l.settled direction = .ok values) : values = l.values := by
  by_cases hfailed : l.failed = []
  · rw [settled_of_failed_eq_nil _ hfailed] at h
    exact (Except.ok.inj h).symm
  · rw [settled_of_failed_ne_nil _ hfailed] at h
    cases h

/-- Of units with distinct names, each that succeeded gives its value. -/
theorem get?_values_eq_some_iff (h : (l.map (·.1)).Nodup) {name : String} {v : Json} :
    l.values.get? name = some v ↔ (name, .ok v) ∈ l := by
  rw [values_eq, Dict.get?_ofList_eq_some_iff (nodup_picked h), mem_picked_iff]
  constructor
  · rintro ⟨r, ho, hr⟩
    cases r with
    | error f => cases hr
    | ok v' =>
        obtain rfl := Option.some.inj hr
        exact ho
  · exact fun ho => ⟨_, ho, rfl⟩

/-- Of units with distinct names, each that failed is among the failures. -/
theorem get?_failures_eq_some_iff (h : (l.map (·.1)).Nodup) {name : String}
    {f : BindingFailure} : l.failures.get? name = some f ↔ (name, .error f) ∈ l := by
  rw [failures, failed_eq, Dict.get?_ofList_eq_some_iff (nodup_picked h), ← failed_eq,
    mem_failed_iff]

end Outcomes

/-- **A fan-out serves every unit once, in order, and settles the outcomes.** -/
theorem exists_resume_settle (direction : Direction) (units : List Work) :
    ∃ j', (settle direction units).resume s j =
        ((Work.outcomes s j units).settled direction, j') ∧
      Journal.Course (Work.perform s) units j j' := by
  have hcourse := (Work.course_after (s := s) (j := j) units).then_events
    (fun f => .bindingFailed direction f.1 f.2.message) (Work.outcomes s j units).failed
  refine ⟨_, ?_, hcourse⟩
  unfold settle
  rw [Attempt.resume_ofRun_bind, Work.resume_serveEach, Attempt.resume_forM_log_bind]
  by_cases h : (Work.outcomes s j units).failed = []
  · rw [Outcomes.settled_of_failed_eq_nil _ h, h]
    rfl
  · rw [Outcomes.settled_of_failed_ne_nil _ h, List.isEmpty_eq_false_iff.2 h]
    rfl

/-- What follows a fan-out that succeeded, and makes its values into a result without an act. -/
theorem exists_resume_settle_bind {α : Type} {f : Values → Attempt AdapterError α}
    (result : Values → α) (direction : Direction) (units : List Work)
    (hf : ∀ values j, ∃ j', (f values).resume s j = (.ok (result values), j') ∧
      Journal.Course (Work.perform s) [] j j') :
    ∃ j', (settle direction units >>= f : Attempt AdapterError α).resume s j =
        (((Work.outcomes s j units).settled direction).map result, j') ∧
      Journal.Course (Work.perform s) units j j' := by
  obtain ⟨j', hresume, hcourse⟩ := exists_resume_settle (s := s) (j := j) direction units
  cases h : (Work.outcomes s j units).settled direction with
  | ok values =>
      rw [h] at hresume
      obtain ⟨j'', hrest, hquiet⟩ := hf values j'
      refine ⟨j'', ?_, by simpa using hcourse.append hquiet⟩
      rw [Attempt.resume_bind_of_ok hresume, hrest]
      rfl
  | error e =>
      rw [h] at hresume
      exact ⟨j', Attempt.resume_bind_of_error hresume _, hcourse⟩

/-! ## One entry -/

namespace Adapter

/-- What an adapter's answer to the loading of one binding amounts to. -/
def loaded (a : Adapter) (name : String) (d : Descriptor) :
    Except AdapterError Values → Except BindingFailure Json
  | .ok values =>
      match values.get? name with
      | some v => .ok v
      | none => .error ⟨"adapter '" ++ a.id ++ "' returned no value", some d⟩
  | .error e => .error (failureOf name d e)

/-- What an adapter's answer to the sending of one binding amounts to. -/
def sent (name : String) (d : Descriptor) :
    Except AdapterError Values → Except BindingFailure Json
  | .ok _ => .ok .null
  | .error e => .error (failureOf name d e)

variable {a : Adapter} {ctx : AdapterContext} {name : String} {d : Descriptor} {v : Json}

theorem toOption_loaded (r : Except AdapterError Values) :
    (a.loaded name d r).toOption = r.toOption.bind (·.get? name) := by
  cases r with
  | error e => rfl
  | ok values =>
      show Except.toOption (match values.get? name with
        | some v => .ok v
        | none => .error _) = values.get? name
      cases values.get? name <;> rfl

theorem toOption_sent (r : Except AdapterError Values) :
    (sent name d r).toOption = r.toOption.map fun _ => .null := by
  cases r <;> rfl

theorem resume_loadOne :
    (a.loadOne ctx name d).resume s j =
      let call := (a.load ctx (.singleton name d)).resume s
        (j.push (.loadCalled a.id (.singleton name d)))
      (a.loaded name d call.1, call.2) := by
  generalize hcall : (a.load ctx (.singleton name d)).resume s
    (j.push (.loadCalled a.id (.singleton name d))) = call
  obtain ⟨r, j'⟩ := call
  unfold loadOne
  rw [Attempt.resume_leave_bind]
  cases r with
  | error e =>
      refine Attempt.resume_bind_of_error ?_ _
      rw [Attempt.resume_mapError, hcall]
      rfl
  | ok values =>
      have hload : ((a.load ctx (.singleton name d)).mapError (failureOf name d)).resume s
          (j.push (.loadCalled a.id (.singleton name d))) = (.ok values, j') := by
        rw [Attempt.resume_mapError, hcall]
        rfl
      rw [Attempt.resume_bind_of_ok hload]
      cases h : values.get? name with
      | none => simp [loaded, h]
      | some v => simp [loaded, h]

theorem resume_sendOne :
    (a.sendOne ctx name d v).resume s j =
      let call := (a.send ctx (.singleton name d) (.singleton name v)).resume s
        (j.push (.sendCalled a.id (.singleton name d) (.singleton name v)))
      (sent name d call.1, call.2) := by
  generalize hcall : (a.send ctx (.singleton name d) (.singleton name v)).resume s
    (j.push (.sendCalled a.id (.singleton name d) (.singleton name v))) = call
  obtain ⟨r, j'⟩ := call
  unfold sendOne
  rw [Attempt.resume_leave_bind]
  cases r with
  | error e =>
      refine Attempt.resume_bind_of_error ?_ _
      rw [Attempt.resume_mapError, hcall]
      rfl
  | ok values =>
      have hsend : ((a.send ctx (.singleton name d) (.singleton name v)).mapError
          (failureOf name d)).resume s
          (j.push (.sendCalled a.id (.singleton name d) (.singleton name v))) =
          (.ok values, j') := by
        rw [Attempt.resume_mapError, hcall]
        rfl
      rw [Attempt.resume_bind_of_ok hsend]
      rfl

end Adapter

/-! ## Loading and sending -/

namespace Adapters

/-- The units of loading. -/
def loadUnits (a : Adapters) (ctx : AdapterContext) (entries : List WiringEntry) : List Work :=
  entries.map fun e => (e.name, a.serve ctx .load e none)

/-- The units of sending. -/
def sendUnits (a : Adapters) (ctx : AdapterContext) (values : Values)
    (entries : List WiringEntry) : List Work :=
  entries.map fun e => (e.name, a.serve ctx .send e (values.get? e.name))

theorem load_eq (a : Adapters) (ctx : AdapterContext) (entries : List WiringEntry) :
    a.load ctx entries = (do
      let values ← settle .load (a.loadUnits ctx entries)
      Attempt.log (.inputsLoaded values.size)
      return values) := rfl

theorem send_eq (a : Adapters) (ctx : AdapterContext) (entries : List WiringEntry)
    (values : Values) :
    a.send ctx entries values = (do
      let sent ← settle .send (a.sendUnits ctx values entries)
      Attempt.log (.outputsSent sent.size)) := rfl

theorem exists_resume_load (a : Adapters) (ctx : AdapterContext) (entries : List WiringEntry) :
    ∃ j', (a.load ctx entries).resume s j =
        ((Work.outcomes s j (a.loadUnits ctx entries)).settled .load, j') ∧
      Journal.Course (Work.perform s) (a.loadUnits ctx entries) j j' := by
  have h : ∃ j', (a.load ctx entries).resume s j =
        (((Work.outcomes s j (a.loadUnits ctx entries)).settled .load).map id, j') ∧
      Journal.Course (Work.perform s) (a.loadUnits ctx entries) j j' := by
    rw [load_eq]
    exact exists_resume_settle_bind id .load (a.loadUnits ctx entries)
      fun values _ => ⟨_, rfl, .event (.inputsLoaded values.size) (.here _)⟩
  rwa [Except.map_id] at h

theorem exists_resume_send (a : Adapters) (ctx : AdapterContext) (entries : List WiringEntry)
    (values : Values) :
    ∃ j', (a.send ctx entries values).resume s j =
        (((Work.outcomes s j (a.sendUnits ctx values entries)).settled .send).map fun _ => (),
          j') ∧
      Journal.Course (Work.perform s) (a.sendUnits ctx values entries) j j' := by
  rw [send_eq]
  exact exists_resume_settle_bind (fun _ => ()) .send (a.sendUnits ctx values entries)
    fun sent _ => ⟨_, rfl, .event (.outputsSent sent.size) (.here _)⟩

end Adapters

end Dataflow
