import Dataflow.Proofs.Execution.Phases

set_option autoImplicit false

/-! # What becomes of the outputs

A run that succeeds splits the outputs that were computed (`Executor.Split`). An output that is
wired to an adapter is handed to that adapter in one call, and is not returned; every other one
is returned, and handed to nobody. The argument has three parts: separating values by name
(`Values.get?_separate`), the names of a consistent wiring (`ExecutionInput.nodup_outputs`), and
the calls of a fan-out in which nothing failed (`Adapters.sendCall?_of_sent`).
-/

namespace Dataflow

/-! ## Separating values -/

theorem Values.separate_cons_of_some {name : String} {values : Values} {v : Json}
    (h : values.get? name = some v) (names : List String) :
    Values.separate (name :: names) values =
      ((Values.separate names (values.erase name)).1.insertNew name v,
        (Values.separate names (values.erase name)).2) := by
  rw [Values.separate, h]

/-- The named values are taken, and all others are left. -/
theorem Values.get?_separate (names : List String) (values : Values) (name : String) :
    (Values.separate names values).1.get? name =
        (if name ∈ names then values.get? name else none) ∧
      (Values.separate names values).2.get? name =
        (if name ∈ names then none else values.get? name) := by
  induction names generalizing values with
  | nil => simp [Values.separate]
  | cons first names ih =>
      cases h : values.get? first with
      | none =>
          rw [show Values.separate (first :: names) values = Values.separate names values by
            rw [Values.separate, h]]
          by_cases hname : name = first
          · subst hname
            simp [ih, h]
          · simp [ih, hname]
      | some v =>
          rw [Values.separate_cons_of_some h]
          by_cases hname : name = first
          · subst hname
            simp [ih, Dict.get?_insertNew, h]
          · simp [ih, Dict.get?_insertNew, hname]

/-! ## The names of a wiring -/

theorem Wiring.nodup_of_entriesDefect? {declared : String → Bool} {undeclared : String → Defect}
    {seen : List String} {entries : List WiringEntry}
    (h : Wiring.entriesDefect? declared undeclared seen entries = none) :
    (entries.map (·.name)).Nodup ∧ ∀ e ∈ entries, e.name ∉ seen := by
  induction entries generalizing seen with
  | nil => simp
  | cons e rest ih =>
      unfold Wiring.entriesDefect? at h
      split at h
      · cases h
      · split at h
        · cases h
        · rename_i hseen
          split at h
          · cases h
          · obtain ⟨hnodup, hrest⟩ := ih h
            refine ⟨?_, ?_⟩
            · rw [List.map_cons, List.nodup_cons]
              refine ⟨fun hmem => ?_, hnodup⟩
              obtain ⟨e', he', hname⟩ := List.mem_map.1 hmem
              exact hrest e' he' (hname ▸ List.mem_cons_self)
            · intro e' he'
              rcases List.mem_cons.1 he' with rfl | he'
              · exact hseen
              · exact fun hmem => hrest e' he' (List.mem_cons_of_mem _ hmem)

namespace ExecutionInput

variable {input : ExecutionInput}

theorem defect?_eq_none_of_check (h : input.check = .ok ()) : input.defect? = none := by
  unfold check at h
  cases hdefect : input.defect? with
  | none => rfl
  | some fault =>
      rw [hdefect] at h
      cases h

/-- A consistent input wires no output twice. -/
theorem nodup_outputs (h : input.check = .ok ()) :
    (input.wiring.outputs.map (·.name)).Nodup := by
  have hdefect := defect?_eq_none_of_check h
  rw [defect?, Option.or_eq_none_iff, Option.or_eq_none_iff, Option.or_eq_none_iff,
    Option.map_eq_none_iff, Wiring.defect?] at hdefect
  have hwiring := hdefect.2.2.2
  split at hwiring
  · cases hwiring
  · exact (Wiring.nodup_of_entriesDefect? hwiring).1

theorem mem_sentEntries {e : WiringEntry} :
    e ∈ input.sentEntries ↔ e ∈ input.wiring.outputs ∧ e.isDirect = false := by
  rw [sentEntries, List.mem_filter, Bool.not_eq_true']

theorem nodup_sentEntries (h : input.check = .ok ()) :
    (input.sentEntries.map (·.name)).Nodup :=
  (nodup_outputs h).sublist (List.filter_sublist.map _)

end ExecutionInput

/-! ## The calls that send -/

namespace Adapters

open Executor (Act)

variable {a : Adapters} {ctx : AdapterContext} {values : Values} {e : WiringEntry} {s : Supply}
  {j : Journal}

theorem resolve_of_not_direct (h : e.isDirect = false) (direction : Direction) :
    e.resolve direction = if e.reference?.isNone then .error (.missingReference e.name)
      else .ok (.adapter e.adapterId e.descriptor) := by
  unfold WiringEntry.resolve
  rw [h, if_neg Bool.false_ne_true]

/-- An entry that was sent is a call of its adapter with the value of its name. -/
theorem sendCall?_of_sent (hdirect : e.isDirect = false) {r : Json}
    (h : ((a.serve ctx .send e (values.get? e.name)).resume s j).1 = .ok r) :
    ∃ adapter v, a.get? e.adapterId = some adapter ∧ values.get? e.name = some v ∧
      a.sendCall? values e =
        some (.send adapter (.singleton e.name e.descriptor) (.singleton e.name v)) := by
  unfold serve at h
  unfold sendCall?
  rw [resolve_of_not_direct hdirect] at h ⊢
  cases hreference : e.reference?.isNone with
  | true =>
      rw [hreference] at h
      cases h
  | false =>
      rw [hreference] at h
      simp only [Bool.false_eq_true, if_false, hand] at h ⊢
      cases hadapter : a.get? e.adapterId with
      | none =>
          rw [hadapter] at h
          cases h
      | some adapter =>
          rw [hadapter] at h
          cases hvalue : values.get? e.name with
          | none =>
              rw [hvalue] at h
              cases h
          | some v =>
              refine ⟨adapter, v, rfl, rfl, ?_⟩
              simp only [hadapter, Option.map_some]

/-- Without a value, an entry for an adapter fails. -/
theorem serve_send_none (a : Adapters) (ctx : AdapterContext) (s : Supply) (j : Journal)
    (hdirect : e.isDirect = false) :
    ∃ f, (a.serve ctx .send e none).resume s j = (.error f, j) := by
  unfold serve
  rw [resolve_of_not_direct hdirect]
  cases e.reference?.isNone with
  | true => exact ⟨_, rfl⟩
  | false =>
      simp only [Bool.false_eq_true, if_false, hand]
      cases a.get? e.adapterId with
      | none => exact ⟨_, rfl⟩
      | some adapter => exact ⟨_, rfl⟩

end Adapters

namespace Executor

/-- An act hands an adapter a value of a name. -/
def Act.sends (name : String) : Act → Bool
  | .send _ _ values => values.contains name
  | _ => false

variable {a : Adapters} {values : Values} {entries : List WiringEntry} {e : WiringEntry}
  {act : Act} {name : String}

/-- A call that sends an entry hands over the value of its name, and no other. -/
theorem sends_of_sendCall? (h : a.sendCall? values e = some act) (hname : act.sends name = true) :
    name = e.name ∧ ∃ v, values.get? name = some v := by
  unfold Adapters.sendCall? at h
  split at h
  · rename_i id d v _ hvalue
    obtain ⟨adapter, -, rfl⟩ := Option.map_eq_some_iff.1 h
    obtain ⟨v', hv'⟩ := (Dict.contains_iff _ _).1 hname
    rw [Dict.get?_singleton] at hv'
    by_cases heq : name = e.name
    · exact ⟨heq, v, heq ▸ hvalue⟩
    · rw [if_neg heq] at hv'
      cases hv'
  · cases h

theorem filter_loadCalls : (a.loadCalls entries).filter (·.sends name) = [] := by
  rw [List.filter_eq_nil_iff]
  intro act hact
  obtain ⟨e, -, he⟩ := List.mem_filterMap.1 hact
  unfold Adapters.loadCall? at he
  split at he
  · obtain ⟨adapter, -, rfl⟩ := Option.map_eq_some_iff.1 he
    exact Bool.false_ne_true
  · cases he

theorem filter_sendCalls_of_notMem (h : name ∉ entries.map (·.name)) :
    (a.sendCalls values entries).filter (·.sends name) = [] := by
  rw [List.filter_eq_nil_iff]
  intro act hact hsends
  obtain ⟨e, he, hcall⟩ := List.mem_filterMap.1 hact
  exact h (List.mem_map.2 ⟨e, he, (sends_of_sendCall? hcall hsends).1.symm⟩)

/-- If no name is wired twice, the call of an entry is the only one with its value. -/
theorem filter_sendCalls_of_mem (hnodup : (entries.map (·.name)).Nodup) (he : e ∈ entries)
    (hcall : a.sendCall? values e = some act) (hsends : act.sends e.name = true) :
    (a.sendCalls values entries).filter (·.sends e.name) = [act] := by
  obtain ⟨l, l', rfl⟩ := List.append_of_mem he
  rw [List.map_append, List.map_cons, List.nodup_append] at hnodup
  obtain ⟨-, hl', hdisjoint⟩ := hnodup
  have hfirst : e.name ∉ l.map (·.name) := fun h =>
    hdisjoint e.name h e.name List.mem_cons_self rfl
  have hrest : e.name ∉ l'.map (·.name) := (List.nodup_cons.1 hl').1
  have hsplit : a.sendCalls values (l ++ e :: l') =
      a.sendCalls values l ++ act :: a.sendCalls values l' := by
    rw [Adapters.sendCalls, List.filterMap_append, List.filterMap_cons_some hcall]
    rfl
  rw [hsplit, List.filter_append, filter_sendCalls_of_notMem hfirst,
    List.filter_cons_of_pos hsends, filter_sendCalls_of_notMem hrest, List.nil_append]

/-! ## Every output goes one way -/

/-- Computed outputs are split between acts, which hand some of them to adapters, and what is
returned. -/
structure Split (a : Adapters) (entries : List WiringEntry) (outputs : Values) (acts : List Act)
    (returned : Values) : Prop where
  /-- An output that is wired to an adapter is handed to it once, and is not returned. -/
  sent : ∀ e ∈ entries, e.isDirect = false → ∀ v, outputs.get? e.name = some v →
    returned.get? e.name = none ∧
      ∃ adapter, a.get? e.adapterId = some adapter ∧
        acts.filter (·.sends e.name) =
          [.send adapter (.singleton e.name e.descriptor) (.singleton e.name v)]
  /-- Every other output is returned, and handed to nobody. -/
  kept : ∀ name v, outputs.get? name = some v →
    (∀ e ∈ entries, e.name = name → e.isDirect = true) →
    returned.get? name = some v ∧ acts.filter (·.sends name) = []
  /-- Nothing is returned that was not computed. -/
  returned : ∀ name v, returned.get? name = some v → outputs.get? name = some v
  /-- Nothing is handed to an adapter that was not computed. -/
  handed : ∀ act ∈ acts, ∀ name, act.sends name = true → ∃ v, outputs.get? name = some v

section Run

variable {x : Executor} {ctx : AdapterContext} {input : ExecutionInput} {s : Supply} {j : Journal}
  {outputs : Values}

/-- What is sent is what was computed for an entry that goes to an adapter. -/
theorem get?_shares_fst (name : String) :
    (shares input outputs).1.get? name =
      if name ∈ input.sentEntries.map (·.name) then outputs.get? name else none :=
  (Values.get?_separate _ _ _).1

theorem get?_shares_snd (name : String) :
    (shares input outputs).2.get? name =
      if name ∈ input.sentEntries.map (·.name) then none else outputs.get? name :=
  (Values.get?_separate _ _ _).2

theorem get?_shares_of_mem {e : WiringEntry} (he : e ∈ input.sentEntries) :
    (shares input outputs).1.get? e.name = outputs.get? e.name := by
  rw [get?_shares_fst, if_pos (List.mem_map.2 ⟨e, he, rfl⟩)]

/-- In a fan-out every unit has an outcome. -/
theorem exists_outcome_of_mem (x : Executor) (ctx : AdapterContext) (s : Supply) (j : Journal)
    (values : Values) {e : WiringEntry} (he : e ∈ input.sentEntries) :
    ∃ j', (e.name, ((x.adapters.serve ctx .send e (values.get? e.name)).resume s j').1) ∈
      x.sending ctx input s j values := by
  obtain ⟨l, l', hl⟩ := List.append_of_mem he
  refine ⟨Work.after s j (x.adapters.sendUnits ctx values l), ?_⟩
  rw [sending, Work.mem_outcomes_iff]
  refine ⟨x.adapters.sendUnits ctx values l, (e.name, _),
    x.adapters.sendUnits ctx values l', ?_, rfl⟩
  rw [hl]
  exact List.map_append

/-- The acts of a run that gets to its end: the calls that load, the evaluation on what they have
provided, and the calls that send its outputs. -/
def acts (x : Executor) (input : ExecutionInput) (provided outputs : Values) : List Act :=
  x.adapters.loadCalls input.wiring.inputs ++ [.evaluate provided] ++
    x.adapters.sendCalls (shares input outputs).1 input.sentEntries

/-- Those that hand over a value of a name are among the calls that send. -/
theorem filter_acts (provided : Values) (name : String) :
    (x.acts input provided outputs).filter (·.sends name) =
      (x.adapters.sendCalls (shares input outputs).1 input.sentEntries).filter
        (·.sends name) := by
  rw [acts, List.filter_append, List.filter_append, filter_loadCalls]
  rfl

theorem notMem_sentEntries {name : String}
    (h : ∀ e ∈ input.wiring.outputs, e.name = name → e.isDirect = true) :
    name ∉ input.sentEntries.map (·.name) := by
  intro hmem
  obtain ⟨e, he, rfl⟩ := List.mem_map.1 hmem
  obtain ⟨he, hnot⟩ := ExecutionInput.mem_sentEntries.1 he
  rw [h e he rfl] at hnot
  cases hnot

/-- When everything was sent, each entry is one call with its value. -/
theorem split_of_sent (hcheck : input.check = .ok ())
    (hsent : (x.sending ctx input s j (shares input outputs).1).failed = []) (provided : Values) :
    Split x.adapters input.wiring.outputs outputs (x.acts input provided outputs)
      (shares input outputs).2 where
  sent e he hdirect v hv := by
    have hmem : e ∈ input.sentEntries := ExecutionInput.mem_sentEntries.2 ⟨he, hdirect⟩
    obtain ⟨j', houtcome⟩ := exists_outcome_of_mem x ctx s j (shares input outputs).1 hmem
    obtain ⟨r, hr⟩ := Outcomes.failed_eq_nil_iff.1 hsent _ houtcome
    obtain ⟨adapter, v', hadapter, hv', hcall⟩ := Adapters.sendCall?_of_sent hdirect hr
    rw [get?_shares_of_mem hmem, hv, Option.some.injEq] at hv'
    subst hv'
    refine ⟨?_, adapter, hadapter, ?_⟩
    · rw [get?_shares_snd, if_pos (List.mem_map.2 ⟨e, hmem, rfl⟩)]
    · rw [filter_acts]
      refine filter_sendCalls_of_mem (ExecutionInput.nodup_sentEntries hcheck) hmem hcall ?_
      rw [Act.sends, Dict.contains_iff]
      exact ⟨v, by rw [Dict.get?_singleton, if_pos rfl]⟩
  kept name v hv hdirect := by
    have hname := notMem_sentEntries hdirect
    refine ⟨?_, ?_⟩
    · rw [get?_shares_snd, if_neg hname, hv]
    · rw [filter_acts, filter_sendCalls_of_notMem hname]
  returned name v hv := by
    rw [get?_shares_snd] at hv
    split at hv
    · cases hv
    · exact hv
  handed act hact name hsends := by
    -- an act that hands over the name is a call of an entry, which has its value
    have hmem := List.mem_filter.2 ⟨hact, hsends⟩
    rw [filter_acts, List.mem_filter] at hmem
    obtain ⟨e, -, hcall⟩ := List.mem_filterMap.1 hmem.1
    obtain ⟨-, v, hv⟩ := sends_of_sendCall? hcall hsends
    rw [get?_shares_fst] at hv
    split at hv
    · exact ⟨v, hv⟩
    · cases hv

/-- An entry for an adapter without a value is among the failures of sending. -/
theorem exists_failure_of_missing (x : Executor) (ctx : AdapterContext) (s : Supply) (j : Journal)
    (hcheck : input.check = .ok ()) {e : WiringEntry} (he : e ∈ input.wiring.outputs)
    (hdirect : e.isDirect = false) (hmissing : outputs.get? e.name = none) :
    ∃ f, (x.sending ctx input s j (shares input outputs).1).failures.get? e.name = some f := by
  have hmem : e ∈ input.sentEntries := ExecutionInput.mem_sentEntries.2 ⟨he, hdirect⟩
  obtain ⟨j', houtcome⟩ := exists_outcome_of_mem x ctx s j (shares input outputs).1 hmem
  rw [get?_shares_of_mem hmem, hmissing] at houtcome
  obtain ⟨f, hf⟩ := Adapters.serve_send_none x.adapters ctx s j' hdirect
  rw [hf] at houtcome
  have hnodup : ((x.sending ctx input s j (shares input outputs).1).map (·.1)).Nodup := by
    rw [sending, Work.map_fst_outcomes, Adapters.sendUnits, List.map_map]
    exact ExecutionInput.nodup_sentEntries hcheck
  exact ⟨f, (Outcomes.get?_failures_eq_some_iff hnodup).2 houtcome⟩

/-- **No output is lost, duplicated or leaked.** The outputs of a run that succeeded are split
between the calls of adapters and the result, and a run for which an output that is wired to an
adapter was not computed is an error that names it. -/
theorem run_splits_outputs (x : Executor)
    (nested : ExecutionInput → Attempt ExecutionError ExecutionResult) (input : ExecutionInput)
    (s : Supply) (j : Journal) :
    x.run input = x.runWith (x.runNested 1) input ∧
      (∀ result, ((x.runWith nested input).resume s j).1 = .ok result → result.status = .ok →
        ∃ provided outputs, provided = (x.loading (context input nested) input s j).values ∧
          (x.evaluation input provided).result = .ok outputs ∧
          Journal.Course (Act.perform x (context input nested) input s)
            (x.acts input provided outputs) j ((x.runWith nested input).resume s j).2 ∧
          Split x.adapters input.wiring.outputs outputs (x.acts input provided outputs)
            result.outputs) ∧
      ∀ outputs, input.check = .ok () →
        (x.loading (context input nested) input s j).failed = [] →
        (x.evaluation input (x.loading (context input nested) input s j).values).result =
          .ok outputs →
        ∀ e ∈ input.wiring.outputs, e.isDirect = false → outputs.get? e.name = none →
          ∃ error f, ((x.runWith nested input).resume s j).1 = .error (.adapterHandling error) ∧
            error.failures.get? e.name = some f := by
  have hphased := phased_runWith x nested input s j
  refine ⟨rfl, ?_, ?_⟩
  · intro result hresult hstatus
    obtain ⟨hcheck, -, outputs, hgraph, hreturned, j₁, hsent, hfirst, hsends⟩ :=
      hphased.exists_of_ok hresult hstatus
    refine ⟨_, outputs, rfl, hgraph, hfirst.append hsends, ?_⟩
    rw [hreturned]
    exact split_of_sent hcheck hsent _
  · intro outputs hcheck hloaded hgraph e he hdirect hmissing
    obtain ⟨j₁, -, -, hunsent, -⟩ := hphased.evaluated outputs hcheck hloaded hgraph
    obtain ⟨f, hf⟩ := exists_failure_of_missing x (context input nested) s j₁ hcheck he hdirect
      hmissing
    refine ⟨_, f, hunsent fun hnil => ?_, hf⟩
    rw [Outcomes.failures, hnil] at hf
    cases hf

end Run

/-- A body that gives both outputs of the step. -/
def doubling : Bodies :=
  Bodies.empty.registerBuiltin "double" fun _ inputs =>
    .ok (.ofList [("y", (inputs.get? "x").getD .null), ("z", .text "kept")])

theorem run_splits_outputs_echo :
    let x : Executor := ⟨.ofList [echo], doubling⟩
    let run := (x.run echoInput).resume countingSupply .empty
    let outputs : Values := .ofList [("y", .text "x"), ("z", .text "kept")]
    let acts := x.acts echoInput (.singleton "x" (.text "x")) outputs
    ∃ result, run.1 = .ok result ∧
      Journal.Course (Act.perform x (context echoInput (x.runNested 1)) echoInput countingSupply)
        acts .empty run.2 ∧
      result.outputs.get? "y" = none ∧ result.outputs.get? "z" = some (.text "kept") ∧
      acts.filter (·.sends "y") =
        [.send echo (.singleton "y" echoDescriptor) (.singleton "y" (.text "x"))] ∧
      acts.filter (·.sends "z") = [] := by
  intro x run outputs acts
  have hstatus : run.1.toOption.map (·.status) = some .ok := rfl
  cases hresult : run.1 with
  | error e =>
      rw [hresult] at hstatus
      cases hstatus
  | ok result =>
      rw [hresult] at hstatus
      obtain ⟨-, hok, -⟩ := run_splits_outputs x (x.runNested 1) echoInput countingSupply .empty
      obtain ⟨provided, computed, rfl, hgraph, hcourse, hsplit⟩ :=
        hok result hresult (Option.some.inj hstatus)
      obtain rfl : outputs = computed := Except.ok.inj hgraph
      obtain ⟨hy, adapter, hadapter, hsent⟩ :=
        hsplit.sent _ List.mem_cons_self rfl (.text "x") rfl
      obtain rfl : echo = adapter := Option.some.inj hadapter
      obtain ⟨hz, hnone⟩ := hsplit.kept "z" (.text "kept") rfl (by
        intro e he hname
        obtain rfl := List.mem_singleton.1 he
        exact absurd hname (by decide))
      exact ⟨result, rfl, hcourse, hy, hz, hsent, hnone⟩

end Executor

end Dataflow
