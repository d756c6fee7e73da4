import Dataflow.Proofs.Execution.Payload
import Dataflow.Proofs.Node.Nesting

set_option autoImplicit false

/-! # How a preparation fails

The closure is collected by operators and unfolded by revisions, in two passes that know nothing
of each other. `Engine.prepare_collected` says that they agree over every memory store, one that
nests workflows inside themselves included: the second pass never misses what the first one has
left out, and what each of them fails over can be said of the store alone.
-/

namespace Dataflow

namespace Engine

variable {e : Engine} {r : ExecutionRequest} {root : Revision}

/-- The passes of a preparation, up to the one that fails. -/
theorem prepare_cases (hroot : e.fetchRoot r.revision = .ok root) :
    (∃ cause, e.store.nestedClosure root = .error cause ∧
        (e.prepare r).result = .error (.ofModel cause)) ∨
      ∃ closure, e.store.nestedClosure root = .ok closure ∧
        ((∃ fault, root.flatten closure = .error fault ∧
            (e.prepare r).result = .error (.integrity fault)) ∨
          ∃ tree, root.flatten closure = .ok tree ∧
            ((∃ x, (e.prepare r).result = .ok x) ∨
              (∃ fault, (e.prepare r).result = .error (.componentsNotFound fault)) ∨
                ∃ fault, (e.prepare r).result = .error (.inputValidation fault))) := by
  rw [prepare, hroot, Traced.ofExcept_ok_bind]
  have hfetch := e.store.result_fetchClosure root
  cases hclosure : e.store.nestedClosure root with
  | error cause =>
      have hresult : ((e.store.fetchClosure root).mapError ExecutionError.ofModel).result =
          .error (.ofModel cause) := by
        rw [Traced.result_mapError, hfetch, hclosure]
        rfl
      rw [Traced.bind_of_error hresult]
      exact .inl ⟨cause, rfl, rfl⟩
  | ok closure =>
      have hresult : ((e.store.fetchClosure root).mapError ExecutionError.ofModel).result =
          .ok closure := by
        rw [Traced.result_mapError, hfetch, hclosure]
        rfl
      rw [Traced.bind_of_ok hresult]
      refine .inr ⟨closure, rfl, ?_⟩
      have hunfold := root.result_flattenLogged closure
      cases hflatten : root.flatten closure with
      | error fault =>
          rw [hflatten] at hunfold
          rw [Traced.bind_of_error hunfold]
          exact .inl ⟨fault, rfl, rfl⟩
      | ok tree =>
          rw [hflatten] at hunfold
          rw [Traced.bind_of_ok hunfold]
          refine .inr ⟨tree, rfl, ?_⟩
          have hbound := e.result_fetchComponents (r.wiring.getD root.testWiring)
          cases hcomponents : e.boundComponents (r.wiring.getD root.testWiring) with
          | error fault =>
              rw [hcomponents] at hbound
              rw [Traced.bind_of_error hbound]
              exact .inr (.inl ⟨fault, rfl⟩)
          | ok components =>
              rw [hcomponents] at hbound
              rw [Traced.bind_of_ok hbound]
              dsimp only
              rw [Assembly.result_assembleLogged]
              cases Assembly.assemble _ r.jobId tree with
              | error fault => exact .inr (.inr ⟨fault, rfl⟩)
              | ok x => exact .inl ⟨x, rfl⟩

/-- A preparation fails over the integrity of a revision exactly if the closure is collected and
does not unfold. -/
theorem prepare_eq_integrity_iff (hroot : e.fetchRoot r.revision = .ok root)
    {fault : IntegrityFault} :
    (e.prepare r).result = .error (.integrity fault) ↔
      ∃ closure, e.store.nestedClosure root = .ok closure ∧
        root.flatten closure = .error fault := by
  rcases prepare_cases hroot with
    ⟨cause, hclosure, hresult⟩ | ⟨closure, hclosure, ⟨fault', hflatten, hresult⟩ |
      ⟨tree, hflatten, ⟨x, hresult⟩ | ⟨fault', hresult⟩ | ⟨fault', hresult⟩⟩⟩ <;>
    rw [hresult, hclosure]
  · cases cause <;> simp [ExecutionError.ofModel]
  · simp [hflatten]
  all_goals simp [hflatten]

/-- A preparation misses a revision exactly if the collection of the closure does. -/
theorem prepare_eq_notFound_iff (hroot : e.fetchRoot r.revision = .ok root) {id : Uuid} :
    (e.prepare r).result = .error (.notFound id) ↔
      e.store.nestedClosure root = .error (.notFound id) := by
  rcases prepare_cases hroot with
    ⟨cause, hclosure, hresult⟩ | ⟨closure, hclosure, ⟨fault', hflatten, hresult⟩ |
      ⟨tree, hflatten, ⟨x, hresult⟩ | ⟨fault', hresult⟩ | ⟨fault', hresult⟩⟩⟩ <;>
    rw [hresult, hclosure]
  · cases cause <;> simp [ExecutionError.ofModel]
  all_goals simp

section MemoryStore

variable {s : MemoryStore}

theorem fetchRoot_of_stored (hstore : e.store = s.toStore) (hroot : s.get r.revision = .ok root)
    (hvalid : root.check = .ok ()) : e.fetchRoot r.revision = .ok root :=
  fetchRoot_eq_ok_iff.2 ⟨by rw [hstore]; exact hroot, hvalid⟩

theorem prepare_ne_unlisted (hstore : e.store = s.toStore)
    (hfetched : e.fetchRoot r.revision = .ok root) (operator : OperatorId) (revision : Uuid) :
    (e.prepare r).result ≠ .error (.integrity (.unlisted operator revision)) := by
  intro hunlisted
  obtain ⟨closure, hclosure, hflatten⟩ := (prepare_eq_integrity_iff hfetched).1 hunlisted
  rw [hstore] at hclosure
  have hgathered := RevisionStore.gathering_of_nestedClosure hclosure
  obtain ⟨r', ancestors, content, o, hstop⟩ := Revision.exists_of_flatten_eq_error hflatten
  rcases Revision.nestedAt_eq_error hstop.stopped with
    ⟨hnone, -⟩ | ⟨nested, -, ⟨-, hfault⟩ | ⟨-, -, -, hfault⟩⟩
  · exact hstop.get?_ne_none hgathered hnone
  · cases hfault
  · cases hfault

theorem exists_integrity_iff (hstore : e.store = s.toStore)
    (hroot : s.get r.revision = .ok root) (hvalid : root.check = .ok ())
    (hall : ∀ o, s.toStore.HasOperator root o → ∃ nested, s.get o.revision = .ok nested) :
    (∃ fault, (e.prepare r).result = .error (.integrity fault)) ↔
      s.toStore.Clashing root ∨ s.toStore.SelfNesting root := by
  have hfetched := fetchRoot_of_stored hstore hroot hvalid
  simp only [prepare_eq_integrity_iff hfetched, hstore]
  have hkeyed := s.keyed_toStore
  constructor
  · rintro ⟨fault, closure, hclosure, hflatten⟩
    exact Revision.clashing_or_selfNesting_of_flatten hkeyed
      (RevisionStore.gathering_of_nestedClosure hclosure) (hkeyed.get_id hroot) hflatten
  · intro hbad
    cases hclosure : s.toStore.nestedClosure root with
    | error cause =>
        obtain ⟨o, ho, -, hnone⟩ := MemoryStore.exists_missing hclosure
        obtain ⟨nested, hget⟩ := hall o ho
        exact absurd hget (hnone nested)
    | ok closure =>
        cases hflatten : root.flatten closure with
        | error fault => exact ⟨fault, closure, rfl, hflatten⟩
        | ok tree =>
            have hgathered := RevisionStore.gathering_of_nestedClosure hclosure
            exact absurd hbad (Revision.not_clashing_and_not_selfNesting hkeyed hgathered hflatten)

theorem exists_missing_of_prepare (hstore : e.store = s.toStore)
    (hfetched : e.fetchRoot r.revision = .ok root) {id : Uuid}
    (h : (e.prepare r).result = .error (.notFound id)) :
    ∃ o, s.toStore.HasOperator root o ∧ o.revision = id ∧ ∀ nested, s.get id ≠ .ok nested := by
  rw [prepare_eq_notFound_iff hfetched, hstore] at h
  obtain ⟨o, ho, hsame, hnone⟩ := MemoryStore.exists_missing h
  cases hsame
  exact ⟨o, ho, rfl, hnone⟩

theorem exists_notFound_iff (hstore : e.store = s.toStore)
    (hfetched : e.fetchRoot r.revision = .ok root) (hclash : ¬ s.toStore.Clashing root) :
    (∃ id, (e.prepare r).result = .error (.notFound id)) ↔
      ∃ o, s.toStore.HasOperator root o ∧ ∀ nested, s.get o.revision ≠ .ok nested := by
  constructor
  · rintro ⟨id, hid⟩
    obtain ⟨o, ho, hsame, hnone⟩ := exists_missing_of_prepare hstore hfetched hid
    exact ⟨o, ho, hsame ▸ hnone⟩
  · rintro ⟨o, ⟨r', content, hbelow, hcontent, ho⟩, hnone⟩
    simp only [prepare_eq_notFound_iff hfetched, hstore]
    cases hclosure : s.toStore.nestedClosure root with
    | error cause =>
        obtain ⟨o', -, hsame, -⟩ := MemoryStore.exists_missing hclosure
        exact ⟨o'.revision, by rw [hsame]⟩
    | ok closure =>
        -- without a clash the collection has come to this operator, and has found its revision
        have hgathered := RevisionStore.gathering_of_nestedClosure hclosure
        obtain ⟨nested, -, hget⟩ := hgathered.get?_of_not_clashing hclash hbelow
          (hgathered.supplied hclash hbelow) hcontent ho
        exact absurd hget (hnone nested)

end MemoryStore

/-- **What is collected unfolds**, or the store is at fault. A preparation never misses an operator
in the closure. If all that the root nests is stored, its integrity fails exactly where operators
clash or a workflow nests itself. If no operators clash, a revision is not found exactly where an
operator references one that is not stored, and it is such a one that is reported. -/
theorem prepare_collected {s : MemoryStore} (hstore : e.store = s.toStore)
    (hroot : s.get r.revision = .ok root) (hvalid : root.check = .ok ()) :
    (∀ operator revision,
        (e.prepare r).result ≠ .error (.integrity (.unlisted operator revision))) ∧
      ((∀ o, s.toStore.HasOperator root o → ∃ nested, s.get o.revision = .ok nested) →
        ((∃ fault, (e.prepare r).result = .error (.integrity fault)) ↔
          s.toStore.Clashing root ∨ s.toStore.SelfNesting root)) ∧
      (¬ s.toStore.Clashing root →
        ((∃ id, (e.prepare r).result = .error (.notFound id)) ↔
          ∃ o, s.toStore.HasOperator root o ∧ ∀ nested, s.get o.revision ≠ .ok nested) ∧
        ∀ id, (e.prepare r).result = .error (.notFound id) →
          ∃ o, s.toStore.HasOperator root o ∧ o.revision = id ∧
            ∀ nested, s.get id ≠ .ok nested) := by
  have hfetched := fetchRoot_of_stored hstore hroot hvalid
  refine ⟨prepare_ne_unlisted hstore hfetched, exists_integrity_iff hstore hroot hvalid,
    fun hclash => ⟨exists_notFound_iff hstore hfetched hclash, fun id => ?_⟩⟩
  exact exists_missing_of_prepare hstore hfetched

/-! Two workflows, each of which nests the other. -/

/-- A workflow that nests the one below. -/
def loopOuter : Revision :=
  .workflow (.ofNat 1) (.ofNat 2) "outer" "loops" .empty
    { WorkflowContent.empty with operators := [⟨.ofNat 3, .ofNat 4, "inner"⟩] }

/-- A workflow that nests the one above. -/
def loopInner : Revision :=
  .workflow (.ofNat 4) (.ofNat 2) "inner" "loops" .empty
    { WorkflowContent.empty with operators := [⟨.ofNat 5, .ofNat 1, "outer"⟩] }

/-- The store of the two. -/
def loopStore : MemoryStore := .ofList [loopOuter, loopInner]

/-- An engine over the two. -/
def loopEngine : Engine := .inProcess .standard .standard loopStore.toStore .standard

/-- A request to run the outer one. -/
def loopRequest : ExecutionRequest := ⟨.ofNat 1, none, .ofNat 6, none⟩

theorem below_loopOuter {r : Revision} (h : loopStore.toStore.Below loopOuter r) :
    r = loopOuter ∨ r = loopInner := by
  induction h with
  | refl => exact .inl rfl
  | tail _ hnests ih =>
      obtain ⟨content, o, hcontent, ho, hget⟩ := hnests
      rcases ih with rfl | rfl
      · cases hcontent
        rw [List.mem_singleton.1 ho] at hget
        exact .inr (Except.ok.inj hget).symm
      · cases hcontent
        rw [List.mem_singleton.1 ho] at hget
        exact .inl (Except.ok.inj hget).symm

theorem hasOperator_loopOuter {o : Operator} (h : loopStore.toStore.HasOperator loopOuter o) :
    o = ⟨.ofNat 3, .ofNat 4, "inner"⟩ ∨ o = ⟨.ofNat 5, .ofNat 1, "outer"⟩ := by
  obtain ⟨r, content, hbelow, hcontent, ho⟩ := h
  rcases below_loopOuter hbelow with rfl | rfl
  · cases hcontent
    exact .inl (List.mem_singleton.1 ho)
  · cases hcontent
    exact .inr (List.mem_singleton.1 ho)

theorem prepare_collected_loop :
    loopStore.get (.ofNat 1) = .ok loopOuter ∧ loopOuter.check = .ok () ∧
      loopStore.toStore.SelfNesting loopOuter ∧ ¬ loopStore.toStore.Clashing loopOuter ∧
      (∃ fault, (loopEngine.prepare loopRequest).result = .error (.integrity fault)) ∧
      ∀ id, (loopEngine.prepare loopRequest).result ≠ .error (.notFound id) := by
  have hroot : loopStore.get (.ofNat 1) = .ok loopOuter := rfl
  have hvalid : loopOuter.check = .ok () := rfl
  have hall : ∀ o, loopStore.toStore.HasOperator loopOuter o →
      ∃ nested, loopStore.get o.revision = .ok nested := by
    intro o ho
    rcases hasOperator_loopOuter ho with rfl | rfl
    · exact ⟨loopInner, rfl⟩
    · exact ⟨loopOuter, rfl⟩
  have hnests : loopStore.toStore.Nests loopOuter loopInner :=
    ⟨_, _, rfl, List.mem_singleton_self _, rfl⟩
  have hnests' : loopStore.toStore.Nests loopInner loopOuter :=
    ⟨_, _, rfl, List.mem_singleton_self _, rfl⟩
  have hself : loopStore.toStore.SelfNesting loopOuter :=
    ⟨loopOuter, .refl, .tail (.single hnests) hnests'⟩
  have hclash : ¬ loopStore.toStore.Clashing loopOuter := by
    rintro ⟨o, o', ho, ho', hid, hne⟩
    rcases hasOperator_loopOuter ho with rfl | rfl <;>
      rcases hasOperator_loopOuter ho' with rfl | rfl
    · exact hne rfl
    · exact absurd hid (by decide)
    · exact absurd hid (by decide)
    · exact hne rfl
  have hcollected := prepare_collected (e := loopEngine) (r := loopRequest) rfl hroot hvalid
  refine ⟨hroot, hvalid, hself, hclash, (hcollected.2.1 hall).2 (.inr hself), fun id hid => ?_⟩
  obtain ⟨o, ho, hrevision, hnone⟩ := (hcollected.2.2 hclash).2 id hid
  obtain ⟨nested, hget⟩ := hall o ho
  exact hnone nested (hrevision ▸ hget)

end Engine

end Dataflow
