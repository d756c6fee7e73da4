import Dataflow.Proofs.Store.Nesting

set_option autoImplicit false

/-! # Collecting what a revision nests

A `Collection` takes the workflows that wait one by one, for as long as there are any. Workflows
that nest themselves wait again only where an operator is new, so what is left to collect, the
operator identities without an entry, bounds how many more can wait (`Gathering.collection`).

`nestedClosure_decided` says of every memory store that a collection ends, and over what it can
fail. Where operators with one identity reference one revision, it fails exactly if a revision is
missing, and otherwise holds the operators below the root, each with the stored revision that it
references. Where they do not, what lies below the operator that comes second may be left out.
-/

namespace Dataflow

namespace RevisionStore

/-- What the collection of a closure comes to, by the workflows that are taken one after the
other. -/
inductive Collection (s : RevisionStore) :
    Closure → List Revision → Except ModelError Closure → Prop
  | done {closure : Closure} : Collection s closure [] (.ok closure)
  | failed {closure : Closure} {r : Revision} {pending : List Revision} {cause : ModelError}
      (hfailed : s.collectOperators ((r.workflow?.map (·.operators)).getD []) (closure, pending) =
        .error cause) :
      Collection s closure (r :: pending) (.error cause)
  | taken {closure closure' : Closure} {r : Revision} {pending pending' : List Revision}
      {outcome : Except ModelError Closure}
      (hfound : s.collectOperators ((r.workflow?.map (·.operators)).getD []) (closure, pending) =
        .ok (closure', pending'))
      (hrest : Collection s closure' pending' outcome) :
      Collection s closure (r :: pending) outcome

section

variable {s : RevisionStore} {root : Revision} {closure : Closure} {pending : List Revision}
  {outcome outcome' : Except ModelError Closure}

/-! ## Every collection ends -/

theorem Collection.unique (h : Collection s closure pending outcome)
    (h' : Collection s closure pending outcome') : outcome = outcome' := by
  induction h with
  | done =>
      cases h'
      rfl
  | failed hfailed =>
      cases h' with
      | failed hfailed' =>
          rw [hfailed, Except.error.injEq] at hfailed'
          rw [hfailed']
      | taken hfound =>
          rw [hfailed] at hfound
          cases hfound
  | taken hfound _ ih =>
      cases h' with
      | failed hfailed =>
          rw [hfound] at hfailed
          cases hfailed
      | taken hfound' hrest =>
          rw [hfound, Except.ok.injEq, Prod.mk.injEq] at hfound'
          obtain ⟨rfl, rfl⟩ := hfound'
          exact ih hrest

/-- **A collection ends within the operator identities that have no entry yet**, and one step for
each workflow that waits. -/
theorem Gathering.collection {fuel : Nat} (h : Gathering s root closure pending)
    (hfuel : pending.length + operatorIdentities ≤ fuel + closure.size) :
    Collection s closure pending (s.collect fuel (closure, pending)) := by
  induction fuel generalizing closure pending with
  | zero =>
      have hsize := closure.size_le
      cases pending with
      | nil => exact .done
      | cons r rest =>
          rw [List.length_cons] at hfuel
          omega
  | succ fuel ih =>
      cases pending with
      | nil => exact .done
      | cons r rest =>
          rw [RevisionStore.collect]
          rw [List.length_cons] at hfuel
          cases hfound : s.collectOperators ((r.workflow?.map (·.operators)).getD [])
              (closure, rest) with
          | error cause => exact .failed hfound
          | ok found =>
              obtain ⟨closure', pending'⟩ := found
              -- a workflow waits only if an entry has been added
              obtain ⟨hnext, hpaid⟩ := h.take hfound
              exact .taken hfound (ih hnext (by omega))

theorem collection_iff :
    Collection s .empty [root] outcome ↔ outcome = s.nestedClosure root := by
  have hend : Collection s .empty [root] (s.nestedClosure root) :=
    (gathering_start s root).collection (fuel_start root)
  constructor
  · exact fun h => h.unique hend
  · rintro rfl
    exact hend

/-! ## Where no operators clash -/

/-- Every operator below the root has the revision that it references. -/
theorem Gathering.get?_of_hasOperator (h : Gathering s root closure [])
    (hclash : ¬ s.Clashing root) {o : Operator} (ho : s.HasOperator root o) :
    ∃ nested, s.get o.revision = .ok nested ∧ closure.get? o.id = some nested := by
  obtain ⟨r, content, hbelow, hcontent, ho⟩ := ho
  obtain ⟨nested, hentry, hget⟩ :=
    h.get?_of_not_clashing hclash hbelow (h.supplied hclash hbelow) hcontent ho
  exact ⟨nested, hget, hentry⟩

/-- The keys are the identities of the operators below the root. -/
theorem Gathering.mem_keys_iff (h : Gathering s root closure []) (hclash : ¬ s.Clashing root)
    {id : OperatorId} : id ∈ closure.keys ↔ ∃ o, s.HasOperator root o ∧ o.id = id := by
  rw [Dict.mem_keys_iff, Option.isSome_iff_exists]
  constructor
  · rintro ⟨r, hr⟩
    obtain ⟨o, ho, hid, -⟩ := h.held id r hr
    exact ⟨o, ho, hid⟩
  · rintro ⟨o, ho, rfl⟩
    obtain ⟨nested, -, hentry⟩ := h.get?_of_hasOperator hclash ho
    exact ⟨nested, hentry⟩

end

end RevisionStore

namespace MemoryStore

open RevisionStore (Collection)

variable {s : MemoryStore} {root : Revision}

/-- Where no operators clash, a collection succeeds exactly if nothing is missing. -/
theorem exists_closure_iff (hclash : ¬ s.toStore.Clashing root) :
    (∃ closure, s.toStore.nestedClosure root = .ok closure) ↔
      ∀ o, s.toStore.HasOperator root o → ∃ nested, s.get o.revision = .ok nested := by
  constructor
  · rintro ⟨closure, hclosure⟩ o ho
    obtain ⟨nested, hget, -⟩ :=
      (RevisionStore.gathering_of_nestedClosure hclosure).get?_of_hasOperator hclash ho
    exact ⟨nested, hget⟩
  · intro hall
    cases hclosure : s.toStore.nestedClosure root with
    | ok closure => exact ⟨closure, rfl⟩
    | error cause =>
        obtain ⟨o, ho, -, hnone⟩ := exists_missing hclosure
        obtain ⟨nested, hget⟩ := hall o ho
        exact absurd hget (hnone nested)

/-- **What a collection comes to in a memory store.** It ends, with the outcome of `nestedClosure`,
and fails over nothing but an operator below the root whose revision is not stored. Where no
operators clash, it fails if there is such an operator; if there is none, its keys are the operators
below the root, each with the stored revision that the operator references. -/
theorem nestedClosure_decided (s : MemoryStore) (root : Revision) :
    (∀ outcome, Collection s.toStore .empty [root] outcome ↔
        outcome = s.toStore.nestedClosure root) ∧
      (∀ cause, s.toStore.nestedClosure root = .error cause →
        ∃ o, s.toStore.HasOperator root o ∧ cause = .notFound o.revision ∧
          ∀ nested, s.get o.revision ≠ .ok nested) ∧
      (¬ s.toStore.Clashing root →
        ((∃ closure, s.toStore.nestedClosure root = .ok closure) ↔
            ∀ o, s.toStore.HasOperator root o → ∃ nested, s.get o.revision = .ok nested) ∧
          (∀ closure, s.toStore.nestedClosure root = .ok closure →
            (∀ id, id ∈ closure.keys ↔ ∃ o, s.toStore.HasOperator root o ∧ o.id = id) ∧
              ∀ o, s.toStore.HasOperator root o →
                ∃ nested, s.get o.revision = .ok nested ∧ closure.get? o.id = some nested) ∧
          ∀ o, s.toStore.HasOperator root o → (∀ nested, s.get o.revision ≠ .ok nested) →
            ∃ missing, s.toStore.HasOperator root missing ∧
              (∀ nested, s.get missing.revision ≠ .ok nested) ∧
              s.toStore.nestedClosure root = .error (.notFound missing.revision)) := by
  refine ⟨fun outcome => RevisionStore.collection_iff, fun cause => exists_missing,
    fun hclash => ⟨exists_closure_iff hclash, fun closure hclosure => ?_, fun o ho hnone => ?_⟩⟩
  · have hgathered := RevisionStore.gathering_of_nestedClosure hclosure
    exact ⟨fun id => hgathered.mem_keys_iff hclash,
      fun o ho => hgathered.get?_of_hasOperator hclash ho⟩
  · cases hclosure : s.toStore.nestedClosure root with
    | ok closure =>
        obtain ⟨nested, hget⟩ := (exists_closure_iff hclash).1 ⟨closure, hclosure⟩ o ho
        exact absurd hget (hnone nested)
    | error cause =>
        obtain ⟨missing, hmissing, rfl, hnone'⟩ := exists_missing hclosure
        exact ⟨missing, hmissing, hnone', rfl⟩

/-! A workflow that nests itself. -/

/-- A workflow around an instance of itself and one of a component. -/
def sampleKnot : Revision :=
  .workflow (.ofNat 1) (.ofNat 2) "knot" "knots" .empty
    { WorkflowContent.empty with
      operators := [⟨.ofNat 3, .ofNat 1, "again"⟩, ⟨.ofNat 4, .ofNat 5, "end"⟩] }

/-- The component at the end of the knot. -/
def sampleEnd : Revision :=
  .component (.ofNat 5) (.ofNat 2) "end" "knots" .empty ⟨.ofNat 6, "end", ""⟩

/-- The store of the two. -/
def knotStore : MemoryStore := .ofList [sampleKnot, sampleEnd]

theorem hasOperator_sampleKnot {o : Operator} :
    knotStore.toStore.HasOperator sampleKnot o ↔
      o = ⟨.ofNat 3, .ofNat 1, "again"⟩ ∨ o = ⟨.ofNat 4, .ofNat 5, "end"⟩ := by
  have hbelow : ∀ r, knotStore.toStore.Below sampleKnot r → r = sampleKnot ∨ r = sampleEnd := by
    intro r hr
    induction hr with
    | refl => exact .inl rfl
    | tail _ hnests ih =>
        obtain ⟨content, o, hcontent, ho, hget⟩ := hnests
        rcases ih with rfl | rfl
        · cases hcontent
          rcases List.mem_pair.1 ho with rfl | rfl
          · exact .inl (Except.ok.inj hget).symm
          · exact .inr (Except.ok.inj hget).symm
        · cases hcontent
  constructor
  · rintro ⟨r, content, hr, hcontent, ho⟩
    rcases hbelow r hr with rfl | rfl
    · cases hcontent
      exact List.mem_pair.1 ho
    · cases hcontent
  · intro ho
    exact ⟨sampleKnot, _, .refl, rfl, List.mem_pair.2 ho⟩

theorem nestedClosure_decided_knot :
    ¬ knotStore.toStore.Clashing sampleKnot ∧
      ∃ closure, knotStore.toStore.nestedClosure sampleKnot = .ok closure ∧
        (∀ id, id ∈ closure.keys ↔ id = .ofNat 3 ∨ id = .ofNat 4) ∧
        closure.get? (.ofNat 3) = some sampleKnot := by
  have hclash : ¬ knotStore.toStore.Clashing sampleKnot := by
    rintro ⟨o, o', ho, ho', hid, hne⟩
    rcases hasOperator_sampleKnot.1 ho with rfl | rfl <;>
      rcases hasOperator_sampleKnot.1 ho' with rfl | rfl
    · exact hne rfl
    · exact absurd hid (by decide)
    · exact absurd hid (by decide)
    · exact hne rfl
  have hall : ∀ o, knotStore.toStore.HasOperator sampleKnot o →
      ∃ nested, knotStore.get o.revision = .ok nested := by
    intro o ho
    rcases hasOperator_sampleKnot.1 ho with rfl | rfl
    · exact ⟨sampleKnot, rfl⟩
    · exact ⟨sampleEnd, rfl⟩
  obtain ⟨hsucceeds, hheld, -⟩ := (nestedClosure_decided knotStore sampleKnot).2.2 hclash
  obtain ⟨closure, hclosure⟩ := hsucceeds.2 hall
  obtain ⟨hkeys, hentries⟩ := hheld closure hclosure
  refine ⟨hclash, closure, hclosure, fun id => ?_, ?_⟩
  · rw [hkeys]
    constructor
    · rintro ⟨o, ho, rfl⟩
      exact (hasOperator_sampleKnot.1 ho).imp (congrArg Operator.id) (congrArg Operator.id)
    · rintro (rfl | rfl)
      · exact ⟨_, hasOperator_sampleKnot.2 (.inl rfl), rfl⟩
      · exact ⟨_, hasOperator_sampleKnot.2 (.inr rfl), rfl⟩
  · obtain ⟨nested, hget, hentry⟩ := hentries _ (hasOperator_sampleKnot.2 (.inl rfl))
    rw [hentry, ← Except.ok.inj hget]

end MemoryStore

end Dataflow
