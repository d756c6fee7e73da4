import Dataflow.Proofs.Store.Closure

set_option autoImplicit false

/-! # Everything below a revision

In a store a workflow nests what the store holds for the revisions of its operators
(`RevisionStore.Nests`). The collection of a closure visits what is below the root, but not all
of it: of two operators with one identity only the first is followed. What it keeps nevertheless
is that the operators of everything it has gathered are listed, but for workflows that wait
(`Gathering`). At its end none waits, because one unit of fuel for each operator identity is
enough (`gathering_of_nestedClosure`).

If operators with one identity reference one revision, then nothing below the root has been left
out (`Gathering.supplied`).
-/

namespace Dataflow

/-! ## Nesting in a store -/

namespace RevisionStore

/-- A workflow nests what the store holds for one of its operators. -/
def Nests (s : RevisionStore) (r nested : Revision) : Prop :=
  ∃ content o, r.content = .workflow content ∧ o ∈ content.operators ∧ s.get o.revision = .ok nested

/-- A revision is the root or nested in it at any depth. -/
def Below (s : RevisionStore) (root r : Revision) : Prop := Relation.ReflTransGen s.Nests root r

/-- An operator of the root or of a workflow that is nested in it at any depth. -/
def HasOperator (s : RevisionStore) (root : Revision) (o : Operator) : Prop :=
  ∃ r content, s.Below root r ∧ r.content = .workflow content ∧ o ∈ content.operators

/-- Two operators share an identity and reference different revisions. -/
def Clashing (s : RevisionStore) (root : Revision) : Prop :=
  ∃ o o', s.HasOperator root o ∧ s.HasOperator root o' ∧ o.id = o'.id ∧ o.revision ≠ o'.revision

/-- A workflow is nested inside itself, directly or through others. -/
def SelfNesting (s : RevisionStore) (root : Revision) : Prop :=
  ∃ r, s.Below root r ∧ Relation.TransGen s.Nests r r

/-- Every revision is stored under its own identifier. -/
def Keyed (s : RevisionStore) : Prop := ∀ id r, s.get id = .ok r → r.id = id

theorem Keyed.get_id {s : RevisionStore} (h : s.Keyed) {id : Uuid} {r : Revision}
    (hget : s.get id = .ok r) : s.get r.id = .ok r := by
  rw [h id r hget, hget]

end RevisionStore

theorem MemoryStore.keyed_toStore (s : MemoryStore) : s.toStore.Keyed :=
  fun _ _ => MemoryStore.id_of_get

/-! ## What a closure supplies -/

namespace Closure

/-- The root is at hand, and so is what the closure holds. -/
def Supplies (closure : Closure) (root r : Revision) : Prop :=
  r = root ∨ ∃ id, closure.get? id = some r

/-- The closure has an entry for every operator of a revision. -/
def Lists (closure : Closure) (r : Revision) : Prop :=
  ∀ content, r.content = .workflow content →
    ∀ o ∈ content.operators, ∃ x, closure.get? o.id = some x

/-- There are no more entries than operator identities. -/
theorem size_le (closure : Closure) : closure.size ≤ RevisionStore.operatorIdentities := by
  have hinjective : Function.Injective fun id : OperatorId => id.bits.toFin := by
    intro a b hab
    have hbits : a.bits = b.bits := BitVec.toFin_inj.1 hab
    cases a
    cases b
    rw [Uuid.mk.injEq]
    exact hbits
  have hnodup : (closure.keys.map fun id => id.bits.toFin).Nodup :=
    (Dict.nodup_keys closure).map hinjective
  calc closure.size = (closure.keys.map fun id => id.bits.toFin).length := by
        rw [List.length_map, Dict.keys, List.length_map, Dict.size]
    _ ≤ Fintype.card (Fin (2 ^ 128)) := hnodup.length_le_card
    _ = RevisionStore.operatorIdentities := Fintype.card_fin _

end Closure

/-! ## Collecting -/

namespace RevisionStore

/-- The collection of a closure on the way: the closure holds what the store holds for operators
below the root, what waits is below the root, and everything at hand waits or has its operators
listed. -/
structure Gathering (s : RevisionStore) (root : Revision) (closure : Closure)
    (pending : List Revision) : Prop where
  held : ∀ id r, closure.get? id = some r →
    ∃ o, s.HasOperator root o ∧ o.id = id ∧ s.get o.revision = .ok r
  waiting : ∀ r ∈ pending, s.Below root r
  listed : ∀ r, closure.Supplies root r → r ∈ pending ∨ closure.Lists r

section Gathering

variable {s : RevisionStore} {root : Revision} {closure closure' : Closure}
  {pending pending' : List Revision}

theorem gathering_start (s : RevisionStore) (root : Revision) :
    Gathering s root .empty [root] := by
  refine ⟨fun id r hr => ?_, fun r hr => ?_, fun r hr => ?_⟩
  · cases hr
  · rw [List.mem_singleton.1 hr]
    exact .refl
  · rcases hr with rfl | ⟨id, hid⟩
    · exact .inl (List.mem_singleton_self _)
    · cases hid

/-- The revision of a new operator joins the closure, and waits if it is a workflow. -/
theorem Gathering.join {r nested : Revision} (h : Gathering s root closure (r :: pending))
    {content : WorkflowContent} (hcontent : r.content = .workflow content) {o : Operator}
    (ho : o ∈ content.operators) (hget : s.get o.revision = .ok nested) :
    Gathering s root (closure.insert o.id nested)
      (r :: if nested.workflow?.isSome then nested :: pending else pending) := by
  have hr : s.Below root r := h.waiting r List.mem_cons_self
  have hsub : ∀ x ∈ pending,
      x ∈ if nested.workflow?.isSome then nested :: pending else pending := by
    intro x hx
    split
    · exact List.mem_cons_of_mem _ hx
    · exact hx
  have hgrow : ∀ x, closure.Lists x → Closure.Lists (closure.insert o.id nested) x := by
    intro x hx content' hcontent' o' ho'
    obtain ⟨y, hy⟩ := hx content' hcontent' o' ho'
    by_cases hid : o'.id = o.id
    · exact ⟨nested, by rw [Dict.get?_insert, if_pos hid]⟩
    · exact ⟨y, by rw [Dict.get?_insert_of_ne _ _ hid, hy]⟩
  refine ⟨fun id x hx => ?_, fun x hx => ?_, fun x hx => ?_⟩
  · rw [Dict.get?_insert] at hx
    by_cases hid : id = o.id
    · rw [if_pos hid, Option.some.injEq] at hx
      exact ⟨o, ⟨r, content, hr, hcontent, ho⟩, hid.symm, hx ▸ hget⟩
    · rw [if_neg hid] at hx
      exact h.held id x hx
  · rcases List.mem_cons.1 hx with rfl | hx
    · exact hr
    · split at hx
      · rcases List.mem_cons.1 hx with rfl | hx
        · exact hr.tail ⟨content, o, hcontent, ho, hget⟩
        · exact h.waiting x (List.mem_cons_of_mem _ hx)
      · exact h.waiting x (List.mem_cons_of_mem _ hx)
  · -- what is at hand was so before, or is the revision that has joined
    have hcases : x = nested ∨ closure.Supplies root x := by
      rcases hx with rfl | ⟨id, hid⟩
      · exact .inr (.inl rfl)
      · rw [Dict.get?_insert] at hid
        by_cases heq : id = o.id
        · rw [if_pos heq, Option.some.injEq] at hid
          exact .inl hid.symm
        · rw [if_neg heq] at hid
          exact .inr (.inr ⟨id, hid⟩)
    rcases hcases with rfl | hold
    · by_cases hworkflow : x.workflow?.isSome
      · rw [if_pos hworkflow]
        exact .inl (List.mem_cons_of_mem _ List.mem_cons_self)
      · refine .inr fun content' hcontent' => ?_
        rw [Revision.workflow?_eq_some.2 hcontent'] at hworkflow
        exact absurd rfl hworkflow
    · rcases h.listed x hold with hwaits | hlists
      · rcases List.mem_cons.1 hwaits with rfl | hwaits
        · exact .inl List.mem_cons_self
        · exact .inl (List.mem_cons_of_mem _ (hsub x hwaits))
      · exact .inr (hgrow x hlists)

/-- What the operators of one workflow add: entries for all of them, and no more workflows that
wait than entries. -/
structure Extended (l : List Operator) (closure closure' : Closure)
    (pending pending' : List Revision) : Prop where
  kept : ∀ id x, closure.get? id = some x → closure'.get? id = some x
  entered : ∀ o ∈ l, ∃ x, closure'.get? o.id = some x
  paid : pending'.length + closure.size ≤ pending.length + closure'.size

theorem Gathering.operators {r : Revision} (h : Gathering s root closure (r :: pending))
    {content : WorkflowContent} (hcontent : r.content = .workflow content) {l : List Operator}
    (hl : ∀ o ∈ l, o ∈ content.operators)
    (hfound : s.collectOperators l (closure, pending) = .ok (closure', pending')) :
    Gathering s root closure' (r :: pending') ∧ Extended l closure closure' pending pending' := by
  induction l generalizing closure pending with
  | nil =>
      rw [collectOperators, Except.ok.injEq, Prod.mk.injEq] at hfound
      obtain ⟨rfl, rfl⟩ := hfound
      exact ⟨h, fun _ _ hx => hx, fun o ho => absurd ho List.not_mem_nil, le_rfl⟩
  | cons o rest ih =>
      obtain ⟨ho, hrest⟩ := List.forall_mem_cons.1 hl
      rw [collectOperators] at hfound
      cases hold : closure.get? o.id with
      | some x =>
          have hcontains : closure.contains o.id = true :=
            (closure.contains_iff o.id).2 ⟨x, hold⟩
          rw [if_pos hcontains] at hfound
          obtain ⟨hend, hextended⟩ := ih h hrest hfound
          refine ⟨hend, hextended.kept, List.forall_mem_cons.2 ⟨?_, hextended.entered⟩,
            hextended.paid⟩
          exact ⟨x, hextended.kept _ _ hold⟩
      | none =>
          have hcontains : ¬ closure.contains o.id = true := by
            rw [Dict.contains, hold]
            exact Bool.false_ne_true
          rw [if_neg hcontains] at hfound
          cases hget : s.get o.revision with
          | error e =>
              rw [hget] at hfound
              cases hfound
          | ok nested =>
              rw [hget] at hfound
              obtain ⟨hend, hextended⟩ := ih (h.join hcontent ho hget) hrest hfound
              have hkept : ∀ id x, closure.get? id = some x → closure'.get? id = some x := by
                intro id x hx
                refine hextended.kept id x ?_
                have hne : id ≠ o.id := by
                  rintro rfl
                  rw [hold] at hx
                  cases hx
                rw [Dict.get?_insert_of_ne _ _ hne, hx]
              refine ⟨hend, hkept, List.forall_mem_cons.2 ⟨?_, hextended.entered⟩, ?_⟩
              · exact ⟨nested, hextended.kept _ _ (Dict.get?_insert_self _ _ _)⟩
              · -- the new operator pays for the workflow that waits because of it
                have hpaid := hextended.paid
                rw [Dict.size_insert_of_get?_eq_none nested hold] at hpaid
                split at hpaid
                · rw [List.length_cons] at hpaid
                  omega
                · omega

/-- A workflow whose operators have been entered need not wait any longer. -/
theorem Gathering.drop {r : Revision} (h : Gathering s root closure (r :: pending))
    (hlists : closure.Lists r) : Gathering s root closure pending := by
  refine ⟨h.held, fun x hx => h.waiting x (List.mem_cons_of_mem _ hx), fun x hx => ?_⟩
  rcases h.listed x hx with hwaits | hx
  · rcases List.mem_cons.1 hwaits with rfl | hwaits
    · exact .inr hlists
    · exact .inl hwaits
  · exact .inr hx

/-- **One step of a collection**: the workflow on top is taken, and its operators are entered. -/
theorem Gathering.take {r : Revision} (h : Gathering s root closure (r :: pending))
    (hfound : s.collectOperators ((r.workflow?.map (·.operators)).getD []) (closure, pending) =
      .ok (closure', pending')) :
    Gathering s root closure' pending' ∧
      pending'.length + closure.size ≤ pending.length + closure'.size := by
  cases hcontent : r.workflow? with
  | none =>
      rw [hcontent] at hfound
      cases hfound
      refine ⟨h.drop fun content hc => ?_, le_rfl⟩
      rw [Revision.workflow?_eq_some.2 hc] at hcontent
      cases hcontent
  | some content =>
      rw [hcontent] at hfound
      have hworkflow := Revision.workflow?_eq_some.1 hcontent
      obtain ⟨hnext, hextended⟩ := h.operators hworkflow (fun o ho => ho) hfound
      refine ⟨hnext.drop fun content' hc => ?_, hextended.paid⟩
      rw [hworkflow, RevisionContent.workflow.injEq] at hc
      rw [← hc]
      exact hextended.entered

theorem Gathering.collect {fuel : Nat} (h : Gathering s root closure pending)
    (hfuel : pending.length + operatorIdentities ≤ fuel + closure.size)
    (hresult : s.collect fuel (closure, pending) = .ok closure') :
    Gathering s root closure' [] := by
  induction fuel generalizing closure pending with
  | zero =>
      have hsize := closure.size_le
      cases pending with
      | nil =>
          rw [RevisionStore.collect, Except.ok.injEq] at hresult
          rw [← hresult]
          exact h
      | cons r rest =>
          rw [List.length_cons] at hfuel
          omega
  | succ fuel ih =>
      cases pending with
      | nil =>
          rw [RevisionStore.collect, Except.ok.injEq] at hresult
          rw [← hresult]
          exact h
      | cons r rest =>
          rw [RevisionStore.collect] at hresult
          rw [List.length_cons] at hfuel
          cases hfound : s.collectOperators ((r.workflow?.map (·.operators)).getD [])
              (closure, rest) with
          | error e =>
              rw [hfound] at hresult
              cases hresult
          | ok found =>
              obtain ⟨closure₁, pending₁⟩ := found
              rw [hfound] at hresult
              obtain ⟨hnext, hpaid⟩ := h.take hfound
              exact ih hnext (by omega) hresult

/-- The fuel that a collection starts with is enough. -/
theorem fuel_start (root : Revision) : [root].length + operatorIdentities ≤
    operatorIdentities + 1 + (Dict.empty : Closure).size := by
  rw [List.length_singleton]
  omega

/-- **A closure that has been collected** lists the operators of everything at hand. -/
theorem gathering_of_nestedClosure (h : s.nestedClosure root = .ok closure) :
    Gathering s root closure [] :=
  (gathering_start s root).collect (fuel_start root) h

theorem Gathering.lists (h : Gathering s root closure []) {r : Revision}
    (hr : closure.Supplies root r) : closure.Lists r :=
  (h.listed r hr).resolve_left List.not_mem_nil

/-- What the closure holds is stored under its own identifier. -/
theorem Gathering.get_id (h : Gathering s root closure pending) (hkeyed : s.Keyed)
    {id : OperatorId} {r : Revision} (hr : closure.get? id = some r) : s.get r.id = .ok r := by
  obtain ⟨o, -, -, hget⟩ := h.held id r hr
  exact hkeyed.get_id hget

/-- Where no operators clash, the closure holds for each operator what the store holds for it. -/
theorem Gathering.get?_of_not_clashing (h : Gathering s root closure [])
    (hclash : ¬ s.Clashing root) {r : Revision} (hbelow : s.Below root r)
    (hr : closure.Supplies root r) {content : WorkflowContent}
    (hcontent : r.content = .workflow content) {o : Operator} (ho : o ∈ content.operators) :
    ∃ nested, closure.get? o.id = some nested ∧ s.get o.revision = .ok nested := by
  obtain ⟨nested, hnested⟩ := h.lists hr content hcontent o ho
  obtain ⟨o', ho', hid, hget⟩ := h.held o.id nested hnested
  have hsame : o'.revision = o.revision := by
    by_contra hne
    exact hclash ⟨o', o, ho', ⟨r, content, hbelow, hcontent, ho⟩, hid, hne⟩
  exact ⟨nested, hnested, hsame ▸ hget⟩

/-- Where no operators clash, nothing below the root is left out. -/
theorem Gathering.supplied (h : Gathering s root closure []) (hclash : ¬ s.Clashing root)
    {r : Revision} (hr : s.Below root r) : closure.Supplies root r := by
  induction hr with
  | refl => exact .inl rfl
  | @tail r nested hbelow hnests ih =>
      obtain ⟨content, o, hcontent, ho, hget⟩ := hnests
      obtain ⟨nested', hentry, hget'⟩ := h.get?_of_not_clashing hclash hbelow ih hcontent ho
      rw [hget, Except.ok.injEq] at hget'
      exact .inr ⟨o.id, hget' ▸ hentry⟩

end Gathering

/-! ## A collection that fails -/

section Failing

variable {s : RevisionStore} {root : Revision} {closure : Closure} {pending : List Revision}

theorem exists_of_collectOperators_eq_error {l : List Operator} {cause : ModelError}
    (h : s.collectOperators l (closure, pending) = .error cause) :
    ∃ o ∈ l, s.get o.revision = .error cause := by
  induction l generalizing closure pending with
  | nil => cases h
  | cons o rest ih =>
      rw [collectOperators] at h
      by_cases hold : closure.contains o.id
      · rw [if_pos hold] at h
        obtain ⟨o', ho', hget⟩ := ih h
        exact ⟨o', List.mem_cons_of_mem _ ho', hget⟩
      · rw [if_neg hold] at h
        cases hget : s.get o.revision with
        | error e =>
            rw [hget, Except.error.injEq] at h
            exact ⟨o, List.mem_cons_self, h ▸ hget⟩
        | ok nested =>
            rw [hget] at h
            obtain ⟨o', ho', hget'⟩ := ih h
            exact ⟨o', List.mem_cons_of_mem _ ho', hget'⟩

theorem Gathering.exists_of_collect_eq_error {fuel : Nat} (h : Gathering s root closure pending)
    {cause : ModelError} (hresult : s.collect fuel (closure, pending) = .error cause) :
    ∃ o, s.HasOperator root o ∧ s.get o.revision = .error cause := by
  induction fuel generalizing closure pending with
  | zero => cases pending <;> cases hresult
  | succ fuel ih =>
      cases pending with
      | nil => cases hresult
      | cons r rest =>
          rw [RevisionStore.collect] at hresult
          cases hfound : s.collectOperators ((r.workflow?.map (·.operators)).getD [])
              (closure, rest) with
          | error e =>
              rw [hfound, Except.error.injEq] at hresult
              obtain ⟨o, ho, hget⟩ := exists_of_collectOperators_eq_error hfound
              -- the operator that fails is one of the workflow that was taken
              cases hcontent : r.workflow? with
              | none =>
                  rw [hcontent] at ho
                  cases ho
              | some content =>
                  rw [hcontent] at ho
                  exact ⟨o, ⟨r, content, h.waiting r List.mem_cons_self,
                    Revision.workflow?_eq_some.1 hcontent, ho⟩, hresult ▸ hget⟩
          | ok found =>
              obtain ⟨closure₁, pending₁⟩ := found
              rw [hfound] at hresult
              exact ih (h.take hfound).1 hresult

/-- A collection fails over an operator below the root. -/
theorem exists_of_nestedClosure_eq_error {cause : ModelError}
    (h : s.nestedClosure root = .error cause) :
    ∃ o, s.HasOperator root o ∧ s.get o.revision = .error cause :=
  (gathering_start s root).exists_of_collect_eq_error h

end Failing

end RevisionStore

/-- The collection fails over an operator that references a revision that is not stored. -/
theorem MemoryStore.exists_missing {s : MemoryStore} {root : Revision} {cause : ModelError}
    (h : s.toStore.nestedClosure root = .error cause) :
    ∃ o, s.toStore.HasOperator root o ∧ cause = .notFound o.revision ∧
      ∀ nested, s.get o.revision ≠ .ok nested := by
  obtain ⟨o, ho, hget⟩ := RevisionStore.exists_of_nestedClosure_eq_error h
  exact ⟨o, ho, MemoryStore.get_eq_error_iff.1 hget⟩

end Dataflow
