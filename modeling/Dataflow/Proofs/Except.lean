import Mathlib.Tactic

set_option autoImplicit false

/-! # Results that may be failures

A list of steps that may fail succeeds if each of them does, and fails with the failure of one
of them. A failure may also be the absence of a value.
-/

namespace Dataflow

variable {ε ε' α β : Type}

/-- Rewording the failures of a result does not make or unmake a success. -/
theorem mapError_eq_ok {f : ε → ε'} {r : Except ε α} {a : α} :
    r.mapError f = .ok a ↔ r = .ok a := by
  cases r <;> simp [Except.mapError]

/-- A success is reworded by one function and a failure by another. -/
theorem mapError_map_eq_ok {f : α → β} {g : ε → ε'} {r : Except ε α} {b : β} :
    (r.map f).mapError g = .ok b ↔ ∃ a, r = .ok a ∧ f a = b := by
  cases r <;> simp [Except.map, Except.mapError]

theorem mapError_map_eq_error {f : α → β} {g : ε → ε'} {r : Except ε α} {e' : ε'} :
    (r.map f).mapError g = .error e' ↔ ∃ e, r = .error e ∧ g e = e' := by
  cases r <;> simp [Except.map, Except.mapError]

theorem toOption_eq_some_iff {r : Except ε α} {a : α} : r.toOption = some a ↔ r = .ok a := by
  cases r <;> simp [Except.toOption]

theorem toOption_mapError (f : ε → ε') (r : Except ε α) :
    (r.mapError f).toOption = r.toOption := by
  cases r <;> rfl

theorem toOption_bind (r : Except ε α) (f : α → Except ε β) :
    (r >>= f).toOption = r.toOption.bind fun a => (f a).toOption := by
  cases r <;> rfl

theorem bind_eq_ok {r : Except ε α} {f : α → Except ε β} {b : β} :
    r >>= f = .ok b ↔ ∃ a, r = .ok a ∧ f a = .ok b := by
  cases r <;> simp [bind, Except.bind]

theorem bind_eq_error {r : Except ε α} {f : α → Except ε β} {e : ε} :
    r >>= f = .error e ↔ r = .error e ∨ ∃ a, r = .ok a ∧ f a = .error e := by
  cases r <;> simp [bind, Except.bind]

/-- What holds of the value of a success. -/
theorem exists_ok_iff {p : α → Prop} {a : α} :
    (∃ a', (.ok a : Except ε α) = .ok a' ∧ p a') ↔ p a := by
  simp

theorem mapM_cons_ok {f : α → Except ε β} {a : α} {b : β} (h : f a = .ok b) (l : List α) :
    (a :: l).mapM f = (l.mapM f).map (b :: ·) := by
  rw [List.mapM_cons, h]
  show (do let bs ← l.mapM f; pure (b :: bs)) = _
  cases l.mapM f <;> rfl

theorem mapM_cons_error {f : α → Except ε β} {a : α} {e : ε} (h : f a = .error e) (l : List α) :
    (a :: l).mapM f = .error e := by
  rw [List.mapM_cons, h]
  rfl

/-- A list that goes with another one has a partner for each of its elements. -/
theorem exists_of_forall₂ {r : α → β → Prop} {l : List α} {ys : List β}
    (h : List.Forall₂ r l ys) : (∀ a ∈ l, ∃ b ∈ ys, r a b) ∧ ∀ b ∈ ys, ∃ a ∈ l, r a b := by
  induction h with
  | nil => simp
  | cons hab _ ih =>
      refine ⟨fun a ha => ?_, fun b hb => ?_⟩
      · rcases List.mem_cons.1 ha with rfl | ha
        · exact ⟨_, List.mem_cons_self, hab⟩
        · obtain ⟨b, hb, hr⟩ := ih.1 a ha
          exact ⟨b, List.mem_cons_of_mem _ hb, hr⟩
      · rcases List.mem_cons.1 hb with rfl | hb
        · exact ⟨_, List.mem_cons_self, hab⟩
        · obtain ⟨a, ha, hr⟩ := ih.2 b hb
          exact ⟨a, List.mem_cons_of_mem _ ha, hr⟩

/-- **A list of steps succeeds with the list of their results.** -/
theorem mapM_eq_ok_iff {f : α → Except ε β} {l : List α} {ys : List β} :
    l.mapM f = .ok ys ↔ List.Forall₂ (fun a b => f a = .ok b) l ys := by
  induction l generalizing ys with
  | nil =>
      rw [List.mapM_nil, List.forall₂_nil_left_iff]
      show Except.ok [] = Except.ok ys ↔ ys = []
      rw [Except.ok.injEq, eq_comm]
  | cons a rest ih =>
      rw [List.forall₂_cons_left_iff]
      constructor
      · intro h
        cases ha : f a with
        | error e =>
            rw [mapM_cons_error ha] at h
            cases h
        | ok b =>
            rw [mapM_cons_ok ha] at h
            cases hrest : rest.mapM f with
            | error e =>
                rw [hrest] at h
                cases h
            | ok bs =>
                rw [hrest] at h
                exact ⟨b, bs, rfl, ih.1 hrest, (Except.ok.inj h).symm⟩
      · rintro ⟨b, bs, hb, hbs, rfl⟩
        rw [mapM_cons_ok hb, ih.2 hbs]
        rfl

/-- The same where a failure is the absence of a value. -/
theorem mapM_eq_some_iff {f : α → Option β} {l : List α} {ys : List β} :
    l.mapM f = some ys ↔ List.Forall₂ (fun a b => f a = some b) l ys := by
  induction l generalizing ys with
  | nil =>
      rw [List.mapM_nil, List.forall₂_nil_left_iff]
      exact Option.some_inj.trans eq_comm
  | cons a rest ih =>
      rw [List.mapM_cons, List.forall₂_cons_left_iff, Option.bind_eq_bind,
        Option.bind_eq_some_iff]
      constructor
      · rintro ⟨b, hb, h⟩
        obtain ⟨bs, hbs, h⟩ := Option.bind_eq_some_iff.1 h
        exact ⟨b, bs, hb, ih.1 hbs, (Option.some.inj h).symm⟩
      · rintro ⟨b, bs, hb, hbs, rfl⟩
        exact ⟨b, hb, Option.bind_eq_some_iff.2 ⟨bs, ih.2 hbs, rfl⟩⟩

/-- **A list of steps fails with the first failure**, after steps that have all succeeded. -/
theorem mapM_eq_error_iff {f : α → Except ε β} {l : List α} {e : ε} :
    l.mapM f = .error e ↔ ∃ before a after, l = before ++ a :: after ∧
      (∀ a' ∈ before, ∃ b, f a' = .ok b) ∧ f a = .error e := by
  induction l with
  | nil =>
      constructor
      · intro h
        cases h
      · rintro ⟨before, a, after, hl, -⟩
        cases before <;> cases hl
  | cons a rest ih =>
      constructor
      · intro h
        cases ha : f a with
        | error e' =>
            rw [mapM_cons_error ha, Except.error.injEq] at h
            exact ⟨[], a, rest, rfl, fun a' ha' => absurd ha' List.not_mem_nil, h ▸ ha⟩
        | ok b =>
            rw [mapM_cons_ok ha] at h
            cases hrest : rest.mapM f with
            | ok bs =>
                rw [hrest] at h
                cases h
            | error e' =>
                rw [hrest] at h
                cases h
                obtain ⟨before, a', after, hl, hbefore, hfail⟩ := ih.1 hrest
                exact ⟨a :: before, a', after, by rw [hl, List.cons_append],
                  List.forall_mem_cons.2 ⟨⟨b, ha⟩, hbefore⟩, hfail⟩
      · rintro ⟨before, a', after, hl, hbefore, hfail⟩
        cases before with
        | nil =>
            cases hl
            exact mapM_cons_error hfail rest
        | cons a'' before =>
            cases hl
            obtain ⟨⟨b, hb⟩, hbefore⟩ := List.forall_mem_cons.1 hbefore
            rw [mapM_cons_ok hb, ih.2 ⟨before, a', after, rfl, hbefore, hfail⟩]
            rfl

theorem mapM_eq_error {f : α → Except ε β} {l : List α} {e : ε} (h : l.mapM f = .error e) :
    ∃ a ∈ l, f a = .error e := by
  obtain ⟨before, a, after, rfl, -, hfail⟩ := mapM_eq_error_iff.1 h
  exact ⟨a, List.mem_append_right before List.mem_cons_self, hfail⟩

theorem exists_mapM_eq_error {f : α → Except ε β} {l : List α} {a : α} {e : ε} (ha : a ∈ l)
    (h : f a = .error e) : ∃ e', l.mapM f = .error e' := by
  cases hm : l.mapM f with
  | error e' => exact ⟨e', rfl⟩
  | ok ys =>
      obtain ⟨b, -, hb⟩ := (exists_of_forall₂ (mapM_eq_ok_iff.1 hm)).1 a ha
      rw [h] at hb
      cases hb

end Dataflow
