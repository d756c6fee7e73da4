import Dataflow.Proofs.Journal.BodyCalls

set_option autoImplicit false

/-! # What computations leave

A computation adds entries to a journal and takes none away. `Traced.Leaves` and `Attempt.Leaves`
say that a condition holds of each entry that is added, wherever the computation begins and
however it ends. One computation after another leaves what each of them leaves, so that a fact
about the entries of a whole run is put together from facts about its steps.
-/

namespace Dataflow

variable {ε ε' α β ι : Type} {P : Entry → Prop}

/-! ## Traced computations -/

namespace Traced

/-- A condition holds of each entry that a computation leaves. -/
def Leaves (P : Entry → Prop) (t : Traced ε α) : Prop := ∀ entry ∈ t.entries, P entry

theorem leaves_pure (a : α) : (pure a : Traced ε α).Leaves P := fun _ h => nomatch h

theorem leaves_fail (e : ε) : (fail e : Traced ε α).Leaves P := fun _ h => nomatch h

theorem leaves_ofExcept (r : Except ε α) : (ofExcept r).Leaves P := fun _ h => nomatch h

theorem leaves_leave {entry : Entry} (h : P entry) : (leave entry : Traced ε Unit).Leaves P := by
  intro entry' hentry
  rwa [List.mem_singleton.1 hentry]

theorem leaves_log {e : Event} (h : P (.event e)) : (log e : Traced ε Unit).Leaves P :=
  leaves_leave h

theorem Leaves.mapError {t : Traced ε α} (h : t.Leaves P) (f : ε → ε') :
    (t.mapError f).Leaves P := h

theorem Leaves.bind {t : Traced ε α} {f : α → Traced ε β} (h : t.Leaves P)
    (hf : ∀ a, t.result = .ok a → (f a).Leaves P) : (t >>= f).Leaves P := by
  cases hresult : t.result with
  | ok a =>
      rw [Leaves, bind_of_ok hresult]
      intro entry hentry
      rcases List.mem_append.1 hentry with hentry | hentry
      · exact h entry hentry
      · exact hf a hresult entry hentry
  | error e =>
      rw [Leaves, bind_of_error hresult]
      exact h

/-- What leaves no call of a body calls none. -/
theorem Leaves.silent {t : Traced ε α} (h : t.Leaves fun entry => entry.bodyCall? = none) :
    t.Silent :=
  List.filterMap_eq_nil_iff.2 h

end Traced

/-! ## Journals -/

namespace Journal

/-- A journal came of another one by adding entries of which a condition holds. -/
def Grows (P : Entry → Prop) (j j' : Journal) : Prop :=
  ∃ l : List Entry, j'.entries = j.entries ++ l ∧ ∀ entry ∈ l, P entry

theorem Grows.refl (j : Journal) : j.Grows P j := ⟨[], by simp, fun _ h => nomatch h⟩

theorem Grows.trans {j j' j'' : Journal} (h : j.Grows P j') (h' : j'.Grows P j'') :
    j.Grows P j'' := by
  obtain ⟨l, hl, hP⟩ := h
  obtain ⟨l', hl', hP'⟩ := h'
  refine ⟨l ++ l', Array.ext' ?_, fun entry hentry => ?_⟩
  · rw [hl', hl]
    simp
  · rcases List.mem_append.1 hentry with hentry | hentry
    · exact hP entry hentry
    · exact hP' entry hentry

theorem grows_tick (j : Journal) : j.Grows P j.tick := Grows.refl (P := P) j

theorem grows_append (j : Journal) {l : List Entry} (h : ∀ entry ∈ l, P entry) :
    j.Grows P (j.append l) := ⟨l, rfl, h⟩

theorem grows_push (j : Journal) {entry : Entry} (h : P entry) : j.Grows P (j.push entry) := by
  refine ⟨[entry], by simp [push], fun entry' hentry => ?_⟩
  rwa [List.mem_singleton.1 hentry]

/-- A course leaves what its acts leave, and log events. -/
theorem Course.grows {act : ι → Journal → Journal} {l : List ι} {j j' : Journal}
    (h : Course act l j j') (hevent : ∀ e, P (.event e))
    (hact : ∀ i ∈ l, ∀ j : Journal, j.Grows P (act i j)) : j.Grows P j' := by
  induction h with
  | here j => exact .refl j
  | reading _ ih => exact (grows_tick _).trans (ih hact)
  | event e _ ih => exact (grows_push _ (hevent e)).trans (ih hact)
  | acts i _ ih =>
      have hfirst := hact i List.mem_cons_self
      exact (hfirst _).trans (ih fun i hi => hact i (List.mem_cons_of_mem _ hi))

/-- Log events are a course without acts. -/
theorem course_append {act : ι → Journal → Journal} {l : List Entry}
    (h : ∀ entry ∈ l, ∃ e, entry = .event e) (j : Journal) : Course act [] j (j.append l) := by
  induction l generalizing j with
  | nil =>
      have hsame : j.append [] = j := by simp [append]
      rw [hsame]
      exact .here j
  | cons entry rest ih =>
      obtain ⟨e, rfl⟩ := h _ List.mem_cons_self
      have hrest := ih (fun entry hentry => h entry (List.mem_cons_of_mem _ hentry))
        (j.push (.event e))
      have hsame : (j.push (.event e)).append rest = j.append (.event e :: rest) := by
        simp [append, push]
      rw [hsame] at hrest
      exact .event e hrest

end Journal

/-! ## Attempts -/

namespace Attempt

/-- A condition holds of each entry that an attempt leaves, in any surroundings and behind any
journal. -/
def Leaves (P : Entry → Prop) (a : Attempt ε α) : Prop :=
  ∀ s (j : Journal), j.Grows P (a.resume s j).2

/-- What an attempt leaves that carries on from nothing is all that there is. -/
theorem Leaves.of_mem {a : Attempt ε α} (h : a.Leaves P) {s : Supply} {entry : Entry}
    (hentry : entry ∈ (a.resume s .empty).2.entries) : P entry := by
  obtain ⟨l, hentries, hl⟩ := h s .empty
  rw [hentries] at hentry
  exact hl entry (by simpa [Journal.empty] using hentry)

theorem leaves_pure (v : α) : (pure v : Attempt ε α).Leaves P := fun _ j => .refl j

theorem leaves_throw (e : ε) : (throw e : Attempt ε α).Leaves P := fun _ j => .refl j

theorem leaves_ofExcept (r : Except ε α) : (ofExcept r).Leaves P := fun _ j => .refl j

theorem leaves_leave {entry : Entry} (h : P entry) : (leave entry : Attempt ε Unit).Leaves P :=
  fun _ j => Journal.grows_push j h

theorem leaves_log {e : Event} (h : P (.event e)) : (log e : Attempt ε Unit).Leaves P :=
  leaves_leave h

theorem leaves_ofTraced {t : Traced ε α} (h : t.Leaves P) : (ofTraced t).Leaves P :=
  fun _ j => Journal.grows_append j h

theorem leaves_now : (ofRun Run.now : Attempt ε Timestamp).Leaves P := fun _ j => j.grows_tick

theorem leaves_timingSince (first : Timestamp) :
    (ofRun (Run.timingSince first) : Attempt ε Timing).Leaves P := fun _ j => j.grows_tick

theorem leaves_freshOperatorId : (ofRun Run.freshOperatorId : Attempt ε OperatorId).Leaves P :=
  fun _ j => .refl j

theorem leaves_freshId : (ofRun Run.freshId : Attempt ε Uuid).Leaves P := fun _ j => .refl j

theorem Leaves.mapError {a : Attempt ε α} (h : a.Leaves P) (f : ε → ε') :
    (a.mapError f).Leaves P := h

theorem Leaves.outcome {a : Attempt ε α} (h : a.Leaves P) :
    (ofRun a.outcome : Attempt ε' (Except ε α)).Leaves P := h

theorem Leaves.bind {a : Attempt ε α} {f : α → Attempt ε β} (h : a.Leaves P)
    (hf : ∀ s j v j', a.resume s j = (.ok v, j') → (f v).Leaves P) :
    (a >>= f : Attempt ε β).Leaves P := by
  intro s j
  have hfirst := h s j
  generalize hresume : a.resume s j = r at hfirst
  obtain ⟨r, j'⟩ := r
  cases r with
  | ok v =>
      rw [resume_bind_of_ok hresume]
      exact hfirst.trans (hf s j v j' hresume s j')
  | error e =>
      rw [resume_bind_of_error hresume]
      exact hfirst

end Attempt

end Dataflow
