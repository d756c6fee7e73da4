import Dataflow.Journal.Run
import Mathlib.Tactic

set_option autoImplicit false

/-! # The laws of runs

`Run.resume` and `Attempt.resume` carry a computation on from a journal, so that what it does
after another one can be said: `Run.resume_bind`, `Attempt.resume_bind_of_ok` and
`Attempt.resume_bind_of_error`.

A `Journal.Course` tells how a journal came about. Certain acts were performed on it, in the
order of a list, and between them nothing happened but log events and readings of the clock.
-/

namespace Dataflow

/-! ## Journals -/

namespace Journal

/-- The journal with one more entry. -/
def push (j : Journal) (e : Entry) : Journal := { j with entries := j.entries.push e }

/-- The journal with the entries of a traced computation. -/
def append (j : Journal) (l : List Entry) : Journal := { j with entries := j.entries ++ l }

/-- The journal after one more reading of the clock. -/
def tick (j : Journal) : Journal := { j with readings := j.readings + 1 }

end Journal

/-! ## Runs -/

variable {ε ε' α β ι κ : Type} {s : Supply} {j : Journal}

namespace Run

/-- The outcome and the journal of a run that carries on from a journal. -/
def resume (r : Run α) (s : Supply) (j : Journal) : α × Journal := (r.run s).run j

@[simp] theorem resume_pure (a : α) : (pure a : Run α).resume s j = (a, j) := rfl

/-- A run carries on from the journal that the one before it left. -/
theorem resume_bind (r : Run α) (f : α → Run β) :
    (r >>= f).resume s j = (f (r.resume s j).1).resume s (r.resume s j).2 := rfl

@[simp] theorem resume_now : Run.now.resume s j = (s.clock j.readings, j.tick) := rfl

@[simp] theorem resume_freshOperatorId :
    Run.freshOperatorId.resume s j =
      (s.operatorId j.operatorIds, { j with operatorIds := j.operatorIds + 1 }) := rfl

@[simp] theorem resume_freshId :
    Run.freshId.resume s j =
      (s.randomId j.randomIds, { j with randomIds := j.randomIds + 1 }) := rfl

@[simp] theorem resume_timingSince (first : Timestamp) :
    (Run.timingSince first).resume s j = (.between first (s.clock j.readings), j.tick) := rfl

end Run

/-! ## Attempts -/

namespace Attempt

/-- The outcome and the journal of an attempt that carries on from a journal. -/
def resume (a : Attempt ε α) (s : Supply) (j : Journal) : Except ε α × Journal :=
  Run.resume a.outcome s j

@[simp] theorem resume_pure (v : α) : (pure v : Attempt ε α).resume s j = (.ok v, j) := rfl

@[simp] theorem resume_throw (e : ε) : (throw e : Attempt ε α).resume s j = (.error e, j) := rfl

@[simp] theorem resume_ofExcept (r : Except ε α) : (ofExcept r).resume s j = (r, j) := rfl

@[simp] theorem resume_leave (e : Entry) :
    (leave e : Attempt ε Unit).resume s j = (.ok (), j.push e) := rfl

@[simp] theorem resume_log (e : Event) :
    (log e : Attempt ε Unit).resume s j = (.ok (), j.push (.event e)) := rfl

@[simp] theorem resume_ofTraced (t : Traced ε α) :
    (ofTraced t).resume s j = (t.result, j.append t.entries) := rfl

theorem resume_mapError (f : ε → ε') (a : Attempt ε α) :
    (a.mapError f).resume s j = ((a.resume s j).1.mapError f, (a.resume s j).2) := rfl

/-- An attempt carries on from the journal that the one before it left, if that one succeeded. -/
theorem resume_bind_of_ok {a : Attempt ε α} {v : α} {j' : Journal}
    (h : a.resume s j = (.ok v, j')) (f : α → Attempt ε β) :
    (a >>= f : Attempt ε β).resume s j = (f v).resume s j' := by
  show Run.resume (a.outcome >>= ExceptT.bindCont f) s j = _
  rw [Run.resume_bind, show Run.resume a.outcome s j = _ from h]
  rfl

/-- A failed attempt is the last one. -/
theorem resume_bind_of_error {a : Attempt ε α} {e : ε} {j' : Journal}
    (h : a.resume s j = (.error e, j')) (f : α → Attempt ε β) :
    (a >>= f : Attempt ε β).resume s j = (.error e, j') := by
  show Run.resume (a.outcome >>= ExceptT.bindCont f) s j = _
  rw [Run.resume_bind, show Run.resume a.outcome s j = _ from h]
  rfl

theorem resume_ofTraced_bind_of_ok {t : Traced ε α} {v : α} (h : t.result = .ok v)
    (f : α → Attempt ε β) :
    (ofTraced t >>= f : Attempt ε β).resume s j = (f v).resume s (j.append t.entries) :=
  resume_bind_of_ok (by rw [resume_ofTraced, h]) f

theorem resume_ofTraced_bind_of_error {t : Traced ε α} {e : ε} (h : t.result = .error e)
    (f : α → Attempt ε β) :
    (ofTraced t >>= f : Attempt ε β).resume s j = (.error e, j.append t.entries) :=
  resume_bind_of_error (by rw [resume_ofTraced, h]) f

/-- If an attempt after another succeeds, the other has, and left the journal to go on from. -/
theorem exists_of_resume_bind {a : Attempt ε α} {f : α → Attempt ε β} {b : β}
    (h : ((a >>= f : Attempt ε β).resume s j).1 = .ok b) :
    ∃ v j', a.resume s j = (.ok v, j') ∧
      (a >>= f : Attempt ε β).resume s j = (f v).resume s j' := by
  cases hfirst : a.resume s j with
  | mk outcome j' =>
      cases outcome with
      | ok v => exact ⟨v, j', rfl, resume_bind_of_ok hfirst f⟩
      | error e =>
          rw [resume_bind_of_error hfirst] at h
          cases h

/-- Attempts that go the same way from everywhere are the same. -/
theorem ext_resume {a b : Attempt ε α} (h : ∀ s j, a.resume s j = b.resume s j) : a = b :=
  funext fun s => funext fun j => h s j

/-- What follows an attempt matters only for the values that the attempt can have. -/
theorem bind_congr_of_ok {a : Attempt ε α} {f g : α → Attempt ε β}
    (h : ∀ s j v j', a.resume s j = (.ok v, j') → f v = g v) : a >>= f = a >>= g := by
  refine ext_resume fun s j => ?_
  cases hfirst : a.resume s j with
  | mk outcome j' =>
      cases outcome with
      | error e => rw [resume_bind_of_error hfirst, resume_bind_of_error hfirst]
      | ok v => rw [resume_bind_of_ok hfirst, resume_bind_of_ok hfirst, h s j v j' hfirst]

/-- Steps that cannot fail go on to what follows them. -/
@[simp] theorem resume_ofRun_bind (r : Run α) (f : α → Attempt ε β) :
    (ofRun r >>= f : Attempt ε β).resume s j = (f (r.resume s j).1).resume s (r.resume s j).2 :=
  rfl

@[simp] theorem resume_log_bind (e : Event) (f : Unit → Attempt ε β) :
    (log e >>= f : Attempt ε β).resume s j = (f ()).resume s (j.push (.event e)) := rfl

@[simp] theorem resume_leave_bind (e : Entry) (f : Unit → Attempt ε β) :
    (leave e >>= f : Attempt ε β).resume s j = (f ()).resume s (j.push e) := rfl

/-- Log events for all elements of a list. -/
theorem resume_forM_log_bind (event : α → Event) (l : List α) (f : Unit → Attempt ε β) :
    ((l.forM fun x => log (event x)) >>= f : Attempt ε β).resume s j =
      (f ()).resume s (l.foldl (fun j x => j.push (.event (event x))) j) := by
  induction l generalizing j with
  | nil => rfl
  | cons x rest ih => exact ih

end Attempt

/-! ## Courses -/

namespace Journal

/-- How a journal came about from an earlier one: by acts in the order of a list, with log
events and readings of the clock before, between and after them. -/
inductive Course (act : ι → Journal → Journal) : List ι → Journal → Journal → Prop
  | here (j : Journal) : Course act [] j j
  | reading {l : List ι} {j j' : Journal} (h : Course act l j.tick j') : Course act l j j'
  | event {l : List ι} {j j' : Journal} (e : Event) (h : Course act l (j.push (.event e)) j') :
      Course act l j j'
  | acts {l : List ι} {j j' : Journal} (i : ι) (h : Course act l (act i j) j') :
      Course act (i :: l) j j'

variable {act : ι → Journal → Journal} {l l' : List ι} {j j' j'' : Journal}

theorem Course.of_act (i : ι) : Course act [i] j (act i j) := .acts i (.here _)

theorem Course.append (h : Course act l j j') (h' : Course act l' j' j'') :
    Course act (l ++ l') j j'' := by
  induction h with
  | here _ => exact h'
  | reading _ ih => exact .reading (ih h')
  | event e _ ih => exact .event e (ih h')
  | acts i _ ih => exact .acts i (ih h')

theorem Course.then_reading (h : Course act l j j') : Course act l j j'.tick := by
  simpa using h.append (.reading (.here _))

theorem Course.then_event (h : Course act l j j') (e : Event) :
    Course act l j (j'.push (.event e)) := by
  simpa using h.append (.event e (.here _))

theorem Course.then_events (h : Course act l j j') (event : α → Event) (xs : List α) :
    Course act l j (xs.foldl (fun j x => j.push (.event (event x))) j') := by
  induction xs generalizing j' with
  | nil => exact h
  | cons x rest ih => exact ih (h.then_event (event x))

/-- A course whose acts are courses of smaller acts. -/
theorem Course.flatMap {σ : Type} {f : σ → ι} {xs : List σ} {act' : κ → Journal → Journal}
    {own : σ → List κ} (h : Course act (xs.map f) j j')
    (hown : ∀ x ∈ xs, ∀ j, Course act' (own x) j (act (f x) j)) :
    Course act' (xs.flatMap own) j j' := by
  -- the induction is on the course, and the list only follows it
  generalize hl : xs.map f = l at h
  induction h generalizing xs with
  | here j =>
      obtain rfl := List.map_eq_nil_iff.1 hl
      exact .here j
  | reading _ ih => exact .reading (ih hown hl)
  | event e _ ih => exact .event e (ih hown hl)
  | acts i _ ih =>
      obtain ⟨x, rest, rfl, rfl, rfl⟩ := List.map_eq_cons_iff.1 hl
      rw [List.flatMap_cons]
      have hx := hown x List.mem_cons_self
      exact (hx _).append (ih (fun x hx => hown x (List.mem_cons_of_mem _ hx)) rfl)

end Journal

end Dataflow
