import Dataflow.Proofs.Adapter.Fanout

set_option autoImplicit false

/-! # Fan-outs over steady units

A steady attempt answers for itself: whether it succeeds, and with which value, does not depend
on where it is made, and its failure depends on nothing but the identities that are given out
next (`Attempt.Steady`). A fan-out over steady units is `Pointwise`: it succeeds if each unit
does when it is made alone, and fails with the failures that its units have when they are made
alone. This is shown once for all fan-outs that settle the outcomes of their units
(`pointwise_of_settled`); the order of the units does not matter (`Pointwise.reordered`).

The entries of a wiring are steady if the adapters are (`Adapters.steady_serve`).
-/

namespace Dataflow

variable {ε α : Type}

/-- Two journals are about to give out the same identities. -/
structure Journal.SameAhead (s : Supply) (j : Journal) (s' : Supply) (j' : Journal) : Prop where
  operatorId : ∀ n, s.operatorId (j.operatorIds + n) = s'.operatorId (j'.operatorIds + n)
  randomId : ∀ n, s.randomId (j.randomIds + n) = s'.randomId (j'.randomIds + n)

/-! ## Steady attempts -/

namespace Attempt

/-- The attempt yields a value wherever it is made. -/
def Yields (a : Attempt ε α) (v : α) : Prop := ∀ s j, (a.resume s j).1 = .ok v

/-- The attempt fails wherever it is made. -/
def Fails (a : Attempt ε α) : Prop := ∀ s j, ∃ e, (a.resume s j).1 = .error e

/-- The outcome of an attempt depends on the attempt only, up to generated identities. -/
structure Steady (a : Attempt ε α) : Prop where
  /-- Whether there is a value, and which, is the same everywhere. -/
  value : ∀ s j s' j', (a.resume s j).1.toOption = (a.resume s' j').1.toOption
  /-- A failure depends on the identities that are given out next. -/
  failure : ∀ s j s' j', Journal.SameAhead s j s' j' → (a.resume s j).1 = (a.resume s' j').1

variable {a : Attempt ε α} {s : Supply} {j : Journal}

/-- An attempt that ends the same everywhere is steady. -/
theorem steady_of_constant {r : Except ε α} (h : ∀ s j, (a.resume s j).1 = r) : a.Steady :=
  ⟨fun s j s' j' => by rw [h, h], fun s j s' j' _ => by rw [h, h]⟩

theorem Steady.yields_of_ok (h : a.Steady) {v : α} (hv : (a.resume s j).1 = .ok v) :
    a.Yields v := by
  intro s' j'
  have hvalue := h.value s' j' s j
  rw [hv] at hvalue
  cases hr : (a.resume s' j').1 with
  | ok v' =>
      rw [hr] at hvalue
      exact congrArg Except.ok (Option.some.inj hvalue)
  | error e =>
      rw [hr] at hvalue
      cases hvalue

theorem Steady.fails_of_error (h : a.Steady) {e : ε} (he : (a.resume s j).1 = .error e) :
    a.Fails := by
  intro s' j'
  have hvalue := h.value s' j' s j
  rw [he] at hvalue
  cases hr : (a.resume s' j').1 with
  | ok v =>
      rw [hr] at hvalue
      cases hvalue
  | error e' => exact ⟨e', rfl⟩

/-- A change of the outcome that keeps failures failures and looks at values only. -/
theorem Steady.map {β ε' : Type} {b : Attempt ε' β} {f : Except ε α → Except ε' β}
    {g : Journal → Journal} (h : a.Steady)
    (hb : ∀ s j, (b.resume s j).1 = f (a.resume s (g j)).1)
    (hahead : ∀ s j s' j', Journal.SameAhead s j s' j' →
      Journal.SameAhead s (g j) s' (g j'))
    (hf : ∀ r r', r.toOption = r'.toOption → (f r).toOption = (f r').toOption) : b.Steady where
  value s j s' j' := by
    rw [hb, hb]
    exact hf _ _ (h.value s (g j) s' (g j'))
  failure s j s' j' hsame := by
    rw [hb, hb, h.failure _ _ _ _ (hahead s j s' j' hsame)]

end Attempt

/-! ## Pointwise fan-outs -/

/-- A fan-out runs every unit, and ends as its units do when they are made alone. -/
structure Pointwise (direction : Direction) (units : List Work)
    (fanOut : Attempt AdapterError α) : Prop where
  /-- Every unit is run once, whatever becomes of the others. -/
  ran : ∀ s j, Journal.Course (Work.perform s) units j (fanOut.resume s j).2
  /-- The fan-out succeeds if every unit does alone. -/
  ok_iff : ∀ s j, (∃ v, (fanOut.resume s j).1 = .ok v) ↔ ∀ u ∈ units, ∃ v, u.2.Yields v
  /-- An error gathers failures. -/
  gathered : ∀ s j error, (fanOut.resume s j).1 = .error error →
    error = .gathered direction error.failures
  /-- They are those of the units that fail alone. -/
  failed_iff : ∀ s j error, (fanOut.resume s j).1 = .error error →
    ∀ name, (∃ f, error.failures.get? name = some f) ↔ ∃ u ∈ units, u.1 = name ∧ u.2.Fails
  /-- The failure of a unit is the one it has alone where the same identities are given out as
  in its turn. -/
  failure : ∀ s j error, (fanOut.resume s j).1 = .error error →
    ∀ l u l' f, units = l ++ u :: l' → error.failures.get? u.1 = some f →
      ∀ s' j', Journal.SameAhead s (Work.after s j l) s' j' → (u.2.resume s' j').1 = .error f

/-- The values of a fan-out are those that its units yield alone, one for each. -/
def ValuesPointwise (units : List Work) (fanOut : Attempt AdapterError Values) : Prop :=
  ∀ s j values, (fanOut.resume s j).1 = .ok values →
    ∀ name v, values.get? name = some v ↔ ∃ u ∈ units, u.1 = name ∧ u.2.Yields v

namespace Work

variable {units : List Work} {s : Supply} {j : Journal}

theorem nodup_outcomes (hnames : (units.map (·.1)).Nodup) :
    ((outcomes s j units).map (·.1)).Nodup := by
  rw [map_fst_outcomes]
  exact hnames

/-- Nothing failed in a fan-out of steady units if each of them yields a value. -/
theorem failed_outcomes_eq_nil_iff (hsteady : ∀ u ∈ units, u.2.Steady) :
    (outcomes s j units).failed = [] ↔ ∀ u ∈ units, ∃ v, u.2.Yields v := by
  rw [Outcomes.failed_eq_nil_iff]
  constructor
  · intro h u hu
    obtain ⟨l, l', hl⟩ := List.append_of_mem hu
    obtain ⟨v, hv⟩ := h _ (mem_outcomes_iff.2 ⟨l, u, l', hl, rfl⟩)
    exact ⟨v, (hsteady u hu).yields_of_ok hv⟩
  · intro h o ho
    obtain ⟨l, u, l', rfl, rfl⟩ := mem_outcomes_iff.1 ho
    obtain ⟨v, hv⟩ := h u (List.mem_append_right _ List.mem_cons_self)
    exact ⟨v, hv s _⟩

/-- The outcomes under a name are those of the units of that name in their turns. -/
theorem mem_outcomes_name_iff {name : String} {r : Except BindingFailure Json} :
    (name, r) ∈ outcomes s j units ↔
      ∃ l u l', units = l ++ u :: l' ∧ u.1 = name ∧ (u.2.resume s (after s j l)).1 = r := by
  rw [mem_outcomes_iff]
  constructor
  · rintro ⟨l, u, l', hl, hu⟩
    obtain ⟨rfl, rfl⟩ := Prod.mk.inj hu
    exact ⟨l, u, l', hl, rfl, rfl⟩
  · rintro ⟨l, u, l', hl, rfl, rfl⟩
    exact ⟨l, u, l', hl, rfl⟩

section Names

variable (hnames : (units.map (·.1)).Nodup)
include hnames

/-- The failure under the name of a unit is its own. -/
theorem failure_of_split {l l' : List Work} {u : Work} (hl : units = l ++ u :: l')
    {f : BindingFailure} (hf : (outcomes s j units).failures.get? u.1 = some f) :
    (u.2.resume s (after s j l)).1 = .error f := by
  rw [Outcomes.get?_failures_eq_some_iff (nodup_outcomes hnames)] at hf
  -- another unit before it could fail in its place only under the same name
  have hown := mem_outcomes_iff (s := s) (j := j).2 ⟨l, u, l', hl, rfl⟩
  have heq := List.inj_on_of_nodup_map (nodup_outcomes hnames) hf hown rfl
  exact (Prod.mk.inj heq).2.symm

variable (hsteady : ∀ u ∈ units, u.2.Steady)
include hsteady

/-- The names of the failures are those of the units that fail. -/
theorem exists_failure_iff {name : String} :
    (∃ f, (outcomes s j units).failures.get? name = some f) ↔
      ∃ u ∈ units, u.1 = name ∧ u.2.Fails := by
  simp only [Outcomes.get?_failures_eq_some_iff (nodup_outcomes hnames), mem_outcomes_name_iff]
  constructor
  · rintro ⟨f, l, u, l', rfl, hname, hf⟩
    have hmem : u ∈ l ++ u :: l' := List.mem_append_right _ List.mem_cons_self
    exact ⟨u, hmem, hname, (hsteady u hmem).fails_of_error hf⟩
  · rintro ⟨u, hu, hname, hfails⟩
    obtain ⟨l, l', hl⟩ := List.append_of_mem hu
    obtain ⟨f, hf⟩ := hfails s (after s j l)
    exact ⟨f, l, u, l', hl, hname, hf⟩

/-- The values are those that the units yield. -/
theorem get?_values_iff_yields {name : String} {v : Json} :
    (outcomes s j units).values.get? name = some v ↔
      ∃ u ∈ units, u.1 = name ∧ u.2.Yields v := by
  rw [Outcomes.get?_values_eq_some_iff (nodup_outcomes hnames), mem_outcomes_name_iff]
  constructor
  · rintro ⟨l, u, l', rfl, hname, hv⟩
    have hmem : u ∈ l ++ u :: l' := List.mem_append_right _ List.mem_cons_self
    exact ⟨u, hmem, hname, (hsteady u hmem).yields_of_ok hv⟩
  · rintro ⟨u, hu, hname, hyields⟩
    obtain ⟨l, l', hl⟩ := List.append_of_mem hu
    exact ⟨l, u, l', hl, hname, hyields s (after s j l)⟩

end Names

end Work

variable {units : List Work} {direction : Direction} {fanOut : Attempt AdapterError α}

/-- **A fan-out that settles the outcomes of steady units is pointwise.** -/
theorem pointwise_of_settled (hnames : (units.map (·.1)).Nodup)
    (hsteady : ∀ u ∈ units, u.2.Steady) (result : Values → α)
    (h : ∀ s j, ∃ j', fanOut.resume s j =
        (((Work.outcomes s j units).settled direction).map result, j') ∧
      Journal.Course (Work.perform s) units j j') : Pointwise direction units fanOut := by
  have houtcome : ∀ s j, (fanOut.resume s j).1 =
      ((Work.outcomes s j units).settled direction).map result := by
    intro s j
    obtain ⟨j', hresume, -⟩ := h s j
    rw [hresume]
  have hgathered : ∀ s j error, (fanOut.resume s j).1 = .error error →
      error = .gathered direction (Work.outcomes s j units).failures := fun s j error he =>
    Outcomes.eq_gathered_of_map_settled (houtcome s j ▸ he)
  refine ⟨?_, ?_, ?_, ?_, ?_⟩
  · intro s j
    obtain ⟨j', hresume, hcourse⟩ := h s j
    rw [hresume]
    exact hcourse
  · intro s j
    rw [houtcome, Outcomes.exists_map_settled_iff, Work.failed_outcomes_eq_nil_iff hsteady]
  · intro s j error he
    rw [hgathered s j error he, Outcomes.failures_gathered]
  · intro s j error he name
    rw [hgathered s j error he, Outcomes.failures_gathered]
    exact Work.exists_failure_iff hnames hsteady
  · intro s j error he l u l' f hl hf s' j' hsame
    rw [hgathered s j error he, Outcomes.failures_gathered] at hf
    have hmem : u ∈ units := hl ▸ List.mem_append_right _ List.mem_cons_self
    rw [← (hsteady u hmem).failure _ _ _ _ hsame]
    exact Work.failure_of_split hnames hl hf

/-- A fan-out that returns the values of the outcomes of steady units returns the value that each
yields alone. -/
theorem valuesPointwise_of_settled (direction : Direction) {fanOut : Attempt AdapterError Values}
    (hnames : (units.map (·.1)).Nodup) (hsteady : ∀ u ∈ units, u.2.Steady)
    (h : ∀ s j, (fanOut.resume s j).1 = (Work.outcomes s j units).settled direction) :
    ValuesPointwise units fanOut := by
  intro s j values hvalues name v
  rw [h] at hvalues
  rw [Outcomes.eq_values_of_settled hvalues]
  exact Work.get?_values_iff_yields hnames hsteady

/-- How two orders of a fan-out agree: on the values, on the bindings that fail, and on the failure
of a unit in whose turns the same identities are given out. -/
structure Agreeing (units units' : List Work) (s : Supply) (j : Journal) (s' : Supply)
    (j' : Journal) (r r' : Except AdapterError α) : Prop where
  value : r'.toOption = r.toOption
  failed_iff : ∀ error error', r = .error error → r' = .error error' →
    ∀ name, (∃ f, error'.failures.get? name = some f) ↔ ∃ f, error.failures.get? name = some f
  failure : ∀ error error', r = .error error → r' = .error error' →
    ∀ l u l' m m' f f', units = l ++ u :: l' → units' = m ++ u :: m' →
      Journal.SameAhead s (Work.after s j l) s' (Work.after s' j' m) →
      error.failures.get? u.1 = some f → error'.failures.get? u.1 = some f' → f' = f

/-- The order of the units does not matter. -/
theorem Pointwise.reordered {units' : List Work} {fanOut' : Attempt AdapterError α}
    (h : Pointwise direction units fanOut) (h' : Pointwise direction units' fanOut')
    (hperm : units'.Perm units)
    (hvalue : ∀ s j s' j' v v', (fanOut.resume s j).1 = .ok v → (fanOut'.resume s' j').1 = .ok v' →
      v' = v) (s : Supply) (j : Journal) (s' : Supply) (j' : Journal) :
    Agreeing units units' s j s' j' (fanOut.resume s j).1 (fanOut'.resume s' j').1 := by
  have hok : (∃ v, (fanOut'.resume s' j').1 = .ok v) ↔ ∃ v, (fanOut.resume s j).1 = .ok v := by
    rw [h.ok_iff, h'.ok_iff]
    exact forall_congr' fun u => imp_congr_left hperm.mem_iff
  refine ⟨?_, ?_, ?_⟩
  · cases hr : (fanOut.resume s j).1 with
    | ok v =>
        obtain ⟨v', hv'⟩ := hok.2 ⟨v, hr⟩
        rw [hv', hvalue s j s' j' v v' hr hv']
    | error error =>
        cases hr' : (fanOut'.resume s' j').1 with
        | error error' => rfl
        | ok v' =>
            obtain ⟨v, hv⟩ := hok.1 ⟨v', hr'⟩
            rw [hr] at hv
            cases hv
  · intro error error' he he' name
    rw [h.failed_iff s j error he, h'.failed_iff s' j' error' he']
    exact exists_congr fun u => and_congr_left' hperm.mem_iff
  · intro error error' he he' l u l' m m' f f' hl hm hsame hf hf'
    have hfirst := h.failure s j error he l u l' f hl hf _ _ hsame
    have hself : Journal.SameAhead s' (Work.after s' j' m) s' (Work.after s' j' m) :=
      ⟨fun _ => rfl, fun _ => rfl⟩
    have hsecond := h'.failure s' j' error' he' m u m' f' hm hf' _ _ hself
    rw [hfirst] at hsecond
    exact (Except.error.inj hsecond).symm

/-- Two orders of a fan-out yield the same values. -/
theorem ValuesPointwise.eq {units' : List Work} {fanOut fanOut' : Attempt AdapterError Values}
    (h : ValuesPointwise units fanOut) (h' : ValuesPointwise units' fanOut')
    (hperm : units'.Perm units) {s s' : Supply} {j j' : Journal} {values values' : Values}
    (hv : (fanOut.resume s j).1 = .ok values) (hv' : (fanOut'.resume s' j').1 = .ok values') :
    values' = values := by
  refine Dict.ext_get? fun name => Option.ext fun v => ?_
  rw [h s j values hv, h' s' j' values' hv']
  exact exists_congr fun u => and_congr_left' hperm.mem_iff

/-! ## The entries of a wiring -/

/-- The answers of an adapter depend on the call only, up to generated identities. -/
structure Adapter.Steady (a : Adapter) (ctx : AdapterContext) : Prop where
  load : ∀ name d, (a.load ctx (.singleton name d)).Steady
  send : ∀ name d v, (a.send ctx (.singleton name d) (.singleton name v)).Steady

namespace Adapters

/-- The answers of all adapters depend on the calls only, up to generated identities. -/
def Steady (a : Adapters) (ctx : AdapterContext) : Prop :=
  ∀ id adapter, a.get? id = some adapter → adapter.Steady ctx

variable {a : Adapters} {ctx : AdapterContext}

theorem steady_loadOne {adapter : Adapter} (h : adapter.Steady ctx) (name : String)
    (d : Descriptor) : (adapter.loadOne ctx name d).Steady := by
  refine (h.load name d).map (f := adapter.loaded name d)
    (fun s j => by rw [Adapter.resume_loadOne]) (fun s j s' j' hsame => ?_) fun r r' hr => ?_
  · exact ⟨hsame.operatorId, hsame.randomId⟩
  · rw [Adapter.toOption_loaded, Adapter.toOption_loaded, hr]

theorem steady_sendOne {adapter : Adapter} (h : adapter.Steady ctx) (name : String)
    (d : Descriptor) (v : Json) : (adapter.sendOne ctx name d v).Steady := by
  refine (h.send name d v).map (f := Adapter.sent name d)
    (fun s j => by rw [Adapter.resume_sendOne]) (fun s j s' j' hsame => ?_) fun r r' hr => ?_
  · exact ⟨hsame.operatorId, hsame.randomId⟩
  · rw [Adapter.toOption_sent, Adapter.toOption_sent, hr]

/-- Serving an entry is steady if the adapters are. -/
theorem steady_serve (h : a.Steady ctx) (direction : Direction) (e : WiringEntry)
    (value : Option Json) : (a.serve ctx direction e value).Steady := by
  unfold serve
  cases e.resolve direction with
  | error fault => exact Attempt.steady_of_constant fun _ _ => rfl
  | ok binding =>
      cases binding with
      | direct v => exact Attempt.steady_of_constant fun _ _ => rfl
      | adapter id d =>
          simp only [hand]
          cases hadapter : a.get? id with
          | none => exact Attempt.steady_of_constant fun _ _ => rfl
          | some adapter =>
              have hsteady := h id adapter hadapter
              cases direction with
              | load => exact steady_loadOne hsteady e.name d
              | send =>
                  cases value with
                  | none => exact Attempt.steady_of_constant fun _ _ => rfl
                  | some v => exact steady_sendOne hsteady e.name d v

variable {entries : List WiringEntry}

theorem map_fst_loadUnits : (a.loadUnits ctx entries).map (·.1) = entries.map (·.name) := by
  rw [loadUnits, List.map_map]
  rfl

theorem map_fst_sendUnits (values : Values) :
    (a.sendUnits ctx values entries).map (·.1) = entries.map (·.name) := by
  rw [sendUnits, List.map_map]
  rfl

theorem steady_loadUnits (h : a.Steady ctx) : ∀ u ∈ a.loadUnits ctx entries, u.2.Steady := by
  intro u hu
  obtain ⟨e, -, rfl⟩ := List.mem_map.1 hu
  exact steady_serve h .load e none

theorem steady_sendUnits (h : a.Steady ctx) (values : Values) :
    ∀ u ∈ a.sendUnits ctx values entries, u.2.Steady := by
  intro u hu
  obtain ⟨e, -, rfl⟩ := List.mem_map.1 hu
  exact steady_serve h .send e _

theorem pointwise_load (h : a.Steady ctx) (hnames : (entries.map (·.name)).Nodup) :
    Pointwise .load (a.loadUnits ctx entries) (a.load ctx entries) := by
  refine pointwise_of_settled (map_fst_loadUnits ▸ hnames) (steady_loadUnits h) id fun s j => ?_
  obtain ⟨j', hresume, hcourse⟩ := exists_resume_load (s := s) (j := j) a ctx entries
  exact ⟨j', by rw [hresume, Except.map_id]; rfl, hcourse⟩

theorem valuesPointwise_load (h : a.Steady ctx) (hnames : (entries.map (·.name)).Nodup) :
    ValuesPointwise (a.loadUnits ctx entries) (a.load ctx entries) := by
  refine valuesPointwise_of_settled .load (map_fst_loadUnits ▸ hnames)
    (steady_loadUnits h) fun s j => ?_
  obtain ⟨j', hresume, -⟩ := exists_resume_load (s := s) (j := j) a ctx entries
  rw [hresume]

theorem pointwise_send (h : a.Steady ctx) (hnames : (entries.map (·.name)).Nodup)
    (values : Values) :
    Pointwise .send (a.sendUnits ctx values entries) (a.send ctx entries values) := by
  refine pointwise_of_settled ((map_fst_sendUnits values).symm ▸ hnames)
    (steady_sendUnits h values) (fun _ => ()) fun s j => ?_
  exact exists_resume_send a ctx entries values

end Adapters

end Dataflow
