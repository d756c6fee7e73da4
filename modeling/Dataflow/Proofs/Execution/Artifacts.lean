import Dataflow.Execution.Artifacts
import Dataflow.Proofs.Store.Closure

set_option autoImplicit false

/-! # Artifacts of revisions

The artifacts of a list of revisions are a look-up in the list: under an identifier stands the
module or record of the first revision that has one of this identifier (`Artifacts.Gathered`).
Adding further revisions adds them to the end of the list, and that is all that can be said of
the order in which revisions are added.
-/

namespace Dataflow

namespace Artifacts

/-- The artifacts of a revision are those of its code. -/
theorem ofRevision?_eq_some {r : Revision} {m : CodeModule} {c : ComponentRecord}
    (h : ofRevision? r = some (m, c)) :
    ∃ code, r.content = .code code ∧ m.id = code.codeModule ∧ c.id = r.id ∧
      c.interface = r.interface ∧ c.function = code.function ∧ c.codeModule = code.codeModule := by
  obtain ⟨m', hm, hrest⟩ := Option.bind_eq_some_iff.1 h
  obtain ⟨c', hc, hpair⟩ := Option.bind_eq_some_iff.1 hrest
  cases hpair
  obtain ⟨code, hcode, rfl⟩ := Option.map_eq_some_iff.1 hm
  rw [ComponentRecord.ofRevision?] at hc
  split at hc
  · rw [hcode, Option.map_some, Option.some.injEq] at hc
    subst hc
    exact ⟨code, Revision.code?_eq_some.1 hcode, rfl, rfl, rfl, rfl, rfl⟩
  · cases hc

/-- The artifacts are those of the revisions of a list, where of equal identifiers the first one
counts. -/
structure Gathered (l : List Revision) (a : Artifacts) : Prop where
  modules : ∀ id, a.codeModules.get? id =
    ((l.filterMap ofRevision?).find? fun p => p.1.id = id).map (·.1)
  components : ∀ id, a.components.get? id =
    ((l.filterMap ofRevision?).find? fun p => p.2.id = id).map (·.2)

theorem gathered_empty : Gathered [] empty := ⟨fun _ => rfl, fun _ => rfl⟩

theorem Gathered.add {l : List Revision} {a : Artifacts} (h : Gathered l a)
    (l' : List Revision) : Gathered (l ++ l') (a.addRevisions l') := by
  refine ⟨fun id => ?_, fun id => ?_⟩
  · show (((l'.filterMap ofRevision?).map (·.1)).foldl (fun d m => d.insertNew m.id m)
      a.codeModules).get? id = _
    rw [List.foldl_map, Dict.get?_foldl_insertNew, h.modules, List.filterMap_append,
      List.find?_append, Option.map_or]
  · show (((l'.filterMap ofRevision?).map (·.2)).foldl (fun d c => d.insertNew c.id c)
      a.components).get? id = _
    rw [List.foldl_map, Dict.get?_foldl_insertNew, h.components, List.filterMap_append,
      List.find?_append, Option.map_or]

section Gathered

variable {l : List Revision} {a : Artifacts}

theorem Gathered.of_module (h : Gathered l a) {id : Uuid} {m : CodeModule}
    (hm : a.codeModules.get? id = some m) :
    m.id = id ∧ ∃ r ∈ l, ∃ c, ofRevision? r = some (m, c) := by
  rw [h.modules] at hm
  obtain ⟨⟨m', c⟩, hfind, rfl⟩ := Option.map_eq_some_iff.1 hm
  obtain ⟨r, hr, hof⟩ := List.mem_filterMap.1 (List.mem_of_find?_eq_some hfind)
  have hid := List.find?_some hfind
  exact ⟨of_decide_eq_true hid, r, hr, c, hof⟩

theorem Gathered.of_component (h : Gathered l a) {id : Uuid} {c : ComponentRecord}
    (hc : a.components.get? id = some c) :
    c.id = id ∧ ∃ r ∈ l, ∃ m, ofRevision? r = some (m, c) := by
  rw [h.components] at hc
  obtain ⟨⟨m, c'⟩, hfind, rfl⟩ := Option.map_eq_some_iff.1 hc
  obtain ⟨r, hr, hof⟩ := List.mem_filterMap.1 (List.mem_of_find?_eq_some hfind)
  have hid := List.find?_some hfind
  exact ⟨of_decide_eq_true hid, r, hr, m, hof⟩

theorem Gathered.exists_module (h : Gathered l a) {r : Revision} (hr : r ∈ l) {m : CodeModule}
    {c : ComponentRecord} (hof : ofRevision? r = some (m, c)) :
    ∃ m', a.codeModules.get? m.id = some m' := by
  have hmem : (m, c) ∈ l.filterMap ofRevision? := List.mem_filterMap.2 ⟨r, hr, hof⟩
  obtain ⟨p, hp⟩ : ∃ p, ((l.filterMap ofRevision?).find? fun p => p.1.id = m.id) = some p :=
    Option.isSome_iff_exists.1 (List.find?_isSome.2 ⟨_, hmem, decide_eq_true rfl⟩)
  exact ⟨p.1, by rw [h.modules, hp, Option.map_some]⟩

theorem Gathered.exists_component (h : Gathered l a) {r : Revision} (hr : r ∈ l) {m : CodeModule}
    {c : ComponentRecord} (hof : ofRevision? r = some (m, c)) :
    ∃ c', a.components.get? c.id = some c' := by
  have hmem : (m, c) ∈ l.filterMap ofRevision? := List.mem_filterMap.2 ⟨r, hr, hof⟩
  obtain ⟨p, hp⟩ : ∃ p, ((l.filterMap ofRevision?).find? fun p => p.2.id = c.id) = some p :=
    Option.isSome_iff_exists.1 (List.find?_isSome.2 ⟨_, hmem, decide_eq_true rfl⟩)
  exact ⟨p.2, by rw [h.components, hp, Option.map_some]⟩

theorem Gathered.map_id_modules (h : Gathered l a) :
    a.codeModules.values.map (·.id) = a.codeModules.keys :=
  Dict.map_values_eq_keys fun _ _ hm => (h.of_module hm).1

theorem Gathered.map_id_components (h : Gathered l a) :
    a.components.values.map (·.id) = a.components.keys :=
  Dict.map_values_eq_keys fun _ _ hc => (h.of_component hc).1

end Gathered

end Artifacts

end Dataflow
