import Dataflow.Execution.Input
import Dataflow.Proofs.Node.Tree

set_option autoImplicit false

/-! # What it means that an input is consistent

`ExecutionInput.defect?` walks through lists and stops at the first reason against an input. It
finds none exactly if the input is `Consistent`: identifiers of modules and records are distinct,
every record has its module, every component node its record with the same module, and the wiring
fits the root. Each walk is read as what it asks of its list, the names seen before included.
-/

namespace Dataflow

/-! ## Lists without repetition -/

/-- A list is free of repetitions, and of what was seen before, if its tail is, its head
counted among what was seen. -/
theorem nodup_unseen_cons_iff {α κ : Type} {key : α → κ} {seen : List κ} {a : α} {rest : List α}
    (h : key a ∉ seen) :
    (((a :: rest).map key).Nodup ∧ ∀ b ∈ a :: rest, key b ∉ seen) ↔
      (rest.map key).Nodup ∧ ∀ b ∈ rest, key b ∉ key a :: seen := by
  rw [List.map_cons, List.nodup_cons, List.forall_mem_cons]
  constructor
  · rintro ⟨⟨hnew, hnodup⟩, -, hrest⟩
    refine ⟨hnodup, fun b hb hmem => ?_⟩
    rcases List.mem_cons.1 hmem with hkey | hmem
    · exact hnew (List.mem_map.2 ⟨b, hb, hkey⟩)
    · exact hrest b hb hmem
  · rintro ⟨hnodup, hrest⟩
    refine ⟨⟨fun hmem => ?_, hnodup⟩, h, fun b hb hmem => ?_⟩
    · obtain ⟨b, hb, hkey⟩ := List.mem_map.1 hmem
      exact hrest b hb (hkey ▸ List.mem_cons_self)
    · exact hrest b hb (List.mem_cons_of_mem _ hmem)

/-- What is found under a key is the one element that has it, if no two elements share a key. -/
theorem find?_key_eq_some_iff {α κ : Type} {key : α → κ} {l : List α} (h : (l.map key).Nodup)
    {k : κ} {p : α → Bool} (hp : ∀ a, p a = true ↔ key a = k) {a : α} :
    l.find? p = some a ↔ a ∈ l ∧ key a = k := by
  constructor
  · intro hfind
    exact ⟨List.mem_of_find?_eq_some hfind, (hp a).1 (List.find?_some hfind)⟩
  · rintro ⟨ha, hkey⟩
    cases hfind : l.find? p with
    | none =>
        have hother := List.find?_eq_none.1 hfind a ha
        exact absurd ((hp a).2 hkey) hother
    | some b =>
        have hsame : key b = key a := ((hp b).1 (List.find?_some hfind)).trans hkey.symm
        rw [List.inj_on_of_nodup_map h (List.mem_of_find?_eq_some hfind) ha hsame]

/-! ## The walks -/

namespace Wiring

/-- What is asked of the entries of one direction. -/
theorem entriesDefect?_eq_none_iff {declared : String → Bool} {undeclared : String → Defect}
    {seen : List String} {entries : List WiringEntry} :
    entriesDefect? declared undeclared seen entries = none ↔
      ((entries.map (·.name)).Nodup ∧ ∀ e ∈ entries, e.name ∉ seen) ∧
        ∀ e ∈ entries, declared e.name = true ∧
          (e.isDirect = true ∨ e.reference?.isSome = true) := by
  induction entries generalizing seen with
  | nil => simp [entriesDefect?]
  | cons e rest ih =>
      rw [entriesDefect?]
      by_cases hdeclared : declared e.name
      · by_cases hseen : e.name ∈ seen
        · simp [hdeclared, hseen]
        · rw [nodup_unseen_cons_iff hseen, List.forall_mem_cons]
          by_cases hreference : e.isDirect = true ∨ e.reference?.isSome = true
          · have hbound : (!e.isDirect && e.reference?.isNone) = false := by
              rcases hreference with h | h
              · simp [h]
              · simp [Option.isNone_eq_false_iff.2 h]
            rw [if_neg (by simp [hdeclared]), if_neg hseen, if_neg (by simp [hbound]), ih]
            constructor
            · rintro ⟨hnodup, hrest⟩
              exact ⟨hnodup, ⟨hdeclared, hreference⟩, hrest⟩
            · rintro ⟨hnodup, -, hrest⟩
              exact ⟨hnodup, hrest⟩
          · obtain ⟨hindirect, hnone⟩ := not_or.1 hreference
            have hunbound : (!e.isDirect && e.reference?.isNone) = true := by
              rw [Bool.not_eq_true] at hindirect
              rw [hindirect, Option.isNone_iff_eq_none.2 (Option.not_isSome_iff_eq_none.1 hnone)]
              rfl
            rw [if_neg (by simp [hdeclared]), if_neg hseen, if_pos hunbound]
            constructor
            · intro h
              cases h
            · rintro ⟨-, ⟨-, h⟩, -⟩
              exact absurd h hreference
      · simp [hdeclared]

end Wiring

namespace ExecutionInput

theorem moduleDefect?_eq_none_iff {seen : List Uuid} {l : List CodeModule} :
    moduleDefect? seen l = none ↔ (l.map (·.id)).Nodup ∧ ∀ m ∈ l, m.id ∉ seen := by
  induction l generalizing seen with
  | nil => simp [moduleDefect?]
  | cons m rest ih =>
      rw [moduleDefect?]
      by_cases hseen : m.id ∈ seen
      · simp [hseen]
      · rw [if_neg hseen, ih, nodup_unseen_cons_iff hseen]

theorem componentDefect?_eq_none_iff {modules : List CodeModule} {seen : List Uuid}
    {l : List ComponentRecord} :
    componentDefect? modules seen l = none ↔
      ((l.map (·.id)).Nodup ∧ ∀ c ∈ l, c.id ∉ seen) ∧
        ∀ c ∈ l, ∃ m ∈ modules, m.id = c.codeModule := by
  induction l generalizing seen with
  | nil => simp [componentDefect?]
  | cons c rest ih =>
      rw [componentDefect?]
      by_cases hseen : c.id ∈ seen
      · simp [hseen]
      · rw [if_neg hseen, nodup_unseen_cons_iff hseen, List.forall_mem_cons]
        have hmissing : (modules.all fun m => decide (m.id ≠ c.codeModule)) = true ↔
            ¬ ∃ m ∈ modules, m.id = c.codeModule := by
          simp
        by_cases hmodule : ∃ m ∈ modules, m.id = c.codeModule
        · rw [if_neg (fun h => hmissing.1 h hmodule), ih]
          constructor
          · rintro ⟨hnodup, hrest⟩
            exact ⟨hnodup, hmodule, hrest⟩
          · rintro ⟨hnodup, -, hrest⟩
            exact ⟨hnodup, hrest⟩
        · rw [if_pos (hmissing.2 hmodule)]
          constructor
          · intro h
            cases h
          · rintro ⟨-, h, -⟩
            exact absurd h hmodule

theorem nodeDefect?_eq_none_iff {components : List ComponentRecord} {n : ComponentNode} :
    nodeDefect? components n = none ↔
      ∃ c, components.find? (·.id == n.component) = some c ∧ c.codeModule = n.codeModule := by
  rw [nodeDefect?]
  cases components.find? (·.id == n.component) with
  | none => simp
  | some c =>
      by_cases hmodule : c.codeModule = n.codeModule <;> simp [hmodule]

/-! ## The input as a whole -/

/-- An input without a reason against it. -/
structure Consistent (x : ExecutionInput) : Prop where
  modules_nodup : (x.codeModules.map (·.id)).Nodup
  components_nodup : (x.components.map (·.id)).Nodup
  module : ∀ c ∈ x.components, ∃ m ∈ x.codeModules, m.id = c.codeModule
  node : ∀ n, Node.Inside (.component n) x.workflow →
    ∃ c ∈ x.components, c.id = n.component ∧ c.codeModule = n.codeModule
  wiring : x.wiring.defect? x.workflow.interface = none

/-- **What a consistent input is.** -/
theorem defect?_eq_none_iff {x : ExecutionInput} : x.defect? = none ↔ x.Consistent := by
  rw [defect?, Option.or_eq_none_iff, Option.or_eq_none_iff, Option.or_eq_none_iff,
    moduleDefect?_eq_none_iff, componentDefect?_eq_none_iff, List.findSome?_eq_none_iff,
    Option.map_eq_none_iff]
  simp only [Node.mem_componentNodes_iff, nodeDefect?_eq_none_iff]
  constructor
  · rintro ⟨⟨hmodules, -⟩, ⟨⟨hcomponents, -⟩, hmodule⟩, hnode, hwiring⟩
    refine ⟨hmodules, hcomponents, hmodule, fun n hn => ?_, hwiring⟩
    obtain ⟨c, hfind, hsame⟩ := hnode n hn
    obtain ⟨hc, hid⟩ := (find?_key_eq_some_iff hcomponents fun _ => beq_iff_eq).1 hfind
    exact ⟨c, hc, hid, hsame⟩
  · intro h
    refine ⟨⟨h.modules_nodup, fun m _ => List.not_mem_nil⟩,
      ⟨⟨h.components_nodup, fun c _ => List.not_mem_nil⟩, h.module⟩, fun n hn => ?_, h.wiring⟩
    obtain ⟨c, hc, hid, hsame⟩ := h.node n hn
    exact ⟨c, (find?_key_eq_some_iff h.components_nodup fun _ => beq_iff_eq).2 ⟨hc, hid⟩, hsame⟩

theorem check_eq_ok_iff {x : ExecutionInput} : x.check = .ok () ↔ x.Consistent := by
  rw [← defect?_eq_none_iff, check]
  cases x.defect? with
  | none => simp
  | some fault => simp

/-- The module of a component node. -/
theorem Consistent.existsUnique_module {x : ExecutionInput} (h : x.Consistent)
    {n : ComponentNode} (hn : Node.Inside (.component n) x.workflow) :
    ∃! m, m ∈ x.codeModules ∧ m.id = n.codeModule := by
  obtain ⟨c, hc, -, hsame⟩ := h.node n hn
  obtain ⟨m, hm, hid⟩ := h.module c hc
  refine ⟨m, ⟨hm, hid.trans hsame⟩, fun m' ⟨hm', hid'⟩ => ?_⟩
  have hids : m'.id = m.id := by
    calc m'.id = n.codeModule := hid'
      _ = c.codeModule := hsame.symm
      _ = m.id := hid.symm
  exact List.inj_on_of_nodup_map h.modules_nodup hm' hm hids

end ExecutionInput

end Dataflow
