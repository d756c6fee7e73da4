import Dataflow.Graph.Order
import Mathlib.Logic.Relation
import Mathlib.Tactic

set_option autoImplicit false

/-! # The topological order is one

`topologicalOrder?` searches depth first and then looks whether every edge leads forward. This
file proves that it answers exactly when no position leads back to itself, and that the answer
lists every position once with every edge leading forward.

One direction needs no search: an order in which every edge leads forward leaves no room for a
cycle. For the other, `Searching` is what each step of the search keeps:

* a position that was met and is not finished still waits on the stack, and everything above it
  can be reached from it;
* each of its successors is finished, or stands above it and will be finished first.

Without cycles no successor can wait *below* a position, for then the two would lead to each
other. So a position is finished after all its successors (`Settled`), which is what the order
needs.
-/

namespace Dataflow.Graph

open Relation

/-- An edge leads from `u` to `v`. -/
def Leads (edges : List Edge) (u v : Nat) : Prop := (u, v) ∈ edges

/-- No position leads back to itself. -/
def Acyclic (edges : List Edge) : Prop := ∀ v, ¬ TransGen (Leads edges) v v

/-- Every edge joins two of the first `n` positions. -/
def Within (n : Nat) (edges : List Edge) : Prop := ∀ e ∈ edges, e.1 < n ∧ e.2 < n

theorem mem_successors {edges : List Edge} {v w : Nat} :
    w ∈ successors edges v ↔ Leads edges v w := by
  simp only [successors, Leads, List.mem_map, List.mem_reverse, List.mem_filter, beq_iff_eq]
  constructor
  · rintro ⟨⟨a, b⟩, ⟨hmem, rfl⟩, rfl⟩
    exact hmem
  · intro hmem
    exact ⟨(v, w), ⟨hmem, rfl⟩, rfl⟩

/-! ## Orders in which every edge leads forward -/

/-- A position of an order in which every edge leads forward stands before all that can be
reached from it. -/
theorem idxOf_lt_of_transGen {edges : List Edge} {order : List Nat}
    (h : ∀ e ∈ edges, order.idxOf e.1 < order.idxOf e.2) {u v : Nat}
    (hpath : TransGen (Leads edges) u v) : order.idxOf u < order.idxOf v := by
  induction hpath with
  | single hedge => exact h _ hedge
  | tail _ hedge ih => exact lt_trans ih (h _ hedge)

theorem acyclic_of_forward {edges : List Edge} {order : List Nat}
    (h : ∀ e ∈ edges, order.idxOf e.1 < order.idxOf e.2) : Acyclic edges :=
  fun _ hcycle => lt_irrefl _ (idxOf_lt_of_transGen h hcycle)

/-- What stands before `v` in a list stands in every part of the list that ends before `v`. -/
theorem mem_of_idxOf_lt {u v : Nat} {before after : List Nat}
    (h : (before ++ v :: after).idxOf u < (before ++ v :: after).idxOf v) : u ∈ before := by
  by_contra hu
  rw [List.idxOf_append_of_notMem hu] at h
  have hv : (before ++ v :: after).idxOf v ≤ before.length := by
    by_cases hmem : v ∈ before
    · rw [List.idxOf_append_of_mem hmem]
      exact List.idxOf_le_length
    · rw [List.idxOf_append_of_notMem hmem, List.idxOf_cons_self, Nat.add_zero]
  omega

/-! ## Finished positions -/

/-- Each position of the list comes before all its successors, and comes once. -/
def Settled (edges : List Edge) : List Nat → Prop
  | [] => True
  | v :: rest => (∀ w, Leads edges v w → w ∈ rest) ∧ v ∉ rest ∧ Settled edges rest

theorem Settled.nodup {edges : List Edge} {l : List Nat} (h : Settled edges l) : l.Nodup := by
  induction l with
  | nil => exact List.nodup_nil
  | cons v rest ih => exact List.nodup_cons.2 ⟨h.2.1, ih h.2.2⟩

theorem Settled.mem_of_leads {edges : List Edge} {l : List Nat} (h : Settled edges l) {v w : Nat}
    (hv : v ∈ l) (hedge : Leads edges v w) : w ∈ l := by
  induction l with
  | nil => cases hv
  | cons x rest ih =>
      rcases List.mem_cons.1 hv with rfl | hv
      · exact List.mem_cons_of_mem _ (h.1 w hedge)
      · exact List.mem_cons_of_mem _ (ih h.2.2 hv)

theorem Settled.idxOf_lt {edges : List Edge} {l : List Nat} (h : Settled edges l) {v w : Nat}
    (hv : v ∈ l) (hedge : Leads edges v w) : l.idxOf v < l.idxOf w := by
  induction l with
  | nil => cases hv
  | cons x rest ih =>
      obtain ⟨hsucc, hx, hrest⟩ := h
      -- the successor stands behind the head, so the head is another position
      have hw : w ∈ rest := by
        rcases List.mem_cons.1 hv with rfl | hv
        · exact hsucc w hedge
        · exact hrest.mem_of_leads hv hedge
      have hxw : x ≠ w := fun heq => hx (heq ▸ hw)
      rw [List.idxOf_cons_ne _ hxw]
      rcases List.mem_cons.1 hv with rfl | hv
      · rw [List.idxOf_cons_self]
        exact Nat.succ_pos _
      · have hxv : x ≠ v := fun heq => hx (heq ▸ hv)
        rw [List.idxOf_cons_ne _ hxv]
        exact Nat.succ_lt_succ (ih hrest hv)

/-! ## What a step of the search keeps -/

/-- The part of a stack above the first `v`. -/
def above (v : Nat) (stack : List Nat) : List Nat := stack.takeWhile (· != v)

theorem above_cons_self (v : Nat) (stack : List Nat) : above v (v :: stack) = [] := by
  simp [above]

theorem above_cons_of_ne {u v : Nat} (h : u ≠ v) (stack : List Nat) :
    above u (v :: stack) = v :: above u stack := by
  simp [above, Ne.symm h]

theorem above_append {u : Nat} {l : List Nat} (h : u ∉ l) (stack : List Nat) :
    above u (l ++ stack) = l ++ above u stack := by
  refine List.takeWhile_append_of_pos fun a ha => ?_
  exact bne_iff_ne.2 fun heq => h (heq ▸ ha)

/-- A position that is met and not finished: it waits on the stack, leads to all above it, and
each of its successors is finished or above it. -/
structure Waiting (edges : List Edge) (stack finished : List Nat) (v : Nat) : Prop where
  mem : v ∈ stack
  reach : ∀ x ∈ above v stack, TransGen (Leads edges) v x
  covered : ∀ w, Leads edges v w → w ∈ finished ∨ w ∈ above v stack

/-- The search on the way: the positions that are `due` have been met or are on the stack, the
finished ones are settled, and the others that have been met wait. -/
structure Searching (n : Nat) (edges : List Edge) (due stack : List Nat) (found : Visited) :
    Prop where
  due : ∀ v ∈ due, v ∈ found.discovered ∨ v ∈ stack
  bounded : ∀ v, v ∈ stack ∨ v ∈ found.discovered → v < n
  finished : ∀ v ∈ found.finished, v ∈ found.discovered
  settled : Settled edges found.finished
  waiting : ∀ v ∈ found.discovered, v ∉ found.finished →
    Waiting edges stack found.finished v

/-- A position leaves the top of the stack of others that wait, once it is finished. -/
theorem Waiting.pop {edges : List Edge} {stack finished finished' : List Nat} {u v : Nat}
    (h : Waiting edges (v :: stack) finished u) (hne : u ≠ v) (hv : v ∈ finished')
    (hsub : ∀ x ∈ finished, x ∈ finished') : Waiting edges stack finished' u := by
  obtain ⟨hmem, hreach, hcovered⟩ := h
  rw [above_cons_of_ne hne] at hreach hcovered
  refine ⟨(List.mem_cons.1 hmem).resolve_left hne, fun x hx => hreach x (List.mem_cons_of_mem _ hx),
    fun w hedge => ?_⟩
  rcases hcovered w hedge with hw | hw
  · exact .inl (hsub w hw)
  · rcases List.mem_cons.1 hw with rfl | hw
    · exact .inl hv
    · exact .inr hw

theorem Searching.discard {n : Nat} {edges : List Edge} {due stack : List Nat} {found : Visited}
    {v : Nat} (h : Searching n edges due (v :: stack) found) (hv : v ∈ found.finished) :
    Searching n edges due stack found where
  due u hu := by
    rcases h.due u hu with hu | hu
    · exact .inl hu
    · rcases List.mem_cons.1 hu with rfl | hu
      · exact .inl (h.finished _ hv)
      · exact .inr hu
  bounded u hu := h.bounded u (hu.imp_left (List.mem_cons_of_mem _))
  finished := h.finished
  settled := h.settled
  waiting u hu huf :=
    (h.waiting u hu huf).pop (fun heq => huf (heq ▸ hv)) hv fun _ hx => hx

theorem Searching.finish {n : Nat} {edges : List Edge} {due stack : List Nat} {found : Visited}
    {v : Nat} (h : Searching n edges due (v :: stack) found) (hv : v ∈ found.discovered)
    (hvf : v ∉ found.finished) :
    Searching n edges due stack { found with finished := v :: found.finished } where
  due u hu := by
    rcases h.due u hu with hu | hu
    · exact .inl hu
    · rcases List.mem_cons.1 hu with rfl | hu
      · exact .inl hv
      · exact .inr hu
  bounded u hu := h.bounded u (hu.imp_left (List.mem_cons_of_mem _))
  finished u hu := by
    rcases List.mem_cons.1 hu with rfl | hu
    · exact hv
    · exact h.finished u hu
  settled := by
    refine ⟨fun w hedge => ?_, hvf, h.settled⟩
    -- nothing stands above the top of the stack
    have hcovered := (h.waiting v hv hvf).covered w hedge
    rw [above_cons_self] at hcovered
    exact hcovered.resolve_right List.not_mem_nil
  waiting u hu huf := by
    have hne : u ≠ v := fun heq => huf (heq ▸ List.mem_cons_self)
    have hold : u ∉ found.finished := fun hmem => huf (List.mem_cons_of_mem _ hmem)
    exact (h.waiting u hu hold).pop hne List.mem_cons_self fun _ hx => List.mem_cons_of_mem _ hx

/-- The successors of `v` that a step puts on the stack. -/
def pushed (edges : List Edge) (found : Visited) (v : Nat) : List Nat :=
  ((successors edges v).filter fun w => !(v :: found.discovered).contains w).reverse

theorem mem_pushed {edges : List Edge} {found : Visited} {v w : Nat} :
    w ∈ pushed edges found v ↔ Leads edges v w ∧ w ∉ v :: found.discovered := by
  simp only [pushed, List.mem_reverse, List.mem_filter, mem_successors, List.contains_eq_mem,
    Bool.not_eq_true', decide_eq_false_iff_not]

/-- **The step that needs acyclicity.** A successor of `v` that was met and is not finished
would wait below `v`, and so lead to it. -/
theorem Searching.finished_of_leads {n : Nat} {edges : List Edge} {due stack : List Nat}
    {found : Visited} {v w : Nat} (hacyclic : Acyclic edges)
    (h : Searching n edges due (v :: stack) found) (hedge : Leads edges v w)
    (hw : w ∈ found.discovered) : w ∈ found.finished := by
  by_contra hopen
  have hne : w ≠ v := by
    rintro rfl
    exact hacyclic w (.single hedge)
  have hback := (h.waiting w hw hopen).reach v
  rw [above_cons_of_ne hne] at hback
  exact hacyclic w (TransGen.tail (hback List.mem_cons_self) hedge)

/-- A position on top of the stack that was not met waits, once its successors that were not met
stand above it. -/
theorem Searching.discover {n : Nat} {edges : List Edge} {due stack : List Nat} {found : Visited}
    {v : Nat} (hacyclic : Acyclic edges) (hwithin : Within n edges)
    (h : Searching n edges due (v :: stack) found) (hv : v ∉ found.discovered) :
    Searching n edges due (pushed edges found v ++ v :: stack)
      { found with discovered := v :: found.discovered } where
  due u hu := by
    rcases h.due u hu with hu | hu
    · exact .inl (List.mem_cons_of_mem _ hu)
    · exact .inr (List.mem_append_right _ hu)
  bounded u hu := by
    rcases hu with hu | hu
    · rcases List.mem_append.1 hu with hu | hu
      · exact (hwithin _ (mem_pushed.1 hu).1).2
      · exact h.bounded u (.inl hu)
    · rcases List.mem_cons.1 hu with rfl | hu
      · exact h.bounded u (.inl List.mem_cons_self)
      · exact h.bounded u (.inr hu)
  finished u hu := List.mem_cons_of_mem _ (h.finished u hu)
  settled := h.settled
  waiting u hu huf := by
    have hnot : u ∉ pushed edges found v := fun hmem => (mem_pushed.1 hmem).2 hu
    have hself : ¬ Leads edges v v := fun hedge => hacyclic v (.single hedge)
    refine ⟨?_, ?_, ?_⟩
    · rcases List.mem_cons.1 hu with rfl | hu
      · exact List.mem_append_right _ List.mem_cons_self
      · exact List.mem_append_right _ (h.waiting u hu huf).mem
    · -- what is new above a position hangs below `v`, to which the position leads
      intro x hx
      rw [above_append hnot] at hx
      rcases List.mem_cons.1 hu with rfl | hu
      · rw [above_cons_self, List.append_nil] at hx
        exact .single (mem_pushed.1 hx).1
      · have hne : u ≠ v := fun heq => hv (heq ▸ hu)
        have hreach := (h.waiting u hu huf).reach
        rcases List.mem_append.1 hx with hx | hx
        · refine TransGen.tail (hreach v ?_) (mem_pushed.1 hx).1
          rw [above_cons_of_ne hne]
          exact List.mem_cons_self
        · exact hreach x hx
    · intro w hedge
      rw [above_append hnot]
      rcases List.mem_cons.1 hu with rfl | hu
      · rw [above_cons_self, List.append_nil]
        by_cases hw : w ∈ found.discovered
        · have hfinished : w ∈ found.finished := h.finished_of_leads hacyclic hedge hw
          exact .inl hfinished
        · refine .inr (mem_pushed.2 ⟨hedge, fun hmem => ?_⟩)
          rcases List.mem_cons.1 hmem with rfl | hmem
          · exact hself hedge
          · exact hw hmem
      · exact ((h.waiting u hu huf).covered w hedge).imp_right (List.mem_append_right _)

/-! ## The search ends -/

/-- A bound on the steps that are left: one for each position on the stack, and one for each
position that was not met and each of its edges. -/
def work (n : Nat) (edges : List Edge) (stack : List Nat) (found : Visited) : Nat :=
  stack.length + (List.range n).countP (fun u => u ∉ found.discovered) +
    edges.countP (fun e => e.1 ∉ found.discovered)

theorem countP_notMem_cons {α : Type} (f : α → Nat) {v : Nat} {met : List Nat} (hv : v ∉ met)
    (l : List α) :
    l.countP (fun a => f a ∉ met) = l.countP (fun a => f a ∉ v :: met) +
      l.countP (fun a => f a == v) := by
  induction l with
  | nil => rfl
  | cons a rest ih =>
      rw [List.countP_cons, List.countP_cons, List.countP_cons, ih]
      by_cases ha : f a = v
      · -- `a` counts on the left, and on the right for its position only
        simp only [List.mem_cons, ha, hv, not_false_eq_true, decide_true, ↓reduceIte, true_or,
          not_true_eq_false, decide_false, Bool.false_eq_true, BEq.rfl]
        omega
      · have hbeq : (f a == v) = false := beq_eq_false_iff_ne.2 ha
        simp only [List.mem_cons, ha, false_or, hbeq, Bool.false_eq_true, ↓reduceIte]
        omega

theorem work_discover {n : Nat} (edges : List Edge) (stack : List Nat) {found : Visited} {v : Nat}
    (hv : v ∉ found.discovered) (hn : v < n) :
    work n edges (pushed edges found v ++ v :: stack)
      { found with discovered := v :: found.discovered } < work n edges (v :: stack) found := by
  -- `v` no longer counts, and its edges pay for the successors that are put on the stack
  have hpositions := countP_notMem_cons id hv (List.range n)
  have hedges := countP_notMem_cons (fun e : Edge => e.1) hv edges
  have hmet : 0 < (List.range n).countP (fun u => id u == v) :=
    List.countP_pos_iff.2 ⟨v, List.mem_range.2 hn, beq_self_eq_true v⟩
  have hpushed : (pushed edges found v).length ≤ edges.countP (fun e => e.1 == v) := by
    calc (pushed edges found v).length
        = ((successors edges v).filter fun w => !(v :: found.discovered).contains w).length :=
          List.length_reverse
      _ ≤ (successors edges v).length := List.length_filter_le _ _
      _ = edges.countP (fun e => e.1 == v) := by
          rw [successors, List.length_map, List.length_reverse, List.countP_eq_length_filter]
  simp only [id] at hpositions hmet
  simp only [work, List.length_append]
  omega

/-- **A visit works off its stack.** -/
theorem Searching.visit {n : Nat} {edges : List Edge} {due : List Nat}
    (hacyclic : Acyclic edges) (hwithin : Within n edges) :
    ∀ (fuel : Nat) {stack : List Nat} {found : Visited},
      work n edges stack found ≤ fuel → Searching n edges due stack found →
      Searching n edges due [] (Graph.visit edges fuel stack found)
  | 0, [], _, _, h => h
  | 0, v :: stack, found, hwork, _ => by
      simp only [work, List.length_cons] at hwork
      omega
  | _ + 1, [], _, _, h => h
  | fuel + 1, v :: stack, found, hwork, h => by
      have hpop : ∀ finished, work n edges stack { found with finished } ≤ fuel := by
        intro finished
        simp only [work, List.length_cons] at hwork ⊢
        omega
      rw [Graph.visit]
      simp only [List.contains_eq_mem, decide_eq_true_eq]
      by_cases hv : v ∈ found.discovered
      · rw [if_pos hv]
        by_cases hvf : v ∈ found.finished
        · rw [if_pos hvf]
          exact Searching.visit hacyclic hwithin fuel (hpop found.finished) (h.discard hvf)
        · rw [if_neg hvf]
          exact Searching.visit hacyclic hwithin fuel (hpop _) (h.finish hv hvf)
      · rw [if_neg hv]
        have hlt := work_discover edges stack hv (h.bounded v (.inl List.mem_cons_self))
        have hnext := h.discover hacyclic hwithin hv
        simp only [pushed, List.contains_eq_mem] at hlt hnext
        exact Searching.visit hacyclic hwithin fuel (by omega) hnext

theorem searching_empty (n : Nat) (edges : List Edge) : Searching n edges [] [] ⟨[], []⟩ where
  due u hu := by cases hu
  bounded u hu := by rcases hu with hu | hu <;> cases hu
  finished u hu := by cases hu
  settled := trivial
  waiting u hu := by cases hu

/-- A visit can begin at any of the first `n` positions, within the fuel it is given. -/
theorem Searching.begin {n : Nat} {edges : List Edge} {due : List Nat} {found : Visited} {v : Nat}
    (h : Searching n edges due [] found) (hn : v < n) :
    Searching n edges (v :: due) [v] found ∧
      work n edges [v] found ≤ 2 * n + edges.length + 1 := by
  refine ⟨⟨fun u hu => ?_, fun u hu => ?_, h.finished, h.settled, fun u hu huf => ?_⟩, ?_⟩
  · rcases List.mem_cons.1 hu with rfl | hu
    · exact .inr List.mem_cons_self
    · exact (h.due u hu).imp_right fun hnil => absurd hnil List.not_mem_nil
  · rcases hu with hu | hu
    · rw [List.mem_singleton.1 hu]
      exact hn
    · exact h.bounded u (.inr hu)
  · exact absurd (h.waiting u hu huf).mem List.not_mem_nil
  · have hpositions : (List.range n).countP (fun u => u ∉ found.discovered) ≤ n := by
      calc (List.range n).countP (fun u => u ∉ found.discovered)
          ≤ (List.range n).length := List.countP_le_length
        _ = n := List.length_range
    have hedges : edges.countP (fun e => e.1 ∉ found.discovered) ≤ edges.length :=
      List.countP_le_length
    simp only [work, List.length_singleton]
    omega

/-- The search between two visits, after one from `v` if it was not met. -/
theorem Searching.root {n : Nat} {edges : List Edge} {due : List Nat} {found : Visited} {v : Nat}
    (hacyclic : Acyclic edges) (hwithin : Within n edges) (h : Searching n edges due [] found)
    (hn : v < n) :
    Searching n edges (v :: due) []
      (if found.discovered.contains v then found
        else Graph.visit edges (2 * n + edges.length + 1) [v] found) := by
  simp only [List.contains_eq_mem, decide_eq_true_eq]
  by_cases hv : v ∈ found.discovered
  · rw [if_pos hv]
    refine ⟨fun u hu => ?_, h.bounded, h.finished, h.settled, h.waiting⟩
    rcases List.mem_cons.1 hu with rfl | hu
    · exact .inl hv
    · exact h.due u hu
  · rw [if_neg hv]
    obtain ⟨hbegin, hwork⟩ := h.begin hn
    exact hbegin.visit hacyclic hwithin _ hwork

theorem Searching.roots {n : Nat} {edges : List Edge} (hacyclic : Acyclic edges)
    (hwithin : Within n edges) (l : List Nat) (hl : ∀ v ∈ l, v < n) {due : List Nat}
    {found : Visited} (h : Searching n edges due [] found) :
    Searching n edges (l.reverse ++ due) []
      (l.foldl (fun found v => if found.discovered.contains v then found
        else Graph.visit edges (2 * n + edges.length + 1) [v] found) found) := by
  induction l generalizing due found with
  | nil => exact h
  | cons v rest ih =>
      rw [List.reverse_cons, List.append_assoc, List.foldl_cons]
      exact ih (fun u hu => hl u (List.mem_cons_of_mem _ hu))
        (h.root hacyclic hwithin (hl v List.mem_cons_self))

/-! ## The order -/

/-- Without cycles the positions are finished once each, and each after its successors. -/
theorem finishingOrder_settled {n : Nat} {edges : List Edge} (hacyclic : Acyclic edges)
    (hwithin : Within n edges) :
    Settled edges (finishingOrder n edges) ∧ (finishingOrder n edges).Perm (List.range n) := by
  have h := (searching_empty n edges).roots hacyclic hwithin (List.range n)
    (fun v hv => List.mem_range.1 hv)
  refine ⟨h.settled, (List.perm_ext_iff_of_nodup h.settled.nodup List.nodup_range).2 fun v => ?_⟩
  rw [List.mem_range]
  constructor
  · intro hv
    exact h.bounded v (.inr (h.finished v hv))
  · intro hv
    have hdue : v ∈ (List.range n).reverse ++ [] := by
      rw [List.append_nil, List.mem_reverse, List.mem_range]
      exact hv
    have hmet := (h.due v hdue).resolve_right List.not_mem_nil
    by_contra hopen
    exact List.not_mem_nil (h.waiting v hmet hopen).mem

theorem topologicalOrder?_eq_ite (n : Nat) (edges : List Edge) :
    topologicalOrder? n edges =
      if ∀ e ∈ edges, (finishingOrder n edges).idxOf e.1 < (finishingOrder n edges).idxOf e.2
      then some (finishingOrder n edges) else none := by
  simp only [topologicalOrder?, leadsForward, List.all_eq_true, decide_eq_true_eq]

/-- **Where there is no cycle there is an order**: it lists every position once, and every edge
leads forward in it. -/
theorem topologicalOrder?_of_acyclic {n : Nat} {edges : List Edge} (hacyclic : Acyclic edges)
    (hwithin : Within n edges) :
    ∃ order, topologicalOrder? n edges = some order ∧ order.Perm (List.range n) ∧
      ∀ e ∈ edges, order.idxOf e.1 < order.idxOf e.2 := by
  obtain ⟨hsettled, hperm⟩ := finishingOrder_settled hacyclic hwithin
  have hforward : ∀ e ∈ edges,
      (finishingOrder n edges).idxOf e.1 < (finishingOrder n edges).idxOf e.2 := by
    intro e he
    exact hsettled.idxOf_lt (hperm.mem_iff.2 (List.mem_range.2 (hwithin e he).1)) he
  refine ⟨finishingOrder n edges, ?_, hperm, hforward⟩
  rw [topologicalOrder?_eq_ite, if_pos hforward]

/-- **Where there is a cycle there is no order.** -/
theorem topologicalOrder?_of_cyclic {n : Nat} {edges : List Edge} (hcyclic : ¬ Acyclic edges) :
    topologicalOrder? n edges = none := by
  rw [topologicalOrder?_eq_ite, if_neg]
  exact fun hforward => hcyclic (acyclic_of_forward hforward)

end Dataflow.Graph
