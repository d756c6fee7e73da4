import Dataflow.Json.Record
import Dataflow.Proofs.Dict
import Dataflow.Proofs.Except
import Dataflow.Proofs.Uuid

set_option autoImplicit false

/-! # Reading what was written

The laws of the small readers on values that the small writers made. A record that was written
as an object with distinct names gives each of its fields back (`Json.fields?_object`), a list
is read item by item (`Json.list?_ofList`), and a map of values is read as the map of their
normal forms (`Json.dict?_ofDict`).
-/

namespace Dataflow.Json

variable {α β : Type}

theorem occurrences_le_one {members : List (String × Json)}
    (h : (members.map (·.1)).Nodup) (name : String) : occurrences name members ≤ 1 := by
  have hcount := List.nodup_iff_count_le_one.1 h name
  rw [List.count, List.countP_map] at hcount
  exact hcount

/-- An object with distinct names gives each of its fields. -/
theorem fields?_object {names : List String} {members : List (String × Json)}
    (h : (members.map (·.1)).Nodup) :
    fields? names (.object members) =
      some fun name => if names.contains name then members.lookup name else none := by
  have hall : names.all (fun name => decide (occurrences name members ≤ 1)) = true :=
    List.all_eq_true.2 fun name _ => decide_eq_true (occurrences_le_one h name)
  simp only [fields?, hall, if_true]

/-- A value is split from the tag that was written before its members. -/
theorem tagged?_object {form : Form} {tag word : String} {words : List String}
    {members : List (String × Json)} (hword : word ∈ words)
    (htag : tag ∉ members.map (·.1)) :
    tagged? form tag words (.object ((tag, .text word) :: members)) =
      some (word, .object members) := by
  have hothers : ∀ m ∈ members, m.1 ≠ tag := by
    rintro m hm rfl
    exact htag (List.mem_map_of_mem hm)
  have hcount : occurrences tag ((tag, .text word) :: members) = 1 := by
    have hnone : members.countP (fun m => m.1 == tag) = 0 :=
      List.countP_eq_zero.2 fun m hm => by simp [hothers m hm]
    rw [occurrences, List.countP_cons, hnone]
    simp
  have hrest : ((tag, Json.text word) :: members).filter (fun m => m.1 != tag) = members := by
    rw [List.filter_cons_of_neg (by simp)]
    exact List.filter_eq_self.2 fun m hm => by simp [hothers m hm]
  rw [tagged?, if_pos hcount, hrest]
  simp [tag?, hword]

/-! A record is read one field after another. -/

section Fields

variable {f : Fields} {name : String} {v : Json} {read : Json → Option α} {a : α}

theorem bind_of_some {o : Option α} {g : α → Option β} {b : Option β} (h : o = some a)
    (hg : g a = b) : (o >>= g) = b := by
  rw [h]
  exact hg

theorem required_of_some (hf : f name = some v) (h : read v = some a) :
    required f name read = some a := by
  rw [required, hf]
  exact h

theorem optional_of_some {default : α} (hf : f name = some v) (h : read v = some a) :
    optional f name default read = some a := by
  rw [optional, hf]
  exact h

end Fields

/-- A list is read item by item. -/
theorem list?_eq_some_iff {read : Json → Option α} {v : Json} {l : List α} :
    list? read v = some l ↔
      ∃ items, v = .array items ∧ List.Forall₂ (fun w a => read w = some a) items l := by
  cases v with
  | array items =>
      show items.mapM read = some l ↔ _
      rw [mapM_eq_some_iff]
      simp
  | _ => simp [list?]

theorem list?_ofList {read : Json → Option β} {write : α → Json} {f : α → β} {l : List α}
    (h : ∀ a ∈ l, read (write a) = some (f a)) :
    list? read (.ofList write l) = some (l.map f) := by
  refine list?_eq_some_iff.2 ⟨l.map write, rfl, ?_⟩
  rw [List.forall₂_map_left_iff, List.forall₂_map_right_iff, List.forall₂_same]
  exact h

theorem list?_ofList_self {read : Json → Option α} {write : α → Json}
    (h : ∀ a, read (write a) = some a) (l : List α) : list? read (.ofList write l) = some l := by
  rw [list?_ofList fun a _ => h a, List.map_id']

@[simp] theorem uuid?_ofUuid (u : Uuid) : uuid? (ofUuid u) = some u :=
  Uuid.ofString?_toString u

@[simp] theorem text?_text (s : String) : text? (.text s) = some s := rfl

@[simp] theorem word?_text (form : Form) (s : String) : word? form (.text s) = some s := rfl

/-- An optional value is read as it was written, if the value itself is not written as `null`. -/
theorem nullable?_ofOption {read : Json → Option α} {write : α → Json}
    (h : ∀ a, read (write a) = some a) (hnull : ∀ a, write a ≠ .null) (o : Option α) :
    nullable? read (ofOption write o) = some o := by
  cases o with
  | none => rfl
  | some a =>
      show nullable? read (write a) = some (some a)
      cases hwrite : write a with
      | null => exact absurd hwrite (hnull a)
      | _ => simp only [nullable?, ← hwrite, h, Option.map_some]

@[simp] theorem nullable?_ofText? (o : Option String) :
    nullable? text? (ofText? o) = some o := by
  cases o <;> rfl

/-- What is read of a value that may be left out: `null` is nothing, and any other value its
normal form. -/
def present? : Json → Option Json
  | .null => none
  | v => some v.normalize

@[simp] theorem nullable?_any? (v : Json) : nullable? any? v = some v.present? := by
  cases v <;> rfl

theorem present?_eq_self_iff {v : Json} :
    v.present? = some v ↔ v ≠ .null ∧ v.normalize = v := by
  cases v <;> simp [present?]

/-- The members of an object are read as a map of their normal forms. -/
theorem dict?_any?_object (members : List (String × Json)) :
    dict? any? (.object members) =
      some (.ofList (members.map fun m => (m.1, m.2.normalize))) := by
  have hitems : members.mapM (fun m => (any? m.2).map (m.1, ·)) =
      some (members.map fun m => (m.1, m.2.normalize)) := by
    rw [mapM_eq_some_iff, List.forall₂_map_right_iff, List.forall₂_same]
    exact fun m _ => rfl
  rw [dict?, hitems, Option.map_some]

/-- A map of values is read as the map of their normal forms. -/
theorem dict?_ofDict (d : Dict String Json) :
    dict? any? (ofDict id d) = some (d.map fun _ v => v.normalize) := by
  show dict? any? (.object (d.toList.map fun e => (e.1, id e.2))) = _
  rw [dict?_any?_object, List.map_map]
  exact congrArg some (Dict.ofList_toList (d.map fun _ (v : Json) => v.normalize))

/-! ## The depth of parts -/

theorem depthItems_le_iff {items : List Json} {n : Nat} :
    depthItems items ≤ n ↔ ∀ v ∈ items, v.depth ≤ n := by
  induction items with
  | nil => simp [depthItems]
  | cons v rest ih => rw [depthItems, Nat.max_le, ih, List.forall_mem_cons]

theorem depthMembers_le_iff {members : List (String × Json)} {n : Nat} :
    depthMembers members ≤ n ↔ ∀ m ∈ members, m.2.depth ≤ n := by
  induction members with
  | nil => simp [depthMembers]
  | cons m rest ih => rw [depthMembers, Nat.max_le, ih, List.forall_mem_cons]

/-- A value without its tag is no deeper. -/
theorem depth_le_of_tagged? {form : Form} {tag word : String} {words : List String}
    {v rest : Json} (h : tagged? form tag words v = some (word, rest)) : rest.depth ≤ v.depth := by
  cases v with
  | object members =>
      rw [tagged?] at h
      split at h
      · obtain ⟨w, -, hpair⟩ := Option.bind_eq_some_iff.1 h
        cases hpair
        refine Nat.succ_le_succ (depthMembers_le_iff.2 fun m hm => ?_)
        exact depthMembers_le_iff.1 (Nat.le_refl _) m (List.mem_filter.1 hm).1
      · cases h
  | array items =>
      cases items with
      | nil => cases h
      | cons first items =>
          obtain ⟨w, -, hpair⟩ := Option.map_eq_some_iff.1 h
          cases hpair
          exact Nat.succ_le_succ (Nat.le_max_right _ _)
  | _ => cases h

theorem mem_of_lookup_eq_some {β : Type} {l : List (String × β)} {key : String} {b : β}
    (h : l.lookup key = some b) : (key, b) ∈ l := by
  obtain ⟨l₁, l₂, rfl, -⟩ := List.lookup_eq_some_iff.1 h
  exact List.mem_append_right _ List.mem_cons_self

/-- The fields of a record are less deep than the record. -/
theorem depth_lt_of_fields? {names : List String} {v w : Json} {f : Fields} {name : String}
    (h : v.fields? names = some f) (hw : f name = some w) : w.depth < v.depth := by
  cases v with
  | object members =>
      rw [fields?] at h
      split at h
      · obtain rfl := Option.some.inj h
        dsimp only at hw
        split at hw
        · have hmem : (name, w) ∈ members := mem_of_lookup_eq_some hw
          exact Nat.lt_succ_of_le (depthMembers_le_iff.1 (Nat.le_refl _) _ hmem)
        · cases hw
      · cases h
  | array items =>
      rw [fields?] at h
      split at h
      · obtain rfl := Option.some.inj h
        have hmem : w ∈ items := (List.of_mem_zip (mem_of_lookup_eq_some hw)).2
        exact Nat.lt_succ_of_le (depthItems_le_iff.1 (Nat.le_refl _) _ hmem)
      · cases h
  | _ => cases h

/-- Readers that agree on what is less deep read the same lists. -/
theorem list?_of_list? {read read' : Json → Option α} {v : Json} {l : List α}
    (h : list? read v = some l)
    (hread : ∀ w a, w.depth < v.depth → read w = some a → read' w = some a) :
    list? read' v = some l := by
  obtain ⟨items, rfl, hitems⟩ := list?_eq_some_iff.1 h
  have hdepth : ∀ w ∈ items, w.depth < (array items).depth := fun w hw =>
    Nat.lt_succ_of_le (depthItems_le_iff.1 (Nat.le_refl _) w hw)
  refine list?_eq_some_iff.2 ⟨items, rfl, ?_⟩
  exact ((List.forall₂_and_left items l).2 ⟨hdepth, hitems⟩).imp fun w a h => hread w a h.1 h.2

end Dataflow.Json
