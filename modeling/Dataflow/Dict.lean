set_option autoImplicit false

/-! # Maps in key order

A `Dict κ α` is a finite map from keys to values, kept as the list of its entries in
strictly ascending key order. The order is part of the type: two maps with the same
look-ups are the same list, and listing a map always goes through its keys in order.
For texts the order is the one of their code points.
-/

namespace Dataflow

/-- A finite map as its entries in strictly ascending key order. -/
structure Dict (κ : Type) (α : Type) [Ord κ] where
  entries : List (κ × α)
  ascending : entries.Pairwise (fun a b => compare a.1 b.1 = .lt)

namespace Dict

variable {κ : Type} {α β : Type}

section Entries

variable [Ord κ]

/-- The value under `k` in a list of entries. -/
def find (k : κ) : List (κ × α) → Option α
  | [] => none
  | (k', v) :: rest => if compare k k' = .eq then some v else find k rest

/-- Puts `v` under `k` at its place in an ascending list, replacing what was there. -/
def place (k : κ) (v : α) : List (κ × α) → List (κ × α)
  | [] => [(k, v)]
  | (k', v') :: rest =>
      match compare k k' with
      | .lt => (k, v) :: (k', v') :: rest
      | .eq => (k, v) :: rest
      | .gt => (k', v') :: place k v rest

theorem key_of_mem_place {k : κ} {v : α} {e : κ × α} {l : List (κ × α)}
    (h : e ∈ place k v l) : e = (k, v) ∨ e ∈ l := by
  induction l with
  | nil => simpa [place] using h
  | cons hd tl ih =>
    obtain ⟨k', v'⟩ := hd
    unfold place at h
    split at h
    · simpa using h
    · rcases List.mem_cons.1 h with h | h
      · exact .inl h
      · exact .inr (List.mem_cons_of_mem _ h)
    · rcases List.mem_cons.1 h with h | h
      · exact .inr (h ▸ List.mem_cons_self)
      · exact (ih h).imp id (List.mem_cons_of_mem _)

theorem ascending_place [Std.TransOrd κ] (k : κ) (v : α) {l : List (κ × α)}
    (h : l.Pairwise (fun a b => compare a.1 b.1 = .lt)) :
    (place k v l).Pairwise (fun a b => compare a.1 b.1 = .lt) := by
  induction l with
  | nil => simp [place]
  | cons hd tl ih =>
    obtain ⟨k', v'⟩ := hd
    obtain ⟨hhd, htl⟩ := List.pairwise_cons.1 h
    unfold place
    split
    · rename_i hlt
      refine List.pairwise_cons.2 ⟨fun e he => ?_, h⟩
      rcases List.mem_cons.1 he with rfl | he
      · exact hlt
      · exact Std.TransCmp.lt_trans hlt (hhd e he)
    · rename_i heq
      exact List.pairwise_cons.2 ⟨fun e he => Std.TransCmp.lt_of_eq_of_lt heq (hhd e he), htl⟩
    · rename_i hgt
      refine List.pairwise_cons.2 ⟨fun e he => ?_, ih htl⟩
      rcases key_of_mem_place he with rfl | he
      · exact Std.OrientedCmp.gt_iff_lt.1 hgt
      · exact hhd e he

end Entries

variable [Ord κ]

/-- The map without entries. -/
def empty : Dict κ α := ⟨[], .nil⟩

instance : EmptyCollection (Dict κ α) := ⟨empty⟩

instance : Inhabited (Dict κ α) := ⟨empty⟩

/-- The value under a key. -/
def get? (d : Dict κ α) (k : κ) : Option α := find k d.entries

/-- Whether a key has a value. -/
def contains (d : Dict κ α) (k : κ) : Bool := (d.get? k).isSome

/-- The entries in key order. -/
def toList (d : Dict κ α) : List (κ × α) := d.entries

/-- The keys in order. -/
def keys (d : Dict κ α) : List κ := d.entries.map (·.1)

/-- The values in key order. -/
def values (d : Dict κ α) : List α := d.entries.map (·.2)

/-- The number of entries. -/
def size (d : Dict κ α) : Nat := d.entries.length

/-- Whether there are no entries. -/
def isEmpty (d : Dict κ α) : Bool := d.entries.isEmpty

/-- Drops the entry of a key. -/
def erase (d : Dict κ α) (k : κ) : Dict κ α :=
  ⟨d.entries.filter (fun e => compare k e.1 != .eq), d.ascending.filter _⟩

/-- Changes every value, seeing its key. -/
def map (f : κ → α → β) (d : Dict κ α) : Dict κ β :=
  ⟨d.entries.map (fun e => (e.1, f e.1 e.2)), List.pairwise_map.2 d.ascending⟩

variable [Std.TransOrd κ]

/-- Puts a value under a key, replacing what was there. -/
def insert (d : Dict κ α) (k : κ) (v : α) : Dict κ α :=
  ⟨place k v d.entries, ascending_place k v d.ascending⟩

/-- Puts a value under a key that has none yet; an earlier value stays. -/
def insertNew (d : Dict κ α) (k : κ) (v : α) : Dict κ α :=
  if d.contains k then d else d.insert k v

/-- The map of a list of entries; of equal keys the last one counts. -/
def ofList (l : List (κ × α)) : Dict κ α := l.foldl (fun d e => d.insert e.1 e.2) empty

/-- The map with one entry. -/
def singleton (k : κ) (v : α) : Dict κ α := empty.insert k v

end Dict

end Dataflow
