import Dataflow.Revision.Basic

set_option autoImplicit false

/-! # Stores of revisions

A `Query` selects revisions by kind, state, category and identifier; what it leaves open
admits everything. A `RevisionStore` is any source of revisions that answers look-ups and
queries and may fail at it. A `MemoryStore` holds revisions by identifier, each under its
own; a selection from it is listed by name, and by identifier within a name.
-/

namespace Dataflow

/-- A selection of revisions; an absent condition admits every revision. -/
structure Query where
  kind : Option RevisionKind
  states : Option (List RevisionState)
  categories : Option (List String)
  ids : Option (List Uuid)

namespace Query

/-- The selection of every revision. -/
def all : Query := ⟨none, none, none, none⟩

/-- Whether a condition is absent or met. -/
def admits {α : Type} (condition : Option α) (test : α → Bool) : Bool :=
  match condition with
  | none => true
  | some a => test a

/-- Whether a revision meets every condition. -/
def selects (q : Query) (r : Revision) : Bool :=
  admits q.kind (fun k => r.kind = k) && admits q.states (fun l => l.contains r.state) &&
    admits q.categories (fun l => l.contains r.category) && admits q.ids (fun l => l.contains r.id)

end Query

/-- A source of revisions. -/
structure RevisionStore where
  /-- The revision with an identifier, whatever its state. -/
  get : Uuid → Except ModelError Revision
  /-- Every revision that a query selects. -/
  select : Query → Except ModelError (List Revision)
  /-- The categories in ascending order, of one kind of revision or of all. -/
  categories : Option RevisionKind → Except ModelError (List String)

/-- Revisions, each under its identifier. -/
structure MemoryStore where
  revisions : Dict Uuid Revision
  keyed : ∀ e ∈ revisions.entries, e.2.id = e.1

namespace MemoryStore

/-- The store without revisions. -/
def empty : MemoryStore := ⟨.empty, fun _ he => nomatch he⟩

/-- Adds a revision, replacing the one with its identifier. -/
def insert (s : MemoryStore) (r : Revision) : MemoryStore where
  revisions := s.revisions.insert r.id r
  keyed e he := by
    rcases Dict.key_of_mem_place he with rfl | hold
    · rfl
    · exact s.keyed e hold

/-- The store of a list of revisions; of equal identifiers the last one counts. -/
def ofList (l : List Revision) : MemoryStore := l.foldl insert empty

/-- The revision with an identifier, and the store without it. -/
def remove (s : MemoryStore) (id : Uuid) : Option Revision × MemoryStore :=
  (s.revisions.get? id,
    { revisions := s.revisions.erase id
      keyed := fun e he => s.keyed e (List.mem_filter.1 he).1 })

/-- The number of revisions. -/
def size (s : MemoryStore) : Nat := s.revisions.size

/-- Whether there are no revisions. -/
def isEmpty (s : MemoryStore) : Bool := s.revisions.isEmpty

/-- The revision with an identifier. -/
def get (s : MemoryStore) (id : Uuid) : Except ModelError Revision :=
  match s.revisions.get? id with
  | some r => .ok r
  | none => .error (.notFound id)

/-- Whether a revision is listed no later than another: by name, then by identifier. -/
def listedBefore (a b : Revision) : Bool :=
  ((compare a.name b.name).then (compare a.id b.id)).isLE

/-- The revisions that a query selects, by name and identifier. -/
def select (s : MemoryStore) (q : Query) : List Revision :=
  (s.revisions.values.filter q.selects).mergeSort listedBefore

/-- The categories in ascending order, each once. -/
def categories (s : MemoryStore) (kind : Option RevisionKind) : List String :=
  let selected := s.revisions.values.filter fun r => Query.admits kind (fun k => r.kind = k)
  (Dict.ofList (selected.map fun r => (r.category, ()))).keys

/-- The store as a source of revisions; only a look-up can fail. -/
def toStore (s : MemoryStore) : RevisionStore where
  get := s.get
  select q := .ok (s.select q)
  categories kind := .ok (s.categories kind)

end MemoryStore

end Dataflow
