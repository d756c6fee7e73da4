import Dataflow.CommandLine.Files
import Dataflow.Journal.Traced
import Dataflow.Json.Bytes
import Dataflow.Store.Memory

set_option autoImplicit false

/-! # Catalogs of revisions

A catalog is a directory of JSON files, each of which holds one revision or a list of them.
The files are read in the order of their names, and of revisions with the same identifier the
last one counts.
-/

namespace Dataflow

/-- Why the program failed: what it was doing, and then the causes behind that. -/
structure Failure where
  chain : List String
  deriving DecidableEq

namespace Failure

/-- The wording of a failure. -/
def message (f : Failure) : String := ": ".intercalate f.chain

/-- The failure of what the program was doing. -/
def during (f : Failure) (activity : String) : Failure := ⟨activity :: f.chain⟩

end Failure

namespace Catalog

/-- Reads the revisions of a file, which is tried as a list before it is tried as one. -/
def revisions? (bytes : ByteArray) : Option (List Revision) := do
  let v ← Json.parseBytes? .whole bytes
  (v.list? (Revision.read? .gathered)).or ((Revision.read? .gathered v).map fun r => [r])

/-- Whether a name comes no later than another. -/
def namedBefore (a b : String) : Bool := (compare a b).isLE

/-- The paths of the files of a catalog in the order of their names. -/
def paths (files : Files) (dir : String) : Except Failure (List String) :=
  match files.list dir with
  | .error fault => .error ⟨["failed to read catalog directory " ++ dir, fault.message]⟩
  | .ok names => .ok (((names.filter isJsonName).mergeSort namedBefore).map (joinPath dir))

/-- Reads one file of a catalog. -/
def readFile (files : Files) (path : String) : Except Failure (List Revision) :=
  match files.read path with
  | .error fault => .error ⟨["failed to read " ++ path, fault.message]⟩
  | .ok bytes =>
      match revisions? bytes with
      | some l => .ok l
      | none => .error ⟨["invalid revision file " ++ path]⟩

/-- Adds the revisions of files to a store, one file after another. -/
def loadFiles (files : Files) : List String → MemoryStore → Traced Failure MemoryStore
  | [], store => return store
  | path :: rest, store => do
      let revisions ← Traced.ofExcept (readFile files path)
      Traced.log (.catalogFileLoaded path revisions.length)
      loadFiles files rest (revisions.foldl MemoryStore.insert store)

/-- Loads a catalog. -/
def load (files : Files) (dir : String) : Traced Failure MemoryStore := do
  let paths ← Traced.ofExcept (paths files dir)
  let store ← loadFiles files paths .empty
  Traced.log (.catalogLoaded store.size)
  return store

end Catalog

end Dataflow
