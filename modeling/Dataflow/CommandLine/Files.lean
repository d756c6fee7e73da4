import Dataflow.Dict

set_option autoImplicit false

/-! # Files

`Files` is what the program sees of a file system: the names in a directory and the bytes of
files. A `FileTree` holds files in memory.
-/

namespace Dataflow

/-- Why a file or a directory cannot be read. -/
inductive FileFault where
  | missing | notADirectory | isADirectory
  /-- A fault given in words. -/
  | described (text : String)
  deriving DecidableEq

/-- The wording of a fault. -/
def FileFault.message : FileFault → String
  | missing => "No such file or directory (os error 2)"
  | notADirectory => "Not a directory (os error 20)"
  | isADirectory => "Is a directory (os error 21)"
  | described text => text

/-- What can be read of a file system. -/
structure Files where
  /-- The names in a directory. -/
  list : String → Except FileFault (List String)
  /-- The bytes of a file. -/
  read : String → Except FileFault ByteArray

/-- What stands at a path. -/
inductive FileNode where
  | file (bytes : ByteArray)
  | directory

/-- Files and directories in memory, by the names on the way to them. The directory at the root
is always there. -/
structure FileTree where
  nodes : List (List String × FileNode)

namespace FileTree

/-- The tree with nothing but its root. -/
def empty : FileTree := ⟨[]⟩

/-- What stands at the end of the given names. -/
def node? (t : FileTree) : List String → Option FileNode
  | [] => some .directory
  | names => t.nodes.lookup names

/-- The proper beginnings of a list that are not empty. -/
def beginnings (names : List String) : List (List String) :=
  (List.range (names.length - 1)).map fun i => names.take (i + 1)

/-- Adds a node, with the directories on the way to it, replacing what was there. -/
def add (t : FileTree) (names : List String) (node : FileNode) : FileTree :=
  let dirs := (beginnings names).filter fun d => (t.node? d).isNone
  ⟨t.nodes.filter (·.1 ≠ names) ++ dirs.map (·, FileNode.directory) ++ [(names, node)]⟩

/-- The parts of a path between slashes; an empty part and a dot stand for no step. -/
def steps (path : String) : List String := (path.splitOn "/").filter fun s => s ≠ "" && s ≠ "."

/-- Adds a file that holds a text at a path; a path that ends in a slash is that of a directory. -/
def addPath (t : FileTree) (path text : String) : FileTree :=
  t.add (steps path) (if path.endsWith "/" then .directory else .file text.toUTF8)

/-- Whether a path surely stays below the place it starts at: it goes on from there and has no
two dots in a row. -/
def staysBelow (path : String) : Bool :=
  path ≠ "" && !path.startsWith "/" && (path.splitOn "..").length == 1

/-- The tree of files given by their paths, each of which stays below its root. -/
def ofList? (files : List (String × String)) : Option FileTree :=
  if files.all fun f => staysBelow f.1 then
    some (files.foldl (fun t f => t.addPath f.1 f.2) empty)
  else none

/-- Goes from directory to directory; two dots lead back. -/
def walk (t : FileTree) : List String → List String → Except FileFault (List String)
  | at_, [] => .ok at_
  | at_, step :: rest =>
      match t.node? at_ with
      | none => .error .missing
      | some (.file _) => .error .notADirectory
      | some .directory =>
          if step = ".." then t.walk at_.dropLast rest else t.walk (at_ ++ [step]) rest

/-- What stands at a path. Behind a slash or a dot there must be a directory, and nothing stands
above the root. -/
def find (t : FileTree) (path : String) : Except FileFault (List String × FileNode) := do
  if path = "" ∨ path.startsWith "/" then throw .missing
  let names ← t.walk [] (steps path)
  match t.node? names with
  | none => throw .missing
  | some (.file bytes) =>
      if path.endsWith "/" ∨ path.endsWith "/." then throw .notADirectory
      else return (names, .file bytes)
  | some .directory => return (names, .directory)

/-- The names in a directory. -/
def list (t : FileTree) (path : String) : Except FileFault (List String) := do
  match ← t.find path with
  | (_, .file _) => throw .notADirectory
  | (names, .directory) =>
      return t.nodes.filterMap fun n =>
        if n.1.length = names.length + 1 ∧ n.1.take names.length = names then n.1.getLast? else none

/-- The bytes of a file. -/
def read (t : FileTree) (path : String) : Except FileFault ByteArray := do
  match ← t.find path with
  | (_, .file bytes) => return bytes
  | (_, .directory) => throw .isADirectory

/-- The tree as a file system seen from its root, where no path is empty. -/
def toFiles (t : FileTree) : Files := ⟨t.list, t.read⟩

/-- The tree as a file system seen from outside: a path goes on from the root, which is that of
the empty path. -/
def below (t : FileTree) : Files := ⟨fun path => t.list (if path = "" then "." else path), t.read⟩

end FileTree

/-- The path of a name in a directory. -/
def joinPath (dir name : String) : String :=
  if dir.endsWith "/" ∨ dir = "" then dir ++ name else dir ++ "/" ++ name

/-- Whether a file name ends in `.json` behind another part. -/
def isJsonName (name : String) : Bool := name.endsWith ".json" && name ≠ ".json"

end Dataflow
