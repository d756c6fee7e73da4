import Dataflow.CommandLine.Program

set_option autoImplicit false

/-! # Entry point

Takes the arguments, the environment and the files from the operating system, runs the program
on them, and writes what it leaves behind. There is no network here, so that no remote runtime
ever answers.
-/

open Dataflow

/-- A fault of the operating system in the words of the program. -/
def faultOf : IO.Error → FileFault
  | .noFileOrDirectory .. | .noSuchThing .. => .missing
  | .inappropriateType .. => .notADirectory
  | e => .described (toString e)

/-- The result of an action that may fail. -/
def attempt {α : Type} (action : IO α) : IO (Except FileFault α) := do
  try return .ok (← action) catch e => return .error (faultOf e)

/-- The names in a directory. -/
def namesIn (dir : String) : IO (Except FileFault (List String)) :=
  attempt do
    let path ← IO.FS.realPath dir
    return (← path.readDir).toList.map (·.fileName)

/-- The paths that options lead the program to read, other than the catalog. -/
def wiringPaths (o : Options) : List String :=
  match o.command with
  | .run _ wiring _ _ => wiring.toList
  | _ => []

/-- What the files hold that options lead the program to read. -/
def snapshot (o : Options) : IO Files := do
  let names ← namesIn o.catalogDir
  let inCatalog := ((names.toOption.getD []).filter isJsonName).map (joinPath o.catalogDir)
  let contents ← (inCatalog ++ wiringPaths o).mapM fun (path : String) => do
    return (path, ← attempt (IO.FS.readBinFile path))
  return {
    list := fun _ => names
    read := fun path => (contents.lookup path).getD (.error .missing) }

/-- Sixteen random bytes as a number. -/
def randomNumber : IO Nat := do
  return (← IO.getRandomBytes 16).toList.foldl (fun n b => 256 * n + b.toNat) 0

/-- The `n`th identity after a random number: its digits but for those of the version and the
variant, which are set. -/
def identityAfter (start version n : Nat) : Uuid :=
  let k := start + n
  .ofNat (k / 2 ^ 80 % 2 ^ 48 * 2 ^ 80 + version * 2 ^ 76 + k / 2 ^ 64 % 2 ^ 12 * 2 ^ 64
    + 2 ^ 63 + k % 2 ^ 62)

/-- Fresh identities, and the time at which the program began. -/
def supply : IO Supply := do
  let first ← randomNumber
  let second ← randomNumber
  let began ← IO.monoNanosNow
  return {
    operatorId := identityAfter first 7
    randomId := identityAfter second 4
    clock := fun _ => ⟨began⟩ }

/-- What the environment says on the options that it can give. -/
def environment : IO (List (String × String)) := do
  let names := Options.grammar.options.filterMap (·.envName)
  let found ← names.mapM fun name => do return (← IO.getEnv name).map fun value => (name, value)
  return found.filterMap id

/-- Runs the program. -/
def main (args : List String) : IO UInt32 := do
  let given ← environment
  let env := fun name => given.lookup name
  let files ←
    match Options.parse args env with
    | .ok o => snapshot o
    | .error _ => pure FileTree.empty.toFiles
  let surroundings : Surroundings := { files, env, transport := fun _ => none }
  let (outcome, _) := (Program.start args surroundings).start (← supply)
  IO.print outcome.stdout
  IO.eprint outcome.stderr
  return UInt32.ofNat outcome.exitCode
