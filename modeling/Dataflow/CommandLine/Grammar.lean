set_option autoImplicit false

/-! # Reading command lines

A `Grammar` lists the options, the positional argument and the commands that a command line
may hold. `Grammar.scan` reads words against it, up to the first command: options are given as
`--name value` or `--name=value`, a value that begins with a hyphen only in the second way,
and after `--` every word is positional. An option that is no list is given at most once.

Words are read from left to right and the first fault counts. The value of an option in the
first way, and a positional argument, is looked at only when the next one is met or the words
end; a command that follows is read before.
-/

namespace Dataflow

/-- What the value of an option may be. -/
inductive ValueForm where
  /-- There is no value. -/
  | flag
  /-- Any text; an option with this form can be given again. -/
  | list
  /-- Any text that passes a test. -/
  | single (accepts : String → Bool)

/-- An option, or the positional argument. -/
structure OptionSpec where
  name : String
  /-- The variable of the environment that stands in for the option. -/
  envName : Option String
  form : ValueForm

/-- What a command line may hold. -/
structure Grammar where
  options : List OptionSpec
  positional : Option OptionSpec
  commands : List String
  /-- Whether the version can be asked for. -/
  showsVersion : Bool

/-- Why a command line is not carried out. -/
inductive Refusal where
  /-- It is not well formed. -/
  | usage
  /-- Help is asked for. -/
  | help
  /-- The version is asked for. -/
  | version
  deriving DecidableEq

/-- Options with their values, in the order in which they were given. -/
abbrev Given := List (String × String)

/-- Reads a value into those given before. -/
def OptionSpec.give (o : OptionSpec) (value : String) (given : Given) : Except Refusal Given :=
  match o.form with
  | .list => .ok (given ++ [(o.name, value)])
  | .flag => if (given.lookup o.name).isSome then .error .usage else .ok (given ++ [(o.name, value)])
  | .single accepts =>
      if (given.lookup o.name).isSome ∨ ¬ accepts value then .error .usage
      else .ok (given ++ [(o.name, value)])

/-- What has been read so far. -/
structure Scanned where
  given : Given
  /-- The option or argument read last, if its value has not been looked at. -/
  waiting : Option (OptionSpec × String)
  /-- The command and the words after it. -/
  command : Option (String × List String)

namespace Scanned

/-- Nothing read. -/
def empty : Scanned := ⟨[], none, none⟩

/-- Looks at the value that waits. -/
def settle (s : Scanned) : Except Refusal Scanned :=
  match s.waiting with
  | none => .ok s
  | some (o, value) => (o.give value s.given).map fun given => { s with given, waiting := none }

/-- Lets a value wait, after the one before has been looked at. -/
def await (s : Scanned) (o : OptionSpec) (value : String) : Except Refusal Scanned :=
  s.settle.map fun s => { s with waiting := some (o, value) }

/-- Whether an option or argument has been read. -/
def has (s : Scanned) (o : OptionSpec) : Bool :=
  (s.given.lookup o.name).isSome || s.waiting.any (·.1.name == o.name)

end Scanned

/-- What a word looks like. -/
inductive Word where
  /-- `--` -/
  | separator
  /-- `--name` or `--name=value` -/
  | long (name : String) (value : Option String)
  /-- `-x`, and further characters. -/
  | short (first : Char)
  | plain

/-- What a word looks like. -/
def Word.ofString (s : String) : Word :=
  match s.toList with
  | ['-', '-'] => .separator
  | '-' :: '-' :: cs =>
      match cs.span (· ≠ '=') with
      | (name, _ :: value) => .long (String.ofList name) (some (String.ofList value))
      | (name, []) => .long (String.ofList name) none
  | '-' :: c :: _ => .short c
  | _ => .plain

namespace Grammar

/-- The option with a name. -/
def option? (g : Grammar) (name : String) : Option OptionSpec := g.options.find? (·.name == name)

/-- Reads a word as the positional argument. -/
def readPositional (g : Grammar) (s : Scanned) (word : String) : Except Refusal Scanned :=
  match g.positional with
  | some o => if s.has o then .error .usage else s.await o word
  | none => .error .usage

/-- What is shown for a word that asks for it, once the value that waits is looked at. -/
def showInstead (s : Scanned) (shown : Refusal) : Except Refusal Scanned :=
  match s.settle with
  | .ok _ => .error shown
  | .error refusal => .error refusal

/-- Whether the words after `help` name a command to help with. -/
def helpsWith (g : Grammar) : List String → Bool
  | [] => true
  | [word] => word == "help" || g.commands.contains word
  | "help" :: [word] => g.commands.contains word
  | _ => false

/-- Reads an option whose value is attached, if it has one, or that needs none. -/
def readLong (g : Grammar) (s : Scanned) (name : String) (value : Option String) :
    Except Refusal Scanned :=
  match g.option? name, value with
  | some o, some v =>
      match o.form with
      | .flag => .error .usage
      | _ => do
          let s ← s.settle
          let given ← o.give v s.given
          return { s with given }
  | some o, none => s.await o ""
  | none, some _ => .error .usage
  | none, none =>
      if name = "help" then showInstead s .help
      else if name = "version" ∧ g.showsVersion then showInstead s .version
      else .error .usage

/-- Reads a short option. -/
def readShort (g : Grammar) (s : Scanned) (c : Char) : Except Refusal Scanned :=
  if c = 'h' then showInstead s .help
  else if c = 'V' ∧ g.showsVersion then showInstead s .version
  else .error .usage

/-- Whether an option takes the next word as its value. -/
def takesNext (g : Grammar) (name : String) : Option OptionSpec :=
  (g.option? name).filter fun o =>
    match o.form with
    | .flag => false
    | _ => true

/-- Whether a word can be a value of its own. -/
def isValue (word : String) : Bool :=
  match Word.ofString word with
  | .plain => true
  | _ => false

/-- Reads words up to the first command. -/
def scan (g : Grammar) : List String → Scanned → Except Refusal Scanned
  | [], s => .ok s
  | [word], s =>
      match Word.ofString word with
      | .separator => .ok s
      | .long name value =>
          if value.isNone ∧ (g.takesNext name).isSome then .error .usage else g.readLong s name value
      | .short c => g.readShort s c
      | .plain =>
          if g.commands.isEmpty then g.readPositional s word
          else if g.commands.contains word then .ok { s with command := some (word, []) }
          else if word = "help" then .error .help
          else .error .usage
  | word :: next :: rest, s =>
      match Word.ofString word with
      | .separator => (next :: rest).foldlM g.readPositional s
      | .long name none =>
          match g.takesNext name with
          | some o =>
              if isValue next then do g.scan rest (← s.await o next) else .error .usage
          | none => do g.scan (next :: rest) (← g.readLong s name none)
      | .long name value => do g.scan (next :: rest) (← g.readLong s name value)
      | .short c => do g.scan (next :: rest) (← g.readShort s c)
      | .plain =>
          if g.commands.isEmpty then do g.scan (next :: rest) (← g.readPositional s word)
          else if g.commands.contains word then .ok { s with command := some (word, next :: rest) }
          else if word = "help" ∧ g.helpsWith (next :: rest) then .error .help
          else .error .usage

/-- The options of a line with those that the environment stands in for. -/
def withEnvironment (g : Grammar) (env : String → Option String) (given : Given) :
    Except Refusal Given :=
  g.options.foldlM (fun given o =>
    match (given.lookup o.name).isNone, o.envName.bind env with
    | true, some value => o.give value given
    | _, _ => .ok given) given

/-- Reads words that hold no command. -/
def read (g : Grammar) (words : List String) : Except Refusal Given := do
  let s ← g.scan words .empty
  return (← s.settle).given

end Grammar

/-- The values given for a list, each split at its commas. -/
def Given.names? (given : Given) (name : String) : Option (List String) :=
  match given.filter (·.1 == name) with
  | [] => none
  | l => some (l.flatMap fun e => e.2.splitOn ",")

end Dataflow
