import Dataflow.Execution.Result
import Dataflow.Text.Quoted

set_option autoImplicit false

/-! # Component bodies

The code of components is opaque: a component runs a body that is registered for one
function of one code module, or else for the function in every module. A body is a function
of the interface of the component and of its inputs, one value for each declared input.
-/

namespace Dataflow

/-- What a component does: outputs by name, or an error text. -/
abbrev Body := Interface → Values → Except String Values

/-- The registered bodies. -/
structure Bodies where
  /-- The bodies of single code modules, by function. -/
  modules : Dict Uuid (Dict String Body)
  /-- The bodies that serve every code module, by function. -/
  builtins : Dict String Body

/-- The function whose body hands on its single input. -/
def passThroughFunction : String := "pass_through"

/-- Hands the single input on as the single output. -/
def passThrough : Body := fun interface inputs =>
  match interface.inputs, interface.outputs with
  | [i], [o] => .ok (.singleton o.name ((inputs.get? i.name).getD .null))
  | _, _ => .error (passThroughFunction ++ " needs exactly one input and one output")

namespace Bodies

/-- No bodies. -/
def empty : Bodies := ⟨.empty, .empty⟩

/-- Registers the body of a function of one code module. -/
def register (b : Bodies) (codeModule : Uuid) (function : String) (body : Body) : Bodies :=
  let functions := (b.modules.get? codeModule).getD .empty
  { b with modules := b.modules.insert codeModule (functions.insert function body) }

/-- Registers the body of a function of every code module. -/
def registerBuiltin (b : Bodies) (function : String) (body : Body) : Bodies :=
  { b with builtins := b.builtins.insert function body }

/-- The bodies that come with the program. -/
def standard : Bodies := empty.registerBuiltin passThroughFunction passThrough

/-- The body of a function of a code module; one for the module goes before one for all. -/
def get? (b : Bodies) (codeModule : Uuid) (function : String) : Option Body :=
  ((b.modules.get? codeModule).bind (·.get? function)).or (b.builtins.get? function)

/-- How many modules have bodies, and for which functions every module has one. -/
def summary (b : Bodies) : String :=
  "BodyRegistry \x7b modules: " ++ toString b.modules.size ++ ", builtins: " ++
    Text.quotedList b.builtins.keys ++ " \x7d"

end Bodies

end Dataflow
