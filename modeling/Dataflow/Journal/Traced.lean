import Dataflow.Journal.Event
import Dataflow.Url.Basic
import Dataflow.Wiring

set_option autoImplicit false

/-! # Computations that leave a trace

An `Entry` is one thing that an outside observer of an execution can see: a log event, a call
of a component body or of an adapter, or a request to another machine. A `Traced` computation
yields a value or fails, and in both cases leaves the list of its entries, in order.
-/

namespace Dataflow

/-- Named descriptors, as handed to an adapter. -/
abbrev Bindings := Dict String Descriptor

/-- A request to another machine. -/
structure Request where
  method : String
  url : Url
  authorization : Option String
  userAgent : String
  contentType : Option String
  /-- The text that is sent. -/
  body : Option String

/-- What an observer of an execution sees. -/
inductive Entry where
  | event (e : Event)
  /-- A component body was called with inputs. -/
  | bodyCalled (codeModule : Uuid) (function : String) (inputs : Values)
  /-- An adapter was asked for values. -/
  | loadCalled (adapter : String) (bindings : Bindings)
  /-- An adapter was handed values. -/
  | sendCalled (adapter : String) (bindings : Bindings) (values : Values)
  /-- A request reached another machine. -/
  | requested (r : Request)

/-- A result together with the entries left on the way to it. -/
structure Traced (ε α : Type) where
  entries : List Entry
  result : Except ε α

namespace Traced

variable {ε ε' α β : Type}

/-- A value, leaving nothing. -/
protected def pure (a : α) : Traced ε α := ⟨[], .ok a⟩

/-- One computation after another; a failure ends both. -/
protected def bind (t : Traced ε α) (f : α → Traced ε β) : Traced ε β :=
  match t.result with
  | .ok a =>
      let next := f a
      ⟨t.entries ++ next.entries, next.result⟩
  | .error e => ⟨t.entries, .error e⟩

instance : Monad (Traced ε) where
  pure := Traced.pure
  bind := Traced.bind

/-- A failure, leaving nothing. -/
def fail (e : ε) : Traced ε α := ⟨[], .error e⟩

/-- A result, leaving nothing. -/
def ofExcept (r : Except ε α) : Traced ε α := ⟨[], r⟩

/-- Leaves one entry. -/
def leave (e : Entry) : Traced ε Unit := ⟨[e], .ok ()⟩

/-- Leaves one log event. -/
def log (e : Event) : Traced ε Unit := leave (.event e)

/-- Rewords a failure. -/
def mapError (f : ε → ε') (t : Traced ε α) : Traced ε' α := ⟨t.entries, t.result.mapError f⟩

end Traced

end Dataflow
