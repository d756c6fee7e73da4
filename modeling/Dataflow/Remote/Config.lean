import Dataflow.Remote.Version

set_option autoImplicit false

/-! # Settings of a remote runtime

A `RemoteConfig` says where executions are sent to, if anywhere, how long to wait for an
answer, and what the program calls itself. `Credentials` say what it proves itself with.
-/

namespace Dataflow

/-- The settings of a remote runtime. -/
structure RemoteConfig where
  /-- Where the runtime is; without it executions run in this process. -/
  url : Option String
  /-- How many seconds to wait; zero means the standard time. -/
  timeout : Nat
  userAgent : Option String
  deriving DecidableEq

namespace RemoteConfig

/-- How many seconds to wait when nothing is configured. -/
def standardTimeout : Nat := 30

/-- The settings when nothing is configured. -/
def standard : RemoteConfig := ⟨none, standardTimeout, none⟩

/-- Whether executions are sent to a remote runtime. -/
def isRemote (c : RemoteConfig) : Bool := c.url.isSome

/-- How many seconds to wait. -/
def effectiveTimeout (c : RemoteConfig) : Nat :=
  if c.timeout = 0 then standardTimeout else c.timeout

/-- What the program calls itself; an empty name counts as none. -/
def effectiveUserAgent (c : RemoteConfig) : String :=
  match c.userAgent with
  | some name => if name = "" then "cascade/" ++ toString Version.current else name
  | none => "cascade/" ++ toString Version.current

/-- Reads settings; each may be absent. -/
def ofJson? (v : Json) : Option RemoteConfig := do
  let f ← v.fields? ["runtime_url", "runtime_timeout", "user_agent"]
  let url ← Json.optional f "runtime_url" none (Json.nullable? Json.text?)
  let timeout ← Json.optional f "runtime_timeout" standardTimeout Json.word64?
  let userAgent ← Json.optional f "user_agent" none (Json.nullable? Json.text?)
  some { url, timeout, userAgent }

/-- Writes settings. -/
def toJson (c : RemoteConfig) : Json :=
  .object [("runtime_url", .ofText? c.url), ("runtime_timeout", .ofNat c.timeout),
    ("user_agent", .ofText? c.userAgent)]

end RemoteConfig

/-- What the program proves itself with. -/
inductive Credentials where
  /-- Requests carry no credentials. -/
  | anonymous
  /-- Every request carries the same token. -/
  | token (t : String)
  /-- No credentials can be had. -/
  | unavailable (cause : String)
  deriving DecidableEq

namespace Credentials

/-- The credentials with a token, or none. -/
def ofToken? : Option String → Credentials
  | some t => token t
  | none => anonymous

/-- The token that a request carries, or why it cannot be had. -/
def obtain : Credentials → Except String (Option String)
  | anonymous => .ok none
  | token t => .ok (some t)
  | unavailable cause => .error cause

/-- What logs may say about credentials: a token is not shown. -/
def summary : Credentials → String
  | anonymous => "NoAuth"
  | token _ => "StaticToken(\"***\")"
  | unavailable _ => "Unavailable"

end Credentials

end Dataflow
