import Dataflow.Url.Host

set_option autoImplicit false

/-! # URLs

A `Url` has a scheme, an authority, a path, a query and a fragment. A hierarchical path is a
list of segments, of which the last is empty if the path ends in a slash; an opaque path is a
text. `inDirectory` turns the last segment into one that further segments can stand below,
and `sibling?` names what stands beside the last segment.
-/

namespace Dataflow

/-- The path of a URL. -/
inductive UrlPath where
  /-- A text that is not divided. -/
  | opaqueText (text : List Char)
  | segments (l : List (List Char))
  deriving DecidableEq

/-- The host of a URL, with what stands around it. -/
structure Authority where
  /-- User name and password, in written form. -/
  user : List Char
  host : List Char
  /-- The port, if it is not the usual one of the scheme. -/
  port : Option Nat
  deriving DecidableEq

/-- A uniform resource locator. -/
structure Url where
  scheme : String
  authority : Option Authority
  path : UrlPath
  query : Option (List Char)
  fragment : Option (List Char)
  deriving DecidableEq

/-- The written form of a path. -/
def UrlPath.toChars : UrlPath → List Char
  | opaqueText text => text
  | segments l => l.flatMap ('/' :: ·)

namespace Url

/-- The written form of an authority. -/
def authorityChars (a : Authority) : List Char :=
  ['/', '/'] ++ (if a.user.isEmpty then [] else a.user ++ ['@']) ++ a.host ++
    (match a.port with
     | some p => ':' :: (Nat.repr p).toList
     | none => [])

/-- A part after its mark, if there is one. -/
def markedPart (mark : Char) : Option (List Char) → List Char
  | some cs => mark :: cs
  | none => []

/-- The written form of what stands before the path. A path that begins with two slashes would be
read as an authority, so without one a slash and a dot are put before it. -/
def frontChars (u : Url) : List Char :=
  match u.authority, u.path with
  | some a, _ => authorityChars a
  | none, .segments ([] :: _ :: _) => ['/', '.']
  | none, _ => []

/-- The written form of a URL. -/
protected def toString (u : Url) : String :=
  u.scheme ++ ":" ++ String.ofList
    (u.frontChars ++ u.path.toChars ++ markedPart '?' u.query ++ markedPart '#' u.fragment)

instance : ToString Url := ⟨Url.toString⟩

/-- A path that ends in a slash. A leading slash of an opaque path is written encoded. -/
def pathInDirectory : UrlPath → UrlPath
  | .opaqueText [] => .opaqueText ['%', '2', 'F']
  | .opaqueText text =>
      if text.getLast? = some '/' then .opaqueText text else .opaqueText (text ++ ['/'])
  | .segments l => if l.getLast? = some [] then .segments l else .segments (l ++ [[]])

/-- The URL with a path that ends in a slash. -/
def inDirectory (u : Url) : Url := { u with path := pathInDirectory u.path }

/-- The URL of a name beside the last segment of the path. -/
def sibling? (u : Url) (name : String) : Except UrlFault Url :=
  match u.path with
  | .opaqueText _ => .error .relativeToOpaque
  | .segments l =>
      .ok { u with
        path := .segments (l.dropLast ++ [name.toList]), query := none, fragment := none }

/-- The characters of a host that no request can be sent to. -/
def isUnsendable (c : Char) : Bool := ['"', '\x60', '\x7b', '\x7d'].contains c

/-- Whether requests can be sent to a URL. -/
def takesRequests (u : Url) : Bool :=
  (u.scheme == "http" || u.scheme == "https") &&
    u.authority.any fun a => !a.host.any isUnsendable

/-- Whether a URL names a host and a port that is not the usual one. -/
def isAt (u : Url) (host : String) (port : Nat) : Bool :=
  u.authority.any fun a => a.host == host.toList && a.port == some port

/-- The URL without user name and password. -/
def withoutUser (u : Url) : Url :=
  { u with authority := u.authority.map fun a => { a with user := [] } }

/-- User name and password as they are meant, if both are texts; a password that is none counts
as absent. -/
def credentials? (u : Url) : Option (List Char × List Char) := do
  let a ← u.authority
  let (name, password) := a.user.span (· ≠ ':')
  let name ← percentDecode? name
  let password := (percentDecode? password.tail).getD []
  if a.user.isEmpty then none else some (name, password)

end Url

end Dataflow
