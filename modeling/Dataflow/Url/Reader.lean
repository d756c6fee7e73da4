import Dataflow.Url.Basic

set_option autoImplicit false

/-! # Reading URLs

`Url.parse` reads an absolute URL. Blanks and controls at both ends and line breaks and tabs
anywhere count for nothing. The special schemes are those with a usual port; their authority
may stand behind any number of slashes, a backslash is a slash in them, and their path is
never empty. In a path the segment `.` counts for nothing and `..` drops the one before it.
-/

namespace Dataflow.Url

/-- The special schemes with their usual ports. -/
def usualPorts : List (String × Nat) :=
  [("http", 80), ("https", 443), ("ws", 80), ("wss", 443), ("ftp", 21)]

/-- The characters that count: none at the ends up to the blank, no tab and no line break. -/
def significant (cs : List Char) : List Char :=
  let isLow := fun (c : Char) => c.toNat ≤ 0x20
  (((cs.dropWhile isLow).reverse.dropWhile isLow).reverse).filter
    (fun c => c ≠ '\t' && c ≠ '\n' && c ≠ '\r')

/-- Whether a character may stand in a scheme after its first one. -/
def isSchemeChar (c : Char) : Bool := c.isAlphanum || c = '+' || c = '-' || c = '.'

/-- A text split behind its scheme. -/
def scheme? (cs : List Char) : Option (String × List Char) :=
  match cs.span isSchemeChar with
  | (c :: name, ':' :: rest) =>
      if c.isAlpha then some (String.ofList ((c :: name).map Char.toLower), rest) else none
  | _ => none

/-- Whether a character is a slash in a URL. -/
def isSlash (special : Bool) (c : Char) : Bool := c = '/' || (special && c = '\\')

/-- Whether a character ends an authority. -/
def endsAuthority (special : Bool) (c : Char) : Bool := isSlash special c || c = '?' || c = '#'

/-! ## Authority -/

/-- The part before the last `@` and the part behind it. -/
def splitUser (cs : List Char) : Option (List Char × List Char) :=
  if cs.contains '@' then
    let behind := (cs.reverse.takeWhile (· ≠ '@')).reverse
    some (cs.take (cs.length - behind.length - 1), behind)
  else none

/-- User name and password in written form. An empty password is left out. -/
def userText (cs : List Char) : List Char :=
  let (name, password) := cs.span (· ≠ ':')
  percentEncode userSet name ++
    (if password.tail.isEmpty then [] else ':' :: percentEncode userSet password.tail)

/-- A text split before the first colon outside brackets. -/
def splitHost : Bool → List Char → List Char × List Char
  | _, [] => ([], [])
  | inside, c :: cs =>
      if c = ':' && !inside then ([], c :: cs)
      else
        let (host, rest) := splitHost (if c = '[' then true else if c = ']' then false else inside) cs
        (c :: host, rest)

/-- The port that a text gives after its colon, and what follows it; the usual one is left out.
A backslash ends the port. -/
def portOf (usual : Option Nat) : List Char → Except UrlFault (Option Nat × List Char)
  | [] => .ok (none, [])
  | _ :: cs =>
      let ds := cs.takeWhile Char.isDigit
      let rest := cs.dropWhile Char.isDigit
      match numeral? 10 ds with
      | some n =>
          if n ≥ 65536 ∨ (rest.head?.any (· ≠ '\\')) then .error .port
          else .ok (if ds.isEmpty ∨ usual = some n then none else some n, rest)
      | none => .error .port

/-- The authority that a text gives, and what is left of the text. `more` says whether anything
follows the text. -/
def authorityOf (usual : Option Nat) (more : Bool) (cs : List Char) :
    Except UrlFault (Authority × List Char) := do
  let split := splitUser cs
  let (userPart, hostPort) := split.getD ([], cs)
  if split.isSome ∧ userPart.isEmpty ∧ hostPort.isEmpty ∧ more then throw .emptyHost
  let user := userText userPart
  let (hostText, portText) := splitHost false hostPort
  let host ← if usual.isSome then specialHost hostText else opaqueHost hostText
  if host.isEmpty ∧ ¬ (user.isEmpty ∧ portText.isEmpty) then throw .emptyHost
  let (port, rest) ← portOf usual portText
  return (⟨user, host, port⟩, rest)

/-! ## Path, query and fragment -/

/-- A segment with its encoded dots written out. -/
def dots (cs : List Char) : List Char :=
  match cs with
  | '%' :: '2' :: 'e' :: rest | '%' :: '2' :: 'E' :: rest => '.' :: dots rest
  | c :: rest => c :: dots rest
  | [] => []

/-- Whether a segment is the letter of a drive, with a colon or a bar behind it. -/
def isDrive : List Char → Bool
  | [c, d] => c.isAlpha && (d = ':' || d = '|')
  | _ => false

/-- The path one step up. The letter of a drive stays. -/
def parent (path : List (List Char)) : List (List Char) :=
  if path.getLast?.any isDrive then path else path.dropLast

/-- The written form of a segment behind a path. The letter of a drive that begins the path of a
file is followed by a colon. -/
def segmentText (isFile : Bool) (path : List (List Char)) (s : List Char) : List Char :=
  let text := percentEncode pathSet s
  if isFile && path.isEmpty && isDrive text then text.take 1 ++ [':'] else text

/-- Adds segments to a path, working off the dots. -/
def resolve (isFile : Bool) : List (List Char) → List (List Char) → List (List Char)
  | path, [] => path
  | path, s :: rest =>
      let last := rest.isEmpty
      if dots s = ['.', '.'] then resolve isFile (parent path ++ if last then [[]] else []) rest
      else if dots s = ['.'] then resolve isFile (path ++ if last then [[]] else []) rest
      else resolve isFile (path ++ [segmentText isFile path s]) rest

/-- The path of a file does not begin with an empty segment, unless there is no other. -/
def filePath (segments : List (List Char)) : List (List Char) :=
  match segments.dropWhile List.isEmpty with
  | [] => [[]]
  | l => l

/-- The parts of a text between slashes. -/
def slashParts (special : Bool) (cs : List Char) : List (List Char) :=
  splitAtChar '/' (cs.map fun c => if isSlash special c then '/' else c)

/-- The segments that a text gives; its first slash is not part of a segment. -/
def segmentsOf (special : Bool) : List Char → List (List Char)
  | [] => if special then [[]] else []
  | c :: cs => slashParts special (if isSlash special c then cs else c :: cs)

/-- The hierarchical path that a text gives. -/
def pathOf (special : Bool) (cs : List Char) : UrlPath :=
  .segments (resolve false [] (segmentsOf special cs))

/-- A text split before a mark; the part behind the mark, if it is there. -/
def splitMark (mark : Char) (cs : List Char) : List Char × Option (List Char) :=
  match cs.span (· ≠ mark) with
  | (front, _ :: rest) => (front, some rest)
  | (front, []) => (front, none)

/-- Reads what follows the colon of a scheme; `front` reads all before the query and is told
whether anything comes after that. -/
def withParts (special : Bool) (rest : List Char)
    (front : Bool → List Char → Except UrlFault (Option Authority × UrlPath)) (scheme : String) :
    Except UrlFault Url := do
  let (text, fragment) := splitMark '#' rest
  let (text, query) := splitMark '?' text
  let (authority, path) ← front (query.isSome || fragment.isSome) text
  return {
    scheme, authority, path
    query := query.map (percentEncode (if special then specialQuerySet else querySet))
    fragment := fragment.map (percentEncode fragmentSet) }

/-- An authority and the path behind it. -/
def hierarchy (usual : Option Nat) (more : Bool) (cs : List Char) :
    Except UrlFault (Option Authority × UrlPath) := do
  let (authorityText, pathText) := cs.span (fun c => !endsAuthority usual.isSome c)
  let (authority, rest) ← authorityOf usual (more || !pathText.isEmpty) authorityText
  return (some authority, pathOf usual.isSome (rest ++ pathText))

/-- The host and the path of a file. A path that begins with the letter of a drive has no host. -/
def fileAt (host pathText : List Char) : Option Authority × UrlPath :=
  let path := resolve true [] (segmentsOf true pathText)
  (some ⟨[], if path.head?.any isDrive then [] else host, none⟩, .segments (filePath path))

/-- What follows the scheme `file`: a host behind two slashes, and a path. The letter of a drive
is no host. -/
def fileHierarchy (cs : List Char) : Except UrlFault (Option Authority × UrlPath) :=
  match cs with
  | a :: b :: rest =>
      if isSlash true a && isSlash true b then do
        let (hostText, pathText) := rest.span (fun c => !endsAuthority true c)
        if isDrive hostText then return fileAt [] rest
        let host ← if hostText.isEmpty then pure [] else specialHost hostText
        return fileAt (if host = "localhost".toList then [] else host) pathText
      else return fileAt [] cs
  | _ => return fileAt [] cs

/-- What follows any other scheme: an authority behind two slashes, a path behind one, or a
text that is not divided. -/
def plainHierarchy (more : Bool) : List Char → Except UrlFault (Option Authority × UrlPath)
  | '/' :: '/' :: rest => hierarchy none more rest
  | '/' :: rest => .ok (none, pathOf false ('/' :: rest))
  | text => .ok (none, .opaqueText (percentEncode controlSet text))

/-- Reads an absolute URL. -/
def parse (s : String) : Except UrlFault Url :=
  match scheme? (significant s.toList) with
  | none => .error .relative
  | some (scheme, rest) =>
      match usualPorts.lookup scheme with
      | some usual =>
          withParts true (rest.dropWhile (isSlash true)) (hierarchy (some usual)) scheme
      | none =>
          if scheme = "file" then withParts true rest (fun _ => fileHierarchy) scheme
          else withParts false rest plainHierarchy scheme

end Dataflow.Url
