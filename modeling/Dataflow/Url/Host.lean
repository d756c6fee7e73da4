import Dataflow.Url.Domain

set_option autoImplicit false

/-! # Hosts

A host is written in one of three ways. A domain of a special scheme whose last label is a
number is an IPv4 address, written as four decimal numbers. An IPv6 address stands in brackets,
the longest run of zeros left out. The host of any other scheme is any text without delimiters.
-/

namespace Dataflow

/-- Why a text is no URL. -/
inductive UrlFault where
  | emptyHost | domain | port | ipv4 | ipv6 | hostCharacter
  /-- There is no scheme, and nothing that the text could be relative to. -/
  | relative
  /-- The text is relative to a URL that has no hierarchy. -/
  | relativeToOpaque
  deriving DecidableEq

/-- The wording of a fault. -/
def UrlFault.message : UrlFault → String
  | emptyHost => "empty host"
  | domain => "invalid international domain name"
  | port => "invalid port number"
  | ipv4 => "invalid IPv4 address"
  | ipv6 => "invalid IPv6 address"
  | hostCharacter => "invalid domain character"
  | relative => "relative URL without a base"
  | relativeToOpaque => "relative URL with a cannot-be-a-base base"

namespace Url

/-- The value of digits to a base, if there are only such digits. -/
def numeral? (base : Nat) (ds : List Char) : Option Nat :=
  ds.foldlM (fun n c =>
    match digitValue? c with
    | some v => if v < base then some (base * n + v) else none
    | none => none) 0

/-! ## IPv4 addresses -/

/-- A number of an IPv4 address: hexadecimal after `0x`, octal after `0`, else decimal. -/
def ipv4Number? : List Char → Option Nat
  | [] => none
  | '0' :: 'x' :: ds | '0' :: 'X' :: ds => numeral? 16 ds
  | '0' :: d :: ds => numeral? 8 (d :: ds)
  | ds => numeral? 10 ds

/-- The labels of a domain, without an empty one at the end. -/
def labels (cs : List Char) : List (List Char) :=
  let parts := splitAtChar '.' cs
  if parts.length > 1 ∧ parts.getLast? = some [] then parts.dropLast else parts

/-- Whether the last label of a domain is a number. -/
def endsInNumber (cs : List Char) : Bool :=
  match (labels cs).getLast? with
  | some l => (!l.isEmpty && l.all Char.isDigit) || (ipv4Number? l).isSome
  | none => false

/-- The address of up to four numbers; the last one fills the bytes that are left. -/
def ipv4? (cs : List Char) : Option Nat := do
  let numbers ← (labels cs).mapM ipv4Number?
  let last ← numbers.getLast?
  let earlier := numbers.dropLast
  if numbers.length ≤ 4 ∧ earlier.all (· < 256) ∧ last < 256 ^ (5 - numbers.length) then
    some ((earlier.zipIdx.map fun (n, i) => n * 256 ^ (3 - i)).foldl (· + ·) last)
  else none

/-- An address as four decimal numbers. -/
def ipv4Text (n : Nat) : List Char :=
  (".".intercalate ([3, 2, 1, 0].map fun i => Nat.repr (n / 256 ^ i % 256))).toList

/-! ## IPv6 addresses -/

/-- A piece of up to four hexadecimal digits. -/
def piece? (ds : List Char) : Option Nat :=
  if 1 ≤ ds.length ∧ ds.length ≤ 4 then numeral? 16 ds else none

/-- A decimal byte without a superfluous zero. -/
def byte? (ds : List Char) : Option Nat :=
  if ds.isEmpty ∨ (ds.length > 1 ∧ ds.head? = some '0') then none
  else (numeral? 10 ds).filter (· < 256)

/-- The two pieces that an IPv4 address at the end stands for. -/
def embeddedIpv4? (cs : List Char) : Option (List Nat) := do
  match ← (splitAtChar '.' cs).mapM byte? with
  | [a, b, c, d] => some [256 * a + b, 256 * c + d]
  | _ => none

/-- The pieces of one side of an address; the last may be an IPv4 address where allowed. -/
def pieces? (ipv4Allowed : Bool) (cs : List Char) : Option (List Nat) :=
  if cs.isEmpty then some []
  else
    let parts := splitAtChar ':' cs
    match parts.getLast? with
    | some last =>
        if ipv4Allowed ∧ last.contains '.' then do
          let front ← parts.dropLast.mapM piece?
          let back ← embeddedIpv4? last
          some (front ++ back)
        else parts.mapM piece?
    | none => none

/-- A text split at the first `::`. -/
def splitAtGap : List Char → Option (List Char × List Char)
  | ':' :: ':' :: rest => some ([], rest)
  | c :: rest => (splitAtGap rest).map fun (a, b) => (c :: a, b)
  | [] => none

/-- The eight pieces of an address; `::` stands for at least one zero. -/
def ipv6? (cs : List Char) : Option (List Nat) :=
  match splitAtGap cs with
  | some (left, right) => do
      let a ← pieces? false left
      let b ← pieces? true right
      if a.length + b.length ≤ 7 then
        some (a ++ List.replicate (8 - (a.length + b.length)) 0 ++ b)
      else none
  | none => (pieces? true cs).filter (·.length = 8)

/-- The longest run of zeros, as its beginning and its length; of equals the first. -/
def longestZeros (pieces : List Nat) : Nat × Nat :=
  (List.range pieces.length).foldl (fun best i =>
    let run := ((pieces.drop i).takeWhile (· = 0)).length
    if run > best.2 then (i, run) else best) (0, 0)

/-- Pieces without leading zeros, between colons. -/
def piecesText (pieces : List Nat) : List Char :=
  [':'].intercalate (pieces.map fun n =>
    let ds := (Uuid.hexDigits 4 n).dropWhile (· == '0')
    if ds.isEmpty then ['0'] else ds)

/-- An address in brackets. A single zero is not left out. -/
def ipv6Text (pieces : List Nat) : List Char :=
  let (i, run) := longestZeros pieces
  let text :=
    if run < 2 then piecesText pieces
    else piecesText (pieces.take i) ++ [':', ':'] ++ piecesText (pieces.drop (i + run))
  '[' :: text ++ [']']

/-! ## Any host -/

/-- The host in brackets that a text writes. -/
def bracketed (cs : List Char) : Except UrlFault (List Char) :=
  if cs.getLast? = some ']' then
    match ipv6? cs.tail.dropLast with
    | some pieces => .ok (ipv6Text pieces)
    | none => .error .ipv6
  else .error .ipv6

/-- The host of a special scheme. -/
def specialHost (cs : List Char) : Except UrlFault (List Char) :=
  if cs.isEmpty then .error .emptyHost
  else if cs.head? = some '[' then bracketed cs
  else
    match domain? cs with
    | none => .error .domain
    | some [] => .error .emptyHost
    | some name =>
        if endsInNumber name then
          match ipv4? name with
          | some n => .ok (ipv4Text n)
          | none => .error .ipv4
        else .ok name

/-- Whether a character cannot be in a host as it is nor encoded. -/
def isHostDelimiter (c : Char) : Bool :=
  isForbidden c && c ≠ '%' && (c.toNat = 0 || c.toNat ≥ 0x20) && c.toNat ≠ 0x7f

/-- The host of any other scheme; it may be empty. -/
def opaqueHost (cs : List Char) : Except UrlFault (List Char) :=
  if cs.head? = some '[' then bracketed cs
  else if cs.any isHostDelimiter then .error .hostCharacter
  else .ok (percentEncode controlSet cs)

end Url

end Dataflow
