set_option autoImplicit false

/-! # Punycode

`Punycode.encode` writes a text with the letters, digits and hyphen of ASCII. The ASCII
characters come first, and a hyphen after them if there are any. The others follow by
ascending number: each is given by how far it lies, in number and position, behind the one
before, as a numeral to base 36 whose digits end at thresholds that adapt to the distances.
`Punycode.decode?` reads such a text.
-/

namespace Dataflow.Url.Punycode

/-- The digit of a number below 36: letters, then decimal digits. -/
def digit (n : Nat) : Char :=
  if n < 26 then Char.ofNat ('a'.toNat + n) else Char.ofNat ('0'.toNat + (n - 26))

/-- The threshold of the digit with weight index `k`, a multiple of 36. -/
def threshold (k bias : Nat) : Nat := min 26 (max 1 (k - bias))

/-- Divides by 35 until at most 455 is left; with the number of divisions times 36. -/
def damped (delta : Nat) : Nat × Nat :=
  if 455 < delta then
    let r := damped (delta / 35)
    (r.1, r.2 + 36)
  else (delta, 0)
termination_by delta
decreasing_by omega

/-- The bias after a distance, when `count` characters have been written. -/
def adapt (delta count : Nat) (isFirst : Bool) : Nat :=
  let d := if isFirst then delta / 700 else delta / 2
  let r := damped (d + d / count)
  r.2 + 36 * r.1 / (r.1 + 38)

/-- A distance as a numeral. -/
def numeral (bias k q : Nat) : List Char :=
  let t := threshold k bias
  if q < t then [digit q]
  else digit (t + (q - t) % (36 - t)) :: numeral bias (k + 36) ((q - t) / (36 - t))
termination_by q
decreasing_by
  have h : threshold k bias ≥ 1 := by unfold threshold; omega
  exact Nat.lt_of_le_of_lt (Nat.div_le_self _ _) (by omega)

/-- What has been written and what the next distance depends on. -/
structure Progress where
  written : List Char
  delta : Nat
  bias : Nat
  count : Nat

/-- Passes one character of the text while the characters with number `n` are written. -/
def pass (n basic : Nat) (p : Progress) (c : Char) : Progress :=
  if c.toNat < n then { p with delta := p.delta + 1 }
  else if c.toNat = n then
    { written := p.written ++ numeral p.bias 36 p.delta, delta := 0,
      bias := adapt p.delta (p.count + 1) (p.count = basic), count := p.count + 1 }
  else p

/-- Writes the characters with the given numbers, which ascend. -/
def encodeFrom (cs : List Char) (basic : Nat) : List Nat → Nat → Progress → Progress
  | [], _, p => p
  | n :: rest, reached, p =>
      let p := { p with delta := p.delta + (n - reached) * (p.count + 1) }
      let p := cs.foldl (pass n basic) p
      encodeFrom cs basic rest (n + 1) { p with delta := p.delta + 1 }

/-- The Punycode of a text. -/
def encode (cs : List Char) : List Char :=
  let basic := cs.filter (fun c => c.toNat < 128)
  let others := ((cs.filter (fun c => c.toNat ≥ 128)).map Char.toNat).mergeSort.eraseDups
  let start := if basic.isEmpty then [] else basic ++ ['-']
  start ++ (encodeFrom cs basic.length others 128 ⟨[], 0, 72, basic.length⟩).written

/-! ## Reading -/

/-- The value of a digit. -/
def digitValue? (c : Char) : Option Nat :=
  let c := c.toLower
  if 'a' ≤ c ∧ c ≤ 'z' then some (c.toNat - 'a'.toNat)
  else if '0' ≤ c ∧ c ≤ '9' then some (c.toNat - '0'.toNat + 26)
  else none

/-- The distance that a numeral gives, with the weight of its first digit, and the text after
it. -/
def readNumeral? (bias : Nat) : Nat → Nat → List Char → Option (Nat × List Char)
  | _, _, [] => none
  | k, weight, c :: cs => do
      let d ← digitValue? c
      let t := threshold k bias
      if d < t then some (d * weight, cs)
      else
        let (rest, cs) ← readNumeral? bias (k + 36) (weight * (36 - t)) cs
        some (d * weight + rest, cs)

/-- What has been read, and what the next distance depends on. -/
structure Reading where
  text : List Char
  /-- The number of the character read last. -/
  number : Nat
  /-- The position behind it. -/
  position : Nat
  bias : Nat

/-- Inserts the character at a distance. -/
def insertAt? (isFirst : Bool) (r : Reading) (delta : Nat) : Option Reading :=
  let count := r.text.length + 1
  let distance := r.position + delta
  let number := r.number + distance / count
  let position := distance % count
  if number < 0x110000 ∧ ¬ (0xd800 ≤ number ∧ number < 0xe000) then
    some ⟨r.text.take position ++ Char.ofNat number :: r.text.drop position, number, position + 1,
      adapt delta count isFirst⟩
  else none

/-- Reads the distances one after another. The fuel bounds their number. -/
def readDistances? : Nat → Bool → Reading → List Char → Option (List Char)
  | _, _, r, [] => some r.text
  | 0, _, _, _ => none
  | fuel + 1, isFirst, r, cs => do
      let (delta, rest) ← readNumeral? r.bias 36 1 cs
      readDistances? fuel false (← insertAt? isFirst r delta) rest

/-- The text that is written in Punycode. The ASCII characters stand before the last hyphen; if
there are none, neither is the hyphen. -/
def decode? (cs : List Char) : Option (List Char) :=
  let digits := (cs.reverse.takeWhile (· ≠ '-')).reverse
  let basic := cs.take (cs.length - digits.length - 1)
  if cs.any (fun c => c.toNat ≥ 128) ∨ (basic.isEmpty ∧ cs.contains '-') then none
  else readDistances? digits.length true ⟨basic, 128, 0, 72⟩ digits

end Dataflow.Url.Punycode
