import Dataflow.Text.Canonical
import Dataflow.Text.Lower
import Dataflow.Url.Bidi
import Dataflow.Url.DomainTable
import Dataflow.Url.Joining
import Dataflow.Url.Percent
import Dataflow.Url.Punycode

set_option autoImplicit false

/-! # Domains

A domain is a text of labels between dots. Its characters are first replaced by what they stand
for, which is lower case among other things, and then composed. A label with characters outside
ASCII is written in Punycode after the mark `xn--`; a label that is given so has to be the
written form of one. `domain?` reads a domain in any script and yields its written form.
-/

namespace Dataflow.Url

open Dataflow.Text

/-- The parts of a text between occurrences of a character. -/
def splitAtChar (sep : Char) : List Char → List (List Char)
  | [] => [[]]
  | c :: cs =>
      match splitAtChar sep cs with
      | part :: parts => if c = sep then [] :: part :: parts else (c :: part) :: parts
      | [] => [[c]]

/-- What a character of a domain stands for, if a domain can hold it. -/
def domainChar? (c : Char) : Option (List Char) :=
  if c.toNat < 0x80 then some [c.toLower]
  else if refusedInDomain.contains c then none
  else if ignoredInDomain.contains c then some []
  else some ((replacedInDomain.image? c).getD (lowerChar c))

/-- The characters of ASCII that no domain holds. -/
def isForbidden (c : Char) : Bool :=
  c.toNat ≤ 0x20 || c.toNat = 0x7f ||
    ['%', '#', '/', ':', '<', '>', '?', '@', '[', '\\', ']', '^', '|'].contains c

/-- Whether a character is one of ASCII. -/
def isAscii (c : Char) : Bool := c.toNat < 0x80

/-- A label as it is read and as it is written. -/
structure DomainLabel where
  text : List Char
  written : List Char

namespace DomainLabel

/-- The number of characters up to which a label is written in Punycode. -/
def lengthLimit : Nat := 1000

/-- The number of characters up to which Punycode is read. -/
def punycodeLimit : Nat := 2000

/-- The mark of Punycode. -/
def mark : List Char := ['x', 'n', '-', '-']

/-- Whether a text can be a label: it begins with no mark, its joiners stand where they may, and
it is not too long. -/
def isSound (text : List Char) : Bool :=
  !(text.head?.any isMark) && joinersFit [] text &&
    (text.all isAscii || text.length ≤ lengthLimit)

/-- The text that Punycode stands for. It has a character outside ASCII, and all its characters
stand for themselves and are composed. -/
def ofPunycode? (code : List Char) : Option (List Char) := do
  if code.length > punycodeLimit then none
  let text ← Punycode.decode? code
  if !text.all isAscii && text.all (fun c => domainChar? c == some [c]) && composed text == text &&
      !mark.isPrefixOf text then
    some text
  else none

/-- The label that a text gives. -/
def ofText? (cs : List Char) : Option DomainLabel := do
  let text ← if mark.isPrefixOf cs then ofPunycode? (cs.drop mark.length) else some cs
  if !isSound text then none
  else if cs.all isAscii then some ⟨text, cs⟩
  else some ⟨text, mark ++ Punycode.encode cs⟩

end DomainLabel

/-- The labels of the domain that a text writes in any script. If characters of both directions
meet, every label goes one way. -/
def domainLabels? (cs : List Char) : Option (List DomainLabel) := do
  let replaced := (← cs.mapM domainChar?).flatten
  let labels ← (splitAtChar '.' (composed replaced)).mapM DomainLabel.ofText?
  if labels.any (·.written.any isForbidden) then none
  else if labels.any (·.text.any isRightToLeft) && !labels.all (goesOneWay ·.text) then none
  else some labels

/-- The written form of the domain that a text gives, with percent-encoding or without. -/
def domain? (cs : List Char) : Option (List Char) := do
  let labels ← domainLabels? (← percentDecode? cs)
  some (['.'].intercalate (labels.map (·.written)))

end Dataflow.Url
