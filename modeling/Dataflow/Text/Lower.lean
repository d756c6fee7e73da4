import Dataflow.Text.CaseTable

set_option autoImplicit false

/-! # Lower case

The lower case of a text in any script. Every character has its own lower case, of one
character except for the dotted capital I, which becomes an `i` and a dot above. A capital
sigma at the end of a word becomes the final form of the letter: a cased character stands
before it and none after it, case-ignorable characters on the way aside.
-/

namespace Dataflow.Text

/-- Whether a character is passed over when a sigma looks for its neighbours. -/
def isCaseIgnorable (c : Char) : Bool := caseIgnorableSet.contains c

/-- Whether a character that is not passed over has a case. -/
def isCased (c : Char) : Bool := casedSet.contains c

/-- The lower case of one character, wherever it stands. -/
def lowerChar (c : Char) : List Char :=
  if c.toNat < 0x80 then [c.toLower] else (lowerMap.image? c).getD [c]

/-- Whether the nearest character that is not passed over has a case. -/
def nextIsCased (cs : List Char) : Bool :=
  match cs.dropWhile isCaseIgnorable with
  | c :: _ => isCased c
  | [] => false

/-- The capital sigma. -/
def capitalSigma : Char := Char.ofNat 0x3a3

/-- The small sigma in the form it has at the end of a word. -/
def finalSigma : Char := Char.ofNat 0x3c2

/-- The small sigma in all other places. -/
def smallSigma : Char := Char.ofNat 0x3c3

/-- The lower case of a text, given the characters before it from the last one on. -/
def lowerAfter : List Char → List Char → List Char
  | _, [] => []
  | before, c :: rest =>
      let lowered :=
        if c = capitalSigma then
          [if nextIsCased before && !nextIsCased rest then finalSigma else smallSigma]
        else lowerChar c
      lowered ++ lowerAfter (c :: before) rest

/-- The lower case of a text. -/
def lower (s : String) : String := String.ofList (lowerAfter [] s.toList)

/-- Whether `part` occurs in a text as a run of characters. -/
def containsChars (part : List Char) : List Char → Bool
  | [] => part.isEmpty
  | c :: cs => part.isPrefixOf (c :: cs) || containsChars part cs

/-- Whether `part` occurs in a text. -/
def contains (s part : String) : Bool := containsChars part.toList s.toList

end Dataflow.Text
