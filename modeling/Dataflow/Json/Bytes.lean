import Dataflow.Json.Reader

set_option autoImplicit false

/-! # Reading JSON from bytes

JSON that comes as bytes is read as the characters that these encode. A byte that belongs to no
character is refused in whatever is looked at and everywhere outside of texts, but passed over in
a text that is not looked at. So it is with a letter and the escape of half a pair behind it, and
this is what stands for such a byte (`Json.strayByte`): the letter is refused outside of texts and
within an escape, half a pair in a text that is looked at.

The bytes of a text are read as that text (`Json.parseBytes?_toUTF8`).
-/

namespace Dataflow.Json

/-- What stands for a byte that belongs to no character. -/
def strayByte : List Char := ['x', '\\', 'u', 'd', 'c', '8', '0']

/-- The characters that bytes are read as from a position on. The fuel bounds their number. -/
def charsFrom (bytes : ByteArray) : Nat → Nat → List Char
  | 0, _ => []
  | fuel + 1, i =>
      if i < bytes.size then
        match bytes.utf8DecodeChar? i with
        | some c => c :: charsFrom bytes fuel (i + c.utf8Size)
        | none => strayByte ++ charsFrom bytes fuel (i + 1)
      else []

/-- The text that bytes are read as. -/
def textOfBytes (bytes : ByteArray) : String := String.ofList (charsFrom bytes bytes.size 0)

/-- The looked-at part of the value that bytes hold, its members as written. -/
def parseBytes? (o : Outline) (bytes : ByteArray) : Option Json :=
  parseOutline? o (textOfBytes bytes)

theorem charsFrom_utf8Encode (l : List Char) (before : ByteArray) {fuel : Nat}
    (hfuel : l.utf8Encode.size ≤ fuel) :
    charsFrom (before ++ l.utf8Encode) fuel before.size = l := by
  induction l generalizing before fuel with
  | nil =>
      rw [List.utf8Encode_nil, ByteArray.append_empty]
      cases fuel with
      | zero => rfl
      | succ fuel => exact if_neg (Nat.lt_irrefl before.size)
  | cons c rest ih =>
      have hwidth : [c].utf8Encode.size = c.utf8Size := by
        rw [List.utf8Encode_singleton, List.size_toByteArray, String.length_utf8EncodeChar]
      have hpos : 0 < c.utf8Size := c.utf8Size_pos
      rw [List.utf8Encode_cons, ByteArray.size_append, hwidth] at hfuel
      have hdecode : (before ++ (c :: rest).utf8Encode).utf8DecodeChar? before.size = some c := by
        rw [ByteArray.utf8DecodeChar?_eq_utf8DecodeChar?_extract, List.utf8Encode_cons,
          ByteArray.extract_append_eq_right rfl ByteArray.size_append]
        exact List.utf8DecodeChar?_utf8Encode_singleton_append
      have hinside : before.size < (before ++ (c :: rest).utf8Encode).size :=
        ByteArray.lt_size_of_isSome_utf8DecodeChar? (by rw [hdecode]; rfl)
      cases fuel with
      | zero => omega
      | succ fuel =>
          have hbytes : before ++ (c :: rest).utf8Encode =
              before ++ [c].utf8Encode ++ rest.utf8Encode := by
            rw [List.utf8Encode_cons, ByteArray.append_assoc]
          have hnext : before.size + c.utf8Size = (before ++ [c].utf8Encode).size := by
            rw [ByteArray.size_append, hwidth]
          rw [charsFrom, if_pos hinside, hdecode]
          show c :: charsFrom _ fuel (before.size + c.utf8Size) = c :: rest
          rw [hbytes, hnext, ih _ (by omega)]

/-- The bytes of a text are read as that text. -/
@[simp] theorem textOfBytes_toUTF8 (s : String) : textOfBytes s.toUTF8 = s := by
  have hbytes : s.toUTF8 = ByteArray.empty ++ s.toList.utf8Encode := by
    rw [String.utf8Encode_toList, ByteArray.empty_append]
    rfl
  have hchars : charsFrom s.toUTF8 s.toUTF8.size 0 = s.toList := by
    rw [hbytes]
    exact charsFrom_utf8Encode s.toList .empty (Nat.le_of_eq (by rw [ByteArray.empty_append]))
  rw [textOfBytes, hchars, String.ofList_toList]

/-- The value that a text holds is the one that its bytes hold. -/
theorem parseBytes?_toUTF8 (o : Outline) (s : String) :
    parseBytes? o s.toUTF8 = parseOutline? o s := by
  rw [parseBytes?, textOfBytes_toUTF8]

/-- A byte that belongs to no character, in a member that is not looked at and in one that is. -/
example :
    let bytes := "\x7b\"a\":\"".toUTF8 ++ [0xff].toByteArray ++ "\"\x7d".toUTF8
    ((parseBytes? (.ofNames ["b"]) bytes).isSome, (parseBytes? (.ofNames ["a"]) bytes).isSome) =
      (true, false) := by
  decide +kernel

end Dataflow.Json
