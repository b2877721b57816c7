import Lcm.Jansson
import Mathlib.Data.Nat.Notation
import Mathlib.Tactic.SplitIfs

/-!
# UTF-8 in the Jansson library

The functions of `utf.c` that encode a code point, find out how long a sequence is from its first
byte, check a whole sequence, and step through a string.  The characters of a Lean `String` are
Unicode scalar values, and its bytes are their sequences one behind the other.

## Main definitions

* `utf8Encode`, `utf8CheckFirst`, `utf8CheckFull`, `utf8Iterate` : the functions of the library.
* `encodeChar` : the bytes of a character.

## Main results

* `utf8Encode_toNat` : a character is encoded as its bytes.
* `utf8Iterate_encodeChar_append` : a character is read again.
* `utf8CheckFull_eq_some` : what is accepted are the bytes of a character.
-/

namespace Lcm

namespace Jansson

/-! ### The functions of the library -/

/-- `utf8_encode` -/
def utf8Encode (codepoint : ℕ) : Option (List Byte) :=
  if codepoint < 0x80 then some [BitVec.ofNat 8 codepoint]
  else if codepoint < 0x800 then
    some [BitVec.ofNat 8 (0xC0 + (codepoint &&& 0x7C0) >>> 6),
      BitVec.ofNat 8 (0x80 + (codepoint &&& 0x03F))]
  else if codepoint < 0x10000 then
    some [BitVec.ofNat 8 (0xE0 + (codepoint &&& 0xF000) >>> 12),
      BitVec.ofNat 8 (0x80 + (codepoint &&& 0x0FC0) >>> 6),
      BitVec.ofNat 8 (0x80 + (codepoint &&& 0x003F))]
  else if codepoint ≤ 0x10FFFF then
    some [BitVec.ofNat 8 (0xF0 + (codepoint &&& 0x1C0000) >>> 18),
      BitVec.ofNat 8 (0x80 + (codepoint &&& 0x03F000) >>> 12),
      BitVec.ofNat 8 (0x80 + (codepoint &&& 0x000FC0) >>> 6),
      BitVec.ofNat 8 (0x80 + (codepoint &&& 0x00003F))]
  else none

/-- `utf8_check_first` -/
def utf8CheckFirst (byte : Byte) : ℕ :=
  if byte < 0x80 then 1
  else if 0x80 ≤ byte ∧ byte ≤ 0xBF then 0
  else if byte = 0xC0 ∨ byte = 0xC1 then 0
  else if 0xC2 ≤ byte ∧ byte ≤ 0xDF then 2
  else if 0xE0 ≤ byte ∧ byte ≤ 0xEF then 3
  else if 0xF0 ≤ byte ∧ byte ≤ 0xF4 then 4
  else 0

/-- The loop of `utf8_check_full` over the continuation bytes. -/
def continuation : List Byte → ℕ → Option ℕ
  | [], value => some value
  | u :: buffer, value =>
    if u < 0x80 ∨ 0xBF < u then none
    else continuation buffer (value <<< 6 + (u &&& 0x3F).toNat)

/-- The bits of the first byte of a sequence. -/
def firstBits (u : Byte) : ℕ → Option ℕ
  | 2 => some (u &&& 0x1F).toNat
  | 3 => some (u &&& 0xF).toNat
  | 4 => some (u &&& 0x7).toNat
  | _ => none

/-- The tests of `utf8_check_full` at its end: the value is in the Unicode range, it is no half of a
surrogate pair, and no shorter sequence would do. -/
def checkValue (size value : ℕ) : Option ℕ :=
  if 0x10FFFF < value then none
  else if 0xD800 ≤ value ∧ value ≤ 0xDFFF then none
  else if size = 2 ∧ value < 0x80 ∨ size = 3 ∧ value < 0x800 ∨ size = 4 ∧ value < 0x10000 then none
  else some value

/-- `utf8_check_full`: the code point; the buffer has `size` bytes. -/
def utf8CheckFull : List Byte → Option ℕ
  | [] => none
  | u :: buffer =>
    (firstBits u (buffer.length + 1)).bind fun value =>
      (continuation buffer value).bind (checkValue (buffer.length + 1))

/-- `utf8_iterate`, before the end of the string: the code point and what is behind it.  A sequence
that the end of the string cuts off is no sequence, as the terminator does not continue it. -/
def utf8Iterate : List Byte → Option (ℕ × List Byte)
  | [] => none
  | u :: buffer =>
    match utf8CheckFirst u with
    | 0 => none
    | 1 => some (u.toNat, buffer)
    | count =>
      if (u :: buffer).length < count then none
      else (utf8CheckFull ((u :: buffer).take count)).map fun value =>
        (value, (u :: buffer).drop count)

/-! ### Characters -/

/-- The bytes of a character. -/
def encodeChar (c : Char) : List Byte := (String.utf8EncodeChar c).map UInt8.toBitVec

/-- The bytes of characters. -/
def encodeChars (cs : List Char) : List Byte := cs.flatMap encodeChar

theorem encodeChars_cons (c : Char) (cs : List Char) :
    encodeChars (c :: cs) = encodeChar c ++ encodeChars cs := List.flatMap_cons

theorem encodeChars_append (cs cs' : List Char) :
    encodeChars (cs ++ cs') = encodeChars cs ++ encodeChars cs' := List.flatMap_append

theorem toList_loop (bytes : ByteArray) (i : ℕ) (r : List UInt8) :
    ByteArray.toList.loop bytes i r = r.reverse ++ bytes.data.toList.drop i := by
  fun_induction ByteArray.toList.loop bytes i r with
  | case1 i r h ih =>
    have hi : i < bytes.data.toList.length := by simpa using h
    have hget : bytes.get! i = bytes.data.toList[i] := by
      simp [ByteArray.get!, h]
    rw [ih, hget, List.reverse_cons, List.append_assoc, List.singleton_append,
      ← List.drop_eq_getElem_cons]
  | case2 i r h =>
    have hdrop : bytes.data.toList.drop i = [] :=
      List.drop_eq_nil_of_le (by simpa using Nat.le_of_not_lt h)
    rw [hdrop, List.append_nil]

/-- **The bytes of a string** are those of its characters. -/
theorem bytesOfString_eq (s : String) : JsonT.bytesOfString s = encodeChars s.toList := by
  have hlist : s.toUTF8.toList = s.toList.flatMap String.utf8EncodeChar := by
    rw [String.toUTF8_eq_toByteArray, ← String.utf8Encode_toList, ByteArray.toList, toList_loop]
    exact List.toList_data_toByteArray
  rw [JsonT.bytesOfString, hlist, List.map_flatMap]
  rfl

/-- The string that bytes are the characters of. -/
def stringOfBytes (bytes : List Byte) : Option String :=
  String.fromUTF8? (bytes.map UInt8.ofBitVec).toByteArray

theorem toByteArray_encodeChars (cs : List Char) :
    ((encodeChars cs).map UInt8.ofBitVec).toByteArray = cs.utf8Encode := by
  rw [encodeChars, List.map_flatMap]
  have hchar : ∀ c, (encodeChar c).map UInt8.ofBitVec = String.utf8EncodeChar c := by
    intro c
    rw [encodeChar, List.map_map]
    exact List.map_id _
  simp only [hchar]
  rfl

theorem stringOfBytes_encodeChars (cs : List Char) :
    stringOfBytes (encodeChars cs) = some (String.ofList cs) := by
  rw [stringOfBytes, toByteArray_encodeChars, String.fromUTF8?, dif_pos (.intro cs rfl)]
  rfl

/-- **A string is got back from its bytes.** -/
theorem stringOfBytes_bytesOfString (s : String) :
    stringOfBytes (JsonT.bytesOfString s) = some s := by
  rw [bytesOfString_eq, stringOfBytes_encodeChars, String.ofList_toList]

/-- The string that bytes are the characters of, which those of a token are. -/
def textString (bytes : List Byte) : String := (stringOfBytes bytes).getD ""

theorem textString_encodeChars (cs : List Char) :
    textString (encodeChars cs) = String.ofList cs := by
  rw [textString, stringOfBytes_encodeChars]
  rfl

/-! ### Sequences -/

section Sequence

variable {c : Char} {v x y z w : ℕ} {bytes rest : List Byte}

theorem encodeChar_one (h : c.toNat < 0x80) : encodeChar c = [BitVec.ofNat 8 c.toNat] := by
  have hval : c.val.toNat ≤ 0x7F := Nat.le_of_lt_succ h
  rw [encodeChar, String.utf8EncodeChar, if_pos hval]
  rfl

theorem encodeChar_two (h : 0x80 ≤ c.toNat) (h' : c.toNat < 0x800) : encodeChar c =
    [BitVec.ofNat 8 (0xC0 + c.toNat / 64 % 32), BitVec.ofNat 8 (0x80 + c.toNat % 64)] := by
  have hval : ¬ c.val.toNat ≤ 0x7F := Nat.not_le.2 h
  have hval' : c.val.toNat ≤ 0x7FF := Nat.le_of_lt_succ h'
  rw [encodeChar, String.utf8EncodeChar, if_neg hval, if_pos hval', Nat.add_comm _ 0xC0,
    Nat.add_comm _ 0x80]
  rfl

theorem encodeChar_three (h : 0x800 ≤ c.toNat) (h' : c.toNat < 0x10000) : encodeChar c =
    [BitVec.ofNat 8 (0xE0 + c.toNat / 4096 % 16), BitVec.ofNat 8 (0x80 + c.toNat / 64 % 64),
      BitVec.ofNat 8 (0x80 + c.toNat % 64)] := by
  have hfirst : ¬ c.val.toNat ≤ 0x7F := Nat.not_le.2 (Nat.le_trans (by decide) h)
  have hval : ¬ c.val.toNat ≤ 0x7FF := Nat.not_le.2 h
  have hval' : c.val.toNat ≤ 0xFFFF := Nat.le_of_lt_succ h'
  rw [encodeChar, String.utf8EncodeChar, if_neg hfirst, if_neg hval, if_pos hval',
    Nat.add_comm _ 0xE0, Nat.add_comm _ 0x80, Nat.add_comm _ 0x80]
  rfl

theorem encodeChar_four (h : 0x10000 ≤ c.toNat) : encodeChar c =
    [BitVec.ofNat 8 (0xF0 + c.toNat / 262144 % 8), BitVec.ofNat 8 (0x80 + c.toNat / 4096 % 64),
      BitVec.ofNat 8 (0x80 + c.toNat / 64 % 64), BitVec.ofNat 8 (0x80 + c.toNat % 64)] := by
  have hfirst : ¬ c.val.toNat ≤ 0x7F := Nat.not_le.2 (Nat.le_trans (by decide) h)
  have hsecond : ¬ c.val.toNat ≤ 0x7FF := Nat.not_le.2 (Nat.le_trans (by decide) h)
  have hval : ¬ c.val.toNat ≤ 0xFFFF := Nat.not_le.2 h
  rw [encodeChar, String.utf8EncodeChar, if_neg hfirst, if_neg hsecond, if_neg hval,
    Nat.add_comm _ 0xF0, Nat.add_comm _ 0x80, Nat.add_comm _ 0x80, Nat.add_comm _ 0x80]
  rfl

theorem toNat_le (c : Char) : c.toNat ≤ 0x10FFFF := by
  obtain h | ⟨-, h⟩ := c.valid
  · exact Nat.le_trans (Nat.le_of_lt h) (by decide)
  · exact Nat.le_of_lt_succ h

theorem not_surrogate (c : Char) : ¬ (0xD800 ≤ c.toNat ∧ c.toNat ≤ 0xDFFF) := by
  rintro ⟨hle, hle'⟩
  obtain h | ⟨h, -⟩ := c.valid
  · exact Nat.not_lt.2 hle h
  · exact Nat.not_lt.2 hle' h

/-- The four sizes of a sequence. -/
theorem size_cases (c : Char) : c.toNat < 0x80 ∨ (0x80 ≤ c.toNat ∧ c.toNat < 0x800) ∨
    (0x800 ≤ c.toNat ∧ c.toNat < 0x10000) ∨ 0x10000 ≤ c.toNat := by
  omega

/-- A field of bits, moved to the right. -/
theorem and_shiftRight (v k i : ℕ) : (v &&& (2 ^ k - 1) <<< i) >>> i = v / 2 ^ i % 2 ^ k := by
  rw [Nat.shiftRight_and_distrib, Nat.shiftLeft_shiftRight, Nat.and_two_pow_sub_one_eq_mod,
    Nat.shiftRight_eq_div_pow]

/-- **A character is encoded as its bytes.** -/
theorem utf8Encode_toNat (c : Char) : utf8Encode c.toNat = some (encodeChar c) := by
  have hlast : c.toNat &&& 0x3F = c.toNat % 64 := Nat.and_two_pow_sub_one_eq_mod c.toNat 6
  rw [utf8Encode, hlast]
  obtain h | ⟨h, h'⟩ | ⟨h, h'⟩ | h := size_cases c
  · rw [if_pos h, encodeChar_one h]
  · have hfirst : (c.toNat &&& 0x7C0) >>> 6 = c.toNat / 64 % 32 := and_shiftRight c.toNat 5 6
    rw [if_neg (Nat.not_lt.2 h), if_pos h', encodeChar_two h h', hfirst]
  · have hfirst : (c.toNat &&& 0xF000) >>> 12 = c.toNat / 4096 % 16 := and_shiftRight c.toNat 4 12
    have hsecond : (c.toNat &&& 0xFC0) >>> 6 = c.toNat / 64 % 64 := and_shiftRight c.toNat 6 6
    rw [if_neg (by omega), if_neg (Nat.not_lt.2 h), if_pos h', encodeChar_three h h', hfirst,
      hsecond]
  · have hfirst : (c.toNat &&& 0x1C0000) >>> 18 = c.toNat / 262144 % 8 :=
      and_shiftRight c.toNat 3 18
    have hsecond : (c.toNat &&& 0x3F000) >>> 12 = c.toNat / 4096 % 64 :=
      and_shiftRight c.toNat 6 12
    have hthird : (c.toNat &&& 0xFC0) >>> 6 = c.toNat / 64 % 64 := and_shiftRight c.toNat 6 6
    rw [if_neg (by omega), if_neg (by omega), if_neg (Nat.not_lt.2 h), if_pos (toNat_le c),
      encodeChar_four h, hfirst, hsecond, hthird]

/-- The size of a sequence, from the number of its first byte. -/
theorem utf8CheckFirst_eq (u : Byte) : utf8CheckFirst u =
    if u.toNat < 0x80 then 1 else if u.toNat < 0xC2 then 0 else if u.toNat < 0xE0 then 2
    else if u.toNat < 0xF0 then 3 else if u.toNat < 0xF5 then 4 else 0 := by
  revert u
  decide

theorem toNat_ofNat_byte (h : v < 256) : (BitVec.ofNat 8 v).toNat = v :=
  (BitVec.toNat_ofNat v 8).trans (Nat.mod_eq_of_lt h)

theorem ofNat_toNat_byte (u : Byte) (h : u.toNat = v) : BitVec.ofNat 8 v = u := by
  rw [← h, BitVec.ofNat_toNat, BitVec.setWidth_eq]

/-- The masks of `utf8_check_full` keep the last bits. -/
theorem and_toNat (u : Byte) : (u &&& 0x3F).toNat = u.toNat % 64 ∧
    (u &&& 0x1F).toNat = u.toNat % 32 ∧ (u &&& 0xF).toNat = u.toNat % 16 ∧
      (u &&& 0x7).toNat = u.toNat % 8 := by
  revert u
  decide

theorem continuation_cons (u : Byte) (bytes : List Byte) (v : ℕ) :
    continuation (u :: bytes) v =
      if 0x80 ≤ u.toNat ∧ u.toNat < 0xC0 then continuation bytes (v * 64 + u.toNat % 64)
      else none := by
  have hlow : u < 0x80 ↔ u.toNat < 0x80 := BitVec.lt_def
  have hhigh : 0xBF < u ↔ 0xBF < u.toNat := BitVec.lt_def
  rw [continuation, (and_toNat u).1, Nat.shiftLeft_eq]
  by_cases h : 0x80 ≤ u.toNat ∧ u.toNat < 0xC0
  · rw [if_neg (by rw [hlow, hhigh]; omega), if_pos h]
  · rw [if_pos (by rw [hlow, hhigh]; omega), if_neg h]

theorem continuation_ofNat (hx : x < 64) (bytes : List Byte) (v : ℕ) :
    continuation (BitVec.ofNat 8 (0x80 + x) :: bytes) v = continuation bytes (v * 64 + x) := by
  have hbyte : (BitVec.ofNat 8 (0x80 + x)).toNat = 0x80 + x := toNat_ofNat_byte (by omega)
  have hbits : (0x80 + x) % 64 = x := by omega
  rw [continuation_cons, hbyte, if_pos ⟨by omega, by omega⟩, hbits]

/-- The first byte of a character tells the size of its sequence. -/
theorem exists_encodeChar (c : Char) : ∃ u bytes, encodeChar c = u :: bytes ∧
    utf8CheckFirst u = bytes.length + 1 ∧ (c.toNat < 0x80 ↔ bytes = []) ∧
      (c.toNat < 0x80 → u.toNat = c.toNat) := by
  have hmax := toNat_le c
  obtain h | ⟨h, h'⟩ | ⟨h, h'⟩ | h := size_cases c
  · have hbyte : (BitVec.ofNat 8 c.toNat).toNat = c.toNat := toNat_ofNat_byte (by omega)
    refine ⟨_, _, encodeChar_one h, ?_, iff_of_true h rfl, fun _ => hbyte⟩
    rw [utf8CheckFirst_eq, hbyte, if_pos h]
    rfl
  · have hbyte : (BitVec.ofNat 8 (0xC0 + c.toNat / 64 % 32)).toNat = 0xC0 + c.toNat / 64 % 32 :=
      toNat_ofNat_byte (by omega)
    refine ⟨_, _, encodeChar_two h h', ?_, iff_of_false (by omega) (List.cons_ne_nil _ _),
      fun hsmall => absurd hsmall (by omega)⟩
    rw [utf8CheckFirst_eq, hbyte, if_neg (by omega), if_neg (by omega), if_pos (by omega)]
    rfl
  · have hbyte : (BitVec.ofNat 8 (0xE0 + c.toNat / 4096 % 16)).toNat =
        0xE0 + c.toNat / 4096 % 16 := toNat_ofNat_byte (by omega)
    refine ⟨_, _, encodeChar_three h h', ?_, iff_of_false (by omega) (List.cons_ne_nil _ _),
      fun hsmall => absurd hsmall (by omega)⟩
    rw [utf8CheckFirst_eq, hbyte, if_neg (by omega), if_neg (by omega), if_neg (by omega),
      if_pos (by omega)]
    rfl
  · have hbyte : (BitVec.ofNat 8 (0xF0 + c.toNat / 262144 % 8)).toNat =
        0xF0 + c.toNat / 262144 % 8 := toNat_ofNat_byte (by omega)
    refine ⟨_, _, encodeChar_four h, ?_, iff_of_false (by omega) (List.cons_ne_nil _ _),
      fun hsmall => absurd hsmall (by omega)⟩
    rw [utf8CheckFirst_eq, hbyte, if_neg (by omega), if_neg (by omega), if_neg (by omega),
      if_neg (by omega), if_pos (by omega)]
    rfl

theorem checkValue_eq {size : ℕ} (hmax : v ≤ 0x10FFFF) (hsurrogate : ¬ (0xD800 ≤ v ∧ v ≤ 0xDFFF))
    (hshort : ¬ (size = 2 ∧ v < 0x80 ∨ size = 3 ∧ v < 0x800 ∨ size = 4 ∧ v < 0x10000)) :
    checkValue size v = some v := by
  rw [checkValue, if_neg (Nat.not_lt.2 hmax), if_neg hsurrogate, if_neg hshort]

/-- **A sequence of several bytes is checked**, and gives its character. -/
theorem utf8CheckFull_encodeChar (h : 0x80 ≤ c.toNat) :
    utf8CheckFull (encodeChar c) = some c.toNat := by
  have hmax := toNat_le c
  have hsurrogate := not_surrogate c
  obtain hone | ⟨-, h'⟩ | ⟨h, h'⟩ | h := size_cases c
  · exact absurd hone (Nat.not_lt.2 h)
  · have hbits : (BitVec.ofNat 8 (0xC0 + c.toNat / 64 % 32) &&& 0x1F).toNat = c.toNat / 64 := by
      rw [(and_toNat _).2.1, toNat_ofNat_byte (by omega)]
      omega
    have hvalue : c.toNat / 64 * 64 + c.toNat % 64 = c.toNat := Nat.div_add_mod' _ _
    have hfirst : firstBits (BitVec.ofNat 8 (0xC0 + c.toNat / 64 % 32)) 2 = some (c.toNat / 64) :=
      congrArg some hbits
    rw [encodeChar_two h h', utf8CheckFull, List.length_singleton, hfirst, Option.bind_some,
      continuation_ofNat (by omega), hvalue, continuation, Option.bind_some]
    exact checkValue_eq (by omega) hsurrogate (by omega)
  · have hbits : (BitVec.ofNat 8 (0xE0 + c.toNat / 4096 % 16) &&& 0xF).toNat = c.toNat / 4096 := by
      rw [(and_toNat _).2.2.1, toNat_ofNat_byte (by omega)]
      omega
    have hvalue : (c.toNat / 4096 * 64 + c.toNat / 64 % 64) * 64 + c.toNat % 64 = c.toNat := by
      omega
    have hfirst : firstBits (BitVec.ofNat 8 (0xE0 + c.toNat / 4096 % 16)) 3 =
        some (c.toNat / 4096) := congrArg some hbits
    rw [encodeChar_three h h', utf8CheckFull]
    show (firstBits _ 3).bind _ = _
    rw [hfirst, Option.bind_some, continuation_ofNat (by omega), continuation_ofNat (by omega),
      hvalue, continuation, Option.bind_some]
    exact checkValue_eq (by omega) hsurrogate (by simp; omega)
  · have hbits : (BitVec.ofNat 8 (0xF0 + c.toNat / 262144 % 8) &&& 0x7).toNat =
        c.toNat / 262144 := by
      rw [(and_toNat _).2.2.2, toNat_ofNat_byte (by omega)]
      omega
    have hvalue : ((c.toNat / 262144 * 64 + c.toNat / 4096 % 64) * 64 + c.toNat / 64 % 64) * 64 +
        c.toNat % 64 = c.toNat := by
      omega
    have hfirst : firstBits (BitVec.ofNat 8 (0xF0 + c.toNat / 262144 % 8)) 4 =
        some (c.toNat / 262144) := congrArg some hbits
    rw [encodeChar_four h, utf8CheckFull]
    show (firstBits _ 4).bind _ = _
    rw [hfirst, Option.bind_some, continuation_ofNat (by omega), continuation_ofNat (by omega),
      continuation_ofNat (by omega), hvalue, continuation, Option.bind_some]
    exact checkValue_eq (by omega) hsurrogate (by simp; omega)

/-- **A character is read again.** -/
theorem utf8Iterate_encodeChar_append (c : Char) (rest : List Byte) :
    utf8Iterate (encodeChar c ++ rest) = some (c.toNat, rest) := by
  obtain ⟨u, bytes, hbytes, hfirst, hone, hval⟩ := exists_encodeChar c
  rw [hbytes, List.cons_append, utf8Iterate, hfirst]
  cases bytes with
  | nil =>
    have hsmall : c.toNat < 0x80 := hone.2 rfl
    rw [← hval hsmall]
    rfl
  | cons x bytes =>
    have hlarge : 0x80 ≤ c.toNat := Nat.not_lt.1 (mt hone.1 (List.cons_ne_nil _ _))
    have hlength : ¬ (u :: (x :: bytes ++ rest)).length < (x :: bytes).length + 1 := by
      simp
    have htake : (u :: (x :: bytes ++ rest)).take ((x :: bytes).length + 1) = encodeChar c := by
      rw [List.take_succ_cons, List.take_left, hbytes]
    have hdrop : (u :: (x :: bytes ++ rest)).drop ((x :: bytes).length + 1) = rest := by
      rw [List.drop_succ_cons, List.drop_left]
    show (if _ then none else Option.map _ _) = _
    rw [if_neg hlength, htake, hdrop, utf8CheckFull_encodeChar hlarge]
    rfl

theorem checkValue_eq_some {size : ℕ} (h : checkValue size v = some w) :
    w = v ∧ v ≤ 0x10FFFF ∧ ¬ (0xD800 ≤ v ∧ v ≤ 0xDFFF) ∧
      ¬ (size = 2 ∧ v < 0x80 ∨ size = 3 ∧ v < 0x800 ∨ size = 4 ∧ v < 0x10000) := by
  rw [checkValue] at h
  split_ifs at h with hmax hsurrogate hshort
  exact ⟨(Option.some.inj h).symm, Nat.not_lt.1 hmax, hsurrogate, hshort⟩

theorem continuation_eq_some {u : Byte} (h : continuation (u :: bytes) v = some w) :
    (0x80 ≤ u.toNat ∧ u.toNat < 0xC0) ∧ continuation bytes (v * 64 + u.toNat % 64) = some w := by
  rw [continuation_cons] at h
  split_ifs at h with hu
  exact ⟨hu, h⟩

/-- A scalar value is the number of a character. -/
theorem exists_toNat (hmax : v ≤ 0x10FFFF) (hsurrogate : ¬ (0xD800 ≤ v ∧ v ≤ 0xDFFF)) :
    ∃ c : Char, c.toNat = v := by
  have hvalid : v.isValidChar := by
    by_cases h : v < 0xD800
    · exact .inl h
    · exact .inr ⟨by omega, by omega⟩
  exact ⟨Char.ofNatAux v hvalid, rfl⟩

/-- **What is accepted are the bytes of a character**, if the first byte tells their number. -/
theorem exists_of_utf8CheckFull {u : Byte} (hfirst : utf8CheckFirst u = bytes.length + 1)
    (h : utf8CheckFull (u :: bytes) = some v) : ∃ c : Char, encodeChar c = u :: bytes := by
  obtain ⟨first, hbits, h⟩ := Option.bind_eq_some_iff.1 h
  obtain ⟨value, hvalue, h⟩ := Option.bind_eq_some_iff.1 h
  obtain ⟨-, hmax, hsurrogate, hshort⟩ := checkValue_eq_some h
  obtain ⟨c, hc⟩ := exists_toNat hmax hsurrogate
  refine ⟨c, ?_⟩
  have hu := u.isLt
  rw [utf8CheckFirst_eq] at hfirst
  rcases bytes with _ | ⟨x, _ | ⟨y, _ | ⟨z, _ | ⟨w, bytes⟩⟩⟩⟩
  · cases hbits
  · obtain rfl := Option.some.inj hbits
    obtain ⟨hx, hvalue⟩ := continuation_eq_some hvalue
    obtain hvalue := Option.some.inj hvalue
    rw [(and_toNat u).2.1] at hvalue
    have hrange : 0xC2 ≤ u.toNat ∧ u.toNat < 0xE0 := by
      simp only [List.length_singleton] at hfirst
      split_ifs at hfirst <;> omega
    rw [encodeChar_two (by omega) (by omega), ofNat_toNat_byte u (by omega),
      ofNat_toNat_byte x (by omega)]
  · obtain rfl := Option.some.inj hbits
    obtain ⟨hx, hvalue⟩ := continuation_eq_some hvalue
    obtain ⟨hy, hvalue⟩ := continuation_eq_some hvalue
    obtain hvalue := Option.some.inj hvalue
    rw [(and_toNat u).2.2.1] at hvalue
    have hrange : 0xE0 ≤ u.toNat ∧ u.toNat < 0xF0 := by
      simp only [List.length_cons, List.length_nil] at hfirst
      split_ifs at hfirst <;> omega
    have hlong : 0x800 ≤ value := Nat.not_lt.1 fun hlt => hshort (.inr (.inl ⟨rfl, hlt⟩))
    rw [encodeChar_three (by omega) (by omega), ofNat_toNat_byte u (by omega),
      ofNat_toNat_byte x (by omega), ofNat_toNat_byte y (by omega)]
  · obtain rfl := Option.some.inj hbits
    obtain ⟨hx, hvalue⟩ := continuation_eq_some hvalue
    obtain ⟨hy, hvalue⟩ := continuation_eq_some hvalue
    obtain ⟨hz, hvalue⟩ := continuation_eq_some hvalue
    obtain hvalue := Option.some.inj hvalue
    rw [(and_toNat u).2.2.2] at hvalue
    have hrange : 0xF0 ≤ u.toNat ∧ u.toNat < 0xF5 := by
      simp only [List.length_cons, List.length_nil] at hfirst
      split_ifs at hfirst <;> omega
    have hlong : 0x10000 ≤ value := Nat.not_lt.1 fun hlt => hshort (.inr (.inr ⟨rfl, hlt⟩))
    rw [encodeChar_four (by omega), ofNat_toNat_byte u (by omega), ofNat_toNat_byte x (by omega),
      ofNat_toNat_byte y (by omega), ofNat_toNat_byte z (by omega)]
  · cases hbits

end Sequence

end Jansson

end Lcm
