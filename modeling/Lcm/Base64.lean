import Mathlib.Data.List.Basic
import Mathlib.Data.Nat.Notation

/-!
# Base64 text

Three bytes become four characters, each of which stands for six bits; what is left at the end is
padded.

## Main definitions

* `character` : the character of six bits.
* `encode` : the text of bytes, without line ends.

## Main results

* `exists_encode_eq` : the text of bytes of which two are left at the end.
-/

namespace Lcm

namespace Base64

/-- The character of six bits. -/
def character (e : BitVec 8) : BitVec 8 :=
  if e < 26 then 0x41 + e
  else if e < 52 then 0x61 + (e - 26)
  else if e < 62 then 0x30 + (e - 52)
  else if e = 62 then 0x2B else 0x2F

/-- `=` -/
def padding : BitVec 8 := 0x3D

/-- The six bits at the end of a byte and the beginning of the next. -/
def secondOf (b1 b2 : BitVec 8) : BitVec 8 := ((b1 &&& 0x3) <<< 4) ||| (b2 >>> 4)

def thirdOf (b2 b3 : BitVec 8) : BitVec 8 := ((b2 &&& 0xF) <<< 2) ||| (b3 >>> 6)

/-- The text of bytes. -/
def encode : List (BitVec 8) → List (BitVec 8)
  | [] => []
  | [b1] => [character (b1 >>> 2), character (secondOf b1 0), padding, padding]
  | [b1, b2] =>
    [character (b1 >>> 2), character (secondOf b1 b2), character (thirdOf b2 0), padding]
  | b1 :: b2 :: b3 :: bytes =>
    character (b1 >>> 2) :: character (secondOf b1 b2) :: character (thirdOf b2 b3) ::
      character (b3 &&& 0x3F) :: encode bytes

/-- **Two bytes are left at the end**: there is one padding. -/
theorem exists_encode_eq {n : ℕ} {bytes : List (BitVec 8)} (h : bytes.length = 3 * n + 2) :
    ∃ sextets : List (BitVec 8), sextets.length = 4 * n + 3 ∧
      encode bytes = sextets.map character ++ [padding] := by
  induction n generalizing bytes with
  | zero =>
    match bytes, h with
    | [b1, b2], _ => exact ⟨[b1 >>> 2, secondOf b1 b2, thirdOf b2 0], rfl, rfl⟩
  | succ n ih =>
    match bytes, h with
    | b1 :: b2 :: b3 :: bytes, h =>
      have hrest : bytes.length = 3 * n + 2 := by
        simp only [List.length_cons] at h
        omega
      obtain ⟨sextets, hlength, hencode⟩ := ih hrest
      refine ⟨b1 >>> 2 :: secondOf b1 b2 :: thirdOf b2 b3 :: (b3 &&& 0x3F) :: sextets, ?_, ?_⟩
      · simp only [List.length_cons, hlength]
        omega
      · rw [encode, hencode]
        rfl

end Base64

end Lcm
