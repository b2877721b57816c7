import Lcm.BitwiseCrc
import Lcm.Crc

/-!
# The tables of the checksums

Each table holds what eight steps make of a register with a single byte, so that the loops of
`Crc.c` are the checks by shift and xor with one pattern each: x⁸ + x⁵ + x⁴ + 1 for the 8 bit
checksum and x¹⁶ + x¹⁵ + x² + 1 for the 16 bit checksum, both with the low bit of a byte first.

## Main results

* `updateCRC8_eq_update`, `updateCRC16_eq_update` : the loops are the bitwise checks.
* `updateCRC8_add`, `updateCRC16_add` : a buffer may be processed in two parts.
* `updateCRC8_ne` : a change of one byte changes the 8 bit checksum.
* `updateCRC8_eq_modByMonic`, `updateCRC16_eq_modByMonic` : the checksums are remainders.
-/

namespace Lcm

open BitwiseCrc

/-- The pattern of `crc8Table`. -/
def crc8Polynomial : Byte := 0x8C

/-- The pattern of `crc16Table`. -/
def crc16Polynomial : Word := 0xA001

/-! ### The entries -/

theorem crc8Table_eq {i : ℕ} (hi : i < 256) :
    crc8Table.getD i 0 = (shiftXor crc8Polynomial)^[8] (BitVec.ofNat 8 i) := by
  have h : ∀ i < 256, crc8Table.getD i 0 = (shiftXor crc8Polynomial)^[8] (BitVec.ofNat 8 i) := by
    decide +kernel
  exact h i hi

theorem crc16Table_eq {i : ℕ} (hi : i < 256) :
    crc16Table.getD i 0 = (shiftXor crc16Polynomial)^[8] (BitVec.ofNat 16 i) := by
  have h : ∀ i < 256,
      crc16Table.getD i 0 = (shiftXor crc16Polynomial)^[8] (BitVec.ofNat 16 i) := by
    decide +kernel
  exact h i hi

/-- The bit that is shifted out last leaves the pattern in the register. -/
theorem crcTables_getD_high_bit :
    crc8Table.getD 0x80 0 = crc8Polynomial ∧ crc16Table.getD 0x80 0 = crc16Polynomial :=
  ⟨rfl, rfl⟩

/-! ### The loops -/

/-- **The loop of `UpdateCRC8`** is the check by shift and xor. -/
theorem updateCRC8_eq_update (currentCRC : Byte) (buffer : ℕ → Byte) (buffSize : ℕ) :
    updateCRC8 currentCRC buffer buffSize = update crc8Polynomial currentCRC buffer buffSize := by
  induction buffSize with
  | zero => rfl
  | succ n ih =>
    rw [updateCRC8, update, ih, addByte, crc8Table_eq (BitVec.isLt _), BitVec.ofNat_toNat,
      BitVec.setWidth_eq, BitVec.setWidth_eq]

/-- **The loop of `UpdateCRC16`** is the check by shift and xor: the high byte of the register is
only shifted, and the low one is looked up. -/
theorem updateCRC16_eq_update (currentCRC : Word) (buffer : ℕ → Byte) (buffSize : ℕ) :
    updateCRC16 currentCRC buffer buffSize =
      update crc16Polynomial currentCRC buffer buffSize := by
  induction buffSize with
  | zero => rfl
  | succ n ih =>
    have hbyte (w : Word) : (w &&& 0x00FF).toNat < 256 := by
      rw [BitVec.toNat_and]
      exact Nat.and_lt_two_pow _ (n := 8) (by decide)
    rw [updateCRC16, update, ih, addByte_eq_table, crc16Table_eq (hbyte _), BitVec.ofNat_toNat,
      BitVec.setWidth_eq]
    rfl

/-! ### Parts and changes -/

theorem updateCRC8_add (currentCRC : Byte) (buffer : ℕ → Byte) (m n : ℕ) :
    updateCRC8 currentCRC buffer (m + n) =
      updateCRC8 (updateCRC8 currentCRC buffer m) (fun i => buffer (m + i)) n := by
  simp only [updateCRC8_eq_update]
  exact update_add ..

theorem updateCRC16_add (currentCRC : Word) (buffer : ℕ → Byte) (m n : ℕ) :
    updateCRC16 currentCRC buffer (m + n) =
      updateCRC16 (updateCRC16 currentCRC buffer m) (fun i => buffer (m + i)) n := by
  simp only [updateCRC16_eq_update]
  exact update_add ..

/-- A change of one byte changes the 8 bit checksum. -/
theorem updateCRC8_ne (currentCRC : Byte) {b b' : ℕ → Byte} {n k : ℕ} (hk : k < n)
    (hne : b k ≠ b' k) (hsame : ∀ i < n, i ≠ k → b i = b' i) :
    updateCRC8 currentCRC b n ≠ updateCRC8 currentCRC b' n := by
  rw [updateCRC8_eq_update, updateCRC8_eq_update]
  exact update_ne_update (by decide) (by decide) currentCRC hk hne hsame

/-! ### Remainders -/

section Remainders

open Polynomial

theorem generator_crc8Polynomial :
    generator crc8Polynomial = (X ^ 8 + X ^ 5 + X ^ 4 + 1 : (ZMod 2)[X]) := by
  have hvalue : value X crc8Polynomial = (X ^ 5 + X ^ 4 + 1 : (ZMod 2)[X]) := by
    simp [value, Finset.sum_range_succ, crc8Polynomial]
  rw [generator, hvalue]
  ring

theorem generator_crc16Polynomial :
    generator crc16Polynomial = (X ^ 16 + X ^ 15 + X ^ 2 + 1 : (ZMod 2)[X]) := by
  have hvalue : value X crc16Polynomial = (X ^ 15 + X ^ 2 + 1 : (ZMod 2)[X]) := by
    simp [value, Finset.sum_range_succ, crc16Polynomial]
  rw [generator, hvalue]
  ring

/-- **The 8 bit checksum** is the remainder of the message. -/
theorem updateCRC8_eq_modByMonic (currentCRC : Byte) (buffer : ℕ → Byte) (buffSize : ℕ) :
    value X (updateCRC8 currentCRC buffer buffSize) =
      (X ^ (8 * buffSize) * value X currentCRC + X ^ 8 * message X buffer buffSize) %ₘ
        (X ^ 8 + X ^ 5 + X ^ 4 + 1 : (ZMod 2)[X]) := by
  rw [updateCRC8_eq_update, update_eq_modByMonic _ _ (by decide), generator_crc8Polynomial]

/-- **The 16 bit checksum** is the remainder of the message. -/
theorem updateCRC16_eq_modByMonic (currentCRC : Word) (buffer : ℕ → Byte) (buffSize : ℕ) :
    value X (updateCRC16 currentCRC buffer buffSize) =
      (X ^ (8 * buffSize) * value X currentCRC + X ^ 16 * message X buffer buffSize) %ₘ
        (X ^ 16 + X ^ 15 + X ^ 2 + 1 : (ZMod 2)[X]) := by
  rw [updateCRC16_eq_update, update_eq_modByMonic _ _ (by decide), generator_crc16Polynomial]

end Remainders

end Lcm
