import Mathlib.Algebra.GroupWithZero.Nat
import Mathlib.Tactic.SplitIfs

/-!
# Bytes and the two table-driven checksums

A buffer is a function `ℕ → Byte` from indices (or addresses) to bytes, the same type as the
memory of the flash model, so that a checksum can be taken over a packet, a structure in RAM or
a range of flash.  `updateCRC8` and `updateCRC16` are the loops of `Crc.c`.
-/

namespace Lcm

/-- `byte_t` -/
abbrev Byte := BitVec 8

/-- `word_t` -/
abbrev Word := BitVec 16

/-- `dword_t` -/
abbrev Dword := BitVec 32

instance lawfulBEq_byte : LawfulBEq Byte := inferInstance

/-- The arrays of four elements have a first one. -/
instance neZero_four : NeZero 4 := ⟨by decide⟩

/-- The arrays of seven elements have a first one. -/
instance neZero_seven : NeZero 7 := ⟨by decide⟩

/-- `HighByteOfWord` -/
def highByteOfWord (w : Word) : Byte := w.extractLsb' 8 8

/-- `LowByteOfWord` -/
def lowByteOfWord (w : Word) : Byte := w.extractLsb' 0 8

/-- The word with the given high and low bytes. -/
def wordOfBytes (high low : Byte) : Word := high ++ low

@[simp] theorem wordOfBytes_high_low (w : Word) :
    wordOfBytes (highByteOfWord w) (lowByteOfWord w) = w := by
  simp only [wordOfBytes, highByteOfWord, lowByteOfWord]
  ext i hi
  simp only [BitVec.getElem_append]
  split
  · simp [BitVec.getLsbD_eq_getElem, hi]
  · rename_i h
    simp only [BitVec.getElem_extractLsb', show 8 + (i - 8) = i by omega]
    exact BitVec.getLsbD_eq_getElem hi

theorem getElem_wordOfBytes (high low : Byte) (i : ℕ) (hi : i < 16) :
    (wordOfBytes high low)[i] = if i < 8 then low.getLsbD i else high.getLsbD (i - 8) := by
  rw [wordOfBytes, ← BitVec.getLsbD_eq_getElem]
  exact BitVec.getLsbD_append

/-- Byte `i` of a dword, from the low one. -/
def byteOfDword (d : Dword) (i : ℕ) : Byte := d.extractLsb' (8 * i) 8

/-- The dword with the given bytes, from the low one. -/
def dwordOfBytes (bytes : ℕ → Byte) : Dword := bytes 3 ++ bytes 2 ++ bytes 1 ++ bytes 0

theorem dwordOfBytes_byteOfDword (d : Dword) : dwordOfBytes (byteOfDword d) = d := by
  refine BitVec.eq_of_getLsbD_eq fun i hi => ?_
  simp only [dwordOfBytes, byteOfDword, BitVec.getLsbD_append, BitVec.getLsbD_extractLsb']
  split_ifs with h₀ h₁ h₂
  · simp [h₀]
  · rw [show 8 * 1 + (i - 8) = i by omega]
    simp [h₁]
  · rw [show 8 * 2 + (i - 8 - 8) = i by omega]
    simp [h₂]
  · rw [show 8 * 3 + (i - 8 - 8 - 8) = i by omega, decide_eq_true (by omega), Bool.true_and]

/-- A number below `2 ^ k` has no bit from `k` on. -/
theorem getLsbD_of_toNat_lt {w k : ℕ} {b : BitVec w} (hb : b.toNat < 2 ^ k) {i : ℕ}
    (hi : k ≤ i) : b.getLsbD i = false :=
  Nat.testBit_lt_two_pow (Nat.lt_of_lt_of_le hb (Nat.pow_le_pow_right (by decide) hi))

/-! ### The tables -/

/-- 8 bit CRC lookup table. -/
def crc8Table : List Byte :=
  [0, 94, 188, 226, 97, 63, 221, 131, 194, 156, 126, 32, 163, 253, 31, 65,
   157, 195, 33, 127, 252, 162, 64, 30, 95, 1, 227, 189, 62, 96, 130, 220,
   35, 125, 159, 193, 66, 28, 254, 160, 225, 191, 93, 3, 128, 222, 60, 98,
   190, 224, 2, 92, 223, 129, 99, 61, 124, 34, 192, 158, 29, 67, 161, 255,
   70, 24, 250, 164, 39, 121, 155, 197, 132, 218, 56, 102, 229, 187, 89, 7,
   219, 133, 103, 57, 186, 228, 6, 88, 25, 71, 165, 251, 120, 38, 196, 154,
   101, 59, 217, 135, 4, 90, 184, 230, 167, 249, 27, 69, 198, 152, 122, 36,
   248, 166, 68, 26, 153, 199, 37, 123, 58, 100, 134, 216, 91, 5, 231, 185,
   140, 210, 48, 110, 237, 179, 81, 15, 78, 16, 242, 172, 47, 113, 147, 205,
   17, 79, 173, 243, 112, 46, 204, 146, 211, 141, 111, 49, 178, 236, 14, 80,
   175, 241, 19, 77, 206, 144, 114, 44, 109, 51, 209, 143, 12, 82, 176, 238,
   50, 108, 142, 208, 83, 13, 239, 177, 240, 174, 76, 18, 145, 207, 45, 115,
   202, 148, 118, 40, 171, 245, 23, 73, 8, 86, 180, 234, 105, 55, 213, 139,
   87, 9, 235, 181, 54, 104, 138, 212, 149, 203, 41, 119, 244, 170, 72, 22,
   233, 183, 85, 11, 136, 214, 52, 106, 43, 117, 151, 201, 74, 20, 246, 168,
   116, 42, 200, 150, 21, 75, 169, 247, 182, 232, 10, 84, 215, 137, 107, 53]

/-- 16 bit CRC lookup table. -/
def crc16Table : List Word :=
  [0x0000, 0xC0C1, 0xC181, 0x0140, 0xC301, 0x03C0, 0x0280, 0xC241,
   0xC601, 0x06C0, 0x0780, 0xC741, 0x0500, 0xC5C1, 0xC481, 0x0440,
   0xCC01, 0x0CC0, 0x0D80, 0xCD41, 0x0F00, 0xCFC1, 0xCE81, 0x0E40,
   0x0A00, 0xCAC1, 0xCB81, 0x0B40, 0xC901, 0x09C0, 0x0880, 0xC841,
   0xD801, 0x18C0, 0x1980, 0xD941, 0x1B00, 0xDBC1, 0xDA81, 0x1A40,
   0x1E00, 0xDEC1, 0xDF81, 0x1F40, 0xDD01, 0x1DC0, 0x1C80, 0xDC41,
   0x1400, 0xD4C1, 0xD581, 0x1540, 0xD701, 0x17C0, 0x1680, 0xD641,
   0xD201, 0x12C0, 0x1380, 0xD341, 0x1100, 0xD1C1, 0xD081, 0x1040,
   0xF001, 0x30C0, 0x3180, 0xF141, 0x3300, 0xF3C1, 0xF281, 0x3240,
   0x3600, 0xF6C1, 0xF781, 0x3740, 0xF501, 0x35C0, 0x3480, 0xF441,
   0x3C00, 0xFCC1, 0xFD81, 0x3D40, 0xFF01, 0x3FC0, 0x3E80, 0xFE41,
   0xFA01, 0x3AC0, 0x3B80, 0xFB41, 0x3900, 0xF9C1, 0xF881, 0x3840,
   0x2800, 0xE8C1, 0xE981, 0x2940, 0xEB01, 0x2BC0, 0x2A80, 0xEA41,
   0xEE01, 0x2EC0, 0x2F80, 0xEF41, 0x2D00, 0xEDC1, 0xEC81, 0x2C40,
   0xE401, 0x24C0, 0x2580, 0xE541, 0x2700, 0xE7C1, 0xE681, 0x2640,
   0x2200, 0xE2C1, 0xE381, 0x2340, 0xE101, 0x21C0, 0x2080, 0xE041,
   0xA001, 0x60C0, 0x6180, 0xA141, 0x6300, 0xA3C1, 0xA281, 0x6240,
   0x6600, 0xA6C1, 0xA781, 0x6740, 0xA501, 0x65C0, 0x6480, 0xA441,
   0x6C00, 0xACC1, 0xAD81, 0x6D40, 0xAF01, 0x6FC0, 0x6E80, 0xAE41,
   0xAA01, 0x6AC0, 0x6B80, 0xAB41, 0x6900, 0xA9C1, 0xA881, 0x6840,
   0x7800, 0xB8C1, 0xB981, 0x7940, 0xBB01, 0x7BC0, 0x7A80, 0xBA41,
   0xBE01, 0x7EC0, 0x7F80, 0xBF41, 0x7D00, 0xBDC1, 0xBC81, 0x7C40,
   0xB401, 0x74C0, 0x7580, 0xB541, 0x7700, 0xB7C1, 0xB681, 0x7640,
   0x7200, 0xB2C1, 0xB381, 0x7340, 0xB101, 0x71C0, 0x7080, 0xB041,
   0x5000, 0x90C1, 0x9181, 0x5140, 0x9301, 0x53C0, 0x5280, 0x9241,
   0x9601, 0x56C0, 0x5780, 0x9741, 0x5500, 0x95C1, 0x9481, 0x5440,
   0x9C01, 0x5CC0, 0x5D80, 0x9D41, 0x5F00, 0x9FC1, 0x9E81, 0x5E40,
   0x5A00, 0x9AC1, 0x9B81, 0x5B40, 0x9901, 0x59C0, 0x5880, 0x9841,
   0x8801, 0x48C0, 0x4980, 0x8941, 0x4B00, 0x8BC1, 0x8A81, 0x4A40,
   0x4E00, 0x8EC1, 0x8F81, 0x4F40, 0x8D01, 0x4DC0, 0x4C80, 0x8C41,
   0x4400, 0x84C1, 0x8581, 0x4540, 0x8701, 0x47C0, 0x4680, 0x8641,
   0x8201, 0x42C0, 0x4380, 0x8341, 0x4100, 0x81C1, 0x8081, 0x4040]

/-! ### The loops -/

/-- Update the 8 bit CRC with the first `buffSize` bytes of the buffer. -/
def updateCRC8 (currentCRC : Byte) (buffer : ℕ → Byte) : ℕ → Byte
  | 0 => currentCRC
  | i + 1 => crc8Table.getD (updateCRC8 currentCRC buffer i ^^^ buffer i).toNat 0

/-- Update the 16 bit CRC with the first `buffSize` bytes of the buffer. -/
def updateCRC16 (currentCRC : Word) (buffer : ℕ → Byte) : ℕ → Word
  | 0 => currentCRC
  | i + 1 =>
    let crc := updateCRC16 currentCRC buffer i
    (crc >>> 8) ^^^ crc16Table.getD ((crc ^^^ (buffer i).setWidth 16) &&& 0x00FF).toNat 0

/-- The 8 bit CRC depends only on the bytes it runs over. -/
theorem updateCRC8_congr {c : Byte} {b b' : ℕ → Byte} {n : ℕ} (h : ∀ i < n, b i = b' i) :
    updateCRC8 c b n = updateCRC8 c b' n := by
  induction n with
  | zero => rfl
  | succ n ih => rw [updateCRC8, updateCRC8, ih fun i hi => h i (by omega), h n (by omega)]

/-- The 16 bit CRC depends only on the bytes it runs over. -/
theorem updateCRC16_congr {c : Word} {b b' : ℕ → Byte} {n : ℕ} (h : ∀ i < n, b i = b' i) :
    updateCRC16 c b n = updateCRC16 c b' n := by
  induction n with
  | zero => rfl
  | succ n ih => rw [updateCRC16, updateCRC16, ih fun i hi => h i (by omega), h n (by omega)]

end Lcm
