import Lcm.Flash.Driver
import Mathlib.Data.List.Range

/-!
# Records in flash

Zones, scenes and the ids that the cloud has given them are kept in regions of flash.  A region
consists of sectors with a number of slots each; a slot begins with a phrase that holds the
checksum of the record behind it.  A slot that is erased holds no record.  The functions that read
and write the regions differ only in the parameters of the region, so that there is one definition
of each here; all commands of the flash are taken to succeed.

## Main definitions

* `Region` : the parameters of a region.
* `Region.getPtr`, `Region.write`, `Region.readSector`, `Region.writeSector`,
  `Region.eraseSector` : the functions.
* `Region.Represents` : the records that a region holds, by their index.

## Main results

* `Region.Represents.write` : a record is written into an erased slot.
* `Region.Represents.replace` : a record is replaced, and its whole sector written again.
-/

namespace Lcm

namespace Flash

/-- The parameters of a region. -/
structure Region where
  /-- Its first address. -/
  startAddress : ℕ
  /-- Its last address. -/
  endAddress : ℕ
  /-- The distance of its slots. -/
  indexOffset : ℕ
  /-- The number of slots in each of its sectors. -/
  perSector : ℕ
  /-- The size of a record. -/
  recordSize : ℕ
  /-- The number of records. -/
  maxNumber : ℕ

/-- The first phrase of a slot. -/
def crcArray (crc : Word) : List Byte :=
  [highByteOfWord crc, lowByteOfWord crc, 0xFF, 0xFF, 0xFF, 0xFF, 0xFF, 0xFF]

/-- All bytes of a record are those of an erased slot. -/
def Uninitialized (size : ℕ) (record : ℕ → Byte) : Prop := ∀ b < size, record b = erased

instance {size : ℕ} {record : ℕ → Byte} : Decidable (Uninitialized size record) :=
  inferInstanceAs (Decidable (∀ b < size, record b = erased))

namespace Region

variable (r : Region)

/-- The address of the sector of a slot. -/
def sectorAddress (index : ℕ) : ℕ := r.startAddress + 0x1000 * (index / r.perSector)

/-- The address of a slot. -/
def address (index : ℕ) : ℕ := r.sectorAddress index + r.indexOffset * (index % r.perSector)

/-- `GetNV...PropertiesPtr` -/
def getPtr (m : Memory) (index : ℕ) (validateData : Bool) : Option ℕ :=
  if index < r.maxNumber then
    let storedCRCValue := wordOfBytes (m (r.address index)) (m (r.address index + 1))
    let dataPtr := r.address index + 8
    let calculatedCRCValue := updateCRC16 0xFFFF (bytesAt m dataPtr) r.recordSize
    if storedCRCValue = calculatedCRCValue ∨ ¬ validateData then
      if r.startAddress ≤ dataPtr ∧ dataPtr + r.recordSize ≤ r.endAddress then some dataPtr
      else none
    else none
  else none

/-- `Write...PropertiesToFlash`: the flash and the return code. -/
def write (m : Memory) (index : ℕ) (record : ℕ → Byte) : Memory × Dword :=
  if index < r.maxNumber then
    if ¬ Uninitialized r.recordSize record then
      let addressInFlash := r.address index
      let endAddressInFlash := addressInFlash + 8 + flashSizeof r.recordSize
      if r.startAddress ≤ addressInFlash ∧ endAddressInFlash ≤ r.endAddress then
        let calculatedCRCValue := updateCRC16 0xFFFF record r.recordSize
        let m := program m addressInFlash 8 fun i => (crcArray calculatedCRCValue).getD i 0
        (program m (addressInFlash + 8) (flashSizeof r.recordSize) record, FTFx_OK)
      else (m, FTFx_ERR_RANGE)
    else (m, 0xFFFFFFFF)
  else (m, 0xFFFFFFFF)

/-- `Read...PropertiesFromFlashSector`: the array of records after it is filled. -/
def readSector (m : Memory) (index : ℕ) (array : ℕ → Byte) : ℕ → Byte :=
  (List.range r.perSector).foldl
    (fun array k =>
      overwrite array (r.recordSize * k) r.recordSize fun b =>
        match r.getPtr m (k + index / r.perSector * r.perSector) true with
        | some dataPtr => m (dataPtr + (b - r.recordSize * k))
        | none => 0xFF)
    array

/-- An element of an array of records. -/
def element (array : ℕ → Byte) (k : ℕ) : ℕ → Byte := fun b => array (r.recordSize * k + b)

/-- The array after an element is assigned. -/
def setElement (array : ℕ → Byte) (k : ℕ) (record : ℕ → Byte) : ℕ → Byte :=
  overwrite array (r.recordSize * k) r.recordSize fun b => record (b - r.recordSize * k)

/-- `Write...PropertiesToFlashSector` -/
def writeSector (m : Memory) (index : ℕ) (array : ℕ → Byte) : Memory :=
  (List.range r.perSector).foldl
    (fun m k => (r.write m (k + index / r.perSector * r.perSector) (r.element array k)).1) m

/-- `Erase...FromFlash` -/
def eraseSector (m : Memory) (index : ℕ) : Memory := erase m (r.sectorAddress index) 0x1000

/-! ### What a region holds -/

/-- The slot lies in the region. -/
def InRange (index : ℕ) : Prop :=
  index < r.maxNumber ∧ r.address index + 8 + flashSizeof r.recordSize ≤ r.endAddress

/-- A slot is erased, or holds a record. -/
def Holds (m : Memory) (index : ℕ) : Option (ℕ → Byte) → Prop
  | none => ∀ b < 8 + flashSizeof r.recordSize, m (r.address index + b) = erased
  | some record => ¬ Uninitialized r.recordSize record ∧
      (∀ b < r.recordSize, m (r.address index + 8 + b) = record b) ∧
      wordOfBytes (m (r.address index)) (m (r.address index + 1)) =
        updateCRC16 0xFFFF record r.recordSize

/-- **What a region holds**: a record or nothing in each of its slots. -/
def Represents (m : Memory) (content : ℕ → Option (ℕ → Byte)) : Prop :=
  ∀ index, r.InRange index → r.Holds m index (content index)

/-- What is in a slot after a record is written there: nothing if it is a cleared one. -/
def written (record : ℕ → Byte) : Option (ℕ → Byte) :=
  if Uninitialized r.recordSize record then none else some record

/-- The parameters of a region fit: its slots do not overlap, and an erased slot has a wrong
checksum. -/
structure Fits : Prop where
  /-- A slot has room for its record. -/
  slot : 8 + flashSizeof r.recordSize ≤ r.indexOffset
  /-- A sector has room for its slots. -/
  sector : r.indexOffset * r.perSector ≤ 0x1000
  /-- There are slots. -/
  perSector : 0 < r.perSector
  /-- The checksum of an erased record is not an erased one. -/
  crc : updateCRC16 0xFFFF (fun _ => erased) r.recordSize ≠ 0xFFFF

variable {r} {m m' : Memory} {content : ℕ → Option (ℕ → Byte)} {i j : ℕ} {record : ℕ → Byte}
  {array : ℕ → Byte}

/-! ### Addresses -/

theorem le_flashSizeof (n : ℕ) : n ≤ flashSizeof n := by
  unfold flashSizeof
  split_ifs <;> omega

theorem Fits.inSector (h : r.Fits) (i : ℕ) :
    r.sectorAddress i ≤ r.address i ∧
      r.address i + (8 + flashSizeof r.recordSize) ≤ r.sectorAddress i + 0x1000 := by
  have hindex : i % r.perSector + 1 ≤ r.perSector := Nat.mod_lt i h.perSector
  have hoffset := Nat.mul_le_mul_left r.indexOffset hindex
  have hslot := h.slot
  have hsector := h.sector
  rw [Nat.mul_succ] at hoffset
  unfold address
  omega

/-- **Slots do not overlap.** -/
theorem Fits.disjoint (h : r.Fits) (hij : i ≠ j) :
    r.address i + (8 + flashSizeof r.recordSize) ≤ r.address j ∨
      r.address j + (8 + flashSizeof r.recordSize) ≤ r.address i := by
  have hi := h.inSector i
  have hj := h.inSector j
  have hslot := h.slot
  rcases Nat.lt_trichotomy (i / r.perSector) (j / r.perSector) with hlt | heq | hlt
  · have hsector := Nat.mul_le_mul_left 0x1000 (Nat.succ_le_of_lt hlt)
    rw [Nat.mul_succ] at hsector
    unfold sectorAddress at hi hj
    omega
  · -- two slots of one sector
    have hmod : i % r.perSector ≠ j % r.perSector := fun hmod => hij (by
      rw [← Nat.div_add_mod i r.perSector, ← Nat.div_add_mod j r.perSector, heq, hmod])
    have hsame : r.sectorAddress i = r.sectorAddress j := by rw [sectorAddress, heq, sectorAddress]
    unfold address
    rcases Nat.lt_or_gt_of_ne hmod with hlt | hlt
    · have hoffset := Nat.mul_le_mul_left r.indexOffset (Nat.succ_le_of_lt hlt)
      rw [Nat.mul_succ] at hoffset
      omega
    · have hoffset := Nat.mul_le_mul_left r.indexOffset (Nat.succ_le_of_lt hlt)
      rw [Nat.mul_succ] at hoffset
      omega
  · have hsector := Nat.mul_le_mul_left 0x1000 (Nat.succ_le_of_lt hlt)
    rw [Nat.mul_succ] at hsector
    unfold sectorAddress at hi hj
    omega

theorem le_address : r.startAddress ≤ r.address i := by
  unfold address sectorAddress
  omega

/-! ### One slot -/

/-- A slot holds what its bytes say. -/
theorem Holds.congr {o : Option (ℕ → Byte)} (h : r.Holds m i o)
    (hm : ∀ b < 8 + flashSizeof r.recordSize, m' (r.address i + b) = m (r.address i + b)) :
    r.Holds m' i o := by
  have hsize := le_flashSizeof r.recordSize
  cases o with
  | none => exact fun b hb => (hm b hb).trans (h b hb)
  | some record =>
    obtain ⟨hinit, hrecord, hcrc⟩ := h
    refine ⟨hinit, fun b hb => ?_, ?_⟩
    · rw [Nat.add_assoc, hm (8 + b) (by omega), ← Nat.add_assoc]
      exact hrecord b hb
    · rw [← Nat.add_zero (r.address i), hm 0 (by omega), Nat.add_zero, hm 1 (by omega)]
      exact hcrc

theorem Holds.congr_record {record' : ℕ → Byte} (h : r.Holds m i (some record))
    (heq : ∀ b < r.recordSize, record b = record' b) : r.Holds m i (some record') := by
  obtain ⟨hinit, hrecord, hcrc⟩ := h
  refine ⟨fun hall => hinit fun b hb => (heq b hb).trans (hall b hb), fun b hb => ?_, ?_⟩
  · exact (hrecord b hb).trans (heq b hb)
  · rw [hcrc, updateCRC16_congr heq]

/-- Whether the code finds a slot initialised. -/
theorem Holds.uninitialized_iff {o : Option (ℕ → Byte)} (h : r.Holds m i o) :
    Uninitialized r.recordSize (bytesAt m (r.address i + 8)) ↔ o = none := by
  have hsize := le_flashSizeof r.recordSize
  cases o with
  | none =>
    refine iff_of_true (fun b hb => ?_) rfl
    rw [bytesAt, Nat.add_assoc]
    exact h (8 + b) (by omega)
  | some record =>
    exact iff_of_false (fun hall => h.1 fun b hb => (h.2.1 b hb).symm.trans (hall b hb))
      (Option.some_ne_none record)

/-- Without a check of the data, the pointer is the one to the record. -/
theorem getPtr_unchecked (hrange : r.InRange i) : r.getPtr m i false = some (r.address i + 8) := by
  have hsize := le_flashSizeof r.recordSize
  have hstart := le_address (r := r) (i := i)
  have hend := hrange.2
  rw [getPtr, if_pos hrange.1, if_pos (.inr (by simp)), if_pos ⟨by omega, by omega⟩]

/-- Behind the region there is no pointer. -/
theorem getPtr_of_le (h : r.endAddress ≤ r.address i) (validateData : Bool) :
    r.getPtr m i validateData = none := by
  simp only [getPtr]
  split_ifs
  · omega
  · rfl
  · rfl
  · rfl

/-- With a check, there is a pointer if there is a record. -/
theorem Holds.getPtr (hfits : r.Fits) (hrange : r.InRange i) {o : Option (ℕ → Byte)}
    (h : r.Holds m i o) : r.getPtr m i true = o.map fun _ => r.address i + 8 := by
  have hsize := le_flashSizeof r.recordSize
  have hstart := le_address (r := r) (i := i)
  have hend := hrange.2
  cases o with
  | none =>
    have hcrc : updateCRC16 0xFFFF (bytesAt m (r.address i + 8)) r.recordSize =
        updateCRC16 0xFFFF (fun _ => erased) r.recordSize :=
      updateCRC16_congr (h.uninitialized_iff.2 rfl)
    have hstored : wordOfBytes (m (r.address i)) (m (r.address i + 1)) = 0xFFFF := by
      rw [← Nat.add_zero (r.address i), h 0 (by omega), Nat.add_zero, h 1 (by omega)]
      rfl
    rw [Region.getPtr, if_pos hrange.1, if_neg, Option.map_none]
    rw [hstored, hcrc]
    exact fun hor => hor.elim (fun heq => hfits.crc heq.symm) (fun hnot => hnot rfl)
  | some record =>
    have hcrc : updateCRC16 0xFFFF (bytesAt m (r.address i + 8)) r.recordSize =
        updateCRC16 0xFFFF record r.recordSize := updateCRC16_congr h.2.1
    rw [Region.getPtr, if_pos hrange.1, if_pos (.inl (h.2.2.trans hcrc.symm)),
      if_pos ⟨by omega, by omega⟩, Option.map_some]

/-! ### Writing one slot -/

theorem write_eq (hrange : r.InRange i) (hinit : ¬ Uninitialized r.recordSize record) :
    r.write m i record =
      (program (program m (r.address i) 8 fun k =>
          (crcArray (updateCRC16 0xFFFF record r.recordSize)).getD k 0)
        (r.address i + 8) (flashSizeof r.recordSize) record, FTFx_OK) := by
  rw [write, if_pos hrange.1, if_pos hinit]
  exact if_pos ⟨le_address, hrange.2⟩

theorem write_of_uninitialized (hinit : Uninitialized r.recordSize record) :
    (r.write m i record).1 = m := by
  by_cases hmax : i < r.maxNumber
  · rw [write, if_pos hmax, if_neg (not_not.2 hinit)]
  · rw [write, if_neg hmax]

theorem write_of_not_inRange (hrange : ¬ r.InRange i) : (r.write m i record).1 = m := by
  by_cases hmax : i < r.maxNumber
  · rw [write, if_pos hmax]
    split
    · exact congrArg Prod.fst (if_neg fun h => hrange ⟨hmax, h.2⟩)
    · rfl
  · rw [write, if_neg hmax]

theorem write_agree :
    AgreeOutside (r.address i) (8 + flashSizeof r.recordSize) m (r.write m i record).1 := by
  by_cases hrange : r.InRange i
  · by_cases hinit : Uninitialized r.recordSize record
    · rw [write_of_uninitialized hinit]
      exact .refl m
    · rw [write_eq hrange hinit]
      exact ((AgreeOutside.program m).mono ⟨Nat.le_refl _, by omega⟩).trans
        ((AgreeOutside.program _).mono ⟨by omega, by omega⟩)
  · rw [write_of_not_inRange hrange]
    exact .refl m

/-- **A record is written** into an erased slot. -/
theorem Holds.write (h : r.Holds m i none) (hrange : r.InRange i) (record : ℕ → Byte) :
    r.Holds (r.write m i record).1 i (r.written record) := by
  have hsize := le_flashSizeof r.recordSize
  by_cases hinit : Uninitialized r.recordSize record
  · rw [write_of_uninitialized hinit, written, if_pos hinit]
    exact h
  · rw [write_eq hrange hinit, written, if_neg hinit]
    refine ⟨hinit, fun b hb => ?_, ?_⟩ <;> dsimp only
    · have herased : program m (r.address i) 8
          (fun k => (crcArray (updateCRC16 0xFFFF record r.recordSize)).getD k 0)
          (r.address i + 8 + b) = erased := by
        rw [program_outside (by omega), Nat.add_assoc]
        exact h (8 + b) (by omega)
      rw [program_erase (by omega) herased, Nat.add_sub_cancel_left]
    · have hcrc : ∀ k < 8, program (program m (r.address i) 8 fun k =>
          (crcArray (updateCRC16 0xFFFF record r.recordSize)).getD k 0) (r.address i + 8)
          (flashSizeof r.recordSize) record (r.address i + k) =
            (crcArray (updateCRC16 0xFFFF record r.recordSize)).getD k 0 := by
        intro k hk
        rw [program_outside (by omega), program_erase (by omega) (h k (by omega)),
          Nat.add_sub_cancel_left]
      exact (congrArg₂ wordOfBytes (hcrc 0 (by decide)) (hcrc 1 (by decide))).trans
        (wordOfBytes_high_low _)

/-- A slot is not changed by what happens in another range. -/
theorem Holds.frame {a n : ℕ} {o : Option (ℕ → Byte)} (h : r.Holds m i o)
    (hagree : AgreeOutside a n m m')
    (hdisjoint : r.address i + (8 + flashSizeof r.recordSize) ≤ a ∨ a + n ≤ r.address i) :
    r.Holds m' i o :=
  h.congr fun b hb => hagree _ (by omega)

/-! ### The region -/

/-- A region is not changed by what happens in front of it or behind it. -/
theorem Represents.frame {a n : ℕ} (h : r.Represents m content) (hagree : AgreeOutside a n m m')
    (hdisjoint : r.endAddress ≤ a ∨ a + n ≤ r.startAddress) : r.Represents m' content := by
  intro i hrange
  have hend := hrange.2
  have hstart := le_address (r := r) (i := i)
  exact (h i hrange).frame hagree (by omega)

/-- **A record is written** into an erased slot of a region. -/
theorem Represents.write (hfits : r.Fits) (h : r.Represents m content) (hrange : r.InRange i)
    (hi : content i = none) (record : ℕ → Byte) :
    r.Represents (r.write m i record).1 (Function.update content i (r.written record)) := by
  intro j hj
  by_cases hij : j = i
  · subst hij
    rw [Function.update_self]
    exact Holds.write (hi ▸ h j hj) hrange record
  · rw [Function.update_of_ne hij]
    exact (h j hj).frame write_agree (hfits.disjoint hij)

/-! ### Writing a sector -/

theorem sector_div (hpos : 0 < r.perSector) {k : ℕ} (hk : k < r.perSector) (i : ℕ) :
    (k + i / r.perSector * r.perSector) / r.perSector = i / r.perSector := by
  rw [Nat.add_mul_div_right _ _ hpos, Nat.div_eq_of_lt hk, Nat.zero_add]

theorem sectorAddress_congr (h : j / r.perSector = i / r.perSector) :
    r.sectorAddress j = r.sectorAddress i := by rw [sectorAddress, h, sectorAddress]

/-- After an erase, all slots of the sector are erased. -/
theorem holds_eraseSector (hfits : r.Fits) (hj : j / r.perSector = i / r.perSector) :
    r.Holds (r.eraseSector m i) j none := by
  intro b hb
  have hsector := hfits.inSector j
  rw [sectorAddress_congr hj] at hsector
  exact erase_inside (by omega)

/-- The loop of `writeSector` after `n` rounds, on an erased sector. -/
theorem writeSector_loop (hfits : r.Fits) (m : Memory) (i : ℕ) (array : ℕ → Byte) {n : ℕ}
    (hn : n ≤ r.perSector) :
    let m' := (List.range n).foldl
      (fun m k => (r.write m (k + i / r.perSector * r.perSector) (r.element array k)).1)
      (r.eraseSector m i)
    AgreeOutside (r.sectorAddress i) 0x1000 m m' ∧
      ∀ k < r.perSector, r.InRange (k + i / r.perSector * r.perSector) →
        r.Holds m' (k + i / r.perSector * r.perSector)
          (if k < n then r.written (r.element array k) else none) := by
  induction n with
  | zero =>
    refine ⟨.erase m, fun k hk _ => ?_⟩
    rw [if_neg (Nat.not_lt_zero k)]
    exact holds_eraseSector hfits (sector_div hfits.perSector hk i)
  | succ n ih =>
    obtain ⟨hagree, hholds⟩ := ih (Nat.le_of_succ_le hn)
    have hsector := hfits.inSector (n + i / r.perSector * r.perSector)
    rw [sectorAddress_congr (sector_div hfits.perSector hn i)] at hsector
    simp only [List.range_succ, List.foldl_append, List.foldl_cons, List.foldl_nil]
    refine ⟨hagree.trans (write_agree.mono hsector), fun k hk hrange => ?_⟩
    rcases Nat.lt_trichotomy k n with hlt | rfl | hlt
    · -- a slot that was written before
      have hne : k + i / r.perSector * r.perSector ≠ n + i / r.perSector * r.perSector := by omega
      have hbefore := hholds k hk hrange
      rw [if_pos hlt] at hbefore
      rw [if_pos (Nat.lt_succ_of_lt hlt)]
      exact hbefore.frame write_agree (hfits.disjoint hne)
    · have hbefore := hholds k hk hrange
      rw [if_neg (Nat.lt_irrefl k)] at hbefore
      rw [if_pos (Nat.lt_succ_self k)]
      exact hbefore.write hrange _
    · have hne : k + i / r.perSector * r.perSector ≠ n + i / r.perSector * r.perSector := by omega
      have hbefore := hholds k hk hrange
      rw [if_neg (Nat.not_lt_of_gt hlt)] at hbefore
      rw [if_neg (by omega)]
      exact hbefore.frame write_agree (hfits.disjoint hne)

/-- **A sector is written again.** -/
theorem writeSector_spec (hfits : r.Fits) (m : Memory) (i : ℕ) (array : ℕ → Byte) :
    AgreeOutside (r.sectorAddress i) 0x1000 m (r.writeSector (r.eraseSector m i) i array) ∧
      ∀ j, j / r.perSector = i / r.perSector → r.InRange j →
        r.Holds (r.writeSector (r.eraseSector m i) i array) j
          (r.written (r.element array (j % r.perSector))) := by
  obtain ⟨hagree, hholds⟩ := writeSector_loop hfits m i array (Nat.le_refl r.perSector)
  refine ⟨hagree, fun j hj hrange => ?_⟩
  have hk : j % r.perSector < r.perSector := Nat.mod_lt j hfits.perSector
  have hindex : j % r.perSector + i / r.perSector * r.perSector = j := by
    rw [← hj, Nat.mul_comm, Nat.mod_add_div]
  have hslot := hholds (j % r.perSector) hk (hindex.symm ▸ hrange)
  rwa [hindex, if_pos hk] at hslot

/-! ### Reading a sector -/

/-- An array that is filled element by element. -/
theorem foldl_overwrite (size : ℕ) (source : ℕ → ℕ → Byte) (array : ℕ → Byte) (n : ℕ) {k b : ℕ}
    (hk : k < n) (hb : b < size) :
    (List.range n).foldl (fun array k => overwrite array (size * k) size (source k)) array
      (size * k + b) = source k (size * k + b) := by
  induction n with
  | zero => exact absurd hk (Nat.not_lt_zero k)
  | succ n ih =>
    simp only [List.range_succ, List.foldl_append, List.foldl_cons, List.foldl_nil]
    rcases Nat.lt_succ_iff_lt_or_eq.1 hk with hlt | rfl
    · have hle := Nat.mul_le_mul_left size (Nat.succ_le_of_lt hlt)
      rw [Nat.mul_succ] at hle
      rw [overwrite_outside (by omega), ih hlt]
    · exact overwrite_inside (by omega)

/-- The elements that are read: the records of the sector, and cleared ones. -/
theorem element_readSector (hfits : r.Fits) (h : r.Represents m content) (i : ℕ) (array : ℕ → Byte)
    (hj : j / r.perSector = i / r.perSector) (hrange : r.InRange j) {b : ℕ}
    (hb : b < r.recordSize) :
    r.element (r.readSector m i array) (j % r.perSector) b =
      match content j with
      | some record => record b
      | none => erased := by
  have hk : j % r.perSector < r.perSector := Nat.mod_lt j hfits.perSector
  have hindex : j % r.perSector + i / r.perSector * r.perSector = j := by
    rw [← hj, Nat.mul_comm, Nat.mod_add_div]
  have hholds := h j hrange
  rw [element, readSector, foldl_overwrite _ _ _ _ hk hb, hindex, hholds.getPtr hfits hrange]
  cases hcontent : content j with
  | none => rfl
  | some record =>
    rw [hcontent] at hholds
    rw [Option.map_some, Nat.add_sub_cancel_left]
    exact hholds.2.1 b hb

theorem element_setElement_self (array : ℕ → Byte) (k : ℕ) (record : ℕ → Byte) {b : ℕ}
    (hb : b < r.recordSize) : r.element (r.setElement array k record) k b = record b := by
  rw [element, setElement, overwrite_inside (by omega), Nat.add_sub_cancel_left]

theorem element_setElement_of_ne (array : ℕ → Byte) {k l : ℕ} (hkl : l ≠ k) (record : ℕ → Byte)
    {b : ℕ} (hb : b < r.recordSize) :
    r.element (r.setElement array k record) l b = r.element array l b := by
  rw [element, setElement, overwrite_outside, element]
  rcases Nat.lt_or_gt_of_ne hkl with hlt | hlt
  · have hle := Nat.mul_le_mul_left r.recordSize (Nat.succ_le_of_lt hlt)
    rw [Nat.mul_succ] at hle
    omega
  · have hle := Nat.mul_le_mul_left r.recordSize (Nat.succ_le_of_lt hlt)
    rw [Nat.mul_succ] at hle
    omega

/-! ### Replacing a record -/

theorem written_erased : r.written (fun _ => 0xFF) = none := if_pos fun _ _ => rfl

theorem written_congr {record' : ℕ → Byte} (h : r.Holds m i (r.written record))
    (heq : ∀ b < r.recordSize, record b = record' b) : r.Holds m i (r.written record') := by
  have hinit : Uninitialized r.recordSize record ↔ Uninitialized r.recordSize record' :=
    forall₂_congr fun b hb => by rw [heq b hb]
  unfold written at h ⊢
  by_cases hr : Uninitialized r.recordSize record
  · rw [if_pos hr] at h
    rw [if_pos (hinit.1 hr)]
    exact h
  · rw [if_neg hr] at h
    rw [if_neg (mt hinit.2 hr)]
    exact h.congr_record heq

/-- **A record is replaced**: its sector is read, one element is assigned, and the sector is
erased and written again. -/
theorem Represents.replace (hfits : r.Fits) (h : r.Represents m content) (i : ℕ)
    (array record : ℕ → Byte) :
    r.Represents
      (r.writeSector (r.eraseSector m i) i
        (r.setElement (r.readSector m i array) (i % r.perSector) record))
      (Function.update content i (r.written record)) := by
  obtain ⟨hagree, hwritten⟩ := writeSector_spec hfits m i
    (r.setElement (r.readSector m i array) (i % r.perSector) record)
  intro j hrange
  by_cases hsector : j / r.perSector = i / r.perSector
  · have hslot := hwritten j hsector hrange
    by_cases hij : j = i
    · subst hij
      rw [Function.update_self]
      exact written_congr hslot fun b hb => element_setElement_self _ _ _ hb
    · -- another slot of the sector
      have hmod : j % r.perSector ≠ i % r.perSector := fun hmod => hij (by
        rw [← Nat.div_add_mod i r.perSector, ← Nat.div_add_mod j r.perSector, hsector, hmod])
      rw [Function.update_of_ne hij]
      have hread : ∀ b < r.recordSize,
          r.element (r.setElement (r.readSector m i array) (i % r.perSector) record)
            (j % r.perSector) b =
          match content j with
          | some record => record b
          | none => erased := fun b hb =>
        (element_setElement_of_ne _ hmod record hb).trans
          (element_readSector hfits h i array hsector hrange hb)
      have hbefore := h j hrange
      cases hcontent : content j with
      | none =>
        rw [hcontent] at hread
        have hcleared : Uninitialized r.recordSize (r.element
            (r.setElement (r.readSector m i array) (i % r.perSector) record) (j % r.perSector)) :=
          hread
        rwa [written, if_pos hcleared] at hslot
      | some old =>
        rw [hcontent] at hread hbefore
        have hcongr := written_congr hslot hread
        rwa [written, if_neg hbefore.1] at hcongr
  · rw [Function.update_of_ne fun hij => hsector (by rw [hij])]
    have hi := hfits.inSector i
    have hj := hfits.inSector j
    refine (h j hrange).frame hagree ?_
    rcases Nat.lt_or_gt_of_ne hsector with hlt | hlt
    · have hle := Nat.mul_le_mul_left 0x1000 (Nat.succ_le_of_lt hlt)
      unfold sectorAddress at hi hj ⊢
      omega
    · have hle := Nat.mul_le_mul_left 0x1000 (Nat.succ_le_of_lt hlt)
      unfold sectorAddress at hi hj ⊢
      omega

end Region

end Flash

end Lcm
