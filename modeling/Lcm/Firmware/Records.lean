import Lcm.System.Properties

/-!
# S-records

A firmware image is a sequence of S-records, one on each line.  A record is validated and
converted from hexadecimal digits, and then handled: the header erases the inactive firmware area,
the data is programmed into it, and the end record makes the system properties be saved.

## Main definitions

* `s19ASCIIToBinary`, `validateS19Record`, `handleS19RecordString` : the functions of the source.
* `Contained` : handling a record changes nothing outside the inactive firmware area.

## Main results

* `contained_iff` : the records for which that is so.
* `lineContained_iff` : the same for the lines that pass validation.
-/

namespace Lcm

namespace Firmware

open Flash Lcm.System

/-- `PFLASH_BLOCK1_BASE` -/
abbrev PFLASH_BLOCK1_BASE : ℕ := 0x80000

/-- The size of the inactive firmware area. -/
abbrev firmwareAreaSize : ℕ := LCM_DATA_STARTING_BLOCK - PFLASH_BLOCK1_BASE

/-! ### Validating a record -/

/-- The value of a hexadecimal digit. -/
def hexDigit (c : Byte) : Option Byte :=
  if 0x30 ≤ c ∧ c ≤ 0x39 then some (c - 0x30)
  else if 0x61 ≤ c ∧ c ≤ 0x66 then some (c - 0x61 + 10)
  else if 0x41 ≤ c ∧ c ≤ 0x46 then some (c - 0x41 + 10)
  else none

/-- `S19ASCIIToBinary` -/
def s19ASCIIToBinary (pS19ASCII : ℕ → Byte) : Option Byte := do
  let high ← hexDigit (pS19ASCII 0)
  let low ← hexDigit (pS19ASCII 1)
  pure ((high <<< 4) + low)

/-- The loop of `ValidateS19Record`, which converts the next `n` bytes. -/
def convertBytes : ℕ → (ℕ → Byte) → Option (List Byte)
  | 0, _ => some []
  | n + 1, pS19ASCII => do
    let byte ← s19ASCIIToBinary pS19ASCII
    let bytes ← convertBytes n fun i => pS19ASCII (i + 2)
    pure (byte :: bytes)

/-- `ValidateS19Record`: the bytes between the count and the checksum of a valid record. -/
def validateS19Record (pS19ASCII : ℕ → Byte) (maxSizeBinary : Byte) : Option (List Byte) := do
  let count ← s19ASCIIToBinary fun i => pS19ASCII (2 + i)
  let S19ByteCount := count - 1
  if S19ByteCount > maxSizeBinary then none
  else do
    let bytes ← convertBytes S19ByteCount.toNat fun i => pS19ASCII (4 + i)
    let S19RecordChecksum ← s19ASCIIToBinary fun i => pS19ASCII (4 + 2 * S19ByteCount.toNat + i)
    if bytes.foldl (· + ·) count + S19RecordChecksum = 0xFF then some bytes else none

/-! ### Handling a record -/

/-- The address at which the data of a record is written. -/
def writeAddress (S19RecordBytes : ℕ → Byte) : Dword :=
  S19RecordBytes 0 ++ S19RecordBytes 1 ++ S19RecordBytes 2 ++ S19RecordBytes 3 +
    BitVec.ofNat 32 PFLASH_BLOCK1_BASE

/-- `S19RecordLength - 4`, converted to the unsigned type of a size. -/
def dataSize (S19RecordLength : Byte) : Dword := S19RecordLength.setWidth 32 - 4

/-- What `HandleS19RecordString` does with a data sequence with four address bytes. -/
def handleDataRecord (hw : Hardware) (writeAddress size : Dword) (bytes : ℕ → Byte) :
    Program Device (Option String) :=
  if LCM_DATA_STARTING_BLOCK ≤ writeAddress.toNat then pure (some "Address out of range.")
  else do
    let returnCode ← flashProgramPhrase hw writeAddress.toNat size.toNat fun _ => bytes
    if returnCode ≠ FTFx_OK then
      let address := writeAddress - BitVec.ofNat 32 PFLASH_BLOCK1_BASE
      pure (some s!"Flash write failed.  Address={address.toInt}, Code={returnCode.toInt}")
    else pure none

/-- `HandleS19RecordString` for a record with the given type: the text of the error, if there is
one.  `ram` is what the system properties are saved from. -/
def handleS19RecordString (hw : Hardware) (ram : Ram) (type : Byte) (S19RecordBytes : ℕ → Byte)
    (S19RecordLength : Byte) : Program Device (Option String) :=
  match type with
  | 0x30 => do
    let returnCode ← flashEraseSector hw PFLASH_BLOCK1_BASE firmwareAreaSize
    if returnCode ≠ FTFx_OK then
      pure (some s!"Failure erasing FLASH.  Code={returnCode.toInt}")
    else pure none
  | 0x31 => pure (some "Don't handle 'S1' yet.")
  | 0x32 => pure (some "Don't handle 'S2' yet.")
  | 0x33 => handleDataRecord hw (writeAddress S19RecordBytes) (dataSize S19RecordLength)
      fun i => S19RecordBytes (4 + i)
  | 0x35 => pure (some "Don't handle 'S5' yet.")
  | 0x37 => do
    -- the properties in RAM are saved, so that they are there after the blocks are exchanged
    let returnCode ← saveSystemPropertiesToFlash hw ram
    if returnCode ≠ FTFx_OK then
      pure (some s!"Non-volatile flash write failed.  Code={returnCode.toInt}")
    else pure none
  | 0x38 => pure (some "Don't handle 'S8' yet.")
  | 0x39 => pure (some "Don't handle 'S9' yet.")
  | _ => pure (some "Unrecognized 'S' type.")

/-! ### Containment -/

/-- **Handling a record changes nothing outside the inactive firmware area**, whatever the
commands of the flash return, and whatever one that fails leaves. -/
def Contained (type : Byte) (S19RecordBytes : ℕ → Byte) (S19RecordLength : Byte) : Prop :=
  ∀ hw ram f, AgreeOutside PFLASH_BLOCK1_BASE firmwareAreaSize f.memory
    (handleS19RecordString hw ram type S19RecordBytes S19RecordLength f).state.memory

/-- If something is programmed, it is programmed inside the area. -/
def ProgramsInside (address size : ℕ) : Prop :=
  address < LCM_DATA_STARTING_BLOCK → address % 8 = 0 → size % 8 = 0 → 0 < size →
    PFLASH_BLOCK1_BASE ≤ address ∧ address + size ≤ LCM_DATA_STARTING_BLOCK

variable {type : Byte} {S19RecordBytes : ℕ → Byte} {S19RecordLength : Byte}

theorem dataSize_lt (S19RecordLength : Byte) : (dataSize S19RecordLength).toNat < 252 ∨
    (dataSize S19RecordLength).toNat % 8 ≠ 0 := by
  have hlength := S19RecordLength.isLt
  rw [dataSize, BitVec.toNat_sub, BitVec.toNat_setWidth]
  change (2 ^ 32 - 4 + S19RecordLength.toNat % 2 ^ 32) % 2 ^ 32 < 252 ∨
    (2 ^ 32 - 4 + S19RecordLength.toNat % 2 ^ 32) % 2 ^ 32 % 8 ≠ 0
  omega

/-- A program that ends with a test of the return code keeps what its first part keeps. -/
theorem triple_test {P Q C : Device → Prop} {p : Program Device Dword} {text : Dword → String}
    (h : Program.Triple P p (fun _ => Q) C) :
    Program.Triple P
      (p >>= fun returnCode => if returnCode ≠ FTFx_OK then pure (some (text returnCode))
        else pure none) (fun _ => Q) C := by
  refine h.bind fun returnCode => ?_
  split
  · exact .pure _ fun _ hs => hs
  · exact .pure _ fun _ hs => hs

/-- A record that is refused, a header, or one that is programmed inside the area. -/
theorem contained_of_programsInside (hend : type ≠ 0x37)
    (hdata : type = 0x33 →
      ProgramsInside (writeAddress S19RecordBytes).toNat (dataSize S19RecordLength).toNat) :
    Contained type S19RecordBytes S19RecordLength := by
  intro hw ram f
  suffices h : Program.Keeps
      (fun f' => AgreeOutside PFLASH_BLOCK1_BASE firmwareAreaSize f.memory f'.memory)
      (handleS19RecordString hw ram type S19RecordBytes S19RecordLength) from (h f (.refl _)).1
  unfold handleS19RecordString
  split
  · exact triple_test (flashEraseSector_agree hw f.memory _ _ ⟨Nat.le_refl _, Nat.le_refl _⟩)
  · exact .pure _
  · exact .pure _
  · unfold handleDataRecord
    split
    · exact .pure _
    · rename_i hlt
      refine triple_test ?_
      by_cases hidle : (writeAddress S19RecordBytes).toNat % 8 = 0 →
          (dataSize S19RecordLength).toNat % 8 = 0 → (dataSize S19RecordLength).toNat = 0
      · exact flashProgramPhrase_idle hw _ _ _ hidle
      · simp only [Classical.not_imp] at hidle
        obtain ⟨haligned, hsize, hpos⟩ := hidle
        obtain ⟨hbase, hlimit⟩ := hdata rfl (Nat.lt_of_not_le hlt) haligned hsize
          (Nat.pos_of_ne_zero hpos)
        exact flashProgramPhrase_agree hw f.memory _ _ _ ⟨hbase, hlimit⟩
  · exact .pure _
  · exact absurd rfl hend
  · exact .pure _
  · exact .pure _
  · exact .pure _

/-- If not all phrases are programmed inside the area, one of them is programmed outside. -/
theorem exists_phrase_outside {address size : ℕ} (hlt : address < LCM_DATA_STARTING_BLOCK)
    (haligned : address % 8 = 0) (hpos : 0 < size) (hsize : size % 8 = 0)
    (hout : ¬ (PFLASH_BLOCK1_BASE ≤ address ∧ address + size ≤ LCM_DATA_STARTING_BLOCK)) :
    ∃ k < size / 8, ¬ (PFLASH_BLOCK1_BASE ≤ address + 8 * k ∧
      address + 8 * k < PFLASH_BLOCK1_BASE + firmwareAreaSize) := by
  have hlt : address < 0xdb000 := hlt
  have hout : ¬ (0x80000 ≤ address ∧ address + size ≤ 0xdb000) := hout
  by_cases hbase : 0x80000 ≤ address
  · exact ⟨(0xdb000 - address) / 8, by omega,
      show ¬ (0x80000 ≤ _ ∧ _ < 0x80000 + 0x5b000) by omega⟩
  · exact ⟨0, by omega, show ¬ (0x80000 ≤ _ ∧ _ < 0x80000 + 0x5b000) by omega⟩

/-- A flash that is zero everywhere. -/
def blankDevice : Device := ⟨fun _ => 0, 0⟩

/-- An end record makes the system properties be saved. -/
theorem not_contained_end : ¬ Contained 0x37 S19RecordBytes S19RecordLength := by
  intro h
  have hsave : Program.Triple (fun f' => f' = blankDevice)
      (handleS19RecordString (.failingAt 0 fun _ => 1) startRam 0x37 S19RecordBytes
        S19RecordLength) (fun _ f' => f'.memory SYSTEM_PROPERTIES_FLASH_ADDRESS = 1)
      fun _ => True := by
    refine triple_test ?_
    refine .bind_error (flashEraseSector_failingAt blankDevice (a := 0xfe000) (n := 1) (k := 0)
      (fun _ => 1) (by decide) (by decide) (by decide)) fun code => ?_
    exact .pure _ fun f' hf => hf 0 (by decide)
  have hkept := h (.failingAt 0 fun _ => 1) startRam blankDevice SYSTEM_PROPERTIES_FLASH_ADDRESS
    (by decide)
  cases hkept.symm.trans (hsave blankDevice rfl).1

theorem handleS19RecordString_data (hw : Hardware) (ram : Ram) :
    handleS19RecordString hw ram 0x33 S19RecordBytes S19RecordLength =
      handleDataRecord hw (writeAddress S19RecordBytes) (dataSize S19RecordLength)
        fun i => S19RecordBytes (4 + i) := by
  unfold handleS19RecordString
  split <;> first | contradiction | rfl

/-- Data that is programmed outside the area. -/
theorem ProgramsInside.of_contained (h : Contained 0x33 S19RecordBytes S19RecordLength) :
    ProgramsInside (writeAddress S19RecordBytes).toNat (dataSize S19RecordLength).toNat := by
  have hbound := dataSize_lt S19RecordLength
  have h : ∀ hw f, AgreeOutside PFLASH_BLOCK1_BASE firmwareAreaSize f.memory
    (handleDataRecord hw (writeAddress S19RecordBytes) (dataSize S19RecordLength)
      (fun i => S19RecordBytes (4 + i)) f).state.memory := by
    intro hw f
    rw [← handleS19RecordString_data hw startRam]
    exact h hw startRam f
  generalize writeAddress S19RecordBytes = address at h ⊢
  generalize dataSize S19RecordLength = size at h hbound ⊢
  intro hlt haligned hsize hpos
  have hbound := hbound.resolve_right (not_not.2 hsize)
  by_contra hout
  -- phrase `k` is the first one outside the area
  obtain ⟨k, hk, hk'⟩ := exists_phrase_outside hlt haligned hpos hsize hout
  have hprogram : Program.Triple (fun f' => f' = blankDevice)
      (handleDataRecord (.failingAt (0 + k) fun _ => 1) address size fun i =>
        S19RecordBytes (4 + i))
      (fun _ f' => f'.memory (address.toNat + 8 * k) = 1) fun _ => True := by
    have hprogram := flashProgramPhrase_failingAt blankDevice (n := size.toNat / 8)
      (fun i => S19RecordBytes (4 + i)) (fun _ => 1) haligned ?_ hk
    · rw [Nat.mul_div_cancel' (Nat.dvd_of_mod_eq_zero hsize)] at hprogram
      rw [handleDataRecord, if_neg (Nat.not_le.2 hlt)]
      exact triple_test (hprogram.conseq (fun _ h => h)
        (fun _ f' hf => hf.2 0 (by decide)) fun _ h => h)
    · rw [Nat.mul_div_cancel' (Nat.dvd_of_mod_eq_zero hsize)]
      have hlt : address.toNat < 0xdb000 := hlt
      change address.toNat + size.toNat ≤ 0x100000
      omega
  have hkept := h (.failingAt (0 + k) fun _ => 1) blankDevice _ hk'
  obtain ⟨hchanged, -⟩ := hprogram blankDevice rfl
  rw [hkept] at hchanged
  cases hchanged

/-- **Which records are contained**: an end record is not, and a data record exactly if what is
programmed of it is programmed inside the area. -/
theorem contained_iff : Contained type S19RecordBytes S19RecordLength ↔
    type ≠ 0x37 ∧ (type = 0x33 →
      ProgramsInside (writeAddress S19RecordBytes).toNat (dataSize S19RecordLength).toNat) := by
  refine ⟨fun h => ⟨?_, ?_⟩, fun h => contained_of_programsInside h.1 h.2⟩
  · rintro rfl
    exact not_contained_end h
  · rintro rfl
    exact .of_contained h

/-- The buffer into which a record is converted; `stack` is what is there before. -/
def recordBuffer (bytes : List Byte) (stack : ℕ → Byte) : ℕ → Byte := fun i =>
  bytes.getD i (stack i)

/-- **A line that passes validation** is handled without changing anything outside the inactive
firmware area. -/
def LineContained (line stack : ℕ → Byte) : Prop :=
  ∀ bytes ∈ validateS19Record line 0x51,
    Contained (line 1) (recordBuffer bytes stack) (BitVec.ofNat 8 bytes.length)

/-- **Which lines are contained**: those that are not an end record, and not a data record of
which something is programmed outside the area. -/
theorem lineContained_iff (line stack : ℕ → Byte) :
    LineContained line stack ↔ ∀ bytes ∈ validateS19Record line 0x51,
      line 1 ≠ 0x37 ∧ (line 1 = 0x33 →
        ProgramsInside (writeAddress (recordBuffer bytes stack)).toNat
          (dataSize (BitVec.ofNat 8 bytes.length)).toNat) :=
  forall₂_congr fun _ _ => contained_iff

/-- `S30DFFF800000000000000000000FB`, a data record for an address that becomes 0. -/
def exampleLine : ℕ → Byte := fun i =>
  [0x53, 0x33, 0x30, 0x44, 0x46, 0x46, 0x46, 0x38, 0x30, 0x30, 0x30, 0x30, 0x30, 0x30, 0x30,
    0x30, 0x30, 0x30, 0x30, 0x30, 0x30, 0x30, 0x30, 0x30, 0x30, 0x30, 0x30, 0x30, 0x46, 0x42,
    0x0A].getD i 0

/-- The running firmware is programmed. -/
theorem not_lineContained_of_wrap : ¬ LineContained exampleLine fun _ => 0 := by
  intro h
  have hcontained := h [0xFF, 0xF8, 0, 0, 0, 0, 0, 0, 0, 0, 0, 0] (by decide)
  have hinside := (contained_iff.1 hcontained).2 rfl
  exact absurd (hinside (by decide) (by decide) (by decide) (by decide)).1 (by decide)

end Firmware

end Lcm
