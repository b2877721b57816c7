import Lcm.System.Properties

/-!
# Saving the system properties

What `SaveSystemPropertiesToFlash` writes is what `LoadSystemPropertiesFromFlash` reads, in the
upper half of the flash and, after the halves are exchanged, in the lower one.

## Main definitions

* `Stored` : a block with the given index and content.

## Main results

* `saveSystemPropertiesToFlash_spec` : a save stores the content and leaves the rest alone.
* `loadBlock_stored` : the content of a stored block is loaded.
-/

namespace Lcm

namespace System

open Flash

/-- A valid block with the given index and content. -/
structure Stored (block : ℕ → Byte) (index : Byte) (c : Content) : Prop where
  /-- Its canary and its checksum are right. -/
  valid : Valid block
  /-- It has the index. -/
  index : block 3 = index
  /-- It has the last three bytes of the MAC address. -/
  mac : ∀ i : Fin 6, 3 ≤ i.val → block (1 + i) = c.myMACAddress i
  /-- It has the properties. -/
  properties : ∀ i < systemPropertiesSize, block (8 + i) = c.systemProperties.bytes i
  /-- The checksum of the extended properties is right. -/
  extendedCrc : wordAt block crcCalcBytes =
    updateCRC16 0xFFFF (fun i => block (crcCalcBytes + 8 + i)) extendedSystemPropertiesSize
  /-- It has the extended properties. -/
  extended : ∀ i : Fin extendedSystemPropertiesSize,
    block (crcCalcBytes + 8 + i) = c.extendedSystemProperties i

variable {block block' : ℕ → Byte} {m : Memory}

/-! ### Copies of a block -/

/-- Two blocks have the same bytes. -/
def SameBlock (block block' : ℕ → Byte) : Prop := ∀ i < FTFx_PSECTOR_SIZE, block' i = block i

theorem SameBlock.valid_iff (h : SameBlock block block') : Valid block' ↔ Valid block := by
  rw [Valid, Valid, updateCRC16_congr fun i hi => h i (Nat.lt_trans hi (by decide)), wordAt, wordAt,
    h 0 (by decide), h 1 (by decide), h 2 (by decide), h _ (by decide), h _ (by decide)]

theorem SameBlock.blockIndex_eq (h : SameBlock block block') :
    blockIndex block' = blockIndex block := by
  simp only [blockIndex, h.valid_iff, h 3 (by decide)]

theorem SameBlock.stored (h : SameBlock block block') {index : Byte} {c : Content}
    (hs : Stored block index c) : Stored block' index c where
  valid := h.valid_iff.2 hs.valid
  index := (h 3 (by decide)).trans hs.index
  mac i hi := by
    have hlt := i.isLt
    exact (h (1 + i) (show 1 + i.val < 0x1000 by omega)).trans (hs.mac i hi)
  properties i hi := by
    have hi' : i < 148 := hi
    exact (h (8 + i) (show 8 + i < 0x1000 by omega)).trans (hs.properties i hi)
  extendedCrc := by
    have hcrc : updateCRC16 0xFFFF (fun i => block' (crcCalcBytes + 8 + i))
        extendedSystemPropertiesSize =
        updateCRC16 0xFFFF (fun i => block (crcCalcBytes + 8 + i)) extendedSystemPropertiesSize :=
      updateCRC16_congr fun i hi => by
        have hi : i < 120 := hi
        exact h _ (show 168 + i < 0x1000 by omega)
    rw [hcrc, wordAt, h _ (by decide), h _ (by decide)]
    exact hs.extendedCrc
  extended i := by
    have hi : i.val < 120 := i.isLt
    exact (h _ (show 168 + i.val < 0x1000 by omega)).trans (hs.extended i)

theorem blockIndex_of_stored {index : Byte} {c : Content} (h : Stored block index c) :
    blockIndex block = index.toNat := by
  rw [blockIndex, if_pos h.valid, h.index]

theorem Stored.self {index : Byte} {c : Content} (h : Stored block index c) :
    Stored block (block 3) c := h.index.symm ▸ h

theorem not_valid_iff : ¬ Valid block ↔ blockIndex block = -1 := by
  unfold blockIndex
  split
  · rename_i hvalid
    exact iff_of_false (not_not.2 hvalid) (by omega)
  · rename_i hvalid
    exact iff_of_true hvalid rfl

/-! ### Loading -/

theorem SystemProperties.ofBytes_bytes (p : SystemProperties) : ofBytes p.bytes = p := by
  ext1
  · funext i
    exact dif_pos i.isLt
  · exact dwordOfBytes_byteOfDword p.gmtOffsetSeconds
  · exact dwordOfBytes_byteOfDword p.effectiveGmtOffsetSeconds
  · rfl
  · rfl
  · rfl
  · rfl

theorem SystemProperties.ofBytes_congr {bytes bytes' : ℕ → Byte}
    (h : ∀ i < systemPropertiesSize, bytes i = bytes' i) : ofBytes bytes = ofBytes bytes' := by
  have hdword : ∀ a, a + 3 < 148 → dwordOfBytes (fun k => bytes (a + k)) =
      dwordOfBytes fun k => bytes' (a + k) := by
    intro a ha
    simp only [dwordOfBytes]
    rw [h (a + 3) ha, h (a + 2) (show a + 2 < 148 by omega), h (a + 1) (show a + 1 < 148 by omega),
      h (a + 0) (show a < 148 by omega)]
  ext1
  · funext i
    exact h i (Nat.lt_trans i.isLt (by decide))
  · exact hdword 136 (by decide)
  · exact hdword 140 (by decide)
  · exact h 144 (by decide)
  · exact h 145 (by decide)
  · exact h 146 (by decide)
  · exact h 147 (by decide)

/-- The effective offset is the offset of the time zone, or one hour more. -/
def SystemProperties.TimeOk (p : SystemProperties) : Prop :=
  p.effectiveGmtOffsetSeconds = p.gmtOffsetSeconds ∨
    p.effectiveGmtOffsetSeconds = p.gmtOffsetSeconds + 3600

/-- **The content of a stored block is loaded**, and saved again only if its index is not the one
for the next write. -/
theorem loadBlock_stored {index : Byte} {c : Content} (h : Stored block index c)
    (htime : c.systemProperties.TimeOk) (ram : Ram)
    (hmac : ∀ i : Fin 6, i.val < 3 → ram.myMACAddress i = c.myMACAddress i) :
    (loadBlock block ram).1.toContent = c ∧
      (loadBlock block ram).1.flashBlockIndexForNextWrite = ram.flashBlockIndexForNextWrite ∧
      ((loadBlock block ram).1.inDST = true ↔
        c.systemProperties.effectiveGmtOffsetSeconds ≠ c.systemProperties.gmtOffsetSeconds) ∧
      (loadBlock block ram).2 = decide (index ≠ ram.flashBlockIndexForNextWrite) := by
  have hproperties : SystemProperties.ofBytes (fun i => block (8 + i)) = c.systemProperties := by
    rw [SystemProperties.ofBytes_congr fun i hi => h.properties i hi,
      SystemProperties.ofBytes_bytes]
  have hmacs : (fun i : Fin 6 => if i.val < 3 then ram.myMACAddress i else block (1 + i)) =
      c.myMACAddress := by
    funext i
    split
    · rename_i hi
      exact hmac i hi
    · rename_i hi
      exact h.mac i (Nat.not_lt.1 hi)
  have hextended : (fun i : Fin extendedSystemPropertiesSize => block (crcCalcBytes + 8 + i)) =
      c.extendedSystemProperties := funext h.extended
  simp only [loadBlock, hproperties, hmacs, hextended, if_pos h.extendedCrc, h.index]
  by_cases heq : c.systemProperties.effectiveGmtOffsetSeconds = c.systemProperties.gmtOffsetSeconds
  · simp only [if_pos heq]
    exact ⟨trivial, trivial, iff_of_false Bool.false_ne_true (not_not.2 heq), trivial⟩
  · simp only [if_neg heq, if_pos (htime.resolve_left heq)]
    exact ⟨trivial, trivial, iff_of_true trivial heq, trivial⟩

/-! ### Saving -/

/-- The flash after the erase and the first two writes of a save. -/
def savedProperties (m : Memory) (ram : Ram) : Memory :=
  program (program (erase m 0xfe000 0x1000) 0xfe008 152 (ram.propertiesSource m)) 0xfe0a8 120
    (ram.extendedSource m)

/-- The flash after the checksum of the extended properties and the title block are written. -/
def savedTitle (m : Memory) (ram : Ram) : Memory :=
  program
    (program (savedProperties m ram) 0xfe0a0 8
      (ramSource (crcTitleBlock (updateCRC16 0xFFFF (bytesAt (savedProperties m ram) 0xfe0a8) 120))
        m))
    0xfe000 8 (ramSource ram.titleBlock m)

/-- The flash after a save. -/
def saved (m : Memory) (ram : Ram) : Memory :=
  program (savedTitle m ram) 0xfeff0 8
    (ramSource (crcTitleBlock (updateCRC16 0xFFFF (bytesAt (savedTitle m ram) 0xfe000) 160)) m)

/-- What is erased by a save and not yet programmed. -/
theorem savedProperties_erased (m : Memory) (ram : Ram) {a : ℕ} (ha : 0xfe000 ≤ a ∧ a < 0xff000)
    (hout : a < 0xfe008 ∨ 0xfe0a0 ≤ a ∧ a < 0xfe0a8 ∨ 0xfe120 ≤ a) :
    savedProperties m ram a = erased := by
  rw [savedProperties, program_outside (by omega), program_outside (by omega),
    erase_inside (by omega)]

theorem savedProperties_properties (m : Memory) (ram : Ram) {i : ℕ} (hi : i < 152) :
    savedProperties m ram (0xfe008 + i) = ram.propertiesSource m i := by
  rw [savedProperties, program_outside (by omega),
    program_erase (by omega) (erase_inside (by omega)), Nat.add_sub_cancel_left]

theorem savedProperties_extended (m : Memory) (ram : Ram) {i : ℕ} (hi : i < 120) :
    savedProperties m ram (0xfe0a8 + i) = ram.extendedSource m i := by
  have herased : program (erase m 0xfe000 0x1000) 0xfe008 152 (ram.propertiesSource m)
      (0xfe0a8 + i) = erased := by
    rw [program_outside (by omega), erase_inside (by omega)]
  rw [savedProperties, program_erase (by omega) herased, Nat.add_sub_cancel_left]

theorem savedTitle_title (m : Memory) (ram : Ram) {i : ℕ} (hi : i < 8) :
    savedTitle m ram (0xfe000 + i) = ram.titleBlock.getD i 0 := by
  rw [savedTitle, program_erase (by omega) ?_, Nat.add_sub_cancel_left]
  · rfl
  · rw [program_outside (by omega), savedProperties_erased m ram (by omega) (by omega)]

theorem savedTitle_crc (m : Memory) (ram : Ram) {i : ℕ} (hi : i < 8) :
    savedTitle m ram (0xfe0a0 + i) =
      (crcTitleBlock (updateCRC16 0xFFFF (bytesAt (savedProperties m ram) 0xfe0a8) 120)).getD i
        0 := by
  rw [savedTitle, program_outside (by omega), program_erase (by omega) ?_, Nat.add_sub_cancel_left]
  · rfl
  · exact savedProperties_erased m ram (by omega) (by omega)

theorem savedTitle_outside (m : Memory) (ram : Ram) {a : ℕ}
    (ha : (a < 0xfe000 ∨ 0xfe008 ≤ a) ∧ (a < 0xfe0a0 ∨ 0xfe0a8 ≤ a)) :
    savedTitle m ram a = savedProperties m ram a := by
  rw [savedTitle, program_outside (by omega), program_outside (by omega)]

theorem saved_outside (m : Memory) (ram : Ram) {a : ℕ} (ha : a < 0xfeff0 ∨ 0xfeff8 ≤ a) :
    saved m ram a = savedTitle m ram a := program_outside (by omega)

theorem saved_crc (m : Memory) (ram : Ram) {i : ℕ} (hi : i < 8) :
    saved m ram (0xfeff0 + i) =
      (crcTitleBlock (updateCRC16 0xFFFF (bytesAt (savedTitle m ram) 0xfe000) 160)).getD i 0 := by
  rw [saved, program_erase (by omega) ?_, Nat.add_sub_cancel_left]
  · rfl
  · rw [savedTitle_outside m ram (by omega), savedProperties_erased m ram (by omega) (by omega)]

/-- **A save stores the content.** -/
theorem stored_saved (m : Memory) (ram : Ram) :
    Stored (bytesAt (saved m ram) SYSTEM_PROPERTIES_FLASH_ADDRESS)
      ram.flashBlockIndexForNextWrite ram.toContent := by
  have htitle : ∀ i < 8, bytesAt (saved m ram) 0xfe000 i = ram.titleBlock.getD i 0 := fun i hi =>
    (saved_outside m ram (by omega)).trans (savedTitle_title m ram hi)
  refine ⟨⟨⟨htitle 0 (by decide), htitle 1 (by decide), htitle 2 (by decide)⟩, ?_⟩,
    htitle 3 (by decide), fun i hi => ?_, fun i hi => ?_, ?_, fun i => ?_⟩
  · -- the checksum is taken before it is written, over bytes that are not written again
    have hcrc : wordAt (bytesAt (saved m ram) 0xfe000) 0xff0 =
        updateCRC16 0xFFFF (bytesAt (savedTitle m ram) 0xfe000) 160 := by
      rw [wordAt]
      rw [show bytesAt (saved m ram) 0xfe000 (0xff0 + 1) = _ from
        saved_crc m ram (i := 1) (by decide)]
      rw [show bytesAt (saved m ram) 0xfe000 0xff0 = _ from saved_crc m ram (i := 0) (by decide)]
      exact wordOfBytes_high_low _
    refine hcrc.trans (updateCRC16_congr fun i hi => ?_)
    have hi : i < 160 := hi
    exact (saved_outside m ram (by omega)).symm
  · obtain ⟨i, hlt⟩ := i
    have hi : 3 ≤ i := hi
    rw [show bytesAt (saved m ram) SYSTEM_PROPERTIES_FLASH_ADDRESS (1 + i) = _ from
      htitle (1 + i) (by omega)]
    obtain rfl | rfl | rfl : i = 3 ∨ i = 4 ∨ i = 5 := by omega
    · rfl
    · rfl
    · rfl
  · have hi' : i < 148 := hi
    have hread := savedProperties_properties m ram (i := i) (by omega)
    rw [Ram.propertiesSource, if_pos hi] at hread
    rw [← hread]
    refine Eq.trans ?_ ((saved_outside m ram (a := 0xfe008 + i) (by omega)).trans
      (savedTitle_outside m ram (by omega)))
    rw [bytesAt, ← Nat.add_assoc]
  · have hcrc : wordAt (bytesAt (saved m ram) 0xfe000) 160 =
        updateCRC16 0xFFFF (bytesAt (savedProperties m ram) 0xfe0a8) 120 := by
      rw [wordAt]
      rw [show bytesAt (saved m ram) 0xfe000 (160 + 1) = _ from
        (saved_outside m ram (by omega)).trans (savedTitle_crc m ram (i := 1) (by decide))]
      rw [show bytesAt (saved m ram) 0xfe000 160 = _ from
        (saved_outside m ram (by omega)).trans (savedTitle_crc m ram (i := 0) (by decide))]
      exact wordOfBytes_high_low _
    refine hcrc.trans (updateCRC16_congr fun i hi => ?_)
    have hi : i < 120 := hi
    show savedProperties m ram (0xfe0a8 + i) = saved m ram (0xfe000 + (168 + i))
    rw [saved_outside m ram (by omega), savedTitle_outside m ram (by omega), ← Nat.add_assoc]
  · have hi : i.val < 120 := i.isLt
    show saved m ram (0xfe000 + (168 + i)) = _
    rw [saved_outside m ram (by omega), savedTitle_outside m ram (by omega), ← Nat.add_assoc,
      savedProperties_extended m ram hi, Ram.extendedSource]
    congr 1
    exact Fin.ofNat_val_eq_self i

theorem saved_agree (m : Memory) (ram : Ram) :
    AgreeOutside SYSTEM_PROPERTIES_FLASH_ADDRESS 0x1000 m (saved m ram) := by
  intro a ha
  have ha : ¬ (0xfe000 ≤ a ∧ a < 0xfe000 + 0x1000) := ha
  rw [saved_outside m ram (by omega), savedTitle_outside m ram (by omega), savedProperties,
    program_outside (by omega), program_outside (by omega), erase_outside (by omega)]

/-- A write into the sector of the properties. -/
theorem agree_program {m' : Memory} (h : AgreeOutside SYSTEM_PROPERTIES_FLASH_ADDRESS 0x1000 m m')
    (a n : ℕ) (bytes : ℕ → Byte) (ha : 0xfe000 ≤ a ∧ a + n ≤ 0xff000) :
    AgreeOutside SYSTEM_PROPERTIES_FLASH_ADDRESS 0x1000 m (program m' a n bytes) :=
  h.trans ((AgreeOutside.program m').mono ha)

/-- **Saving**: without errors, the content is stored; an interruption changes nothing outside of
the sector. -/
theorem saveSystemPropertiesToFlash_spec {hw : Hardware} (hok : hw.NoErrors) (m : Memory)
    (ram : Ram) :
    Program.Triple (fun f => f.memory = m) (saveSystemPropertiesToFlash hw ram)
      (fun code f => code = FTFx_OK ∧ f.memory = saved m ram)
      fun f => AgreeOutside SYSTEM_PROPERTIES_FLASH_ADDRESS 0x1000 m f.memory := by
  -- `hwrite` is one of the writes, to `8 * n` bytes of the sector
  have hwrite : ∀ (m' : Memory) (a n : ℕ) (bytes : ℕ → Byte), a % 8 = 0 →
      0xfe000 ≤ a ∧ a + 8 * n ≤ 0xff000 →
      AgreeOutside SYSTEM_PROPERTIES_FLASH_ADDRESS 0x1000 m m' →
      Program.Triple (fun f => f.memory = m') (flashProgramPhrase hw a (8 * n) fun _ => bytes)
        (fun code f => code = FTFx_OK ∧ f.memory = program m' a (8 * n) bytes)
        fun f => AgreeOutside SYSTEM_PROPERTIES_FLASH_ADDRESS 0x1000 m f.memory :=
    fun m' a n bytes haligned ha hagree =>
      flashProgramPhrase_memory hw hok m' a n (fun _ => bytes) haligned
        (show a + 8 * n ≤ 0x100000 by omega) (fun _ _ _ _ => rfl) fun k hk =>
          agree_program hagree _ _ _ ⟨ha.1, show a + 8 * k ≤ 0xff000 by omega⟩
  have herased : AgreeOutside SYSTEM_PROPERTIES_FLASH_ADDRESS 0x1000 m (erase m 0xfe000 0x1000) :=
    .erase m
  unfold saveSystemPropertiesToFlash
  refine .bind_ok (flashEraseSector_memory hw hok m 0xfe000 1 (by decide) (by decide)
    fun k hk => (AgreeOutside.erase m).mono ⟨Nat.le_refl _, ?_⟩) ?_
  · show 0xfe000 + 0x1000 * k ≤ 0xfe000 + 0x1000
    omega
  refine .bind_ok (hwrite _ 0xfe008 19 _ (by decide) (by decide) herased) ?_
  have hproperties := agree_program herased 0xfe008 152 (ram.propertiesSource m) (by decide)
  refine .bind_ok (hwrite _ 0xfe0a8 15 _ (by decide) (by decide) hproperties) ?_
  have hextended := agree_program hproperties 0xfe0a8 120 (ram.extendedSource m) (by decide)
  refine .bind (Q := fun a f => a.memory = savedProperties m ram ∧
    f.memory = savedProperties m ram) (.get fun f hf => ⟨hf, hf⟩) fun f => ?_
  refine .of_pure fun hf => ?_
  rw [hf]
  refine .bind_ok (hwrite _ 0xfe0a0 1 _ (by decide) (by decide) hextended) ?_
  have hcrc := agree_program hextended 0xfe0a0 8 (ramSource (crcTitleBlock
    (updateCRC16 0xFFFF (bytesAt (savedProperties m ram) 0xfe0a8) 120)) m) (by decide)
  refine .bind_ok (hwrite _ 0xfe000 1 _ (by decide) (by decide) hcrc) ?_
  have htitle := agree_program hcrc 0xfe000 8 (ramSource ram.titleBlock m) (by decide)
  refine .bind (Q := fun a f => a.memory = savedTitle m ram ∧ f.memory = savedTitle m ram)
    (.get fun f hf => ⟨hf, hf⟩) fun f => ?_
  refine .of_pure fun hf => ?_
  rw [hf]
  exact .bind_ok (hwrite _ 0xfeff0 1 _ (by decide) (by decide) htitle) (.pure _ fun _ h => ⟨rfl, h⟩)

/-- **Saving in any case**: whatever fails, only the sector is changed. -/
theorem saveSystemPropertiesToFlash_agree (hw : Hardware) (m : Memory) (ram : Ram) :
    Program.Keeps (fun f => AgreeOutside SYSTEM_PROPERTIES_FLASH_ADDRESS 0x1000 m f.memory)
      (saveSystemPropertiesToFlash hw ram) := by
  unfold saveSystemPropertiesToFlash
  refine .test (flashEraseSector_agree hw m _ _ (by decide)) fun _ => ?_
  refine .test (flashProgramPhrase_agree hw m _ _ _ (by decide)) fun _ => ?_
  refine .test (flashProgramPhrase_agree hw m _ _ _ (by decide)) fun _ => ?_
  refine .bind .get fun _ => ?_
  refine .test (flashProgramPhrase_agree hw m _ _ _ (by decide)) fun _ => ?_
  refine .test (flashProgramPhrase_agree hw m _ _ _ (by decide)) fun _ => ?_
  refine .bind .get fun _ => ?_
  exact .test (flashProgramPhrase_agree hw m _ _ _ (by decide)) fun _ => .pure _

end System

end Lcm
