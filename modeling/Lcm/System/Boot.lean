import Lcm.System.Save

/-!
# Startup

What runs on startup selects one of the two blocks of system properties.  If it is the lower one,
all data is copied from the lower half to the upper one, and the properties are saved again, with
the next index.

## Main definitions

* `booted`, `bootMemory` : the variables and the flash after startup.

## Main results

* `boot_spec` : startup does just that.
* `selectBlock_swap`, `selectBlock_next` : the order of two indices across a wrap.
* `boot_high`, `boot_low` : what is selected after startup is the upper block.
-/

namespace Lcm

namespace System

open Flash

variable {hw : Hardware} {m m' : Memory} {c : Content}

/-- The block in the lower half. -/
abbrev lowBlock (m : Memory) : ℕ → Byte :=
  bytesAt m (flashLowerBlock SYSTEM_PROPERTIES_FLASH_ADDRESS)

/-- The block in the upper half. -/
abbrev highBlock (m : Memory) : ℕ → Byte := bytesAt m SYSTEM_PROPERTIES_FLASH_ADDRESS

/-! ### The order of the indices -/

theorem selectBlock_neither_iff {i j : ℤ} : selectBlock i j = .neither ↔ i = -1 ∧ j = -1 := by
  unfold selectBlock
  split
  · rename_i h
    exact iff_of_true rfl h
  · rename_i h
    refine iff_of_false (fun hselect => ?_) h
    split at hselect
    · cases hselect
    · split at hselect
      · cases hselect
      · split at hselect <;> cases hselect

/-- When the upper block is newer. -/
theorem selectBlock_high_iff {i j : ℤ} :
    selectBlock i j = .high ↔ j = 0 ∧ i = 0xFF ∨ i < j ∧ ¬ (i = 0 ∧ j = 0xFF) := by
  unfold selectBlock
  split
  · exact iff_of_false Block.noConfusion (by omega)
  · split
    · exact iff_of_false Block.noConfusion (by omega)
    · split
      · exact iff_of_true rfl (by omega)
      · split
        · exact iff_of_true rfl (by omega)
        · exact iff_of_false Block.noConfusion (by omega)

/-- **The order of two indices**: what is newer in one half is newer in the other. -/
theorem selectBlock_swap {i j : ℤ} (h : selectBlock i j = .high) : selectBlock j i = .low := by
  rw [selectBlock_high_iff] at h
  cases hselect : selectBlock j i with
  | low => rfl
  | high =>
    rw [selectBlock_high_iff] at hselect
    omega
  | neither =>
    rw [selectBlock_neither_iff] at hselect
    omega

/-- **The next index is newer**, across the wrap. -/
theorem selectBlock_next (i : Byte) : selectBlock i.toNat (i + 1).toNat = .high := by
  have hnext : (i + 1).toNat = (i.toNat + 1) % 256 := BitVec.toNat_add i 1
  have hlt : i.toNat < 256 := i.isLt
  rw [selectBlock_high_iff]
  omega

theorem le_blockIndex (block : ℕ → Byte) : -1 ≤ blockIndex block := by
  unfold blockIndex
  split <;> omega

theorem valid_high (h : whichFlashBlockToUse m = .high) : Valid (highBlock m) := by
  by_contra hhigh
  have hlow := le_blockIndex (lowBlock m)
  have hselect : selectBlock (blockIndex (lowBlock m)) (blockIndex (highBlock m)) = .high := h
  rw [selectBlock_high_iff, not_valid_iff.1 hhigh] at hselect
  omega

theorem valid_low (h : whichFlashBlockToUse m = .low) : Valid (lowBlock m) := by
  by_contra hlow
  have hhigh := le_blockIndex (highBlock m)
  have hselect : selectBlock (blockIndex (lowBlock m)) (blockIndex (highBlock m)) = .low := h
  rw [not_valid_iff.1 hlow] at hselect
  by_cases hindex : blockIndex (highBlock m) = -1
  · cases hselect.symm.trans (selectBlock_neither_iff.2 ⟨rfl, hindex⟩)
  · cases hselect.symm.trans (selectBlock_high_iff.2 (.inr (by omega)))

theorem whichFlashBlockToUse_neither_iff :
    whichFlashBlockToUse m = .neither ↔ ¬ Valid (lowBlock m) ∧ ¬ Valid (highBlock m) := by
  rw [not_valid_iff, not_valid_iff]
  exact selectBlock_neither_iff

/-! ### Copying to the upper half -/

/-- The flash after all data is copied from the lower half. -/
def copied (m : Memory) : Memory :=
  overwrite m LCM_DATA_STARTING_BLOCK (FLASH_UPPER_BLOCK_END_ADDRESS - LCM_DATA_STARTING_BLOCK)
    fun a => m (flashLowerBlock a)

theorem copied_inside {a : ℕ} (h : 0xdb000 ≤ a ∧ a < 0xff000) : copied m a = m (a - 0x80000) :=
  overwrite_inside h

theorem copied_outside {a : ℕ} (h : ¬ (0xdb000 ≤ a ∧ a < 0xff000)) : copied m a = m a :=
  overwrite_outside h

theorem program_erase_lower : program (erase m 0xdb000 0x24000) 0xdb000 0x24000
    (flashSource 0x5b000 (erase m 0xdb000 0x24000)) = copied m := by
  funext a
  by_cases ha : 0xdb000 ≤ a ∧ a < 0xff000
  · have hlower : 0x5b000 + (a - 0xdb000) = a - 0x80000 := by omega
    rw [program_erase (by omega) (erase_inside (by omega)), copied_inside ha, flashSource, hlower,
      erase_outside (by omega)]
  · rw [program_outside (by omega), erase_outside (by omega), copied_outside ha]

theorem sameBlock_copied : SameBlock (lowBlock m) (highBlock (copied m)) := by
  intro i hi
  have hi : i < 0x1000 := hi
  show copied m (0xfe000 + i) = m (0x7e000 + i)
  rw [copied_inside (by omega), show 0xfe000 + i - 0x80000 = 0x7e000 + i by omega]

/-- The flash after `InitializeFlash`. -/
def initialized (m : Memory) : Memory := if whichFlashBlockToUse m = .low then copied m else m

/-- `flashBlockIndexForNextWrite` after `InitializeFlash`. -/
def nextIndex (m : Memory) : Byte :=
  match whichFlashBlockToUse m with
  | .low => lowBlock m 3 + 1
  | .high => highBlock m 3
  | .neither => 1

/-- **`InitializeFlash`** copies the data if the lower block is selected. -/
theorem initializeFlash_spec (hok : hw.NoErrors) (m : Memory) (ram : Ram) :
    Program.Triple (fun f => f.memory = m) (initializeFlash hw ram)
      (fun ram' f => ram' = { ram with flashBlockIndexForNextWrite := nextIndex m } ∧
        f.memory = initialized m)
      fun _ => True := by
  unfold initializeFlash
  refine .bind (Q := fun a f => a.memory = m ∧ f.memory = m) (.get fun f hf => ⟨hf, hf⟩) fun f => ?_
  refine .of_pure fun hf => ?_
  rw [hf, nextIndex, initialized]
  cases whichFlashBlockToUse m with
  | low =>
    refine .bind (flashEraseSector_memory hw hok m 0xdb000 36 (C := fun _ => True) (by decide)
      (by decide) fun _ _ => trivial) fun _ => .of_pure fun _ => ?_
    refine .bind (flashProgramPhrase_memory hw hok _ 0xdb000 18432 (flashSource 0x5b000)
      (C := fun _ => True) (by decide) (by decide) (fun m' hm' i hi => hm' _ ?_) fun _ _ => trivial)
      fun _ => .of_pure fun _ => ?_
    · have hi : i < 0x24000 := hi
      show ¬ (0xdb000 ≤ 0x5b000 + i ∧ 0x5b000 + i < 0xdb000 + 0x24000)
      omega
    · exact .pure _ fun f hf => ⟨rfl, hf.trans program_erase_lower⟩
  | high => exact .pure _ fun f hf => ⟨rfl, hf⟩
  | neither => exact .pure _ fun f hf => ⟨rfl, hf⟩

/-! ### Loading -/

/-- The variables after `LoadSystemPropertiesFromFlash`. -/
def loaded (m : Memory) (ram : Ram) : Ram :=
  if Valid (highBlock m) then (loadBlock (highBlock m) ram).1 else ram

/-- The flash after `LoadSystemPropertiesFromFlash`. -/
def resaved (m : Memory) (ram : Ram) : Memory :=
  if Valid (highBlock m) ∧ (loadBlock (highBlock m) ram).2 = true then saved m (loaded m ram) else m

/-- **`LoadSystemPropertiesFromFlash`** loads the upper block if it is valid. -/
theorem loadSystemPropertiesFromFlash_spec (hok : hw.NoErrors) (m : Memory) (ram : Ram) :
    Program.Triple (fun f => f.memory = m) (loadSystemPropertiesFromFlash hw ram)
      (fun r f => r.2 = loaded m ram ∧ f.memory = resaved m ram) fun _ => True := by
  unfold loadSystemPropertiesFromFlash
  refine .bind (Q := fun a f => a.memory = m ∧ f.memory = m) (.get fun f hf => ⟨hf, hf⟩) fun f => ?_
  refine .of_pure fun hf => ?_
  simp only [hf, resaved, loaded]
  by_cases hvalid : Valid (highBlock m)
  · rw [if_pos hvalid, if_pos hvalid]
    by_cases hresave : (loadBlock (highBlock m) ram).2 = true
    · rw [if_pos hresave, if_pos ⟨hvalid, hresave⟩]
      exact .bind ((saveSystemPropertiesToFlash_spec hok m _).conseq (fun _ h => h) (fun _ _ h => h)
        fun _ _ => trivial) fun _ => .of_pure fun _ => .pure _ fun f hf => ⟨rfl, hf⟩
    · rw [if_neg hresave, if_neg fun h => hresave h.2]
      exact .pure _ fun f hf => ⟨rfl, hf⟩
  · rw [if_neg hvalid, if_neg hvalid, if_neg fun h => hvalid h.1]
    exact .pure _ fun f hf => ⟨rfl, hf⟩

/-! ### Startup -/

/-- The variables before the properties are loaded. -/
def initializedRam (m : Memory) : Ram :=
  { initializeSystemProperties startRam with flashBlockIndexForNextWrite := nextIndex m }

/-- The variables after startup. -/
def booted (m : Memory) : Ram := loaded (initialized m) (initializedRam m)

/-- The flash after startup. -/
def bootMemory (m : Memory) : Memory := resaved (initialized m) (initializedRam m)

/-- **Startup** without errors. -/
theorem boot_spec (hok : hw.NoErrors) (m : Memory) :
    Program.Triple (fun f => f.memory = m) (boot hw)
      (fun ram f => ram = booted m ∧ f.memory = bootMemory m) fun _ => True := by
  unfold boot
  refine .bind (initializeFlash_spec hok m _) fun _ => .of_pure ?_
  rintro rfl
  exact .bind (loadSystemPropertiesFromFlash_spec hok _ _) fun r => .of_pure fun hr =>
    .pure _ fun f hf => ⟨hr, hf⟩

theorem blockIndex_of_valid {block : ℕ → Byte} (h : Valid block) :
    blockIndex block = (block 3).toNat := if_pos h

@[simp] theorem booted_flashBlockIndexForNextWrite :
    (booted m).flashBlockIndexForNextWrite = nextIndex m := by
  unfold booted loaded
  split <;> rfl

theorem initialized_of_ne (h : whichFlashBlockToUse m ≠ .low) : initialized m = m := if_neg h

theorem initialized_of_low (h : whichFlashBlockToUse m = .low) : initialized m = copied m :=
  if_pos h

theorem bootMemory_of_neither (h : whichFlashBlockToUse m = .neither) : bootMemory m = m := by
  have hvalid := (whichFlashBlockToUse_neither_iff.1 h).2
  have hinitialized := initialized_of_ne (m := m) (by rw [h]; exact Block.noConfusion)
  rw [bootMemory, resaved, hinitialized, if_neg fun h => hvalid h.1]

theorem bootMemory_of_high (h : whichFlashBlockToUse m = .high) :
    bootMemory m = m ∨ bootMemory m = saved m (booted m) := by
  have hinitialized := initialized_of_ne (m := m) (by rw [h]; exact Block.noConfusion)
  unfold bootMemory booted resaved
  rw [hinitialized]
  split
  · exact .inr rfl
  · exact .inl rfl

theorem loadBlock_resave {block : ℕ → Byte} {ram : Ram}
    (h : block 3 ≠ ram.flashBlockIndexForNextWrite) : (loadBlock block ram).2 = true := by
  simp only [loadBlock]
  split_ifs
  · exact decide_eq_true h
  · exact decide_eq_true h
  · rfl

/-- Whatever a block holds, the effective offset that is loaded fits. -/
theorem loadBlock_inDST (block : ℕ → Byte) (ram : Ram) :
    (loadBlock block ram).1.systemProperties.effectiveGmtOffsetSeconds =
      (loadBlock block ram).1.systemProperties.gmtOffsetSeconds +
        if (loadBlock block ram).1.inDST then 3600 else 0 := by
  simp only [loadBlock]
  generalize SystemProperties.ofBytes (fun i => block (8 + i)) = p
  by_cases heq : p.effectiveGmtOffsetSeconds = p.gmtOffsetSeconds
  · rw [if_pos heq]
    exact heq.trans (BitVec.add_zero _).symm
  · by_cases hdst : p.effectiveGmtOffsetSeconds = p.gmtOffsetSeconds + 3600
    · rw [if_neg heq, if_pos hdst]
      exact hdst
    · rw [if_neg heq, if_neg hdst]
      exact (BitVec.add_zero _).symm

/-- The properties that are copied get the next index. -/
theorem bootMemory_of_low (h : whichFlashBlockToUse m = .low) :
    bootMemory m = saved (copied m) (booted m) := by
  have hindex : highBlock (copied m) 3 = lowBlock m 3 := sameBlock_copied 3 (by decide)
  have hne : highBlock (copied m) 3 ≠ nextIndex m := by
    rw [hindex, nextIndex, h]
    bv_omega
  unfold bootMemory booted resaved
  rw [initialized_of_low h]
  exact if_pos ⟨sameBlock_copied.valid_iff.2 (valid_low h), loadBlock_resave hne⟩

/-- The lower half is the same after startup. -/
theorem bootMemory_lower {a : ℕ} (ha : a < 0x80000) : bootMemory m a = m a := by
  have hinitialized : initialized m a = m a := by
    unfold initialized
    split
    · exact copied_outside (by omega)
    · rfl
  unfold bootMemory resaved
  split
  · rw [saved_agree _ _ a (show ¬ (0xfe000 ≤ a ∧ a < 0xfe000 + 0x1000) by omega), hinitialized]
  · exact hinitialized

/-- A save gives the upper block the index for the next write. -/
theorem whichFlashBlockToUse_saved (m : Memory) (ram : Ram) :
    whichFlashBlockToUse (saved m ram) =
      selectBlock (blockIndex (lowBlock m)) ram.flashBlockIndexForNextWrite.toNat := by
  have hlow : SameBlock (lowBlock m) (lowBlock (saved m ram)) := by
    intro i hi
    have hi : i < 0x1000 := hi
    exact saved_agree m ram _
      (show ¬ (0xfe000 ≤ 0x7e000 + i ∧ 0x7e000 + i < 0xfe000 + 0x1000) by omega)
  rw [whichFlashBlockToUse, hlow.blockIndex_eq, blockIndex_of_stored (stored_saved m ram)]

/-- **After startup, the upper block is selected** and has the index for the next write, unless
there is no valid block. -/
theorem whichFlashBlockToUse_boot :
    whichFlashBlockToUse m = .neither ∧ whichFlashBlockToUse (bootMemory m) = .neither ∨
      whichFlashBlockToUse (bootMemory m) = .high ∧
        highBlock (bootMemory m) 3 = (booted m).flashBlockIndexForNextWrite := by
  cases h : whichFlashBlockToUse m with
  | neither => exact .inl ⟨rfl, by rwa [bootMemory_of_neither h]⟩
  | high =>
    have hnext : nextIndex m = highBlock m 3 := by rw [nextIndex, h]
    rcases bootMemory_of_high h with hboot | hboot
    · rw [hboot, booted_flashBlockIndexForNextWrite]
      exact .inr ⟨h, hnext.symm⟩
    · rw [hboot, whichFlashBlockToUse_saved, booted_flashBlockIndexForNextWrite, hnext,
        ← blockIndex_of_valid (valid_high h)]
      exact .inr ⟨h, (stored_saved m (booted m)).index.trans (by simp [hnext])⟩
  | low =>
    have hnext : nextIndex m = lowBlock m 3 + 1 := by rw [nextIndex, h]
    have hlow : SameBlock (lowBlock m) (lowBlock (copied m)) := by
      intro i hi
      have hi : i < 0x1000 := hi
      exact copied_outside (show ¬ (0xdb000 ≤ 0x7e000 + i ∧ 0x7e000 + i < 0xff000) by omega)
    rw [bootMemory_of_low h, whichFlashBlockToUse_saved, booted_flashBlockIndexForNextWrite, hnext,
      hlow.blockIndex_eq, blockIndex_of_valid (valid_low h)]
    exact .inr ⟨selectBlock_next _, (stored_saved _ (booted m)).index.trans (by simp [hnext])⟩

/-! ### What is loaded -/

/-- The variables after startup, apart from the properties. -/
theorem booted_inDST : (booted m).systemProperties.effectiveGmtOffsetSeconds =
    (booted m).systemProperties.gmtOffsetSeconds + if (booted m).inDST then 3600 else 0 := by
  unfold booted loaded
  split
  · exact loadBlock_inDST _ _
  · rfl

theorem booted_myMACAddress (i : Fin 6) (hi : i.val < 3) :
    (booted m).myMACAddress i = defaultMACAddress i := by
  unfold booted loaded
  split
  · exact if_pos hi
  · rfl

/-- **Startup restores what the upper block stores**, and leaves the flash alone. -/
theorem boot_high (h : whichFlashBlockToUse m = .high)
    (hs : Stored (highBlock m) (highBlock m 3) c) (htime : c.systemProperties.TimeOk)
    (hmac : ∀ i : Fin 6, i.val < 3 → c.myMACAddress i = defaultMACAddress i) :
    (booted m).toContent = c ∧ bootMemory m = m := by
  have hinitialized := initialized_of_ne (m := m) (by rw [h]; exact Block.noConfusion)
  have hnext : nextIndex m = highBlock m 3 := by rw [nextIndex, h]
  obtain ⟨hcontent, -, -, hresave⟩ := loadBlock_stored hs htime (initializedRam m)
    fun i hi => (hmac i hi).symm
  rw [booted, bootMemory, loaded, resaved, hinitialized, if_pos (valid_high h)]
  refine ⟨hcontent, if_neg fun hboth => ?_⟩
  rw [hresave] at hboth
  exact of_decide_eq_true hboth.2 hnext.symm

/-- **Startup restores what the lower block stores**, and stores it in the upper one. -/
theorem boot_low (h : whichFlashBlockToUse m = .low)
    (hs : Stored (lowBlock m) (lowBlock m 3) c) (htime : c.systemProperties.TimeOk)
    (hmac : ∀ i : Fin 6, i.val < 3 → c.myMACAddress i = defaultMACAddress i) :
    (booted m).toContent = c ∧
      Stored (highBlock (bootMemory m)) (booted m).flashBlockIndexForNextWrite c := by
  have hcontent : (booted m).toContent = c := by
    obtain ⟨hcontent, -⟩ := loadBlock_stored (sameBlock_copied.stored hs) htime (initializedRam m)
      fun i hi => (hmac i hi).symm
    rwa [booted, loaded, initialized_of_low h,
      if_pos (sameBlock_copied.valid_iff.2 (valid_low h))]
  rw [bootMemory_of_low h]
  refine ⟨hcontent, ?_⟩
  rw [← hcontent]
  exact stored_saved _ _

end System

end Lcm
