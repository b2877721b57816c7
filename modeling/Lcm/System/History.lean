import Lcm.Run.Basic
import Lcm.System.Boot

/-!
# Saves, restarts and firmware updates

The flash over any number of saves, restarts and firmware updates, an update being an exchange of
the two halves and a restart.  In between, the variables change and the rest of the upper half is
written.

## Main definitions

* `history` : the machine, with the content that was last saved beside the flash and the variables.
* `Inv` : its invariant.
* `KeepsData` : no interruption of a save loses data on the next startup.

## Main results

* `boot_restores` : startup restores what was saved last, also after a firmware update.
* `allStates_keepsData_iff` : when an interrupted save is harmless throughout a history.
-/

namespace Lcm

namespace System

open Flash

/-- `LCM_DATA_ZONES_FLASH_START_ADDRESS` -/
abbrev LCM_DATA_ZONES_FLASH_START_ADDRESS : ℕ := 0xdd000

/-- `LCM_DATA_ELIOT_SCENE_PROPERTIES_END_ADDRESS` -/
abbrev LCM_DATA_ELIOT_SCENE_PROPERTIES_END_ADDRESS : ℕ := 0xedfff

/-- Hardware on which no command fails. -/
def noErrors : Hardware := ⟨fun _ => FTFx_OK, fun _ _ => 0⟩

theorem noErrors_noErrors : noErrors.NoErrors := fun _ => rfl

/-- The flash, the variables, and what was last saved. -/
structure State where
  /-- The flash. -/
  memory : Memory
  /-- The variables. -/
  ram : Ram
  /-- What `SaveSystemPropertiesToFlash` was last called for. -/
  lastSaved : Option Content

/-- What happens to the system. -/
inductive Event
  /-- Properties are set, other than the offsets and the vendor's part of the MAC address. -/
  | change (c : Content) (behindProperties : Fin 4 → Byte)
  /-- The time zone is set. -/
  | setTimeZone (gmtOffsetSeconds : Dword)
  /-- The clock is checked for daylight saving time. -/
  | checkForDST (isItDST : Bool)
  /-- `InitializeSystemProperties` is called. -/
  | initializeSystemProperties
  /-- `SaveSystemPropertiesToFlash` is called. -/
  | save
  /-- The upper half is written, below the system properties. -/
  | writeFlash (m' : Memory)
  /-- The system is restarted. -/
  | reboot
  /-- The halves of the flash are exchanged and the system is restarted. -/
  | swapAndReboot

/-- Properties are set. -/
def Ram.change (ram : Ram) (c : Content) (behindProperties : Fin 4 → Byte) : Ram where
  systemProperties :=
    { c.systemProperties with
      gmtOffsetSeconds := ram.systemProperties.gmtOffsetSeconds
      effectiveGmtOffsetSeconds := ram.systemProperties.effectiveGmtOffsetSeconds }
  extendedSystemProperties := c.extendedSystemProperties
  myMACAddress i := if i.val < 3 then ram.myMACAddress i else c.myMACAddress i
  behindProperties := behindProperties
  inDST := ram.inDST
  flashBlockIndexForNextWrite := ram.flashBlockIndexForNextWrite

/-- The time zone is set, in `HandleSetSystemProperties`. -/
def Ram.setTimeZone (ram : Ram) (gmtOffsetSeconds : Dword) : Ram :=
  let diffOffset := ram.systemProperties.gmtOffsetSeconds - gmtOffsetSeconds
  { ram with
    systemProperties :=
      { ram.systemProperties with
        gmtOffsetSeconds := gmtOffsetSeconds
        effectiveGmtOffsetSeconds :=
          ram.systemProperties.effectiveGmtOffsetSeconds - diffOffset } }

/-- The offset that is in effect from now on. -/
def Ram.setDST (ram : Ram) (inDST : Bool) : Ram :=
  { ram with
    systemProperties :=
      { ram.systemProperties with
        effectiveGmtOffsetSeconds :=
          ram.systemProperties.gmtOffsetSeconds + if inDST then 3600 else 0 }
    inDST := inDST }

/-- `CheckForDST` -/
def Ram.checkForDST (ram : Ram) (isItDST : Bool) : Ram :=
  if ram.systemProperties.useDaylightSaving ≠ 0 then
    if ¬ ram.inDST ∧ isItDST then ram.setDST true
    else if ram.inDST ∧ ¬ isItDST then ram.setDST false
    else ram
  else if ram.inDST then ram.setDST false
  else ram

/-- The flash after its halves are exchanged. -/
def exchanged (m : Memory) : Memory := fun a =>
  if a < FLASH_UPPER_BLOCK_START_ADDRESS then m (a + FLASH_UPPER_BLOCK_START_ADDRESS)
  else if a < PBLOCK_SIZE then m (a - FLASH_UPPER_BLOCK_START_ADDRESS)
  else m a

/-- The state after startup. -/
def afterBoot (m : Memory) (lastSaved : Option Content) : State :=
  let o := boot noErrors ⟨m, 0⟩
  ⟨o.state.memory, o.value, lastSaved⟩

/-- The state after a save. -/
def State.save (st : State) : State :=
  let o := saveSystemPropertiesToFlash noErrors st.ram ⟨st.memory, 0⟩
  ⟨o.state.memory, st.ram, some st.ram.toContent⟩

/-- The state after an event. -/
def next (st : State) : Event → State
  | .change c behindProperties => { st with ram := st.ram.change c behindProperties }
  | .setTimeZone gmtOffsetSeconds => { st with ram := st.ram.setTimeZone gmtOffsetSeconds }
  | .checkForDST isItDST => { st with ram := st.ram.checkForDST isItDST }
  | .initializeSystemProperties => { st with ram := initializeSystemProperties st.ram }
  | .save => st.save
  | .writeFlash m' =>
    { st with
      memory := overwrite st.memory FLASH_UPPER_BLOCK_START_ADDRESS
        (SYSTEM_PROPERTIES_FLASH_ADDRESS - FLASH_UPPER_BLOCK_START_ADDRESS) m' }
  | .reboot => afterBoot st.memory st.lastSaved
  | .swapAndReboot => afterBoot (exchanged st.memory) st.lastSaved

/-- The system from its first startup on, with any flash. -/
def history : Machine State Event where
  init st := ∃ m, st = afterBoot m none
  step st e := some (next st e)

variable {m : Memory} {st st' : State} {c : Content}

theorem afterBoot_eq (m : Memory) (lastSaved : Option Content) :
    afterBoot m lastSaved = ⟨bootMemory m, booted m, lastSaved⟩ := by
  obtain ⟨⟨hvalue, hmemory⟩, -⟩ := boot_spec noErrors_noErrors m ⟨m, 0⟩ rfl
  simp only [afterBoot, hvalue, hmemory]

theorem save_eq (st : State) :
    st.save = ⟨saved st.memory st.ram, st.ram, some st.ram.toContent⟩ := by
  obtain ⟨⟨-, hmemory⟩, -⟩ :=
    saveSystemPropertiesToFlash_spec noErrors_noErrors st.memory st.ram ⟨st.memory, 0⟩ rfl
  simp only [State.save, hmemory]

/-! ### Exchanging the halves -/

theorem exchanged_lower {a : ℕ} (ha : a < 0x80000) : exchanged m a = m (a + 0x80000) := if_pos ha

theorem exchanged_upper {a : ℕ} (ha : 0x80000 ≤ a ∧ a < 0x100000) :
    exchanged m a = m (a - 0x80000) := by
  rw [exchanged, if_neg (Nat.not_lt.2 ha.1), if_pos ha.2]

theorem sameBlock_of_lower {m' : Memory} (h : ∀ a < 0x80000, m' a = m (a + 0x80000)) :
    SameBlock (highBlock m) (lowBlock m') := by
  intro i hi
  have hi : i < 0x1000 := hi
  show m' (0x7e000 + i) = m (0xfe000 + i)
  rw [h _ (by omega), show 0x7e000 + i + 0x80000 = 0xfe000 + i by omega]

theorem sameBlock_exchanged_low : SameBlock (highBlock m) (lowBlock (exchanged m)) :=
  sameBlock_of_lower fun _ => exchanged_lower

theorem sameBlock_exchanged_high : SameBlock (lowBlock m) (highBlock (exchanged m)) := by
  intro i hi
  have hi : i < 0x1000 := hi
  show exchanged m (0xfe000 + i) = m (0x7e000 + i)
  rw [exchanged_upper (by omega), show 0xfe000 + i - 0x80000 = 0x7e000 + i by omega]

theorem whichFlashBlockToUse_exchanged :
    whichFlashBlockToUse (exchanged m) =
      selectBlock (blockIndex (highBlock m)) (blockIndex (lowBlock m)) := by
  rw [whichFlashBlockToUse, sameBlock_exchanged_low.blockIndex_eq,
    sameBlock_exchanged_high.blockIndex_eq]

/-! ### The invariant -/

/-- What can be restored without a change: its effective offset fits, and the vendor's part of its
MAC address is the default one. -/
structure Content.Fits (c : Content) : Prop where
  /-- The effective offset fits. -/
  time : c.systemProperties.TimeOk
  /-- The vendor's part is the default one. -/
  mac : ∀ i : Fin 6, i.val < 3 → c.myMACAddress i = defaultMACAddress i

/-- The selected block stores a content. -/
def Restorable (m : Memory) (c : Content) : Prop :=
  whichFlashBlockToUse m = .high ∧ Stored (highBlock m) (highBlock m 3) c ∨
    whichFlashBlockToUse m = .low ∧ Stored (lowBlock m) (lowBlock m 3) c

theorem booted_of_restorable (h : Restorable m c) (hc : c.Fits) : (booted m).toContent = c := by
  rcases h with ⟨hselect, hs⟩ | ⟨hselect, hs⟩
  · exact (boot_high hselect hs hc.time hc.mac).1
  · exact (boot_low hselect hs hc.time hc.mac).1

/-- The effective offset is that of the time of the year. -/
def Ram.OffsetOk (ram : Ram) : Prop :=
  ram.systemProperties.effectiveGmtOffsetSeconds =
    ram.systemProperties.gmtOffsetSeconds + if ram.inDST then 3600 else 0

theorem Ram.OffsetOk.setTimeZone {ram : Ram} (h : ram.OffsetOk) (gmtOffsetSeconds : Dword) :
    (ram.setTimeZone gmtOffsetSeconds).OffsetOk := by
  have h : ram.systemProperties.effectiveGmtOffsetSeconds =
    ram.systemProperties.gmtOffsetSeconds + if ram.inDST then 3600 else 0 := h
  simp only [OffsetOk, Ram.setTimeZone, h]
  bv_omega

theorem Ram.offsetOk_setDST (ram : Ram) (inDST : Bool) : (ram.setDST inDST).OffsetOk := rfl

/-- The invariant of the history. -/
structure Inv (st : State) : Prop where
  /-- The effective offset is that of the time of the year. -/
  time : st.ram.systemProperties.effectiveGmtOffsetSeconds =
    st.ram.systemProperties.gmtOffsetSeconds + if st.ram.inDST then 3600 else 0
  /-- The vendor's part of the MAC address is the default one. -/
  mac : ∀ i : Fin 6, i.val < 3 → st.ram.myMACAddress i = defaultMACAddress i
  /-- The upper block is selected, unless there is no valid block. -/
  selected : whichFlashBlockToUse st.memory = .neither ∧ st.lastSaved = none ∨
    whichFlashBlockToUse st.memory = .high ∧
      highBlock st.memory 3 = st.ram.flashBlockIndexForNextWrite
  /-- What was saved last is stored in the upper block. -/
  stored : ∀ c, st.lastSaved = some c →
    Stored (highBlock st.memory) (highBlock st.memory 3) c ∧ c.Fits

/-- A change of the variables. -/
theorem Inv.setRam (h : Inv st) {ram : Ram}
    (htime : ram.systemProperties.effectiveGmtOffsetSeconds =
      ram.systemProperties.gmtOffsetSeconds + if ram.inDST then 3600 else 0)
    (hmac : ∀ i : Fin 6, i.val < 3 → ram.myMACAddress i = defaultMACAddress i)
    (hindex : ram.flashBlockIndexForNextWrite = st.ram.flashBlockIndexForNextWrite) :
    Inv { st with ram := ram } :=
  ⟨htime, hmac, h.selected.imp_right fun ⟨hselect, heq⟩ => ⟨hselect, heq.trans hindex.symm⟩,
    h.stored⟩

theorem Inv.fits (h : Inv st) : st.ram.toContent.Fits := by
  refine ⟨?_, h.mac⟩
  have htime := h.time
  split at htime
  · exact .inr htime
  · exact .inl (htime.trans (BitVec.add_zero _))

theorem Inv.setTimeZone (h : Inv st) (gmtOffsetSeconds : Dword) :
    Inv { st with ram := st.ram.setTimeZone gmtOffsetSeconds } :=
  h.setRam (Ram.OffsetOk.setTimeZone h.time gmtOffsetSeconds) h.mac rfl

theorem Inv.setDST (h : Inv st) (inDST : Bool) : Inv { st with ram := st.ram.setDST inDST } :=
  h.setRam (st.ram.offsetOk_setDST inDST) h.mac rfl

theorem Inv.checkForDST (h : Inv st) (isItDST : Bool) :
    Inv { st with ram := st.ram.checkForDST isItDST } := by
  unfold Ram.checkForDST
  split_ifs
  · exact h.setDST true
  · exact h.setDST false
  · exact h
  · exact h.setDST false
  · exact h

/-- **A save** stores what was saved last in the upper block. -/
theorem Inv.save (h : Inv st) : Inv st.save := by
  have hs := stored_saved st.memory st.ram
  rw [save_eq]
  refine ⟨h.time, h.mac, .inr ⟨?_, hs.index⟩, fun c hc => ?_⟩
  · rw [whichFlashBlockToUse_saved]
    rcases h.selected with ⟨hneither, -⟩ | ⟨hhigh, hindex⟩
    · -- the first valid block
      rw [not_valid_iff.1 (whichFlashBlockToUse_neither_iff.1 hneither).1, selectBlock_high_iff]
      omega
    · rw [← hindex, ← blockIndex_of_valid (valid_high hhigh)]
      exact hhigh
  · obtain rfl := Option.some.inj hc
    exact ⟨hs.self, h.fits⟩

/-- **A startup** on flash that stores what was saved last. -/
theorem inv_afterBoot {lastSaved : Option Content}
    (h : ∀ c, lastSaved = some c → Restorable m c ∧ c.Fits) : Inv (afterBoot m lastSaved) := by
  rw [afterBoot_eq]
  refine ⟨booted_inDST, booted_myMACAddress, ?_, fun c hc => ?_⟩
  · refine whichFlashBlockToUse_boot.imp_left fun ⟨hneither, hboot⟩ => ⟨hboot, ?_⟩
    cases lastSaved with
    | none => rfl
    | some c =>
      rcases (h c rfl).1 with ⟨hselect, -⟩ | ⟨hselect, -⟩ <;> cases hneither.symm.trans hselect
  · obtain ⟨hrestorable, hfits⟩ := h c hc
    refine ⟨?_, hfits⟩
    rcases hrestorable with ⟨hselect, hs⟩ | ⟨hselect, hs⟩
    · rwa [(boot_high hselect hs hfits.time hfits.mac).2]
    · exact (boot_low hselect hs hfits.time hfits.mac).2.self

/-- What was saved last can be restored. -/
theorem Inv.restorable (h : Inv st) (hc : st.lastSaved = some c) :
    whichFlashBlockToUse st.memory = .high ∧ Restorable st.memory c := by
  rcases h.selected with ⟨-, hnone⟩ | ⟨hselect, -⟩
  · cases hc.symm.trans hnone
  · exact ⟨hselect, .inl ⟨hselect, (h.stored c hc).1⟩⟩

/-- What was saved last can be restored after the halves are exchanged. -/
theorem Inv.restorable_exchanged (h : Inv st) (hc : st.lastSaved = some c) :
    whichFlashBlockToUse (exchanged st.memory) = .low ∧ Restorable (exchanged st.memory) c := by
  have hlow : whichFlashBlockToUse (exchanged st.memory) = .low :=
    whichFlashBlockToUse_exchanged.trans (selectBlock_swap (h.restorable hc).1)
  exact ⟨hlow, .inr ⟨hlow, (sameBlock_exchanged_low.stored (h.stored c hc).1).self⟩⟩

/-- The upper half is written. -/
theorem Inv.writeFlash (h : Inv st) (m' : Memory) : Inv (next st (.writeFlash m')) := by
  have hlow : SameBlock (lowBlock st.memory) (lowBlock (next st (.writeFlash m')).memory) := by
    intro i hi
    have hi : i < 0x1000 := hi
    exact overwrite_outside (show ¬ (0x80000 ≤ 0x7e000 + i ∧ 0x7e000 + i < 0x80000 + 0x7e000)
      by omega)
  have hhigh : SameBlock (highBlock st.memory) (highBlock (next st (.writeFlash m')).memory) := by
    intro i hi
    exact overwrite_outside (show ¬ (0x80000 ≤ 0xfe000 + i ∧ 0xfe000 + i < 0x80000 + 0x7e000)
      by omega)
  have hselect : whichFlashBlockToUse (next st (.writeFlash m')).memory =
      whichFlashBlockToUse st.memory := by
    rw [whichFlashBlockToUse, hlow.blockIndex_eq, hhigh.blockIndex_eq, whichFlashBlockToUse]
  have hindex := hhigh 3 (by decide)
  exact ⟨h.time, h.mac, by rw [hselect, hindex]; exact h.selected, fun c hc =>
    ⟨(hhigh.stored (h.stored c hc).1).self, (h.stored c hc).2⟩⟩

/-- Every event keeps the invariant. -/
theorem Inv.next (h : Inv st) (e : Event) : Inv (next st e) := by
  cases e with
  | change c behindProperties =>
    exact h.setRam h.time (fun i hi => (if_pos hi).trans (h.mac i hi)) rfl
  | setTimeZone gmtOffsetSeconds => exact h.setTimeZone gmtOffsetSeconds
  | checkForDST isItDST => exact h.checkForDST isItDST
  | initializeSystemProperties => exact h.setRam rfl h.mac rfl
  | save => exact h.save
  | writeFlash m' => exact h.writeFlash m'
  | reboot => exact inv_afterBoot fun c hc => ⟨(h.restorable hc).2, (h.stored c hc).2⟩
  | swapAndReboot =>
    exact inv_afterBoot fun c hc => ⟨(h.restorable_exchanged hc).2, (h.stored c hc).2⟩

theorem inv_of_reachable (h : history.Reachable st) : Inv st := by
  refine h.invariant ?_ ?_
  · rintro _ ⟨m, rfl⟩
    exact inv_afterBoot fun c hc => by cases hc
  · intro s e s' hs hstep
    obtain rfl := Option.some.inj hstep
    exact hs.next e

/-- **Startup restores what was saved last**, from the block that was written last: the upper one,
and the lower one after the halves are exchanged. -/
theorem boot_restores (h : history.Reachable st) (hc : st.lastSaved = some c) :
    (whichFlashBlockToUse st.memory = .high ∧
        (boot noErrors ⟨st.memory, 0⟩).value.toContent = c) ∧
      whichFlashBlockToUse (exchanged st.memory) = .low ∧
        (boot noErrors ⟨exchanged st.memory, 0⟩).value.toContent = c := by
  have hinv := inv_of_reachable h
  have hfits := (hinv.stored c hc).2
  have hboot : ∀ m, Restorable m c → (boot noErrors ⟨m, 0⟩).value.toContent = c := by
    intro m hrestorable
    rw [((boot_spec noErrors_noErrors m ⟨m, 0⟩ rfl).1).1]
    exact booted_of_restorable hrestorable hfits
  obtain ⟨hhigh, hrestorable⟩ := hinv.restorable hc
  obtain ⟨hlow, hexchanged⟩ := hinv.restorable_exchanged hc
  exact ⟨⟨hhigh, hboot _ hrestorable⟩, hlow, hboot _ hexchanged⟩

/-- A system that is saved on its first day. -/
def exampleSaved : State := next (afterBoot (fun _ => erased) none) .save

theorem boot_restores_exampleSaved :
    (boot noErrors ⟨exampleSaved.memory, 0⟩).value.toContent = exampleSaved.ram.toContent :=
  (@boot_restores exampleSaved _ ⟨_, [.save], ⟨fun _ => erased, rfl⟩, rfl⟩ rfl).1.2

/-! ### Interrupted saves -/

/-- The zones, the scenes, the scene controllers and the data of Eliot. -/
def IsData (a : ℕ) : Prop :=
  LCM_DATA_STARTING_BLOCK ≤ a ∧ a ≤ LCM_DATA_ELIOT_SCENE_PROPERTIES_END_ADDRESS

instance : DecidablePred IsData := fun _ => inferInstanceAs (Decidable (_ ∧ _))

/-- Whatever steps of a save are done when it is interrupted, the next startup leaves the data as
it is. -/
def KeepsData (st : State) : Prop :=
  ∀ t ∈ ⟨st.memory, 0⟩ :: (saveSystemPropertiesToFlash noErrors st.ram ⟨st.memory, 0⟩).visited,
    ∀ a, IsData a → (boot noErrors t).state.memory a = st.memory a

/-- The lower half holds no valid properties, or the same data. -/
def LowerHarmless (st : State) : Prop :=
  Valid (lowBlock st.memory) →
    ∀ a, IsData a → st.memory (flashLowerBlock a) = st.memory a

theorem bootMemory_data {a : ℕ} (ha : IsData a) : bootMemory m a = initialized m a := by
  have ha : 0xdb000 ≤ a ∧ a ≤ 0xedfff := ha
  unfold bootMemory resaved
  split
  · exact saved_agree _ _ a (show ¬ (0xfe000 ≤ a ∧ a < 0xfe000 + 0x1000) by omega)
  · rfl

theorem boot_memory_data (t : Device) {a : ℕ} (ha : IsData a) :
    (boot noErrors t).state.memory a = initialized t.memory a := by
  rw [((boot_spec noErrors_noErrors t.memory t rfl).1).2, bootMemory_data ha]

/-- What is left when a save is interrupted right after the erase. -/
theorem erased_mem_visited (st : State) :
    ⟨erase st.memory SYSTEM_PROPERTIES_FLASH_ADDRESS 0x1000, 1⟩ ∈
      (saveSystemPropertiesToFlash noErrors st.ram ⟨st.memory, 0⟩).visited :=
  List.mem_append_left _ (List.mem_singleton.2 rfl)

theorem whichFlashBlockToUse_of_low (hlow : Valid (lowBlock m)) (hhigh : ¬ Valid (highBlock m)) :
    whichFlashBlockToUse m = .low := by
  cases h : whichFlashBlockToUse m with
  | low => rfl
  | high => exact absurd (valid_high h) hhigh
  | neither => exact absurd hlow (whichFlashBlockToUse_neither_iff.1 h).1

/-- A change of the sector of the properties does not reach the lower block. -/
theorem sameBlock_of_agree {m' : Memory}
    (h : AgreeOutside SYSTEM_PROPERTIES_FLASH_ADDRESS 0x1000 m m') :
    SameBlock (lowBlock m) (lowBlock m') := by
  intro i hi
  have hi : i < 0x1000 := hi
  exact h _ (show ¬ (0xfe000 ≤ 0x7e000 + i ∧ 0x7e000 + i < 0xfe000 + 0x1000) by omega)

/-- **An interrupted save is harmless exactly if the lower half is.** -/
theorem keepsData_iff (st : State) : KeepsData st ↔ LowerHarmless st := by
  constructor
  · -- after the erase only the lower block is valid, and the data is copied from there
    intro h hlow a ha
    have hrange : 0xdb000 ≤ a ∧ a ≤ 0xedfff := ha
    have hkept := h _ (List.mem_cons_of_mem _ (erased_mem_visited st)) a ha
    have hagree : AgreeOutside SYSTEM_PROPERTIES_FLASH_ADDRESS 0x1000 st.memory
        (erase st.memory SYSTEM_PROPERTIES_FLASH_ADDRESS 0x1000) := .erase _
    have hhigh : ¬ Valid (highBlock (erase st.memory SYSTEM_PROPERTIES_FLASH_ADDRESS 0x1000)) := by
      intro hvalid
      cases (erase_inside (m := st.memory) (a := 0xfe000) (n := 0x1000) (i := 0xfe000)
        (by decide)).symm.trans hvalid.1.1
    have hselect := whichFlashBlockToUse_of_low
      ((sameBlock_of_agree hagree).valid_iff.2 hlow) hhigh
    rw [boot_memory_data _ ha, initialized_of_low hselect, copied_inside (by omega)] at hkept
    rw [← hkept]
    exact (hagree _ (show ¬ (0xfe000 ≤ a - 0x80000 ∧ a - 0x80000 < 0xfe000 + 0x1000)
      by omega)).symm
  · intro h t ht a ha
    have hrange : 0xdb000 ≤ a ∧ a ≤ 0xedfff := ha
    have hagree : AgreeOutside SYSTEM_PROPERTIES_FLASH_ADDRESS 0x1000 st.memory t.memory := by
      rcases List.mem_cons.1 ht with rfl | ht
      · exact .refl _
      · exact (saveSystemPropertiesToFlash_spec noErrors_noErrors st.memory st.ram
          ⟨st.memory, 0⟩ rfl).2 t ht
    rw [boot_memory_data t ha]
    by_cases hselect : whichFlashBlockToUse t.memory = .low
    · have hlow := (sameBlock_of_agree hagree).valid_iff.1 (valid_low hselect)
      rw [initialized_of_low hselect, copied_inside (by omega),
        hagree _ (show ¬ (0xfe000 ≤ a - 0x80000 ∧ a - 0x80000 < 0xfe000 + 0x1000) by omega)]
      exact h hlow a ha
    · rw [initialized_of_ne hselect]
      exact hagree a (show ¬ (0xfe000 ≤ a ∧ a < 0xfe000 + 0x1000) by omega)

/-- **No interrupted save loses data in a history** exactly if the lower half is harmless in every
state of it. -/
theorem allStates_keepsData_iff (m : Memory) (es : List Event) :
    history.AllStates KeepsData (afterBoot m none) es ↔
      history.AllStates LowerHarmless (afterBoot m none) es :=
  ⟨.imp fun st => (keepsData_iff st).1, .imp fun st => (keepsData_iff st).2⟩

/-- An erased flash in which only the first byte of the zones is written. -/
def exampleZone : Memory := fun a => if a = LCM_DATA_ZONES_FLASH_START_ADDRESS then 0x41 else erased

/-- After a firmware update, the lower half holds the zones from before. -/
theorem not_lowerHarmless_update (hvalid : Valid (highBlock st.memory))
    (hzone : st.memory LCM_DATA_ZONES_FLASH_START_ADDRESS = erased) :
    ¬ LowerHarmless (next (next st .swapAndReboot) (.writeFlash exampleZone)) := by
  have hlower : ∀ a < 0x80000,
      (next (next st .swapAndReboot) (.writeFlash exampleZone)).memory a =
        st.memory (a + 0x80000) := by
    intro a ha
    simp only [next, afterBoot_eq]
    exact (overwrite_outside (show ¬ (0x80000 ≤ a ∧ a < 0x80000 + 0x7e000) by omega)).trans
      ((bootMemory_lower ha).trans (exchanged_lower ha))
  have hupper : (next (next st .swapAndReboot) (.writeFlash exampleZone)).memory
      LCM_DATA_ZONES_FLASH_START_ADDRESS = 0x41 := by
    simp only [next]
    rw [overwrite_inside (by decide), exampleZone, if_pos rfl]
  intro h
  have hdata := h ((sameBlock_of_lower hlower).valid_iff.2 hvalid)
    LCM_DATA_ZONES_FLASH_START_ADDRESS (by decide)
  rw [hlower _ (by decide), hupper] at hdata
  cases hzone.symm.trans hdata

theorem exampleSaved_zone : exampleSaved.memory LCM_DATA_ZONES_FLASH_START_ADDRESS = erased := by
  have hinitialized : initialized (fun _ => erased) 0xdd000 = erased := by
    unfold initialized
    split
    · exact copied_inside (by decide)
    · rfl
  simp only [exampleSaved, next, save_eq, afterBoot_eq]
  exact (saved_agree _ _ 0xdd000 (by decide)).trans
    ((bootMemory_data (by decide)).trans hinitialized)

theorem exampleSaved_valid : Valid (highBlock exampleSaved.memory) := by
  simp only [exampleSaved, next, save_eq]
  exact (stored_saved _ _).valid

/-- **An interrupted save after a firmware update** brings back the data from before. -/
theorem not_keepsData_of_update :
    ¬ history.AllStates KeepsData (afterBoot (fun _ => erased) none)
      [.save, .swapAndReboot, .writeFlash exampleZone] := by
  intro h
  have hlast : KeepsData (next (next exampleSaved .swapAndReboot) (.writeFlash exampleZone)) :=
    h.of_run rfl
  exact not_lowerHarmless_update exampleSaved_valid exampleSaved_zone ((keepsData_iff _).1 hlast)

end System

end Lcm
