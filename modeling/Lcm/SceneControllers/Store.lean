import Lcm.CString
import Lcm.Flash.Values
import Lcm.Run.Basic
import Lcm.Zones.Properties

/-!
# Scene controllers in flash

The records of all scene controllers are in one sector of flash; an array in RAM holds the
pointers to them.

## Main definitions

* `SceneControllerProperties`, `sceneControllerCodec` : the properties and their record.
* `getSceneControllerProperties`, `setSceneControllerProperties`,
  `loadSceneControllersFromFlash` : the functions of the source.
* `machine` : setting properties, restarting and clearing the flash.

## Main results

* `allSteps_setSceneControllerProperties` : every scene controller that is set is got again.
-/

namespace Lcm

namespace SceneControllers

open Flash

/-- `MAX_NUMBER_OF_SCENE_CONTROLLERS` -/
abbrev maxNumberOfSceneControllers : ℕ := 40

/-- `MAX_SCENES_IN_SCENE_CONTROLLER` -/
abbrev maxScenesInSceneController : ℕ := 4

/-- `scene_controller_bank` -/
@[ext] structure SceneControllerBank where
  /-- The index of the scene. -/
  sceneId : Byte
  /-- Whether the button switches the scene off again. -/
  toggleable : Byte
  /-- Whether it has switched the scene on. -/
  toggled : Byte

/-- `scene_controller_properties` and `nonvolatile_scene_controller_properties`, which have the
same fields. -/
@[ext] structure SceneControllerProperties where
  /-- The name. -/
  SceneControllerNameString : CString maxSizeNameString
  /-- The buttons. -/
  bank : Fin maxScenesInSceneController → SceneControllerBank
  /-- The group id of the device. -/
  groupId : Word
  /-- The building the device is in. -/
  buildingId : Byte
  /-- The house the device is in. -/
  houseId : Byte
  /-- The room the device is in. -/
  roomId : Byte
  /-- Whether the scene controller can be set to night mode. -/
  nightMode : Byte
  /-- `Dev_Type`, one byte wide. -/
  deviceType : Byte

/-- The size of the record; bytes 33 and 41 are padding. -/
abbrev nonvolatileSceneControllerSize : ℕ := 42

/-! ### The record of a scene controller -/

/-- Byte `b` of a button. -/
def SceneControllerBank.byte (bank : SceneControllerBank) (b : ℕ) : Byte :=
  if b = 0 then bank.sceneId else if b = 1 then bank.toggleable else bank.toggled

/-- The button in the three bytes from `a` on. -/
def bankOfRecord (record : ℕ → Byte) (a : ℕ) : SceneControllerBank :=
  ⟨record a, record (a + 1), record (a + 2)⟩

/-- The record after the fields of a scene controller are assigned. -/
def assignSceneController (v : SceneControllerProperties) (record : ℕ → Byte) : ℕ → Byte := fun b =>
  if b < 21 then CString.snprintf record v.SceneControllerNameString b
  else if h : b < 33 then (v.bank ⟨(b - 21) / 3, show _ < 4 by omega⟩).byte ((b - 21) % 3)
  else if b = 34 then lowByteOfWord v.groupId
  else if b = 35 then highByteOfWord v.groupId
  else if b = 36 then v.buildingId
  else if b = 37 then v.houseId
  else if b = 38 then v.roomId
  else if b = 39 then v.nightMode
  else if b = 40 then v.deviceType
  else record b

/-- The fields of a record. -/
def sceneControllerOfRecord (record : ℕ → Byte) : SceneControllerProperties where
  SceneControllerNameString := CString.ofBytes maxSizeNameString_pos record
  bank button := bankOfRecord record (21 + 3 * button)
  groupId := wordOfBytes (record 35) (record 34)
  buildingId := record 36
  houseId := record 37
  roomId := record 38
  nightMode := record 39
  deviceType := record 40

/-- The button is different from the one in the record. -/
def bankDifferent (v : SceneControllerProperties) (record : ℕ → Byte)
    (button : Fin maxScenesInSceneController) : Bool :=
  (v.bank button).sceneId ≠ record (21 + 3 * button) ||
    (v.bank button).toggleable ≠ record (21 + 3 * button + 1) ||
    (v.bank button).toggled ≠ record (21 + 3 * button + 2)

/-- No field of a scene controller differs from the record. -/
def sameSceneController (v : SceneControllerProperties) (record : ℕ → Byte) : Bool :=
  (List.finRange maxScenesInSceneController).all (fun button => !bankDifferent v record button) &&
    v.groupId = wordOfBytes (record 35) (record 34) && v.buildingId = record 36 &&
    v.houseId = record 37 && v.roomId = record 38 && v.nightMode = record 39 &&
    v.deviceType = record 40 &&
    strncmpEq maxSizeNameString v.SceneControllerNameString.bytes record

theorem assignSceneController_name (v : SceneControllerProperties) (record : ℕ → Byte) {i : ℕ}
    (hi : i ≤ v.SceneControllerNameString.chars.length) :
    assignSceneController v record i = v.SceneControllerNameString.bytes i := by
  have hfits : v.SceneControllerNameString.chars.length < 21 := v.SceneControllerNameString.fits
  rw [assignSceneController, if_pos (by omega), CString.snprintf_bytes record _ hi]

theorem assignSceneController_bank (v : SceneControllerProperties) (record : ℕ → Byte)
    (button : Fin maxScenesInSceneController) {b : ℕ} (hb : b < 3) :
    assignSceneController v record (21 + 3 * button + b) = (v.bank button).byte b := by
  have hlt : button.1 < 4 := button.2
  have hdiv : (21 + 3 * button.1 + b - 21) / 3 = button.1 := by omega
  have hmod : (21 + 3 * button.1 + b - 21) % 3 = b := by omega
  rw [assignSceneController, if_neg (by omega), dif_pos (by omega), hmod]
  simp only [hdiv]

theorem not_bankDifferent {v : SceneControllerProperties} {record : ℕ → Byte}
    {button : Fin maxScenesInSceneController} (h : bankDifferent v record button = false) :
    bankOfRecord record (21 + 3 * button) = v.bank button := by
  simp only [bankDifferent, Bool.or_eq_false_iff, decide_eq_false_iff_not, not_not] at h
  obtain ⟨⟨hscene, htoggleable⟩, htoggled⟩ := h
  ext1
  · exact hscene.symm
  · exact htoggleable.symm
  · exact htoggled.symm

/-- The record of a scene controller. -/
def sceneControllerCodec : Codec SceneControllerProperties where
  size := nonvolatileSceneControllerSize
  named v := v.SceneControllerNameString.chars ≠ []
  assign := assignSceneController
  same := sameSceneController
  decode := sceneControllerOfRecord
  decode_congr {record record'} h := by
    have h : ∀ b < 42, record b = record' b := h
    ext1
    · exact CString.ofBytes_congr (by decide) fun b (hb : b < 21) => h b (by omega)
    · funext button
      have hlt : button.1 < 4 := button.2
      ext1
      · exact h _ (by omega)
      · exact h _ (by omega)
      · exact h _ (by omega)
    · exact congrArg₂ wordOfBytes (h 35 (by decide)) (h 34 (by decide))
    · exact h 36 (by decide)
    · exact h 37 (by decide)
    · exact h 38 (by decide)
    · exact h 39 (by decide)
    · exact h 40 (by decide)
  decode_assign v record := by
    ext1
    · exact CString.ofBytes_of_bytes (by decide) fun i hi => assignSceneController_name v record hi
    · funext button
      ext1
      · exact assignSceneController_bank v record button (b := 0) (by decide)
      · exact assignSceneController_bank v record button (b := 1) (by decide)
      · exact assignSceneController_bank v record button (b := 2) (by decide)
    · exact wordOfBytes_high_low v.groupId
    · rfl
    · rfl
    · rfl
    · rfl
    · rfl
  decode_of_same {v record} h := by
    simp only [sameSceneController, Bool.and_eq_true, decide_eq_true_eq, List.all_eq_true,
      Bool.not_eq_true'] at h
    obtain ⟨⟨⟨⟨⟨⟨⟨hbank, hgroup⟩, hbuilding⟩, hhouse⟩, hroom⟩, hnight⟩, htype⟩, hname⟩ := h
    ext1
    · exact CString.ofBytes_of_bytes (by decide) (CString.eq_bytes_of_strncmpEq hname)
    · funext button
      exact not_bankDifferent (hbank button (List.mem_finRange button))
    · exact hgroup.symm
    · exact hbuilding.symm
    · exact hhouse.symm
    · exact hroom.symm
    · exact hnight.symm
    · exact htype.symm
  initialized_of_same {v record} h hall := by
    simp only [sameSceneController, Bool.and_eq_true] at h
    obtain ⟨i, hi, hzero⟩ := CString.exists_zero_of_strncmpEq h.2
    have hi : i < 21 := hi
    cases hzero.symm.trans (hall i (show i < 42 by omega))
  initialized_assign v record h := by
    have hfits : v.SceneControllerNameString.chars.length < 21 := v.SceneControllerNameString.fits
    have hnul := h v.SceneControllerNameString.chars.length (show _ < 42 by omega)
    rw [assignSceneController_name v record (Nat.le_refl _), CString.bytes_length] at hnul
    cases hnul

/-- The sector of the scene controllers. -/
def sceneControllerRegion : Region where
  startAddress := 0xea000
  endAddress := 0xeafff
  indexOffset := 0x48
  perSector := maxNumberOfSceneControllers
  recordSize := nonvolatileSceneControllerSize
  maxNumber := maxNumberOfSceneControllers

/-! ### The functions -/

/-- The flash and the array. -/
structure State where
  /-- The flash. -/
  memory : Memory
  /-- `sceneControllerArray`, which holds `nvSceneControllerProperties` -/
  array : ℕ → Option ℕ

/-- What is in variables before they are assigned. -/
structure Garbage where
  /-- In the local record. -/
  record : ℕ → Byte
  /-- In `nvSceneControllerArray`. -/
  nvArray : ℕ → Byte

/-- `InitializeSceneControllerArray` -/
def initializeSceneControllerArray (st : State) : State := { st with array := fun _ => none }

/-- `LoadSceneControllersFromFlash`, without the house id and the count -/
def loadSceneControllersFromFlash (st : State) : State where
  memory := st.memory
  array index :=
    if index < maxNumberOfSceneControllers then
      match sceneControllerRegion.getPtr st.memory index true with
      | some nvSceneControllerPropertiesPtr => some nvSceneControllerPropertiesPtr
      | none => st.array index
    else st.array index

/-- What the start does for the array. -/
def reboot (st : State) : State := loadSceneControllersFromFlash (initializeSceneControllerArray st)

/-- `GetSceneControllerProperties` -/
def getSceneControllerProperties (st : State) (index : ℕ) : Option SceneControllerProperties :=
  if index < maxNumberOfSceneControllers then
    (st.array index).map fun nvSceneControllerPropertiesPtr =>
      sceneControllerCodec.decode (bytesAt st.memory nvSceneControllerPropertiesPtr)
  else none

/-- `SetSceneControllerProperties`: what it returns, and the state. -/
def setSceneControllerProperties (st : State) (index : ℕ) (p : SceneControllerProperties)
    (garbage : Garbage) : Bool × State :=
  if index < maxNumberOfSceneControllers then
    match sceneControllerRegion.getPtr st.memory index false with
    | some nvSceneControllerPropertiesPtr =>
      let (memory, written) :=
        if Uninitialized nonvolatileSceneControllerSize
            (bytesAt st.memory nvSceneControllerPropertiesPtr) then
          if sceneControllerCodec.named p then
            sceneControllerRegion.create sceneControllerCodec st.memory index p garbage.record
          else (st.memory, false)
        else sceneControllerRegion.update sceneControllerCodec st.memory index p garbage.nvArray
      (true, ⟨memory, Function.update st.array index
        (if written then some nvSceneControllerPropertiesPtr else none)⟩)
    | none => (false, st)
  else (false, st)

/-! ### What the flash and the array hold -/

/-- **The invariant**: the sector holds scene controllers, and the array points to them. -/
structure Holds (st : State) (values : ℕ → Option SceneControllerProperties) : Prop where
  /-- The records. -/
  models : sceneControllerRegion.Models sceneControllerCodec st.memory values
  /-- The pointers to them. -/
  ptr : ∀ i < maxNumberOfSceneControllers,
    st.array i = (values i).map fun _ => sceneControllerRegion.address i + 8

variable {st : State} {values : ℕ → Option SceneControllerProperties} {i : ℕ}

theorem sceneControllerRegion_fits : sceneControllerRegion.Fits :=
  ⟨by decide, by decide, by decide, by decide +kernel⟩

theorem sceneControllerRegion_inRange (hi : i < maxNumberOfSceneControllers) :
    sceneControllerRegion.InRange i := by
  refine ⟨hi, ?_⟩
  change 0xea000 + 0x1000 * (i / 40) + 0x48 * (i % 40) + 8 + 48 ≤ 0xeafff
  have hi : i < 40 := hi
  omega

theorem Holds.getSceneControllerProperties (h : Holds st values) :
    getSceneControllerProperties st = fun i =>
      if i < maxNumberOfSceneControllers then values i else none := by
  funext i
  unfold SceneControllers.getSceneControllerProperties
  by_cases hi : i < maxNumberOfSceneControllers
  · rw [if_pos hi, if_pos hi, h.ptr i hi]
    cases hv : values i with
    | none => rfl
    | some v =>
      rw [Option.map_some, Option.map_some,
        h.models.decode rfl (sceneControllerRegion_inRange hi) hv]
  · rw [if_neg hi, if_neg hi]

/-- **A restart** finds what the sector holds. -/
theorem Holds.reboot (h : Holds st values) : Holds (reboot st) values where
  models := h.models
  ptr i hi := by
    have hptr :=
      h.models.getPtr sceneControllerRegion_fits (sceneControllerRegion_inRange hi)
    simp only [SceneControllers.reboot, loadSceneControllersFromFlash, if_pos hi,
      initializeSceneControllerArray, hptr]
    cases values i with
    | none => rfl
    | some v => rfl

/-- **A scene controller is set**: the slot of its index holds it from then on, or nothing if it
has no name. -/
theorem Holds.set (h : Holds st values) (hi : i < maxNumberOfSceneControllers)
    (p : SceneControllerProperties) (garbage : Garbage) :
    (setSceneControllerProperties st i p garbage).1 = true ∧
      Holds (setSceneControllerProperties st i p garbage).2
        (Function.update values i (sceneControllerCodec.stored p)) := by
  have hrange := sceneControllerRegion_inRange hi
  have huninit := h.models.uninitialized_iff hrange
  -- it is enough that the sector holds it, and that `written` says whether it does
  have hset : ∀ {memory : Memory} {written : Bool},
      sceneControllerRegion.Models sceneControllerCodec memory
        (Function.update values i (sceneControllerCodec.stored p)) →
      written = sceneControllerCodec.named p →
      Holds ⟨memory, Function.update st.array i
        (if written then some (sceneControllerRegion.address i + 8) else none)⟩
        (Function.update values i (sceneControllerCodec.stored p)) := by
    intro memory written hmodels hwritten
    refine ⟨hmodels, fun j hj => ?_⟩
    by_cases hji : j = i
    · subst hji
      simp only [Function.update_self, hwritten, Codec.stored]
      cases sceneControllerCodec.named p <;> rfl
    · simp only [Function.update_of_ne hji]
      exact h.ptr j hj
  rw [setSceneControllerProperties, if_pos hi, Region.getPtr_unchecked hrange]
  refine ⟨rfl, ?_⟩
  by_cases hnone : values i = none
  · have herased : Uninitialized nonvolatileSceneControllerSize
        (bytesAt st.memory (sceneControllerRegion.address i + 8)) := huninit.2 hnone
    simp only [if_pos herased]
    by_cases hnamed : sceneControllerCodec.named p = true
    · obtain ⟨hmodels, hwritten⟩ :=
        h.models.create sceneControllerRegion_fits rfl hrange hnone hnamed garbage.record
      simp only [if_pos hnamed]
      refine hset ?_ (hwritten.trans hnamed.symm)
      rwa [Codec.stored, if_pos hnamed]
    · simp only [if_neg hnamed]
      refine hset ?_ (Bool.not_eq_true _ ▸ hnamed).symm
      rw [Codec.stored, if_neg hnamed, ← hnone, Function.update_eq_self]
      exact h.models
  · have herased : ¬ Uninitialized nonvolatileSceneControllerSize
        (bytesAt st.memory (sceneControllerRegion.address i + 8)) := mt huninit.1 hnone
    obtain ⟨hmodels, hwritten⟩ :=
      h.models.update sceneControllerRegion_fits rfl hrange p garbage.nvArray
    simp only [if_neg herased]
    exact hset hmodels hwritten

/-! ### Runs -/

/-- **The round trip**: the scene controller is set, and from then on, before and after a restart,
it is got for its index (nothing, if it has no name), and the others as before. -/
def RoundTrip (st : State) (index : ℕ) (p : SceneControllerProperties) (garbage : Garbage) : Prop :=
  (setSceneControllerProperties st index p garbage).1 = true ∧
    getSceneControllerProperties (setSceneControllerProperties st index p garbage).2 =
      Function.update (getSceneControllerProperties st) index (sceneControllerCodec.stored p) ∧
    getSceneControllerProperties (reboot (setSceneControllerProperties st index p garbage).2) =
      Function.update (getSceneControllerProperties st) index (sceneControllerCodec.stored p)

theorem Holds.roundTrip (h : Holds st values) (hi : i < maxNumberOfSceneControllers)
    (p : SceneControllerProperties) (garbage : Garbage) : RoundTrip st i p garbage := by
  obtain ⟨hset, h'⟩ := h.set hi p garbage
  have hget : (fun j => if j < maxNumberOfSceneControllers then
      Function.update values i (sceneControllerCodec.stored p) j else none) =
      Function.update (SceneControllers.getSceneControllerProperties st) i
        (sceneControllerCodec.stored p) := by
    funext j
    rw [h.getSceneControllerProperties]
    by_cases hji : j = i
    · subst hji
      rw [if_pos hi, Function.update_self, Function.update_self]
    · rw [Function.update_of_ne hji, Function.update_of_ne hji]
  exact ⟨hset, h'.getSceneControllerProperties.trans hget,
    h'.reboot.getSceneControllerProperties.trans hget⟩

/-- What happens to the scene controllers. -/
inductive Event
  /-- Properties are set. -/
  | set (index : ℕ) (p : SceneControllerProperties) (garbage : Garbage)
  /-- The system is restarted. -/
  | reboot
  /-- `ClearFlash` -/
  | clearFlash

/-- The state after an event. -/
def next (st : State) : Event → State
  | .set index p garbage => (setSceneControllerProperties st index p garbage).2
  | .reboot => reboot st
  | .clearFlash =>
    let st := initializeSceneControllerArray st
    { st with memory := erase st.memory 0xdb000 (0xfe000 - 0xdb000) }

/-- The state with the data erased. -/
def start (m : Memory) : State := next ⟨m, fun _ => none⟩ .clearFlash

/-- **The machine**: it starts with the data erased. -/
def machine : Machine State Event where
  init st := ∃ m, st = start m
  step st e := some (next st e)

/-- What an event promises. -/
def RoundTrips (st : State) : Event → Prop
  | .set index p garbage => index < maxNumberOfSceneControllers → RoundTrip st index p garbage
  | _ => True

theorem holds_clearFlash (st : State) : Holds (next st .clearFlash) fun _ => none := by
  refine ⟨Region.models_erased _ fun a ha ha' => ?_, fun _ _ => rfl⟩
  have ha : 0xea000 ≤ a := ha
  have ha' : a < 0xeafff := ha'
  exact erase_inside (show 0xdb000 ≤ a ∧ a < 0xdb000 + (0xfe000 - 0xdb000) by omega)

/-- An event keeps the invariant. -/
theorem Holds.next (h : Holds st values) (e : Event) : ∃ values', Holds (next st e) values' := by
  cases e with
  | set index p garbage =>
    by_cases hi : index < maxNumberOfSceneControllers
    · exact ⟨_, (h.set hi p garbage).2⟩
    · refine ⟨values, ?_⟩
      simp only [SceneControllers.next, setSceneControllerProperties, if_neg hi]
      exact h
  | reboot => exact ⟨values, h.reboot⟩
  | clearFlash => exact ⟨_, holds_clearFlash st⟩

/-- **Every scene controller that is set in a run is got again**, before and after a restart, and
the others are left alone. -/
theorem allSteps_setSceneControllerProperties (m : Memory) (es : List Event) :
    machine.AllSteps RoundTrips (start m) es := by
  have hstart : ∃ values, Holds (start m) values := ⟨_, holds_clearFlash _⟩
  generalize start m = st at hstart
  induction es generalizing st with
  | nil => trivial
  | cons e es ih =>
    rintro st' ⟨⟩
    obtain ⟨values, h⟩ := hstart
    refine ⟨?_, ih _ (h.next e)⟩
    cases e with
    | set index p garbage => exact fun hi => h.roundTrip hi p garbage
    | reboot => trivial
    | clearFlash => trivial

end SceneControllers

end Lcm
