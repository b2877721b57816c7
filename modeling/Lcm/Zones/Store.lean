import Lcm.Store.RoundTrip

/-!
# Zones in flash

The records of all zones are in one sector of flash, the ids for the cloud in two more.

## Main definitions

* `NonvolatileZoneProperties`, `zoneCodec` : the record of a zone.
* `zones` : the regions and the parts of the properties.

## Main results

* `allSteps_setZoneProperties_iff` : in which runs every zone that is set is got again.
-/

namespace Lcm

namespace Zones

open Flash Store

/-- `nonvolatile_zone_properties` -/
@[ext] structure NonvolatileZoneProperties where
  /-- The name. -/
  ZoneNameString : CString maxSizeNameString
  /-- The group id of the device. -/
  groupId : Word
  /-- `Dev_Type`, one byte wide. -/
  deviceType : Byte
  /-- The ramp rate. -/
  rampRate : Byte
  /-- The building the device is in. -/
  buildingId : Byte
  /-- The house the device is in. -/
  houseId : Byte
  /-- The room the device is in. -/
  roomId : Byte

/-- The size of `nonvolatile_zone_properties`; bytes 21 and 29 are padding. -/
abbrev nonvolatileZoneSize : ℕ := 30

/-- The record after the fields of a zone are assigned. -/
def assignZone (v : NonvolatileZoneProperties) (record : ℕ → Byte) : ℕ → Byte := fun b =>
  if b < 21 then CString.snprintf record v.ZoneNameString b
  else if b = 22 then lowByteOfWord v.groupId
  else if b = 23 then highByteOfWord v.groupId
  else if b = 24 then v.deviceType
  else if b = 25 then v.rampRate
  else if b = 26 then v.buildingId
  else if b = 27 then v.houseId
  else if b = 28 then v.roomId
  else record b

/-- The fields of a record. -/
def zoneOfRecord (record : ℕ → Byte) : NonvolatileZoneProperties where
  ZoneNameString := CString.ofBytes maxSizeNameString_pos record
  groupId := wordOfBytes (record 23) (record 22)
  deviceType := record 24
  rampRate := record 25
  buildingId := record 26
  houseId := record 27
  roomId := record 28

/-- No field of a zone differs from the record. -/
def sameZone (v : NonvolatileZoneProperties) (record : ℕ → Byte) : Bool :=
  v.groupId = wordOfBytes (record 23) (record 22) && v.deviceType = record 24 &&
    v.rampRate = record 25 && v.buildingId = record 26 && v.houseId = record 27 &&
    v.roomId = record 28 && strncmpEq maxSizeNameString v.ZoneNameString.bytes record

theorem assignZone_name (v : NonvolatileZoneProperties) (record : ℕ → Byte) {i : ℕ}
    (hi : i ≤ v.ZoneNameString.chars.length) :
    assignZone v record i = v.ZoneNameString.bytes i := by
  have hfits : v.ZoneNameString.chars.length < 21 := v.ZoneNameString.fits
  rw [assignZone, if_pos (by omega), CString.snprintf_bytes record _ hi]

/-- The record of a zone. -/
def zoneCodec : Codec NonvolatileZoneProperties where
  size := nonvolatileZoneSize
  named v := v.ZoneNameString.chars ≠ []
  assign := assignZone
  same := sameZone
  decode := zoneOfRecord
  decode_congr h := by
    ext1
    · exact CString.ofBytes_congr (by decide) fun b hb => h b (Nat.lt_trans hb (by decide))
    · exact congrArg₂ wordOfBytes (h 23 (by decide)) (h 22 (by decide))
    · exact h 24 (by decide)
    · exact h 25 (by decide)
    · exact h 26 (by decide)
    · exact h 27 (by decide)
    · exact h 28 (by decide)
  decode_assign v record := by
    ext1
    · exact CString.ofBytes_of_bytes (by decide) fun i hi => assignZone_name v record hi
    · exact wordOfBytes_high_low v.groupId
    · rfl
    · rfl
    · rfl
    · rfl
    · rfl
  decode_of_same h := by
    simp only [sameZone, Bool.and_eq_true, decide_eq_true_eq] at h
    obtain ⟨⟨⟨⟨⟨⟨hgroup, htype⟩, hrate⟩, hbuilding⟩, hhouse⟩, hroom⟩, hname⟩ := h
    ext1
    · exact CString.ofBytes_of_bytes (by decide) (CString.eq_bytes_of_strncmpEq hname)
    · exact hgroup.symm
    · exact htype.symm
    · exact hrate.symm
    · exact hbuilding.symm
    · exact hhouse.symm
    · exact hroom.symm
  initialized_of_same h hall := by
    simp only [sameZone, Bool.and_eq_true] at h
    obtain ⟨i, hi, hzero⟩ := CString.exists_zero_of_strncmpEq h.2
    cases hzero.symm.trans (hall i (Nat.lt_trans hi (by decide)))
  initialized_assign v record h := by
    have hfits : v.ZoneNameString.chars.length < 21 := v.ZoneNameString.fits
    have hnul := h v.ZoneNameString.chars.length (show _ < 30 by omega)
    rw [assignZone_name v record (Nat.le_refl _), CString.bytes_length] at hnul
    cases hnul

/-- What of `volatile_zone_properties` is not a pointer. -/
structure VolatileZoneProperties where
  /-- The application context of the last change. -/
  AppContextId : Dword
  /-- Whether the device is on. -/
  state : Bool
  /-- Whether the device is to be on. -/
  targetState : Bool
  /-- The level that is set. -/
  powerLevel : Byte
  /-- The level to be set. -/
  targetPowerLevel : Byte

/-- The sector of the zones. -/
def zoneRegion : Region where
  startAddress := 0xdd000
  endAddress := 0xddfff
  indexOffset := 0x28
  perSector := 100
  recordSize := nonvolatileZoneSize
  maxNumber := 100

/-- The sectors of the ids of the zones. -/
def eliotZoneRegion : Region where
  startAddress := 0xeb000
  endAddress := 0xecfff
  indexOffset := 0x30
  perSector := 50
  recordSize := eliotDeviceIdSize
  maxNumber := 100

/-- **Zones**: `getProperties` is `GetZoneProperties`, and so on. -/
def zones : Kind ZoneProperties NonvolatileZoneProperties VolatileZoneProperties where
  region := zoneRegion
  eliotRegion := eliotZoneRegion
  codec := zoneCodec
  eliotArraySize := 100
  maxNumber := 100
  initial := ⟨0, false, false, 100, 100⟩
  properties v e w :=
    { AppContextId := w.AppContextId, groupId := v.groupId, state := w.state
      targetState := w.targetState, powerLevel := w.powerLevel
      targetPowerLevel := w.targetPowerLevel, rampRate := v.rampRate, deviceType := v.deviceType
      buildingId := v.buildingId, houseId := v.houseId, roomId := v.roomId
      ZoneNameString := v.ZoneNameString, EliotDeviceId := e }
  nonvolatile p :=
    ⟨p.ZoneNameString, p.groupId, p.deviceType, p.rampRate, p.buildingId, p.houseId, p.roomId⟩
  EliotDeviceId p := p.EliotDeviceId
  volatile p := ⟨p.AppContextId, p.state, p.targetState, p.powerLevel, p.targetPowerLevel⟩
  properties_eta _ := rfl
  nonvolatile_properties _ _ _ := rfl
  EliotDeviceId_properties _ _ _ := rfl

theorem zoneRegion_fits : zoneRegion.Fits :=
  ⟨by decide, by decide, by decide, by decide +kernel⟩

theorem eliotZoneRegion_fits : eliotZoneRegion.Fits :=
  ⟨by decide, by decide, by decide, by decide +kernel⟩

theorem zoneRegion_inRange {i : ℕ} (hi : i < 100) : zoneRegion.InRange i := by
  refine ⟨hi, ?_⟩
  show 0xdd000 + 0x1000 * (i / 100) + 0x28 * (i % 100) + 8 + 32 ≤ 0xddfff
  omega

theorem eliotZoneRegion_inRange {i : ℕ} (hi : i < 100) : eliotZoneRegion.InRange i := by
  refine ⟨hi, ?_⟩
  show 0xeb000 + 0x1000 * (i / 50) + 0x30 * (i % 50) + 8 + 40 ≤ 0xecfff
  omega

theorem zones_fits : zones.Fits where
  region := zoneRegion_fits
  eliotRegion := eliotZoneRegion_fits
  size := rfl
  eliotSize := rfl
  inRange _ hi := zoneRegion_inRange hi
  eliotInRange _ hi hnot := absurd (eliotZoneRegion_inRange hi) hnot
  disjoint := by decide
  sectors i hi := by
    have hi : i < 100 := hi
    show 0xdd000 + 0x1000 * (i / 100) + 0x1000 ≤ 0xeb000
    omega
  data := by decide

/-! ### Runs -/

/-- A zone with a name is set only where the id is erased if the record is. -/
def SlotErased (st : State VolatileZoneProperties) : Kind.Event ZoneProperties → Prop
  | .set index p _ => index < 100 → p.ZoneNameString.chars ≠ [] →
      Uninitialized nonvolatileZoneSize (bytesAt st.memory (zoneRegion.address index + 8)) →
      Uninitialized eliotDeviceIdSize (bytesAt st.memory (eliotZoneRegion.address index + 8))
  | _ => True

theorem usableFor_iff (st : State VolatileZoneProperties) (e : Kind.Event ZoneProperties) :
    zones.UsableFor st e ↔ SlotErased st e := by
  cases e with
  | set index p garbage =>
    refine forall_congr' fun hi => ?_
    have hroom : zones.eliotRegion.perSector ≤ zones.eliotArraySize := by decide
    have hnamed : zones.codec.named (zones.nonvolatile p) = true ↔ p.ZoneNameString.chars ≠ [] :=
      decide_eq_true_iff
    have hrange : zones.eliotRegion.InRange index := eliotZoneRegion_inRange hi
    rw [Kind.Usable, and_iff_right hrange, hnamed]
    split
    · rename_i herased
      exact ⟨fun h hname _ => h hname, fun h hname => h hname herased⟩
    · rename_i herased
      exact iff_of_true (.inr hroom) fun _ h => absurd h herased
  | reboot => exact Iff.rfl
  | clearFlash => exact Iff.rfl

/-- **Every zone that is set in a run is got again**, before and after a restart, and the others
are left alone, exactly if no zone is set where the id of an earlier one is left. -/
theorem allSteps_setZoneProperties_iff (m : Memory) (es : List (Kind.Event ZoneProperties)) :
    zones.machine.AllSteps zones.RoundTrips (zones.start m) es ↔
      zones.machine.AllSteps SlotErased (zones.start m) es :=
  (Kind.allSteps_roundTrips_iff zones_fits m es).trans
    (Machine.allSteps_congr (I := fun _ => True) (fun _ _ _ _ _ _ => trivial)
      (fun st e _ => usableFor_iff st e) trivial)

theorem exampleName_noNul : (0 : Byte) ∉ ([0x41] : List Byte) := by decide

theorem exampleName_fits : ([0x41] : List Byte).length < maxSizeNameString := by decide

/-- A dimmer called `A` with the id `id`. -/
def exampleZone : ZoneProperties where
  AppContextId := 0
  groupId := 1
  state := false
  targetState := false
  powerLevel := 100
  targetPowerLevel := 100
  rampRate := 50
  deviceType := 0
  buildingId := 1
  houseId := 1
  roomId := 1
  ZoneNameString := ⟨[0x41], exampleName_noNul, exampleName_fits⟩
  EliotDeviceId := ⟨[0x69, 0x64], by decide, by decide⟩

/-- A zone in a slot whose zone was deleted without its id gets that id after a restart. -/
theorem not_roundTrips_of_reuse :
    ¬ zones.machine.AllSteps zones.RoundTrips (zones.start fun _ => 0)
      [.set 0 exampleZone ⟨fun _ => 0, fun _ => 0, fun _ => 0, fun _ => 0⟩,
        .set 0 { exampleZone with ZoneNameString := CString.empty (by decide) }
          ⟨fun _ => 0, fun _ => 0, fun _ => 0, fun _ => 0⟩,
        .set 0 { exampleZone with EliotDeviceId := CString.empty (by decide) }
          ⟨fun _ => 0, fun _ => 0, fun _ => 0, fun _ => 0⟩] :=
  Kind.not_allSteps_reuse zones_fits (by decide) (eliotZoneRegion_inRange (by decide)) (by decide) _
    (by decide) (by decide) (by decide) (by decide) _

end Zones

end Lcm
