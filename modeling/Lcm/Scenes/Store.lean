import Lcm.Store.RoundTrip

/-!
# Scenes in flash

The records of the scenes are in twelve sectors of flash, nine in each; for the ids for the cloud,
fifty of which are in a sector, there is only one.

## Main definitions

* `SceneProperties`, `sceneCodec` : the properties and the record of a scene.
* `scenes` : the regions and the parts of the properties.

## Main results

* `allSteps_setSceneProperties_iff` : in which runs every scene that is set is got again.
-/

namespace Lcm

namespace Scenes

open Flash Store

/-- `MAX_ZONES_IN_SCENE` -/
abbrev maxZonesInScene : ℕ := 100

/-- `zone_in_scene` -/
@[ext] structure ZoneInScene where
  /-- The index of the zone. -/
  zoneId : Byte
  /-- The level of the zone. -/
  powerLevel : Byte
  /-- The ramp rate. -/
  rampRate : Byte
  /-- Whether the zone is on. -/
  state : Byte
  deriving DecidableEq

/-- `nonvolatile_scene_properties` -/
@[ext] structure NonvolatileSceneProperties where
  /-- The first `numZonesInScene` elements of `zoneData`. -/
  zoneData : List ZoneInScene
  /-- The zones fit. -/
  fits : zoneData.length ≤ maxZonesInScene
  /-- The next time the scene is triggered. -/
  nextTriggerTime : Dword
  /-- `FrequencyType`, one byte wide. -/
  freq : Byte
  /-- `TriggerType`, one byte wide. -/
  trigger : Byte
  /-- `dayBitMask.days` -/
  days : Byte
  /-- The minutes after sunrise or sunset. -/
  delta : Byte
  /-- Whether the next trigger is skipped. -/
  skipNext : Byte
  /-- The name. -/
  SceneNameString : CString maxSizeNameString

/-- `scene_properties` -/
structure SceneProperties extends NonvolatileSceneProperties where
  /-- Whether the scene is running. -/
  running : Byte
  /-- The id under which the cloud knows the scene; empty when it has none. -/
  EliotDeviceId : CString eliotDeviceIdSize

/-- The zones of a scene fit. -/
theorem SceneProperties.zones_fit (p : SceneProperties) : p.zoneData.length ≤ maxZonesInScene :=
  p.fits

/-- The size of `nonvolatile_scene_properties`; bytes 401 to 403, 434 and 435 are padding. -/
abbrev nonvolatileSceneSize : ℕ := 436

/-! ### The record of a scene -/

/-- Byte `b` of a zone in a scene. -/
def ZoneInScene.byte (z : ZoneInScene) (b : ℕ) : Byte :=
  if b = 0 then z.zoneId else if b = 1 then z.powerLevel else if b = 2 then z.rampRate else z.state

/-- The zone in the four bytes from `a` on. -/
def zoneOfRecord (record : ℕ → Byte) (a : ℕ) : ZoneInScene :=
  ⟨record a, record (a + 1), record (a + 2), record (a + 3)⟩

/-- The record after the fields of a scene are assigned. -/
def assignScene (v : NonvolatileSceneProperties) (record : ℕ → Byte) : ℕ → Byte := fun b =>
  if b = 0 then BitVec.ofNat 8 v.zoneData.length
  else if b < 401 then
    match v.zoneData[(b - 1) / 4]? with
    | some z => z.byte ((b - 1) % 4)
    | none => record b
  else if b < 404 then record b
  else if b < 408 then byteOfDword v.nextTriggerTime (b - 404)
  else if b = 408 then v.freq
  else if b = 409 then v.trigger
  else if b = 410 then v.days
  else if b = 411 then v.delta
  else if b = 412 then v.skipNext
  else if b < 434 then CString.snprintf (fun i => record (413 + i)) v.SceneNameString (b - 413)
  else record b

/-- The fields of a record; a count above 100 is never stored. -/
def sceneOfRecord (record : ℕ → Byte) : NonvolatileSceneProperties where
  zoneData := (List.range (min (record 0).toNat maxZonesInScene)).map fun zoneIndex =>
    zoneOfRecord record (1 + 4 * zoneIndex)
  fits := by rw [List.length_map, List.length_range]; exact Nat.min_le_right _ _
  nextTriggerTime := dwordOfBytes fun k => record (404 + k)
  freq := record 408
  trigger := record 409
  days := record 410
  delta := record 411
  skipNext := record 412
  SceneNameString := CString.ofBytes maxSizeNameString_pos fun i => record (413 + i)

/-- No zone differs from the record. -/
def sameZoneData (v : NonvolatileSceneProperties) (record : ℕ → Byte) : Bool :=
  BitVec.ofNat 8 v.zoneData.length = record 0 &&
    (List.range v.zoneData.length).all fun zoneIndex =>
      v.zoneData[zoneIndex]? = some (zoneOfRecord record (1 + 4 * zoneIndex))

/-- No field of a scene differs from the record. -/
def sameScene (v : NonvolatileSceneProperties) (record : ℕ → Byte) : Bool :=
  sameZoneData v record && v.nextTriggerTime = dwordOfBytes (fun k => record (404 + k)) &&
    v.freq = record 408 && v.trigger = record 409 && v.days = record 410 &&
    v.delta = record 411 && v.skipNext = record 412 &&
    strncmpEq maxSizeNameString v.SceneNameString.bytes fun i => record (413 + i)

theorem ZoneInScene.ofRecord_byte {z : ZoneInScene} {record : ℕ → Byte} {a : ℕ}
    (h : ∀ b < 4, record (a + b) = z.byte b) : zoneOfRecord record a = z := by
  ext1
  · exact h 0 (by decide)
  · exact h 1 (by decide)
  · exact h 2 (by decide)
  · exact h 3 (by decide)

theorem toNat_length (v : NonvolatileSceneProperties) :
    min (BitVec.ofNat 8 v.zoneData.length).toNat maxZonesInScene = v.zoneData.length := by
  have hfits : v.zoneData.length ≤ 100 := v.fits
  rw [BitVec.toNat_ofNat, Nat.mod_eq_of_lt (Nat.lt_of_le_of_lt hfits (by decide))]
  exact Nat.min_eq_left hfits

/-- The zones are read from a record that begins with their number and contains them. -/
theorem zoneData_ofRecord {v : NonvolatileSceneProperties} {record : ℕ → Byte}
    (hnum : record 0 = BitVec.ofNat 8 v.zoneData.length)
    (hzone : ∀ (i : ℕ) (h : i < v.zoneData.length),
      zoneOfRecord record (1 + 4 * i) = v.zoneData[i]) :
    (sceneOfRecord record).zoneData = v.zoneData := by
  have hlength : min (record 0).toNat maxZonesInScene = v.zoneData.length := by
    rw [hnum, toNat_length]
  refine List.ext_getElem ?_ fun i _ hi => ?_
  · simp only [sceneOfRecord, List.length_map, List.length_range, hlength]
  · simp only [sceneOfRecord, List.getElem_map, List.getElem_range]
    exact hzone i hi

theorem assignScene_zone (v : NonvolatileSceneProperties) (record : ℕ → Byte) {i : ℕ}
    (hi : i < v.zoneData.length) :
    zoneOfRecord (assignScene v record) (1 + 4 * i) = v.zoneData[i] := by
  have hfits : v.zoneData.length ≤ 100 := v.fits
  refine ZoneInScene.ofRecord_byte fun b hb => ?_
  have hdiv : (1 + 4 * i + b - 1) / 4 = i := by omega
  have hmod : (1 + 4 * i + b - 1) % 4 = b := by omega
  rw [assignScene, if_neg (by omega), if_pos (by omega), hdiv, hmod, List.getElem?_eq_getElem hi]

theorem assignScene_name (v : NonvolatileSceneProperties) (record : ℕ → Byte) {i : ℕ}
    (hi : i ≤ v.SceneNameString.chars.length) :
    assignScene v record (413 + i) = v.SceneNameString.bytes i := by
  have hfits : v.SceneNameString.chars.length < 21 := v.SceneNameString.fits
  simp only [assignScene, show ¬ 413 + i = 0 by omega, show ¬ 413 + i < 401 by omega,
    show ¬ 413 + i < 404 by omega, show ¬ 413 + i < 408 by omega, show ¬ 413 + i = 408 by omega,
    show ¬ 413 + i = 409 by omega, show ¬ 413 + i = 410 by omega, show ¬ 413 + i = 411 by omega,
    show ¬ 413 + i = 412 by omega, show 413 + i < 434 by omega, if_false, if_true,
    Nat.add_sub_cancel_left]
  exact CString.snprintf_bytes _ _ hi

theorem assignScene_nextTriggerTime (v : NonvolatileSceneProperties) (record : ℕ → Byte) :
    dwordOfBytes (fun k => assignScene v record (404 + k)) = v.nextTriggerTime :=
  dwordOfBytes_byteOfDword v.nextTriggerTime

/-- The scene depends on its record alone. -/
theorem sceneOfRecord_congr {record record' : ℕ → Byte}
    (h : ∀ b < nonvolatileSceneSize, record b = record' b) :
    sceneOfRecord record = sceneOfRecord record' := by
  have h : ∀ b < 436, record b = record' b := h
  have hdword : dwordOfBytes (fun k => record (404 + k)) =
      dwordOfBytes fun k => record' (404 + k) := by
    simp only [dwordOfBytes]
    rw [h _ (by decide), h _ (by decide), h _ (by decide), h _ (by decide)]
  ext1
  · simp only [sceneOfRecord, h 0 (by decide)]
    refine List.map_congr_left fun i hi => ?_
    have hi : i < min (record' 0).toNat 100 := List.mem_range.1 hi
    ext1
    · exact h _ (by omega)
    · exact h _ (by omega)
    · exact h _ (by omega)
    · exact h _ (by omega)
  · exact hdword
  · exact h 408 (by decide)
  · exact h 409 (by decide)
  · exact h 410 (by decide)
  · exact h 411 (by decide)
  · exact h 412 (by decide)
  · exact CString.ofBytes_congr (by decide) fun i (hi : i < 21) => h _ (by omega)

/-- What is assigned is read. -/
theorem sceneOfRecord_assignScene (v : NonvolatileSceneProperties) (record : ℕ → Byte) :
    sceneOfRecord (assignScene v record) = v := by
  ext1
  · exact zoneData_ofRecord rfl fun i hi => assignScene_zone v record hi
  · exact assignScene_nextTriggerTime v record
  · rfl
  · rfl
  · rfl
  · rfl
  · rfl
  · exact CString.ofBytes_of_bytes (by decide) fun i hi => assignScene_name v record hi

variable {v : NonvolatileSceneProperties} {record : ℕ → Byte}

/-- What compares equal is equal. -/
theorem sceneOfRecord_of_sameScene (h : sameScene v record = true) : sceneOfRecord record = v := by
  simp only [sameScene, sameZoneData, Bool.and_eq_true, decide_eq_true_eq, List.all_eq_true,
    List.mem_range] at h
  obtain ⟨⟨⟨⟨⟨⟨⟨⟨hnum, hzone⟩, htime⟩, hfreq⟩, htrigger⟩, hdays⟩, hdelta⟩, hskip⟩, hname⟩ := h
  ext1
  · refine zoneData_ofRecord hnum.symm fun i hi => ?_
    have hget := hzone i hi
    rw [List.getElem?_eq_getElem hi] at hget
    exact (Option.some.inj hget).symm
  · exact htime.symm
  · exact hfreq.symm
  · exact htrigger.symm
  · exact hdays.symm
  · exact hdelta.symm
  · exact hskip.symm
  · exact CString.ofBytes_of_bytes (by decide) (CString.eq_bytes_of_strncmpEq hname)

/-- A record of erased bytes does not compare equal. -/
theorem initialized_of_sameScene (h : sameScene v record = true) :
    ¬ Uninitialized nonvolatileSceneSize record := by
  intro hall
  simp only [sameScene, Bool.and_eq_true] at h
  obtain ⟨i, hi, hzero⟩ := CString.exists_zero_of_strncmpEq h.2
  have hi : i < 21 := hi
  cases hzero.symm.trans (hall (413 + i) (show 413 + i < 436 by omega))

/-- A record is never one of erased bytes after its fields are assigned. -/
theorem initialized_assignScene (v : NonvolatileSceneProperties) (record : ℕ → Byte) :
    ¬ Uninitialized nonvolatileSceneSize (assignScene v record) := by
  intro h
  have hfits : v.SceneNameString.chars.length < 21 := v.SceneNameString.fits
  have hnul := h (413 + v.SceneNameString.chars.length) (show _ < 436 by omega)
  rw [assignScene_name v record (Nat.le_refl _), CString.bytes_length] at hnul
  cases hnul

/-- The record of a scene. -/
def sceneCodec : Codec NonvolatileSceneProperties where
  size := nonvolatileSceneSize
  named v := v.SceneNameString.chars ≠ []
  assign := assignScene
  same := sameScene
  decode := sceneOfRecord
  decode_congr := sceneOfRecord_congr
  decode_assign := sceneOfRecord_assignScene
  decode_of_same := sceneOfRecord_of_sameScene
  initialized_of_same := initialized_of_sameScene
  initialized_assign := initialized_assignScene

/-! ### The regions -/

/-- The sectors of the scenes. -/
def sceneRegion : Region where
  startAddress := 0xde000
  endAddress := 0xe9fff
  indexOffset := 0x1C0
  perSector := 9
  recordSize := nonvolatileSceneSize
  maxNumber := 100

/-- The sector of the ids of the scenes. -/
def eliotSceneRegion : Region where
  startAddress := 0xed000
  endAddress := 0xedfff
  indexOffset := 0x30
  perSector := 50
  recordSize := eliotDeviceIdSize
  maxNumber := 100

/-- **Scenes**: `getProperties` is `GetSceneProperties`, and so on.  The array for the ids,
`nvEliotSceneArray`, has as many elements as a sector of scenes has records. -/
def scenes : Kind SceneProperties NonvolatileSceneProperties Byte where
  region := sceneRegion
  eliotRegion := eliotSceneRegion
  codec := sceneCodec
  eliotArraySize := 9
  maxNumber := 100
  initial := 0
  properties v e w := { v with running := w, EliotDeviceId := e }
  nonvolatile p := p.toNonvolatileSceneProperties
  EliotDeviceId p := p.EliotDeviceId
  volatile p := p.running
  properties_eta _ := rfl
  nonvolatile_properties _ _ _ := rfl
  EliotDeviceId_properties _ _ _ := rfl

theorem sceneRegion_fits : sceneRegion.Fits :=
  ⟨by decide, by decide, by decide, by decide +kernel⟩

theorem eliotSceneRegion_fits : eliotSceneRegion.Fits :=
  ⟨by decide, by decide, by decide, by decide +kernel⟩

theorem sceneRegion_inRange {i : ℕ} (hi : i < 100) : sceneRegion.InRange i := by
  refine ⟨hi, ?_⟩
  show 0xde000 + 0x1000 * (i / 9) + 0x1C0 * (i % 9) + 8 + 440 ≤ 0xe9fff
  omega

/-- Only the first fifty scenes have a slot for their id. -/
theorem eliotSceneRegion_inRange_iff {i : ℕ} : eliotSceneRegion.InRange i ↔ i < 50 := by
  change i < 100 ∧ 0xed000 + 0x1000 * (i / 50) + 0x30 * (i % 50) + 8 + 40 ≤ 0xedfff ↔ i < 50
  omega

theorem scenes_fits : scenes.Fits where
  region := sceneRegion_fits
  eliotRegion := eliotSceneRegion_fits
  size := rfl
  eliotSize := rfl
  inRange _ hi := sceneRegion_inRange hi
  eliotInRange i hi hnot := by
    have hle : 50 ≤ i := Nat.le_of_not_lt (mt eliotSceneRegion_inRange_iff.2 hnot)
    change 0xedfff ≤ 0xed000 + 0x1000 * (i / 50) + 0x30 * (i % 50)
    omega
  disjoint := by decide
  sectors i hi := by
    have hi : i < 100 := hi
    change 0xde000 + 0x1000 * (i / 9) + 0x1000 ≤ 0xed000
    omega
  data := by decide

/-! ### Runs -/

/-- A scene is set only if its id has a slot, and there the id is erased if the record is;
otherwise it is the one that is set, since fifty ids do not fit in the array. -/
def SlotUsable (st : State Byte) : Kind.Event SceneProperties → Prop
  | .set index p _ => index < 100 → index < 50 ∧
      if Uninitialized nonvolatileSceneSize (bytesAt st.memory (sceneRegion.address index + 8)) then
        p.SceneNameString.chars ≠ [] → Uninitialized eliotDeviceIdSize
          (bytesAt st.memory (eliotSceneRegion.address index + 8))
      else strncmpEq eliotDeviceIdSize p.EliotDeviceId.bytes
        (bytesAt st.memory (eliotSceneRegion.address index + 8)) = true
  | _ => True

theorem usableFor_iff (st : State Byte) (e : Kind.Event SceneProperties) :
    scenes.UsableFor st e ↔ SlotUsable st e := by
  cases e with
  | set index p garbage =>
    refine forall_congr' fun hi => ?_
    have hroom : ¬ scenes.eliotRegion.perSector ≤ scenes.eliotArraySize := by decide
    have hrange : scenes.eliotRegion.InRange index ↔ index < 50 := eliotSceneRegion_inRange_iff
    have hnamed : scenes.codec.named (scenes.nonvolatile p) = true ↔
      p.SceneNameString.chars ≠ [] := decide_eq_true_iff
    rw [Kind.Usable, hrange, hnamed, or_iff_left hroom]
    exact Iff.rfl
  | reboot => exact Iff.rfl
  | clearFlash => exact Iff.rfl

/-- **Every scene that is set in a run is got again**, before and after a restart, and the others
are left alone, exactly if the slots were usable each time. -/
theorem allSteps_setSceneProperties_iff (m : Memory) (es : List (Kind.Event SceneProperties)) :
    scenes.machine.AllSteps scenes.RoundTrips (scenes.start m) es ↔
      scenes.machine.AllSteps SlotUsable (scenes.start m) es :=
  (Kind.allSteps_roundTrips_iff scenes_fits m es).trans
    (Machine.allSteps_congr (I := fun _ => True) (fun _ _ _ _ _ _ => trivial)
      (fun st e _ => usableFor_iff st e) trivial)

theorem exampleName_noNul : (0 : Byte) ∉ ([0x41] : List Byte) := by decide

theorem exampleName_fits : ([0x41] : List Byte).length < maxSizeNameString := by decide

/-- A scene called `A` with one zone. -/
def exampleScene : SceneProperties where
  zoneData := [⟨0, 100, 50, 1⟩]
  fits := by decide
  nextTriggerTime := 0
  freq := 0
  trigger := 0
  days := 0
  delta := 0
  skipNext := 0
  SceneNameString := ⟨[0x41], exampleName_noNul, exampleName_fits⟩
  running := 0
  EliotDeviceId := CString.empty eliotDeviceIdSize_pos

/-- Scene 50 is refused. -/
theorem not_roundTrips_of_fifty :
    ¬ scenes.machine.AllSteps scenes.RoundTrips (scenes.start fun _ => 0)
      [.set 50 exampleScene ⟨fun _ => 0, fun _ => 0, fun _ => 0, fun _ => 0⟩] := by
  intro h
  have hround := (h _ rfl).1 (show 50 < scenes.maxNumber by decide)
  have hstart := Kind.holds_clearFlash scenes_fits
    (⟨fun _ => 0, fun _ => ⟨scenes.initial, none, none⟩⟩ : State Byte)
  refine hstart.not_roundTrip scenes_fits (show 50 < scenes.maxNumber by decide) ?_ _ hround
  exact fun hu => absurd (eliotSceneRegion_inRange_iff.1 hu.1) (by decide)

end Scenes

end Lcm
