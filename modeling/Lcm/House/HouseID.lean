import Lcm.House.Edits

/-!
# One house

The zones that are no shades and the scene controllers all have the house id `global_houseID`,
which is 0 as long as there are none.  The id is adopted with the first device, cleared when the
last one is deleted, and loaded at a start; but not every way in which the last device goes clears
it, and not every device with which it is adopted or from which it is loaded is of the kind that
counts.

## Main definitions

* `HouseAgrees` : the property.
* `keepsHouse` : the condition on the operations.

## Main results

* `allStates_houseAgrees` : it holds as long as the operations meet the condition.
* `not_allStates_houseAgrees` : it does not always hold.
-/

namespace Lcm

namespace House

open Scenes SceneControllers
open Services (Error)

/-- There is no zone that is no shade, and no scene controller. -/
def NoDevice (st : State) : Prop :=
  (st.zones.All fun _ p => isShade p = true) ∧ ∀ i, st.sceneControllers.get i = none

/-- The devices have the id of the house. -/
structure DevicesAgree (st : State) : Prop where
  /-- The zones that are no shades. -/
  zones : st.zones.All fun _ p => isShade p = false → p.houseId = st.global_houseID
  /-- The scene controllers. -/
  sceneControllers : st.sceneControllers.All fun _ p => p.houseId = st.global_houseID

/-- The devices have the id of the house, which is 0 if there are none. -/
structure HouseAgrees (st : State) : Prop extends DevicesAgree st where
  /-- The id of no house. -/
  noDevice : NoDevice st → st.global_houseID = 0

/-! ### The condition -/

/-- No device but one zone. -/
def onlyZone (st : State) (zoneIndex : Byte) : Bool :=
  ((List.range maxNumberOfZones).all fun i =>
    i = zoneIndex.toNat || (st.zones.get i).all isShade) && !st.anySceneControllersInArray

/-- No device but one scene controller. -/
def onlySceneController (st : State) (sceneControllerIndex : Byte) : Bool :=
  ((List.range maxNumberOfSceneControllers).all fun i =>
    i = sceneControllerIndex.toNat || (st.sceneControllers.get i).isNone) && !st.anyZonesInArray

/-- The type is that of a shade or of a group of shades. -/
def isShadeType (deviceType : Byte) : Bool :=
  deviceType = Rf.shadeType ∨ deviceType = Rf.shadeGroupType

/-- A request takes the last device of the house away, by its name or by its type. -/
def takesLastZone (st : State) (root : JsonT) (errorFlag : Bool) : Bool :=
  match lookup st.getZoneProperties zoneNamed maxNumberOfZones setZoneErrors (root.get "ZID") with
  | .error _ => false
  | .ok (zoneIndex, p) =>
    match editZone root errorFlag p with
    | .ok (some _) =>
      !isShade p && onlyZone st zoneIndex && st.global_houseID ≠ 0 &&
        (lastName root = some [] || isShadeType ((lastDeviceType root).getD p.deviceType))
    | _ => false

/-- A request takes the last device of the house away, by its name. -/
def takesLastSceneController (st : State) (root : JsonT) (settingsSent : Bool) : Bool :=
  match sceneControllerOfRequest st root with
  | .error _ => false
  | .ok (sceneControllerIndex, p) =>
    (editSceneController st.getSceneProperties root settingsSent p).isOk &&
      onlySceneController st sceneControllerIndex && st.global_houseID ≠ 0 &&
        lastName root = some []

/-- A ramp makes the house adopt an id, and adds no device. -/
def adoptsInVain (st : State) (buildingId houseId : Byte) (groupId : Word) (deviceType : Byte) :
    Bool :=
  st.addALight && !st.anyZonesInArray && !st.anySceneControllersInArray && houseId ≠ 0 &&
    !(addsZone st buildingId houseId groupId && !isShadeType deviceType)

/-- The first house id among the zones, shades or not. -/
def firstHouseID (st : State) : Option Byte :=
  (List.range maxNumberOfZones).findSome? fun i =>
    (st.zones.get i).bind fun p => if p.houseId = 0 then none else some p.houseId

/-- The operations after which the devices agree. -/
def keepsHouse (st : State) : Event → Bool
  | .setZoneProperties root errorFlag _ => !takesLastZone st root errorFlag
  | .setSceneControllerProperties root commands =>
    !takesLastSceneController st root commands.settings
  | .triggerRamp root _ =>
    match House.triggerRamp root with
    | .ok ((buildingId, houseId, groupId), _, deviceType) =>
      !adoptsInVain st buildingId houseId groupId deviceType
    | .error _ => true
  | .received ⟨.handleRampReceived buildingId houseId groupId _ deviceType, _⟩ _ =>
    !adoptsInVain st buildingId houseId groupId deviceType
  | .reboot _ _ => (firstHouseID st).all (· = st.global_houseID)
  | .clearFlash => st.global_houseID = 0
  | _ => true

section HouseAgrees

variable {st st' : State}

/-! ### The id of the house -/

theorem anyZonesInArray_eq_false :
    st.anyZonesInArray = false ↔ st.zones.All fun _ p => isShade p = true := by
  rw [State.anyZonesInArray, Table.any_eq_false]
  constructor
  · intro h i p hp
    have hshade : (zoneNamed p && !isShade p) = false := h i p hp
    rwa [st.zones.named_of_get i p hp, Bool.true_and, Bool.not_eq_false'] at hshade
  · intro h i p hp
    have hshade : isShade p = true := h i p hp
    show (zoneNamed p && !isShade p) = false
    rw [hshade, Bool.not_true, Bool.and_false]

theorem anySceneControllersInArray_eq_false :
    st.anySceneControllersInArray = false ↔ ∀ i, st.sceneControllers.get i = none := by
  rw [State.anySceneControllersInArray, Table.any_eq_false]
  constructor
  · intro h i
    by_contra hsome
    obtain ⟨p, hp⟩ := Option.ne_none_iff_exists'.1 hsome
    exact absurd (st.sceneControllers.named_of_get i p hp) (Bool.eq_false_iff.1 (h i p hp))
  · intro h i p hp
    rw [h i] at hp
    cases hp

theorem noDevice_iff :
    NoDevice st ↔ (!st.anyZonesInArray && !st.anySceneControllersInArray) = true := by
  rw [Bool.and_eq_true, Bool.not_eq_true', Bool.not_eq_true', anyZonesInArray_eq_false,
    anySceneControllersInArray_eq_false]
  exact Iff.rfl

theorem NoDevice.devicesAgree (h : NoDevice st) : DevicesAgree st where
  zones i p hp hshade := by
    rw [h.1 i p hp] at hshade
    cases hshade
  sceneControllers i p hp := by
    rw [h.2 i] at hp
    cases hp

/-- The id is cleared with the last device. -/
theorem DevicesAgree.clearHouseID (h : DevicesAgree st) : HouseAgrees st.clearHouseID := by
  by_cases hnone : NoDevice st
  · have heq : st.clearHouseID = { st with global_houseID := 0 } := if_pos (noDevice_iff.1 hnone)
    have hcleared : NoDevice st.clearHouseID := by rwa [heq]
    exact ⟨hcleared.devicesAgree, fun _ => by rw [heq]⟩
  · have heq : st.clearHouseID = st := if_neg (mt noDevice_iff.2 hnone)
    rw [heq]
    exact ⟨h, fun h => absurd h hnone⟩

/-- Adopting an id contradicts no device. -/
theorem HouseAgrees.adoptHouseID (h : HouseAgrees st) (houseId : Byte) :
    DevicesAgree (st.adoptHouseID houseId) ∧
      (NoDevice st ∧ (st.adoptHouseID houseId).global_houseID = houseId ∨
        ¬ NoDevice st ∧ st.adoptHouseID houseId = st) := by
  by_cases hnone : NoDevice st
  · have heq : st.adoptHouseID houseId = { st with global_houseID := houseId } :=
      if_pos (noDevice_iff.1 hnone)
    have hadopted : NoDevice (st.adoptHouseID houseId) := by rwa [heq]
    exact ⟨hadopted.devicesAgree, .inl ⟨hnone, by rw [heq]⟩⟩
  · have heq : st.adoptHouseID houseId = st := if_neg (mt noDevice_iff.2 hnone)
    exact ⟨by rw [heq]; exact h.toDevicesAgree, .inr ⟨hnone, heq⟩⟩

/-- What does not change the devices and the id changes nothing. -/
theorem HouseAgrees.of_keys (h : HouseAgrees st)
    (hzones : st'.zones.keys deviceOf = st.zones.keys deviceOf)
    (hsceneControllers : st'.sceneControllers.keys SceneControllerProperties.houseId =
      st.sceneControllers.keys SceneControllerProperties.houseId)
    (hhouse : st'.global_houseID = st.global_houseID) : HouseAgrees st' where
  zones := by
    refine Table.All.of_keys hzones h.zones fun _ p q hkey hq hshade => ?_
    rw [isShade_congr hkey.symm] at hshade
    have hid : q.houseId = p.houseId := congrArg Device.houseId hkey
    rw [← hid, hq hshade, hhouse]
  sceneControllers :=
    Table.All.of_keys hsceneControllers h.sceneControllers fun _ p q hkey hq => by
      rw [← hkey, hq, hhouse]
  noDevice := by
    intro hnone
    rw [hhouse]
    refine h.noDevice ⟨?_, fun i => ?_⟩
    · exact Table.All.of_keys hzones.symm hnone.1 fun _ p q hkey hq => by
        rw [← hq, isShade_congr hkey.symm]
    · by_contra hsome
      obtain ⟨p, hp⟩ := Option.ne_none_iff_exists'.1 hsome
      obtain ⟨q, hq, -⟩ := Table.exists_of_keys hsceneControllers.symm hp
      rw [hnone.2 i] at hq
      cases hq

theorem HouseAgrees.of_calm (h : HouseAgrees st) (hcalm : Calm st st') : HouseAgrees st' :=
  h.of_keys hcalm.zones (Table.keys_comp (fun k => k.2.1) hcalm.sceneControllers)
    hcalm.global_houseID

/-! ### Zones -/

theorem DevicesAgree.setZoneProperties (h : DevicesAgree st) (zoneIndex : Byte)
    {p : ZoneProperties}
    (hp : zoneNamed p = true → isShade p = false → p.houseId = st.global_houseID) :
    DevicesAgree (st.setZoneProperties zoneIndex p) where
  zones := Table.All.set h.zones hp
  sceneControllers := h.sceneControllers

/-- If no device is left when a zone is stored, that zone was the only one. -/
theorem onlyZone_of_noDevice {zoneIndex : Byte} {p : ZoneProperties}
    (h : NoDevice (st.setZoneProperties zoneIndex p)) : onlyZone st zoneIndex = true := by
  rw [onlyZone, Bool.and_eq_true, Bool.not_eq_true', anySceneControllersInArray_eq_false,
    List.all_eq_true]
  refine ⟨fun i _ => ?_, h.2⟩
  by_cases hi : i = zoneIndex.toNat
  · rw [decide_eq_true hi, Bool.true_or]
  · rw [decide_eq_false hi, Bool.false_or, Option.all_eq_true]
    intro q hq
    exact h.1 i q ((Table.get_set_ne hi).trans hq)

/-- What is stored in a slot that is free leaves the other devices. -/
theorem NoDevice.of_setZoneProperties {zoneIndex : Byte} {p : ZoneProperties}
    (hfree : st.getZoneProperties zoneIndex = none)
    (h : NoDevice (st.setZoneProperties zoneIndex p)) : NoDevice st := by
  refine ⟨fun i q hq => ?_, h.2⟩
  by_cases hi : i = zoneIndex.toNat
  · rw [hi] at hq
    exact absurd (hfree.symm.trans hq) (Option.some_ne_none q).symm
  · exact h.1 i q ((Table.get_set_ne hi).trans hq)

/-- A zone is stored in place of one with the same house id. -/
theorem HouseAgrees.setZoneProperties (h : HouseAgrees st) {zoneIndex : Byte}
    {p q : ZoneProperties} (hp : st.getZoneProperties zoneIndex = some p)
    (hid : q.houseId = p.houseId) (hshade : isShade p = true → isShade q = true)
    (hlast : isShade p = false → onlyZone st zoneIndex = true →
      (zoneNamed q = true → isShade q = true) → st.global_houseID = 0) :
    HouseAgrees (st.setZoneProperties zoneIndex q) := by
  refine ⟨h.toDevicesAgree.setZoneProperties zoneIndex fun _ hnot => ?_, fun hnone => ?_⟩
  · have hold : isShade p = false := by
      by_contra hold
      rw [hshade (by simpa using hold)] at hnot
      cases hnot
    rw [hid]
    exact h.zones _ p hp hold
  · show st.global_houseID = 0
    have hnew : zoneNamed q = true → isShade q = true := fun hname =>
      hnone.1 _ q (Table.get_set_named (Table.lt_of_get hp) hname)
    cases hold : isShade p with
    | false => exact hlast hold (onlyZone_of_noDevice hnone) hnew
    | true =>
      refine h.noDevice ⟨fun i r hr => ?_, hnone.2⟩
      by_cases hi : i = zoneIndex.toNat
      · rw [hi] at hr
        obtain rfl := Option.some.inj (hp.symm.trans hr)
        exact hold
      · exact hnone.1 i r ((Table.get_set_ne hi).trans hr)

theorem HouseAgrees.handleSetZoneProperties (h : HouseAgrees st) (root : JsonT)
    (errorFlag : Bool) (sending : State.Sending)
    (hkeeps : takesLastZone st root errorFlag = false) :
    HouseAgrees (handleSetZoneProperties st root errorFlag sending).1 := by
  obtain heq | ⟨zoneIndex, p, edit, st', hlookup, hedit, hst', heq⟩ :=
    handleSetZoneProperties_cases st root errorFlag sending
  · rwa [heq]
  have hp : st.getZoneProperties zoneIndex = some p := (lookup_ok hlookup).2
  obtain ⟨hdevice, hshade⟩ := editZone_cases hedit
  have hname : edit.zoneProperties.ZoneNameString =
      (lastName root).elim p.ZoneNameString sanitizedName :=
    congrArg Device.ZoneNameString hdevice
  have htype : edit.zoneProperties.deviceType = (lastDeviceType root).getD p.deviceType :=
    congrArg Device.deviceType hdevice
  -- the ramp that may be queued is of no importance here
  have hsame : HouseAgrees st' ∧ st'.zones = st.zones ∧
      st'.sceneControllers = st.sceneControllers ∧ st'.global_houseID = st.global_houseID := by
    obtain rfl | rfl := hst'
    · exact ⟨h, rfl, rfl, rfl⟩
    · have hcalm := calm_sendRampCommandToTransmitTask st zoneIndex 101 0 highPriority 0 sending
      exact ⟨h.of_calm hcalm, zones_sendRampCommandToTransmitTask ..,
        (zonesOnly_sendRampCommandToTransmitTask ..).sceneControllers, hcalm.global_houseID⟩
  obtain ⟨hagrees, hzones, hsceneControllers, hhouse⟩ := hsame
  rw [heq]
  refine hagrees.setZoneProperties (p := p) (by rwa [State.getZoneProperties, hzones])
    (congrArg Device.houseId hdevice) hshade fun hold honly hgone => ?_
  rw [hhouse]
  by_contra hnot
  -- the zone is the last device, and it does not count any more
  have hgone : (lastName root = some [] ||
      isShadeType ((lastDeviceType root).getD p.deviceType)) = true := by
    rw [Bool.or_eq_true]
    by_cases hnamed : zoneNamed edit.zoneProperties = true
    · exact .inr (htype ▸ hgone hnamed)
    · have hempty : edit.zoneProperties.ZoneNameString.chars = [] := by
        simpa [zoneNamed] using hnamed
      have hold : p.ZoneNameString.chars ≠ [] :=
        of_decide_eq_true (st.zones.named_of_get _ p hp)
      exact .inl (decide_eq_true (lastName_of_empty hname hold hempty))
  have honly : onlyZone st zoneIndex = true := by
    rwa [onlyZone, State.anySceneControllersInArray, hzones, hsceneControllers] at honly
  rw [takesLastZone, hlookup] at hkeeps
  dsimp only at hkeeps
  rw [hedit] at hkeeps
  dsimp only at hkeeps
  rw [hold, honly, hgone, decide_eq_true hnot] at hkeeps
  cases hkeeps

theorem HouseAgrees.handleDeleteZone (h : HouseAgrees st) (root : JsonT) :
    HouseAgrees (handleDeleteZone st root).1 := by
  obtain heq | ⟨zoneIndex, p, st', hp, hst', heq⟩ := handleDeleteZone_cases st root
  · rw [heq]
    exact h.toDevicesAgree.clearHouseID
  · rw [heq]
    have hset : DevicesAgree (st.setZoneProperties zoneIndex (clearZone p)) := by
      refine h.toDevicesAgree.setZoneProperties zoneIndex fun _ hshade => ?_
      exact h.zones _ p hp hshade
    refine DevicesAgree.clearHouseID ?_
    obtain rfl | rfl := hst'
    · exact hset
    · exact ⟨hset.zones, hset.sceneControllers⟩

theorem nameOf_zone (zoneIdx : Byte) :
    (nameOf (JsonT.bytesOfString s!"zone {zoneIdx.toNat + 1}")).chars ≠ [] := by
  revert zoneIdx
  decide +kernel

theorem nameOf_sceneController (sceneControllerIndex : Byte) :
    (nameOf (JsonT.bytesOfString s!"SC {sceneControllerIndex.toNat}")).chars ≠ [] := by
  revert sceneControllerIndex
  decide +kernel

theorem zoneNamed_newZone (zoneIdx buildingId houseId : Byte) (groupId : Word)
    (value deviceType : Byte) (EliotDeviceId : CString eliotDeviceIdSize) :
    zoneNamed (newZone zoneIdx buildingId houseId groupId value deviceType EliotDeviceId) =
      true :=
  decide_eq_true (nameOf_zone zoneIdx)

theorem addsZone_free {buildingId houseId : Byte} {groupId : Word}
    (h : addsZone st buildingId houseId groupId = true) :
    st.getAvailableZoneIndex.toNat < maxNumberOfZones ∧
      st.getZoneProperties st.getAvailableZoneIndex = none := by
  have hfree := (addsZone_eq_true.1 h).2.2.2
  rw [State.getZoneProperties, toNat_getAvailableZoneIndex]
  exact ⟨hfree, Table.get_available hfree⟩

theorem HouseAgrees.handleRampReceived (h : HouseAgrees st) (buildingId houseId : Byte)
    (groupId : Word) (value deviceType : Byte) (EliotDeviceId : CString eliotDeviceIdSize)
    (hkeeps : adoptsInVain st buildingId houseId groupId deviceType = false) :
    HouseAgrees
      (handleRampReceived st buildingId houseId groupId value deviceType EliotDeviceId) := by
  obtain ⟨hadopts, hadopted⟩ := h.adoptHouseID houseId
  obtain ⟨hadds, heq⟩ | ⟨hadds, hcalm⟩ := handleRampReceived_cases st buildingId houseId groupId
    value deviceType EliotDeviceId
  · rw [heq]
    obtain ⟨hadd, hhouse, -, -⟩ := addsZone_eq_true.1 hadds
    obtain ⟨hindex, hfree⟩ := addsZone_free hadds
    rw [rampAdopts, if_pos hadd]
    have hset : DevicesAgree ((st.adoptHouseID houseId).setZoneProperties
        st.getAvailableZoneIndex (newZone st.getAvailableZoneIndex buildingId houseId groupId value
          deviceType EliotDeviceId)) :=
      hadopts.setZoneProperties _ fun _ _ => hhouse.symm
    refine ⟨⟨hset.zones, hset.sceneControllers⟩, fun hnone => ?_⟩
    show (st.adoptHouseID houseId).global_houseID = 0
    -- what has been added is a shade, so the house has no device and has adopted the id
    have hnew := hnone.1 _ _ (Table.get_set_named hindex (zoneNamed_newZone ..))
    have hnone : NoDevice (st.adoptHouseID houseId) :=
      NoDevice.of_setZoneProperties
        (by rwa [State.getZoneProperties, zones_adoptHouseID]) hnone
    have hbefore : NoDevice st := by
      rwa [NoDevice, zones_adoptHouseID, sceneControllers_adoptHouseID] at hnone
    have harrays := noDevice_iff.1 hbefore
    rw [hhouse]
    by_contra hzero
    rw [adoptsInVain, hadd, hadds, Bool.true_and, harrays, decide_eq_true hzero,
      show isShadeType deviceType = true from hnew] at hkeeps
    cases hkeeps
  · refine HouseAgrees.of_calm ?_ hcalm
    unfold rampAdopts
    split
    · rename_i hadd
      obtain ⟨hbefore, hhouse⟩ | ⟨-, heq⟩ := hadopted
      · refine ⟨hadopts, fun _ => ?_⟩
        have harrays := noDevice_iff.1 hbefore
        rw [hhouse]
        by_contra hzero
        rw [adoptsInVain, hadd, hadds, Bool.true_and, harrays, decide_eq_true hzero] at hkeeps
        cases hkeeps
      · rwa [heq]
    · exact h

/-- A shade in a free slot is no device of the house. -/
theorem HouseAgrees.addIfUnknown (h : HouseAgrees st) (name identifier : List Byte)
    (isGroup : Bool) (garbage : ShadeGarbage) :
    HouseAgrees (addIfUnknown st name identifier isGroup garbage) := by
  unfold House.addIfUnknown House.addAShade
  dsimp only
  split
  · split
    · split
      · exact h
      · rename_i hfree
        have hshade (zoneIndex : Byte) :
            isShade (newShade zoneIndex name isGroup garbage) = true := by
          cases isGroup <;> rfl
        have hset : DevicesAgree (st.setZoneProperties st.getAvailableZoneIndex
            (newShade st.getAvailableZoneIndex name isGroup garbage)) :=
          h.toDevicesAgree.setZoneProperties _ fun _ hnot => by
            rw [hshade] at hnot
            cases hnot
        refine ⟨⟨hset.zones, hset.sceneControllers⟩, fun hnone => ?_⟩
        exact h.noDevice (NoDevice.of_setZoneProperties hfree hnone)
    · exact h
  · exact h

/-! ### Scene controllers -/

theorem DevicesAgree.setSceneControllerProperties (h : DevicesAgree st)
    (sceneControllerIndex : Byte) {p : SceneControllerProperties}
    (hp : sceneControllerNamed p = true → p.houseId = st.global_houseID) :
    DevicesAgree (st.setSceneControllerProperties sceneControllerIndex p) where
  zones := h.zones
  sceneControllers := Table.All.set h.sceneControllers hp

theorem onlySceneController_of_noDevice {sceneControllerIndex : Byte}
    {p : SceneControllerProperties}
    (h : NoDevice (st.setSceneControllerProperties sceneControllerIndex p)) :
    onlySceneController st sceneControllerIndex = true := by
  rw [onlySceneController, Bool.and_eq_true, Bool.not_eq_true', anyZonesInArray_eq_false,
    List.all_eq_true]
  refine ⟨fun i _ => ?_, h.1⟩
  by_cases hi : i = sceneControllerIndex.toNat
  · rw [decide_eq_true hi, Bool.true_or]
  · rw [decide_eq_false hi, Bool.false_or, Option.isNone_iff_eq_none]
    exact (Table.get_set_ne hi).symm.trans (h.2 i)

theorem HouseAgrees.handleSetSceneControllerProperties (h : HouseAgrees st) (root : JsonT)
    (commands : Commands) (hkeeps : takesLastSceneController st root commands.settings = false) :
    HouseAgrees (handleSetSceneControllerProperties st root commands).1 := by
  obtain heq | ⟨sceneControllerIndex, p, edit, hcontroller, hedit, heq⟩ :=
    handleSetSceneControllerProperties_cases st root commands
  · rwa [heq]
  rw [heq]
  have hp := sceneControllerOfRequest_ok hcontroller
  obtain ⟨hname, hid⟩ := editSceneController_cases hedit
  refine ⟨h.toDevicesAgree.setSceneControllerProperties sceneControllerIndex fun _ => ?_,
    fun hnone => ?_⟩
  · rw [hid]
    exact h.sceneControllers _ p hp
  · show st.global_houseID = 0
    by_contra hhouse
    have honly := onlySceneController_of_noDevice hnone
    -- the scene controller has lost its name
    have hempty : edit.properties.SceneControllerNameString.chars = [] := by
      by_contra hnot
      have hnew : (st.sceneControllers.set sceneControllerIndex.toNat edit.properties).get
          sceneControllerIndex.toNat = some edit.properties :=
        Table.get_set_named (Table.lt_of_get hp) (decide_eq_true hnot)
      exact absurd (hnew.symm.trans (hnone.2 _)) (Option.some_ne_none _)
    have hlast := lastName_of_empty hname
      (of_decide_eq_true (st.sceneControllers.named_of_get _ p hp)) hempty
    rw [takesLastSceneController, hcontroller] at hkeeps
    dsimp only at hkeeps
    rw [hedit, honly, decide_eq_true hhouse, decide_eq_true hlast] at hkeeps
    cases hkeeps

theorem HouseAgrees.handleDeleteSceneController (h : HouseAgrees st) (root : JsonT)
    (commands : Commands) : HouseAgrees (handleDeleteSceneController st root commands).1 := by
  obtain heq | heq | ⟨sceneControllerIndex, p, hp, heq⟩ :=
    handleDeleteSceneController_cases st root commands
  · rwa [heq]
  · rw [heq]
    exact h.toDevicesAgree.clearHouseID
  · rw [heq]
    refine (h.toDevicesAgree.setSceneControllerProperties _ fun _ => ?_).clearHouseID
    exact h.sceneControllers _ p hp

/-- Without a scene controller, a command is not of one that is known, and there is room. -/
theorem addsSceneController_of_noDevice (h : NoDevice st) {buildingId houseId : Byte}
    {groupId : Word} (hhouse : (st.adoptHouseID houseId).global_houseID = houseId) :
    addsSceneController st (st.getSceneControllerIndex groupId buildingId houseId) houseId =
      true := by
  have hfree : st.sceneControllers.available < maxNumberOfSceneControllers :=
    Table.available_lt (by decide) (h.2 0)
  have hunknown : maxNumberOfSceneControllers ≤
      (st.getSceneControllerIndex groupId buildingId houseId).toNat := by
    rw [State.getSceneControllerIndex, Table.find_eq]
    · decide
    · intro i p hp
      rw [h.2 i] at hp
      cases hp
  rw [addsSceneController, decide_eq_true hhouse, decide_eq_true hunknown, decide_eq_true hfree]
  rfl

theorem HouseAgrees.handleSceneControllerCommandReceived (h : HouseAgrees st)
    (buildingId houseId : Byte) (groupId : Word) (garbage : SceneControllerGarbage) :
    HouseAgrees (handleSceneControllerCommandReceived st
      (st.getSceneControllerIndex groupId buildingId houseId) buildingId houseId groupId
      garbage) := by
  obtain ⟨hadopts, hadopted⟩ := h.adoptHouseID houseId
  obtain ⟨hadds, heq⟩ | ⟨hadds, heq⟩ := handleSceneControllerCommandReceived_cases st
    (st.getSceneControllerIndex groupId buildingId houseId) buildingId houseId groupId garbage
  · rw [heq]
    rw [addsSceneController, Bool.and_eq_true, Bool.and_eq_true] at hadds
    have hhouse := of_decide_eq_true hadds.1.1
    have hindex := of_decide_eq_true hadds.2
    rw [← toNat_getAvailableSceneControllerIndex] at hindex
    let p := newSceneController st.getAvailableSceneControllerIndex buildingId houseId groupId
      garbage
    have hset := hadopts.setSceneControllerProperties st.getAvailableSceneControllerIndex (p := p)
      fun _ => hhouse.symm
    refine ⟨⟨hset.zones, hset.sceneControllers⟩, fun hnone => ?_⟩
    -- the new scene controller is a device
    have hnew : ((st.adoptHouseID houseId).sceneControllers.set
        st.getAvailableSceneControllerIndex.toNat p).get
          st.getAvailableSceneControllerIndex.toNat = some p :=
      Table.get_set_named hindex (decide_eq_true (nameOf_sceneController _))
    exact absurd (hnew.symm.trans (hnone.2 _)) (Option.some_ne_none p)
  · rw [heq]
    obtain ⟨hbefore, hhouse⟩ | ⟨-, hsame⟩ := hadopted
    · rw [addsSceneController_of_noDevice hbefore hhouse] at hadds
      cases hadds
    · rwa [hsame]

/-! ### Scenes, and the start -/

/-- The scenes are of no importance. -/
theorem HouseAgrees.handleDeleteScene (h : HouseAgrees st) (root : JsonT) :
    HouseAgrees (handleDeleteScene st root).1 := by
  obtain heq | ⟨sceneIndex, p, -, heq⟩ := handleDeleteScene_cases st root
  · rwa [heq]
  · rw [heq]
    exact h.of_keys rfl (Table.keys_map (f := removeScene sceneIndex) (fun _ => rfl) fun _ => rfl)
      rfl

theorem foldl_loadHouseID (global_houseID : Byte) (ids : List (Option Byte)) :
    ids.foldl loadHouseID global_houseID =
      if global_houseID = 0 then
        (ids.findSome? fun id => id.bind fun id => if id = 0 then none else some id).getD 0
      else global_houseID := by
  induction ids generalizing global_houseID with
  | nil =>
    by_cases hid : global_houseID = 0 <;> simp [hid]
  | cons id ids ih =>
    rw [List.foldl_cons, ih, List.findSome?_cons, loadHouseID]
    by_cases hid : global_houseID = 0
    · rw [if_pos hid, if_pos hid]
      cases id with
      | none => simp
      | some id =>
        by_cases hzero : id = 0
        · rw [hzero]
          rfl
        · simp only [Option.getD_some, Option.bind_some, if_neg hzero]
    · rw [if_neg hid, if_neg hid, if_neg hid]

/-- **The house id is loaded as it was**, if the first one among the zones is the right one. -/
theorem HouseAgrees.loadedHouseID (h : HouseAgrees st)
    (hkeeps : ∀ houseId ∈ firstHouseID st, houseId = st.global_houseID) :
    loadedHouseID st = st.global_houseID := by
  rw [House.loadedHouseID, foldl_loadHouseID, if_pos rfl, List.findSome?_append,
    List.findSome?_map, List.findSome?_map]
  have hzones : ((List.range maxNumberOfZones).findSome?
      ((fun id : Option Byte => id.bind fun id => if id = 0 then none else some id) ∘
        fun i => (st.zones.get i).map ZoneProperties.houseId)) = firstHouseID st := by
    rw [firstHouseID]
    congr 1
    funext i
    exact Option.bind_map ..
  rw [hzones]
  cases hfirst : firstHouseID st with
  | some houseId => exact hkeeps houseId hfirst
  | none =>
    -- all zones have the id 0
    have hzero : st.zones.All fun _ p => p.houseId = 0 := by
      intro i p hp
      have hi := List.findSome?_eq_none_iff.1 hfirst i (List.mem_range.2 (Table.lt_of_get hp))
      by_contra hnot
      rw [hp, Option.bind_some, if_neg hnot] at hi
      cases hi
    rw [Option.none_or]
    generalize hids : (List.range maxNumberOfSceneControllers).findSome? _ = ids
    cases ids with
    | some houseId =>
      obtain ⟨i, -, hi⟩ := List.exists_of_findSome?_eq_some hids
      obtain ⟨id, hid, hsome⟩ := Option.bind_eq_some_iff.1 hi
      obtain ⟨p, hp, rfl⟩ := Option.map_eq_some_iff.1 hid
      rw [Option.ite_none_left_eq_some] at hsome
      show houseId = st.global_houseID
      rw [← Option.some.inj hsome.2]
      exact h.sceneControllers i p hp
    | none =>
      -- so do all scene controllers
      rw [Option.getD_none]
      by_contra hhouse
      refine hhouse (h.noDevice ⟨?_, fun i => ?_⟩).symm
      · intro i p hp
        by_contra hshade
        have hid := h.zones i p hp (by simpa using hshade)
        exact hhouse ((hzero i p hp).symm.trans hid)
      · by_contra hsome
        obtain ⟨p, hp⟩ := Option.ne_none_iff_exists'.1 hsome
        have hi := List.findSome?_eq_none_iff.1 hids i (List.mem_range.2 (Table.lt_of_get hp))
        have hid := h.sceneControllers i p hp
        rw [Function.comp_apply, hp, Option.map_some, Option.bind_some,
          if_neg (by rw [hid]; exact Ne.symm hhouse)] at hi
        cases hi

theorem HouseAgrees.reboot (h : HouseAgrees st) (addASceneController : Bool)
    (idString : ℕ → List Byte) (hkeeps : ∀ houseId ∈ firstHouseID st, houseId = st.global_houseID) :
    HouseAgrees (reboot st addASceneController idString) := by
  have hzones : (House.reboot st addASceneController idString).zones.keys deviceOf =
      st.zones.keys deviceOf :=
    Table.keys_map (f := Zones.zones.restarted) (fun _ => rfl) deviceOf_restarted
  have hhouse : (House.reboot st addASceneController idString).global_houseID =
      st.global_houseID := by
    simp only [House.reboot, h.loadedHouseID hkeeps]
  exact h.of_keys hzones rfl hhouse

/-! ### Runs -/

/-- **The devices go on agreeing** after an operation that meets the condition. -/
theorem HouseAgrees.next (h : HouseAgrees st) (e : Event) (hkeeps : keepsHouse st e = true) :
    HouseAgrees (next st e) := by
  cases e with
  | setZoneProperties root errorFlag sending =>
    exact h.handleSetZoneProperties root errorFlag sending ((Bool.not_eq_true' _).mp hkeeps)
  | deleteZone root => exact h.handleDeleteZone root
  | triggerRamp root EliotDeviceId =>
    simp only [House.next, handleTriggerRampCommand]
    simp only [keepsHouse] at hkeeps
    split
    · exact h
    · rename_i hroot
      rw [hroot] at hkeeps
      exact h.handleRampReceived _ _ _ _ _ _ ((Bool.not_eq_true' _).mp hkeeps)
  | createScene root garbage nextTriggerTime =>
    obtain heq | ⟨p, -, -, heq⟩ := handleCreateScene_cases st root garbage nextTriggerTime
    · rwa [House.next, heq]
    · rw [House.next, heq]
      exact h.of_keys rfl rfl rfl
  | setSceneProperties root nextTriggerTime =>
    obtain heq | ⟨sceneIndex, p, p', -, -, heq⟩ :=
      handleSetSceneProperties_cases st root nextTriggerTime
    · rwa [House.next, heq]
    · rw [House.next, heq]
      exact h.of_keys rfl rfl rfl
  | deleteScene root => exact h.handleDeleteScene root
  | setSceneControllerProperties root commands =>
    exact h.handleSetSceneControllerProperties root commands ((Bool.not_eq_true' _).mp hkeeps)
  | deleteSceneController root commands => exact h.handleDeleteSceneController root commands
  | triggerSceneController root env garbage =>
    obtain hcalm | ⟨_, _, _, heq⟩ := handleTriggerSceneControllerCommand_cases st root env garbage
    · exact h.of_calm hcalm
    · rw [House.next, heq]
      exact h.handleSceneControllerCommandReceived _ _ _ _
  | received call env =>
    obtain ⟨call, hcall⟩ := call
    obtain hcalm | ⟨_, _, _, _, _, rfl⟩ | ⟨_, _, _, heq⟩ := handleCall_cases st env call
    · exact h.of_calm hcalm
    · exact h.handleRampReceived _ _ _ _ _ _ ((Bool.not_eq_true' _).mp hkeeps)
    · rw [House.next, heq]
      exact h.handleSceneControllerCommandReceived _ _ _ _
  | devicesInfo element garbage =>
    simp only [House.next, handleDevicesInfoResponse]
    split
    · split
      · exact h.addIfUnknown _ _ _ _
      · exact h
    · exact h
  | qmotionGroups element garbage =>
    simp only [House.next, handleQmotionGroupsResponse]
    split
    · exact h.addIfUnknown _ _ _ _
    · exact h
  | reboot addASceneController idString =>
    refine h.reboot addASceneController idString fun houseId hfirst => ?_
    exact of_decide_eq_true ((Option.all_eq_true ..).1 hkeeps houseId hfirst)
  | clearFlash => exact ⟨⟨Table.all_empty, Table.all_empty⟩, fun _ => of_decide_eq_true hkeeps⟩
  | _ => exact h.of_calm (next_calm st rfl)

/-- **The house id agrees in every run** whose operations meet the condition. -/
theorem allStates_houseAgrees (es : List Event)
    (h : machine.AllSteps (fun st e => keepsHouse st e = true) State.initial es) :
    machine.AllStates HouseAgrees State.initial es := by
  refine Machine.allStates_of_allSteps ?_ ⟨⟨Table.all_empty, Table.all_empty⟩, fun _ => rfl⟩ h
  intro st e st' hagrees hkeeps hnext
  obtain rfl := Option.some.inj hnext
  exact hagrees.next e hkeeps

end HouseAgrees

/-- A dimmer of the house 5 is added and renamed; then the system restarts. -/
def renameOnlyZone (name : String) : List Event :=
  [.addALight .true,
    .received ⟨.handleRampReceived 1 5 1 100 dimmerType, fullPower_le⟩ freeCall,
    .setZoneProperties (propertiesRequest ("ZID", 0) [("Name", .string name)]) false ⟨true, true⟩]

theorem allStates_houseAgrees_rename :
    machine.AllStates HouseAgrees State.initial
      (renameOnlyZone "Hall" ++
        [.reboot false fun _ => [], .deleteZone (.object [("ZID", .integer 0)])]) :=
  allStates_houseAgrees _ (by decide +kernel)

/-- **The house id stays** when the name of the last device is cleared. -/
theorem not_allStates_houseAgrees :
    ¬ ∀ es, machine.AllStates HouseAgrees State.initial es := by
  intro h
  have hrun : (machine.run State.initial (renameOnlyZone "")).any (fun st =>
      !st.anyZonesInArray && !st.anySceneControllersInArray && st.global_houseID = 5) = true := by
    decide +kernel
  obtain ⟨st, hrun, hst⟩ := (Option.any_eq_true ..).1 hrun
  obtain ⟨hnone, hhouse⟩ := Bool.and_eq_true_iff.1 hst
  have hzero := ((h (renameOnlyZone "")).of_run hrun).noDevice (noDevice_iff.2 hnone)
  rw [of_decide_eq_true hhouse] at hzero
  exact absurd hzero (by decide)

end House

end Lcm
