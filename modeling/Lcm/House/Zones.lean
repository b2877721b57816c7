import Lcm.House.State

/-!
# The zones of the house

What the requests of the app, the frames of the devices, the shades and the cloud do to the zones.
Broadcasts and the reports for the cloud are left out, as is `systemProperties.configured`, which
nothing here reads.

## Main definitions

* `handleSetZoneProperties`, `handleDeleteZone` : the requests.
* `handleRampReceived` : a ramp of a device.
* `handleQmotionStatusResponse`, `addAShade` : the shades.
* `adjustDeviceLevel`, `setDeviceState` : the cloud.
-/

namespace Lcm

namespace House

open Rf (shadeType shadeGroupType)
open Services (Error)

namespace State

/-- The test at the end of `HandleDeleteZone` and `HandleDeleteSceneController`. -/
def clearHouseID (st : State) : State :=
  if !st.anyZonesInArray && !st.anySceneControllersInArray then { st with global_houseID := 0 }
  else st

/-- The test at the start of adding a device. -/
def adoptHouseID (st : State) (houseId : Byte) : State :=
  if !st.anyZonesInArray && !st.anySceneControllersInArray then
    { st with global_houseID := houseId }
  else st

end State

/-- `snprintf` into a name. -/
def nameOf (chars : List Byte) : CString maxSizeNameString :=
  CString.ofBytes maxSizeNameString_pos fun i => chars.getD i 0

/-- The error for an `AppContextId` that is not an integer. -/
def appContextError (root : JsonT) : Option Error :=
  match root.get "AppContextId" with
  | some appContextObj =>
    if appContextObj.isInteger then none else some ⟨"App Context ID error", 2000⟩
  | none => none

/-! ### Requests -/

/-- What a pass over the properties in a request works on. -/
structure ZoneEdit where
  /-- `zoneProperties` -/
  zoneProperties : ZoneProperties
  /-- `sendToTransmitQueueFlag` -/
  sendToTransmitQueueFlag : Bool

/-- `PowerLevel`; the level of a switch is always the same and is not sent. -/
def powerLevelProperty (setFlag : Bool) (valueObject : JsonT) (edit : ZoneEdit) :
    Except Error ZoneEdit :=
  let level := valueObject.integerValue
  let set (targetPowerLevel : Byte) (send : Bool) : ZoneEdit :=
    { zoneProperties := { edit.zoneProperties with targetPowerLevel := targetPowerLevel }
      sendToTransmitQueueFlag := send || edit.sendToTransmitQueueFlag }
  if !valueObject.isInteger then
    .error ⟨"PropertyList, Power Level must be integer.", 2063⟩
  else if 100 < level.toInt ∨ level = 0 then
    if isShade edit.zoneProperties ∧ level = 0 then
      .ok (if setFlag then set (level.setWidth 8) true else edit)
    else .error ⟨"PropertyList, Power Lvl must be 1 - 100.", 2064⟩
  else if setFlag then
    if edit.zoneProperties.deviceType = switchType then .ok (set maxPowerLevel false)
    else .ok (set (level.setWidth 8) true)
  else .ok edit

/-- `RampRate` -/
def rampRateProperty (setFlag : Bool) (valueObject : JsonT) (edit : ZoneEdit) :
    Except Error ZoneEdit :=
  let rate := valueObject.integerValue
  if !valueObject.isInteger then
    .error ⟨"PropertyList, RampRate must be integer.", 2068⟩
  else if 255 < rate.toInt ∨ rate.toInt < 0 then
    .error ⟨"PropertyList, Ramp Rate must be 0 - 255.", 2067⟩
  else .ok
    (if setFlag then
      { edit with zoneProperties := { edit.zoneProperties with rampRate := rate.setWidth 8 } }
    else edit)

/-- `Name` -/
def zoneNameProperty (setFlag : Bool) (valueObject : JsonT) (edit : ZoneEdit) :
    Except Error ZoneEdit :=
  if !valueObject.isString then .error ⟨"PropertyList, Name must be string.", 2060⟩
  else .ok
    (if setFlag then
      { edit with
        zoneProperties :=
          { edit.zoneProperties with ZoneNameString := sanitizedName valueObject.chars } }
    else edit)

/-- `Power` -/
def powerProperty (setFlag : Bool) (valueObject : JsonT) (edit : ZoneEdit) :
    Except Error ZoneEdit :=
  if !valueObject.isBoolean then .error ⟨"PropertyList, Power must be boolean.", 2065⟩
  else .ok
    (if setFlag then
      { zoneProperties := { edit.zoneProperties with targetState := valueObject.isTrue }
        sendToTransmitQueueFlag := true }
    else edit)

/-- The type with a name, `NO_TYPE` if there is none. -/
def deviceTypeOf (deviceTypeString : List Byte) : Byte :=
  if deviceTypeString = JsonT.bytesOfString "Fan" then fanControllerType
  else if deviceTypeString = JsonT.bytesOfString "Switch" then switchType
  else if deviceTypeString = JsonT.bytesOfString "Shade" then shadeType
  else if deviceTypeString = JsonT.bytesOfString "ShadeGroup" then shadeGroupType
  else if deviceTypeString = JsonT.bytesOfString "Dimmer" then dimmerType
  else noType

/-- `DeviceType` -/
def deviceTypeProperty (setFlag : Bool) (valueObject : JsonT) (edit : ZoneEdit) :
    Except Error ZoneEdit :=
  let deviceType := deviceTypeOf valueObject.chars
  if !valueObject.isString then .error ⟨"PropertyList, DeviceType must be a string.", 2054⟩
  else if deviceType = noType then
    .error ⟨"PropertyList, DeviceType must be \"Dimmer\" or \"Switch\" or \"Fan\" or \"Shade\" " ++
      "or \"ShadeGroup\".", 2053⟩
  else if edit.zoneProperties.deviceType ≠ networkRemoteType ∧
      edit.zoneProperties.deviceType ≠ noType then
    .error ⟨"PropertyList, Can only change device type when not already set.", 2048⟩
  else .ok
    (if setFlag then
      { edit with zoneProperties := { edit.zoneProperties with deviceType := deviceType } }
    else edit)

/-- `HandleIndividualProperty` -/
def handleIndividualProperty (setFlag : Bool) (edit : ZoneEdit) (property : String × JsonT) :
    Except Error ZoneEdit :=
  if property.1 = "PowerLevel" then powerLevelProperty setFlag property.2 edit
  else if property.1 = "RampRate" then rampRateProperty setFlag property.2 edit
  else if property.1 = "Name" then zoneNameProperty setFlag property.2 edit
  else if property.1 = "Power" then powerProperty setFlag property.2 edit
  else if property.1 = "DeviceType" then deviceTypeProperty setFlag property.2 edit
  else .error ⟨"Invalid Property' in List.", 2028⟩

/-- The errors of a lookup in one of the arrays. -/
structure LookupErrors where
  /-- The field is missing. -/
  noField : Error
  /-- It is not an integer. -/
  notAnInteger : Error
  /-- The index is too large. -/
  tooLarge : BitVec 64 → Error
  /-- The properties cannot be got. -/
  notGot : Byte → Error
  /-- They have no name. -/
  notNamed : BitVec 64 → Error

/-- A request names an index by a `byte_t`; its properties are looked up. -/
def lookup {P : Type*} (get : Byte → Option P) (named : P → Bool) (size : ℕ) (errors : LookupErrors)
    (field : Option JsonT) : Except Error (Byte × P) :=
  match field with
  | none => .error errors.noField
  | some object =>
    if !object.isInteger then .error errors.notAnInteger
    else
      let index : Byte := object.integerValue.setWidth 8
      if size ≤ index.toNat then .error (errors.tooLarge object.integerValue)
      else
        match get index with
        | none => .error (errors.notGot index)
        | some p =>
          if named p then .ok (index, p) else .error (errors.notNamed object.integerValue)

/-- The low half of a `json_int_t`, as an `int`. -/
def intOf (value : BitVec 64) : ℤ := (value.setWidth 32).toInt

/-- The errors of `HandleSetZoneProperties`. -/
def setZoneErrors : LookupErrors where
  noField := ⟨"No Zone ID field.", 2043⟩
  notAnInteger := ⟨"Zone ID must be an integer", 2093⟩
  tooLarge value := ⟨s!"Zone ID ({intOf value}) must be less then 100.", 2091⟩
  notGot index := ⟨s!"Could not get zone properties for zone {index.toNat}.", 2015⟩
  notNamed value := ⟨s!"Zone ID ({intOf value}) not found.", 2092⟩

/-- The errors of `HandleDeleteZone`. -/
def deleteZoneErrors : LookupErrors where
  noField := ⟨"No Zone ID field.", 2043⟩
  notAnInteger := ⟨"Zone ID must be an integer", 2093⟩
  tooLarge _ := ⟨"Zone ID must be less then 100.", 2091⟩
  notGot index := ⟨s!"Could not get zone properties for zone {index.toNat}.", 2015⟩
  notNamed value := ⟨s!"Zone ID {(value.setWidth 8).toNat} doesn't exist.", 2090⟩

/-- The properties with which the second pass starts. -/
def startEdit (root : JsonT) (p : ZoneProperties) : ZoneEdit where
  zoneProperties :=
    { p with
      rampRate := 50
      AppContextId := ((root.get "AppContextId").elim 0 JsonT.integerValue).setWidth 32 }
  sendToTransmitQueueFlag := false

/-- Both passes over the properties in a request: nothing if `errorFlag`, which is not initialized,
happens to be set and there is no property that would assign it. -/
def editZone (root : JsonT) (errorFlag : Bool) (p : ZoneProperties) :
    Except Error (Option ZoneEdit) :=
  match root.get "PropertyList" with
  | some (.object members) => do
    let _ ← members.foldlM (handleIndividualProperty false) ⟨p, false⟩
    if errorFlag ∧ members = [] then pure none
    else
      match appContextError root with
      | some error => .error error
      | none => do
        let edit ← members.foldlM (handleIndividualProperty true) (startEdit root p)
        pure (some edit)
  | _ => .error ⟨"Invalid 'PropertyList'.", 2029⟩

/-- `HandleSetZoneProperties`: the state and the error response. -/
def handleSetZoneProperties (st : State) (root : JsonT) (errorFlag : Bool)
    (sending : State.Sending) : State × Option Error :=
  let edited := do
    let (zoneIndex, p) ←
      lookup st.getZoneProperties zoneNamed maxNumberOfZones setZoneErrors (root.get "ZID")
    let edit ← editZone root errorFlag p
    pure (zoneIndex, edit)
  match edited with
  | .error error => (st, some error)
  | .ok (_, none) => (st, none)
  | .ok (zoneIndex, some edit) =>
    let st :=
      if edit.sendToTransmitQueueFlag then
        st.sendRampCommandToTransmitTask zoneIndex 101 0 highPriority 0 sending
      else st
    (st.setZoneProperties zoneIndex edit.zoneProperties, none)

/-- A zone is deleted by clearing its name. -/
def clearZone (p : ZoneProperties) : ZoneProperties :=
  { p with
    ZoneNameString := CString.empty maxSizeNameString_pos, EliotDeviceId := CString.empty eliotDeviceIdSize_pos }

/-- `HandleDeleteZone`: the state and the error response. -/
def handleDeleteZone (st : State) (root : JsonT) : State × Option Error :=
  match lookup st.getZoneProperties zoneNamed maxNumberOfZones deleteZoneErrors
      (root.get "ZID") with
  | .error error => (st.clearHouseID, some error)
  | .ok (zoneIndex, p) =>
    let st := st.setZoneProperties zoneIndex (clearZone p)
    let st :=
      if isShade p then { st with idString := Function.update st.idString zoneIndex.toNat [] }
      else st
    (st.clearHouseID, appContextError root)

/-! ### Frames -/

/-- `HandleTargetValue`, of a zone. -/
def targetValue (value : Byte) (p : ZoneProperties) : ZoneProperties :=
  if value ≠ 0 then
    let p := if p.state then p else { p with state := true, targetState := true }
    if p.powerLevel ≠ value then { p with powerLevel := value, targetPowerLevel := value } else p
  else if p.state then { p with state := false, targetState := false }
  else p

/-- `HandleTargetValue` -/
def handleTargetValue (st : State) (value zoneIdx : Byte) : State :=
  match st.getZoneProperties zoneIdx with
  | some p => st.setZoneProperties zoneIdx (targetValue value p)
  | none => st

/-- The zone that is added for a device; `EliotDeviceId` is not assigned. -/
def newZone (zoneIdx buildingId houseId : Byte) (groupId : Word) (value deviceType : Byte)
    (EliotDeviceId : CString eliotDeviceIdSize) : ZoneProperties where
  AppContextId := 0
  groupId := groupId
  state := value ≠ 0
  targetState := value ≠ 0
  powerLevel := if value ≠ 0 then value else 100
  targetPowerLevel := if value ≠ 0 then value else 100
  rampRate := 50
  deviceType := deviceType
  buildingId := buildingId
  houseId := houseId
  roomId := 0
  ZoneNameString := nameOf (JsonT.bytesOfString s!"zone {zoneIdx.toNat + 1}")
  EliotDeviceId := EliotDeviceId

/-- `HandleRampReceived` -/
def handleRampReceived (st : State) (buildingId houseId : Byte) (groupId : Word)
    (value deviceType : Byte) (EliotDeviceId : CString eliotDeviceIdSize) : State :=
  let zoneIdx := st.getZoneIndex groupId buildingId houseId
  if st.addALight then
    let st := st.adoptHouseID houseId
    if st.global_houseID = houseId then
      if maxNumberOfZones ≤ zoneIdx.toNat then
        let zoneIdx := st.getAvailableZoneIndex
        if zoneIdx.toNat < maxNumberOfZones then
          { st.setZoneProperties zoneIdx
              (newZone zoneIdx buildingId houseId groupId value deviceType EliotDeviceId) with
            addALight := false }
        else st
      else handleTargetValue st value zoneIdx
    else st
  else if zoneIdx.toNat < maxNumberOfZones then
    if st.global_houseID = houseId then handleTargetValue st value zoneIdx else st
  else st

/-- A field of a request that has to be an integer. -/
def integerField (root : JsonT) (key : String) (noField notAnInteger : Error) :
    Except Error (BitVec 64) :=
  match root.get key with
  | none => .error noField
  | some valueObject =>
    if valueObject.isInteger then .ok valueObject.integerValue else .error notAnInteger

/-- The ids in a request that acts like a frame. -/
def addressFields (root : JsonT) : Except Error (Byte × Byte × Word) := do
  let buildingId ← integerField root "BuildingID" ⟨"No BuildingID field.", 2108⟩
    ⟨"BuildingID is not an integer", 2010⟩
  let houseId ← integerField root "HouseID" ⟨"No HouseID field.", 2036⟩
    ⟨"HouseID is not an integer", 2026⟩
  let groupId ← integerField root "GroupID" ⟨"No GroupID field", 2035⟩
    ⟨"GroupID is not an integer", 2025⟩
  pure (buildingId.setWidth 8, houseId.setWidth 8, groupId.setWidth 16)

/-- The power level in a request that acts like a frame. -/
def powerLevelField (root : JsonT) : Except Error (BitVec 64) :=
  integerField root "PowerLevel" ⟨"No PowerLevel field", 2038⟩
    ⟨"PowerLevel is not an integer", 2045⟩

/-- `HandleTriggerRampCommand`, up to its call of `HandleRampReceived`; the level and the type are
kept in a `word_t`. -/
def triggerRamp (root : JsonT) : Except Error ((Byte × Byte × Word) × Byte × Byte) := do
  let address ← addressFields root
  let level ← powerLevelField root
  let level : Word := level.setWidth 16
  if 100 < level then .error ⟨"Power Level must be between 0 - 100.", 2044⟩
  else
    let deviceType ← integerField root "DeviceType" ⟨"No DeviceType field", 2034⟩
      ⟨"DeviceType is not an integer", 2022⟩
    let deviceType : Word := deviceType.setWidth 16
    if deviceType ∈ [dimmerType, switchType, shadeType, shadeGroupType, fanControllerType,
        networkRemoteType].map (BitVec.setWidth 16) then
      .ok (address, level.setWidth 8, deviceType.setWidth 8)
    else .error ⟨"DeviceType is not a valid type", 2021⟩

/-- `HandleTriggerRampCommand` -/
def handleTriggerRampCommand (st : State) (root : JsonT)
    (EliotDeviceId : CString eliotDeviceIdSize) : State × Option Error :=
  match triggerRamp root with
  | .error error => (st, some error)
  | .ok ((buildingId, houseId, groupId), level, deviceType) =>
    (handleRampReceived st buildingId houseId groupId level deviceType EliotDeviceId, none)

/-- `HandleTargetValueAll`, of a zone. -/
def targetValueAll (value : Byte) (p : ZoneProperties) : ZoneProperties :=
  if p.deviceType = switchType then
    if 49 < value then
      { p with state := true, targetState := true, powerLevel := 100, targetPowerLevel := 100 }
    else { p with state := false, targetState := false }
  else if p.deviceType = dimmerType then
    let p := { p with state := 0 < value, targetState := 0 < value }
    if value = 100 then { p with powerLevel := value, targetPowerLevel := value } else p
  else p

theorem zoneNamed_targetValueAll (value : Byte) (p : ZoneProperties) :
    zoneNamed (targetValueAll value p) = zoneNamed p := by
  simp only [targetValueAll]
  split_ifs <;> rfl

/-- `HandleTriggerRampAllCommand`, with `HandleTargetValueAll` for all zones; the level is kept in
a `json_int_t`. -/
def handleTriggerRampAllCommand (st : State) (root : JsonT) : State × Option Error :=
  match powerLevelField root with
  | .error error => (st, some error)
  | .ok value =>
    if value.toInt < 0 ∨ 100 < value.toInt then
      (st, some ⟨"Power Level must be between 0 - 100.", 2044⟩)
    else
      ({ st with
          zones := st.zones.map (targetValueAll (value.setWidth 8))
            (zoneNamed_targetValueAll _) }, none)

/-! ### Shades -/

/-- `atoi`, of a string that may start with a sign. -/
def atoi (chars : List Byte) : ℤ :=
  let digits (chars : List Byte) : ℕ :=
    (chars.takeWhile fun c => 0x30 ≤ c ∧ c ≤ 0x39).foldl (fun n c => n * 10 + (c.toNat - 0x30)) 0
  match chars.dropWhile fun c => c = 0x20 ∨ (0x09 ≤ c ∧ c ≤ 0x0D) with
  | [] => 0
  | c :: rest =>
    if c = 0x2D then -(digits rest)
    else if c = 0x2B then digits rest
    else digits (c :: rest)

/-- `checkForQmotionIdStringMatch` -/
def checkForQmotionIdStringMatch (st : State) (idString : List Byte) : ℕ :=
  (List.range maxNumberOfZones).findIdx fun zoneIndex => st.idString zoneIndex = idString

/-- What `AddAShade` does not assign. -/
structure ShadeGarbage where
  /-- `AppContextId` -/
  AppContextId : Dword
  /-- `rampRate` -/
  rampRate : Byte
  /-- `roomId` -/
  roomId : Byte
  /-- `EliotDeviceId` -/
  EliotDeviceId : CString eliotDeviceIdSize

/-- The zone that is added for a shade. -/
def newShade (zoneIndex : Byte) (shadeName : List Byte) (isGroup : Bool) (garbage : ShadeGarbage) :
    ZoneProperties where
  AppContextId := garbage.AppContextId
  groupId := 0x1000 + zoneIndex.setWidth 16
  state := true
  targetState := true
  powerLevel := 100
  targetPowerLevel := 100
  rampRate := garbage.rampRate
  deviceType := if isGroup then shadeGroupType else shadeType
  buildingId := 0
  houseId := 0
  roomId := garbage.roomId
  ZoneNameString := nameOf shadeName
  EliotDeviceId := garbage.EliotDeviceId

/-- `AddAShade` -/
def addAShade (st : State) (zoneIndex : Byte) (shadeName identifier : List Byte) (isGroup : Bool)
    (garbage : ShadeGarbage) : State :=
  match st.getZoneProperties zoneIndex with
  | some _ => st
  | none =>
    { st with idString := Function.update st.idString zoneIndex.toNat (identifier.take 38) }
      |>.setZoneProperties zoneIndex (newShade zoneIndex shadeName isGroup garbage)

/-- The end of `HandleDevicesInfoResponse` and of `HandleQmotionGroupsResponse`: a shade with an
unknown identifier is added. -/
def addIfUnknown (st : State) (name identifier : List Byte) (isGroup : Bool)
    (garbage : ShadeGarbage) : State :=
  if maxNumberOfZones ≤ checkForQmotionIdStringMatch st identifier then
    let zoneIndex := st.getAvailableZoneIndex
    if zoneIndex.toNat < maxNumberOfZones then
      addAShade st zoneIndex name identifier isGroup garbage
    else st
  else st

/-- `HandleDevicesInfoResponse` -/
def handleDevicesInfoResponse (st : State) (element : JsonT) (garbage : ShadeGarbage) : State :=
  match element.get "deviceType", element.get "identifier" with
  | some deviceType, some identifier =>
    if deviceType.chars = JsonT.bytesOfString "shade" then
      addIfUnknown st ((element.get "name").elim [] JsonT.chars) identifier.chars false garbage
    else st
  | _, _ => st

/-- `HandleQmotionGroupsResponse` -/
def handleQmotionGroupsResponse (st : State) (element : JsonT) (garbage : ShadeGarbage) : State :=
  match element.get "groupId" with
  | some identifier =>
    let groupIdString :=
      if identifier.isInteger then JsonT.bytesOfString s!"{intOf identifier.integerValue}" else []
    addIfUnknown st ((element.get "name").elim [] JsonT.chars) groupIdString true garbage
  | none => st

/-- The level in a report of a shade, as a `uint8_t`. -/
def reportedLevel (level : JsonT) : Byte := BitVec.ofInt 8 (atoi level.chars)

/-- The level in a report is stored, unless the zone was changed in the same minute. -/
def shadeLevel (changedThisMinute : Bool) (level : JsonT) (p : ZoneProperties) : ZoneProperties :=
  if reportedLevel level ≠ p.powerLevel ∧ !changedThisMinute then
    { p with powerLevel := reportedLevel level }
  else p

/-- The state of the battery in a report is stored if it is new. -/
def shadeBattery (lastLowPowerSetting : Bool) (battery : JsonT) (p : ZoneProperties) :
    ZoneProperties :=
  let currLowPowerSetting : Bool := battery.chars = JsonT.bytesOfString "true"
  if battery.isString ∧ currLowPowerSetting ≠ lastLowPowerSetting ∧ p.deviceType = shadeType then
    { p with state := currLowPowerSetting }
  else p

/-- `HandleQmotionStatusResponse`, with the bits of the zone in `zoneChangedThisMinuteBitArray` and
`lastLowBatteryBitArray`. -/
def handleQmotionStatusResponse (st : State) (element : JsonT)
    (changedThisMinute lastLowPowerSetting : Bool) : State :=
  match element.get "identifier" with
  | none => st
  | some identifier =>
    let zoneIndex := checkForQmotionIdStringMatch st identifier.chars
    match st.zones.get zoneIndex with
    | none => st
    | some p =>
      let p := (element.get "level").elim p fun level => shadeLevel changedThisMinute level p
      let p := (element.get "lowBattery").elim p fun battery =>
        shadeBattery lastLowPowerSetting battery p
      st.setZoneProperties (BitVec.ofNat 8 zoneIndex) p

/-! ### The cloud -/

/-- The zone with a name and a device id that the cloud knows it by. -/
def State.zoneOfDevice (st : State) (deviceId : List Byte) : ℕ :=
  st.zones.find fun p =>
    zoneNamed p && p.EliotDeviceId.chars ≠ [] && p.EliotDeviceId.chars = deviceId

/-- `AdjustDeviceLevel`, of a zone; the sum is a `short`. -/
def adjustLevel (delta : Word) (p : ZoneProperties) : ZoneProperties :=
  let newValue : Word := p.targetPowerLevel.setWidth 16 + delta
  if 100 < newValue.toInt then { p with targetPowerLevel := 100 }
  else if newValue.toInt < 1 then { p with targetState := false }
  else { p with targetPowerLevel := newValue.setWidth 8 }

/-- `AdjustDeviceLevel` -/
def adjustDeviceLevel (st : State) (deviceId : List Byte) (delta : Word)
    (sending : State.Sending) : State :=
  let zoneIndex := st.zoneOfDevice deviceId
  match st.zones.get zoneIndex with
  | some p =>
    (st.setZoneProperties (BitVec.ofNat 8 zoneIndex) (adjustLevel delta p))
      |>.sendRampCommandToTransmitTask (BitVec.ofNat 8 zoneIndex) 101 0 highPriority 0 sending
  | none => st

/-- `SetDeviceState`, of a zone; a negative state or level is none. -/
def setState (state level : Word) (p : ZoneProperties) : ZoneProperties :=
  let p := if 0 ≤ state.toInt then { p with targetState := state.setWidth 8 ≠ (0 : Byte) } else p
  let p := if 0 ≤ level.toInt then { p with targetPowerLevel := level.setWidth 8 } else p
  { p with rampRate := 50 }

/-- `SetDeviceState`; a shade is commanded without the queue. -/
def setDeviceState (st : State) (deviceId : List Byte) (state level : Word)
    (sending : State.Sending) : State :=
  let zoneIndex := st.zoneOfDevice deviceId
  match st.zones.get zoneIndex with
  | some p =>
    let p := setState state level p
    let st := st.setZoneProperties (BitVec.ofNat 8 zoneIndex) p
    if isShade p then st
    else st.sendRampCommandToTransmitTask (BitVec.ofNat 8 zoneIndex) 101 0 highPriority 0 sending
  | none => st

/-- A zone is given the id under which the cloud knows it. -/
def setZoneDeviceId (st : State) (zoneIndex : Byte) (id : CString eliotDeviceIdSize) : State :=
  match st.getZoneProperties zoneIndex with
  | some p => st.setZoneProperties zoneIndex { p with EliotDeviceId := id }
  | none => st

end House

end Lcm
