import Lcm.House.Zones
import Lcm.Schedule.AdjustTriggers

/-!
# The scenes of the house

The requests that create, change and delete scenes.  The clock is left out: what
`calculateNewTrigger` makes of the time at which a scene is triggered is a parameter.

## Main definitions

* `verifySceneZoneList` : the zones in a request.
* `handleCreateScene`, `handleSetSceneProperties`, `handleDeleteScene` : the requests.

## Main results

* `calculateNewTrigger_eq_set` : `calculateNewTrigger` changes nothing but that time.
-/

namespace Lcm

namespace House

open Scenes SceneControllers
open Services (Error)

/-! ### The list of zones -/

/-- A zone of a list that names a zone again. -/
def checkDuplicate (zoneId : Byte) (later : JsonT) : Except Error Unit :=
  match later.get "ZID" with
  | some (.integer value) =>
    if zoneId.setWidth 64 = value then
      .error ⟨s!"ZoneList, Zone ID duplicate {zoneId.toNat}.", 2102⟩
    else .ok ()
  | _ => .error ⟨"ZoneList, Zone ID must be an integer.", 2103⟩

/-- The first loop of `VerifySceneZoneList`: the zones exist, and each is named once. -/
def checkZones (get : Byte → Option ZoneProperties) : List JsonT → Except Error Unit
  | [] => .ok ()
  | element :: elements =>
    match element.get "ZID" with
    | some (.integer value) =>
      let zoneId : Byte := value.setWidth 8
      match get zoneId with
      | none => .error ⟨s!"ZoneList, Could not get properties for zone id {zoneId.toNat}.", 2095⟩
      | some p =>
        if !zoneNamed p then .error ⟨s!"ZoneList, Zone ID {zoneId.toNat} does not exist.", 2101⟩
        else do
          let _ ← elements.mapM (checkDuplicate zoneId)
          checkZones get elements
    | _ => .error ⟨"ZoneList, Zone ID must be an integer.", 2103⟩

/-- The index of a zone in a list. -/
def zoneIdOf (element : JsonT) : Except Error Byte :=
  match element.get "ZID" with
  | some (.integer value) =>
    if 100 ≤ value.toInt then .error ⟨"ZoneList, Zone ID must be less then 100.", 2104⟩
    else .ok (value.setWidth 8)
  | _ => .error ⟨"ZoneList, Zone ID must be an integer.", 2103⟩

/-- The level of a zone in a list. -/
def levelOf (element : JsonT) : Except Error Byte :=
  match element.get "Lvl" with
  | none => .ok 0
  | some (.integer value) =>
    if 100 < value.toInt ∨ value = 0 then
      .error ⟨"ZoneList, Power Level must be 1 - 100.", 2096⟩
    else .ok (value.setWidth 8)
  | some _ => .error ⟨"ZoneList, Power Level must be an integer.", 2097⟩

/-- The ramp rate of a zone in a list. -/
def rampRateOf (element : JsonT) : Except Error Byte :=
  match element.get "RR" with
  | none => .ok 50
  | some (.integer value) =>
    if 255 < value.toInt ∨ value.toInt < 0 then
      .error ⟨"ZoneList, Ramp Rate must be 0 - 255.", 2098⟩
    else .ok (value.setWidth 8)
  | some _ => .error ⟨"ZoneList, RampRate must be an integer.", 2099⟩

/-- The state of a zone in a list. -/
def stateOf (element : JsonT) : Except Error Byte :=
  match element.get "St" with
  | none => .ok 0
  | some value =>
    if value.isBoolean then .ok (if value.isTrue then 1 else 0)
    else .error ⟨"ZoneList, State must be boolean.", 2100⟩

/-- A zone in a list; the fields that are missing have been cleared before. -/
def zoneInScene (element : JsonT) : Except Error ZoneInScene := do
  let zoneId ← zoneIdOf element
  let powerLevel ← levelOf element
  let rampRate ← rampRateOf element
  let state ← stateOf element
  pure ⟨zoneId, powerLevel, rampRate, state⟩

/-- The last loop of `VerifySceneZoneList`. -/
def zoneDataOf : (elements : List JsonT) →
    Except Error { zoneData : List ZoneInScene // zoneData.length = elements.length }
  | [] => .ok ⟨[], rfl⟩
  | element :: elements => do
    let zone ← zoneInScene element
    let ⟨zoneData, hlength⟩ ← zoneDataOf elements
    pure ⟨zone :: zoneData, congrArg Nat.succ hlength⟩

/-- `VerifySceneZoneList` -/
def verifySceneZoneList (get : Byte → Option ZoneProperties) (setFlag : Bool) (valueObject : JsonT)
    (p : SceneProperties) : Except Error SceneProperties :=
  let elements := valueObject.elements
  if elements = [] then .error ⟨"No elements in 'ZoneList' array.", 1005⟩
  else if hsize : maxZonesInScene < elements.length then
    .error ⟨"Too many zones in the scene.", 1006⟩
  else do
    if !setFlag then checkZones get elements
    let ⟨zoneData, hlength⟩ ← zoneDataOf elements
    pure
      (if setFlag then { p with zoneData := zoneData, fits := hlength ▸ Nat.le_of_not_lt hsize }
      else p)

/-! ### The other properties -/

/-- A property that has to be an integer; the setter gets it if `setFlag`. -/
def integerProperty (setFlag : Bool) (valueObject : JsonT) (notAnInteger : Error)
    (check : BitVec 64 → Option Error) (set : BitVec 64 → SceneProperties → SceneProperties)
    (p : SceneProperties) : Except Error SceneProperties :=
  if !valueObject.isInteger then .error notAnInteger
  else
    match check valueObject.integerValue with
    | some error => .error error
    | none => .ok (if setFlag then set valueObject.integerValue p else p)

/-- `Frequency`, kept in a byte. -/
def frequencyError (value : BitVec 64) : Option Error :=
  if Schedule.EVERY_WEEK < (value.setWidth 8 : Byte) then
    some ⟨"Frequency index too great", 2023⟩
  else none

/-- `DayBits`, kept in a byte. -/
def dayBitsError (value : BitVec 64) : Option Error :=
  if (0x80 : Byte) ≤ value.setWidth 8 ∨ (value.setWidth 8 : Byte) = 0 then
    some ⟨"DayBits invalid", 2017⟩
  else none

/-- `TriggerType`, kept in a byte. -/
def triggerError (value : BitVec 64) : Option Error :=
  if Schedule.SUNSET < (value.setWidth 8 : Byte) then some ⟨"Trigger index too great", 2085⟩
  else none

/-- `Delta` -/
def deltaError (value : BitVec 64) : Option Error :=
  if 120 < value.toInt ∨ value.toInt < -120 then some ⟨"Delta must be -120 - 120.", 2019⟩
  else none

/-- A time on the minute. -/
def onMinute (value : BitVec 64) : Dword :=
  let triggerTime : Dword := value.setWidth 32
  triggerTime - triggerTime % 60

/-- The name of a scene. -/
def sceneNameProperty (setFlag : Bool) (valueObject : JsonT) (p : SceneProperties) :
    Except Error SceneProperties :=
  if !valueObject.isString then .error ⟨"PropertyList, Name must be string.", 2060⟩
  else .ok
    (if setFlag then
      { p with SceneNameString := sanitizedName valueObject.chars, fits := p.zones_fit }
    else p)

/-- `HandleIndividualSceneProperty` -/
def handleIndividualSceneProperty (get : Byte → Option ZoneProperties) (setFlag : Bool)
    (p : SceneProperties) (property : String × JsonT) : Except Error SceneProperties :=
  let valueObject := property.2
  if property.1 = "Name" then sceneNameProperty setFlag valueObject p
  else if property.1 = "ZoneList" then
    if !valueObject.isArray then .error ⟨"Zone List has to be an array.", 2094⟩
    else verifySceneZoneList get setFlag valueObject p
  else if property.1 = "TriggerTime" then
    integerProperty setFlag valueObject ⟨"Trigger Time must be integer.", 2086⟩ (fun _ => none)
      (fun value p => { p with nextTriggerTime := onMinute value, fits := p.zones_fit }) p
  else if property.1 = "Frequency" then
    integerProperty setFlag valueObject ⟨"Frequency must be a integer.", 2024⟩ frequencyError
      (fun value p => { p with freq := value.setWidth 8, fits := p.zones_fit }) p
  else if property.1 = "DayBits" then
    integerProperty setFlag valueObject ⟨"DayBits must be a integer.", 2018⟩ dayBitsError
      (fun value p => { p with days := value.setWidth 8, fits := p.zones_fit }) p
  else if property.1 = "TriggerType" then
    integerProperty setFlag valueObject ⟨"Trigger Type must be a integer.", 2087⟩ triggerError
      (fun value p => { p with trigger := value.setWidth 8, fits := p.zones_fit }) p
  else if property.1 = "Delta" then
    integerProperty setFlag valueObject ⟨"Delta must be integer", 2020⟩ deltaError
      (fun value p => { p with delta := value.setWidth 8, fits := p.zones_fit }) p
  else if property.1 = "Skip" then
    if !valueObject.isBoolean then .error ⟨"Skip must be a boolean", 2081⟩
    else .ok
      (if setFlag then
        { p with skipNext := if valueObject.isTrue then 1 else 0, fits := p.zones_fit }
      else p)
  else .error ⟨"Invalid 'Property' in List.", 2028⟩

/-- A field of the properties that has to be an integer, if it is there. -/
def optionalInteger (propertyList : JsonT) (key : String) (notAnInteger : Error)
    (check : BitVec 64 → Option Error) : Except Error (Option (BitVec 64)) :=
  match propertyList.get key with
  | none => .ok none
  | some valueObject =>
    if !valueObject.isInteger then .error notAnInteger
    else
      match check valueObject.integerValue with
      | some error => .error error
      | none => .ok (some valueObject.integerValue)

/-- `CheckFreqDaybits`; the bit `spare7` is never at least `0x80`. -/
def checkFreqDaybits (propertyList : JsonT) : Except Error Unit := do
  let freq ← optionalInteger propertyList "Frequency" ⟨"Frequency must be a integer.", 2024⟩
    frequencyError
  let dayBits ← optionalInteger propertyList "DayBits" ⟨"DayBits must be a integer.", 2018⟩
    fun value =>
      if (value.setWidth 8 : Byte) = 0 then some ⟨"DayBits invalid", 2017⟩ else none
  let everyWeek := (freq.elim 0 fun value => value.setWidth 8) = Schedule.EVERY_WEEK
  if everyWeek ∧ dayBits.isNone then .error ⟨"Need Days Bits when Freq:EVERY WEEK", 2031⟩
  else if ¬ everyWeek ∧ dayBits.isSome then
    .error ⟨"Need Freq:EVERY WEEK with Day Bits", 2032⟩
  else pure ()

/-- Both passes over the properties in a request. -/
def editScene (get : Byte → Option ZoneProperties) (root : JsonT) (p : SceneProperties) :
    Except Error SceneProperties :=
  match root.get "PropertyList" with
  | some (.object members) => do
    checkFreqDaybits (.object members)
    let _ ← members.foldlM (handleIndividualSceneProperty get false) p
    members.foldlM (handleIndividualSceneProperty get true) p
  | _ => .error ⟨"Invalid 'PropertyList'.", 2029⟩

/-! ### Requests -/

/-- The scene in a request that changes it; the index is a `byte_t`, the limit is checked before. -/
def sceneOfRequest (st : State) (root : JsonT) : Except Error (Byte × SceneProperties) :=
  match root.get "SID" with
  | none => .error ⟨"No Scene ID field.", 2039⟩
  | some (.integer value) =>
    if 100 ≤ value.toInt then .error ⟨"Scene ID must be less then 100.", 2077⟩
    else
      let sceneIndex : Byte := value.setWidth 8
      match st.getSceneProperties sceneIndex with
      | none =>
        .error ⟨s!"Could not get scene properties for scene index {sceneIndex.toNat}.", 2013⟩
      | some p => .ok (sceneIndex, p)
  | some _ => .error ⟨"Scene ID must be an integer", 2075⟩

/-- `HandleSetSceneProperties`: the state and the error response. -/
def handleSetSceneProperties (st : State) (root : JsonT) (nextTriggerTime : Dword) :
    State × Option Error :=
  let edited := do
    let (sceneIndex, p) ← sceneOfRequest st root
    let p ← editScene st.getZoneProperties root p
    pure (sceneIndex, p)
  match edited with
  | .error error => (st, some error)
  | .ok (sceneIndex, p) =>
    (st.setSceneProperties sceneIndex
      { p with nextTriggerTime := nextTriggerTime, fits := p.zones_fit }, appContextError root)

/-- What a new scene is before its properties are set; the rest is not initialized. -/
def newScene (garbage : SceneProperties) : SceneProperties :=
  { garbage with
    running := 0
    skipNext := 0
    zoneData := []
    fits := Nat.zero_le _
    SceneNameString := CString.empty maxSizeNameString_pos }

/-- `HandleCreateScene`: the state and the error response. -/
def handleCreateScene (st : State) (root : JsonT) (garbage : SceneProperties)
    (nextTriggerTime : Dword) : State × Option Error :=
  let sceneIndex := st.getAvailableSceneIndex
  if sceneIndex.toNat < maxNumberOfScenes then
    match editScene st.getZoneProperties root (newScene garbage) with
    | .error error => (st, some error)
    | .ok p =>
      (st.setSceneProperties sceneIndex
        { p with nextTriggerTime := nextTriggerTime, fits := p.zones_fit }, appContextError root)
  else (st, some ⟨"No Space left for Scene Addition", 1000⟩)

/-- The buttons of a scene controller that have a scene lose it. -/
def removeScene (sceneIndex : Byte) (p : SceneControllerProperties) : SceneControllerProperties :=
  { p with
    bank := fun bankArrayIndex =>
      if (p.bank bankArrayIndex).sceneId = sceneIndex then
        { p.bank bankArrayIndex with sceneId := 0xff }
      else p.bank bankArrayIndex }

/-- `DeleteSceneFromSceneController`, without the commands for the scene controllers -/
def deleteSceneFromSceneController (st : State) (sceneIndex : Byte) : State :=
  { st with sceneControllers := st.sceneControllers.map (removeScene sceneIndex) fun _ => rfl }

/-- The errors of `HandleDeleteScene`. -/
def deleteSceneErrors : LookupErrors where
  noField := ⟨"No Scene ID field.", 2039⟩
  notAnInteger := ⟨"Scene ID must be an integer", 2075⟩
  tooLarge _ := ⟨"Scene ID must be less then 100.", 2077⟩
  notGot index := ⟨s!"Could not get scene properties for zone {index.toNat}.", 2014⟩
  notNamed value := ⟨s!"Scene {(value.setWidth 8).toNat} does not exist.", 2076⟩

/-- `HandleDeleteScene`: the state and the error response. -/
def handleDeleteScene (st : State) (root : JsonT) : State × Option Error :=
  match lookup st.getSceneProperties sceneNamed maxNumberOfScenes deleteSceneErrors
      (root.get "SID") with
  | .error error => (st, some error)
  | .ok (sceneIndex, p) =>
    let st :=
      st.setSceneProperties sceneIndex
        { p with SceneNameString := CString.empty maxSizeNameString_pos, fits := p.zones_fit }
    (deleteSceneFromSceneController st sceneIndex, appContextError root)

/-- `adjustTriggers` -/
def adjustTriggers (st : State) (adjustment : Dword) : State :=
  { st with
    scenes := st.scenes.map (Schedule.adjusted adjustment) fun p => by
      rw [Schedule.adjusted]
      split <;> rfl }

/-- A scene is given the id under which the cloud knows it. -/
def setSceneDeviceId (st : State) (sceneIndex : Byte) (id : CString eliotDeviceIdSize) : State :=
  match st.getSceneProperties sceneIndex with
  | some p => st.setSceneProperties sceneIndex { p with EliotDeviceId := id }
  | none => st

/-- `calculateNewTrigger` changes nothing but the time at which the scene is triggered. -/
theorem calculateNewTrigger_eq_set
    {getNextSunTimes : Schedule.DateStruct → Bool → Schedule.DateStruct} {fuel : ℕ}
    {p p' : SceneProperties} {rtcTime : Schedule.TimeStruct}
    (h : Schedule.calculateNewTrigger getNextSunTimes fuel p rtcTime = some p') :
    p' = { p with nextTriggerTime := p'.nextTriggerTime } := by
  unfold Schedule.calculateNewTrigger at h
  dsimp only at h
  obtain ⟨-, h⟩ | ⟨-, h⟩ := ite_eq_iff.1 h
  · obtain ⟨newTriggerDate, -, h⟩ := Option.bind_eq_some_iff.1 h
    obtain rfl := Option.some.inj h
    rfl
  · obtain rfl := Option.some.inj h
    rfl

end House

end Lcm
