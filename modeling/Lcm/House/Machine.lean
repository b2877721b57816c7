import Lcm.House.Execution
import Lcm.Run.Basic

/-!
# The house as a machine

Each event is one operation on the zones, the scenes and the scene controllers, from its first
statement to its last one, whichever task carries it out.

## Main definitions

* `Event`, `next`, `machine` : the operations, and the machine.
* `ReceivedCall` : what a frame can make the receive task call.
* `reboot`, `clearFlash` : a start, and the factory reset before one.

## Main results

* `calls_scaled` : all that the receive task calls is of that form.
-/

namespace Lcm

namespace House

open Scenes SceneControllers
open Services (Error)

/-! ### Frames -/

/-- A level is a percentage, and a scene is adjusted by five percent. -/
def CallScaled : Rf.Call → Prop
  | .handleRampReceived _ _ _ value _ => value ≤ maxPowerLevel
  | .handleSceneControllerSceneAdjust _ _ _ _ value _ _ => value = Rf.percentChangeForAdjust
  | _ => True

/-- What a frame can make the receive task call. -/
abbrev ReceivedCall := { call : Rf.Call // CallScaled call }

theorem percentOfPower_le (power : Byte) : Rf.percentOfPower power ≤ maxPowerLevel := by
  revert power
  decide +kernel

theorem processCommand_scaled (s : Rf.Receiver) (timeToLive : Byte) (a : Rf.Address) (packIdx : ℕ)
    (command : Rf.Command) :
    ∀ call ∈ (Rf.processCommand s timeToLive a packIdx command).value.2, CallScaled call := by
  cases command with
  | ramp =>
    simp only [Rf.processCommand, Reading.value_bind, Reading.value_ite, Reading.value_pure]
    split
    · exact fun call hcall => absurd hcall List.not_mem_nil
    · intro call hcall
      obtain rfl := List.mem_singleton.1 hcall
      exact percentOfPower_le _
  | status =>
    intro call hcall
    obtain rfl := List.mem_singleton.1 hcall
    trivial
  | sceneControllerMasterOff =>
    simp only [Rf.processCommand, Reading.value_bind, Reading.value_ite, Reading.value_pure]
    split
    · intro call hcall
      obtain rfl := List.mem_singleton.1 hcall
      trivial
    · exact fun call hcall => absurd hcall List.not_mem_nil
  | sceneRequested =>
    simp only [Rf.processCommand, Reading.value_bind, Reading.value_ite, Reading.value_pure]
    split
    · intro call hcall
      obtain rfl := List.mem_singleton.1 hcall
      trivial
    · exact fun call hcall => absurd hcall List.not_mem_nil
  | sceneAdjust =>
    simp only [Rf.processCommand, Reading.value_bind, Reading.value_ite, Reading.value_pure]
    split
    · intro call hcall
      obtain rfl := List.mem_singleton.1 hcall
      rfl
    · exact fun call hcall => absurd hcall List.not_mem_nil

/-- **All that the receive task calls is of that form.** -/
theorem calls_scaled (s : Rf.Receiver) :
    ∀ call ∈ (Rf.processReceivedPacket s).value.2, CallScaled call := by
  have hnil : ∀ call ∈ ([] : List Rf.Call), CallScaled call := fun _ h => absurd h List.not_mem_nil
  simp only [Rf.processReceivedPacket, Reading.value_bind, Reading.value_ite, Reading.value_pure]
  split_ifs
  · intro call hcall
    obtain rfl := List.mem_singleton.1 hcall
    trivial
  · simp only [Rf.processValidPacket, Reading.value_bind, Reading.value_ite, Reading.value_pure]
    split_ifs
    · split
      · exact processCommand_scaled _ _ _ _ _
      · exact hnil
    · exact hnil
    · exact hnil
  · exact hnil

/-- What is not assigned, and what the environment decides, when a frame is handled. -/
structure CallEnv where
  /-- `EliotDeviceId` of a new zone. -/
  EliotDeviceId : CString eliotDeviceIdSize
  /-- The rest of a new scene controller. -/
  garbage : SceneControllerGarbage
  /-- About the scenes that are executed. -/
  execution : Fin maxScenesInSceneController → ExecutionEnv

/-- What a frame makes the receive task call. -/
def handleCall (st : State) (env : CallEnv) : Rf.Call → State
  | .handleRampReceived buildingId houseId groupId value deviceType =>
    handleRampReceived st buildingId houseId groupId value deviceType env.EliotDeviceId
  | .handleSceneControllerMasterOff buildingId houseId groupId _ rampRate =>
    handleSceneControllerMasterOff st buildingId houseId groupId rampRate env.execution env.garbage
  | .handleSceneControllerSceneRequest buildingId houseId groupId bankIndex state _ rampRate =>
    handleSceneControllerSceneRequest st buildingId houseId groupId bankIndex state rampRate
      (env.execution 0) env.garbage
  | .handleSceneControllerSceneAdjust buildingId houseId groupId sceneIdx value change rampRate =>
    handleSceneControllerSceneAdjust st buildingId houseId groupId sceneIdx value change rampRate
      (env.execution 0) env.garbage
  | _ => st

/-! ### The system -/

/-- `AddALight`, of `HandleIndividualSystemProperty`: the state and the error response. -/
def addALightProperty (st : State) (valueObject : JsonT) : State × Option Error :=
  if !valueObject.isBoolean then
    (st, some ⟨"PropertyList, AddALight must be boolean.", 2046⟩)
  else if st.getAvailableZoneIndex.toNat = maxNumberOfZones then
    (st, some ⟨"PropertyList, AddALight:No slots left in array.", 1002⟩)
  else ({ st with addALight := valueObject.isTrue }, none)

/-- `AddASceneController`, of `HandleIndividualSystemProperty`: the state and the error
response. -/
def addASceneControllerProperty (st : State) (valueObject : JsonT) : State × Option Error :=
  if !valueObject.isBoolean then
    (st, some ⟨"PropertyList, AddASceneController must be boolean.", 2047⟩)
  else if st.getAvailableSceneControllerIndex.toNat = maxNumberOfSceneControllers then
    (st, some ⟨"PropertyList, AddASceneController:No slots left in array.", 1001⟩)
  else ({ st with addASceneController := valueObject.isTrue }, none)

/-- A house id is loaded only if there is none yet. -/
def loadHouseID (global_houseID : Byte) (houseId : Option Byte) : Byte :=
  if global_houseID = 0 then houseId.getD 0 else global_houseID

/-- `LoadZonesFromFlash` and `LoadSceneControllersFromFlash`: the house id, which is 0 before. -/
def loadedHouseID (st : State) : Byte :=
  let zoneIds := (List.range maxNumberOfZones).map fun i =>
    (st.zones.get i).map ZoneProperties.houseId
  let sceneControllerIds := (List.range maxNumberOfSceneControllers).map fun i =>
    (st.sceneControllers.get i).map SceneControllerProperties.houseId
  (zoneIds ++ sceneControllerIds).foldl loadHouseID 0

/-- A start: `addASceneController` and the ids of the shades are whatever was saved last.  The
types of the shade groups of older firmware are left out: this firmware never marks any. -/
def reboot (st : State) (addASceneController : Bool) (idString : ℕ → List Byte) : State where
  zones := st.zones.map Zones.zones.restarted fun _ => rfl
  scenes := st.scenes.map Scenes.scenes.restarted fun _ => rfl
  sceneControllers := st.sceneControllers
  global_houseID := loadedHouseID st
  addALight := false
  addASceneController := addASceneController
  idString := idString
  transmitQueue := []
  runs := st.runs

/-- `ClearFlash`, which does not touch the house id. -/
def clearFlash (st : State) : State :=
  { st with
    zones := Table.empty
    scenes := Table.empty
    sceneControllers := Table.empty
    addALight := false
    addASceneController := false
    idString := fun _ => [] }

/-! ### The machine -/

/-- The operations. -/
inductive Event
  /-- `HandleSetZoneProperties` -/
  | setZoneProperties (root : JsonT) (errorFlag : Bool) (sending : State.Sending)
  /-- `HandleDeleteZone` -/
  | deleteZone (root : JsonT)
  /-- `HandleTriggerRampCommand` -/
  | triggerRamp (root : JsonT) (EliotDeviceId : CString eliotDeviceIdSize)
  /-- `HandleTriggerRampAllCommand` -/
  | triggerRampAll (root : JsonT)
  /-- `HandleCreateScene` -/
  | createScene (root : JsonT) (garbage : SceneProperties) (nextTriggerTime : Dword)
  /-- `HandleSetSceneProperties` -/
  | setSceneProperties (root : JsonT) (nextTriggerTime : Dword)
  /-- `HandleDeleteScene` -/
  | deleteScene (root : JsonT)
  /-- `HandleRunScene` -/
  | runScene (root : JsonT) (env : ExecutionEnv)
  /-- `HandleSetSceneControllerProperties` -/
  | setSceneControllerProperties (root : JsonT) (commands : Commands)
  /-- `HandleDeleteSceneController` -/
  | deleteSceneController (root : JsonT) (commands : Commands)
  /-- `HandleTriggerSceneControllerCommand` -/
  | triggerSceneController (root : JsonT) (env : ExecutionEnv) (garbage : SceneControllerGarbage)
  /-- The system property `AddALight` is set. -/
  | addALight (valueObject : JsonT)
  /-- The time to add a light is over, or a shade is added instead. -/
  | resetAddALight
  /-- The system property `AddASceneController` is set. -/
  | addASceneController (valueObject : JsonT)
  /-- A frame is received. -/
  | received (call : ReceivedCall) (env : CallEnv)
  /-- `checkScenes` -/
  | checkScenes (env : ℕ → CheckEnv)
  /-- `adjustTriggers` -/
  | adjustTriggers (adjustment : Dword)
  /-- `HandleDevicesInfoResponse` -/
  | devicesInfo (element : JsonT) (garbage : ShadeGarbage)
  /-- `HandleQmotionGroupsResponse` -/
  | qmotionGroups (element : JsonT) (garbage : ShadeGarbage)
  /-- `HandleQmotionStatusResponse` -/
  | qmotionStatus (element : JsonT) (changedThisMinute lastLowPowerSetting : Bool)
  /-- `AdjustDeviceLevel` -/
  | adjustDeviceLevel (deviceId : List Byte) (delta : Word) (sending : State.Sending)
  /-- `SetDeviceState` -/
  | setDeviceState (deviceId : List Byte) (state level : Word) (sending : State.Sending)
  /-- `SetSceneState` -/
  | setSceneState (deviceId : List Byte) (state : Bool) (env : ExecutionEnv)
  /-- A zone is added to the cloud. -/
  | setZoneDeviceId (zoneIndex : Byte) (id : CString eliotDeviceIdSize)
  /-- A scene is added to the cloud. -/
  | setSceneDeviceId (sceneIndex : Byte) (id : CString eliotDeviceIdSize)
  /-- The transmit task processes a message. -/
  | transmit (attempts : List Objects)
  /-- The system is restarted. -/
  | reboot (addASceneController : Bool) (idString : ℕ → List Byte)
  /-- `ClearFlash` -/
  | clearFlash

/-- The state after an operation. -/
def next (st : State) : Event → State
  | .setZoneProperties root errorFlag sending =>
    (handleSetZoneProperties st root errorFlag sending).1
  | .deleteZone root => (handleDeleteZone st root).1
  | .triggerRamp root EliotDeviceId => (handleTriggerRampCommand st root EliotDeviceId).1
  | .triggerRampAll root => (handleTriggerRampAllCommand st root).1
  | .createScene root garbage nextTriggerTime =>
    (handleCreateScene st root garbage nextTriggerTime).1
  | .setSceneProperties root nextTriggerTime =>
    (handleSetSceneProperties st root nextTriggerTime).1
  | .deleteScene root => (handleDeleteScene st root).1
  | .runScene root env => (handleRunScene st root env).1
  | .setSceneControllerProperties root commands =>
    (handleSetSceneControllerProperties st root commands).1
  | .deleteSceneController root commands => (handleDeleteSceneController st root commands).1
  | .triggerSceneController root env garbage =>
    (handleTriggerSceneControllerCommand st root env garbage).1
  | .addALight valueObject => (addALightProperty st valueObject).1
  | .resetAddALight => { st with addALight := false }
  | .addASceneController valueObject => (addASceneControllerProperty st valueObject).1
  | .received call env => handleCall st env call
  | .checkScenes env => checkScenes env st
  | .adjustTriggers adjustment => adjustTriggers st adjustment
  | .devicesInfo element garbage => handleDevicesInfoResponse st element garbage
  | .qmotionGroups element garbage => handleQmotionGroupsResponse st element garbage
  | .qmotionStatus element changedThisMinute lastLowPowerSetting =>
    handleQmotionStatusResponse st element changedThisMinute lastLowPowerSetting
  | .adjustDeviceLevel deviceId delta sending => adjustDeviceLevel st deviceId delta sending
  | .setDeviceState deviceId state level sending => setDeviceState st deviceId state level sending
  | .setSceneState deviceId state env => setSceneState st deviceId state env
  | .setZoneDeviceId zoneIndex id => setZoneDeviceId st zoneIndex id
  | .setSceneDeviceId sceneIndex id => setSceneDeviceId st sceneIndex id
  | .transmit attempts => transmit attempts st
  | .reboot addASceneController idString => reboot st addASceneController idString
  | .clearFlash => clearFlash st

/-- **The machine**: it starts with nothing stored. -/
def machine : Machine State Event where
  init st := st = State.initial
  step st e := some (next st e)

/-! ### Events in which nothing fails -/

/-- Scene properties that happen to be 0. -/
def zeroScene : SceneProperties where
  zoneData := []
  fits := Nat.zero_le _
  nextTriggerTime := 0
  freq := 0
  trigger := 0
  days := 0
  delta := 0
  skipNext := 0
  SceneNameString := CString.empty maxSizeNameString_pos
  running := 0
  EliotDeviceId := CString.empty eliotDeviceIdSize_pos

/-- All messages are sent and all objects allocated. -/
def freeRound : Round := ⟨⟨true, true⟩, ⟨true, true⟩⟩

/-- The same in all rounds. -/
def freeExecution : ExecutionEnv := ⟨⟨true, true⟩, fun _ => freeRound⟩

/-- The same for a frame, and what is not assigned happens to be 0. -/
def freeCall : CallEnv := ⟨CString.empty eliotDeviceIdSize_pos, ⟨0, 0⟩, fun _ => freeExecution⟩

/-- The power of the frames is at most full. -/
theorem fullPower_le : (100 : Byte) ≤ 100 := BitVec.le_refl _

/-- A request with properties. -/
def propertiesRequest (index : String × BitVec 64) (members : List (String × JsonT)) : JsonT :=
  .object [(index.1, .integer index.2), ("PropertyList", .object members)]

/-- A scene is created. -/
def createScene (members : List (String × JsonT)) : Event :=
  .createScene (.object [("PropertyList", .object members)]) zeroScene 0

end House

end Lcm
