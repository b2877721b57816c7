import Lcm.House.SceneControllers

/-!
# The execution of scenes

`ExecuteScene` sets the targets of the zones of a scene and queues a ramp for each of them; the
transmit task then processes one ramp after the other.  The task that executes a scene holds
`ScenePropMutex`, with its own copy of the properties of the scene, which it stores at the end.

## Main definitions

* `executeScene` : the function of the source, in one step.
* `visitZone`, `missingZone`, `markToggled` : its parts.
* `handleRunScene`, `checkScene`, `handleSceneControllerMasterOff`,
  `handleSceneControllerSceneRequest`, `handleSceneControllerSceneAdjust`, `setSceneState` : what
  executes scenes.
* `transmitRamp`, `finishScene` : the parts of `HandleTransmitTaskMessage`.

## Main results

* `transmitZone_eq` : what the transmit task makes of a zone.
* `prepareRamp_eq` : the frame that it sends.
-/

namespace Lcm

namespace House

open Scenes SceneControllers
open Services (Error)

/-! ### `ExecuteScene` -/

/-- The arguments of `ExecuteScene`, without the copy of the properties. -/
structure Execution where
  /-- `sceneIndex` -/
  sceneIndex : Byte
  /-- `appContextId` -/
  appContextId : Dword
  /-- `activate` -/
  activate : Bool
  /-- `value` -/
  value : Byte
  /-- `change` -/
  change : Byte
  /-- `rampRate`; a variable of the function has the same name, and hides it. -/
  rampRate : Byte
  deriving DecidableEq

/-- The variable `rampRate`: the ramp rate of the first zone, 100 instead of 0. -/
def sceneRampRate (zoneData : List ZoneInScene) : Byte :=
  let rampRate := zoneData.head?.elim 0 ZoneInScene.rampRate
  if rampRate = 0 then 100 else rampRate

/-- The targets that a scene has for a zone. -/
def takeTargets (zone : ZoneInScene) (p : ZoneProperties) : ZoneProperties :=
  { p with
    targetPowerLevel := zone.powerLevel, targetState := zone.state ≠ 0, rampRate := zone.rampRate }

/-- The targets of a zone when a scene is activated, or adjusted if `value` is not 0. -/
def activateZone (x : Execution) (zone : ZoneInScene) (p : ZoneProperties) : ZoneProperties :=
  if x.change = 1 then
    let p :=
      if x.value ≠ 0 then
        if p.state then { p with targetPowerLevel := p.powerLevel + x.value } else p
      else takeTargets zone p
    if maxPowerLevel < p.targetPowerLevel then { p with targetPowerLevel := maxPowerLevel } else p
  else if x.value ≠ 0 then
    if p.state then
      { p with
        targetPowerLevel :=
          if 0 < (p.powerLevel - x.value).toInt then p.powerLevel - x.value else 0 }
    else p
  else takeTargets zone p

/-- The targets of a zone when a scene is deactivated. -/
def deactivateZone (rampRate : Byte) (zone : ZoneInScene) (p : ZoneProperties) : ZoneProperties :=
  let p :=
    if zone.state ≠ 0 then { p with targetState := false }
    else { p with targetPowerLevel := zone.powerLevel, targetState := zone.state ≠ 0 }
  if rampRate = Rf.slowDeactivationRampValue then
    { p with rampRate := Rf.slowDeactivationRampValue }
  else p

/-- The targets of a zone. -/
def executeZone (x : Execution) (rampRate : Byte) (zone : ZoneInScene) (p : ZoneProperties) :
    ZoneProperties :=
  { (if x.activate then activateZone x zone p else deactivateZone rampRate zone p) with
    AppContextId := x.appContextId }

/-- `scenePercent` -/
def scenePercent (zoneIndex numZonesInScene : ℕ) : Byte :=
  BitVec.ofNat 8 ((zoneIndex + 1) * 100 / numZonesInScene)

/-- A round of the loop, for a zone that exists, up to the command. -/
def visitZone (x : Execution) (rampRate : Byte) (zone : ZoneInScene) (st : State) :
    Option State :=
  (st.getZoneProperties zone.zoneId).map fun p =>
    st.setZoneProperties zone.zoneId (executeZone x rampRate zone p)

/-- What is allocated for a broadcast. -/
structure Objects where
  /-- `broadcastObject` -/
  broadcastObject : Bool
  /-- `propObject` -/
  propObject : Bool
  deriving DecidableEq

/-- Both objects are allocated. -/
def Objects.both (objects : Objects) : Bool := objects.broadcastObject && objects.propObject

/-- A round of the loop, for a zone that does not exist: `running` of the copy. -/
def missingZone (percent : Byte) (objects : Objects) (running : Byte) : Byte :=
  if percent = 100 ∧ objects.both then 0 else running

/-- What the environment decides in a round of the loop. -/
structure Round where
  /-- About the command. -/
  sending : State.Sending
  /-- About the broadcast. -/
  objects : Objects

/-- The loop over the zones of a scene, from `zoneIndex` on: the state, and `running` of the
copy. -/
def executeZones (x : Execution) (rampRate : Byte) (number numZonesInScene : ℕ)
    (rounds : ℕ → Round) : ℕ → List ZoneInScene → State → Byte → State × Byte
  | _, [], st, running => (st, running)
  | zoneIndex, zone :: zoneData, st, running =>
    let percent := scenePercent zoneIndex numZonesInScene
    match visitZone x rampRate zone st with
    | some st =>
      executeZones x rampRate number numZonesInScene rounds (zoneIndex + 1) zoneData
        (st.sendRampCommandToTransmitTask zone.zoneId x.sceneIndex percent lowPriority number
          (rounds zoneIndex).sending) running
    | none =>
      executeZones x rampRate number numZonesInScene rounds (zoneIndex + 1) zoneData st
        (missingZone percent (rounds zoneIndex).objects running)

/-- The button that has a scene. -/
def buttonOf (sceneIndex : Byte) (p : SceneControllerProperties) :
    Option (Fin maxScenesInSceneController) :=
  (List.finRange maxScenesInSceneController).find? fun bankIndex =>
    (p.bank bankIndex).sceneId = sceneIndex

/-- The end of `ExecuteScene`: the first button that has the scene is switched. -/
def markToggled (x : Execution) (st : State) : State :=
  let sceneControllerIndex :=
    st.sceneControllers.find fun p => (buttonOf x.sceneIndex p).isSome
  match st.sceneControllers.get sceneControllerIndex with
  | none => st
  | some p =>
    match buttonOf x.sceneIndex p with
    | none => st
    | some bankIndex =>
      st.setSceneControllerProperties (BitVec.ofNat 8 sceneControllerIndex)
        (setBank p bankIndex
          { p.bank bankIndex with toggled := if x.activate then 1 else 0 })

/-- What the environment decides about an execution. -/
structure ExecutionEnv where
  /-- About the first broadcast. -/
  objects : Objects
  /-- In each round. -/
  rounds : ℕ → Round

/-- The scene is executed, and not refused as already running. -/
def starts (objects : Objects) (p : SceneProperties) : Bool := objects.both && p.running ≠ 1

/-- `ExecuteScene`: the state, and the caller's copy of the properties. -/
def executeScene (x : Execution) (env : ExecutionEnv) (st : State) (p : SceneProperties) :
    State × SceneProperties :=
  if starts env.objects p then
    let st := { st with runs := st.runs + 1 }
    let (st, running) :=
      executeZones x (sceneRampRate p.zoneData) st.runs p.zoneData.length env.rounds 0 p.zoneData
        st 1
    (markToggled x st, { p with running := running })
  else (st, p)

/-- A scene is executed, and its properties are stored. -/
def executeAndStore (x : Execution) (env : ExecutionEnv) (st : State) (p : SceneProperties) :
    State :=
  let (st, p) := executeScene x env st p
  st.setSceneProperties x.sceneIndex p

/-! ### Requests and the clock -/

/-- The scene in a request that runs it; a missing field gets the error of one that is not an
integer. -/
def sceneToRun (st : State) (root : JsonT) : Except Error (Byte × SceneProperties) :=
  match root.get "SID" with
  | some (.integer value) =>
    if 100 ≤ value.toInt then .error ⟨"Scene ID must be less then 100.", 2077⟩
    else
      let sceneIndex : Byte := value.setWidth 8
      match st.getSceneProperties sceneIndex with
      | none => .error ⟨s!"Unable to get properties for scene {sceneIndex.toNat}", 2088⟩
      | some p =>
        if !sceneNamed p then .error ⟨s!"Scene {sceneIndex.toNat} does not exist.", 2076⟩
        else .ok (sceneIndex, p)
  | _ => .error ⟨"Scene ID must be an integer", 2075⟩

/-- The `AppContextId` of a request, 0 if it is not an integer. -/
def appContextId (root : JsonT) : Dword :=
  ((root.get "AppContextId").elim 0 JsonT.integerValue).setWidth 32

/-- The arguments with which a scene is run. -/
def plainExecution (sceneIndex : Byte) (appContextId : Dword) : Execution :=
  ⟨sceneIndex, appContextId, true, 0, 1, 0⟩

/-- `HandleRunScene`: the state and the error response. -/
def handleRunScene (st : State) (root : JsonT) (env : ExecutionEnv) : State × Option Error :=
  match sceneToRun st root with
  | .error error => (st, some error)
  | .ok (sceneIndex, p) =>
    (executeAndStore (plainExecution sceneIndex (appContextId root)) env st p,
      appContextError root)

/-- The start of `checkScenes`: invalid data is replaced. -/
def cleanScene (p : SceneProperties) : SceneProperties :=
  { p with
    trigger :=
      if p.trigger ∈ [Schedule.REGULAR_TIME, Schedule.SUNRISE, Schedule.SUNSET] then p.trigger
      else Schedule.REGULAR_TIME
    nextTriggerTime :=
      if p.nextTriggerTime ≠ 0 ∧
          ¬ (1429810320 ≤ p.nextTriggerTime ∧ p.nextTriggerTime ≤ 2147483647) then 0
      else p.nextTriggerTime
    delta := if 120 < p.delta.toInt ∨ p.delta.toInt < -120 then 0 else p.delta
    freq :=
      if p.freq ∈ [Schedule.NONE, Schedule.ONCE, Schedule.EVERY_WEEK] then p.freq
      else Schedule.NONE
    fits := p.zones_fit }

theorem cleanScene_zones_fit (p : SceneProperties) :
    (cleanScene p).zoneData.length ≤ maxZonesInScene := p.fits

/-- What happens to the trigger of a scene that was due. -/
def retrigger (nextTriggerTime : Dword) (p : SceneProperties) : SceneProperties :=
  if p.freq = Schedule.ONCE then { p with freq := Schedule.NONE, fits := p.zones_fit }
  else { p with nextTriggerTime := nextTriggerTime, fits := p.zones_fit }

/-- What the environment decides about a scene in `checkScenes`. -/
structure CheckEnv where
  /-- `rtcTime.SECONDS` -/
  now : Dword
  /-- About the broadcast. -/
  objects : Objects
  /-- About the execution. -/
  execution : ExecutionEnv
  /-- What `calculateNewTrigger` calculates. -/
  nextTriggerTime : Dword

/-- The scene is due. -/
def isDue (env : CheckEnv) (p : SceneProperties) : Bool :=
  p.freq ∈ [Schedule.ONCE, Schedule.EVERY_WEEK] ∧ p.nextTriggerTime ≤ env.now ∧ env.objects.both

/-- The loop of `checkScenes`, for one scene. -/
def checkScene (env : CheckEnv) (st : State) (sceneIdx : Byte) : State :=
  match st.getSceneProperties sceneIdx with
  | none => st
  | some p =>
    let p := cleanScene p
    if !sceneNamed p then st
    else if isDue env p then
      let (st, p) :=
        if p.skipNext = 0 then executeScene (plainExecution sceneIdx 0) env.execution st p
        else (st, { p with skipNext := 0 })
      st.setSceneProperties sceneIdx (retrigger env.nextTriggerTime p)
    else st.setSceneProperties sceneIdx p

/-- `checkScenes` -/
def checkScenes (env : ℕ → CheckEnv) (st : State) : State :=
  if st.addALight then st
  else
    (List.range maxNumberOfScenes).foldl
      (fun st sceneIdx => checkScene (env sceneIdx) st (BitVec.ofNat 8 sceneIdx)) st

/-! ### Scene controllers and the cloud -/

/-- A scene is executed if it exists. -/
def executeIfExists (x : Execution) (env : ExecutionEnv) (st : State) : State :=
  match st.getSceneProperties x.sceneIndex with
  | some p => executeAndStore x env st p
  | none => st

/-- The scene controller that a command comes from, if it is known and in the house. -/
def knownSceneController (st : State) (buildingId houseId : Byte) (groupId : Word) :
    Option SceneControllerProperties :=
  let sceneControllerIndex := st.getSceneControllerIndex groupId buildingId houseId
  if st.global_houseID = houseId ∧ sceneControllerIndex.toNat < maxNumberOfSceneControllers then
    st.getSceneControllerProperties sceneControllerIndex
  else none

/-- `HandleSceneControllerMasterOff`; a button without a scene has an index that is too large. -/
def handleSceneControllerMasterOff (st : State) (buildingId houseId : Byte) (groupId : Word)
    (rampRate : Byte) (env : Fin maxScenesInSceneController → ExecutionEnv)
    (garbage : SceneControllerGarbage) : State :=
  if st.addASceneController then
    handleSceneControllerCommandReceived st (st.getSceneControllerIndex groupId buildingId houseId)
      buildingId houseId groupId garbage
  else
    match knownSceneController st buildingId houseId groupId with
    | none => st
    | some p =>
      (List.finRange maxScenesInSceneController).foldl
        (fun st bankIndex =>
          executeIfExists ⟨(p.bank bankIndex).sceneId, 0, false, 0, 1, rampRate⟩ (env bankIndex) st)
        st

/-- `HandleSceneControllerSceneRequest` -/
def handleSceneControllerSceneRequest (st : State) (buildingId houseId : Byte) (groupId : Word)
    (bankIndex : Byte) (state : Bool) (rampRate : Byte) (env : ExecutionEnv)
    (garbage : SceneControllerGarbage) : State :=
  if st.addASceneController then
    handleSceneControllerCommandReceived st (st.getSceneControllerIndex groupId buildingId houseId)
      buildingId houseId groupId garbage
  else
    match knownSceneController st buildingId houseId groupId with
    | none => st
    | some p =>
      if hbank : bankIndex.toNat < maxScenesInSceneController then
        executeIfExists ⟨(p.bank ⟨bankIndex.toNat, hbank⟩).sceneId, 1, state, 0, 1, rampRate⟩ env st
      else st

/-- `HandleSceneControllerSceneAdjust` -/
def handleSceneControllerSceneAdjust (st : State) (buildingId houseId : Byte) (groupId : Word)
    (sceneIdx value change rampRate : Byte) (env : ExecutionEnv)
    (garbage : SceneControllerGarbage) : State :=
  if st.addASceneController then
    handleSceneControllerCommandReceived st (st.getSceneControllerIndex groupId buildingId houseId)
      buildingId houseId groupId garbage
  else if st.global_houseID = houseId then
    executeIfExists ⟨sceneIdx, 0, true, value, change, rampRate⟩ env st
  else st

/-- `HandleTriggerSceneControllerCommand`, up to its call of `HandleSceneControllerSceneRequest`. -/
def triggerSceneController (root : JsonT) :
    Except Error ((Byte × Byte × Word) × Byte × Bool) := do
  let address ← addressFields root
  let bankIndex ← integerField root "BankIndex" ⟨"No BankIndex field", 2033⟩
    ⟨"BankIndex is not an integer", 2006⟩
  if bankIndex.toInt < 0 ∨ 3 < bankIndex.toInt then
    .error ⟨"BankIndex must be between 0 - 3.", 2007⟩
  else
    let deviceType ← integerField root "DeviceType" ⟨"No DeviceType field", 2034⟩
      ⟨"DeviceType is not an integer", 2022⟩
    if deviceType ≠ sceneController4ButtonType.setWidth 64 then
      .error ⟨"DeviceType is not a valid type", 2021⟩
    else
      match root.get "State" with
      | none => .error ⟨"No State field", 2042⟩
      | some valueObject =>
        if !valueObject.isBoolean then .error ⟨"State is not boolean", 2082⟩
        else .ok (address, bankIndex.setWidth 8, valueObject.isTrue)

/-- `HandleTriggerSceneControllerCommand` -/
def handleTriggerSceneControllerCommand (st : State) (root : JsonT) (env : ExecutionEnv)
    (garbage : SceneControllerGarbage) : State × Option Error :=
  match triggerSceneController root with
  | .error error => (st, some error)
  | .ok ((buildingId, houseId, groupId), bankIndex, state) =>
    (handleSceneControllerSceneRequest st buildingId houseId groupId bankIndex state 0 env garbage,
      none)

/-- `SetSceneState` -/
def setSceneState (st : State) (deviceId : List Byte) (state : Bool) (env : ExecutionEnv) :
    State :=
  let sceneIndex := st.scenes.find fun p =>
    sceneNamed p && p.EliotDeviceId.chars ≠ [] && p.EliotDeviceId.chars = deviceId
  if sceneIndex < maxNumberOfScenes then
    executeIfExists ⟨BitVec.ofNat 8 sceneIndex, 0, state, 0, 0, 0⟩ env st
  else st

/-! ### The transmit task -/

/-- What `HandleTransmitTaskMessage` makes of a zone, and `processFlag`. -/
def transmitZone (p : ZoneProperties) : ZoneProperties × Bool :=
  let (processFlag, broadcastFlag, p) : Bool × Bool × ZoneProperties :=
    if p.state = p.targetState then
      if p.targetState then (p.powerLevel ≠ p.targetPowerLevel, false, p)
      else if p.powerLevel ≠ p.targetPowerLevel then
        (isShade p, true, { p with powerLevel := p.targetPowerLevel })
      else (false, false, p)
    else (true, false, p)
  if processFlag || broadcastFlag then
    ({ p with powerLevel := p.targetPowerLevel, state := p.targetState }, processFlag)
  else (p, processFlag)

/-- `HandleTransmitTaskMessage`, up to the end of the scene: nothing if there is no such zone. -/
def transmitRamp (m : RampMessage) (st : State) : Option State :=
  let zoneIdx := st.getZoneIndex m.groupId m.buildingId m.houseId
  if zoneIdx.toNat < maxNumberOfZones then
    (st.getZoneProperties zoneIdx).map fun p => st.setZoneProperties zoneIdx (transmitZone p).1
  else none

/-- The end of `HandleTransmitTaskMessage`: the last ramp of a scene ends it. -/
def finishScene (m : RampMessage) (objects : Objects) (st : State) : State :=
  if m.sceneId.toNat < maxNumberOfScenes then
    match st.getSceneProperties m.sceneId with
    | some p =>
      if p.running = 1 ∧ m.scenePercent = 100 ∧ objects.both then
        st.setSceneProperties m.sceneId { p with running := 0 }
      else st
    | none => st
  else st

/-- `NUMBER_OF_RFM100_TRANSMIT_ATTEMPTS` -/
abbrev numberOfRfm100TransmitAttempts : ℕ := 3

/-- The attempts to transmit a ramp, with what is allocated in each; the first one for which there
is no zone is the last one. -/
def transmitAttempts (m : RampMessage) : List Objects → State → State
  | [], st => st
  | objects :: attempts, st =>
    match transmitRamp m st with
    | some st => transmitAttempts m attempts (finishScene m objects st)
    | none => st

/-- The transmit task takes a message from the queue and processes it. -/
def transmit (attempts : List Objects) (st : State) : State :=
  match st.transmitQueue with
  | [] => st
  | m :: transmitQueue =>
    transmitAttempts m (attempts.take numberOfRfm100TransmitAttempts)
      { st with transmitQueue := transmitQueue }

/-- **What the transmit task makes of a zone**: it is where it is to be. -/
theorem transmitZone_eq (p : ZoneProperties) :
    (transmitZone p).1 = { p with powerLevel := p.targetPowerLevel, state := p.targetState } := by
  obtain ⟨AppContextId, groupId, state, targetState, powerLevel, targetPowerLevel, rampRate,
    deviceType, buildingId, houseId, roomId, ZoneNameString, EliotDeviceId⟩ := p
  by_cases hlevel : powerLevel = targetPowerLevel <;> cases state <;> cases targetState <;>
    simp [transmitZone, hlevel]

/-- **The frame that is sent** is built from these properties. -/
theorem prepareRamp_eq (forceSendFlag : Bool) (p : ZoneProperties) :
    Rf.prepareRamp forceSendFlag p =
      if ((transmitZone p).2 || forceSendFlag) && !isShade p then some (transmitZone p).1
      else none := by
  rw [transmitZone_eq]
  simp only [Rf.prepareRamp, transmitZone, isShade]
  obtain ⟨AppContextId, groupId, state, targetState, powerLevel, targetPowerLevel, rampRate,
    deviceType, buildingId, houseId, roomId, ZoneNameString, EliotDeviceId⟩ := p
  by_cases hshade : deviceType = Rf.shadeType ∨ deviceType = Rf.shadeGroupType <;>
    by_cases hlevel : powerLevel = targetPowerLevel <;> cases state <;> cases targetState <;>
      cases forceSendFlag <;> simp [hlevel, hshade, Rf.IsShade]

end House

end Lcm
