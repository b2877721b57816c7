import Lcm.Jansson
import Lcm.Rf.Ramp
import Lcm.Sanitizer
import Lcm.SceneControllers.Store
import Lcm.Scenes.Store
import Lcm.Services.TestMode
import Lcm.Table
import Lcm.Zones.Store

/-!
# The house

The zones, the scenes and the scene controllers, as the tasks of the controller see them: tables
of properties that `Get...Properties` reads and `Set...Properties` writes, together with the other
variables that decide about them, and the queue of the ramps that are to be sent.

## Main definitions

* `State` : the tables and the variables.
* `State.getZoneProperties`, `State.setZoneProperties` : the functions of the source, and the same
  for scenes and scene controllers.
* `State.sendRampCommandToTransmitTask` : a ramp is queued.

## Main results

* `setProperties_refines`, `reboot_refines` : the records in flash are such tables, as long as
  their slots are usable.
-/

namespace Lcm

namespace House

open Rf (shadeType shadeGroupType)
open Scenes SceneControllers

/-- `MAX_NUMBER_OF_ZONES` -/
abbrev maxNumberOfZones : ℕ := 100

/-- `MAX_NUMBER_OF_SCENES` -/
abbrev maxNumberOfScenes : ℕ := 100

/-- `MAX_POWER_LEVEL` -/
abbrev maxPowerLevel : Byte := 100

/-- `NO_TYPE` -/
abbrev noType : Byte := 0x00

/-- `DIMMER_TYPE` -/
abbrev dimmerType : Byte := 0x41

/-- `SWITCH_TYPE` -/
abbrev switchType : Byte := 0x42

/-- `FAN_CONTROLLER_TYPE` -/
abbrev fanControllerType : Byte := 0x43

/-- `NETWORK_REMOTE_TYPE` -/
abbrev networkRemoteType : Byte := 0x21

/-- `SCENE_CONTROLLER_4_BUTTON_TYPE` -/
abbrev sceneController4ButtonType : Byte := 0x2B

/-- `RFM100_MESSAGE_HIGH_PRIORITY` -/
abbrev highPriority : ℕ := 1

/-- `RFM100_MESSAGE_LOW_PRIORITY` -/
abbrev lowPriority : ℕ := 0

/-- The zone is a shade or a group of shades. -/
def isShade (p : ZoneProperties) : Bool := Rf.IsShade p

/-- The zone has a name. -/
def zoneNamed (p : ZoneProperties) : Bool := p.ZoneNameString.chars ≠ []

/-- The scene has a name. -/
def sceneNamed (p : SceneProperties) : Bool := p.SceneNameString.chars ≠ []

/-- The scene controller has a name. -/
def sceneControllerNamed (p : SceneControllerProperties) : Bool :=
  p.SceneControllerNameString.chars ≠ []

/-- `RFM100_TRANSMIT_TASK_MESSAGE` with the command `RAMP`; messages with another command change
none of the properties and are left out. -/
structure RampMessage where
  /-- The priority it was sent with. -/
  priority : ℕ
  /-- The group id of the zone. -/
  groupId : Word
  /-- The building the zone is in. -/
  buildingId : Byte
  /-- The house the zone is in. -/
  houseId : Byte
  /-- The scene, or `MAX_NUMBER_OF_SCENES + 1`. -/
  sceneId : Byte
  /-- How far the scene is when the message has been processed. -/
  scenePercent : Byte
  /-- Which of the runs of scenes it belongs to, counted from 1; the source does not tell them
  apart. -/
  run : ℕ
  deriving DecidableEq

/-- What the handlers read and write. -/
structure State where
  /-- `zoneArray` and its records -/
  zones : Table ZoneProperties zoneNamed maxNumberOfZones
  /-- `sceneArray` and its records -/
  scenes : Table SceneProperties sceneNamed maxNumberOfScenes
  /-- `sceneControllerArray` and its records -/
  sceneControllers :
    Table SceneControllerProperties sceneControllerNamed maxNumberOfSceneControllers
  /-- `global_houseID` -/
  global_houseID : Byte
  /-- `systemProperties.addALight` -/
  addALight : Bool
  /-- `systemProperties.addASceneController` -/
  addASceneController : Bool
  /-- `shadeInfoStruct.shadeInfo[zoneIndex].idString` -/
  idString : ℕ → List Byte
  /-- `RFM100TransmitTaskMessageQID` -/
  transmitQueue : List RampMessage
  /-- The number of runs of scenes so far. -/
  runs : ℕ

namespace State

/-- Nothing is stored. -/
def initial : State where
  zones := Table.empty
  scenes := Table.empty
  sceneControllers := Table.empty
  global_houseID := 0
  addALight := false
  addASceneController := false
  idString _ := []
  transmitQueue := []
  runs := 0

variable (st : State)

/-- `GetZoneProperties` -/
def getZoneProperties (zoneIndex : Byte) : Option ZoneProperties := st.zones.get zoneIndex.toNat

/-- `SetZoneProperties` -/
def setZoneProperties (zoneIndex : Byte) (p : ZoneProperties) : State :=
  { st with zones := st.zones.set zoneIndex.toNat p }

/-- `GetSceneProperties` -/
def getSceneProperties (sceneIndex : Byte) : Option SceneProperties :=
  st.scenes.get sceneIndex.toNat

/-- `SetSceneProperties` -/
def setSceneProperties (sceneIndex : Byte) (p : SceneProperties) : State :=
  { st with scenes := st.scenes.set sceneIndex.toNat p }

/-- `GetSceneControllerProperties` -/
def getSceneControllerProperties (sceneControllerIndex : Byte) :
    Option SceneControllerProperties :=
  st.sceneControllers.get sceneControllerIndex.toNat

/-- `SetSceneControllerProperties` -/
def setSceneControllerProperties (sceneControllerIndex : Byte) (p : SceneControllerProperties) :
    State :=
  { st with sceneControllers := st.sceneControllers.set sceneControllerIndex.toNat p }

/-- `AnyZonesInArray`: shades do not count. -/
def anyZonesInArray : Bool := st.zones.any fun p => zoneNamed p && !isShade p

/-- `AnySceneControllersInArray` -/
def anySceneControllersInArray : Bool := st.sceneControllers.any sceneControllerNamed

/-- `GetZoneIndex` -/
def getZoneIndex (groupId : Word) (buildingId houseId : Byte) : Byte :=
  BitVec.ofNat 8 (st.zones.find fun p =>
    zoneNamed p && p.groupId = groupId && p.buildingId = buildingId && p.houseId = houseId)

/-- `GetSceneControllerIndex` -/
def getSceneControllerIndex (groupId : Word) (buildingId houseId : Byte) : Byte :=
  BitVec.ofNat 8 (st.sceneControllers.find fun p =>
    sceneControllerNamed p && p.groupId = groupId && p.buildingId = buildingId &&
      p.houseId = houseId)

/-- `GetAvailableZoneIndex` -/
def getAvailableZoneIndex : Byte := BitVec.ofNat 8 st.zones.available

/-- `GetAvailableSceneIndex` -/
def getAvailableSceneIndex : Byte := BitVec.ofNat 8 st.scenes.available

/-- `GetAvailableSceneControllerIndex` -/
def getAvailableSceneControllerIndex : Byte := BitVec.ofNat 8 st.sceneControllers.available

/-- `_msgq_send_priority`: the message is queued behind those of the same priority. -/
def enqueue (m : RampMessage) : State :=
  { st with
    transmitQueue :=
      st.transmitQueue.takeWhile (m.priority ≤ ·.priority) ++
        m :: st.transmitQueue.dropWhile (m.priority ≤ ·.priority) }

/-- What the message pool and the queue do about a message. -/
structure Sending where
  /-- `_msg_alloc` returns one. -/
  allocated : Bool
  /-- `_msgq_send_priority` takes it. -/
  sent : Bool
  deriving DecidableEq

/-- `SendRampCommandToTransmitTask` -/
def sendRampCommandToTransmitTask (zoneIndex sceneId scenePercent : Byte) (priority run : ℕ)
    (sending : Sending) : State :=
  if sending.allocated then
    match st.getZoneProperties zoneIndex with
    | some zoneProperties =>
      if sending.sent then
        st.enqueue ⟨priority, zoneProperties.groupId, zoneProperties.buildingId,
          zoneProperties.houseId, sceneId, scenePercent, run⟩
      else st
    | none => st
  else st

end State

/-! ### Flash -/

section Flash

variable {P V W : Type*} {k : Store.Kind P V W} {st : Store.State W}

/-- The properties of a kind that have a name. -/
def kindNamed (k : Store.Kind P V W) (p : P) : Bool := k.codec.named (k.nonvolatile p)

theorem zoneNamed_eq : zoneNamed = kindNamed Zones.zones := rfl

theorem sceneNamed_eq : sceneNamed = kindNamed Scenes.scenes := rfl

/-- **Setting refines storing in the table**, where the slots are usable. -/
theorem setProperties_refines (hfits : k.Fits) (hinv : k.Inv st)
    {t : Table P (kindNamed k) k.maxNumber} (h : k.getProperties st = t.get) {index : ℕ}
    (hindex : index < k.maxNumber) {p : P} (hu : k.Usable st index p) (garbage : Store.Garbage) :
    ∃ st', k.setProperties st index p garbage = some (true, st') ∧
      k.getProperties st' = (t.set index p).get := by
  obtain ⟨values, ids, hholds⟩ := hinv
  obtain ⟨st', hset, hget, -⟩ := hholds.roundTrip hfits hindex hu garbage
  refine ⟨st', hset, ?_⟩
  rw [hget, h, Table.get_set, if_pos hindex]
  rfl

/-- **Restarting refines forgetting what is in RAM.** -/
theorem reboot_refines (hfits : k.Fits) (hinv : k.Inv st)
    {t : Table P (kindNamed k) k.maxNumber} (h : k.getProperties st = t.get) :
    k.getProperties (k.reboot st) =
      (t.map k.restarted fun p => by
        rw [kindNamed, kindNamed, Store.Kind.restarted, k.nonvolatile_properties]).get := by
  obtain ⟨values, ids, hholds⟩ := hinv
  rw [hholds.getProperties_reboot hfits, h]
  rfl

end Flash

end House

end Lcm
