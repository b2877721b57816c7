import Lcm.House.HouseID
import Lcm.House.Running

/-!
# The slots of the zones

A scene names its zones by their slots.  A slot is free again when its zone is deleted, and the next
device that is added gets the first free slot; the scenes are not told.  A record of the devices,
kept beside the tasks, says for each slot which device it was last given to, and for each scene
which devices had the slots in its list when the list was stored.

## Main definitions

* `Occupant`, `addedZone` : a device, and the slot an operation gives to it.
* `addressOf`, `Occupant.address` : the address of a zone, and the one that a device has in a slot.
* `Tracked`, `Tracked.step`, `trackedMachine` : the tasks with the record.
* `commanded` : the zone to which a step sends a command.
* `DrivesConfigured` : it is the device that the scene was configured with.
* `keepsSlots` : the condition on the steps.

## Main results

* `hasAddress_next`, `occupied_next` : only what is recorded gets an address, or a slot that was
  free.
* `step_tasks` : the record does not interfere.
* `allSteps_drivesConfigured` : the property holds as long as the steps meet the condition.
* `not_allSteps_drivesConfigured` : it does not always hold.
-/

namespace Lcm

namespace House

open Scenes SceneControllers
open Services (Error)

/-! ### Devices that get a slot -/

/-- A device. -/
inductive Occupant
  /-- A device of the radio. -/
  | ramp (buildingId houseId : Byte) (groupId : Word)
  /-- A shade or a group of shades. -/
  | shade (identifier : List Byte)
  deriving DecidableEq

/-- The slot for the device that has sent a ramp, if it is added. -/
def rampAddition (st : State) (buildingId houseId : Byte) (groupId : Word) :
    Option (ℕ × Occupant) :=
  if addsZone st buildingId houseId groupId then
    some (st.zones.available, .ramp buildingId houseId groupId)
  else none

/-- The slot for a shade, if it is added; without a name, it leaves the slot free. -/
def shadeAddition (st : State) (name identifier : List Byte) : Option (ℕ × Occupant) :=
  if maxNumberOfZones ≤ checkForQmotionIdStringMatch st identifier ∧
      st.zones.available < maxNumberOfZones ∧ (nameOf name).chars ≠ [] then
    some (st.zones.available, .shade identifier)
  else none

/-- The slot that an operation gives to a device. -/
def addedZone (st : State) : Event → Option (ℕ × Occupant)
  | .triggerRamp root _ =>
    match House.triggerRamp root with
    | .ok ((buildingId, houseId, groupId), _, _) => rampAddition st buildingId houseId groupId
    | .error _ => none
  | .received ⟨.handleRampReceived buildingId houseId groupId _ _, _⟩ _ =>
    rampAddition st buildingId houseId groupId
  | .devicesInfo element _ =>
    match element.get "deviceType", element.get "identifier" with
    | some deviceType, some identifier =>
      if deviceType.chars = JsonT.bytesOfString "shade" then
        shadeAddition st ((element.get "name").elim [] JsonT.chars) identifier.chars
      else none
    | _, _ => none
  | .qmotionGroups element _ =>
    match element.get "groupId" with
    | some identifier =>
      let groupIdString :=
        if identifier.isInteger then JsonT.bytesOfString s!"{intOf identifier.integerValue}"
        else []
      shadeAddition st ((element.get "name").elim [] JsonT.chars) groupIdString
    | none => none
  | _ => none

/-- The address of a zone. -/
def addressOf (p : ZoneProperties) : Word × Byte × Byte := (p.groupId, p.buildingId, p.houseId)

/-- The address that a device has in a slot: that of a shade is made up from the slot. -/
def Occupant.address (zoneIndex : ℕ) : Occupant → Word × Byte × Byte
  | .ramp buildingId houseId groupId => (groupId, buildingId, houseId)
  | .shade _ => (0x1000 + BitVec.ofNat 16 zoneIndex, 0, 0)

/-- A slot holds a zone with an address. -/
def HasAddress (st : State) (zoneIndex : ℕ) (a : Word × Byte × Byte) : Prop :=
  ∃ p, st.zones.get zoneIndex = some p ∧ addressOf p = a

/-- A slot is not free. -/
def Occupied (st : State) (zoneIndex : ℕ) : Prop := ∃ p, st.zones.get zoneIndex = some p

section HasAddress

variable {st st' : State} {z : ℕ} {a : Word × Byte × Byte}

theorem addressOf_congr {p q : ZoneProperties} (h : deviceOf q = deviceOf p) :
    addressOf q = addressOf p :=
  congrArg (fun d : Device => (d.groupId, d.buildingId, d.houseId)) h

theorem HasAddress.of_keys (h : HasAddress st' z a)
    (hkeys : st'.zones.keys deviceOf = st.zones.keys deviceOf) : HasAddress st z a := by
  obtain ⟨p, hp, rfl⟩ := h
  obtain ⟨q, hq, hdevice⟩ := Table.exists_of_keys hkeys hp
  exact ⟨q, hq, addressOf_congr hdevice⟩

theorem HasAddress.of_zones (h : HasAddress st' z a) (hzones : st'.zones = st.zones) :
    HasAddress st z a := by
  rwa [HasAddress, hzones] at h

theorem zones_handleSceneControllerCommandReceived (st : State)
    (sceneControllerIndex buildingId houseId : Byte) (groupId : Word)
    (garbage : SceneControllerGarbage) :
    (handleSceneControllerCommandReceived st sceneControllerIndex buildingId houseId groupId
      garbage).zones = st.zones := by
  obtain ⟨-, heq⟩ | ⟨-, heq⟩ := handleSceneControllerCommandReceived_cases st
    sceneControllerIndex buildingId houseId groupId garbage
  · rw [heq]
    exact zones_adoptHouseID st houseId
  · rw [heq, zones_adoptHouseID]

/-- A zone that is stored has its address, and the others keep theirs. -/
theorem HasAddress.of_setZoneProperties {zoneIndex : Byte} {p : ZoneProperties}
    (h : HasAddress (st.setZoneProperties zoneIndex p) z a) :
    z = zoneIndex.toNat ∧ addressOf p = a ∧ zoneNamed p = true ∨ HasAddress st z a := by
  obtain ⟨q, hq, rfl⟩ := h
  have hnamed := Table.named_of_get _ z q hq
  obtain ⟨rfl, rfl, -⟩ | ⟨-, hq⟩ | ⟨-, hq⟩ := Table.set_cases hq
  · exact .inl ⟨rfl, rfl, hnamed⟩
  · exact .inr ⟨q, hq, rfl⟩
  · exact .inr ⟨q, hq, rfl⟩

/-- The properties of a zone that is there are stored, and it keeps its address. -/
theorem HasAddress.of_set_got {zoneIndex : Byte} {p q : ZoneProperties}
    (hp : st.getZoneProperties zoneIndex = some p) (haddress : addressOf q = addressOf p)
    (h : HasAddress (st.setZoneProperties zoneIndex q) z a) : HasAddress st z a := by
  obtain ⟨rfl, rfl, -⟩ | h := h.of_setZoneProperties
  · exact ⟨p, hp, haddress.symm⟩
  · exact h

theorem hasAddress_handleRampReceived {buildingId houseId : Byte} {groupId : Word}
    {value deviceType : Byte} {EliotDeviceId : CString eliotDeviceIdSize}
    (h : HasAddress
      (handleRampReceived st buildingId houseId groupId value deviceType EliotDeviceId) z a) :
    HasAddress st z a ∨
      ∃ o, rampAddition st buildingId houseId groupId = some (z, o) ∧ a = o.address z := by
  obtain ⟨hadds, heq⟩ | ⟨-, hcalm⟩ := handleRampReceived_cases st buildingId houseId groupId value
    deviceType EliotDeviceId
  · rw [heq] at h
    obtain ⟨rfl, rfl, -⟩ | ⟨p, hp, rfl⟩ := HasAddress.of_setZoneProperties h
    · refine .inr ⟨.ramp buildingId houseId groupId, ?_, rfl⟩
      rw [rampAddition, if_pos hadds, toNat_getAvailableZoneIndex]
    · rw [zones_rampAdopts] at hp
      exact .inl ⟨p, hp, rfl⟩
  · obtain ⟨p, hp, rfl⟩ := h.of_keys hcalm.zones
    rw [zones_rampAdopts] at hp
    exact .inl ⟨p, hp, rfl⟩

theorem addressOf_newShade {i : ℕ} (hi : i < maxNumberOfZones) (shadeName : List Byte)
    (identifier : List Byte) (isGroup : Bool) (garbage : ShadeGarbage) :
    addressOf (newShade (BitVec.ofNat 8 i) shadeName isGroup garbage) =
      Occupant.address i (.shade identifier) := by
  have hgroup : (BitVec.ofNat 8 i).setWidth 16 = BitVec.ofNat 16 i := by
    rw [← BitVec.toNat_inj, BitVec.toNat_setWidth, toNat_ofNat_of_lt (Nat.lt_trans hi (by decide)),
      BitVec.toNat_ofNat]
  simp only [addressOf, newShade, Occupant.address, hgroup]

theorem hasAddress_addIfUnknown {name identifier : List Byte} {isGroup : Bool}
    {garbage : ShadeGarbage}
    (h : HasAddress (addIfUnknown st name identifier isGroup garbage) z a) :
    HasAddress st z a ∨
      ∃ o, shadeAddition st name identifier = some (z, o) ∧ a = o.address z := by
  unfold addIfUnknown addAShade at h
  dsimp only at h
  split at h
  · rename_i hunknown
    split at h
    · rename_i hindex
      rw [toNat_getAvailableZoneIndex] at hindex
      split at h
      · exact .inl h
      · obtain ⟨rfl, rfl, hnamed⟩ | ⟨p, hp, rfl⟩ := HasAddress.of_setZoneProperties h
        · refine .inr ⟨.shade identifier, ?_, ?_⟩
          · have hname : (nameOf name).chars ≠ [] := of_decide_eq_true hnamed
            rw [shadeAddition, if_pos ⟨hunknown, hindex, hname⟩, toNat_getAvailableZoneIndex]
          · rw [toNat_getAvailableZoneIndex]
            exact addressOf_newShade hindex name identifier isGroup garbage
        · exact .inl ⟨p, hp, rfl⟩
    · exact .inl h
  · exact .inl h

/-- **Only a device that is added gets a slot or an address.** -/
theorem hasAddress_next {e : Event} (h : HasAddress (next st e) z a) :
    HasAddress st z a ∨ ∃ o, addedZone st e = some (z, o) ∧ a = o.address z := by
  cases hcalm : e.isCalm with
  | true => exact .inl (h.of_keys (next_calm st hcalm).zones)
  | false =>
    cases e with
    | setZoneProperties root errorFlag sending =>
      obtain heq | ⟨zoneIndex, p, edit, st', hlookup, hedit, hst', heq⟩ :=
        handleSetZoneProperties_cases st root errorFlag sending
      · rw [next, heq] at h
        exact .inl h
      · rw [next, heq] at h
        have hzones : st'.zones = st.zones := by
          obtain rfl | rfl := hst'
          · rfl
          · exact zones_sendRampCommandToTransmitTask ..
        have hp : st'.getZoneProperties zoneIndex = some p := by
          rw [State.getZoneProperties, hzones]
          exact (lookup_ok hlookup).2
        have haddress : addressOf edit.zoneProperties = addressOf p :=
          congrArg (fun d : Device => (d.groupId, d.buildingId, d.houseId)) (editZone_cases hedit).1
        exact .inl ((HasAddress.of_set_got hp haddress h).of_zones hzones)
    | deleteZone root =>
      obtain heq | ⟨zoneIndex, p, st', hp, hst', heq⟩ := handleDeleteZone_cases st root
      · rw [next, heq, HasAddress, zones_clearHouseID] at h
        exact .inl h
      · rw [next, heq, HasAddress, zones_clearHouseID] at h
        have haddress : addressOf (clearZone p) = addressOf p := rfl
        obtain rfl | rfl := hst'
        · exact .inl (HasAddress.of_set_got hp haddress h)
        · exact .inl (HasAddress.of_set_got hp haddress h)
    | triggerRamp root EliotDeviceId =>
      simp only [next, handleTriggerRampCommand] at h
      simp only [addedZone]
      cases hroot : House.triggerRamp root with
      | error error =>
        rw [hroot] at h
        exact .inl h
      | ok value =>
        rw [hroot] at h
        exact hasAddress_handleRampReceived h
    | received call env =>
      obtain hcall | ⟨buildingId, houseId, groupId, value, deviceType, hramp⟩ | ⟨_, _, _, heq⟩ :=
        handleCall_cases st env call.1
      · exact .inl (h.of_keys hcall.zones)
      · obtain ⟨call, hscaled⟩ := call
        subst hramp
        exact hasAddress_handleRampReceived h
      · rw [next, heq] at h
        exact .inl (h.of_zones (zones_handleSceneControllerCommandReceived ..))
    | createScene root garbage nextTriggerTime =>
      obtain heq | ⟨_, -, -, heq⟩ := handleCreateScene_cases st root garbage nextTriggerTime
      all_goals
        rw [next, heq] at h
        exact .inl h
    | setSceneProperties root nextTriggerTime =>
      obtain heq | ⟨_, _, _, -, -, heq⟩ := handleSetSceneProperties_cases st root nextTriggerTime
      all_goals
        rw [next, heq] at h
        exact .inl h
    | deleteScene root =>
      obtain heq | ⟨_, _, -, heq⟩ := handleDeleteScene_cases st root
      all_goals
        rw [next, heq] at h
        exact .inl h
    | setSceneControllerProperties root commands =>
      obtain heq | ⟨_, _, _, -, -, heq⟩ :=
        handleSetSceneControllerProperties_cases st root commands
      all_goals
        rw [next, heq] at h
        exact .inl h
    | deleteSceneController root commands =>
      obtain heq | heq | ⟨_, _, -, heq⟩ := handleDeleteSceneController_cases st root commands
      · rw [next, heq] at h
        exact .inl h
      · rw [next, heq] at h
        exact .inl (h.of_zones (zones_clearHouseID _))
      · rw [next, heq] at h
        exact .inl (h.of_zones (zones_clearHouseID _))
    | triggerSceneController root env garbage =>
      obtain hcall | ⟨_, _, _, heq⟩ := handleTriggerSceneControllerCommand_cases st root env garbage
      · exact .inl (h.of_keys hcall.zones)
      · rw [next, heq] at h
        exact .inl (h.of_zones (zones_handleSceneControllerCommandReceived ..))
    | devicesInfo element garbage =>
      simp only [next, handleDevicesInfoResponse] at h
      simp only [addedZone]
      cases htype : element.get "deviceType" with
      | none =>
        rw [htype] at h
        exact .inl h
      | some deviceType =>
        cases hidentifier : element.get "identifier" with
        | none =>
          rw [htype, hidentifier] at h
          exact .inl h
        | some identifier =>
          rw [htype, hidentifier] at h
          dsimp only at h ⊢
          split at h
          · rename_i hshade
            rw [if_pos hshade]
            exact hasAddress_addIfUnknown h
          · exact .inl h
    | qmotionGroups element garbage =>
      simp only [next, handleQmotionGroupsResponse] at h
      simp only [addedZone]
      cases hgroup : element.get "groupId" with
      | none =>
        rw [hgroup] at h
        exact .inl h
      | some identifier =>
        rw [hgroup] at h
        exact hasAddress_addIfUnknown h
    | reboot addASceneController idString =>
      obtain ⟨p, hp, rfl⟩ := h
      obtain ⟨q, hq, rfl⟩ := Option.map_eq_some_iff.1 hp
      exact .inl ⟨q, hq, (addressOf_congr (deviceOf_restarted q)).symm⟩
    | clearFlash =>
      obtain ⟨p, hp, -⟩ := h
      cases hp
    | _ => cases hcalm

/-- **Only a device that is added gets a slot that was free.** -/
theorem occupied_next {e : Event} (h : Occupied (next st e) z) :
    Occupied st z ∨ ∃ o, addedZone st e = some (z, o) := by
  obtain ⟨p, hp⟩ := h
  obtain ⟨q, hq, -⟩ | ⟨o, ho, -⟩ := hasAddress_next ⟨p, hp, rfl⟩
  · exact .inl ⟨q, hq⟩
  · exact .inr ⟨o, ho⟩

end HasAddress

/-! ### The record -/

/-- The tasks with the record. -/
structure Tracked where
  /-- The house and the tasks. -/
  tasks : Tasks
  /-- The device that a slot was last given to. -/
  occupant : ℕ → Option Occupant
  /-- The devices in the slots of the list of a scene, when the list was stored. -/
  configured : ℕ → List (Option Occupant)
  /-- The device whose properties the task that executes a scene has copied. -/
  held : Option Occupant

/-- The zone that the task that executes a scene is at. -/
def Executing.zone (a : Executing) : Option ZoneInScene := a.scene.zoneData[a.zoneIndex]?

/-- The zone to which a step sends a command. -/
def commanded (s : Tasks) : TaskEvent → Option (Executing × ZoneInScene)
  | .execute round =>
    s.executing.bind fun a =>
      match a.stage with
      | .send =>
        (a.zone.filter fun zone => (s.house.getZoneProperties zone.zoneId).isSome &&
          round.sending.allocated && round.sending.sent).map fun zone => (a, zone)
      | _ => none
  | _ => none

/-- There is a list of zones among the properties in a request. -/
def listsZones (root : JsonT) : Bool := (propertyList root).any fun property =>
  property.1 = "ZoneList"

namespace Tracked

variable (s : Tracked)

/-- Nothing is recorded. -/
def initial : Tracked := ⟨Tasks.initial, fun _ => none, fun _ => [], none⟩

/-- The devices in the slots of a list. -/
def occupants (zoneData : List ZoneInScene) : List (Option Occupant) :=
  zoneData.map fun zone => s.occupant zone.zoneId.toNat

/-- The slots after a step: a device is added, or the copy of the properties of one is stored. -/
def occupantAfter : TaskEvent → ℕ → Option Occupant
  | .operation e =>
    match addedZone s.tasks.house e with
    | some (zoneIndex, o) => Function.update s.occupant zoneIndex (some o)
    | none => s.occupant
  | .execute _ =>
    match s.tasks.executing with
    | some a =>
      match a.stage, a.zone with
      | .set _, some zone => Function.update s.occupant zone.zoneId.toNat s.held
      | _, _ => s.occupant
    | none => s.occupant
  | _ => s.occupant

/-- The lists after a step: a list is stored. -/
def configuredAfter : TaskEvent → ℕ → List (Option Occupant)
  | .operation (.createScene root garbage _) =>
    match editScene s.tasks.house.getZoneProperties root (newScene garbage) with
    | .ok p =>
      Function.update s.configured s.tasks.house.scenes.available (s.occupants p.zoneData)
    | .error _ => s.configured
  | .operation (.setSceneProperties root _) =>
    match sceneOfRequest s.tasks.house root with
    | .ok (sceneIndex, p) =>
      match editScene s.tasks.house.getZoneProperties root p with
      | .ok p =>
        if listsZones root then
          Function.update s.configured sceneIndex.toNat (s.occupants p.zoneData)
        else s.configured
      | .error _ => s.configured
    | .error _ => s.configured
  | _ => s.configured

/-- The copy after a step: the properties of a zone are got. -/
def heldAfter : TaskEvent → Option Occupant
  | .execute _ =>
    match s.tasks.executing with
    | some a =>
      match a.stage, a.zone with
      | .get, some zone => s.occupant zone.zoneId.toNat
      | _, _ => s.held
    | none => s.held
  | _ => s.held

/-- A step of the tasks, and what is recorded about it. -/
def step (e : TaskEvent) : Option Tracked :=
  (s.tasks.step e).map fun tasks =>
    ⟨tasks, s.occupantAfter e, s.configuredAfter e, s.heldAfter e⟩

/-- **The property**: a command is sent to the device that had the slot when the list was stored. -/
def DrivesConfigured (e : TaskEvent) : Prop :=
  ∀ a zone, commanded s.tasks e = some (a, zone) →
    (s.configured a.x.sceneIndex.toNat)[a.zoneIndex]? = some (s.occupant zone.zoneId.toNat)

/-- A scene names the slot, or the copy of the task that executes one does. -/
def names (zoneIndex : ℕ) : Bool :=
  let inList (p : SceneProperties) : Bool :=
    p.zoneData.any fun zone => zone.zoneId.toNat = zoneIndex
  s.tasks.house.scenes.any inList || s.tasks.executing.any fun a => inList a.scene

/-- The steps after which the scenes drive the same devices: a device gets a slot that no scene
names, or the slot it has had. -/
def keepsSlots : TaskEvent → Bool
  | .operation e => (addedZone s.tasks.house e).all fun (zoneIndex, o) =>
    s.occupant zoneIndex = some o || !s.names zoneIndex
  | _ => true

end Tracked

/-- **The machine**: nothing is stored at first. -/
def trackedMachine : Machine Tracked TaskEvent where
  init s := s = Tracked.initial
  step := Tracked.step

/-- **The record does not interfere** with the tasks. -/
theorem step_tasks (s : Tracked) (e : TaskEvent) :
    (trackedMachine.step s e).map Tracked.tasks = tasksMachine.step s.tasks e := by
  show ((s.tasks.step e).map _).map Tracked.tasks = s.tasks.step e
  rw [Option.map_map]
  exact Option.map_id'

/-- **Executing a scene queues nothing else** than the commands that are considered. -/
theorem commanded_of_execute {s : Tasks} {a : Executing} (ha : s.executing = some a)
    {round : Round} (h : (s.execute a round).house.transmitQueue ≠ s.house.transmitQueue) :
    ∃ zone, commanded s (.execute round) = some (a, zone) := by
  unfold Tasks.execute at h
  simp only [commanded, ha, Option.bind_some, Executing.zone]
  split at h
  · -- nothing is queued when the scene is stored
    refine absurd ?_ h
    simp only [Tasks.finish, markToggled]
    split
    · rfl
    · split <;> rfl
  · rename_i zone hzone
    rw [hzone]
    dsimp only at h
    split at h
    · split at h <;> exact absurd rfl h
    · exact absurd rfl h
    · rename_i hstage
      rw [hstage]
      refine ⟨zone, ?_⟩
      simp only [State.sendRampCommandToTransmitTask] at h
      split at h
      · rename_i hallocated
        split at h
        · rename_i p hp
          split at h
          · rename_i hsent
            simp [hallocated, hsent, hp]
          · exact absurd rfl h
        · exact absurd rfl h
      · exact absurd rfl h

namespace Tracked

variable {s s' : Tracked}

/-! ### The invariant -/

/-- **The invariant**: the slots that the scenes name are still those of the devices they were
configured with. -/
structure SlotsInv (s : Tracked) : Prop where
  /-- The scenes. -/
  scenes : s.tasks.house.scenes.All fun i p => s.configured i = s.occupants p.zoneData
  /-- The copy of the task that executes a scene. -/
  copy : ∀ a, s.tasks.executing = some a →
    s.configured a.x.sceneIndex.toNat = s.occupants a.scene.zoneData
  /-- Its copy of the properties of a zone. -/
  held : ∀ a p zone, s.tasks.executing = some a → a.stage = .set p → a.zone = some zone →
    s.held = s.occupant zone.zoneId.toNat

/-- **What the invariant is for.** -/
theorem SlotsInv.drivesConfigured (h : s.SlotsInv) (e : TaskEvent) : s.DrivesConfigured e := by
  intro a zone hcommanded
  cases e with
  | execute round =>
    obtain ⟨b, hb, hcommanded⟩ := Option.bind_eq_some_iff.1 hcommanded
    cases hstage : b.stage with
    | send =>
      rw [hstage] at hcommanded
      obtain ⟨zone', hfilter, heq⟩ := Option.map_eq_some_iff.1 hcommanded
      cases heq
      have hzone : a.scene.zoneData[a.zoneIndex]? = some zone :=
        (Option.filter_eq_some_iff.1 hfilter).1
      rw [h.copy a hb, occupants, List.getElem?_map, hzone]
      rfl
    | _ =>
      rw [hstage] at hcommanded
      cases hcommanded
  | _ => cases hcommanded

/-- A device gets a slot without any scene being concerned. -/
theorem occupants_update {zoneIndex : ℕ} {o : Option Occupant} {zoneData : List ZoneInScene}
    (h : s.occupant zoneIndex = o ∨ ∀ zone ∈ zoneData, zone.zoneId.toNat ≠ zoneIndex) :
    (zoneData.map fun zone => Function.update s.occupant zoneIndex o zone.zoneId.toNat) =
      s.occupants zoneData := by
  obtain rfl | h := h
  · rw [Function.update_eq_self]
    rfl
  · exact List.map_congr_left fun zone hzone => Function.update_of_ne (h zone hzone) ..

/-- A scene that does not name a slot. -/
theorem ne_of_names {zoneIndex : ℕ} (h : s.names zoneIndex = false) :
    (s.tasks.house.scenes.All fun _ p => ∀ zone ∈ p.zoneData, zone.zoneId.toNat ≠ zoneIndex) ∧
      ∀ a, s.tasks.executing = some a →
        ∀ zone ∈ a.scene.zoneData, zone.zoneId.toNat ≠ zoneIndex := by
  rw [names, Bool.or_eq_false_iff] at h
  constructor
  · intro i p hp zone hzone heq
    have hnot := List.any_eq_false.1 (Table.any_eq_false.1 h.1 i p hp)
    exact hnot zone hzone (decide_eq_true heq)
  · intro a ha zone hzone heq
    have hnot := h.2
    rw [ha, Option.any_some, List.any_eq_false] at hnot
    exact hnot zone hzone (decide_eq_true heq)

/-- Nothing is recorded, the tasks spare the zones of the scenes, and the task that executes one
stays where it is. -/
theorem SlotsInv.of_sparing (h : s.SlotsInv) (tasks : Tasks)
    (hspare : Sparing s.tasks.house tasks.house)
    (hexecuting : tasks.executing = s.tasks.executing) :
    SlotsInv { s with tasks := tasks } where
  scenes i p' hp' := by
    obtain ⟨p, hp, hzones, -⟩ := hspare.scenes i p' hp'
    exact (h.scenes i p hp).trans (congrArg s.occupants hzones.symm)
  copy a ha := h.copy a (hexecuting ▸ ha)
  held a p zone ha hstage hzone := h.held a p zone (hexecuting ▸ ha) hstage hzone

/-- A device gets a slot: one that no scene names, or the one it has had. -/
theorem SlotsInv.add (h : s.SlotsInv) {zoneIndex : ℕ} {o : Occupant}
    (hkeeps : (s.occupant zoneIndex = some o || !s.names zoneIndex) = true) :
    SlotsInv { s with occupant := Function.update s.occupant zoneIndex (some o) } := by
  rw [Bool.or_eq_true, decide_eq_true_iff, Bool.not_eq_true'] at hkeeps
  have hnot := hkeeps.imp_right ne_of_names
  refine ⟨fun i p hp => ?_, fun a ha => ?_, fun a p zone ha hstage hzone => ?_⟩
  · exact (h.scenes i p hp).trans
      (occupants_update (hnot.imp_right fun hnot => hnot.1 i p hp)).symm
  · exact (h.copy a ha).trans (occupants_update (hnot.imp_right fun hnot => hnot.2 a ha)).symm
  · refine (h.held a p zone ha hstage hzone).trans ?_
    obtain hsame | hnot := hnot
    · rw [← hsame, Function.update_eq_self]
    · have hmem : zone ∈ a.scene.zoneData := List.mem_of_getElem? hzone
      exact (Function.update_of_ne (hnot.2 a ha zone hmem) ..).symm

/-- No task executes a scene. -/
theorem SlotsInv.of_free (hfree : s.tasks.executing = none)
    (h : s.tasks.house.scenes.All fun i p => s.configured i = s.occupants p.zoneData) :
    s.SlotsInv where
  scenes := h
  copy a ha := by
    rw [hfree] at ha
    cases ha
  held a _ _ ha := by
    rw [hfree] at ha
    cases ha

/-- The properties of a scene are stored with a list that is recorded, or with the one that is. -/
theorem SlotsInv.setSceneProperties (h : s.SlotsInv) (hfree : s.tasks.executing = none)
    {sceneIndex : Byte} {p : SceneProperties} {configured : ℕ → List (Option Occupant)}
    (hself : configured sceneIndex.toNat = s.occupants p.zoneData)
    (hother : ∀ i, i ≠ sceneIndex.toNat → configured i = s.configured i)
    (hlt : sceneIndex.toNat < maxNumberOfScenes) :
    SlotsInv
      { s with
        tasks :=
          { s.tasks with house := s.tasks.house.setSceneProperties sceneIndex p }
        configured := configured } := by
  refine .of_free hfree fun i q hq => ?_
  obtain ⟨rfl, rfl, -⟩ | ⟨hi, hq⟩ | ⟨hi, -⟩ := Table.set_cases hq
  · exact hself
  · exact (hother i hi).trans (h.scenes i q hq)
  · exact absurd hlt hi

/-- A request without a list leaves the list of a scene alone. -/
theorem zoneData_editScene {get : Byte → Option ZoneProperties} {root : JsonT}
    {p p' : SceneProperties} (h : editScene get root p = .ok p') (hlist : listsZones root = false) :
    p'.zoneData = p.zoneData := by
  refine foldlM_invariant (I := fun q : SceneProperties => q.zoneData = p.zoneData)
    (fun q property q' hproperty hq hround => ?_) rfl (editScene_passes h)
  obtain ⟨-, ⟨-, hsame⟩ | ⟨hkey, -⟩⟩ := handleIndividualSceneProperty_cases hround
  · exact hsame.trans hq
  · rw [listsZones, List.any_eq_false] at hlist
    exact absurd (decide_eq_true hkey) (hlist property hproperty)

/-! ### Operations -/

theorem SlotsInv.createScene (h : s.SlotsInv) (hfree : s.tasks.executing = none) (root : JsonT)
    (garbage : SceneProperties) (nextTriggerTime : Dword) :
    SlotsInv
      { s with
        tasks := { s.tasks with
          house := (handleCreateScene s.tasks.house root garbage nextTriggerTime).1 }
        configured := s.configuredAfter
          (.operation (.createScene root garbage nextTriggerTime)) } := by
  simp only [configuredAfter, handleCreateScene, toNat_getAvailableSceneIndex]
  cases hedit : editScene s.tasks.house.getZoneProperties root (newScene garbage) with
  | error error =>
    split <;> exact h
  | ok p =>
    split
    · rename_i hlt
      refine h.setSceneProperties hfree ?_ (fun i hi => ?_) ?_
      · rw [toNat_getAvailableSceneIndex]
        exact Function.update_self ..
      · rw [toNat_getAvailableSceneIndex] at hi
        exact Function.update_of_ne hi ..
      · rwa [toNat_getAvailableSceneIndex]
    · rename_i hfull
      -- the slot that is recorded is none
      refine .of_free hfree fun i p hp => ?_
      have hi : i ≠ s.tasks.house.scenes.available :=
        fun heq => hfull (heq ▸ Table.lt_of_get hp)
      exact (Function.update_of_ne hi ..).trans (h.scenes i p hp)

theorem SlotsInv.handleSetSceneProperties (h : s.SlotsInv) (hfree : s.tasks.executing = none)
    (root : JsonT) (nextTriggerTime : Dword) :
    SlotsInv
      { s with
        tasks := { s.tasks with
          house := (handleSetSceneProperties s.tasks.house root nextTriggerTime).1 }
        configured :=
          s.configuredAfter (.operation (.setSceneProperties root nextTriggerTime)) } := by
  simp only [configuredAfter, House.handleSetSceneProperties]
  cases hscene : sceneOfRequest s.tasks.house root with
  | error error => exact h
  | ok value =>
    obtain ⟨sceneIndex, p⟩ := value
    have hp := sceneOfRequest_ok hscene
    cases hedit : editScene s.tasks.house.getZoneProperties root p with
    | error error =>
      simp only [bind, Except.bind, hedit]
      exact h
    | ok p' =>
      simp only [bind, Except.bind, hedit, pure, Except.pure]
      refine h.setSceneProperties hfree ?_ (fun i hi => ?_) (Table.lt_of_get hp)
      · cases hlist : listsZones root with
        | true => exact Function.update_self ..
        | false =>
          exact (h.scenes _ p hp).trans
            (congrArg s.occupants (zoneData_editScene hedit hlist).symm)
      · split
        · exact Function.update_of_ne hi ..
        · rfl

theorem configuredAfter_of_not_setsZones {e : Event} (h : e.setsZones = false) :
    s.configuredAfter (.operation e) = s.configured := by
  cases e with
  | createScene => cases h
  | setSceneProperties => cases h
  | _ => rfl

theorem addedZone_of_setsZones {st : State} {e : Event} (h : e.setsZones = true) :
    addedZone st e = none := by
  cases e with
  | createScene => rfl
  | setSceneProperties => rfl
  | _ => cases h

theorem SlotsInv.operation (h : s.SlotsInv) {e : Event}
    (hkeeps : s.keepsSlots (.operation e) = true) (hs : s.step (.operation e) = some s') :
    s'.SlotsInv := by
  obtain ⟨tasks, htasks, rfl⟩ := Option.map_eq_some_iff.1 hs
  simp only [Tasks.step] at htasks
  split at htasks
  · cases htasks
  rename_i hpossible
  rw [Bool.or_eq_true, not_or] at hpossible
  split at htasks
  · rename_i hreboot
    cases htasks
    cases e with
    | reboot addASceneController idString =>
      refine .of_free rfl fun i p hp => ?_
      obtain ⟨q, hq, rfl⟩ := Option.map_eq_some_iff.1 hp
      exact h.scenes i q hq
    | _ => cases hreboot
  · rename_i hreboot
    cases htasks
    cases hsets : e.setsZones with
    | true =>
      have hadded : s.occupantAfter (.operation e) = s.occupant := by
        rw [occupantAfter, addedZone_of_setsZones hsets]
      rw [hadded]
      -- these operations take the mutex
      have hlocks : e.locksScenes = true := by
        cases e with
        | createScene => rfl
        | setSceneProperties => rfl
        | _ => cases hsets
      have hfree : s.tasks.executing = none := by
        simpa [hlocks] using hpossible.2
      cases e with
      | createScene root garbage nextTriggerTime =>
        exact h.createScene hfree root garbage nextTriggerTime
      | setSceneProperties root nextTriggerTime =>
        exact h.handleSetSceneProperties hfree root nextTriggerTime
      | _ => cases hsets
    | false =>
      rw [configuredAfter_of_not_setsZones hsets]
      have hspare := h.of_sparing { s.tasks with house := next s.tasks.house e }
        (next_sparing s.tasks.house (Bool.eq_false_iff.2 hpossible.1) hsets
          (Bool.eq_false_iff.2 hreboot)) rfl
      have hafter : s.occupantAfter (.operation e) =
          match addedZone s.tasks.house e with
          | some (zoneIndex, o) => Function.update s.occupant zoneIndex (some o)
          | none => s.occupant := rfl
      rw [keepsSlots] at hkeeps
      cases hadded : addedZone s.tasks.house e with
      | none =>
        rw [hafter, hadded]
        exact hspare
      | some added =>
        obtain ⟨zoneIndex, o⟩ := added
        rw [hadded, Option.all_some] at hkeeps
        obtain ⟨hscenes, hcopy, hheld⟩ := h.add hkeeps
        rw [hafter, hadded]
        exact SlotsInv.of_sparing (s := { s with
            occupant := Function.update s.occupant zoneIndex (some o) })
          ⟨hscenes, hcopy, hheld⟩ { s.tasks with house := next s.tasks.house e }
          (next_sparing s.tasks.house (Bool.eq_false_iff.2 hpossible.1) hsets
            (Bool.eq_false_iff.2 hreboot)) rfl

/-! ### The tasks -/

theorem SlotsInv.start (h : s.SlotsInv) {caller : Caller} {objects : Objects}
    (hs : s.step (.start caller objects) = some s') : s'.SlotsInv := by
  obtain ⟨tasks, htasks, rfl⟩ := Option.map_eq_some_iff.1 hs
  simp only [Tasks.step] at htasks
  split at htasks
  · cases htasks
  rename_i hfree
  rw [Bool.not_eq_true, Option.isSome_eq_false_iff, Option.isNone_iff_eq_none] at hfree
  cases htasks
  cases hjob : job s.tasks.house caller with
  | none => exact h
  | some j =>
    obtain ⟨p, hp, hzones, -⟩ := job_cases hjob
    have hlist : s.configured j.x.sceneIndex.toNat = s.occupants j.scene.zoneData :=
      (h.scenes _ p hp).trans (congrArg s.occupants hzones.symm)
    simp only [Option.elim_some, Tasks.start]
    split
    · refine ⟨h.scenes, fun a ha => ?_, fun a q zone ha hstage => ?_⟩
      · cases ha
        exact hlist
      · cases ha
        cases hstage
    · refine h.setSceneProperties hfree (hlist.trans ?_) (fun _ _ => rfl) (Table.lt_of_get hp)
      rw [zoneData_triggered]

/-- The copy of the properties of a scene is stored. -/
theorem SlotsInv.finish (h : s.SlotsInv) {a : Executing} (ha : s.tasks.executing = some a) :
    SlotsInv { s with tasks := s.tasks.finish a } := by
  have hspare := Tasks.sparing_markToggled a.x s.tasks.house
  refine .of_free rfl fun i p hp => ?_
  have hold (hp : (markToggled a.x s.tasks.house).scenes.get i = some p) :
      s.configured i = s.occupants p.zoneData := by
    obtain ⟨q, hq, hzones, -⟩ := hspare.scenes i p hp
    exact (h.scenes i q hq).trans (congrArg s.occupants hzones.symm)
  obtain ⟨rfl, rfl, -⟩ | ⟨-, hp⟩ | ⟨-, hp⟩ := Table.set_cases hp
  · refine (h.copy a ha).trans (congrArg s.occupants ?_)
    rw [zoneData_triggered]
  · exact hold hp
  · exact hold hp

theorem SlotsInv.execute (h : s.SlotsInv) {round : Round}
    (hs : s.step (.execute round) = some s') : s'.SlotsInv := by
  obtain ⟨tasks, htasks, rfl⟩ := Option.map_eq_some_iff.1 hs
  obtain ⟨a, ha, rfl⟩ := Option.map_eq_some_iff.1 htasks
  simp only [configuredAfter, occupantAfter, heldAfter, ha, Tasks.execute, Executing.zone]
  cases hzone : a.scene.zoneData[a.zoneIndex]? with
  | none =>
    cases hstage : a.stage <;> exact h.finish ha
  | some zone =>
    dsimp only
    cases hstage : a.stage with
    | get =>
      dsimp only
      split
      · refine ⟨h.scenes, fun b hb => ?_, fun b q zone' hb hq hzone' => ?_⟩
        · cases hb
          exact h.copy a ha
        · -- this is where the copy comes from
          cases hb
          obtain rfl : zone = zone' := Option.some.inj (hzone.symm.trans hzone')
          rfl
      · refine ⟨h.scenes, fun b hb => ?_, fun b q zone' hb hq => ?_⟩
        · cases hb
          exact h.copy a ha
        · cases hb
          cases hq
    | set q =>
      dsimp only
      -- the slot is still that of the copy
      rw [h.held a q zone ha hstage hzone, Function.update_eq_self]
      refine ⟨h.scenes, fun b hb => ?_, fun b q zone' hb hq => ?_⟩
      · cases hb
        exact h.copy a ha
      · cases hb
        cases hq
    | send =>
      dsimp only
      refine ⟨fun i p hp => ?_, fun b hb => ?_, fun b q zone' hb hq => ?_⟩
      · obtain ⟨q, hq, hzones, -⟩ :=
          (sparing_sendRampCommandToTransmitTask s.tasks.house zone.zoneId ..).scenes i p hp
        exact (h.scenes i q hq).trans (congrArg s.occupants hzones.symm)
      · cases hb
        exact h.copy a ha
      · cases hb
        cases hq

/-- The end of a scene changes no list. -/
theorem zoneData_finishScene {m : RampMessage} {objects : Objects} {st : State} {i : ℕ}
    {p' : SceneProperties} (h : (finishScene m objects st).scenes.get i = some p') :
    ∃ p, st.scenes.get i = some p ∧ p'.zoneData = p.zoneData := by
  have hkeys := Table.keys_comp Prod.snd (calm_finishScene m objects st).scenes
  obtain ⟨p, hp, hzones⟩ := Table.exists_of_keys hkeys h
  exact ⟨p, hp, hzones.symm⟩

/-- The transmit task changes no list and no slot. -/
theorem SlotsInv.of_zoneData (h : s.SlotsInv) {tasks : Tasks}
    (hscenes : ∀ i p', tasks.house.scenes.get i = some p' →
      ∃ p, s.tasks.house.scenes.get i = some p ∧ p'.zoneData = p.zoneData)
    (hexecuting : tasks.executing = s.tasks.executing) : SlotsInv { s with tasks := tasks } where
  scenes i p' hp' := by
    obtain ⟨p, hp, hzones⟩ := hscenes i p' hp'
    exact (h.scenes i p hp).trans (congrArg s.occupants hzones.symm)
  copy a ha := h.copy a (hexecuting ▸ ha)
  held a p zone ha hstage hzone := h.held a p zone (hexecuting ▸ ha) hstage hzone

theorem SlotsInv.transmit (h : s.SlotsInv) {objects : Objects} {ackByte : Bool}
    (hs : s.step (.transmit objects ackByte) = some s') : s'.SlotsInv := by
  obtain ⟨tasks, htasks, rfl⟩ := Option.map_eq_some_iff.1 hs
  obtain ⟨t, -, htasks⟩ := Option.bind_eq_some_iff.1 htasks
  cases hpart : t.part with
  | zone =>
    rw [hpart] at htasks
    cases htasks
    unfold Tasks.zonePart
    split
    · exact h.of_sparing _ (.refl _) rfl
    · rename_i house hramp
      exact h.of_sparing _ (Tasks.sparing_transmitRamp hramp) rfl
  | scene =>
    rw [hpart] at htasks
    dsimp only at htasks
    split at htasks
    · cases htasks
    · cases htasks
      exact h.of_zoneData (fun i p' hp' => zoneData_finishScene hp') rfl
  | ack =>
    rw [hpart] at htasks
    cases htasks
    exact h.of_sparing _ (.refl _) rfl

/-! ### Runs -/

theorem slotsInv_initial : initial.SlotsInv := .of_free rfl Table.all_empty

/-- **A step** that meets the condition keeps the invariant. -/
theorem SlotsInv.step (h : s.SlotsInv) (e : TaskEvent) (hkeeps : s.keepsSlots e = true)
    (hs : s.step e = some s') : s'.SlotsInv := by
  cases e with
  | operation e => exact h.operation hkeeps hs
  | start caller objects => exact h.start hs
  | execute round => exact h.execute hs
  | receive =>
    obtain ⟨tasks, htasks, rfl⟩ := Option.map_eq_some_iff.1 hs
    simp only [Tasks.step] at htasks
    split at htasks
    · cases htasks
      exact h.of_zoneData (fun i p hp => ⟨p, hp, rfl⟩) rfl
    · cases htasks
  | transmit objects ackByte => exact h.transmit hs

end Tracked

/-- A dimmer is added. -/
def addDimmer (groupId : Word) : List TaskEvent :=
  [.operation (.addALight .true),
    .operation
      (.received ⟨.handleRampReceived 1 5 groupId 100 dimmerType, fullPower_le⟩ freeCall)]

/-- A scene with a dimmer is created; the dimmer is deleted, another one is added, and the scene is
run, up to its command. -/
def runSceneAfterDeletion (groupId : Word) : List TaskEvent :=
  addDimmer 1 ++
  [.operation (createScene [("Name", .string "Evening"),
      ("ZoneList", .array [.object [("ZID", .integer 0), ("Lvl", .integer 50)]])]),
    .operation (.deleteZone (.object [("ZID", .integer 0)]))] ++
  addDimmer groupId ++
  .start (.runScene (.object [("SID", .integer 0)])) ⟨true, true⟩ ::
    List.replicate 2 (.execute freeRound)

end House

end Lcm
