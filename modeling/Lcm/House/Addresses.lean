import Lcm.House.Slots

/-!
# The addresses of the zones

A ramp that waits in the queue names its zone by the group, the building and the house, and the
transmit task looks the zone up again by these.  The record of the devices in the slots is continued
here: beside each message it keeps the slot and the device that the message was queued for.

## Main definitions

* `DistinctAddresses` : no two zones have the same address.
* `queued` : the message that a step queues, and the slot that it is for.
* `Routed`, `Routed.step`, `routedMachine` : the tasks with the record.
* `WellRouted` : the addresses are distinct, and the message that is transmitted reaches no device
  but the one it was queued for, which it finds unless that has been deleted.
* `keepsAddresses` : the condition on the steps.

## Main results

* `transmitQueue_next` : the messages that operations queue.
* `map_fst_waitingAfter` : the record is one of the messages in the queue.
* `allStates_wellRouted` : the property holds as long as the steps meet the condition.
* `not_allStates_wellRouted` : it does not always hold.
-/

namespace Lcm

namespace House

open Scenes SceneControllers
open Services (Error)

/-- No two zones have the same address. -/
def DistinctAddresses (st : State) : Prop :=
  ∀ i j a, HasAddress st i a → HasAddress st j a → i = j

/-- The address in a message. -/
def RampMessage.address (m : RampMessage) : Word × Byte × Byte :=
  (m.groupId, m.buildingId, m.houseId)

/-! ### What is queued -/

/-- The message of `SendRampCommandToTransmitTask`, if it gets into the queue. -/
def State.rampMessage (st : State) (zoneIndex sceneId scenePercent : Byte) (priority run : ℕ)
    (sending : State.Sending) : Option RampMessage :=
  if sending.allocated && sending.sent then
    (st.getZoneProperties zoneIndex).map fun zoneProperties =>
      ⟨priority, zoneProperties.groupId, zoneProperties.buildingId, zoneProperties.houseId, sceneId,
        scenePercent, run⟩
  else none

/-- The message that an operation queues, and the slot that it is for. -/
def queued (st : State) : Event → Option (RampMessage × ℕ)
  | .setZoneProperties root errorFlag sending =>
    let edited := do
      let (zoneIndex, p) ←
        lookup st.getZoneProperties zoneNamed maxNumberOfZones setZoneErrors (root.get "ZID")
      let edit ← editZone root errorFlag p
      pure (zoneIndex, edit)
    match edited with
    | .ok (zoneIndex, some edit) =>
      if edit.sendToTransmitQueueFlag then
        (st.rampMessage zoneIndex 101 0 highPriority 0 sending).map (·, zoneIndex.toNat)
      else none
    | _ => none
  | .adjustDeviceLevel deviceId _ sending =>
    (st.rampMessage (BitVec.ofNat 8 (st.zoneOfDevice deviceId)) 101 0 highPriority 0 sending).map
      (·, st.zoneOfDevice deviceId)
  | .setDeviceState deviceId _ _ sending =>
    if (st.zones.get (st.zoneOfDevice deviceId)).any isShade then none
    else
      (st.rampMessage (BitVec.ofNat 8 (st.zoneOfDevice deviceId)) 101 0 highPriority 0 sending).map
        (·, st.zoneOfDevice deviceId)
  | _ => none

/-- The message that a step of the tasks queues, and the slot that it is for. -/
def Tasks.queued (s : Tasks) : TaskEvent → Option (RampMessage × ℕ)
  | .operation e => House.queued s.house e
  | .execute round =>
    match s.executing with
    | some a =>
      match a.stage, a.zone with
      | .send, some zone =>
        (s.house.rampMessage zone.zoneId a.x.sceneIndex
          (scenePercent a.zoneIndex a.scene.zoneData.length) lowPriority a.number
          round.sending).map (·, zone.zoneId.toNat)
      | _, _ => none
    | none => none
  | _ => none

section Queue

variable {st st' : State}

theorem sendRampCommandToTransmitTask_eq (st : State)
    (zoneIndex sceneId scenePercent : Byte) (priority run : ℕ) (sending : State.Sending) :
    st.sendRampCommandToTransmitTask zoneIndex sceneId scenePercent priority run sending =
      (st.rampMessage zoneIndex sceneId scenePercent priority run sending).elim st st.enqueue := by
  obtain ⟨allocated, sent⟩ := sending
  unfold State.sendRampCommandToTransmitTask State.rampMessage
  cases st.getZoneProperties zoneIndex <;> cases allocated <;> cases sent <;> rfl

/-- The queue, with a message if there is one. -/
def inserted (transmitQueue : List RampMessage) : Option RampMessage → List RampMessage
  | none => transmitQueue
  | some m =>
    transmitQueue.takeWhile (m.priority ≤ ·.priority) ++
      m :: transmitQueue.dropWhile (m.priority ≤ ·.priority)

theorem transmitQueue_sendRampCommandToTransmitTask (st : State)
    (zoneIndex sceneId scenePercent : Byte) (priority run : ℕ) (sending : State.Sending) :
    (st.sendRampCommandToTransmitTask zoneIndex sceneId scenePercent priority run
        sending).transmitQueue =
      inserted st.transmitQueue
        (st.rampMessage zoneIndex sceneId scenePercent priority run sending) := by
  rw [sendRampCommandToTransmitTask_eq]
  cases st.rampMessage zoneIndex sceneId scenePercent priority run sending <;> rfl

/-- A message has the address of the zone it is for. -/
theorem address_rampMessage {zoneIndex sceneId scenePercent : Byte} {priority run : ℕ}
    {sending : State.Sending} {m : RampMessage}
    (h : st.rampMessage zoneIndex sceneId scenePercent priority run sending = some m) :
    HasAddress st zoneIndex.toNat m.address := by
  unfold State.rampMessage at h
  split at h
  · obtain ⟨p, hp, rfl⟩ := Option.map_eq_some_iff.1 h
    exact ⟨p, hp, rfl⟩
  · cases h

/-- A message does not depend on the levels. -/
theorem rampMessage_congr {zoneIndex : Byte} {p q : ZoneProperties}
    (hp : st.getZoneProperties zoneIndex = some p)
    (hq : st'.getZoneProperties zoneIndex = some q) (haddress : addressOf q = addressOf p)
    (sceneId scenePercent : Byte) (priority run : ℕ) (sending : State.Sending) :
    st'.rampMessage zoneIndex sceneId scenePercent priority run sending =
      st.rampMessage zoneIndex sceneId scenePercent priority run sending := by
  simp only [addressOf, Prod.mk.injEq] at haddress
  obtain ⟨hgroup, hbuilding, hhouse⟩ := haddress
  unfold State.rampMessage
  rw [hp, hq, Option.map_some, Option.map_some, hgroup, hbuilding, hhouse]

theorem transmitQueue_clearHouseID (st : State) :
    st.clearHouseID.transmitQueue = st.transmitQueue := by
  unfold State.clearHouseID
  split <;> rfl

theorem transmitQueue_adoptHouseID (st : State) (houseId : Byte) :
    (st.adoptHouseID houseId).transmitQueue = st.transmitQueue := by
  unfold State.adoptHouseID
  split <;> rfl

theorem transmitQueue_handleTargetValue (st : State) (value zoneIdx : Byte) :
    (handleTargetValue st value zoneIdx).transmitQueue = st.transmitQueue := by
  unfold handleTargetValue
  split <;> rfl

theorem transmitQueue_handleRampReceived (st : State) (buildingId houseId : Byte) (groupId : Word)
    (value deviceType : Byte) (EliotDeviceId : CString eliotDeviceIdSize) :
    (handleRampReceived st buildingId houseId groupId value deviceType
      EliotDeviceId).transmitQueue = st.transmitQueue := by
  have hadopt := transmitQueue_adoptHouseID st houseId
  unfold handleRampReceived
  dsimp only
  split_ifs
  · exact hadopt
  · exact hadopt
  · exact (transmitQueue_handleTargetValue ..).trans hadopt
  · exact hadopt
  · exact transmitQueue_handleTargetValue ..
  · rfl
  · rfl

theorem transmitQueue_handleSceneControllerCommandReceived (st : State)
    (sceneControllerIndex buildingId houseId : Byte) (groupId : Word)
    (garbage : SceneControllerGarbage) :
    (handleSceneControllerCommandReceived st sceneControllerIndex buildingId houseId groupId
      garbage).transmitQueue = st.transmitQueue := by
  obtain ⟨-, heq⟩ | ⟨-, heq⟩ := handleSceneControllerCommandReceived_cases st
    sceneControllerIndex buildingId houseId groupId garbage
  all_goals
    rw [heq]
    exact transmitQueue_adoptHouseID st houseId

theorem transmitQueue_addIfUnknown (st : State) (name identifier : List Byte) (isGroup : Bool)
    (garbage : ShadeGarbage) :
    (addIfUnknown st name identifier isGroup garbage).transmitQueue = st.transmitQueue := by
  unfold addIfUnknown addAShade
  dsimp only
  split
  · split
    · split <;> rfl
    · rfl
  · rfl

theorem transmitQueue_handleCall (st : State) (env : CallEnv) {call : ReceivedCall}
    (h : (Event.received call env).isLonger st = false) :
    (handleCall st env call).transmitQueue = st.transmitQueue := by
  obtain ⟨call, hcall⟩ := call
  have hadd (hlonger : (!st.addASceneController) = false) : st.addASceneController = true := by
    simpa using hlonger
  cases call with
  | handleRampReceived buildingId houseId groupId value deviceType =>
    exact transmitQueue_handleRampReceived ..
  | handleSceneControllerMasterOff buildingId houseId groupId _ rampRate =>
    rw [handleCall, handleSceneControllerMasterOff, if_pos (hadd h)]
    exact transmitQueue_handleSceneControllerCommandReceived ..
  | handleSceneControllerSceneRequest buildingId houseId groupId bankIndex state _ rampRate =>
    rw [handleCall, handleSceneControllerSceneRequest, if_pos (hadd h)]
    exact transmitQueue_handleSceneControllerCommandReceived ..
  | handleSceneControllerSceneAdjust buildingId houseId groupId sceneIdx value change rampRate =>
    rw [handleCall, handleSceneControllerSceneAdjust, if_pos (hadd h)]
    exact transmitQueue_handleSceneControllerCommandReceived ..
  | _ => rfl

theorem transmitQueue_handleSetZoneProperties (st : State) (root : JsonT) (errorFlag : Bool)
    (sending : State.Sending) :
    (handleSetZoneProperties st root errorFlag sending).1.transmitQueue =
      inserted st.transmitQueue
        ((queued st (.setZoneProperties root errorFlag sending)).map Prod.fst) := by
  unfold handleSetZoneProperties
  simp only [queued]
  split
  · rename_i hedited
    rw [hedited]
    rfl
  · rename_i hedited
    rw [hedited]
    rfl
  · rename_i zoneIndex edit hedited
    rw [hedited]
    dsimp only
    split
    · rw [Option.map_map]
      exact (transmitQueue_sendRampCommandToTransmitTask ..).trans
        (congrArg _ (Option.map_id' (x := _)).symm)
    · rfl

/-- Storing changed properties of a zone does not change what is queued for it. -/
theorem transmitQueue_send_set {i : ℕ} {p q : ZoneProperties} (hp : st.zones.get i = some p)
    (hdevice : deviceOf q = deviceOf p) (sending : State.Sending) :
    ((st.setZoneProperties (BitVec.ofNat 8 i) q).sendRampCommandToTransmitTask (BitVec.ofNat 8 i)
        101 0 highPriority 0 sending).transmitQueue =
      inserted st.transmitQueue
        (st.rampMessage (BitVec.ofNat 8 i) 101 0 highPriority 0 sending) := by
  have hgot := getZoneProperties_ofNat hp
  have hi : (BitVec.ofNat 8 i).toNat < maxNumberOfZones := Table.lt_of_get hgot
  have hnamed : zoneNamed q = true :=
    (zoneNamed_congr hdevice).trans (Table.named_of_get _ _ _ hp)
  have hset : (st.setZoneProperties (BitVec.ofNat 8 i) q).getZoneProperties (BitVec.ofNat 8 i) =
      some q := Table.get_set_named hi hnamed
  rw [transmitQueue_sendRampCommandToTransmitTask,
    rampMessage_congr hgot hset (addressOf_congr hdevice)]
  rfl

theorem rampMessage_of_none {i : ℕ} (hi : i ≤ maxNumberOfZones) (hp : st.zones.get i = none)
    (sending : State.Sending) :
    st.rampMessage (BitVec.ofNat 8 i) 101 0 highPriority 0 sending = none := by
  have hindex : (BitVec.ofNat 8 i).toNat = i :=
    toNat_ofNat_of_lt (Nat.lt_of_le_of_lt hi (by decide))
  unfold State.rampMessage
  rw [State.getZoneProperties, hindex, hp, Option.map_none, ite_self]

theorem zoneOfDevice_le (st : State) (deviceId : List Byte) :
    st.zoneOfDevice deviceId ≤ maxNumberOfZones := by
  have h : st.zoneOfDevice deviceId ≤ (List.range maxNumberOfZones).length :=
    List.findIdx_le_length
  rwa [List.length_range] at h

theorem transmitQueue_adjustDeviceLevel (st : State) (deviceId : List Byte) (delta : Word)
    (sending : State.Sending) :
    (adjustDeviceLevel st deviceId delta sending).transmitQueue =
      inserted st.transmitQueue
        ((queued st (.adjustDeviceLevel deviceId delta sending)).map Prod.fst) := by
  simp only [queued, Option.map_map, Function.comp_def, Option.map_id']
  unfold adjustDeviceLevel
  dsimp only
  cases hp : st.zones.get (st.zoneOfDevice deviceId) with
  | none =>
    rw [rampMessage_of_none (zoneOfDevice_le st deviceId) hp]
    rfl
  | some p => exact transmitQueue_send_set hp (deviceOf_adjustLevel delta p) sending

theorem transmitQueue_setDeviceState (st : State) (deviceId : List Byte) (state level : Word)
    (sending : State.Sending) :
    (setDeviceState st deviceId state level sending).transmitQueue =
      inserted st.transmitQueue
        ((queued st (.setDeviceState deviceId state level sending)).map Prod.fst) := by
  simp only [queued]
  unfold setDeviceState
  dsimp only
  cases hp : st.zones.get (st.zoneOfDevice deviceId) with
  | none =>
    rw [rampMessage_of_none (zoneOfDevice_le st deviceId) hp]
    rfl
  | some p =>
    have hdevice := deviceOf_setState state level p
    dsimp only
    rw [isShade_congr hdevice, Option.any_some]
    split
    · rfl
    · rw [Option.map_map]
      exact (transmitQueue_send_set hp hdevice sending).trans
        (congrArg _ (Option.map_id' (x := _)).symm)

/-- **What an operation queues** that is one step. -/
theorem transmitQueue_next (st : State) {e : Event} (hlonger : e.isLonger st = false)
    (hreboot : e.isReboot = false) :
    (next st e).transmitQueue = inserted st.transmitQueue ((queued st e).map Prod.fst) := by
  cases e with
  | setZoneProperties root errorFlag sending =>
    exact transmitQueue_handleSetZoneProperties st root errorFlag sending
  | deleteZone root =>
    obtain heq | ⟨zoneIndex, p, st', -, rfl | rfl, heq⟩ := handleDeleteZone_cases st root
    all_goals
      rw [next, heq]
      exact transmitQueue_clearHouseID _
  | triggerRamp root EliotDeviceId =>
    simp only [next, handleTriggerRampCommand]
    split
    · rfl
    · exact transmitQueue_handleRampReceived ..
  | triggerRampAll root =>
    simp only [next, handleTriggerRampAllCommand]
    split
    · rfl
    · split <;> rfl
  | createScene root garbage nextTriggerTime =>
    obtain heq | ⟨_, -, -, heq⟩ := handleCreateScene_cases st root garbage nextTriggerTime
    all_goals
      rw [next, heq]
      rfl
  | setSceneProperties root nextTriggerTime =>
    obtain heq | ⟨_, _, _, -, -, heq⟩ := handleSetSceneProperties_cases st root nextTriggerTime
    all_goals
      rw [next, heq]
      rfl
  | deleteScene root =>
    obtain heq | ⟨_, _, -, heq⟩ := handleDeleteScene_cases st root
    all_goals
      rw [next, heq]
      rfl
  | runScene => cases hlonger
  | setSceneControllerProperties root commands =>
    obtain heq | ⟨_, _, _, -, -, heq⟩ := handleSetSceneControllerProperties_cases st root commands
    all_goals
      rw [next, heq]
      rfl
  | deleteSceneController root commands =>
    obtain heq | heq | ⟨_, _, -, heq⟩ := handleDeleteSceneController_cases st root commands
    · rw [next, heq]
      rfl
    · rw [next, heq]
      exact transmitQueue_clearHouseID _
    · rw [next, heq]
      exact transmitQueue_clearHouseID _
  | triggerSceneController root env garbage =>
    simp only [next, handleTriggerSceneControllerCommand]
    split
    · rfl
    · rw [handleSceneControllerSceneRequest, if_pos (by simpa [Event.isLonger] using hlonger)]
      exact transmitQueue_handleSceneControllerCommandReceived ..
  | addALight valueObject =>
    simp only [next, addALightProperty]
    split_ifs <;> rfl
  | addASceneController valueObject =>
    simp only [next, addASceneControllerProperty]
    split_ifs <;> rfl
  | received call env => exact transmitQueue_handleCall st env hlonger
  | checkScenes => cases hlonger
  | devicesInfo element garbage =>
    simp only [next, handleDevicesInfoResponse]
    split
    · split
      · exact transmitQueue_addIfUnknown ..
      · rfl
    · rfl
  | qmotionGroups element garbage =>
    simp only [next, handleQmotionGroupsResponse]
    split
    · exact transmitQueue_addIfUnknown ..
    · rfl
  | qmotionStatus element changedThisMinute lastLowPowerSetting =>
    simp only [next, handleQmotionStatusResponse]
    split
    · rfl
    · split <;> rfl
  | adjustDeviceLevel deviceId delta sending =>
    exact transmitQueue_adjustDeviceLevel st deviceId delta sending
  | setDeviceState deviceId state level sending =>
    exact transmitQueue_setDeviceState st deviceId state level sending
  | setSceneState => cases hlonger
  | setZoneDeviceId zoneIndex id =>
    simp only [next, setZoneDeviceId]
    split <;> rfl
  | setSceneDeviceId => cases hlonger
  | transmit => cases hlonger
  | reboot => cases hreboot
  | _ => rfl

/-- **What is queued** has the address of the zone, and nothing that queues a message adds one. -/
theorem queued_cases {e : Event} {m : RampMessage} {z : ℕ} (h : queued st e = some (m, z)) :
    HasAddress st z m.address ∧ addedZone st e = none := by
  have hindex (deviceId : List Byte) :
      (BitVec.ofNat 8 (st.zoneOfDevice deviceId)).toNat = st.zoneOfDevice deviceId :=
    toNat_ofNat_of_lt (Nat.lt_of_le_of_lt (zoneOfDevice_le st deviceId) (by decide))
  cases e with
  | setZoneProperties root errorFlag sending =>
    simp only [queued] at h
    split at h
    · split at h
      · obtain ⟨m, hm, heq⟩ := Option.map_eq_some_iff.1 h
        cases heq
        exact ⟨address_rampMessage hm, rfl⟩
      · cases h
    · cases h
  | adjustDeviceLevel deviceId delta sending =>
    obtain ⟨m, hm, heq⟩ := Option.map_eq_some_iff.1 h
    cases heq
    exact ⟨hindex deviceId ▸ address_rampMessage hm, rfl⟩
  | setDeviceState deviceId state level sending =>
    simp only [queued] at h
    split at h
    · cases h
    · obtain ⟨m, hm, heq⟩ := Option.map_eq_some_iff.1 h
      cases heq
      exact ⟨hindex deviceId ▸ address_rampMessage hm, rfl⟩
  | _ => cases h

end Queue

/-! ### The record -/

/-- What a message was queued for. -/
structure Recipient where
  /-- The slot of the zone. -/
  slot : ℕ
  /-- The device that it was given to. -/
  device : Option Occupant
  /-- The zone has been deleted since. -/
  deleted : Bool

/-- The slot is free. -/
def Recipient.after (house : State) (r : Recipient) : Recipient :=
  { r with deleted := r.deleted || (house.zones.get r.slot).isNone }

/-- The tasks with a record of the devices and of the messages. -/
structure Routed where
  /-- The record of the devices. -/
  tracked : Tracked
  /-- The messages in the queue, and what they were queued for. -/
  waiting : List (RampMessage × Recipient)
  /-- What the message that is transmitted was queued for. -/
  inHand : Option Recipient

namespace Routed

variable (s : Routed)

/-- Nothing is recorded. -/
def initial : Routed := ⟨Tracked.initial, [], none⟩

/-- The house. -/
abbrev house : State := s.tracked.tasks.house

/-- A message is put into the record where it is put into the queue. -/
def insertedWaiting : Option (RampMessage × ℕ) → List (RampMessage × Recipient)
  | none => s.waiting
  | some (m, z) =>
    s.waiting.takeWhile (m.priority ≤ ·.1.priority) ++
      (m, ⟨z, s.tracked.occupant z, false⟩) ::
        s.waiting.dropWhile (m.priority ≤ ·.1.priority)

/-- The record of the queue after a step. -/
def waitingAfter (e : TaskEvent) : List (RampMessage × Recipient) :=
  match e with
  | .operation (.reboot _ _) => []
  | .receive => s.waiting.tail
  | e => s.insertedWaiting (s.tracked.tasks.queued e)

/-- The record of the message that is transmitted after a step. -/
def inHandAfter (e : TaskEvent) : Option Recipient :=
  match e with
  | .operation (.reboot _ _) => none
  | .receive => s.waiting.head?.map Prod.snd
  | _ => s.inHand

/-- A step of the tasks, and what is recorded about it. -/
def step (e : TaskEvent) : Option Routed :=
  (s.tracked.step e).map fun tracked =>
    ⟨tracked, (s.waitingAfter e).map (Prod.map id (Recipient.after tracked.tasks.house)),
      (s.inHandAfter e).map (Recipient.after tracked.tasks.house)⟩

/-- **The property**: the addresses are distinct, and where the transmit task looks up the zone of
its message, it finds the zone it was queued for, unless that has been deleted; and what it finds
is given to the same device. -/
structure WellRouted (s : Routed) : Prop where
  distinct : DistinctAddresses s.house
  finds : ∀ t r, s.tracked.tasks.transmitting = some t → t.part = .zone → s.inHand = some r →
    r.deleted = false →
      (s.house.getZoneIndex t.message.groupId t.message.buildingId t.message.houseId).toNat =
        r.slot
  drives : ∀ t r z, s.tracked.tasks.transmitting = some t → t.part = .zone → s.inHand = some r →
    (s.house.getZoneIndex t.message.groupId t.message.buildingId t.message.houseId).toNat = z →
      z < maxNumberOfZones → s.tracked.occupant z = r.device

/-- No other zone has the address, and no message that carries it is for another device. -/
def isFree (z : ℕ) (o : Occupant) : Bool :=
  let a := o.address z
  let isOther (m : RampMessage) (r : Recipient) : Bool := m.address = a && r.device ≠ some o
  (List.range maxNumberOfZones).all
      (fun i => i = z || !(s.house.zones.get i).any fun p => addressOf p = a) &&
    s.waiting.all (fun (m, r) => !isOther m r) &&
    s.tracked.tasks.transmitting.all fun t => s.inHand.all fun r => !isOther t.message r

/-- The device that a step stores, and its slot: it is added, or the task that executes a scene
stores the properties that it has copied. -/
def stored : TaskEvent → Option (ℕ × Occupant)
  | .operation e => addedZone s.house e
  | .execute _ =>
    match s.tracked.tasks.executing with
    | some a =>
      match a.stage, a.zone with
      | .set _, some zone => s.tracked.held.map (zone.zoneId.toNat, ·)
      | _, _ => none
    | none => none
  | _ => none

/-- The steps after which the addresses are distinct and the messages find their zones: what is
stored has an address that is free, and its slot is free or is its own. -/
def keepsAddresses (e : TaskEvent) : Bool :=
  (s.stored e).all fun (z, o) =>
    s.isFree z o && ((s.house.zones.get z).isNone || s.tracked.occupant z = some o)

end Routed

/-- **The machine**: nothing is stored at first. -/
def routedMachine : Machine Routed TaskEvent where
  init s := s = Routed.initial
  step := Routed.step

/-- **The record does not interfere** with the tasks. -/
theorem step_tracked (s : Routed) (e : TaskEvent) :
    (routedMachine.step s e).map Routed.tracked = trackedMachine.step s.tracked e := by
  show ((s.tracked.step e).map _).map Routed.tracked = s.tracked.step e
  rw [Option.map_map]
  exact Option.map_id'

namespace Routed

variable {s s' : Routed} {m : RampMessage} {r : Recipient}

/-! ### The invariant -/

/-- A message is for the device that it finds; while its zone is there, that has its address. -/
structure Routes (s : Routed) (m : RampMessage) (r : Recipient) : Prop where
  device : ∀ z, HasAddress s.house z m.address → s.tracked.occupant z = r.device
  slot : r.deleted = false → HasAddress s.house r.slot m.address

/-- **The invariant**: the address of a zone is that of its device, and the messages are routed. -/
structure RoutesInv (s : Routed) : Prop where
  /-- The record of the queue. -/
  queue : s.waiting.map Prod.fst = s.house.transmitQueue
  /-- The addresses. -/
  distinct : DistinctAddresses s.house
  /-- The zones. -/
  home : ∀ z a, HasAddress s.house z a → ∃ o, s.tracked.occupant z = some o ∧ a = o.address z
  /-- The copy of the task that executes a scene. -/
  held : ∀ a p zone, s.tracked.tasks.executing = some a → a.stage = .set p → a.zone = some zone →
    ∃ o, s.tracked.held = some o ∧ addressOf p = o.address zone.zoneId.toNat
  /-- The messages in the queue. -/
  waiting : ∀ m r, (m, r) ∈ s.waiting → s.Routes m r
  /-- The message that is transmitted. -/
  inHand : ∀ t, s.tracked.tasks.transmitting = some t →
    ∃ r, s.inHand = some r ∧ s.Routes t.message r

/-- The zone that the transmit task looks up. -/
theorem toNat_getZoneIndex {st : State} {z : ℕ} (hdistinct : DistinctAddresses st)
    (h : HasAddress st z m.address) :
    (st.getZoneIndex m.groupId m.buildingId m.houseId).toNat = z := by
  obtain ⟨p, hp, haddress⟩ := h
  obtain ⟨hgroup, hbuilding, hhouse⟩ :
      p.groupId = m.groupId ∧ p.buildingId = m.buildingId ∧ p.houseId = m.houseId := by
    simpa [addressOf, RampMessage.address] using haddress
  have hz : z < 100 := Table.lt_of_get hp
  rw [State.getZoneIndex, (Table.find_eq_iff (Table.lt_of_get hp)).2, toNat_ofNat_of_lt (by omega)]
  refine ⟨⟨p, hp, ?_⟩, fun j hj q hq => Bool.eq_false_iff.2 fun hfound => ?_⟩
  · simp [hgroup, hbuilding, hhouse, Table.named_of_get _ _ _ hp]
  · simp only [Bool.and_eq_true, decide_eq_true_eq] at hfound
    have hsame : addressOf q = m.address := by
      rw [addressOf, RampMessage.address, hfound.1.1.2, hfound.1.2, hfound.2]
    exact absurd (hdistinct j z _ ⟨q, hq, hsame⟩ ⟨p, hp, haddress⟩) (Nat.ne_of_lt hj)

/-- What the transmit task finds has the address. -/
theorem hasAddress_getZoneIndex {st : State}
    (h : (st.getZoneIndex m.groupId m.buildingId m.houseId).toNat < maxNumberOfZones) :
    HasAddress st (st.getZoneIndex m.groupId m.buildingId m.houseId).toNat m.address := by
  have hle : (st.zones.find fun p => zoneNamed p && p.groupId = m.groupId &&
      p.buildingId = m.buildingId && p.houseId = m.houseId) ≤
        (List.range maxNumberOfZones).length := List.findIdx_le_length
  rw [List.length_range] at hle
  rw [State.getZoneIndex, toNat_ofNat_of_lt (Nat.lt_of_le_of_lt hle (by decide))] at h ⊢
  obtain ⟨p, hp, hfound⟩ := Table.exists_get_find h
  simp only [Bool.and_eq_true, decide_eq_true_eq] at hfound
  refine ⟨p, hp, ?_⟩
  rw [addressOf, RampMessage.address, hfound.1.1.2, hfound.1.2, hfound.2]

/-- **What the invariant is for.** -/
theorem RoutesInv.wellRouted (h : s.RoutesInv) : s.WellRouted where
  distinct := h.distinct
  finds t r ht _ hr hdeleted := by
    obtain ⟨r', hr', hroutes⟩ := h.inHand t ht
    obtain rfl : r = r' := Option.some.inj (hr.symm.trans hr')
    exact toNat_getZoneIndex h.distinct (hroutes.slot hdeleted)
  drives t r z ht _ hr hz hlt := by
    obtain ⟨r', hr', hroutes⟩ := h.inHand t ht
    obtain rfl : r = r' := Option.some.inj (hr.symm.trans hr')
    subst hz
    exact hroutes.device _ (hasAddress_getZoneIndex hlt)

/-! ### Steps -/

/-- A device that is added gets a slot that is free. -/
theorem get_of_addedZone {st : State} {e : Event} {z : ℕ} {o : Occupant}
    (h : addedZone st e = some (z, o)) : st.zones.get z = none := by
  have hramp {buildingId houseId : Byte} {groupId : Word}
      (h : rampAddition st buildingId houseId groupId = some (z, o)) :
      st.zones.get z = none := by
    unfold rampAddition at h
    split at h
    · rename_i hadds
      cases h
      exact Table.get_available (addsZone_eq_true.1 hadds).2.2.2
    · cases h
  have hshade {name identifier : List Byte}
      (h : shadeAddition st name identifier = some (z, o)) : st.zones.get z = none := by
    unfold shadeAddition at h
    split at h
    · rename_i hadds
      cases h
      exact Table.get_available hadds.2.1
    · cases h
  unfold addedZone at h
  split at h
  · split at h
    · exact hramp h
    · cases h
  · exact hramp h
  · split at h
    · split at h
      · exact hshade h
      · cases h
    · cases h
  · split at h
    · exact hshade h
    · cases h
  · cases h

/-- The zones and the record of the devices are the same. -/
theorem hasAddress_same {z : ℕ} {a : Word × Byte × Byte} (hzones : s'.house.zones = s.house.zones)
    (hoccupant : s'.tracked.occupant = s.tracked.occupant) (h : HasAddress s'.house z a) :
    HasAddress s.house z a ∧ s'.tracked.occupant z = s.tracked.occupant z :=
  ⟨h.of_zones hzones, congrFun hoccupant z⟩

/-- **What a step does to the addresses**: only what is stored gets one. -/
theorem hasAddress_step (h : s.RoutesInv) {e : TaskEvent} (hs : s.step e = some s') {z : ℕ}
    {a : Word × Byte × Byte} (ha : HasAddress s'.house z a) :
    HasAddress s.house z a ∧ s'.tracked.occupant z = s.tracked.occupant z ∨
      ∃ o, s.stored e = some (z, o) ∧ a = o.address z ∧ s'.tracked.occupant z = some o := by
  obtain ⟨tracked, htracked, rfl⟩ := Option.map_eq_some_iff.1 hs
  obtain ⟨tasks, htasks, rfl⟩ := Option.map_eq_some_iff.1 htracked
  cases e with
  | operation e =>
    have hnext : HasAddress (next s.house e) z a := by
      simp only [Tasks.step] at htasks
      split at htasks
      · cases htasks
      · split at htasks <;> cases htasks <;> exact ha
    dsimp only [stored, Tracked.occupantAfter]
    obtain hold | ⟨o, hadded, rfl⟩ := hasAddress_next hnext
    · refine .inl ⟨hold, ?_⟩
      cases hadded : addedZone s.house e with
      | none => rfl
      | some added =>
        -- the slot of a device that is added was free
        obtain ⟨p, hp, -⟩ := hold
        have hne : z ≠ added.1 := by
          rintro rfl
          exact Option.some_ne_none p (hp.symm.trans (get_of_addedZone hadded))
        exact Function.update_of_ne hne ..
    · refine .inr ⟨o, hadded, rfl, ?_⟩
      rw [hadded]
      exact Function.update_self ..
  | start caller objects =>
    refine .inl (hasAddress_same ?_ rfl ha)
    simp only [Tasks.step] at htasks
    split at htasks
    · cases htasks
    · cases htasks
      cases job s.house caller with
      | none => rfl
      | some j =>
        simp only [Option.elim_some, Tasks.start]
        split <;> rfl
  | execute round =>
    obtain ⟨x, hx, rfl⟩ := Option.map_eq_some_iff.1 htasks
    simp only [stored, Tracked.occupantAfter, hx, Executing.zone, Tasks.execute] at ha ⊢
    cases hzone : x.scene.zoneData[x.zoneIndex]? with
    | none =>
      rw [hzone] at ha
      have hzones : (s.tracked.tasks.finish x).house.zones = s.house.zones := by
        simp only [Tasks.finish, markToggled]
        split
        · rfl
        · split <;> rfl
      cases hstage : x.stage <;> exact .inl ⟨ha.of_zones hzones, rfl⟩
    | some zone =>
      rw [hzone] at ha
      dsimp only at ha ⊢
      cases hstage : x.stage with
      | get =>
        rw [hstage] at ha
        dsimp only at ha ⊢
        split at ha <;> exact .inl ⟨ha, rfl⟩
      | set p =>
        rw [hstage] at ha
        obtain ⟨o, ho, haddress⟩ := h.held x p zone hx hstage hzone
        dsimp only at ha ⊢
        rw [ho, Option.map_some]
        obtain ⟨q, hq, rfl⟩ := ha
        obtain ⟨rfl, rfl, -⟩ | ⟨hne, hq⟩ | ⟨hle, hq⟩ := Table.set_cases hq
        · exact .inr ⟨o, rfl, haddress, Function.update_self ..⟩
        · exact .inl ⟨⟨q, hq, rfl⟩, Function.update_of_ne hne ..⟩
        · have hne : z ≠ zone.zoneId.toNat := fun heq => hle (heq ▸ Table.lt_of_get hq)
          exact .inl ⟨⟨q, hq, rfl⟩, Function.update_of_ne hne ..⟩
      | send =>
        rw [hstage] at ha
        exact .inl ⟨ha.of_zones (zones_sendRampCommandToTransmitTask ..), rfl⟩
  | receive =>
    refine .inl (hasAddress_same ?_ rfl ha)
    simp only [Tasks.step] at htasks
    split at htasks
    · cases htasks
      rfl
    · cases htasks
  | transmit objects ackByte =>
    obtain ⟨t, -, htasks⟩ := Option.bind_eq_some_iff.1 htasks
    refine .inl ⟨?_, rfl⟩
    cases hpart : t.part with
    | zone =>
      rw [hpart] at htasks
      cases htasks
      simp only [Tasks.zonePart] at ha
      split at ha
      · exact ha
      · rename_i house hramp
        exact ha.of_keys (calm_transmitRamp hramp).zones
    | scene =>
      rw [hpart] at htasks
      dsimp only at htasks
      split at htasks
      · cases htasks
      · cases htasks
        exact ha.of_keys (calm_finishScene ..).zones
    | ack =>
      rw [hpart] at htasks
      cases htasks
      exact ha

/-- A zone has one address. -/
theorem address_unique {st : State} {z : ℕ} {a b : Word × Byte × Byte} (ha : HasAddress st z a)
    (hb : HasAddress st z b) : a = b := by
  obtain ⟨p, hp, rfl⟩ := ha
  obtain ⟨q, hq, rfl⟩ := hb
  rw [Option.some.inj (hp.symm.trans hq)]

/-- What it is that an address is free. -/
theorem isFree_iff {z : ℕ} {o : Occupant} : s.isFree z o = true ↔
    (∀ i, HasAddress s.house i (o.address z) → i = z) ∧
    (∀ m r, (m, r) ∈ s.waiting → m.address = o.address z → r.device = some o) ∧
    ∀ t r, s.tracked.tasks.transmitting = some t → s.inHand = some r →
      t.message.address = o.address z → r.device = some o := by
  simp only [isFree, Bool.and_eq_true, List.all_eq_true, Option.all_eq_true, and_assoc,
    Bool.or_eq_true, Bool.not_eq_true', Bool.and_eq_false_iff, decide_eq_true_eq,
    decide_eq_false_iff_not, ne_eq, not_not, List.mem_range, ← imp_iff_not_or]
  refine and_congr ⟨fun h i hi => ?_, fun h i _ => ?_⟩
    (and_congr ⟨fun h m r hm => h (m, r) hm, fun h x hx => h x.1 x.2 hx⟩
      ⟨fun h t r ht hr => h t ht r hr, fun h t ht r hr => h t r ht hr⟩)
  · obtain ⟨p, hp, hsame⟩ := hi
    refine (h i (Table.lt_of_get hp)).resolve_right fun hnone => ?_
    rw [hp, Option.any_some] at hnone
    exact of_decide_eq_false hnone hsame
  · refine or_iff_not_imp_left.2 fun hne => (Option.any_eq_false ..).2 fun p hp => ?_
    exact decide_eq_false fun hsame => hne (h i ⟨p, hp, hsame⟩)

/-- What it is that a step keeps the addresses. -/
theorem of_keepsAddresses {e : TaskEvent} (hkeeps : s.keepsAddresses e = true) {z : ℕ}
    {o : Occupant} (hstored : s.stored e = some (z, o)) :
    s.isFree z o = true ∧ (s.house.zones.get z = none ∨ s.tracked.occupant z = some o) := by
  rw [keepsAddresses, hstored, Option.all_some] at hkeeps
  simpa using hkeeps

theorem RoutesInv.distinct_step (h : s.RoutesInv) {e : TaskEvent}
    (hkeeps : s.keepsAddresses e = true) (hs : s.step e = some s') :
    DistinctAddresses s'.house := by
  intro i j a hi hj
  obtain ⟨hi, -⟩ | ⟨o, hstored, rfl, -⟩ := hasAddress_step h hs hi
  · obtain ⟨hj, -⟩ | ⟨o, hstored, rfl, -⟩ := hasAddress_step h hs hj
    · exact h.distinct i j a hi hj
    · exact (isFree_iff.1 (of_keepsAddresses hkeeps hstored).1).1 i hi
  · obtain ⟨hj, -⟩ | ⟨o', hstored', -, -⟩ := hasAddress_step h hs hj
    · exact ((isFree_iff.1 (of_keepsAddresses hkeeps hstored).1).1 j hj).symm
    · cases hstored.symm.trans hstored'
      rfl

theorem RoutesInv.home_step (h : s.RoutesInv) {e : TaskEvent} (hs : s.step e = some s') {z : ℕ}
    {a : Word × Byte × Byte} (ha : HasAddress s'.house z a) :
    ∃ o, s'.tracked.occupant z = some o ∧ a = o.address z := by
  obtain ⟨ha, hsame⟩ | ⟨o, -, rfl, ho⟩ := hasAddress_step h hs ha
  · rw [hsame]
    exact h.home z a ha
  · exact ⟨o, ho, rfl⟩

/-- **A message stays routed**, if what is stored with its address is the device it is for. -/
theorem Routes.step (hroutes : s.Routes m r) (h : s.RoutesInv) {e : TaskEvent}
    (hkeeps : s.keepsAddresses e = true) (hs : s.step e = some s')
    (hother : ∀ z o, s.stored e = some (z, o) → m.address = o.address z → r.device = some o) :
    s'.Routes m (r.after s'.house) where
  device z hz := by
    obtain ⟨hz, hsame⟩ | ⟨o, hstored, haddress, ho⟩ := hasAddress_step h hs hz
    · exact hsame.trans (hroutes.device z hz)
    · exact ho.trans (hother z o hstored haddress).symm
  slot hdeleted := by
    obtain ⟨hdeleted, hthere⟩ := Bool.or_eq_false_iff.1 hdeleted
    obtain ⟨p, hp⟩ := Option.isSome_iff_exists.1 (Option.isNone_eq_false_iff.1 hthere)
    have hslot := hroutes.slot hdeleted
    refine ⟨p, hp, ?_⟩
    obtain ⟨hold, -⟩ | ⟨o, hstored, haddress, -⟩ := hasAddress_step h hs ⟨p, hp, rfl⟩
    · exact address_unique hold hslot
    · -- the same device is stored
      obtain hnone | ho := (of_keepsAddresses hkeeps hstored).2
      · obtain ⟨q, hq, -⟩ := hslot
        exact absurd (hq.symm.trans hnone) (Option.some_ne_none q)
      · obtain ⟨o', ho', hsame⟩ := h.home _ _ hslot
        obtain rfl : o = o' := Option.some.inj (ho.symm.trans ho')
        exact haddress.trans hsame.symm

/-- **What a step queues** has the address of the zone, and nothing is stored. -/
theorem queued_step {e : TaskEvent} {z : ℕ} (h : s.tracked.tasks.queued e = some (m, z)) :
    HasAddress s.house z m.address ∧ s.stored e = none := by
  cases e with
  | operation e => exact queued_cases h
  | execute round =>
    simp only [Tasks.queued, stored] at h ⊢
    cases hx : s.tracked.tasks.executing with
    | none =>
      rw [hx] at h
      cases h
    | some x =>
      rw [hx] at h
      dsimp only at h ⊢
      cases hstage : x.stage with
      | send =>
        rw [hstage] at h
        cases hzone : x.zone with
        | none =>
          rw [hzone] at h
          cases h
        | some zone =>
          rw [hzone] at h
          obtain ⟨m, hm, heq⟩ := Option.map_eq_some_iff.1 h
          cases heq
          exact ⟨address_rampMessage hm, rfl⟩
      | _ =>
        rw [hstage] at h
        cases h
  | _ => cases h

/-! ### The record of the queue -/

theorem map_fst_insertedWaiting (h : s.waiting.map Prod.fst = s.house.transmitQueue)
    (new : Option (RampMessage × ℕ)) :
    (s.insertedWaiting new).map Prod.fst = inserted s.house.transmitQueue (new.map Prod.fst) := by
  cases new with
  | none => exact h
  | some new =>
    simp only [insertedWaiting, inserted, Option.map_some, ← h, List.map_append, List.map_cons,
      List.takeWhile_map, List.dropWhile_map, Function.comp_def]

theorem waitingAfter_operation {e : Event} (h : e.isReboot = false) :
    s.waitingAfter (.operation e) = s.insertedWaiting (queued s.house e) := by
  cases e with
  | reboot => cases h
  | _ => rfl

/-- **The record is one of the messages in the queue.** -/
theorem map_fst_waitingAfter (h : s.waiting.map Prod.fst = s.house.transmitQueue) {e : TaskEvent}
    {tasks : Tasks} (hs : s.tracked.tasks.step e = some tasks) :
    (s.waitingAfter e).map Prod.fst = tasks.house.transmitQueue := by
  cases e with
  | operation e =>
    simp only [Tasks.step] at hs
    split at hs
    · cases hs
    rename_i hpossible
    rw [Bool.or_eq_true, not_or] at hpossible
    split at hs
    · rename_i hreboot
      cases hs
      cases e with
      | reboot => rfl
      | _ => cases hreboot
    · rename_i hreboot
      cases hs
      rw [waitingAfter_operation (Bool.eq_false_iff.2 hreboot), map_fst_insertedWaiting h]
      exact (transmitQueue_next s.house (Bool.eq_false_iff.2 hpossible.1)
        (Bool.eq_false_iff.2 hreboot)).symm
  | start caller objects =>
    simp only [Tasks.step] at hs
    split at hs
    · cases hs
    · cases hs
      refine h.trans ?_
      cases job s.house caller with
      | none => rfl
      | some j =>
        simp only [Option.elim_some, Tasks.start]
        split <;> rfl
  | execute round =>
    obtain ⟨x, hx, rfl⟩ := Option.map_eq_some_iff.1 hs
    simp only [waitingAfter, Tasks.queued, hx, Executing.zone, Tasks.execute]
    cases hzone : x.scene.zoneData[x.zoneIndex]? with
    | none =>
      have hqueue : (s.tracked.tasks.finish x).house.transmitQueue = s.house.transmitQueue := by
        simp only [Tasks.finish, markToggled]
        split
        · rfl
        · split <;> rfl
      cases hstage : x.stage <;> exact h.trans hqueue.symm
    | some zone =>
      dsimp only
      cases hstage : x.stage with
      | get =>
        dsimp only
        split <;> exact h
      | set p => exact h
      | send =>
        dsimp only
        rw [map_fst_insertedWaiting h, Option.map_map,
          transmitQueue_sendRampCommandToTransmitTask]
        exact congrArg _ (Option.map_id' (x := _))
  | receive =>
    simp only [Tasks.step] at hs
    split at hs
    · rename_i m transmitQueue _ hqueue
      cases hs
      rw [waitingAfter, List.map_tail, h]
      exact congrArg List.tail hqueue
    · cases hs
  | transmit objects ackByte =>
    obtain ⟨t, -, hs⟩ := Option.bind_eq_some_iff.1 hs
    refine h.trans ?_
    cases hpart : t.part with
    | zone =>
      rw [hpart] at hs
      cases hs
      simp only [Tasks.zonePart]
      split
      · rfl
      · rename_i house hramp
        simp only [transmitRamp] at hramp
        split at hramp
        · obtain ⟨p, -, rfl⟩ := Option.map_eq_some_iff.1 hramp
          rfl
        · cases hramp
    | scene =>
      rw [hpart] at hs
      dsimp only at hs
      split at hs
      · cases hs
      · cases hs
        exact (Tasks.transmitQueue_finishScene ..).symm
    | ack =>
      rw [hpart] at hs
      cases hs
      rfl

theorem mem_insertedWaiting {new : Option (RampMessage × ℕ)}
    (h : (m, r) ∈ s.insertedWaiting new) :
    (m, r) ∈ s.waiting ∨ ∃ z, new = some (m, z) ∧ r = ⟨z, s.tracked.occupant z, false⟩ := by
  cases new with
  | none => exact .inl h
  | some new =>
    obtain ⟨n, z⟩ := new
    rw [insertedWaiting, List.mem_append, List.mem_cons, or_left_comm, ← List.mem_append,
      List.takeWhile_append_dropWhile] at h
    obtain heq | h := h
    · cases heq
      exact .inr ⟨z, rfl, rfl⟩
    · exact .inl h

theorem mem_waitingAfter {e : TaskEvent} (h : (m, r) ∈ s.waitingAfter e) :
    (m, r) ∈ s.waiting ∨
      ∃ z, s.tracked.tasks.queued e = some (m, z) ∧ r = ⟨z, s.tracked.occupant z, false⟩ := by
  unfold waitingAfter at h
  split at h
  · cases h
  · exact .inl (List.mem_of_mem_tail h)
  · exact mem_insertedWaiting h

/-- **Every message in the queue stays routed.** -/
theorem RoutesInv.waiting_step (h : s.RoutesInv) {e : TaskEvent}
    (hkeeps : s.keepsAddresses e = true) (hs : s.step e = some s') (hr : (m, r) ∈ s'.waiting) :
    s'.Routes m r := by
  obtain ⟨tracked, htracked, rfl⟩ := Option.map_eq_some_iff.1 hs
  obtain ⟨⟨n, r₀⟩, hmem, heq⟩ := List.mem_map.1 hr
  cases heq
  obtain hmem | ⟨z, hqueued, rfl⟩ := mem_waitingAfter hmem
  · refine (h.waiting _ _ hmem).step h hkeeps hs fun z o hstored haddress => ?_
    exact (isFree_iff.1 (of_keepsAddresses hkeeps hstored).1).2.1 _ _ hmem haddress
  · obtain ⟨hhas, hstored⟩ := queued_step hqueued
    have hnew : s.Routes n ⟨z, s.tracked.occupant z, false⟩ :=
      ⟨fun i hi => congrArg _ (h.distinct i z _ hi hhas), fun _ => hhas⟩
    refine hnew.step h hkeeps hs fun i o hi => ?_
    rw [hstored] at hi
    cases hi

/-! ### The message that is transmitted -/

/-- Where the message that is transmitted comes from. -/
theorem transmitting_step {s : Tasks} {e : TaskEvent} {tasks : Tasks} (hs : s.step e = some tasks)
    {t' : Transmitting} (ht' : tasks.transmitting = some t') :
    (e = .receive ∧ s.transmitting = none ∧
        ∃ transmitQueue, s.house.transmitQueue = t'.message :: transmitQueue) ∨
      (∃ t, s.transmitting = some t ∧ t.message = t'.message) ∧
        ∀ routed : Routed, routed.inHandAfter e = routed.inHand := by
  cases e with
  | operation e =>
    simp only [Tasks.step] at hs
    split at hs
    · cases hs
    · split at hs
      · cases hs
        cases ht'
      · rename_i hreboot
        cases hs
        refine .inr ⟨⟨t', ht', rfl⟩, fun routed => ?_⟩
        cases e with
        | reboot => exact absurd rfl hreboot
        | _ => rfl
  | start caller objects =>
    simp only [Tasks.step] at hs
    split at hs
    · cases hs
    · cases hs
      refine .inr ⟨⟨t', ?_, rfl⟩, fun _ => rfl⟩
      cases hjob : job s.house caller with
      | none =>
        rw [hjob] at ht'
        exact ht'
      | some j =>
        rw [hjob] at ht'
        simp only [Option.elim_some, Tasks.start] at ht'
        split at ht' <;> exact ht'
  | execute round =>
    obtain ⟨x, hx, rfl⟩ := Option.map_eq_some_iff.1 hs
    refine .inr ⟨⟨t', ?_, rfl⟩, fun _ => rfl⟩
    simp only [Tasks.execute] at ht'
    split at ht'
    · exact ht'
    · split at ht'
      · split at ht' <;> exact ht'
      · exact ht'
      · exact ht'
  | receive =>
    simp only [Tasks.step] at hs
    split at hs
    · rename_i hfree hqueue
      cases hs
      cases ht'
      exact .inl ⟨rfl, hfree, _, hqueue⟩
    · cases hs
  | transmit objects ackByte =>
    obtain ⟨t, ht, hs⟩ := Option.bind_eq_some_iff.1 hs
    refine .inr ⟨⟨t, ht, ?_⟩, fun _ => rfl⟩
    cases hpart : t.part with
    | zone =>
      rw [hpart] at hs
      cases hs
      simp only [Tasks.zonePart] at ht'
      split at ht' <;> cases ht'
      rfl
    | scene =>
      rw [hpart] at hs
      dsimp only at hs
      split at hs
      · cases hs
      · cases hs
        cases ht'
        rfl
    | ack =>
      rw [hpart] at hs
      cases hs
      simp only [Tasks.acknowledge] at ht'
      split at ht' <;> cases ht'
      rfl

theorem RoutesInv.inHand_step (h : s.RoutesInv) {e : TaskEvent}
    (hkeeps : s.keepsAddresses e = true) (hs : s.step e = some s') {t' : Transmitting}
    (ht' : s'.tracked.tasks.transmitting = some t') :
    ∃ r, s'.inHand = some r ∧ s'.Routes t'.message r := by
  obtain ⟨tracked, htracked, rfl⟩ := Option.map_eq_some_iff.1 hs
  obtain ⟨tasks, htasks, rfl⟩ := Option.map_eq_some_iff.1 htracked
  obtain ⟨rfl, -, transmitQueue, hqueue⟩ | ⟨⟨t, ht, hmessage⟩, hsame⟩ :=
    transmitting_step htasks ht'
  · cases hwaiting : s.waiting with
    | nil =>
      have hempty := h.queue
      rw [hwaiting, hqueue] at hempty
      cases hempty
    | cons x waiting =>
      obtain ⟨m, r⟩ := x
      have hhead := h.queue
      rw [hwaiting, hqueue] at hhead
      have hm : m = t'.message := (List.cons.inj hhead).1
      rw [hm] at hwaiting
      have hmem : (t'.message, r) ∈ s.waiting := hwaiting ▸ List.mem_cons_self
      refine ⟨r.after tasks.house, by simp only [inHandAfter, hwaiting]; rfl, ?_⟩
      exact (h.waiting _ _ hmem).step h hkeeps hs fun z o hstored => nomatch hstored
  · obtain ⟨r, hr, hroutes⟩ := h.inHand t ht
    rw [hmessage] at hroutes
    refine ⟨r.after tasks.house, by rw [hsame, hr]; rfl, ?_⟩
    refine hroutes.step h hkeeps hs fun z o hstored haddress => ?_
    have hfree := (isFree_iff.1 (of_keepsAddresses hkeeps hstored).1).2.2
    exact hfree t r ht hr (hmessage ▸ haddress)

/-! ### The copy of the properties -/

theorem RoutesInv.held_step (h : s.RoutesInv) {e : TaskEvent} (hs : s.step e = some s')
    {a : Executing} {p : ZoneProperties} {zone : ZoneInScene}
    (ha : s'.tracked.tasks.executing = some a) (hstage : a.stage = .set p)
    (hzone : a.zone = some zone) :
    ∃ o, s'.tracked.held = some o ∧ addressOf p = o.address zone.zoneId.toNat := by
  obtain ⟨tracked, htracked, rfl⟩ := Option.map_eq_some_iff.1 hs
  obtain ⟨tasks, htasks, rfl⟩ := Option.map_eq_some_iff.1 htracked
  cases e with
  | operation e =>
    simp only [Tasks.step] at htasks
    split at htasks
    · cases htasks
    · split at htasks
      · cases htasks
        cases ha
      · cases htasks
        exact h.held a p zone ha hstage hzone
  | start caller objects =>
    simp only [Tasks.step] at htasks
    split at htasks
    · cases htasks
    · cases htasks
      cases hjob : job s.tracked.tasks.house caller with
      | none =>
        rw [hjob] at ha
        exact h.held a p zone ha hstage hzone
      | some j =>
        rw [hjob] at ha
        simp only [Option.elim_some, Tasks.start] at ha
        split at ha
        · cases ha
          cases hstage
        · exact h.held a p zone ha hstage hzone
  | execute round =>
    obtain ⟨x, hx, rfl⟩ := Option.map_eq_some_iff.1 htasks
    simp only [Tracked.heldAfter, hx, Executing.zone, Tasks.execute] at ha ⊢
    cases hat : x.scene.zoneData[x.zoneIndex]? with
    | none =>
      rw [hat] at ha
      cases ha
    | some zone' =>
      rw [hat] at ha
      dsimp only at ha ⊢
      cases hxstage : x.stage with
      | get =>
        rw [hxstage] at ha
        dsimp only at ha ⊢
        split at ha
        · rename_i q hq
          cases ha
          cases hstage
          obtain rfl : zone' = zone := Option.some.inj (hat.symm.trans hzone)
          obtain ⟨o, ho, haddress⟩ := h.home zone'.zoneId.toNat (addressOf q) ⟨q, hq, rfl⟩
          exact ⟨o, ho, (addressOf_congr (deviceOf_executeZone ..)).trans haddress⟩
        · cases ha
          cases hstage
      | set q =>
        rw [hxstage] at ha
        cases ha
        cases hstage
      | send =>
        rw [hxstage] at ha
        cases ha
        cases hstage
  | receive =>
    simp only [Tasks.step] at htasks
    split at htasks
    · cases htasks
      exact h.held a p zone ha hstage hzone
    · cases htasks
  | transmit objects ackByte =>
    obtain ⟨t, ht, htasks⟩ := Option.bind_eq_some_iff.1 htasks
    cases hpart : t.part with
    | zone =>
      rw [hpart] at htasks
      cases htasks
      simp only [Tasks.zonePart] at ha
      split at ha <;> exact h.held a p zone ha hstage hzone
    | scene =>
      rw [hpart] at htasks
      dsimp only at htasks
      split at htasks
      · cases htasks
      · cases htasks
        exact h.held a p zone ha hstage hzone
    | ack =>
      rw [hpart] at htasks
      cases htasks
      exact h.held a p zone ha hstage hzone

/-! ### Runs -/

/-- **A step** that meets the condition keeps the invariant. -/
theorem RoutesInv.step (h : s.RoutesInv) (e : TaskEvent) (hkeeps : s.keepsAddresses e = true)
    (hs : s.step e = some s') : s'.RoutesInv where
  queue := by
    obtain ⟨tracked, htracked, rfl⟩ := Option.map_eq_some_iff.1 hs
    obtain ⟨tasks, htasks, rfl⟩ := Option.map_eq_some_iff.1 htracked
    rw [List.map_map]
    exact map_fst_waitingAfter h.queue htasks
  distinct := h.distinct_step hkeeps hs
  home _ _ ha := h.home_step hs ha
  held _ _ _ ha hstage hzone := h.held_step hs ha hstage hzone
  waiting _ _ hmem := h.waiting_step hkeeps hs hmem
  inHand _ ht := h.inHand_step hkeeps hs ht

theorem routesInv_initial : initial.RoutesInv where
  queue := rfl
  distinct _ _ _ hi := nomatch hi
  home _ _ ha := nomatch ha
  held _ _ _ ha := nomatch ha
  waiting _ _ hmem := nomatch hmem
  inHand _ ht := nomatch ht

end Routed

/-- **The messages find the zones they were queued for**, and no two zones have the same address, in
every run in which what is stored has an address that is free, and a slot that is free or its
own. -/
theorem allStates_wellRouted (es : List TaskEvent)
    (h : routedMachine.AllSteps (fun s e => s.keepsAddresses e = true) Routed.initial es) :
    routedMachine.AllStates Routed.WellRouted Routed.initial es :=
  (Machine.allStates_of_allSteps (I := Routed.RoutesInv)
    (fun _ e _ hinv hkeeps hs => hinv.step e hkeeps hs) Routed.routesInv_initial h).imp
    fun _ hinv => hinv.wellRouted

/-- A shade is found. -/
def foundShade : TaskEvent :=
  .operation (.devicesInfo
    (.object [("deviceType", .string "shade"), ("identifier", .string "B1"),
      ("name", .string "Blind")])
    ⟨0, 0, 0, CString.empty eliotDeviceIdSize_pos⟩)

/-- The app acts like a device that is to be added. -/
def triggerRampCommand (groupId : BitVec 64) : TaskEvent :=
  .operation (.triggerRamp
    (.object [("BuildingID", .integer 0), ("HouseID", .integer 0), ("GroupID", .integer groupId),
      ("PowerLevel", .integer 100), ("DeviceType", .integer (dimmerType.setWidth 64))])
    (CString.empty eliotDeviceIdSize_pos))

/-- A device is added by the app, and a shade is found; the power of the device is set. -/
def triggerThenShade (groupId : BitVec 64) : List TaskEvent :=
  [.operation (.addALight .true), triggerRampCommand groupId, foundShade,
    .operation (.setZoneProperties
      (propertiesRequest ("ZID", 0) [("Power", .false)]) false ⟨true, true⟩),
    .receive]

theorem allStates_wellRouted_other :
    routedMachine.AllStates Routed.WellRouted Routed.initial
      (triggerThenShade 1 ++ [.transmit ⟨true, true⟩ true]) :=
  allStates_wellRouted _ (by decide +kernel)

/-- **A shade shares its address with a zone**, if that has been added with a group id that is made
up for the shades. -/
theorem not_allStates_wellRouted :
    ¬ ∀ es, routedMachine.AllStates Routed.WellRouted Routed.initial es := by
  intro h
  let es := triggerThenShade 0x1001
  have hrun : (routedMachine.run Routed.initial es).any (fun s =>
      ((s.house.zones.get 0).map addressOf, (s.house.zones.get 1).map addressOf) =
        (some (0x1001, 0, 0), some (0x1001, 0, 0))) = true := by
    decide +kernel
  obtain ⟨s, hrun, hs⟩ := (Option.any_eq_true ..).1 hrun
  obtain ⟨hzone, hshade⟩ := Prod.mk.injEq .. ▸ of_decide_eq_true hs
  exact absurd (((h es).of_run hrun).distinct 0 1 _ (Option.map_eq_some_iff.1 hzone)
    (Option.map_eq_some_iff.1 hshade)) Nat.zero_ne_one

end House

end Lcm
