import Lcm.House.Execution
import Lcm.House.Addresses

/-!
# Events of the cloud

`Eliot_Event_CB` executes an event for a zone or a scene.  A level or a change of a level is a
64-bit integer of the payload that is passed on as an `int` and then as a `short`, and added to a
level in 16 bits; a level that is set is not limited to 100.

## Main definitions

* `eventCB` : what an event does to the house.
* `AdjustsZone`, `SetsLevel` : what the events are for.
* `AdjustFits`, `LevelFits` : the conditions on their numbers.

## Main results

* `adjustsZone_iff`, `setsLevel_iff` : the numbers for which a zone gets the right level.
* `eventCB_saturates_iff` : the events that do what they are for.
-/

namespace Lcm

namespace Mqtt

open House

/-! ### The callback -/

/-- What the queues do about the messages of an event. -/
structure EventEnv where
  /-- For a ramp. -/
  sending : State.Sending
  /-- For a scene. -/
  execution : ExecutionEnv

/-- `Eliot_Event_CB`, for a payload that has been parsed; the events for the firmware change nothing
in the house.  There is no result if a string that is compared is a NULL pointer. -/
def eventCB (st : State) (payload : JsonT) (env : EventEnv) : Option State :=
  match payload.get "event", payload.get "id" with
  | some (.string event), some (.string id) =>
    let deviceId := (JsonT.string id).chars
    if event = "on" then some (setDeviceState st deviceId 1 (-1) env.sending)
    else if event = "off" then some (setDeviceState st deviceId 0 (-1) env.sending)
    else if event = "setLevel" then
      match payload.get "level" with
      | some level =>
        let level : Dword := level.integerValue.setWidth 32
        some (setDeviceState st deviceId (-1) (level.setWidth 16) env.sending)
      | none => some st
    else if event = "adjustLevel" then
      match payload.get "delta" with
      | some delta =>
        let delta : Dword := delta.integerValue.setWidth 32
        some (adjustDeviceLevel st deviceId (delta.setWidth 16) env.sending)
      | none => some st
    else if event = "execute" then some (setSceneState st deviceId true env.execution)
    else some st
  | some (.string _), none => some st
  | some _, _ => none
  | none, _ => some st

/-! ### The purpose of the events -/

/-- The old level and a change of it. -/
def levelSum (delta : ℤ) (p : ZoneProperties) : ℤ := p.targetPowerLevel.toNat + delta

/-- **A zone is adjusted**: where the sum is a level, it is the new one, if it is not more than 100;
and the zone is turned off if the sum is less than 1. -/
structure AdjustsZone (delta : ℤ) (p p' : ZoneProperties) : Prop where
  level : 1 ≤ levelSum delta p → (p'.targetPowerLevel.toNat : ℤ) = min (levelSum delta p) 100
  off : p'.targetState = if levelSum delta p < 1 then false else p.targetState

/-- **A zone gets a level**, from 0 to 100. -/
def SetsLevel (level : ℤ) (p' : ZoneProperties) : Prop :=
  (p'.targetPowerLevel.toNat : ℤ) = max 0 (min level 100)

/-- The zone that has a device id changes in a certain way, and no other zone changes. -/
def ChangesZone (change : ZoneProperties → ZoneProperties → Prop) (deviceId : List Byte)
    (st st' : State) : Prop :=
  ∀ j, match st.zones.get j with
    | none => st'.zones.get j = none
    | some p =>
      if j = st.zoneOfDevice deviceId then ∃ p', st'.zones.get j = some p' ∧ change p p'
      else st'.zones.get j = some p

/-! ### The numbers -/

/-- The sum that `AdjustDeviceLevel` computes, a `short`. -/
def shortSum (delta : BitVec 64) (p : ZoneProperties) : ℤ :=
  (p.targetPowerLevel.setWidth 16 + (delta.setWidth 32).setWidth 16 : Word).toInt

/-- **The sum fits** where it is at least 1 and limited like the `short`, or both are less than 1.
Where they disagree, nothing is wrong if the zone has been off before, and if it has the level that
it should get. -/
def AdjustFits (delta : BitVec 64) (p : ZoneProperties) : Prop :=
  if levelSum delta.toInt p < 1 then shortSum delta p < 1 ∨ p.targetState = false
  else if shortSum delta p < 1 then
    p.targetState = false ∧ (p.targetPowerLevel.toNat : ℤ) = min (levelSum delta.toInt p) 100
  else min (shortSum delta p) 100 = min (levelSum delta.toInt p) 100

/-- The level that `SetDeviceState` is called with, a `short`. -/
def shortLevel (level : BitVec 64) : ℤ := ((level.setWidth 32).setWidth 16 : Word).toInt

/-- **The level fits** where the low byte of the `short` is the level, limited to what is between 0
and 100; a negative `short` is none, and the zone may have the level already. -/
def LevelFits (level : BitVec 64) (p : ZoneProperties) : Prop :=
  if shortLevel level < 0 then (p.targetPowerLevel.toNat : ℤ) = max 0 (min level.toInt 100)
  else shortLevel level % 256 = max 0 (min level.toInt 100)

/-- **An event saturates** if a zone is adjusted by the integer of an `adjustLevel` event, gets the
integer of a `setLevel` event as its level, and no other zone changes. -/
def EventSaturates (st : State) (payload : JsonT) (env : EventEnv) : Prop :=
  ∀ id, payload.get "id" = some (.string id) →
    (∀ delta, payload.get "event" = some (.string "adjustLevel") →
      payload.get "delta" = some (.integer delta) →
        ∃ st', eventCB st payload env = some st' ∧
          ChangesZone (AdjustsZone delta.toInt) (JsonT.string id).chars st st') ∧
    ∀ level, payload.get "event" = some (.string "setLevel") →
      payload.get "level" = some (.integer level) →
        ∃ st', eventCB st payload env = some st' ∧
          ChangesZone (fun _ => SetsLevel level.toInt) (JsonT.string id).chars st st'

/-- **The number of an event fits** the zone that it is for, if there is one. -/
def NumberFits (st : State) (payload : JsonT) : Prop :=
  ∀ id, payload.get "id" = some (.string id) →
    (∀ delta, payload.get "event" = some (.string "adjustLevel") →
      payload.get "delta" = some (.integer delta) →
        ∀ p, st.zones.get (st.zoneOfDevice (JsonT.string id).chars) = some p →
          AdjustFits delta p) ∧
    ∀ level, payload.get "event" = some (.string "setLevel") →
      payload.get "level" = some (.integer level) →
        ∀ p, st.zones.get (st.zoneOfDevice (JsonT.string id).chars) = some p → LevelFits level p

/-! ### One zone -/

variable {st st' : State} {payload : JsonT} {env : EventEnv} {deviceId : List Byte}
  {change : ZoneProperties → ZoneProperties → Prop} {p q : ZoneProperties}

/-- The low byte of a `short`. -/
theorem toNat_setWidth_short (w : Word) : ((w.setWidth 8 : Byte).toNat : ℤ) = w.toInt % 256 := by
  have hw := w.isLt
  rw [BitVec.toNat_setWidth, BitVec.toInt_eq_toNat_cond]
  split <;> omega

/-- What a new level is worth. -/
theorem adjustsZone_level_iff (delta : ℤ) (p : ZoneProperties) (level : Byte) :
    AdjustsZone delta p { p with targetPowerLevel := level } ↔
      if levelSum delta p < 1 then p.targetState = false
      else (level.toNat : ℤ) = min (levelSum delta p) 100 := by
  by_cases hsum : levelSum delta p < 1
  · rw [if_pos hsum]
    refine ⟨fun h => h.off.trans (if_pos hsum), fun h => ⟨fun hge => ?_, ?_⟩⟩
    · exact absurd hsum (not_lt.2 hge)
    · exact h.trans (if_pos hsum).symm
  · rw [if_neg hsum]
    exact ⟨fun h => h.level (not_lt.1 hsum), fun h => ⟨fun _ => h, (if_neg hsum).symm⟩⟩

/-- What turning a zone off is worth. -/
theorem adjustsZone_off_iff (delta : ℤ) (p : ZoneProperties) :
    AdjustsZone delta p { p with targetState := false } ↔
      (¬levelSum delta p < 1 → p.targetState = false ∧
        (p.targetPowerLevel.toNat : ℤ) = min (levelSum delta p) 100) := by
  constructor
  · intro h hsum
    exact ⟨(h.off.trans (if_neg hsum)).symm, h.level (not_lt.1 hsum)⟩
  · intro h
    refine ⟨fun hsum => (h (not_lt.2 hsum)).2, ?_⟩
    by_cases hsum : levelSum delta p < 1
    · exact (if_pos hsum).symm
    · exact (h hsum).1.symm.trans (if_neg hsum).symm

/-- **A zone is adjusted** as it should be exactly if the sum fits. -/
theorem adjustsZone_iff (delta : BitVec 64) (p : ZoneProperties) :
    AdjustsZone delta.toInt p (adjustLevel ((delta.setWidth 32).setWidth 16) p) ↔
      AdjustFits delta p := by
  have hbyte : (((p.targetPowerLevel.setWidth 16 + (delta.setWidth 32).setWidth 16 : Word).setWidth
      8 : Byte).toNat : ℤ) = shortSum delta p % 256 := toNat_setWidth_short _
  unfold adjustLevel AdjustFits
  change AdjustsZone _ _ (if 100 < shortSum delta p then _ else
    if shortSum delta p < 1 then _ else _) ↔ _
  by_cases hover : 100 < shortSum delta p
  · have hlevel : ((100 : Byte).toNat : ℤ) = min (shortSum delta p) 100 :=
      (min_eq_right hover.le).symm
    have hunder : ¬shortSum delta p < 1 := by omega
    rw [if_pos hover, adjustsZone_level_iff, hlevel]
    simp only [hunder, false_or, if_false]
  by_cases hunder : shortSum delta p < 1
  · rw [if_neg hover, if_pos hunder, adjustsZone_off_iff]
    simp only [hunder, true_or, if_true]
    split <;> simp_all
  · have hlevel : shortSum delta p % 256 = min (shortSum delta p) 100 := by omega
    rw [if_neg hover, if_neg hunder, adjustsZone_level_iff, hbyte, hlevel]
    simp only [hunder, false_or, if_false]

theorem targetPowerLevel_setState (state level : Word) (p : ZoneProperties) :
    (setState state level p).targetPowerLevel =
      if 0 ≤ level.toInt then level.setWidth 8 else p.targetPowerLevel := by
  unfold setState
  dsimp only
  by_cases hlevel : 0 ≤ level.toInt
  · rw [if_pos hlevel, if_pos hlevel]
  · rw [if_neg hlevel, if_neg hlevel]
    split <;> rfl

/-- **A zone gets the level** that it should get exactly if the level fits. -/
theorem setsLevel_iff (level : BitVec 64) (p : ZoneProperties) :
    SetsLevel level.toInt (setState (-1) ((level.setWidth 32).setWidth 16) p) ↔
      LevelFits level p := by
  rw [SetsLevel, targetPowerLevel_setState, LevelFits]
  change (((if 0 ≤ shortLevel level then _ else p.targetPowerLevel : Byte).toNat : ℤ) = _) ↔ _
  by_cases hnegative : shortLevel level < 0
  · rw [if_pos hnegative, if_neg (not_le.2 hnegative)]
  · rw [if_neg hnegative, if_pos (not_lt.1 hnegative), toNat_setWidth_short]
    rfl

/-! ### The zone of a device -/

theorem changesZone_of_none (hp : st.zones.get (st.zoneOfDevice deviceId) = none)
    (hzones : st'.zones = st.zones) : ChangesZone change deviceId st st' := by
  intro j
  rw [hzones]
  cases hj : st.zones.get j with
  | none => rfl
  | some q =>
    have hne : j ≠ st.zoneOfDevice deviceId := fun h => by simp [← h, hj] at hp
    exact (if_neg hne).mpr rfl

/-- Where one zone is stored, what matters is how that zone changes. -/
theorem changesZone_set_iff (hp : st.zones.get (st.zoneOfDevice deviceId) = some p)
    (hdevice : deviceOf q = deviceOf p)
    (hzones : st'.zones =
      (st.setZoneProperties (BitVec.ofNat 8 (st.zoneOfDevice deviceId)) q).zones) :
    ChangesZone change deviceId st st' ↔ change p q := by
  have hindex : (BitVec.ofNat 8 (st.zoneOfDevice deviceId)).toNat = st.zoneOfDevice deviceId :=
    toNat_ofNat_of_lt (Nat.lt_of_le_of_lt (zoneOfDevice_le st deviceId) (by decide))
  have hnamed : zoneNamed q = true :=
    (zoneNamed_congr hdevice).trans (Table.named_of_get _ _ _ hp)
  rw [State.setZoneProperties, hindex] at hzones
  have hself : st'.zones.get (st.zoneOfDevice deviceId) = some q := by
    rw [hzones]
    exact Table.get_set_named (Table.lt_of_get hp) hnamed
  constructor
  · intro h
    have h := h (st.zoneOfDevice deviceId)
    rw [hp] at h
    obtain ⟨p', hp', hchange⟩ := (if_pos rfl).mp h
    rwa [Option.some.inj (hself.symm.trans hp')]
  · intro hchange j
    by_cases hj : j = st.zoneOfDevice deviceId
    · rw [hj, hp]
      exact (if_pos rfl).mpr ⟨q, hself, hchange⟩
    · have hother : st'.zones.get j = st.zones.get j := by
        rw [hzones]
        exact Table.get_set_ne hj
      rw [hother]
      cases st.zones.get j with
      | none => rfl
      | some r => exact (if_neg hj).mpr rfl

/-! ### The events -/

theorem eventCB_adjustLevel {id : String} {delta : BitVec 64}
    (hid : payload.get "id" = some (.string id))
    (hevent : payload.get "event" = some (.string "adjustLevel"))
    (hdelta : payload.get "delta" = some (.integer delta)) :
    eventCB st payload env = some (adjustDeviceLevel st (JsonT.string id).chars
      ((delta.setWidth 32).setWidth 16) env.sending) := by
  rw [eventCB, hid, hevent, hdelta]
  rfl

theorem eventCB_setLevel {id : String} {level : BitVec 64}
    (hid : payload.get "id" = some (.string id))
    (hevent : payload.get "event" = some (.string "setLevel"))
    (hlevel : payload.get "level" = some (.integer level)) :
    eventCB st payload env = some (setDeviceState st (JsonT.string id).chars (-1)
      ((level.setWidth 32).setWidth 16) env.sending) := by
  rw [eventCB, hid, hevent, hlevel]
  rfl

theorem changesZone_adjustDeviceLevel_iff (deviceId : List Byte) (delta : Word)
    (sending : State.Sending) :
    ChangesZone change deviceId st (adjustDeviceLevel st deviceId delta sending) ↔
      ∀ p, st.zones.get (st.zoneOfDevice deviceId) = some p → change p (adjustLevel delta p) := by
  unfold adjustDeviceLevel
  dsimp only
  cases hp : st.zones.get (st.zoneOfDevice deviceId) with
  | none => exact iff_of_true (changesZone_of_none hp rfl) fun _ h => nomatch h
  | some p =>
    rw [changesZone_set_iff hp (deviceOf_adjustLevel delta p)
      (zones_sendRampCommandToTransmitTask ..)]
    exact ⟨fun h _ heq => Option.some.inj heq ▸ h, fun h => h p rfl⟩

theorem changesZone_setDeviceState_iff (deviceId : List Byte) (state level : Word)
    (sending : State.Sending) :
    ChangesZone change deviceId st (setDeviceState st deviceId state level sending) ↔
      ∀ p, st.zones.get (st.zoneOfDevice deviceId) = some p →
        change p (setState state level p) := by
  unfold setDeviceState
  dsimp only
  cases hp : st.zones.get (st.zoneOfDevice deviceId) with
  | none => exact iff_of_true (changesZone_of_none hp rfl) fun _ h => nomatch h
  | some p =>
    rw [changesZone_set_iff hp (deviceOf_setState state level p)]
    · exact ⟨fun h _ heq => Option.some.inj heq ▸ h, fun h => h p rfl⟩
    · dsimp only
      split
      · rfl
      · exact zones_sendRampCommandToTransmitTask ..

/-- **The events of the cloud** do what they are for exactly if their numbers fit: the addition and
the two conversions do not change what is left of a number once it is limited. -/
theorem eventCB_saturates_iff (st : State) (payload : JsonT) (env : EventEnv) :
    EventSaturates st payload env ↔ NumberFits st payload := by
  refine forall₂_congr fun id hid => and_congr ?_ ?_
  · refine forall₃_congr fun delta hevent hdelta => ?_
    rw [eventCB_adjustLevel hid hevent hdelta]
    simp only [Option.some.injEq, exists_eq_left', changesZone_adjustDeviceLevel_iff,
      adjustsZone_iff]
  · refine forall₃_congr fun level hevent hlevel => ?_
    rw [eventCB_setLevel hid hevent hlevel]
    simp only [Option.some.injEq, exists_eq_left', changesZone_setDeviceState_iff,
      setsLevel_iff]

theorem dimmerId_noNul : (0 : Byte) ∉ ([97] : List Byte) := by decide

theorem dimmerId_fits : ([97] : List Byte).length < eliotDeviceIdSize := by decide

/-- A house with a dimmer that the cloud knows as "a". -/
def dimmerHouse : State :=
  State.initial.setZoneProperties 0
    (newZone 0 1 5 1 100 dimmerType ⟨[97], dimmerId_noNul, dimmerId_fits⟩)

/-- An event that sets the level of this dimmer. -/
def setLevelEvent (level : BitVec 64) : JsonT :=
  .object [("event", .string "setLevel"), ("id", .string "a"), ("level", .integer level)]

/-- **A level of 200** is not limited. -/
theorem not_eventCB_saturates : ¬ ∀ st payload env, EventSaturates st payload env := by
  intro h
  obtain ⟨st', hst', hchange⟩ :=
    (h dimmerHouse (setLevelEvent 200) ⟨⟨true, true⟩, freeExecution⟩ "a" rfl).2 200 rfl rfl
  have heq := (eventCB_setLevel rfl rfl rfl).symm.trans hst'
  rw [← Option.some.inj heq, changesZone_setDeviceState_iff] at hchange
  have hzone : (dimmerHouse.zones.get (dimmerHouse.zoneOfDevice (JsonT.string "a").chars)).isSome =
      true := by
    decide +kernel
  obtain ⟨p, hp⟩ := Option.isSome_iff_exists.1 hzone
  have hlevel := (setsLevel_iff 200 p).1 (hchange p hp)
  rw [LevelFits, if_neg (by decide)] at hlevel
  exact absurd hlevel (by decide)

end Mqtt

end Lcm
