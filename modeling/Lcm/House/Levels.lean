import Lcm.House.Edits

/-!
# Power levels

All power levels are percentages: those of the zones, where they are and where they are to be, and
those in the scenes.  What comes from the devices is scaled, what is added to a level is cut off;
but the requests, the cloud and the shades name levels as numbers that are checked on one side
only, or not at all, before they become a byte.

## Main definitions

* `LevelsInRange`, `OnAirScaled` : the property, and what it means for the frames.
* `keepsLevels` : the condition on the operations.

## Main results

* `allStates_levelsInRange` : it holds as long as the operations meet the condition.
* `not_allStates_levelsInRange` : it does not always hold.
-/

namespace Lcm

namespace House

open Scenes SceneControllers
open Services (Error)

/-- The levels of a zone are percentages. -/
def LevelOk (p : ZoneProperties) : Prop :=
  p.powerLevel ≤ maxPowerLevel ∧ p.targetPowerLevel ≤ maxPowerLevel

/-- The levels of a list of zones are percentages. -/
def ListOk (zoneData : List ZoneInScene) : Prop := ∀ z ∈ zoneData, z.powerLevel ≤ maxPowerLevel

/-- The levels of all zones that exist are percentages. -/
def ZonesOk (st : State) : Prop := st.zones.All fun _ p => LevelOk p

/-- The levels of all zones, and of all zones in scenes, are percentages. -/
structure LevelsInRange (st : State) : Prop where
  /-- The zones. -/
  zones : ZonesOk st
  /-- The scenes. -/
  scenes : st.scenes.All fun _ p => ListOk p.zoneData

/-- What is sent on the air for a zone is the scaled image of a percentage. -/
def OnAirScaled (st : State) : Prop :=
  st.zones.All fun _ p => ∀ forceSendFlag q, Rf.prepareRamp forceSendFlag p = some q →
    ∃ percent ≤ maxPowerLevel, Rf.levelByte q = Rf.powerOfPercent percent

/-! ### The condition -/

/-- The value is no integer, or the byte that it becomes is a percentage. -/
def levelFits : JsonT → Bool
  | .integer value => (value.setWidth 8 : Byte) ≤ maxPowerLevel
  | _ => true

/-- The levels in a list of zones fit. -/
def listFits (valueObject : JsonT) : Bool :=
  valueObject.elements.all fun element => (element.get "Lvl").all levelFits

/-- The levels in a request for a scene fit. -/
def listsFit (root : JsonT) : Bool :=
  (propertyList root).all fun property => property.1 ≠ "ZoneList" || listFits property.2

/-- The levels in a request for a zone fit; those for a switch are of no importance. -/
def powerLevelsFit (root : JsonT) (p : ZoneProperties) : Bool :=
  p.deviceType = switchType ||
    (propertyList root).all fun property => property.1 ≠ "PowerLevel" || levelFits property.2

/-- The operations after which the levels are in range. -/
def keepsLevels (st : State) : Event → Bool
  | .setZoneProperties root errorFlag _ =>
    match lookup st.getZoneProperties zoneNamed maxNumberOfZones setZoneErrors
        (root.get "ZID") with
    | .error _ => true
    | .ok (_, p) => !(editZone root errorFlag p).isOk || powerLevelsFit root p
  | .createScene root garbage _ =>
    !(editScene st.getZoneProperties root (newScene garbage)).isOk || listsFit root
  | .setSceneProperties root _ =>
    match sceneOfRequest st root with
    | .error _ => true
    | .ok (_, p) => !(editScene st.getZoneProperties root p).isOk || listsFit root
  | .setDeviceState deviceId _ level _ =>
    (st.zones.get (st.zoneOfDevice deviceId)).isNone || level.toInt < 0 ||
      (level.setWidth 8 : Byte) ≤ maxPowerLevel
  | .qmotionStatus element changedThisMinute _ =>
    changedThisMinute || (element.get "level").all fun level => reportedLevel level ≤ maxPowerLevel
  | _ => true

/-! ### Zones -/

section Levels

variable {st st' : State}

theorem LevelOk.targetValue {p : ZoneProperties} (h : LevelOk p) {value : Byte}
    (hvalue : value ≤ maxPowerLevel) : LevelOk (targetValue value p) := by
  unfold House.targetValue
  dsimp only
  split_ifs
  all_goals first | exact h | exact ⟨hvalue, hvalue⟩

theorem LevelOk.targetValueAll {p : ZoneProperties} (h : LevelOk p) {value : Byte}
    (hvalue : value ≤ maxPowerLevel) : LevelOk (targetValueAll value p) := by
  have hmax : maxPowerLevel ≤ maxPowerLevel := BitVec.le_refl _
  unfold House.targetValueAll
  dsimp only
  split_ifs
  all_goals first | exact h | exact ⟨hvalue, hvalue⟩ | exact ⟨hmax, hmax⟩

theorem LevelOk.adjustLevel {p : ZoneProperties} (h : LevelOk p) (delta : Word) :
    LevelOk (adjustLevel delta p) := by
  unfold House.adjustLevel
  dsimp only
  split_ifs with hhigh hlow
  · exact ⟨h.1, BitVec.le_refl _⟩
  · exact h
  · refine ⟨h.1, ?_⟩
    generalize p.targetPowerLevel.setWidth 16 + delta = newValue at hhigh hlow
    -- the sum is between 1 and 100
    rw [BitVec.le_def, BitVec.toNat_setWidth]
    rw [BitVec.toInt_eq_toNat_cond] at hhigh hlow
    have hmax : maxPowerLevel.toNat = 100 := rfl
    have hlt := newValue.isLt
    split_ifs at hhigh hlow <;> omega

theorem LevelOk.setState {p : ZoneProperties} (h : LevelOk p) (state : Word) {level : Word}
    (hlevel : level.toInt < 0 ∨ (level.setWidth 8 : Byte) ≤ maxPowerLevel) :
    LevelOk (setState state level p) := by
  unfold House.setState
  dsimp only
  by_cases hnone : 0 ≤ level.toInt
  · rw [if_pos hnone]
    have hfits : (level.setWidth 8 : Byte) ≤ maxPowerLevel := by
      obtain hneg | hfits := hlevel
      · omega
      · exact hfits
    split
    · exact ⟨h.1, hfits⟩
    · exact ⟨h.1, hfits⟩
  · rw [if_neg hnone]
    split
    · exact h
    · exact h

theorem LevelOk.transmitZone {p : ZoneProperties} (h : LevelOk p) :
    LevelOk (transmitZone p).1 := by
  rw [transmitZone_eq]
  exact ⟨h.2, h.2⟩

theorem LevelOk.executeZone {p : ZoneProperties} (h : LevelOk p) {x : Execution}
    (hvalue : x.value ≤ Rf.percentChangeForAdjust) (rampRate : Byte) {zone : ZoneInScene}
    (hzone : zone.powerLevel ≤ maxPowerLevel) : LevelOk (executeZone x rampRate zone p) := by
  have hmax : maxPowerLevel ≤ maxPowerLevel := BitVec.le_refl _
  have hzero : (0 : Byte) ≤ maxPowerLevel := by decide
  have hcut {level : Byte} (hlevel : ¬ maxPowerLevel < level) : level ≤ maxPowerLevel :=
    BitVec.not_lt.1 hlevel
  unfold House.executeZone
  suffices hlevels : LevelOk
      (if x.activate then activateZone x zone p else deactivateZone rampRate zone p) by
    exact hlevels
  split
  · unfold activateZone takeTargets
    dsimp only
    split_ifs with hchange hadjust hstate hhigh hhigh hhigh hadjust hstate hpositive
    · exact ⟨h.1, hmax⟩
    · exact ⟨h.1, hcut hhigh⟩
    · exact ⟨h.1, hmax⟩
    · exact h
    · exact ⟨h.1, hmax⟩
    · exact ⟨h.1, hzone⟩
    · refine ⟨h.1, ?_⟩
      -- what is left is no more than before
      have hle : p.powerLevel.toNat ≤ 100 := h.1
      have hfive : x.value.toNat ≤ 5 := hvalue
      show (p.powerLevel - x.value).toNat ≤ 100
      rw [BitVec.toInt_eq_toNat_cond] at hpositive
      rw [BitVec.toNat_sub] at hpositive ⊢
      split_ifs at hpositive <;> omega
    · exact ⟨h.1, hzero⟩
    · exact h
    · exact ⟨h.1, hzone⟩
  · unfold deactivateZone
    dsimp only
    split_ifs
    · exact h
    · exact ⟨h.1, hzone⟩
    · exact h
    · exact ⟨h.1, hzone⟩

theorem ZonesOk.setZoneProperties (h : ZonesOk st) (zoneIndex : Byte) {p : ZoneProperties}
    (hp : LevelOk p) : ZonesOk (st.setZoneProperties zoneIndex p) := Table.All.set h fun _ => hp

theorem ZonesOk.of_zones (h : ZonesOk st) (hzones : st'.zones = st.zones) : ZonesOk st' := by
  rwa [ZonesOk, hzones]

/-- What is made of a zone that exists. -/
theorem ZonesOk.get (h : ZonesOk st) {zoneIndex : Byte} {p : ZoneProperties}
    (hp : st.getZoneProperties zoneIndex = some p) : LevelOk p := h _ p hp

theorem ZonesOk.handleTargetValue (h : ZonesOk st) {value : Byte}
    (hvalue : value ≤ maxPowerLevel) (zoneIdx : Byte) :
    ZonesOk (handleTargetValue st value zoneIdx) := by
  unfold House.handleTargetValue
  split
  · exact h.setZoneProperties _ ((h.get ‹_›).targetValue hvalue)
  · exact h

theorem ZonesOk.handleRampReceived (h : ZonesOk st) (buildingId houseId : Byte) (groupId : Word)
    {value : Byte} (hvalue : value ≤ maxPowerLevel) (deviceType : Byte)
    (EliotDeviceId : CString eliotDeviceIdSize) :
    ZonesOk (handleRampReceived st buildingId houseId groupId value deviceType EliotDeviceId) := by
  have hadopt : ZonesOk (st.adoptHouseID houseId) := h.of_zones (zones_adoptHouseID st houseId)
  have hnew (zoneIdx : Byte) :
      LevelOk (newZone zoneIdx buildingId houseId groupId value deviceType EliotDeviceId) := by
    have hmax : maxPowerLevel ≤ maxPowerLevel := BitVec.le_refl _
    unfold newZone LevelOk
    dsimp only
    split
    · exact ⟨hvalue, hvalue⟩
    · exact ⟨hmax, hmax⟩
  unfold House.handleRampReceived
  dsimp only
  split_ifs
  · exact hadopt.setZoneProperties _ (hnew _)
  · exact hadopt
  · exact hadopt.handleTargetValue hvalue _
  · exact hadopt
  · exact h.handleTargetValue hvalue _
  · exact h
  · exact h

/-- The level in a request that acts like a ramp is a percentage. -/
theorem triggerRamp_level {root : JsonT} {address : Byte × Byte × Word} {level deviceType : Byte}
    (h : triggerRamp root = .ok (address, level, deviceType)) : level ≤ maxPowerLevel := by
  unfold triggerRamp at h
  obtain ⟨address', -, h⟩ := bind_eq_ok.1 h
  obtain ⟨value, -, h⟩ := bind_eq_ok.1 h
  obtain ⟨-, h⟩ | ⟨hlevel, h⟩ := ite_eq_iff.1 h
  · cases h
  · obtain ⟨type, -, h⟩ := bind_eq_ok.1 h
    obtain ⟨-, h⟩ | ⟨-, h⟩ := ite_eq_iff.1 h
    · cases h
      have hle : (value.setWidth 16).toNat ≤ 100 := BitVec.not_lt.1 hlevel
      show ((value.setWidth 16).setWidth 8).toNat ≤ 100
      rw [BitVec.toNat_setWidth]
      omega
    · cases h

theorem ZonesOk.handleTriggerRampAllCommand (h : ZonesOk st) (root : JsonT) :
    ZonesOk (handleTriggerRampAllCommand st root).1 := by
  unfold House.handleTriggerRampAllCommand
  split
  · exact h
  · rename_i value _
    split
    · exact h
    · rename_i hrange
      have hvalue : (value.setWidth 8 : Byte) ≤ maxPowerLevel := by
        rw [BitVec.le_def, BitVec.toNat_setWidth]
        have hmax : maxPowerLevel.toNat = 100 := rfl
        have hlt := value.isLt
        rw [BitVec.toInt_eq_toNat_cond] at hrange
        split_ifs at hrange <;> omega
      intro i p hp
      obtain ⟨q, hq, rfl⟩ := Option.map_eq_some_iff.1 hp
      exact (h i q hq).targetValueAll hvalue

/-! ### Execution -/

theorem ZonesOk.visitZone (h : ZonesOk st) {x : Execution}
    (hvalue : x.value ≤ Rf.percentChangeForAdjust) {rampRate : Byte} {zone : ZoneInScene}
    (hzone : zone.powerLevel ≤ maxPowerLevel) (hvisit : visitZone x rampRate zone st = some st') :
    ZonesOk st' := by
  obtain ⟨p, hp, rfl⟩ := Option.map_eq_some_iff.1 hvisit
  exact h.setZoneProperties _ ((h.get hp).executeZone hvalue rampRate hzone)

theorem ZonesOk.executeZones (h : ZonesOk st) {x : Execution}
    (hvalue : x.value ≤ Rf.percentChangeForAdjust) (rampRate : Byte)
    (number numZonesInScene : ℕ) (rounds : ℕ → Round) {zoneData : List ZoneInScene}
    (hlist : ListOk zoneData) (zoneIndex : ℕ) (running : Byte) :
    ZonesOk
      (executeZones x rampRate number numZonesInScene rounds zoneIndex zoneData st running).1 := by
  induction zoneData generalizing zoneIndex st running with
  | nil => exact h
  | cons zone zoneData ih =>
    have hzone : zone.powerLevel ≤ maxPowerLevel := hlist zone List.mem_cons_self
    have hrest : ListOk zoneData := fun z hz => hlist z (List.mem_cons_of_mem _ hz)
    simp only [House.executeZones]
    split
    · rename_i hvisit
      refine ih ?_ hrest _ _
      exact (h.visitZone hvalue hzone hvisit).of_zones (zones_sendRampCommandToTransmitTask ..)
    · exact ih h hrest _ _

theorem ZonesOk.markToggled (h : ZonesOk st) (x : Execution) : ZonesOk (markToggled x st) := by
  refine h.of_zones ?_
  unfold House.markToggled
  dsimp only
  split
  · rfl
  · split <;> rfl

theorem ZonesOk.executeScene (h : ZonesOk st) {x : Execution}
    (hvalue : x.value ≤ Rf.percentChangeForAdjust) (env : ExecutionEnv) {p : SceneProperties}
    (hlist : ListOk p.zoneData) : ZonesOk (executeScene x env st p).1 := by
  unfold House.executeScene
  split
  · have hstart : ZonesOk { st with runs := st.runs + 1 } := h
    exact (hstart.executeZones hvalue _ _ _ _ hlist _ _).markToggled x
  · exact h

/-- The levels in the scenes stay. -/
theorem LevelsInRange.of_calm (h : LevelsInRange st) (hcalm : Calm st st')
    (hzones : ZonesOk st') : LevelsInRange st' where
  zones := hzones
  scenes :=
    Table.All.of_keys hcalm.scenes h.scenes fun _ p q hkey hlist => by
      have hdata : q.zoneData = p.zoneData := congrArg Prod.snd hkey
      exact hdata ▸ hlist

theorem LevelsInRange.of_zonesOnly (h : LevelsInRange st) (honly : ZonesOnly st st')
    (hzones : ZonesOk st') : LevelsInRange st' :=
  ⟨hzones, by rw [honly.scenes]; exact h.scenes⟩

/-- The copy of a scene that is executed. -/
theorem LevelsInRange.executeAndStore (h : LevelsInRange st) {x : Execution}
    (hvalue : x.value ≤ Rf.percentChangeForAdjust) (env : ExecutionEnv) {p : SceneProperties}
    (hp : st.getSceneProperties x.sceneIndex = some p) :
    LevelsInRange (executeAndStore x env st p) :=
  h.of_calm (calm_executeAndStore hp env) (h.zones.executeScene hvalue env (h.scenes _ p hp))

theorem LevelsInRange.executeIfExists (h : LevelsInRange st) {x : Execution}
    (hvalue : x.value ≤ Rf.percentChangeForAdjust) (env : ExecutionEnv) :
    LevelsInRange (executeIfExists x env st) := by
  unfold House.executeIfExists
  split
  · exact h.executeAndStore hvalue env ‹_›
  · exact h

theorem LevelsInRange.checkScene (h : LevelsInRange st) (env : CheckEnv) (sceneIdx : Byte) :
    LevelsInRange (checkScene env st sceneIdx) := by
  refine h.of_calm (calm_checkScene env st sceneIdx) ?_
  unfold House.checkScene
  split
  · exact h.zones
  · rename_i p hp
    dsimp only
    split
    · exact h.zones
    · split
      · split
        · have hvalue : (plainExecution sceneIdx 0).value ≤ Rf.percentChangeForAdjust :=
            show (0 : Byte) ≤ Rf.percentChangeForAdjust by decide
          exact h.zones.executeScene hvalue env.execution (h.scenes _ p hp)
        · exact h.zones
      · exact h.zones

/-- What holds after each round of a loop over operations holds after the loop. -/
theorem LevelsInRange.foldl {α : Type*} {f : State → α → State}
    (hf : ∀ st a, LevelsInRange st → LevelsInRange (f st a)) (as : List α) (h : LevelsInRange st) :
    LevelsInRange (as.foldl f st) := by
  induction as generalizing st with
  | nil => exact h
  | cons a as ih => exact ih (hf st a h)

theorem LevelsInRange.handleSceneControllerCommandReceived (h : LevelsInRange st)
    (sceneControllerIndex buildingId houseId : Byte) (groupId : Word)
    (garbage : SceneControllerGarbage) :
    LevelsInRange (handleSceneControllerCommandReceived st sceneControllerIndex buildingId houseId
      groupId garbage) := by
  have hadopt : LevelsInRange (st.adoptHouseID houseId) :=
    ⟨h.zones.of_zones (zones_adoptHouseID ..), by rw [scenes_adoptHouseID]; exact h.scenes⟩
  obtain ⟨-, heq⟩ | ⟨-, heq⟩ := handleSceneControllerCommandReceived_cases st
    sceneControllerIndex buildingId houseId groupId garbage
  · rw [heq]
    exact ⟨hadopt.zones, hadopt.scenes⟩
  · rwa [heq]

/-- **A frame** names percentages, and adjusts by a few percent. -/
theorem LevelsInRange.handleCall (h : LevelsInRange st) (env : CallEnv) (call : Rf.Call)
    (hcall : CallScaled call) : LevelsInRange (handleCall st env call) := by
  have hzero : (0 : Byte) ≤ Rf.percentChangeForAdjust := by decide
  cases call with
  | handleRampReceived buildingId houseId groupId value deviceType =>
    exact h.of_zonesOnly (zonesOnly_handleRampReceived ..)
      (h.zones.handleRampReceived buildingId houseId groupId hcall deviceType _)
  | handleSceneControllerMasterOff buildingId houseId groupId _ rampRate =>
    simp only [House.handleCall, handleSceneControllerMasterOff]
    split
    · exact h.handleSceneControllerCommandReceived _ _ _ _ _
    · split
      · exact h
      · exact h.foldl (fun st _ hst => hst.executeIfExists hzero _) _
  | handleSceneControllerSceneRequest buildingId houseId groupId bankIndex state _ rampRate =>
    simp only [House.handleCall, handleSceneControllerSceneRequest]
    split
    · exact h.handleSceneControllerCommandReceived _ _ _ _ _
    · split
      · exact h
      · split
        · exact h.executeIfExists hzero _
        · exact h
  | handleSceneControllerSceneAdjust buildingId houseId groupId sceneIdx value change rampRate =>
    simp only [House.handleCall, handleSceneControllerSceneAdjust]
    split
    · exact h.handleSceneControllerCommandReceived _ _ _ _ _
    · split
      · refine h.executeIfExists ?_ _
        rw [show value = Rf.percentChangeForAdjust from hcall]
        exact BitVec.le_refl _
      · exact h
  | _ => exact h

/-! ### The transmit task -/

theorem ZonesOk.transmitAttempts (h : ZonesOk st) (m : RampMessage) (attempts : List Objects) :
    ZonesOk (transmitAttempts m attempts st) := by
  have hfinish (objects : Objects) (st : State) (hst : ZonesOk st) :
      ZonesOk (finishScene m objects st) := by
    unfold finishScene
    split
    · split
      · split
        · exact hst
        · exact hst
      · exact hst
    · exact hst
  induction attempts generalizing st with
  | nil => exact h
  | cons objects attempts ih =>
    simp only [House.transmitAttempts]
    split
    · rename_i hramp
      simp only [transmitRamp] at hramp
      split at hramp
      · obtain ⟨p, hp, rfl⟩ := Option.map_eq_some_iff.1 hramp
        exact ih (hfinish objects _ (h.setZoneProperties _ (h.get hp).transmitZone))
      · cases hramp
    · exact h

theorem ZonesOk.transmit (h : ZonesOk st) (attempts : List Objects) :
    ZonesOk (transmit attempts st) := by
  unfold House.transmit
  split
  · exact h
  · rename_i m transmitQueue _
    have hqueue : ZonesOk { st with transmitQueue := transmitQueue } := h
    exact hqueue.transmitAttempts m _

/-! ### Shades and the cloud -/

theorem ZonesOk.addIfUnknown (h : ZonesOk st) (name identifier : List Byte) (isGroup : Bool)
    (garbage : ShadeGarbage) : ZonesOk (addIfUnknown st name identifier isGroup garbage) := by
  have hmax : maxPowerLevel ≤ maxPowerLevel := BitVec.le_refl _
  unfold House.addIfUnknown House.addAShade
  dsimp only
  split
  · split
    · split
      · exact h
      · have hid (idString : ℕ → List Byte) : ZonesOk { st with idString := idString } := h
        exact (hid _).setZoneProperties _ ⟨hmax, hmax⟩
    · exact h
  · exact h

theorem ZonesOk.handleQmotionStatusResponse (h : ZonesOk st) (element : JsonT)
    (changedThisMinute lastLowPowerSetting : Bool)
    (hkeeps : changedThisMinute = true ∨
      ∀ level ∈ element.get "level", reportedLevel level ≤ maxPowerLevel) :
    ZonesOk (handleQmotionStatusResponse st element changedThisMinute lastLowPowerSetting) := by
  have hlevel (level : JsonT) (hget : element.get "level" = some level) (p : ZoneProperties)
      (hp : LevelOk p) : LevelOk (shadeLevel changedThisMinute level p) := by
    unfold shadeLevel
    split
    · rename_i hstored
      obtain hchanged | hfits := hkeeps
      · rw [hchanged] at hstored
        exact absurd hstored.2 (by decide)
      · exact ⟨hfits level hget, hp.2⟩
    · exact hp
  have hbattery (battery : JsonT) (p : ZoneProperties) (hp : LevelOk p) :
      LevelOk (shadeBattery lastLowPowerSetting battery p) := by
    unfold shadeBattery
    dsimp only
    split
    · exact hp
    · exact hp
  unfold House.handleQmotionStatusResponse
  split
  · exact h
  · dsimp only
    split
    · exact h
    · rename_i p hp
      have hp : LevelOk p := h _ p hp
      refine h.setZoneProperties _ ?_
      cases hget : element.get "level" with
      | none =>
        cases element.get "lowBattery" with
        | none => exact hp
        | some battery => exact hbattery battery p hp
      | some level =>
        cases element.get "lowBattery" with
        | none => exact hlevel level hget p hp
        | some battery => exact hbattery battery _ (hlevel level hget p hp)

theorem ZonesOk.setDeviceState (h : ZonesOk st) (deviceId : List Byte) (state level : Word)
    (sending : State.Sending)
    (hkeeps : st.zones.get (st.zoneOfDevice deviceId) = none ∨ level.toInt < 0 ∨
      (level.setWidth 8 : Byte) ≤ maxPowerLevel) :
    ZonesOk (setDeviceState st deviceId state level sending) := by
  simp only [House.setDeviceState]
  split
  · rename_i p hp
    obtain hnone | hlevel := hkeeps
    · rw [hnone] at hp
      cases hp
    · have hp : LevelOk p := h _ p hp
      have hset : ZonesOk (st.setZoneProperties (BitVec.ofNat 8 (st.zoneOfDevice deviceId))
          (setState state level p)) := h.setZoneProperties _ (hp.setState state hlevel)
      split
      · exact hset
      · exact hset.of_zones (zones_sendRampCommandToTransmitTask ..)
  · exact h

/-! ### Requests -/

theorem levelFits_integer {valueObject : JsonT} (hinteger : valueObject.isInteger = true)
    (h : levelFits valueObject = true) :
    (valueObject.integerValue.setWidth 8 : Byte) ≤ maxPowerLevel := by
  cases valueObject with
  | integer value => exact of_decide_eq_true h
  | _ => cases hinteger

/-- What a property makes of a zone: the levels stay in range, and a switch stays one. -/
theorem handleIndividualProperty_levelOk {edit edit' : ZoneEdit} {property : String × JsonT}
    (hedit : LevelOk edit.zoneProperties)
    (hfits : edit.zoneProperties.deviceType = switchType ∨
      (property.1 = "PowerLevel" → levelFits property.2 = true))
    (h : handleIndividualProperty true edit property = .ok edit') :
    LevelOk edit'.zoneProperties := by
  unfold handleIndividualProperty at h
  obtain ⟨hlevel, h⟩ | ⟨-, h⟩ := ite_eq_iff.1 h
  · unfold powerLevelProperty at h
    dsimp only at h
    obtain ⟨-, h⟩ | ⟨hinteger, h⟩ := ite_eq_iff.1 h
    · cases h
    have hinteger : property.2.isInteger = true := by simpa using hinteger
    obtain ⟨-, h⟩ | ⟨-, h⟩ := ite_eq_iff.1 h
    · obtain ⟨hzero, h⟩ | ⟨-, h⟩ := ite_eq_iff.1 h
      · cases h
        refine ⟨hedit.1, ?_⟩
        show (property.2.integerValue.setWidth 8 : Byte) ≤ maxPowerLevel
        rw [hzero.2]
        decide
      · cases h
    · obtain ⟨-, h⟩ | ⟨hset, h⟩ := ite_eq_iff.1 h
      · obtain ⟨-, h⟩ | ⟨hswitch, h⟩ := ite_eq_iff.1 h
        · cases h
          exact ⟨hedit.1, BitVec.le_refl _⟩
        · cases h
          exact ⟨hedit.1, levelFits_integer hinteger (hfits.resolve_left hswitch hlevel)⟩
      · exact absurd rfl hset
  obtain ⟨-, h⟩ | ⟨-, h⟩ := ite_eq_iff.1 h
  · unfold rampRateProperty at h
    dsimp only at h
    split_ifs at h <;> cases h <;> exact hedit
  obtain ⟨-, h⟩ | ⟨-, h⟩ := ite_eq_iff.1 h
  · unfold zoneNameProperty at h
    split_ifs at h <;> cases h <;> exact hedit
  obtain ⟨-, h⟩ | ⟨-, h⟩ := ite_eq_iff.1 h
  · unfold powerProperty at h
    split_ifs at h <;> cases h <;> exact hedit
  obtain ⟨-, h⟩ | ⟨-, h⟩ := ite_eq_iff.1 h
  · unfold deviceTypeProperty at h
    dsimp only at h
    split_ifs at h <;> cases h <;> exact hedit
  · cases h

theorem handleIndividualProperty_switch {edit edit' : ZoneEdit} {property : String × JsonT}
    (hswitch : edit.zoneProperties.deviceType = switchType)
    (h : handleIndividualProperty true edit property = .ok edit') :
    edit'.zoneProperties.deviceType = switchType := by
  have hdevice := congrArg Device.deviceType (handleIndividualProperty_device h)
  by_cases htype : property.1 = "DeviceType"
  · -- a switch has its type already
    unfold handleIndividualProperty at h
    rw [if_neg (htype ▸ by decide), if_neg (htype ▸ by decide), if_neg (htype ▸ by decide),
      if_neg (htype ▸ by decide), if_pos htype] at h
    unfold deviceTypeProperty at h
    dsimp only at h
    split_ifs at h with _ _ hset
    all_goals
      refine absurd ?_ hset
      rw [hswitch]
      decide
  · rw [show edit'.zoneProperties.deviceType = edit.zoneProperties.deviceType from
      hdevice.trans (if_neg htype), hswitch]

theorem editZone_levelOk {root : JsonT} {errorFlag : Bool} {p : ZoneProperties} {edit : ZoneEdit}
    (hp : LevelOk p) (hfits : powerLevelsFit root p = true)
    (h : editZone root errorFlag p = .ok (some edit)) : LevelOk edit.zoneProperties := by
  have hround : ∀ edit property edit', property ∈ propertyList root →
      (LevelOk edit.zoneProperties ∧
        (p.deviceType = switchType → edit.zoneProperties.deviceType = switchType)) →
      handleIndividualProperty true edit property = .ok edit' →
      LevelOk edit'.zoneProperties ∧
        (p.deviceType = switchType → edit'.zoneProperties.deviceType = switchType) := by
    intro edit property edit' hmem ⟨hedit, hswitch⟩ hproperty
    refine ⟨handleIndividualProperty_levelOk hedit ?_ hproperty, fun htype =>
      handleIndividualProperty_switch (hswitch htype) hproperty⟩
    obtain htype | hall := Bool.or_eq_true_iff.1 hfits
    · exact .inl (hswitch (of_decide_eq_true htype))
    · refine .inr fun hlevel => ?_
      obtain hother | hfits := Bool.or_eq_true_iff.1 (List.all_eq_true.1 hall property hmem)
      · exact absurd hlevel (of_decide_eq_true hother)
      · exact hfits
  exact (foldlM_invariant hround ⟨hp, id⟩ (editZone_passes h)).1

theorem powerLevel_of_zoneInScene {element : JsonT} {zone : ZoneInScene}
    (hfits : (element.get "Lvl").all levelFits = true) (h : zoneInScene element = .ok zone) :
    zone.powerLevel ≤ maxPowerLevel := by
  obtain ⟨zoneId, -, h⟩ := bind_eq_ok.1 h
  obtain ⟨powerLevel, hlevel, h⟩ := bind_eq_ok.1 h
  obtain ⟨rampRate, -, h⟩ := bind_eq_ok.1 h
  obtain ⟨state, -, h⟩ := bind_eq_ok.1 h
  cases h
  show powerLevel ≤ maxPowerLevel
  unfold levelOf at hlevel
  split at hlevel
  · cases hlevel
    decide
  · rename_i value hget
    obtain ⟨-, hlevel⟩ | ⟨-, hlevel⟩ := ite_eq_iff.1 hlevel
    · cases hlevel
    · cases hlevel
      rw [hget, Option.all_some] at hfits
      exact levelFits_integer (by rfl) hfits
  · cases hlevel

/-- The levels of the zones in a request are those of its elements. -/
theorem listOk_of_zoneDataOf {elements : List JsonT} {zoneData : List ZoneInScene}
    (hfits : (elements.all fun element => (element.get "Lvl").all levelFits) = true)
    (h : (zoneDataOf elements).map Subtype.val = .ok zoneData) : ListOk zoneData := by
  induction elements generalizing zoneData with
  | nil =>
    cases h
    exact fun z hz => absurd hz List.not_mem_nil
  | cons element elements ih =>
    rw [List.all_cons, Bool.and_eq_true] at hfits
    obtain ⟨hfirst, hrest⟩ := hfits
    cases hlist : zoneDataOf (element :: elements) with
    | error error =>
      rw [hlist] at h
      cases h
    | ok list =>
      rw [hlist] at h
      cases h
      obtain ⟨zone, hzone, hlist⟩ := bind_eq_ok.1 hlist
      obtain ⟨rest, hrestlist, hlist⟩ := bind_eq_ok.1 hlist
      cases hlist
      intro z hz
      obtain rfl | hz := List.mem_cons.1 hz
      · exact powerLevel_of_zoneInScene hfirst hzone
      · exact ih hrest (by rw [hrestlist]; rfl) z hz

theorem editScene_listOk {get : Byte → Option ZoneProperties} {root : JsonT}
    {p p' : SceneProperties} (hp : ListOk p.zoneData) (hfits : listsFit root = true)
    (h : editScene get root p = .ok p') : ListOk p'.zoneData := by
  have hround : ∀ p property p', property ∈ propertyList root → ListOk p.zoneData →
      handleIndividualSceneProperty get true p property = .ok p' → ListOk p'.zoneData := by
    intro p property p' hmem hp hproperty
    obtain ⟨-, ⟨-, hsame⟩ | ⟨hkey, hlist⟩⟩ := handleIndividualSceneProperty_cases hproperty
    · rwa [hsame]
    · obtain hother | hfits := Bool.or_eq_true_iff.1 (List.all_eq_true.1 hfits property hmem)
      · exact absurd hkey (of_decide_eq_true hother)
      · exact listOk_of_zoneDataOf hfits hlist
  exact foldlM_invariant (I := fun p : SceneProperties => ListOk p.zoneData) hround hp
    (editScene_passes h)

theorem LevelsInRange.setSceneProperties (h : LevelsInRange st) (sceneIndex : Byte)
    {p : SceneProperties} (hp : ListOk p.zoneData) :
    LevelsInRange (st.setSceneProperties sceneIndex p) :=
  ⟨h.zones, Table.All.set h.scenes fun _ => hp⟩

/-! ### Runs -/

/-- **The levels stay in range** after an operation that meets the condition. -/
theorem LevelsInRange.next (h : LevelsInRange st) (e : Event) (hkeeps : keepsLevels st e = true) :
    LevelsInRange (next st e) := by
  have hzero : (0 : Byte) ≤ Rf.percentChangeForAdjust := by decide
  cases e with
  | setZoneProperties root errorFlag sending =>
    obtain heq | ⟨zoneIndex, p, edit, st', hlookup, hedit, hst', heq⟩ :=
      handleSetZoneProperties_cases st root errorFlag sending
    · rwa [House.next, heq]
    · refine h.of_zonesOnly (next_zonesOnly st rfl) ?_
      rw [House.next, heq]
      have hst' : ZonesOk st' := by
        obtain rfl | rfl := hst'
        · exact h.zones
        · exact h.zones.of_zones (zones_sendRampCommandToTransmitTask ..)
      have hfits : powerLevelsFit root p = true := by
        simpa only [keepsLevels, hlookup, hedit, Except.isOk, Except.toBool, Bool.not_true,
          Bool.false_or] using hkeeps
      have hp : LevelOk p := h.zones.get (lookup_ok hlookup).2
      exact hst'.setZoneProperties _ (editZone_levelOk hp hfits hedit)
  | deleteZone root =>
    refine h.of_zonesOnly (next_zonesOnly st rfl) ?_
    obtain heq | ⟨zoneIndex, p, st', hp, hst', heq⟩ := handleDeleteZone_cases st root
    · rw [House.next, heq]
      exact h.zones.of_zones (zones_clearHouseID st)
    · rw [House.next, heq]
      refine ZonesOk.of_zones ?_ (zones_clearHouseID st')
      have hp : LevelOk p := h.zones.get hp
      obtain rfl | rfl := hst'
      · exact h.zones.setZoneProperties _ hp
      · exact h.zones.setZoneProperties _ hp
  | triggerRamp root EliotDeviceId =>
    refine h.of_zonesOnly (next_zonesOnly st rfl) ?_
    simp only [House.next, handleTriggerRampCommand]
    split
    · exact h.zones
    · exact h.zones.handleRampReceived _ _ _ (triggerRamp_level ‹_›) _ _
  | triggerRampAll root =>
    exact h.of_calm (next_calm st rfl) (h.zones.handleTriggerRampAllCommand root)
  | createScene root garbage nextTriggerTime =>
    obtain heq | ⟨p, -, hedit, heq⟩ := handleCreateScene_cases st root garbage nextTriggerTime
    · rwa [House.next, heq]
    · rw [House.next, heq]
      have hfits : listsFit root = true := by
        simpa only [keepsLevels, hedit, Except.isOk, Except.toBool, Bool.not_true, Bool.false_or]
          using hkeeps
      have hnew : ListOk (newScene garbage).zoneData := fun z hz => absurd hz List.not_mem_nil
      have hlist : ListOk p.zoneData := editScene_listOk hnew hfits hedit
      exact h.setSceneProperties _ hlist
  | setSceneProperties root nextTriggerTime =>
    obtain heq | ⟨sceneIndex, p, p', hscene, hedit, heq⟩ :=
      handleSetSceneProperties_cases st root nextTriggerTime
    · rwa [House.next, heq]
    · rw [House.next, heq]
      have hfits : listsFit root = true := by
        simpa only [keepsLevels, hscene, hedit, Except.isOk, Except.toBool, Bool.not_true,
          Bool.false_or] using hkeeps
      have hlist : ListOk p'.zoneData :=
        editScene_listOk (h.scenes _ p (sceneOfRequest_ok hscene)) hfits hedit
      exact h.setSceneProperties _ hlist
  | deleteScene root =>
    obtain heq | ⟨sceneIndex, p, hp, heq⟩ := handleDeleteScene_cases st root
    · rwa [House.next, heq]
    · rw [House.next, heq]
      have hlist : ListOk p.zoneData := h.scenes _ p hp
      exact ⟨h.zones, Table.All.set h.scenes fun _ => hlist⟩
  | runScene root env =>
    refine h.of_calm (next_calm st rfl) ?_
    simp only [House.next, handleRunScene]
    split
    · exact h.zones
    · rename_i sceneIndex p hp
      exact (h.executeAndStore (x := plainExecution sceneIndex _) hzero env
        (getSceneProperties_of_sceneToRun hp)).zones
  | setSceneControllerProperties root commands =>
    obtain heq | ⟨_, p, edit, -, -, heq⟩ :=
      handleSetSceneControllerProperties_cases st root commands
    · rwa [House.next, heq]
    · rw [House.next, heq]
      exact ⟨h.zones, h.scenes⟩
  | deleteSceneController root commands =>
    have hclear (st : State) (hst : LevelsInRange st) : LevelsInRange st.clearHouseID :=
      hst.of_zonesOnly (zonesOnly_clearHouseID st) (hst.zones.of_zones (zones_clearHouseID st))
    obtain heq | heq | ⟨_, p, -, heq⟩ := handleDeleteSceneController_cases st root commands
    · rwa [House.next, heq]
    · rw [House.next, heq]
      exact hclear st h
    · rw [House.next, heq]
      exact hclear _ ⟨h.zones, h.scenes⟩
  | triggerSceneController root env garbage =>
    simp only [House.next, handleTriggerSceneControllerCommand]
    split
    · exact h
    · exact h.handleCall ⟨.empty (by decide), garbage, fun _ => env⟩
        (.handleSceneControllerSceneRequest _ _ _ _ _ 0 0) trivial
  | received call env => exact h.handleCall env call.1 call.2
  | checkScenes env =>
    simp only [House.next, checkScenes]
    split
    · exact h
    · exact h.foldl (fun st sceneIdx hst => hst.checkScene _ _) _
  | devicesInfo element garbage =>
    refine h.of_zonesOnly (next_zonesOnly st rfl) ?_
    simp only [House.next, handleDevicesInfoResponse]
    split
    · split
      · exact h.zones.addIfUnknown _ _ _ _
      · exact h.zones
    · exact h.zones
  | qmotionGroups element garbage =>
    refine h.of_zonesOnly (next_zonesOnly st rfl) ?_
    simp only [House.next, handleQmotionGroupsResponse]
    split
    · exact h.zones.addIfUnknown _ _ _ _
    · exact h.zones
  | qmotionStatus element changedThisMinute lastLowPowerSetting =>
    refine h.of_calm (next_calm st rfl) ?_
    refine h.zones.handleQmotionStatusResponse element changedThisMinute lastLowPowerSetting ?_
    refine (Bool.or_eq_true_iff.1 hkeeps).imp_right fun hall level hlevel => ?_
    exact of_decide_eq_true ((Option.all_eq_true ..).1 hall level hlevel)
  | adjustDeviceLevel deviceId delta sending =>
    refine h.of_calm (next_calm st rfl) ?_
    simp only [House.next, adjustDeviceLevel]
    split
    · rename_i p hp
      refine ZonesOk.of_zones ?_ (zones_sendRampCommandToTransmitTask ..)
      exact h.zones.setZoneProperties _ ((h.zones _ p hp).adjustLevel delta)
    · exact h.zones
  | setDeviceState deviceId state level sending =>
    refine h.of_calm (next_calm st rfl) (h.zones.setDeviceState deviceId state level sending ?_)
    simpa only [keepsLevels, Bool.or_eq_true, Option.isNone_iff_eq_none, decide_eq_true_eq,
      or_assoc] using hkeeps
  | setSceneState deviceId state env =>
    refine h.of_calm (next_calm st rfl) ?_
    simp only [House.next, setSceneState]
    split
    · exact (h.executeIfExists hzero env).zones
    · exact h.zones
  | setZoneDeviceId zoneIndex id =>
    refine h.of_calm (next_calm st rfl) ?_
    simp only [House.next, setZoneDeviceId]
    split
    · rename_i p hp
      have hp : LevelOk p := h.zones.get hp
      exact h.zones.setZoneProperties _ hp
    · exact h.zones
  | transmit attempts => exact h.of_calm (next_calm st rfl) (h.zones.transmit attempts)
  | reboot addASceneController idString =>
    have hmax : maxPowerLevel ≤ maxPowerLevel := BitVec.le_refl _
    constructor
    · intro i p hp
      obtain ⟨q, hq, rfl⟩ := Option.map_eq_some_iff.1 hp
      exact ⟨hmax, hmax⟩
    · intro i p hp
      obtain ⟨q, hq, rfl⟩ := Option.map_eq_some_iff.1 hp
      exact h.scenes i q hq
  | clearFlash => exact ⟨Table.all_empty, Table.all_empty⟩
  | addALight valueObject =>
    refine h.of_calm (next_calm st rfl) (h.zones.of_zones ?_)
    simp only [House.next, addALightProperty]
    split_ifs <;> rfl
  | resetAddALight => exact h.of_calm (next_calm st rfl) h.zones
  | addASceneController valueObject =>
    refine h.of_calm (next_calm st rfl) (h.zones.of_zones ?_)
    simp only [House.next, addASceneControllerProperty]
    split_ifs <;> rfl
  | adjustTriggers adjustment => exact h.of_calm (next_calm st rfl) h.zones
  | setSceneDeviceId sceneIndex id =>
    refine h.of_calm (next_calm st rfl) (h.zones.of_zones ?_)
    simp only [House.next, setSceneDeviceId]
    split <;> rfl

/-- What is sent is a target, and that is a percentage. -/
theorem ZonesOk.onAirScaled (h : ZonesOk st) : OnAirScaled st := by
  intro i p hp forceSendFlag q hq
  obtain rfl := Rf.prepareRamp_eq_some hq
  unfold Rf.levelByte
  dsimp only
  split
  · exact ⟨p.targetPowerLevel, (h i p hp).2, rfl⟩
  · exact ⟨0, by decide, by decide⟩

/-- **The levels stay in range in every run** whose operations meet the condition. -/
theorem allStates_levelsInRange (es : List Event)
    (h : machine.AllSteps (fun st e => keepsLevels st e = true) State.initial es) :
    machine.AllStates (fun st => LevelsInRange st ∧ OnAirScaled st) State.initial es := by
  have hinitial : LevelsInRange State.initial := ⟨Table.all_empty, Table.all_empty⟩
  have hrun : machine.AllStates LevelsInRange State.initial es := by
    refine Machine.allStates_of_allSteps ?_ hinitial h
    intro st e st' hlevels hkeeps hnext
    obtain rfl := Option.some.inj hnext
    exact hlevels.next e hkeeps
  exact hrun.imp fun st hlevels => ⟨hlevels, hlevels.zones.onAirScaled⟩

end Levels

/-- A dimmer is added, and a level is set. -/
def setLevelOfDimmer (level : BitVec 64) : List Event :=
  [.addALight .true,
    .received ⟨.handleRampReceived 1 5 1 100 dimmerType, fullPower_le⟩ freeCall,
    .setZoneProperties (propertiesRequest ("ZID", 0) [("PowerLevel", .integer level)]) false
      ⟨true, true⟩]

theorem allStates_levelsInRange_dim :
    machine.AllStates (fun st => LevelsInRange st ∧ OnAirScaled st) State.initial
      (setLevelOfDimmer 30) :=
  allStates_levelsInRange _ (by decide +kernel)

/-- **A negative level is accepted**, and becomes a byte. -/
theorem not_allStates_levelsInRange :
    ¬ ∀ es, machine.AllStates LevelsInRange State.initial es := by
  intro h
  have hrun : (machine.run State.initial (setLevelOfDimmer (-1))).any (fun st =>
      (st.zones.get 0).any fun p => p.targetPowerLevel = 255) = true := by
    decide +kernel
  obtain ⟨st, hrun, hst⟩ := (Option.any_eq_true ..).1 hrun
  obtain ⟨p, hp, hlevel⟩ := (Option.any_eq_true ..).1 hst
  have hrange := (((h (setLevelOfDimmer (-1))).of_run hrun).zones 0 p hp).2
  rw [of_decide_eq_true hlevel] at hrange
  exact absurd hrange (by decide)

end House

end Lcm
