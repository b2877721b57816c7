import Lcm.House.Machine

/-!
# What most operations leave alone

Most operations change levels, states, triggers and flags, but not which devices, scenes and
buttons there are.

## Main definitions

* `deviceOf`, `contentOf`, `buttonsOf` : what identifies a zone, a scene, a scene controller.
* `Calm` : these stay, and so does the house id.
* `addsZone`, `addsSceneController` : a device that is not known is added.

## Main results

* `handleRampReceived_cases`, `handleSceneControllerCommandReceived_cases` : a device is added, or
  the house stays calm.
* `calm_executeAndStore`, `calm_transmit` : executing a scene and transmitting its ramps are calm.
* `next_calm` : the operations that are always calm.
-/

namespace Lcm

namespace House

open Scenes SceneControllers
open Services (Error)

/-! ### What identifies the things in the house -/

/-- What identifies a zone. -/
structure Device where
  /-- `groupId` -/
  groupId : Word
  /-- `buildingId` -/
  buildingId : Byte
  /-- `houseId` -/
  houseId : Byte
  /-- `deviceType` -/
  deviceType : Byte
  /-- `ZoneNameString` -/
  ZoneNameString : CString maxSizeNameString

/-- What identifies a zone. -/
def deviceOf (p : ZoneProperties) : Device :=
  ⟨p.groupId, p.buildingId, p.houseId, p.deviceType, p.ZoneNameString⟩

/-- The name and the zones of a scene. -/
def contentOf (p : SceneProperties) : CString maxSizeNameString × List ZoneInScene :=
  (p.SceneNameString, p.zoneData)

/-- The name, the house and the scenes of a scene controller. -/
def buttonsOf (p : SceneControllerProperties) :
    CString maxSizeNameString × Byte × (Fin maxScenesInSceneController → Byte) :=
  (p.SceneControllerNameString, p.houseId, fun bankIndex => (p.bank bankIndex).sceneId)

theorem zoneNamed_congr {p q : ZoneProperties} (h : deviceOf q = deviceOf p) :
    zoneNamed q = zoneNamed p := by
  have hname : q.ZoneNameString = p.ZoneNameString := congrArg Device.ZoneNameString h
  rw [zoneNamed, zoneNamed, hname]

theorem isShade_congr {p q : ZoneProperties} (h : deviceOf q = deviceOf p) :
    isShade q = isShade p := by
  have htype : q.deviceType = p.deviceType := congrArg Device.deviceType h
  rw [isShade, isShade, decide_eq_decide, Rf.IsShade, Rf.IsShade, htype]

theorem sceneNamed_congr {p q : SceneProperties} (h : contentOf q = contentOf p) :
    sceneNamed q = sceneNamed p := by
  have hname : q.SceneNameString = p.SceneNameString := congrArg Prod.fst h
  rw [sceneNamed, sceneNamed, hname]

theorem sceneControllerNamed_congr {p q : SceneControllerProperties}
    (h : buttonsOf q = buttonsOf p) : sceneControllerNamed q = sceneControllerNamed p := by
  have hname : q.SceneControllerNameString = p.SceneControllerNameString := congrArg Prod.fst h
  rw [sceneControllerNamed, sceneControllerNamed, hname]

/-- The devices, the scenes, the buttons, the house id and the ids of the shades stay. -/
structure Calm (st st' : State) : Prop where
  zones : st'.zones.keys deviceOf = st.zones.keys deviceOf
  scenes : st'.scenes.keys contentOf = st.scenes.keys contentOf
  sceneControllers : st'.sceneControllers.keys buttonsOf = st.sceneControllers.keys buttonsOf
  global_houseID : st'.global_houseID = st.global_houseID
  idString : st'.idString = st.idString

section Calm

variable {st st' st'' : State}

theorem Calm.refl (st : State) : Calm st st := ⟨rfl, rfl, rfl, rfl, rfl⟩

theorem Calm.trans (h : Calm st st') (h' : Calm st' st'') : Calm st st'' where
  zones := h'.zones.trans h.zones
  scenes := h'.scenes.trans h.scenes
  sceneControllers := h'.sceneControllers.trans h.sceneControllers
  global_houseID := h'.global_houseID.trans h.global_houseID
  idString := h'.idString.trans h.idString

/-- Only the flags, the queue and the counter differ. -/
theorem Calm.of_tables (hzones : st'.zones = st.zones) (hscenes : st'.scenes = st.scenes)
    (hsceneControllers : st'.sceneControllers = st.sceneControllers)
    (hhouse : st'.global_houseID = st.global_houseID) (hids : st'.idString = st.idString) :
    Calm st st' where
  zones := by rw [hzones]
  scenes := by rw [hscenes]
  sceneControllers := by rw [hsceneControllers]
  global_houseID := hhouse
  idString := hids

theorem calm_setZoneProperties {zoneIndex : Byte} {p q : ZoneProperties}
    (h : st.getZoneProperties zoneIndex = some p) (hdevice : deviceOf q = deviceOf p) :
    Calm st (st.setZoneProperties zoneIndex q) where
  zones := Table.keys_set h hdevice (zoneNamed_congr hdevice)
  scenes := rfl
  sceneControllers := rfl
  global_houseID := rfl
  idString := rfl

theorem calm_setSceneProperties {sceneIndex : Byte} {p q : SceneProperties}
    (h : st.getSceneProperties sceneIndex = some p) (hcontent : contentOf q = contentOf p) :
    Calm st (st.setSceneProperties sceneIndex q) where
  zones := rfl
  scenes := Table.keys_set h hcontent (sceneNamed_congr hcontent)
  sceneControllers := rfl
  global_houseID := rfl
  idString := rfl

theorem calm_setSceneControllerProperties {sceneControllerIndex : Byte}
    {p q : SceneControllerProperties}
    (h : st.getSceneControllerProperties sceneControllerIndex = some p)
    (hbuttons : buttonsOf q = buttonsOf p) :
    Calm st (st.setSceneControllerProperties sceneControllerIndex q) where
  zones := rfl
  scenes := rfl
  sceneControllers := Table.keys_set h hbuttons (sceneControllerNamed_congr hbuttons)
  global_houseID := rfl
  idString := rfl

/-- A copy of the properties of a scene is stored, after something calm. -/
theorem Calm.setSceneProperties {sceneIndex : Byte} {p q : SceneProperties} (hcalm : Calm st st')
    (h : st.getSceneProperties sceneIndex = some p) (hcontent : contentOf q = contentOf p) :
    Calm st (st'.setSceneProperties sceneIndex q) := by
  obtain ⟨p', hp', hkey⟩ := Table.exists_of_keys hcalm.scenes.symm h
  exact hcalm.trans (calm_setSceneProperties hp' (hcontent.trans hkey.symm))

theorem toNat_ofNat_of_lt {i : ℕ} (h : i < 256) : (BitVec.ofNat 8 i).toNat = i := by
  rw [BitVec.toNat_ofNat]
  omega

/-- The index of a zone is a byte. -/
theorem getZoneProperties_ofNat {i : ℕ} {p : ZoneProperties} (h : st.zones.get i = some p) :
    st.getZoneProperties (BitVec.ofNat 8 i) = some p := by
  have hi : i < 100 := Table.lt_of_get h
  rw [State.getZoneProperties, toNat_ofNat_of_lt (by omega), h]

theorem getSceneControllerProperties_ofNat {i : ℕ} {p : SceneControllerProperties}
    (h : st.sceneControllers.get i = some p) :
    st.getSceneControllerProperties (BitVec.ofNat 8 i) = some p := by
  have hi : i < 40 := Table.lt_of_get h
  rw [State.getSceneControllerProperties, toNat_ofNat_of_lt (by omega), h]

theorem calm_sendRampCommandToTransmitTask (st : State)
    (zoneIndex sceneId scenePercent : Byte) (priority run : ℕ) (sending : State.Sending) :
    Calm st
      (st.sendRampCommandToTransmitTask zoneIndex sceneId scenePercent priority run sending) := by
  unfold State.sendRampCommandToTransmitTask
  split
  · split
    · split
      · exact .of_tables rfl rfl rfl rfl rfl
      · exact .refl st
    · exact .refl st
  · exact .refl st

end Calm

theorem deviceOf_restarted (p : ZoneProperties) :
    deviceOf (Zones.zones.restarted p) = deviceOf p := rfl

/-! ### Levels -/

theorem deviceOf_targetValue (value : Byte) (p : ZoneProperties) :
    deviceOf (targetValue value p) = deviceOf p := by
  simp only [targetValue]
  split_ifs <;> rfl

theorem deviceOf_targetValueAll (value : Byte) (p : ZoneProperties) :
    deviceOf (targetValueAll value p) = deviceOf p := by
  simp only [targetValueAll]
  split_ifs <;> rfl

theorem deviceOf_shadeLevel (changedThisMinute : Bool) (level : JsonT) (p : ZoneProperties) :
    deviceOf (shadeLevel changedThisMinute level p) = deviceOf p := by
  simp only [shadeLevel]
  split_ifs <;> rfl

theorem deviceOf_shadeBattery (lastLowPowerSetting : Bool) (battery : JsonT)
    (p : ZoneProperties) : deviceOf (shadeBattery lastLowPowerSetting battery p) = deviceOf p := by
  simp only [shadeBattery]
  split_ifs <;> rfl

theorem deviceOf_adjustLevel (delta : Word) (p : ZoneProperties) :
    deviceOf (adjustLevel delta p) = deviceOf p := by
  simp only [adjustLevel]
  split_ifs <;> rfl

theorem deviceOf_setState (state level : Word) (p : ZoneProperties) :
    deviceOf (setState state level p) = deviceOf p := by
  simp only [setState]
  split_ifs <;> rfl

theorem deviceOf_executeZone (x : Execution) (rampRate : Byte) (zone : ZoneInScene)
    (p : ZoneProperties) : deviceOf (executeZone x rampRate zone p) = deviceOf p := by
  simp only [executeZone, activateZone, deactivateZone, takeTargets]
  split_ifs <;> rfl

theorem deviceOf_transmitZone (p : ZoneProperties) :
    deviceOf (transmitZone p).1 = deviceOf p := by
  rw [transmitZone_eq]
  rfl

theorem calm_handleTargetValue (st : State) (value zoneIdx : Byte) :
    Calm st (handleTargetValue st value zoneIdx) := by
  unfold handleTargetValue
  split
  · exact calm_setZoneProperties ‹_› (deviceOf_targetValue _ _)
  · exact .refl st

theorem calm_handleTriggerRampAllCommand (st : State) (root : JsonT) :
    Calm st (handleTriggerRampAllCommand st root).1 := by
  unfold handleTriggerRampAllCommand
  split
  · exact .refl st
  · split
    · exact .refl st
    · refine ⟨Table.keys_map (zoneNamed_targetValueAll _) ?_, rfl, rfl, rfl, rfl⟩
      exact deviceOf_targetValueAll _

theorem calm_handleQmotionStatusResponse (st : State) (element : JsonT)
    (changedThisMinute lastLowPowerSetting : Bool) :
    Calm st (handleQmotionStatusResponse st element changedThisMinute lastLowPowerSetting) := by
  unfold handleQmotionStatusResponse
  split
  · exact .refl st
  · dsimp only
    split
    · exact .refl st
    · refine calm_setZoneProperties (getZoneProperties_ofNat ‹_›) ?_
      cases element.get "level" <;> cases element.get "lowBattery" <;>
        simp [deviceOf_shadeBattery, deviceOf_shadeLevel]

theorem calm_adjustDeviceLevel (st : State) (deviceId : List Byte) (delta : Word)
    (sending : State.Sending) : Calm st (adjustDeviceLevel st deviceId delta sending) := by
  simp only [adjustDeviceLevel]
  split
  · rename_i hp
    have hset := calm_setZoneProperties (getZoneProperties_ofNat hp) (deviceOf_adjustLevel delta _)
    exact hset.trans (calm_sendRampCommandToTransmitTask ..)
  · exact .refl st

theorem calm_setDeviceState (st : State) (deviceId : List Byte) (state level : Word)
    (sending : State.Sending) : Calm st (setDeviceState st deviceId state level sending) := by
  simp only [setDeviceState]
  split
  · rename_i hp
    have hset := calm_setZoneProperties (getZoneProperties_ofNat hp)
      (deviceOf_setState state level _)
    split
    · exact hset
    · exact hset.trans (calm_sendRampCommandToTransmitTask ..)
  · exact .refl st

theorem calm_setZoneDeviceId (st : State) (zoneIndex : Byte) (id : CString eliotDeviceIdSize) :
    Calm st (setZoneDeviceId st zoneIndex id) := by
  unfold setZoneDeviceId
  split
  · rename_i hp
    exact calm_setZoneProperties hp rfl
  · exact .refl st

/-! ### Scenes -/

theorem calm_setSceneDeviceId (st : State) (sceneIndex : Byte) (id : CString eliotDeviceIdSize) :
    Calm st (setSceneDeviceId st sceneIndex id) := by
  unfold setSceneDeviceId
  split
  · rename_i hp
    exact calm_setSceneProperties hp rfl
  · exact .refl st

theorem contentOf_adjusted (adjustment : Dword) (p : SceneProperties) :
    contentOf (Schedule.adjusted adjustment p) = contentOf p := by
  rw [Schedule.adjusted]
  split <;> rfl

theorem calm_adjustTriggers (st : State) (adjustment : Dword) :
    Calm st (adjustTriggers st adjustment) where
  zones := rfl
  scenes :=
    Table.keys_map (fun p => sceneNamed_congr (contentOf_adjusted adjustment p))
      (contentOf_adjusted adjustment)
  sceneControllers := rfl
  global_houseID := rfl
  idString := rfl

theorem calm_visitZone {st st' : State} {x : Execution} {rampRate : Byte} {zone : ZoneInScene}
    (h : visitZone x rampRate zone st = some st') : Calm st st' := by
  obtain ⟨p, hp, rfl⟩ := Option.map_eq_some_iff.1 h
  exact calm_setZoneProperties hp (deviceOf_executeZone ..)

theorem calm_executeZones (x : Execution) (rampRate : Byte) (number numZonesInScene : ℕ)
    (rounds : ℕ → Round) (zoneData : List ZoneInScene) (zoneIndex : ℕ) (st : State)
    (running : Byte) :
    Calm st
      (executeZones x rampRate number numZonesInScene rounds zoneIndex zoneData st running).1 := by
  induction zoneData generalizing zoneIndex st running with
  | nil => exact .refl st
  | cons zone zoneData ih =>
    simp only [executeZones]
    split
    · rename_i hvisit
      refine (calm_visitZone hvisit).trans (.trans ?_ (ih ..))
      exact calm_sendRampCommandToTransmitTask ..
    · exact ih ..

theorem calm_markToggled (x : Execution) (st : State) : Calm st (markToggled x st) := by
  simp only [markToggled]
  split
  · exact .refl st
  · rename_i p hp
    split
    · exact .refl st
    · rename_i bankIndex _
      refine calm_setSceneControllerProperties (getSceneControllerProperties_ofNat hp) ?_
      -- only `toggled` of the button changes
      simp only [buttonsOf, setBank, Prod.mk.injEq, true_and]
      funext i
      by_cases hi : i = bankIndex
      · rw [hi, Function.update_self]
      · rw [Function.update_of_ne hi]

theorem calm_executeScene (x : Execution) (env : ExecutionEnv) (st : State)
    (p : SceneProperties) : Calm st (executeScene x env st p).1 := by
  unfold executeScene
  split
  · have hruns : Calm st { st with runs := st.runs + 1 } := .of_tables rfl rfl rfl rfl rfl
    exact (hruns.trans (calm_executeZones ..)).trans (calm_markToggled ..)
  · exact .refl st

theorem contentOf_executeScene (x : Execution) (env : ExecutionEnv) (st : State)
    (p : SceneProperties) : contentOf (executeScene x env st p).2 = contentOf p := by
  unfold executeScene
  split <;> rfl

/-- **Executing a scene is calm.** -/
theorem calm_executeAndStore {st : State} {x : Execution} {p : SceneProperties}
    (h : st.getSceneProperties x.sceneIndex = some p) (env : ExecutionEnv) :
    Calm st (executeAndStore x env st p) :=
  (calm_executeScene x env st p).setSceneProperties h (contentOf_executeScene x env st p)

theorem getSceneProperties_of_sceneToRun {st : State} {root : JsonT} {sceneIndex : Byte}
    {p : SceneProperties} (h : sceneToRun st root = .ok (sceneIndex, p)) :
    st.getSceneProperties sceneIndex = some p := by
  unfold sceneToRun at h
  split at h
  · split at h
    · cases h
    · dsimp only at h
      split at h
      · cases h
      · split at h
        · cases h
        · cases h
          assumption
  · cases h

theorem calm_handleRunScene (st : State) (root : JsonT) (env : ExecutionEnv) :
    Calm st (handleRunScene st root env).1 := by
  unfold handleRunScene
  split
  · exact .refl st
  · rename_i h
    exact calm_executeAndStore (x := plainExecution _ _) (getSceneProperties_of_sceneToRun h) env

theorem calm_checkScene (env : CheckEnv) (st : State) (sceneIdx : Byte) :
    Calm st (checkScene env st sceneIdx) := by
  unfold checkScene
  split
  · exact .refl st
  · rename_i p hp
    have hretrigger (q : SceneProperties) :
        contentOf (retrigger env.nextTriggerTime q) = contentOf q := by
      rw [retrigger]
      split <;> rfl
    dsimp only
    split
    · exact .refl st
    · split
      · split
        · exact (calm_executeScene ..).setSceneProperties hp
            ((hretrigger _).trans (contentOf_executeScene ..))
        · exact calm_setSceneProperties hp (hretrigger _)
      · exact calm_setSceneProperties hp rfl

theorem calm_foldl {α : Type*} {f : State → α → State} (hf : ∀ st a, Calm st (f st a))
    (as : List α) (st : State) : Calm st (as.foldl f st) := by
  induction as generalizing st with
  | nil => exact .refl st
  | cons a as ih => exact (hf st a).trans (ih (f st a))

theorem calm_checkScenes (env : ℕ → CheckEnv) (st : State) : Calm st (checkScenes env st) := by
  unfold checkScenes
  split
  · exact .refl st
  · exact calm_foldl (fun st sceneIdx => calm_checkScene (env sceneIdx) st _) _ st

theorem calm_executeIfExists (x : Execution) (env : ExecutionEnv) (st : State) :
    Calm st (executeIfExists x env st) := by
  unfold executeIfExists
  split
  · exact calm_executeAndStore ‹_› env
  · exact .refl st

theorem calm_setSceneState (st : State) (deviceId : List Byte) (state : Bool)
    (env : ExecutionEnv) : Calm st (setSceneState st deviceId state env) := by
  simp only [setSceneState]
  split
  · exact calm_executeIfExists ..
  · exact .refl st

/-! ### The transmit task -/

theorem calm_transmitRamp {st st' : State} {m : RampMessage} (h : transmitRamp m st = some st') :
    Calm st st' := by
  simp only [transmitRamp] at h
  split at h
  · obtain ⟨p, hp, rfl⟩ := Option.map_eq_some_iff.1 h
    exact calm_setZoneProperties hp (deviceOf_transmitZone p)
  · cases h

theorem calm_finishScene (m : RampMessage) (objects : Objects) (st : State) :
    Calm st (finishScene m objects st) := by
  unfold finishScene
  split
  · split
    · rename_i hp
      split
      · exact calm_setSceneProperties hp rfl
      · exact .refl st
    · exact .refl st
  · exact .refl st

theorem calm_transmitAttempts (m : RampMessage) (attempts : List Objects) (st : State) :
    Calm st (transmitAttempts m attempts st) := by
  induction attempts generalizing st with
  | nil => exact .refl st
  | cons objects attempts ih =>
    simp only [transmitAttempts]
    split
    · rename_i hramp
      exact ((calm_transmitRamp hramp).trans (calm_finishScene m objects _)).trans (ih _)
    · exact .refl st

/-- **Transmitting a ramp is calm.** -/
theorem calm_transmit (attempts : List Objects) (st : State) : Calm st (transmit attempts st) := by
  unfold transmit
  split
  · exact .refl st
  · rename_i transmitQueue _
    have hqueue : Calm st { st with transmitQueue := transmitQueue } := .of_tables rfl rfl rfl rfl rfl
    exact hqueue.trans (calm_transmitAttempts ..)

/-! ### Devices that are added -/

/-- What a ramp does to the house id. -/
def rampAdopts (st : State) (houseId : Byte) : State :=
  if st.addALight then st.adoptHouseID houseId else st

/-- A ramp adds a zone. -/
def addsZone (st : State) (buildingId houseId : Byte) (groupId : Word) : Bool :=
  st.addALight && (st.adoptHouseID houseId).global_houseID = houseId &&
    maxNumberOfZones ≤ (st.getZoneIndex groupId buildingId houseId).toNat &&
    st.zones.available < maxNumberOfZones

/-- A command of a scene controller adds one. -/
def addsSceneController (st : State) (sceneControllerIndex houseId : Byte) : Bool :=
  (st.adoptHouseID houseId).global_houseID = houseId &&
    maxNumberOfSceneControllers ≤ sceneControllerIndex.toNat &&
    st.sceneControllers.available < maxNumberOfSceneControllers

@[simp]
theorem zones_adoptHouseID (st : State) (houseId : Byte) :
    (st.adoptHouseID houseId).zones = st.zones := by
  unfold State.adoptHouseID
  split <;> rfl

@[simp]
theorem scenes_adoptHouseID (st : State) (houseId : Byte) :
    (st.adoptHouseID houseId).scenes = st.scenes := by
  unfold State.adoptHouseID
  split <;> rfl

@[simp]
theorem sceneControllers_adoptHouseID (st : State) (houseId : Byte) :
    (st.adoptHouseID houseId).sceneControllers = st.sceneControllers := by
  unfold State.adoptHouseID
  split <;> rfl

@[simp]
theorem zones_clearHouseID (st : State) : st.clearHouseID.zones = st.zones := by
  unfold State.clearHouseID
  split <;> rfl

@[simp]
theorem scenes_clearHouseID (st : State) : st.clearHouseID.scenes = st.scenes := by
  unfold State.clearHouseID
  split <;> rfl

@[simp]
theorem sceneControllers_clearHouseID (st : State) :
    st.clearHouseID.sceneControllers = st.sceneControllers := by
  unfold State.clearHouseID
  split <;> rfl

@[simp]
theorem zones_rampAdopts (st : State) (houseId : Byte) :
    (rampAdopts st houseId).zones = st.zones := by
  unfold rampAdopts
  split
  · exact zones_adoptHouseID ..
  · rfl

@[simp]
theorem scenes_rampAdopts (st : State) (houseId : Byte) :
    (rampAdopts st houseId).scenes = st.scenes := by
  unfold rampAdopts
  split
  · exact scenes_adoptHouseID ..
  · rfl

@[simp]
theorem sceneControllers_rampAdopts (st : State) (houseId : Byte) :
    (rampAdopts st houseId).sceneControllers = st.sceneControllers := by
  unfold rampAdopts
  split
  · exact sceneControllers_adoptHouseID ..
  · rfl

theorem toNat_getAvailableZoneIndex (st : State) :
    st.getAvailableZoneIndex.toNat = st.zones.available := by
  have h : st.zones.available ≤ 100 := st.zones.available_le
  exact toNat_ofNat_of_lt (by omega)

theorem toNat_getAvailableSceneIndex (st : State) :
    st.getAvailableSceneIndex.toNat = st.scenes.available := by
  have h : st.scenes.available ≤ 100 := st.scenes.available_le
  exact toNat_ofNat_of_lt (by omega)

theorem toNat_getAvailableSceneControllerIndex (st : State) :
    st.getAvailableSceneControllerIndex.toNat = st.sceneControllers.available := by
  have h : st.sceneControllers.available ≤ 40 := st.sceneControllers.available_le
  exact toNat_ofNat_of_lt (by omega)

theorem addsZone_eq_true {st : State} {buildingId houseId : Byte} {groupId : Word} :
    addsZone st buildingId houseId groupId = true ↔
      st.addALight = true ∧ (st.adoptHouseID houseId).global_houseID = houseId ∧
        maxNumberOfZones ≤ (st.getZoneIndex groupId buildingId houseId).toNat ∧
        st.zones.available < maxNumberOfZones := by
  simp only [addsZone, Bool.and_eq_true, decide_eq_true_eq, and_assoc]

/-- **What a ramp does**: it adds a zone, or nothing but the house id changes. -/
theorem handleRampReceived_cases (st : State) (buildingId houseId : Byte) (groupId : Word)
    (value deviceType : Byte) (EliotDeviceId : CString eliotDeviceIdSize) :
    addsZone st buildingId houseId groupId = true ∧
        handleRampReceived st buildingId houseId groupId value deviceType EliotDeviceId =
          { (rampAdopts st houseId).setZoneProperties st.getAvailableZoneIndex
              (newZone st.getAvailableZoneIndex buildingId houseId groupId value deviceType
                EliotDeviceId) with
            addALight := false } ∨
      addsZone st buildingId houseId groupId = false ∧
        Calm (rampAdopts st houseId)
          (handleRampReceived st buildingId houseId groupId value deviceType EliotDeviceId) := by
  have hindex : (st.adoptHouseID houseId).getAvailableZoneIndex = st.getAvailableZoneIndex := by
    rw [State.getAvailableZoneIndex, zones_adoptHouseID]
    rfl
  unfold handleRampReceived rampAdopts
  by_cases hadd : st.addALight = true
  · simp only [hadd, if_true, hindex]
    by_cases hhouse : (st.adoptHouseID houseId).global_houseID = houseId
    · rw [if_pos hhouse]
      by_cases hknown : maxNumberOfZones ≤ (st.getZoneIndex groupId buildingId houseId).toNat
      · rw [if_pos hknown]
        by_cases hfree : st.getAvailableZoneIndex.toNat < maxNumberOfZones
        · rw [if_pos hfree]
          rw [toNat_getAvailableZoneIndex] at hfree
          exact .inl ⟨addsZone_eq_true.2 ⟨hadd, hhouse, hknown, hfree⟩, rfl⟩
        · rw [if_neg hfree]
          rw [toNat_getAvailableZoneIndex] at hfree
          refine .inr ⟨Bool.eq_false_iff.2 fun h => hfree (addsZone_eq_true.1 h).2.2.2, ?_⟩
          exact .refl _
      · rw [if_neg hknown]
        refine .inr ⟨Bool.eq_false_iff.2 fun h => hknown (addsZone_eq_true.1 h).2.2.1, ?_⟩
        exact calm_handleTargetValue ..
    · rw [if_neg hhouse]
      refine .inr ⟨Bool.eq_false_iff.2 fun h => hhouse (addsZone_eq_true.1 h).2.1, ?_⟩
      exact .refl _
  · rw [if_neg hadd, if_neg hadd]
    refine .inr ⟨Bool.eq_false_iff.2 fun h => hadd (addsZone_eq_true.1 h).1, ?_⟩
    split
    · split
      · exact calm_handleTargetValue ..
      · exact .refl st
    · exact .refl st

/-- **What a command of a scene controller that is not known does**: it adds one, or nothing but
the house id changes. -/
theorem handleSceneControllerCommandReceived_cases (st : State)
    (sceneControllerIndex buildingId houseId : Byte) (groupId : Word)
    (garbage : SceneControllerGarbage) :
    addsSceneController st sceneControllerIndex houseId = true ∧
        handleSceneControllerCommandReceived st sceneControllerIndex buildingId houseId groupId
            garbage =
          { (st.adoptHouseID houseId).setSceneControllerProperties
              st.getAvailableSceneControllerIndex
              (newSceneController st.getAvailableSceneControllerIndex buildingId houseId groupId
                garbage) with
            addASceneController := false } ∨
      addsSceneController st sceneControllerIndex houseId = false ∧
        handleSceneControllerCommandReceived st sceneControllerIndex buildingId houseId groupId
            garbage = st.adoptHouseID houseId := by
  have hindex : (st.adoptHouseID houseId).getAvailableSceneControllerIndex =
      st.getAvailableSceneControllerIndex := by
    rw [State.getAvailableSceneControllerIndex, sceneControllers_adoptHouseID]
    rfl
  simp only [handleSceneControllerCommandReceived, addsSceneController, hindex,
    toNat_getAvailableSceneControllerIndex]
  split_ifs <;> simp_all

/-- **What a frame does** apart from what is calm: a ramp is received, or a scene controller that
is not known sends a command. -/
theorem handleCall_cases (st : State) (env : CallEnv) (call : Rf.Call) :
    Calm st (handleCall st env call) ∨
      (∃ buildingId houseId groupId value deviceType,
        call = .handleRampReceived buildingId houseId groupId value deviceType) ∨
      ∃ buildingId houseId groupId, handleCall st env call =
        handleSceneControllerCommandReceived st
          (st.getSceneControllerIndex groupId buildingId houseId) buildingId houseId groupId
          env.garbage := by
  cases call with
  | handleRampReceived buildingId houseId groupId value deviceType =>
    exact .inr (.inl ⟨_, _, _, _, _, rfl⟩)
  | handleSceneControllerMasterOff buildingId houseId groupId _ rampRate =>
    simp only [handleCall, handleSceneControllerMasterOff]
    split
    · exact .inr (.inr ⟨_, _, _, rfl⟩)
    · refine .inl ?_
      split
      · exact .refl st
      · exact calm_foldl (fun st _ => calm_executeIfExists _ _ st) _ st
  | handleSceneControllerSceneRequest buildingId houseId groupId bankIndex state _ rampRate =>
    simp only [handleCall, handleSceneControllerSceneRequest]
    split
    · exact .inr (.inr ⟨_, _, _, rfl⟩)
    · refine .inl ?_
      split
      · exact .refl st
      · split
        · exact calm_executeIfExists ..
        · exact .refl st
  | handleSceneControllerSceneAdjust buildingId houseId groupId sceneIdx value change rampRate =>
    simp only [handleCall, handleSceneControllerSceneAdjust]
    split
    · exact .inr (.inr ⟨_, _, _, rfl⟩)
    · refine .inl ?_
      split
      · exact calm_executeIfExists ..
      · exact .refl st
  | _ => exact .inl (.refl st)

/-- A request that acts like such a command acts like its frame. -/
theorem handleTriggerSceneControllerCommand_cases (st : State) (root : JsonT) (env : ExecutionEnv)
    (garbage : SceneControllerGarbage) :
    Calm st (handleTriggerSceneControllerCommand st root env garbage).1 ∨
      ∃ buildingId houseId groupId,
        (handleTriggerSceneControllerCommand st root env garbage).1 =
          handleSceneControllerCommandReceived st
            (st.getSceneControllerIndex groupId buildingId houseId) buildingId houseId groupId
            garbage := by
  unfold handleTriggerSceneControllerCommand
  split
  · exact .inl (.refl st)
  · rename_i buildingId houseId groupId bankIndex state _
    let callEnv : CallEnv := ⟨.empty (by decide), garbage, fun _ => env⟩
    obtain h | ⟨_, _, _, _, _, h⟩ | h := handleCall_cases st callEnv
      (.handleSceneControllerSceneRequest buildingId houseId groupId bankIndex state 0 0)
    · exact .inl h
    · cases h
    · exact .inr h

/-! ### Zones only -/

/-- The scenes and the scene controllers stay. -/
structure ZonesOnly (st st' : State) : Prop where
  scenes : st'.scenes = st.scenes
  sceneControllers : st'.sceneControllers = st.sceneControllers

theorem ZonesOnly.refl (st : State) : ZonesOnly st st := ⟨rfl, rfl⟩

theorem ZonesOnly.trans {st st' st'' : State} (h : ZonesOnly st st') (h' : ZonesOnly st' st'') :
    ZonesOnly st st'' :=
  ⟨h'.scenes.trans h.scenes, h'.sceneControllers.trans h.sceneControllers⟩

theorem zonesOnly_setZoneProperties (st : State) (zoneIndex : Byte) (p : ZoneProperties) :
    ZonesOnly st (st.setZoneProperties zoneIndex p) := ⟨rfl, rfl⟩

theorem zonesOnly_clearHouseID (st : State) : ZonesOnly st st.clearHouseID :=
  ⟨scenes_clearHouseID st, sceneControllers_clearHouseID st⟩

theorem zones_sendRampCommandToTransmitTask (st : State)
    (zoneIndex sceneId scenePercent : Byte) (priority run : ℕ) (sending : State.Sending) :
    (st.sendRampCommandToTransmitTask zoneIndex sceneId scenePercent priority run sending).zones =
      st.zones := by
  unfold State.sendRampCommandToTransmitTask
  split
  · split
    · split <;> rfl
    · rfl
  · rfl

theorem zonesOnly_sendRampCommandToTransmitTask (st : State)
    (zoneIndex sceneId scenePercent : Byte) (priority run : ℕ) (sending : State.Sending) :
    ZonesOnly st
      (st.sendRampCommandToTransmitTask zoneIndex sceneId scenePercent priority run sending) := by
  unfold State.sendRampCommandToTransmitTask
  split
  · split
    · split
      · exact ⟨rfl, rfl⟩
      · exact .refl st
    · exact .refl st
  · exact .refl st

theorem zonesOnly_handleTargetValue (st : State) (value zoneIdx : Byte) :
    ZonesOnly st (handleTargetValue st value zoneIdx) := by
  unfold handleTargetValue
  split
  · exact zonesOnly_setZoneProperties ..
  · exact .refl st

theorem zonesOnly_handleRampReceived (st : State) (buildingId houseId : Byte) (groupId : Word)
    (value deviceType : Byte) (EliotDeviceId : CString eliotDeviceIdSize) :
    ZonesOnly st
      (handleRampReceived st buildingId houseId groupId value deviceType EliotDeviceId) := by
  have hadopt : ZonesOnly st (st.adoptHouseID houseId) :=
    ⟨scenes_adoptHouseID st houseId, sceneControllers_adoptHouseID st houseId⟩
  unfold handleRampReceived
  dsimp only
  split_ifs
  · exact hadopt.trans ⟨rfl, rfl⟩
  · exact hadopt
  · exact hadopt.trans (zonesOnly_handleTargetValue ..)
  · exact hadopt
  · exact zonesOnly_handleTargetValue ..
  · exact .refl st
  · exact .refl st

theorem zonesOnly_handleSetZoneProperties (st : State) (root : JsonT) (errorFlag : Bool)
    (sending : State.Sending) :
    ZonesOnly st (handleSetZoneProperties st root errorFlag sending).1 := by
  unfold handleSetZoneProperties
  dsimp only
  split
  · exact .refl st
  · exact .refl st
  · split
    · exact (zonesOnly_sendRampCommandToTransmitTask ..).trans (zonesOnly_setZoneProperties ..)
    · exact zonesOnly_setZoneProperties ..

theorem zonesOnly_handleDeleteZone (st : State) (root : JsonT) :
    ZonesOnly st (handleDeleteZone st root).1 := by
  unfold handleDeleteZone
  split
  · exact zonesOnly_clearHouseID st
  · dsimp only
    refine .trans ?_ (zonesOnly_clearHouseID _)
    split <;> exact ⟨rfl, rfl⟩

theorem zonesOnly_addIfUnknown (st : State) (name identifier : List Byte) (isGroup : Bool)
    (garbage : ShadeGarbage) :
    ZonesOnly st (addIfUnknown st name identifier isGroup garbage) := by
  unfold addIfUnknown addAShade
  dsimp only
  split
  · split
    · split
      · exact .refl st
      · exact ⟨rfl, rfl⟩
    · exact .refl st
  · exact .refl st

/-- The operations on zones that are not always calm. -/
def Event.isOnZones : Event → Bool
  | .setZoneProperties _ _ _ | .deleteZone _ | .triggerRamp _ _ | .devicesInfo _ _ |
    .qmotionGroups _ _ => true
  | _ => false

/-- **These operations are on zones only.** -/
theorem next_zonesOnly (st : State) {e : Event} (h : e.isOnZones = true) :
    ZonesOnly st (next st e) := by
  cases e with
  | setZoneProperties root errorFlag sending =>
    exact zonesOnly_handleSetZoneProperties st root errorFlag sending
  | deleteZone root => exact zonesOnly_handleDeleteZone st root
  | triggerRamp root EliotDeviceId =>
    simp only [next, handleTriggerRampCommand]
    split
    · exact .refl st
    · exact zonesOnly_handleRampReceived ..
  | devicesInfo element garbage =>
    simp only [next, handleDevicesInfoResponse]
    split
    · split
      · exact zonesOnly_addIfUnknown ..
      · exact .refl st
    · exact .refl st
  | qmotionGroups element garbage =>
    simp only [next, handleQmotionGroupsResponse]
    split
    · exact zonesOnly_addIfUnknown ..
    · exact .refl st
  | _ => cases h

/-! ### The operations -/

/-- The operations that are always calm. -/
def Event.isCalm : Event → Bool
  | .triggerRampAll _ | .runScene _ _ | .addALight _ | .resetAddALight | .addASceneController _ |
    .checkScenes _ | .adjustTriggers _ | .qmotionStatus _ _ _ | .adjustDeviceLevel _ _ _ |
    .setDeviceState _ _ _ _ | .setSceneState _ _ _ | .setZoneDeviceId _ _ |
    .setSceneDeviceId _ _ | .transmit _ => true
  | _ => false

/-- **These operations are calm.** -/
theorem next_calm (st : State) {e : Event} (h : e.isCalm = true) : Calm st (next st e) := by
  cases e with
  | triggerRampAll root => exact calm_handleTriggerRampAllCommand st root
  | runScene root env => exact calm_handleRunScene st root env
  | addALight valueObject =>
    simp only [next, addALightProperty]
    split_ifs
    · exact .refl st
    · exact .refl st
    · exact .of_tables rfl rfl rfl rfl rfl
  | resetAddALight => exact .of_tables rfl rfl rfl rfl rfl
  | addASceneController valueObject =>
    simp only [next, addASceneControllerProperty]
    split_ifs
    · exact .refl st
    · exact .refl st
    · exact .of_tables rfl rfl rfl rfl rfl
  | checkScenes env => exact calm_checkScenes env st
  | adjustTriggers adjustment => exact calm_adjustTriggers st adjustment
  | qmotionStatus element changed lowPower =>
    exact calm_handleQmotionStatusResponse st element changed lowPower
  | adjustDeviceLevel deviceId delta sending =>
    exact calm_adjustDeviceLevel st deviceId delta sending
  | setDeviceState deviceId state level sending =>
    exact calm_setDeviceState st deviceId state level sending
  | setSceneState deviceId state env => exact calm_setSceneState st deviceId state env
  | setZoneDeviceId zoneIndex id => exact calm_setZoneDeviceId st zoneIndex id
  | setSceneDeviceId sceneIndex id => exact calm_setSceneDeviceId st sceneIndex id
  | transmit attempts => exact calm_transmit attempts st
  | _ => cases h

end House

end Lcm
