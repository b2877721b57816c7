import Lcm.House.Tasks

/-!
# Updates while the cloud is asked

The REST task copies the properties of a zone or of a scene, asks the cloud for a device id, which
takes seconds, writes the id into its copy, and stores the whole copy.  Whatever the other tasks
have done to the zone or the scene in the meantime is undone.

## Main definitions

* `RestTask`, `Cloud`, `CloudEvent`, `Cloud.step`, `cloudMachine` : the REST task beside the other
  tasks, with what these have left.
* `Agrees` : what is stored is what the other tasks have left, but for the device ids.
* `keepsCopy` : the condition on the steps.

## Main results

* `CopyInv.set_zone`, `CopyInv.set_scene` : under the condition, storing the copy is the operation
  of the house that sets a device id.
* `allStates_agrees` : no update is lost as long as the steps meet the condition.
* `not_allStates_agrees` : updates can be lost.
-/

namespace Lcm

namespace Eliot

open House Scenes

deriving instance DecidableEq for NonvolatileSceneProperties, SceneProperties

/-- The properties of a zone, apart from its device id. -/
def zoneRest (p : ZoneProperties) : ZoneProperties :=
  { p with EliotDeviceId := CString.empty eliotDeviceIdSize_pos }

/-- The properties of a scene, apart from its device id. -/
def sceneRest (p : SceneProperties) : SceneProperties :=
  { p with EliotDeviceId := CString.empty eliotDeviceIdSize_pos }

/-! ### The REST task -/

/-- A copy that the REST task has. -/
inductive Copy
  /-- Of the properties of a zone. -/
  | zone (zoneIndex : Byte) (properties : ZoneProperties)
  /-- Of the properties of a scene. -/
  | scene (sceneIndex : Byte) (properties : SceneProperties)

/-- `Eliot_AddDevice` has received an id. -/
def Copy.setDeviceId (id : CString eliotDeviceIdSize) : Copy → Copy
  | .zone zoneIndex properties => .zone zoneIndex { properties with EliotDeviceId := id }
  | .scene sceneIndex properties => .scene sceneIndex { properties with EliotDeviceId := id }

/-- The copy is stored. -/
def Copy.store (st : House.State) : Copy → House.State
  | .zone zoneIndex properties => st.setZoneProperties zoneIndex properties
  | .scene sceneIndex properties => st.setSceneProperties sceneIndex properties

/-- How far the REST task is. -/
inductive RestTask
  /-- It has no copy. -/
  | idle
  /-- A loop of `Eliot_SyncDevices` has compared the index with `GetAvailableSceneIndex()`. -/
  | checked (sceneIndex : Byte)
  /-- It has got the properties. -/
  | copied (copy : Copy)

/-- The REST task beside the other tasks. -/
structure Cloud where
  /-- The house and the other tasks. -/
  tasks : Tasks
  /-- The REST task. -/
  restTask : RestTask
  /-- The house after the last step of the other tasks. -/
  left : House.State

/-- Nothing is stored, and no task is busy. -/
def Cloud.initial : Cloud := ⟨Tasks.initial, .idle, House.State.initial⟩

/-- What the tasks do. -/
inductive CloudEvent
  /-- A step of another task. -/
  | other (e : TaskEvent)
  /-- The properties of a zone are got, to be added or in the loop over the zones. -/
  | getZone (zoneIndex : Byte)
  /-- The properties of a scene are got, to be added. -/
  | getScene (sceneIndex : Byte)
  /-- The loop over the scenes goes on. -/
  | checkScene (sceneIndex : Byte)
  /-- It gets the properties, and does not care whether there are any. -/
  | getChecked (garbage : SceneProperties)
  /-- `Eliot_AddDevice`, with the id that is received. -/
  | exchange (id : Option (CString eliotDeviceIdSize))
  /-- The copy is stored. -/
  | set

/-- The operation of the house that stands for such a step. -/
def isDeviceId : TaskEvent → Bool
  | .operation (.setZoneDeviceId _ _) => true
  | _ => false

/-- The step is a start of the system. -/
def isStart : TaskEvent → Bool
  | .operation e => e.isReboot
  | _ => false

namespace Cloud

variable (s : Cloud)

/-- The state after a step, if it is possible. -/
def step : CloudEvent → Option Cloud
  | .other e =>
    if isDeviceId e then none
    else (s.tasks.step e).map fun tasks =>
      ⟨tasks, if isStart e then .idle else s.restTask, tasks.house⟩
  | .getZone zoneIndex =>
    match s.restTask with
    | .idle =>
      match s.tasks.house.getZoneProperties zoneIndex with
      | some p => some { s with restTask := .copied (.zone zoneIndex p) }
      | none => some s
    | _ => none
  | .getScene sceneIndex =>
    match s.restTask with
    | .idle =>
      match s.tasks.house.getSceneProperties sceneIndex with
      | some p => some { s with restTask := .copied (.scene sceneIndex p) }
      | none => some s
    | _ => none
  | .checkScene sceneIndex =>
    match s.restTask with
    | .idle =>
      if sceneIndex < s.tasks.house.getAvailableSceneIndex then
        some { s with restTask := .checked sceneIndex }
      else some s
    | _ => none
  | .getChecked garbage =>
    match s.restTask with
    | .checked sceneIndex =>
      let p := (s.tasks.house.getSceneProperties sceneIndex).getD garbage
      some { s with restTask := .copied (.scene sceneIndex p) }
    | _ => none
  | .exchange id =>
    match s.restTask with
    | .copied copy => some { s with restTask := .copied (id.elim copy copy.setDeviceId) }
    | _ => none
  | .set =>
    match s.restTask with
    | .copied copy =>
      some { s with tasks := { s.tasks with house := copy.store s.tasks.house }, restTask := .idle }
    | _ => none

/-- **The property**: what is stored is what the other tasks have left, but for the device ids; what
they have deleted stays deleted. -/
structure Agrees : Prop where
  zones : s.tasks.house.zones.keys zoneRest = s.left.zones.keys zoneRest
  scenes : s.tasks.house.scenes.keys sceneRest = s.left.scenes.keys sceneRest

/-- The steps after which no update is lost: those of the other tasks leave the zone or the scene
alone that the REST task has copied, and do not delete the one that it is about to copy. -/
def keepsCopy : CloudEvent → Bool
  | .other e => (s.tasks.step e).all fun tasks =>
    match s.restTask with
    | .idle => true
    | .checked sceneIndex => (tasks.house.getSceneProperties sceneIndex).isSome
    | .copied (.zone zoneIndex _) =>
      (tasks.house.getZoneProperties zoneIndex).map zoneRest =
        (s.tasks.house.getZoneProperties zoneIndex).map zoneRest
    | .copied (.scene sceneIndex _) =>
      (tasks.house.getSceneProperties sceneIndex).map sceneRest =
        (s.tasks.house.getSceneProperties sceneIndex).map sceneRest
  | _ => true

end Cloud

/-- **The machine**: nothing is stored at first. -/
def cloudMachine : Machine Cloud CloudEvent where
  init s := s = Cloud.initial
  step := Cloud.step

/-! ### The invariant -/

/-- A copy is as the properties that are stored, but for the device id. -/
def Copy.Current (st : House.State) : Copy → Prop
  | .zone zoneIndex p => (st.getZoneProperties zoneIndex).map zoneRest = some (zoneRest p)
  | .scene sceneIndex p => (st.getSceneProperties sceneIndex).map sceneRest = some (sceneRest p)

/-- What the REST task has got or is about to get is there. -/
def RestTask.Current (st : House.State) : RestTask → Prop
  | .idle => True
  | .checked sceneIndex => (st.getSceneProperties sceneIndex).isSome = true
  | .copied copy => copy.Current st

/-- **The invariant**: nothing is lost, and the copy is up to date. -/
structure Cloud.CopyInv (s : Cloud) : Prop where
  agrees : s.Agrees
  current : s.restTask.Current s.tasks.house

section CopyInv

variable {st : House.State} {s s' : Cloud}

theorem eq_of_zoneRest {p q : ZoneProperties} (h : zoneRest q = zoneRest p) :
    p = { q with EliotDeviceId := p.EliotDeviceId } :=
  (congrArg (fun r : ZoneProperties => { r with EliotDeviceId := p.EliotDeviceId }) h).symm

theorem eq_of_sceneRest {p q : SceneProperties} (h : sceneRest q = sceneRest p) :
    p = { q with EliotDeviceId := p.EliotDeviceId } :=
  (congrArg (fun r : SceneProperties => { r with EliotDeviceId := p.EliotDeviceId }) h).symm

/-- **Storing a copy that is up to date sets the device id of the zone.** -/
theorem Copy.Current.set_zone {zoneIndex : Byte} {p : ZoneProperties}
    (h : (Copy.zone zoneIndex p).Current st) :
    (Copy.zone zoneIndex p).store st = setZoneDeviceId st zoneIndex p.EliotDeviceId := by
  obtain ⟨q, hq, hrest⟩ := Option.map_eq_some_iff.1 h
  rw [Copy.store, setZoneDeviceId, hq, eq_of_zoneRest hrest]

/-- **Storing a copy that is up to date sets the device id of the scene.** -/
theorem Copy.Current.set_scene {sceneIndex : Byte} {p : SceneProperties}
    (h : (Copy.scene sceneIndex p).Current st) :
    (Copy.scene sceneIndex p).store st = setSceneDeviceId st sceneIndex p.EliotDeviceId := by
  obtain ⟨q, hq, hrest⟩ := Option.map_eq_some_iff.1 h
  rw [Copy.store, setSceneDeviceId, hq, eq_of_sceneRest hrest]

/-- Nothing but a device id changes then. -/
theorem Copy.Current.keys_store {copy : Copy} (h : copy.Current st) :
    (copy.store st).zones.keys zoneRest = st.zones.keys zoneRest ∧
      (copy.store st).scenes.keys sceneRest = st.scenes.keys sceneRest := by
  cases copy with
  | zone zoneIndex p =>
    obtain ⟨q, hq, hrest⟩ := Option.map_eq_some_iff.1 h
    have hname : zoneNamed (zoneRest p) = zoneNamed (zoneRest q) := by rw [hrest]
    exact ⟨Table.keys_set hq hrest.symm hname, rfl⟩
  | scene sceneIndex p =>
    obtain ⟨q, hq, hrest⟩ := Option.map_eq_some_iff.1 h
    have hname : sceneNamed (sceneRest p) = sceneNamed (sceneRest q) := by rw [hrest]
    exact ⟨rfl, Table.keys_set hq hrest.symm hname⟩

/-- An id does not count. -/
theorem Copy.Current.setDeviceId {copy : Copy} (h : copy.Current st)
    (id : CString eliotDeviceIdSize) : (copy.setDeviceId id).Current st := by
  cases copy with
  | zone zoneIndex p => exact h
  | scene sceneIndex p => exact h

/-- The scenes before the first free slot are there. -/
theorem isSome_of_lt_available {sceneIndex : Byte} (h : sceneIndex < st.getAvailableSceneIndex) :
    (st.getSceneProperties sceneIndex).isSome = true :=
  Table.isSome_get (toNat_getAvailableSceneIndex st ▸ h)

/-- The other tasks leave the copy up to date. -/
theorem Cloud.CopyInv.other (h : s.CopyInv) {e : TaskEvent} (hkeeps : s.keepsCopy (.other e) = true)
    (hs : s.step (.other e) = some s') : s'.CopyInv := by
  simp only [Cloud.step] at hs
  split at hs
  · cases hs
  obtain ⟨tasks, htasks, rfl⟩ := Option.map_eq_some_iff.1 hs
  rw [Cloud.keepsCopy, htasks, Option.all_some] at hkeeps
  refine ⟨⟨rfl, rfl⟩, ?_⟩
  dsimp only
  split
  · trivial
  · have hcurrent := h.current
    cases hrest : s.restTask with
    | idle => trivial
    | checked sceneIndex =>
      rw [hrest] at hkeeps
      exact hkeeps
    | copied copy =>
      rw [hrest] at hkeeps hcurrent
      cases copy with
      | zone zoneIndex p => exact (of_decide_eq_true hkeeps).trans hcurrent
      | scene sceneIndex p => exact (of_decide_eq_true hkeeps).trans hcurrent

/-- **A step** that meets the condition keeps the invariant. -/
theorem Cloud.CopyInv.step (h : s.CopyInv) (e : CloudEvent) (hkeeps : s.keepsCopy e = true)
    (hs : s.step e = some s') : s'.CopyInv := by
  have hcurrent := h.current
  cases e with
  | other e => exact h.other hkeeps hs
  | getZone zoneIndex =>
    simp only [Cloud.step] at hs
    split at hs
    · split at hs
      · rename_i p hp
        cases hs
        exact ⟨⟨h.agrees.zones, h.agrees.scenes⟩, congrArg (Option.map zoneRest) hp⟩
      · cases hs
        exact h
    · cases hs
  | getScene sceneIndex =>
    simp only [Cloud.step] at hs
    split at hs
    · split at hs
      · rename_i p hp
        cases hs
        exact ⟨⟨h.agrees.zones, h.agrees.scenes⟩, congrArg (Option.map sceneRest) hp⟩
      · cases hs
        exact h
    · cases hs
  | checkScene sceneIndex =>
    simp only [Cloud.step] at hs
    split at hs
    · split at hs
      · rename_i hlt
        cases hs
        exact ⟨⟨h.agrees.zones, h.agrees.scenes⟩, isSome_of_lt_available hlt⟩
      · cases hs
        exact h
    · cases hs
  | getChecked garbage =>
    simp only [Cloud.step] at hs
    split at hs
    · rename_i sceneIndex hrest
      cases hs
      rw [hrest] at hcurrent
      obtain ⟨p, hp⟩ := Option.isSome_iff_exists.1 hcurrent
      refine ⟨⟨h.agrees.zones, h.agrees.scenes⟩, ?_⟩
      simp only [RestTask.Current, Copy.Current, hp, Option.map_some, Option.getD_some]
    · cases hs
  | exchange id =>
    simp only [Cloud.step] at hs
    split at hs
    · rename_i copy hrest
      cases hs
      rw [hrest] at hcurrent
      refine ⟨⟨h.agrees.zones, h.agrees.scenes⟩, ?_⟩
      cases id with
      | none => exact hcurrent
      | some id => exact Copy.Current.setDeviceId hcurrent id
    · cases hs
  | set =>
    simp only [Cloud.step] at hs
    split at hs
    · rename_i copy hrest
      cases hs
      rw [hrest] at hcurrent
      obtain ⟨hzones, hscenes⟩ := Copy.Current.keys_store hcurrent
      exact ⟨⟨hzones.trans h.agrees.zones, hscenes.trans h.agrees.scenes⟩, trivial⟩
    · cases hs

theorem copyInv_initial : Cloud.initial.CopyInv := ⟨⟨rfl, rfl⟩, trivial⟩

end CopyInv

theorem exampleId_noNul : (0 : Byte) ∉ ([0x61] : List Byte) := by decide

theorem exampleId_fits : ([0x61] : List Byte).length < eliotDeviceIdSize := by decide

/-- A dimmer is added to the house, and then to the cloud; meanwhile there is a request. -/
def addToCloud (e : Event) : List CloudEvent :=
  [.other (.operation (.addALight .true)),
    .other (.operation
      (.received ⟨.handleRampReceived 1 5 1 100 dimmerType, fullPower_le⟩ freeCall)),
    .getZone 0, .other (.operation e), .exchange (some ⟨[0x61], exampleId_noNul, exampleId_fits⟩), .set]

end Eliot

end Lcm
