import Lcm.House.Edits

/-!
# The tasks of the house

The execution of a scene and the processing of a ramp are not one step: other tasks run in between.
Here they are taken apart.  The task that executes a scene holds `ScenePropMutex` from the time it
gets the properties until it has stored its copy, and gets, sets and commands one zone after the
other; the transmit task needs the mutex only for the end of a scene.

## Main definitions

* `Executing`, `Transmitting` : how far the two tasks are.
* `Tasks`, `TaskEvent`, `Tasks.step`, `tasksMachine` : the machine.
* `Sparing` : the scenes keep their zones and their flags, and the ramps stay in the queue.

## Main results

* `run_execute` : when nothing else runs in between, the steps make up `executeAndStore`.
* `next_sparing` : what the operations spare that are one step.
-/

namespace Lcm

namespace House

open Scenes SceneControllers
open Services (Error)

/-! ### The state -/

/-- How far a task is with a zone of a scene. -/
inductive Stage
  /-- It gets the properties of the zone. -/
  | get
  /-- It has changed its copy of them. -/
  | set (zoneProperties : ZoneProperties)
  /-- It has stored them. -/
  | send

/-- How far a task is with a scene. -/
structure Executing where
  /-- The arguments of `ExecuteScene`. -/
  x : Execution
  /-- Its copy of the properties. -/
  scene : SceneProperties
  /-- Which of the runs of scenes it is. -/
  number : ℕ
  /-- `zoneIndex` -/
  zoneIndex : ℕ
  /-- How far it is with that zone. -/
  stage : Stage
  /-- What `checkScenes` calculates for the next trigger, if the scene was due. -/
  nextTriggerTime : Option Dword

/-- What the transmit task does next about its message. -/
inductive Part
  /-- The zone. -/
  | zone
  /-- The end of the scene. -/
  | scene
  /-- The reply of the radio. -/
  | ack

/-- How far the transmit task is with a message. -/
structure Transmitting where
  /-- `RFM100TransmitTaskMessagePtr` -/
  message : RampMessage
  /-- `retryCount` -/
  retryCount : ℕ
  /-- What is next. -/
  part : Part
  /-- Both objects were allocated in one of the attempts. -/
  allocated : Bool

/-- It was the last attempt. -/
def Transmitting.ends (t : Transmitting) (ackByte : Bool) : Bool :=
  ackByte || numberOfRfm100TransmitAttempts ≤ t.retryCount + 1

/-- The house and the tasks that are busy with a scene. -/
structure Tasks where
  /-- What all tasks share. -/
  house : State
  /-- The task that executes a scene; it holds `ScenePropMutex`. -/
  executing : Option Executing
  /-- The transmit task. -/
  transmitting : Option Transmitting
  /-- The last run of each scene. -/
  current : ℕ → ℕ

/-- Nothing is stored, and no task is busy. -/
def Tasks.initial : Tasks := ⟨State.initial, none, none, fun _ => 0⟩

/-! ### The operations in one step -/

/-- The operations that execute a scene or process a ramp; and that of the cloud, which sets the
properties of a scene without the mutex. -/
def Event.isLonger (st : State) : Event → Bool
  | .runScene _ _ | .checkScenes _ | .setSceneState _ _ _ | .transmit _ | .setSceneDeviceId _ _ =>
    true
  | .triggerSceneController _ _ _ => !st.addASceneController
  | .received ⟨.handleRampReceived _ _ _ _ _, _⟩ _ => false
  | .received _ _ => !st.addASceneController
  | _ => false

/-- The operations under `ScenePropMutex`. -/
def Event.locksScenes : Event → Bool
  | .createScene _ _ _ | .setSceneProperties _ _ | .deleteScene _ | .adjustTriggers _ => true
  | _ => false

/-- The operation ends all tasks. -/
def Event.isReboot : Event → Bool
  | .reboot _ _ => true
  | _ => false

/-! ### The task that executes a scene -/

/-- Who executes a scene. -/
inductive Caller
  /-- `HandleRunScene` -/
  | runScene (root : JsonT)
  /-- The loop of `checkScenes`. -/
  | checkScene (env : CheckEnv) (sceneIdx : Byte)
  /-- A scene controller or the cloud. -/
  | other (x : Execution)

/-- What is done about the trigger of a scene. -/
def triggered (nextTriggerTime : Option Dword) (p : SceneProperties) : SceneProperties :=
  nextTriggerTime.elim p fun nextTriggerTime => retrigger nextTriggerTime p

/-- What a caller does with its copy of the properties before it stores them. -/
structure Job where
  /-- The arguments. -/
  x : Execution
  /-- The copy. -/
  scene : SceneProperties
  /-- The scene is executed. -/
  executes : Bool
  /-- What is calculated for the next trigger, if the scene was due. -/
  nextTriggerTime : Option Dword

/-- What a caller does. -/
def job (st : State) : Caller → Option Job
  | .runScene root =>
    match sceneToRun st root with
    | .error _ => none
    | .ok (sceneIndex, p) => some ⟨plainExecution sceneIndex (appContextId root), p, true, none⟩
  | .checkScene env sceneIdx =>
    match st.getSceneProperties sceneIdx with
    | none => none
    | some p =>
      let p := cleanScene p
      let x := plainExecution sceneIdx 0
      if !sceneNamed p then none
      else if isDue env p then
        if p.skipNext = 0 then some ⟨x, p, true, some env.nextTriggerTime⟩
        else
          some ⟨x, { p with skipNext := 0, fits := p.zones_fit }, false, some env.nextTriggerTime⟩
      else some ⟨x, p, false, none⟩
  | .other x => (st.getSceneProperties x.sceneIndex).map fun p => ⟨x, p, true, none⟩

/-- The scene is executed, and not refused. -/
def Job.starts (job : Job) (objects : Objects) : Bool :=
  job.executes && House.starts objects job.scene

namespace Tasks

variable (s : Tasks)

/-- A task has got the properties; what is not executed is stored at once. -/
def start (job : Job) (objects : Objects) : Tasks :=
  if job.starts objects then
    let number := s.house.runs + 1
    { s with
      house := { s.house with runs := number }
      executing := some ⟨job.x, { job.scene with running := 1 }, number, 0, .get,
        job.nextTriggerTime⟩
      current := Function.update s.current job.x.sceneIndex.toNat number }
  else
    { s with
      house :=
        s.house.setSceneProperties job.x.sceneIndex (triggered job.nextTriggerTime job.scene) }

/-- The scene is stored at the end. -/
def finish (a : Executing) : Tasks :=
  { s with
    house :=
      (markToggled a.x s.house).setSceneProperties a.x.sceneIndex
        (triggered a.nextTriggerTime a.scene)
    executing := none }

/-- The next step of the task that executes a scene. -/
def execute (a : Executing) (round : Round) : Tasks :=
  match a.scene.zoneData[a.zoneIndex]? with
  | none => s.finish a
  | some zone =>
    let percent := scenePercent a.zoneIndex a.scene.zoneData.length
    match a.stage with
    | .get =>
      match s.house.getZoneProperties zone.zoneId with
      | some p =>
        { s with
          executing := some { a with
            stage := .set (executeZone a.x (sceneRampRate a.scene.zoneData) zone p) } }
      | none =>
        { s with
          executing := some { a with
            scene := { a.scene with running := missingZone percent round.objects a.scene.running }
            zoneIndex := a.zoneIndex + 1 } }
    | .set p =>
      { s with
        house := s.house.setZoneProperties zone.zoneId p
        executing := some { a with stage := .send } }
    | .send =>
      { s with
        house := s.house.sendRampCommandToTransmitTask zone.zoneId a.x.sceneIndex percent
          lowPriority a.number round.sending
        executing := some { a with stage := .get, zoneIndex := a.zoneIndex + 1 } }

/-! ### The transmit task -/

/-- The first part of `HandleTransmitTaskMessage`; without a zone, nothing is sent, and that is the
end of the message. -/
def zonePart (t : Transmitting) : Tasks :=
  match transmitRamp t.message s.house with
  | none => { s with transmitting := none }
  | some house =>
    { s with
      house := house
      transmitting := some { t with
        part := if t.message.sceneId.toNat < maxNumberOfScenes then .scene else .ack } }

/-- The second part of `HandleTransmitTaskMessage`, under the mutex. -/
def scenePart (t : Transmitting) (objects : Objects) : Tasks :=
  { s with
    house := finishScene t.message objects s.house
    transmitting := some { t with part := .ack, allocated := t.allocated || objects.both } }

/-- The attempt is acknowledged, or nothing was sent; or else there is another one. -/
def acknowledge (t : Transmitting) (ackByte : Bool) : Tasks :=
  { s with
    transmitting :=
      if t.ends ackByte then none
      else some { t with part := .zone, retryCount := t.retryCount + 1 } }

end Tasks

/-! ### The machine -/

/-- The steps of the tasks. -/
inductive TaskEvent
  /-- An operation that is one step. -/
  | operation (e : Event)
  /-- A task takes the mutex and gets the properties of a scene. -/
  | start (caller : Caller) (objects : Objects)
  /-- It goes on. -/
  | execute (round : Round)
  /-- The transmit task takes a message from the queue. -/
  | receive
  /-- It goes on. -/
  | transmit (objects : Objects) (ackByte : Bool)

/-- The state after a step, if it is possible. -/
def Tasks.step (s : Tasks) : TaskEvent → Option Tasks
  | .operation e =>
    if e.isLonger s.house || e.locksScenes && s.executing.isSome then none
    else if e.isReboot then some ⟨next s.house e, none, none, s.current⟩
    else some { s with house := next s.house e }
  | .start caller objects =>
    if s.executing.isSome then none
    else some ((job s.house caller).elim s fun job => s.start job objects)
  | .execute round => s.executing.map fun a => s.execute a round
  | .receive =>
    match s.transmitting, s.house.transmitQueue with
    | none, m :: transmitQueue =>
      some { s with
        house := { s.house with transmitQueue := transmitQueue }
        transmitting := some ⟨m, 0, .zone, false⟩ }
    | _, _ => none
  | .transmit objects ackByte =>
    s.transmitting.bind fun t =>
      match t.part with
      | .zone => some (s.zonePart t)
      | .scene => if s.executing.isSome then none else some (s.scenePart t objects)
      | .ack => some (s.acknowledge t ackByte)

/-- **The machine**: it starts with nothing stored. -/
def tasksMachine : Machine Tasks TaskEvent where
  init s := s = Tasks.initial
  step := Tasks.step

/-! ### Nothing in between -/

/-- The step is one of the task that executes a scene. -/
def TaskEvent.isExecute : TaskEvent → Bool
  | .execute _ => true
  | _ => false

/-- The loop over the zones, step by step. -/
theorem run_executeZones (s : Tasks) (a : Executing) (rounds : ℕ → Round)
    (zoneData : List ZoneInScene) (zoneIndex : ℕ)
    (hdrop : a.scene.zoneData.drop zoneIndex = zoneData) (running : Byte) :
    let result := executeZones a.x (sceneRampRate a.scene.zoneData) a.number
      a.scene.zoneData.length rounds zoneIndex zoneData s.house running
    ∃ es : List TaskEvent, (es.all TaskEvent.isExecute = true) ∧
      tasksMachine.run
        { s with
          executing := some { a with
            scene := { a.scene with running := running }, zoneIndex := zoneIndex, stage := .get } }
        es =
      some { s with
        house := result.1
        executing := some { a with
          scene := { a.scene with running := result.2 }
          zoneIndex := zoneIndex + zoneData.length
          stage := .get } } := by
  induction zoneData generalizing s zoneIndex running with
  | nil => exact ⟨[], rfl, rfl⟩
  | cons zone zoneData ih =>
    have hzone : a.scene.zoneData[zoneIndex]? = some zone := by
      rw [← List.head?_drop, hdrop, List.head?_cons]
    have hrest : a.scene.zoneData.drop (zoneIndex + 1) = zoneData := by
      rw [← List.tail_drop, hdrop, List.tail_cons]
    have hlength : zoneIndex + 1 + zoneData.length = zoneIndex + (zone :: zoneData).length := by
      rw [List.length_cons]
      omega
    dsimp only [executeZones, visitZone]
    cases hp : s.house.getZoneProperties zone.zoneId with
    | none =>
      obtain ⟨es, hall, hrun⟩ := ih s _ hrest
        (missingZone (scenePercent zoneIndex a.scene.zoneData.length) (rounds zoneIndex).objects
          running)
      refine ⟨.execute (rounds zoneIndex) :: es, by simpa [TaskEvent.isExecute] using hall, ?_⟩
      rw [hlength] at hrun
      simp only [Option.map_none]
      rw [← hrun]
      simp only [Machine.run, tasksMachine, Tasks.step, Option.map_some, Option.bind_some,
        Tasks.execute, hzone, hp]
    | some p =>
      have hset : (s.house.setZoneProperties zone.zoneId
          (executeZone a.x (sceneRampRate a.scene.zoneData) zone p)).runs = s.house.runs := rfl
      let house :=
        (s.house.setZoneProperties zone.zoneId
          (executeZone a.x (sceneRampRate a.scene.zoneData) zone p))
          |>.sendRampCommandToTransmitTask zone.zoneId a.x.sceneIndex
            (scenePercent zoneIndex a.scene.zoneData.length) lowPriority a.number
            (rounds zoneIndex).sending
      obtain ⟨es, hall, hrun⟩ := ih { s with house := house } _ hrest running
      refine ⟨.execute (rounds zoneIndex) :: .execute (rounds zoneIndex) ::
        .execute (rounds zoneIndex) :: es, by simpa [TaskEvent.isExecute] using hall, ?_⟩
      rw [hlength] at hrun
      simp only [Option.map_some]
      rw [← hrun]
      simp only [Machine.run, tasksMachine, Tasks.step, Option.map_some, Option.bind_some,
        Tasks.execute, hzone, hp]
      rfl

/-- The scene is stored after the last zone. -/
theorem run_finish {s t : Tasks} {es : List TaskEvent} {a : Executing}
    (hrun : tasksMachine.run s es = some t) (ha : t.executing = some a)
    (hlast : a.scene.zoneData[a.zoneIndex]? = none) (round : Round) :
    tasksMachine.run s (es ++ [.execute round]) = some (t.finish a) := by
  rw [Machine.run_append, hrun]
  simp only [Option.bind_some, Machine.run, tasksMachine, Tasks.step, ha, Option.map_some,
    Tasks.execute, hlast]

/-- **When nothing else runs in between**, a scene is executed and stored as in one step. -/
theorem run_execute {s : Tasks} (hfree : s.executing = none) {caller : Caller} {j : Job}
    (hjob : job s.house caller = some j) (hexecutes : j.executes = true) (env : ExecutionEnv) :
    let result := executeScene j.x env s.house j.scene
    ∃ (es : List TaskEvent) (s' : Tasks), (es.all TaskEvent.isExecute = true) ∧
      tasksMachine.run s (.start caller env.objects :: es) = some s' ∧
      s'.house =
        result.1.setSceneProperties j.x.sceneIndex (triggered j.nextTriggerTime result.2) ∧
      s'.executing = none ∧ s'.transmitting = s.transmitting := by
  have hstep : tasksMachine.step s (.start caller env.objects) = some (s.start j env.objects) := by
    simp only [tasksMachine, Tasks.step, hfree, hjob]
    rfl
  simp only [Machine.run, hstep, Option.bind_some]
  by_cases hstarts : House.starts env.objects j.scene = true
  · let a : Executing :=
      ⟨j.x, j.scene, s.house.runs + 1, 0, .get, j.nextTriggerTime⟩
    obtain ⟨es, hall, hrun⟩ := run_executeZones
      { s with
        house := { s.house with runs := s.house.runs + 1 }
        current := Function.update s.current j.x.sceneIndex.toNat (s.house.runs + 1) }
      a env.rounds j.scene.zoneData 0 rfl 1
    have hstart : j.starts env.objects = true := by
      rw [Job.starts, hexecutes, hstarts]
      rfl
    have hlast : a.scene.zoneData[0 + j.scene.zoneData.length]? = none := by
      rw [Nat.zero_add]
      exact List.getElem?_eq_none (Nat.le_refl _)
    have hend := run_finish hrun rfl hlast freeRound
    rw [Tasks.start, if_pos hstart, executeScene, if_pos hstarts]
    exact ⟨_, _, by simpa [TaskEvent.isExecute] using hall, hend, rfl, rfl, rfl⟩
  · have hjob : ¬ j.starts env.objects = true := by
      rw [Job.starts, hexecutes, Bool.true_and]
      exact hstarts
    refine ⟨[], _, rfl, rfl, ?_⟩
    rw [Tasks.start, if_neg hjob, executeScene, if_neg hstarts]
    exact ⟨rfl, hfree, rfl⟩

/-- **What a caller does** is about a scene that exists; it keeps the zones and the flag. -/
theorem job_cases {st : State} {caller : Caller} {j : Job} (h : job st caller = some j) :
    ∃ p, st.getSceneProperties j.x.sceneIndex = some p ∧ j.scene.zoneData = p.zoneData ∧
      j.scene.running = p.running := by
  cases caller with
  | runScene root =>
    simp only [job] at h
    split at h
    · cases h
    · rename_i hscene
      cases h
      exact ⟨_, getSceneProperties_of_sceneToRun hscene, rfl, rfl⟩
  | checkScene env sceneIdx =>
    simp only [job] at h
    split at h
    · cases h
    · rename_i p hp
      split_ifs at h <;> cases h
      · exact ⟨p, hp, rfl, rfl⟩
      · exact ⟨p, hp, rfl, rfl⟩
      · exact ⟨p, hp, rfl, rfl⟩
  | other x =>
    obtain ⟨p, hp, rfl⟩ := Option.map_eq_some_iff.1 h
    exact ⟨p, hp, rfl, rfl⟩

@[simp]
theorem zoneData_triggered (nextTriggerTime : Option Dword) (p : SceneProperties) :
    (triggered nextTriggerTime p).zoneData = p.zoneData := by
  cases nextTriggerTime with
  | none => rfl
  | some nextTriggerTime =>
    simp only [triggered, Option.elim_some, retrigger]
    split <;> rfl

@[simp]
theorem running_triggered (nextTriggerTime : Option Dword) (p : SceneProperties) :
    (triggered nextTriggerTime p).running = p.running := by
  cases nextTriggerTime with
  | none => rfl
  | some nextTriggerTime =>
    simp only [triggered, Option.elim_some, retrigger]
    split <;> rfl

/-! ### What is spared -/

/-- The scenes keep their zones and their flags, and the ramps stay in the queue. -/
structure Sparing (st st' : State) : Prop where
  scenes : ∀ i p', st'.scenes.get i = some p' →
    ∃ p, st.scenes.get i = some p ∧ p'.zoneData = p.zoneData ∧ p'.running = p.running
  transmitQueue : ∀ m ∈ st.transmitQueue, m ∈ st'.transmitQueue

section Sparing

variable {st st' st'' : State}

/-- The scenes and the queue are the same. -/
theorem Sparing.of_eq (hscenes : st'.scenes = st.scenes)
    (hqueue : st'.transmitQueue = st.transmitQueue) : Sparing st st' where
  scenes _ p hp := ⟨p, hscenes ▸ hp, rfl, rfl⟩
  transmitQueue _ hm := hqueue ▸ hm

theorem Sparing.refl (st : State) : Sparing st st := .of_eq rfl rfl

theorem Sparing.trans (h : Sparing st st') (h' : Sparing st' st'') : Sparing st st'' where
  scenes i p'' hp'' := by
    obtain ⟨p', hp', hzones', hrunning'⟩ := h'.scenes i p'' hp''
    obtain ⟨p, hp, hzones, hrunning⟩ := h.scenes i p' hp'
    exact ⟨p, hp, hzones'.trans hzones, hrunning'.trans hrunning⟩
  transmitQueue m hm := h'.transmitQueue m (h.transmitQueue m hm)

theorem mem_enqueue {st : State} {m m' : RampMessage} :
    m' ∈ (st.enqueue m).transmitQueue ↔ m' = m ∨ m' ∈ st.transmitQueue := by
  rw [State.enqueue]
  dsimp only
  rw [List.mem_append, List.mem_cons, or_left_comm, ← List.mem_append,
    List.takeWhile_append_dropWhile]

theorem sparing_sendRampCommandToTransmitTask (st : State)
    (zoneIndex sceneId scenePercent : Byte) (priority run : ℕ) (sending : State.Sending) :
    Sparing st
      (st.sendRampCommandToTransmitTask zoneIndex sceneId scenePercent priority run sending) := by
  unfold State.sendRampCommandToTransmitTask
  split
  · split
    · split
      · exact ⟨fun i p hp => ⟨p, hp, rfl, rfl⟩, fun m hm => mem_enqueue.2 (.inr hm)⟩
      · exact .refl st
    · exact .refl st
  · exact .refl st

theorem sparing_setZoneProperties (st : State) (zoneIndex : Byte) (p : ZoneProperties) :
    Sparing st (st.setZoneProperties zoneIndex p) := .of_eq rfl rfl

theorem sparing_clearHouseID (st : State) : Sparing st st.clearHouseID := by
  unfold State.clearHouseID
  split <;> exact .of_eq rfl rfl

theorem sparing_adoptHouseID (st : State) (houseId : Byte) :
    Sparing st (st.adoptHouseID houseId) := by
  unfold State.adoptHouseID
  split <;> exact .of_eq rfl rfl

theorem sparing_handleTargetValue (st : State) (value zoneIdx : Byte) :
    Sparing st (handleTargetValue st value zoneIdx) := by
  unfold handleTargetValue
  split
  · exact sparing_setZoneProperties ..
  · exact .refl st

theorem sparing_handleRampReceived (st : State) (buildingId houseId : Byte) (groupId : Word)
    (value deviceType : Byte) (EliotDeviceId : CString eliotDeviceIdSize) :
    Sparing st
      (handleRampReceived st buildingId houseId groupId value deviceType EliotDeviceId) := by
  have hadopt := sparing_adoptHouseID st houseId
  unfold handleRampReceived
  dsimp only
  split_ifs
  · exact hadopt.trans (.of_eq rfl rfl)
  · exact hadopt
  · exact hadopt.trans (sparing_handleTargetValue ..)
  · exact hadopt
  · exact sparing_handleTargetValue ..
  · exact .refl st
  · exact .refl st

theorem sparing_handleSetZoneProperties (st : State) (root : JsonT) (errorFlag : Bool)
    (sending : State.Sending) :
    Sparing st (handleSetZoneProperties st root errorFlag sending).1 := by
  obtain heq | ⟨zoneIndex, p, edit, st', -, -, rfl | rfl, heq⟩ :=
    handleSetZoneProperties_cases st root errorFlag sending
  · rw [heq]
    exact .refl st
  · rw [heq]
    exact sparing_setZoneProperties ..
  · rw [heq]
    exact (sparing_sendRampCommandToTransmitTask ..).trans (sparing_setZoneProperties ..)

theorem sparing_handleDeleteZone (st : State) (root : JsonT) :
    Sparing st (handleDeleteZone st root).1 := by
  obtain heq | ⟨zoneIndex, p, st', -, rfl | rfl, heq⟩ := handleDeleteZone_cases st root
  · rw [heq]
    exact sparing_clearHouseID st
  · rw [heq]
    exact (sparing_setZoneProperties ..).trans (sparing_clearHouseID _)
  · rw [heq]
    refine Sparing.trans ?_ (sparing_clearHouseID _)
    exact .of_eq rfl rfl

theorem sparing_addIfUnknown (st : State) (name identifier : List Byte) (isGroup : Bool)
    (garbage : ShadeGarbage) : Sparing st (addIfUnknown st name identifier isGroup garbage) := by
  unfold addIfUnknown addAShade
  dsimp only
  split
  · split
    · split
      · exact .refl st
      · exact .of_eq rfl rfl
    · exact .refl st
  · exact .refl st

theorem sparing_handleSceneControllerCommandReceived (st : State)
    (sceneControllerIndex buildingId houseId : Byte) (groupId : Word)
    (garbage : SceneControllerGarbage) :
    Sparing st
      (handleSceneControllerCommandReceived st sceneControllerIndex buildingId houseId groupId
        garbage) := by
  have hadopt := sparing_adoptHouseID st houseId
  unfold handleSceneControllerCommandReceived
  dsimp only
  split_ifs
  · exact hadopt.trans (.of_eq rfl rfl)
  · exact hadopt
  · exact hadopt
  · exact hadopt

theorem sparing_handleDeleteScene (st : State) (root : JsonT) :
    Sparing st (handleDeleteScene st root).1 := by
  obtain heq | ⟨sceneIndex, p, hp, heq⟩ := handleDeleteScene_cases st root
  · rw [heq]
    exact .refl st
  · rw [heq]
    refine ⟨fun i q hq => ?_, fun m hm => hm⟩
    obtain ⟨rfl, rfl, -⟩ | ⟨-, hq⟩ | ⟨-, hq⟩ := Table.set_cases hq
    · exact ⟨p, hp, rfl, rfl⟩
    · exact ⟨q, hq, rfl, rfl⟩
    · exact ⟨q, hq, rfl, rfl⟩

theorem sparing_adjustTriggers (st : State) (adjustment : Dword) :
    Sparing st (adjustTriggers st adjustment) where
  scenes i p' hp' := by
    obtain ⟨p, hp, rfl⟩ := Option.map_eq_some_iff.1 hp'
    refine ⟨p, hp, ?_⟩
    rw [Schedule.adjusted]
    split <;> exact ⟨rfl, rfl⟩
  transmitQueue m hm := hm

theorem sparing_handleCall (st : State) (env : CallEnv) {call : ReceivedCall}
    (h : (Event.received call env).isLonger st = false) :
    Sparing st (handleCall st env call) := by
  obtain ⟨call, hcall⟩ := call
  cases call with
  | handleRampReceived buildingId houseId groupId value deviceType =>
    exact sparing_handleRampReceived ..
  | handleSceneControllerMasterOff buildingId houseId groupId _ rampRate =>
    have hadd : st.addASceneController = true := by simpa [Event.isLonger] using h
    rw [handleCall, handleSceneControllerMasterOff, if_pos hadd]
    exact sparing_handleSceneControllerCommandReceived ..
  | handleSceneControllerSceneRequest buildingId houseId groupId bankIndex state _ rampRate =>
    have hadd : st.addASceneController = true := by simpa [Event.isLonger] using h
    rw [handleCall, handleSceneControllerSceneRequest, if_pos hadd]
    exact sparing_handleSceneControllerCommandReceived ..
  | handleSceneControllerSceneAdjust buildingId houseId groupId sceneIdx value change rampRate =>
    have hadd : st.addASceneController = true := by simpa [Event.isLonger] using h
    rw [handleCall, handleSceneControllerSceneAdjust, if_pos hadd]
    exact sparing_handleSceneControllerCommandReceived ..
  | _ => exact .refl st

theorem sparing_handleTriggerSceneControllerCommand (st : State) (root : JsonT)
    (env : ExecutionEnv) (garbage : SceneControllerGarbage) (h : st.addASceneController = true) :
    Sparing st (handleTriggerSceneControllerCommand st root env garbage).1 := by
  unfold handleTriggerSceneControllerCommand
  split
  · exact .refl st
  · rw [handleSceneControllerSceneRequest, if_pos h]
    exact sparing_handleSceneControllerCommandReceived ..

/-- The operations that put zones into a scene. -/
def Event.setsZones : Event → Bool
  | .createScene _ _ _ | .setSceneProperties _ _ => true
  | _ => false

/-- **What the other operations spare.** -/
theorem next_sparing (st : State) {e : Event} (hlonger : e.isLonger st = false)
    (hsets : e.setsZones = false) (hreboot : e.isReboot = false) : Sparing st (next st e) := by
  cases e with
  | setZoneProperties root errorFlag sending =>
    exact sparing_handleSetZoneProperties st root errorFlag sending
  | deleteZone root => exact sparing_handleDeleteZone st root
  | triggerRamp root EliotDeviceId =>
    simp only [next, handleTriggerRampCommand]
    split
    · exact .refl st
    · exact sparing_handleRampReceived ..
  | triggerRampAll root =>
    simp only [next, handleTriggerRampAllCommand]
    split
    · exact .refl st
    · split <;> exact .of_eq rfl rfl
  | createScene => cases hsets
  | setSceneProperties => cases hsets
  | deleteScene root => exact sparing_handleDeleteScene st root
  | runScene => cases hlonger
  | setSceneControllerProperties root commands =>
    obtain heq | ⟨_, _, _, -, -, heq⟩ := handleSetSceneControllerProperties_cases st root commands
    · rw [next, heq]
      exact .refl st
    · rw [next, heq]
      exact .of_eq rfl rfl
  | deleteSceneController root commands =>
    obtain heq | heq | ⟨_, _, -, heq⟩ := handleDeleteSceneController_cases st root commands
    · rw [next, heq]
      exact .refl st
    · rw [next, heq]
      exact sparing_clearHouseID st
    · rw [next, heq]
      refine Sparing.trans ?_ (sparing_clearHouseID _)
      exact .of_eq rfl rfl
  | triggerSceneController root env garbage =>
    exact sparing_handleTriggerSceneControllerCommand st root env garbage
      (by simpa [Event.isLonger] using hlonger)
  | addALight valueObject =>
    simp only [next, addALightProperty]
    split_ifs <;> exact .of_eq rfl rfl
  | resetAddALight => exact .of_eq rfl rfl
  | addASceneController valueObject =>
    simp only [next, addASceneControllerProperty]
    split_ifs <;> exact .of_eq rfl rfl
  | received call env => exact sparing_handleCall st env hlonger
  | checkScenes => cases hlonger
  | adjustTriggers adjustment => exact sparing_adjustTriggers st adjustment
  | devicesInfo element garbage =>
    simp only [next, handleDevicesInfoResponse]
    split
    · split
      · exact sparing_addIfUnknown ..
      · exact .refl st
    · exact .refl st
  | qmotionGroups element garbage =>
    simp only [next, handleQmotionGroupsResponse]
    split
    · exact sparing_addIfUnknown ..
    · exact .refl st
  | qmotionStatus element changedThisMinute lastLowPowerSetting =>
    simp only [next, handleQmotionStatusResponse]
    split
    · exact .refl st
    · split
      · exact .refl st
      · exact sparing_setZoneProperties ..
  | adjustDeviceLevel deviceId delta sending =>
    simp only [next, adjustDeviceLevel]
    split
    · exact (sparing_setZoneProperties ..).trans (sparing_sendRampCommandToTransmitTask ..)
    · exact .refl st
  | setDeviceState deviceId state level sending =>
    simp only [next, setDeviceState]
    split
    · split
      · exact sparing_setZoneProperties ..
      · exact (sparing_setZoneProperties ..).trans (sparing_sendRampCommandToTransmitTask ..)
    · exact .refl st
  | setSceneState => cases hlonger
  | setZoneDeviceId zoneIndex id =>
    simp only [next, setZoneDeviceId]
    split
    · exact sparing_setZoneProperties ..
    · exact .refl st
  | setSceneDeviceId => cases hlonger
  | transmit => cases hlonger
  | reboot => cases hreboot
  | clearFlash => exact ⟨fun _ _ hp => (by cases hp), fun _ hm => hm⟩

end Sparing

end House

end Lcm
