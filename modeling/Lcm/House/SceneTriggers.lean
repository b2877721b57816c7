import Lcm.House.ScenePass
import Lcm.House.Tasks
import Lcm.Run.Trace

/-!
# The triggers of scenes in runs

Between two passes over the scenes, the other tasks do what they do; but only a request that sets
the properties of a scene, and the adjustment of all triggers to another time zone, change when a
scene is triggered.  Without these, nothing is executed twice because of one trigger, as long as the
triggers that the passes calculate are in order.

## Main definitions

* `TriggersStay` : the scenes keep their triggers.
* `Triggered`, `triggeredBy` : what is executed in a pass, and with what trigger.
* `Orderly` : the condition on the steps.
* `IsPast` : what is left of a trigger that was executed.

## Main results

* `next_triggersStay` : the operations that keep the triggers.
* `pairwise_trace_triggeredBy` : the run rule.
* `checkScenes_schedules` : what a pass does, and what holds of runs.
-/

namespace Lcm

namespace House

open Flash Scenes Schedule
open Services (Error)

/-! ### The operations that keep the triggers -/

/-- The scenes that stay keep their triggers. -/
structure TriggersStay (st st' : State) : Prop where
  scenes : ∀ i p', st'.scenes.get i = some p' →
    ∃ p, st.scenes.get i = some p ∧ p'.freq = p.freq ∧ p'.nextTriggerTime = p.nextTriggerTime

section TriggersStay

variable {st st' st'' : State}

theorem TriggersStay.of_eq (h : st'.scenes = st.scenes) : TriggersStay st st' where
  scenes _ p hp := ⟨p, h ▸ hp, rfl, rfl⟩

theorem TriggersStay.refl (st : State) : TriggersStay st st := .of_eq rfl

theorem TriggersStay.trans (h : TriggersStay st st') (h' : TriggersStay st' st'') :
    TriggersStay st st'' where
  scenes i p'' hp'' := by
    obtain ⟨p', hp', hfreq', htime'⟩ := h'.scenes i p'' hp''
    obtain ⟨p, hp, hfreq, htime⟩ := h.scenes i p' hp'
    exact ⟨p, hp, hfreq'.trans hfreq, htime'.trans htime⟩

/-- The properties of a scene are stored, with the trigger that it had. -/
theorem TriggersStay.setSceneProperties (h : st'.scenes = st.scenes) {sceneIndex : Byte}
    {p q : SceneProperties} (hp : st.getSceneProperties sceneIndex = some p)
    (hfreq : q.freq = p.freq) (htime : q.nextTriggerTime = p.nextTriggerTime) :
    TriggersStay st (st'.setSceneProperties sceneIndex q) := by
  refine ⟨fun i r hr => ?_⟩
  obtain ⟨rfl, rfl, -⟩ | ⟨-, hr⟩ | ⟨-, hr⟩ := Table.set_cases hr
  · exact ⟨p, hp, hfreq, htime⟩
  · exact ⟨r, h ▸ hr, rfl, rfl⟩
  · exact ⟨r, h ▸ hr, rfl, rfl⟩

theorem triggersStay_foldl {α : Type*} {f : State → α → State}
    (hf : ∀ st a, TriggersStay st (f st a)) (as : List α) (st : State) :
    TriggersStay st (as.foldl f st) := by
  induction as generalizing st with
  | nil => exact .refl st
  | cons a as ih => exact (hf st a).trans (ih (f st a))

theorem triggersStay_executeAndStore {x : Execution} {p : SceneProperties}
    (h : st.getSceneProperties x.sceneIndex = some p) (env : ExecutionEnv) :
    TriggersStay st (executeAndStore x env st p) := by
  obtain ⟨hscenes, -, running, hcopy, -⟩ := executeScene_spec x env st p
  simp only [executeAndStore, hcopy]
  exact .setSceneProperties hscenes h rfl rfl

theorem triggersStay_executeIfExists (x : Execution) (env : ExecutionEnv) (st : State) :
    TriggersStay st (executeIfExists x env st) := by
  unfold executeIfExists
  split
  · exact triggersStay_executeAndStore ‹_› env
  · exact .refl st

theorem triggersStay_finishScene (m : RampMessage) (objects : Objects) (st : State) :
    TriggersStay st (finishScene m objects st) := by
  unfold finishScene
  split
  · split
    · rename_i hp
      split
      · exact .setSceneProperties rfl hp rfl rfl
      · exact .refl st
    · exact .refl st
  · exact .refl st

theorem triggersStay_transmitAttempts (m : RampMessage) (attempts : List Objects) (st : State) :
    TriggersStay st (transmitAttempts m attempts st) := by
  induction attempts generalizing st with
  | nil => exact .refl st
  | cons objects attempts ih =>
    rw [transmitAttempts]
    split
    · rename_i st' hramp
      have hscenes : st'.scenes = st.scenes := by
        simp only [transmitRamp] at hramp
        split at hramp
        · obtain ⟨p, -, rfl⟩ := Option.map_eq_some_iff.1 hramp
          rfl
        · cases hramp
      exact ((TriggersStay.of_eq hscenes).trans (triggersStay_finishScene m objects _)).trans (ih _)
    · exact .refl st

theorem scenes_handleSceneControllerCommandReceived (st : State)
    (sceneControllerIndex buildingId houseId : Byte) (groupId : Word)
    (garbage : SceneControllerGarbage) :
    (handleSceneControllerCommandReceived st sceneControllerIndex buildingId houseId groupId
      garbage).scenes = st.scenes := by
  have hadopt := scenes_adoptHouseID st houseId
  unfold handleSceneControllerCommandReceived
  dsimp only
  split_ifs <;> exact hadopt

theorem triggersStay_handleSceneControllerSceneRequest (st : State) (buildingId houseId : Byte)
    (groupId : Word) (bankIndex : Byte) (state : Bool) (rampRate : Byte) (env : ExecutionEnv)
    (garbage : SceneControllerGarbage) :
    TriggersStay st
      (handleSceneControllerSceneRequest st buildingId houseId groupId bankIndex state rampRate env
        garbage) := by
  unfold handleSceneControllerSceneRequest
  split
  · exact .of_eq (scenes_handleSceneControllerCommandReceived ..)
  · split
    · exact .refl st
    · split
      · exact triggersStay_executeIfExists ..
      · exact .refl st

theorem triggersStay_handleCall (st : State) (env : CallEnv) (call : Rf.Call) :
    TriggersStay st (handleCall st env call) := by
  cases call with
  | handleRampReceived buildingId houseId groupId value deviceType =>
    exact .of_eq (zonesOnly_handleRampReceived ..).scenes
  | handleSceneControllerMasterOff buildingId houseId groupId _ rampRate =>
    simp only [handleCall, handleSceneControllerMasterOff]
    split
    · exact .of_eq (scenes_handleSceneControllerCommandReceived ..)
    · split
      · exact .refl st
      · exact triggersStay_foldl (fun st _ => triggersStay_executeIfExists _ _ st) _ st
  | handleSceneControllerSceneRequest buildingId houseId groupId bankIndex state _ rampRate =>
    exact triggersStay_handleSceneControllerSceneRequest ..
  | handleSceneControllerSceneAdjust buildingId houseId groupId sceneIdx value change rampRate =>
    simp only [handleCall, handleSceneControllerSceneAdjust]
    split
    · exact .of_eq (scenes_handleSceneControllerCommandReceived ..)
    · split
      · exact triggersStay_executeIfExists ..
      · exact .refl st
  | _ => exact .refl st

theorem triggersStay_handleDeleteScene (st : State) (root : JsonT) :
    TriggersStay st (handleDeleteScene st root).1 := by
  obtain heq | ⟨sceneIndex, p, hp, heq⟩ := handleDeleteScene_cases st root
  · rw [heq]
    exact .refl st
  · rw [heq]
    have hset : TriggersStay st (st.setSceneProperties sceneIndex
        { p with SceneNameString := CString.empty (by decide) }) :=
      .setSceneProperties rfl hp rfl rfl
    exact hset.trans (.of_eq rfl)

/-- The operations that set triggers. -/
def Event.setsTriggers : Event → Bool
  | .createScene _ _ _ | .setSceneProperties _ _ | .checkScenes _ | .adjustTriggers _ => true
  | _ => false

/-- **The other operations keep the triggers.** -/
theorem next_triggersStay (st : State) {e : Event} (h : e.setsTriggers = false) :
    TriggersStay st (next st e) := by
  cases e with
  | triggerRampAll root =>
    refine .of_eq ?_
    simp only [next, handleTriggerRampAllCommand]
    split
    · rfl
    · split <;> rfl
  | createScene => cases h
  | setSceneProperties => cases h
  | deleteScene root => exact triggersStay_handleDeleteScene st root
  | runScene root env =>
    simp only [next, handleRunScene]
    split
    · exact .refl st
    · exact triggersStay_executeAndStore (x := plainExecution _ _)
        (getSceneProperties_of_sceneToRun ‹_›) env
  | setSceneControllerProperties root commands =>
    refine .of_eq ?_
    obtain heq | ⟨_, _, _, -, -, heq⟩ := handleSetSceneControllerProperties_cases st root commands
    · rw [next, heq]
    · rw [next, heq]
      rfl
  | deleteSceneController root commands =>
    refine .of_eq ?_
    obtain heq | heq | ⟨_, _, -, heq⟩ := handleDeleteSceneController_cases st root commands
    · rw [next, heq]
    · rw [next, heq, scenes_clearHouseID]
    · rw [next, heq, scenes_clearHouseID]
      rfl
  | triggerSceneController root env garbage =>
    simp only [next, handleTriggerSceneControllerCommand]
    split
    · exact .refl st
    · exact triggersStay_handleSceneControllerSceneRequest ..
  | addALight valueObject =>
    refine .of_eq ?_
    simp only [next, addALightProperty]
    split_ifs <;> rfl
  | resetAddALight => exact .of_eq rfl
  | addASceneController valueObject =>
    refine .of_eq ?_
    simp only [next, addASceneControllerProperty]
    split_ifs <;> rfl
  | received call env => exact triggersStay_handleCall st env call
  | checkScenes => cases h
  | adjustTriggers => cases h
  | qmotionStatus element changedThisMinute lastLowPowerSetting =>
    refine .of_eq ?_
    simp only [next, handleQmotionStatusResponse]
    split
    · rfl
    · split <;> rfl
  | adjustDeviceLevel deviceId delta sending =>
    refine .of_eq ?_
    simp only [next, adjustDeviceLevel]
    split
    · exact scenes_sendRampCommandToTransmitTask ..
    · rfl
  | setDeviceState deviceId state level sending =>
    refine .of_eq ?_
    simp only [next, setDeviceState]
    split
    · split
      · rfl
      · exact scenes_sendRampCommandToTransmitTask ..
    · rfl
  | setSceneState deviceId state env =>
    simp only [next, setSceneState]
    split
    · exact triggersStay_executeIfExists ..
    · exact .refl st
  | setZoneDeviceId zoneIndex id =>
    refine .of_eq ?_
    simp only [next, setZoneDeviceId]
    split <;> rfl
  | setSceneDeviceId sceneIndex id =>
    simp only [next, setSceneDeviceId]
    split
    · rename_i hp
      exact .setSceneProperties rfl hp rfl rfl
    · exact .refl st
  | transmit attempts =>
    simp only [next, transmit]
    split
    · exact .refl st
    · rename_i transmitQueue _
      have hqueue : TriggersStay st { st with transmitQueue := transmitQueue } := .of_eq rfl
      exact hqueue.trans (triggersStay_transmitAttempts ..)
  | reboot addASceneController idString =>
    refine ⟨fun i p' hp' => ?_⟩
    obtain ⟨p, hp, rfl⟩ := Option.map_eq_some_iff.1 hp'
    exact ⟨p, hp, rfl, rfl⟩
  | clearFlash => exact ⟨fun _ _ hp => (by cases hp)⟩
  | setZoneProperties => exact .of_eq (next_zonesOnly st rfl).scenes
  | deleteZone => exact .of_eq (next_zonesOnly st rfl).scenes
  | triggerRamp => exact .of_eq (next_zonesOnly st rfl).scenes
  | devicesInfo => exact .of_eq (next_zonesOnly st rfl).scenes
  | qmotionGroups => exact .of_eq (next_zonesOnly st rfl).scenes

end TriggersStay

/-! ### Runs -/

/-- A scene is executed in a pass. -/
structure Triggered where
  /-- `sceneIdx` -/
  sceneIdx : ℕ
  /-- The frequency of the scene. -/
  freq : Byte
  /-- The trigger. -/
  nextTriggerTime : Dword
  deriving DecidableEq

/-- What an operation executes because of a trigger. -/
def triggeredBy (st : State) : Event → List Triggered
  | .checkScenes env =>
    (executed env st).filterMap fun sceneIdx =>
      (st.scenes.get sceneIdx).map fun p => ⟨sceneIdx, p.freq, triggerTime p⟩
  | _ => []

/-- The operation keeps the triggers; or it is a pass, and the triggers that it calculates are in
order. -/
def Orderly (st : State) : Event → Prop
  | .checkScenes env => ∃ x : Pass, env = x.env st ∧
      ∀ sceneIdx p, st.scenes.get sceneIdx = some p → x.Handles sceneIdx p →
        p.freq = EVERY_WEEK → x.InOrder p
  | e => e.setsTriggers = false

/-- What is left of a trigger that was executed: the scene is not triggered again, or later. -/
def IsPast (t : Triggered) (st : State) : Prop :=
  ∀ p, st.scenes.get t.sceneIdx = some p →
    p.freq = NONE ∨ t.freq = EVERY_WEEK ∧ p.freq = EVERY_WEEK ∧
      triggerTime p = p.nextTriggerTime ∧ t.nextTriggerTime < p.nextTriggerTime

section Runs

variable {st st' : State} {e : Event} {t : Triggered}

/-- **The cases of an orderly step.** -/
theorem Orderly.cases (h : Orderly st e) :
    (∃ x : Pass, e = .checkScenes (x.env st) ∧ ∀ sceneIdx p, st.scenes.get sceneIdx = some p →
      x.Handles sceneIdx p → p.freq = EVERY_WEEK → x.InOrder p) ∨ e.setsTriggers = false := by
  cases e with
  | checkScenes env =>
    obtain ⟨x, rfl, horder⟩ := h
    exact .inl ⟨x, rfl, horder⟩
  | _ => exact .inr h

theorem triggeredBy_of_keeps (h : e.setsTriggers = false) : triggeredBy st e = [] := by
  cases e with
  | checkScenes => cases h
  | _ => rfl

/-- What is executed was handled. -/
theorem mem_triggeredBy {x : Pass} (h : t ∈ triggeredBy st (.checkScenes (x.env st))) :
    st.addALight = false ∧ ∃ p, st.scenes.get t.sceneIdx = some p ∧ x.Executes t.sceneIdx p ∧
      t.freq = p.freq ∧ t.nextTriggerTime = triggerTime p := by
  obtain ⟨sceneIdx, hmem, ht⟩ := List.mem_filterMap.1 h
  obtain ⟨p, hp, rfl⟩ := Option.map_eq_some_iff.1 ht
  obtain ⟨haddALight, q, hq, hexecutes⟩ := mem_executed_iff.1 hmem
  obtain rfl : p = q := Option.some.inj (hp.symm.trans hq)
  exact ⟨haddALight, p, hp, hexecutes, rfl, rfl⟩

/-- A pass executes no scene twice. -/
theorem pairwise_triggeredBy (st : State) (e : Event) :
    (triggeredBy st e).Pairwise fun t t' => t.sceneIdx ≠ t'.sceneIdx := by
  cases e with
  | checkScenes env =>
    have hnodup : (executed env st).Nodup := List.nodup_range.filter _
    refine List.pairwise_filterMap.2 (hnodup.imp fun {i j} hne t ht t' ht' => ?_)
    obtain ⟨p, -, rfl⟩ := Option.map_eq_some_iff.1 ht
    obtain ⟨q, -, rfl⟩ := Option.map_eq_some_iff.1 ht'
    exact hne
  | _ => exact List.Pairwise.nil

/-- **What was executed is past.** -/
theorem isPast_next (h : Orderly st e) (ht : t ∈ triggeredBy st e) : IsPast t (next st e) := by
  obtain ⟨x, rfl, horder⟩ | hkeeps := h.cases
  · obtain ⟨haddALight, p, hp, hexecutes, hfreq, htime⟩ := mem_triggeredBy ht
    have hhandles := hexecutes.1
    intro p' hp'
    obtain ⟨q, hq, hleaves⟩ := exists_leaves haddALight hp'
    obtain rfl : p = q := Option.some.inj (hp.symm.trans hq)
    obtain honce | hweek := hhandles.1.1
    · exact .inl (hleaves.once hhandles honce).1
    · obtain ⟨hlater, hvalid⟩ := hleaves.later hhandles hweek (horder _ p hp hhandles hweek)
      refine .inr ⟨hfreq.trans hweek, (hleaves.everyWeek hhandles hweek).1, hvalid, ?_⟩
      have hdue : triggerTime p ≤ x.rtcTime.seconds := hhandles.1.2
      rw [BitVec.lt_def] at hlater ⊢
      rw [BitVec.le_def] at hdue
      rw [htime]
      exact Nat.lt_of_le_of_lt hdue hlater
  · rw [triggeredBy_of_keeps hkeeps] at ht
    exact absurd ht List.not_mem_nil

/-- **What is past stays past.** -/
theorem IsPast.next (h : IsPast t st) (he : Orderly st e) : IsPast t (next st e) := by
  intro p' hp'
  obtain ⟨x, rfl, horder⟩ | hkeeps := he.cases
  · cases haddALight : st.addALight with
    | true =>
      have hsame : checkScenes (x.env st) st = st := checkScenesUpTo_of_addALight haddALight
      rw [House.next, hsame] at hp'
      exact h p' hp'
    | false =>
      obtain ⟨p, hp, hleaves⟩ := exists_leaves haddALight hp'
      by_cases hhandles : x.Handles t.sceneIdx p
      · obtain hnone | ⟨hfreq, hweek, hvalid, hlt⟩ := h p hp
        · exfalso
          obtain hfreq | hfreq := hhandles.1.1 <;> rw [hnone] at hfreq <;> cases hfreq
        · obtain ⟨hlater, hvalid'⟩ := hleaves.later hhandles hweek (horder _ p hp hhandles hweek)
          have hdue : triggerTime p ≤ x.rtcTime.seconds := hhandles.1.2
          refine .inr ⟨hfreq, (hleaves.everyWeek hhandles hweek).1, hvalid', ?_⟩
          rw [BitVec.lt_def] at hlt hlater ⊢
          rw [hvalid, BitVec.le_def] at hdue
          exact Nat.lt_trans (Nat.lt_of_lt_of_le hlt hdue) hlater
      · obtain rfl := hleaves.other hhandles
        obtain hnone | ⟨hfreq, hweek, hvalid, hlt⟩ := h p hp
        · exact .inl (by simp [cleanScene, hnone])
        · exact .inr ⟨hfreq, (freq_cleanScene_iff (.inr rfl)).2 hweek, triggerTime_cleanScene p,
            lt_of_lt_of_eq hlt hvalid.symm⟩
  · obtain ⟨p, hp, hfreq, htime⟩ := (next_triggersStay st hkeeps).scenes _ p' hp'
    have hsame : triggerTime p' = triggerTime p := by
      simp only [triggerTime, cleanScene, htime]
    rw [hfreq, hsame, htime]
    exact h p hp

/-- **What is executed after it** is executed later, and every week. -/
theorem IsPast.lt (h : IsPast t st) (he : Orderly st e) {t' : Triggered}
    (ht' : t' ∈ triggeredBy st e) (hsame : t.sceneIdx = t'.sceneIdx) :
    t.freq = EVERY_WEEK ∧ t.nextTriggerTime < t'.nextTriggerTime := by
  obtain ⟨x, rfl, -⟩ | hkeeps := he.cases
  · obtain ⟨-, p, hp, hexecutes, -, htime⟩ := mem_triggeredBy ht'
    rw [← hsame] at hp
    obtain hnone | ⟨hfreq, -, hvalid, hlt⟩ := h p hp
    · exfalso
      obtain hfreq | hfreq := hexecutes.1.1.1 <;> rw [hnone] at hfreq <;> cases hfreq
    · exact ⟨hfreq, by rw [htime, hvalid]; exact hlt⟩
  · rw [triggeredBy_of_keeps hkeeps] at ht'
    exact absurd ht' List.not_mem_nil

/-- **The run rule**: in a run whose steps are orderly, a scene is executed again only if it is
triggered every week, and with a later trigger. -/
theorem pairwise_trace_triggeredBy {es : List Event} (h : machine.AllSteps Orderly st es) :
    (machine.trace triggeredBy st es).Pairwise fun t t' => t.sceneIdx = t'.sceneIdx →
      t.freq = EVERY_WEEK ∧ t.nextTriggerTime < t'.nextTriggerTime := by
  refine Machine.pairwise_trace (I := IsPast) (K := Orderly) ?_ ?_ ?_ ?_ h
  · intro st e _
    exact (pairwise_triggeredBy st e).imp fun hne hsame => absurd hsame hne
  · intro st e st' t he hstep ht
    obtain rfl := Option.some.inj hstep
    exact isPast_next he ht
  · intro t st e st' hpast he hstep
    obtain rfl := Option.some.inj hstep
    exact hpast.next he
  · intro t st e hpast he t' ht' hsame
    exact hpast.lt he ht' hsame

/-! ### Regular times -/

/-- All scenes are triggered at regular times. -/
def AtRegularTimes (st : State) : Prop := st.scenes.All fun _ p => p.trigger = REGULAR_TIME

theorem trigger_cleanScene {p : SceneProperties} (h : p.trigger = REGULAR_TIME) :
    (cleanScene p).trigger = REGULAR_TIME := by simp [cleanScene, h]

theorem AtRegularTimes.checkScenes (h : AtRegularTimes st) (x : Pass) :
    AtRegularTimes (checkScenes (x.env st) st) := by
  cases haddALight : st.addALight with
  | true =>
    have hsame : House.checkScenes (x.env st) st = st := checkScenesUpTo_of_addALight haddALight
    rw [hsame]
    exact h
  | false =>
    intro sceneIdx p' hp'
    obtain ⟨p, hp, hleaves⟩ := exists_leaves haddALight hp'
    rw [hleaves.rest]
    exact trigger_cleanScene (h sceneIdx p hp)

/-- **Their triggers are in order** as long as the clock is from the first valid time to eight days
before the last one. -/
theorem AtRegularTimes.orderly (h : AtRegularTimes st) (x : Pass)
    (hmin : minSystemTime ≤ x.rtcTime.seconds.toNat)
    (hmax : x.rtcTime.seconds.toNat + 8 * 86400 ≤ maxSystemTime) :
    Orderly st (.checkScenes (x.env st)) :=
  ⟨x, rfl, fun sceneIdx p hp _ hfreq =>
    Pass.inOrder_of_regular (trigger_cleanScene (h sceneIdx p hp)) hfreq hmin hmax⟩

end Runs

/-! ### The scheduler -/

/-- What a pass does. -/
structure Pass.Schedules (x : Pass) (st : State) : Prop where
  /-- It executes the scenes that are due, unless a light is being added, the scene is to be skipped
  or is already running, or the objects for a broadcast are not allocated. -/
  executed : ∀ sceneIdx, sceneIdx ∈ executed (x.env st) st ↔
    st.addALight = false ∧ ∃ p, st.scenes.get sceneIdx = some p ∧ x.Executes sceneIdx p
  /-- It executes each of them once. -/
  once : (checkScenes (x.env st) st).runs = st.runs + (House.executed (x.env st) st).length
  /-- What it leaves of the scenes. -/
  leaves : st.addALight = false → ∀ sceneIdx, Option.Rel (x.Leaves sceneIdx)
    (st.scenes.get sceneIdx) ((checkScenes (x.env st) st).scenes.get sceneIdx)
  /-- Nothing happens while a light is being added. -/
  addALight : st.addALight = true → checkScenes (x.env st) st = st

/-- Nothing is executed twice because of one trigger. -/
structure NoneTwice (triggered : List Triggered) : Prop where
  /-- A scene that is to be triggered once is executed at most once. -/
  once : ∀ sceneIdx,
    (triggered.filter fun t => t.sceneIdx = sceneIdx ∧ t.freq = ONCE).length ≤ 1
  /-- No scene is executed twice with the same trigger. -/
  nodup : (triggered.map fun t => (t.sceneIdx, t.nextTriggerTime)).Nodup

theorem schedules (x : Pass) (st : State) : x.Schedules st where
  executed _ := mem_executed_iff
  once := runs_checkScenes (x.env st) st
  leaves := leaves_checkScenes x
  addALight := checkScenesUpTo_of_addALight

theorem length_le_one_of_pairwise {α : Type*} {l : List α} (h : l.Pairwise fun _ _ => False) :
    l.length ≤ 1 := by
  match l, h with
  | [], _ => exact Nat.zero_le 1
  | [_], _ => exact Nat.le_refl 1
  | _ :: _ :: _, hpairwise => exact (List.rel_of_pairwise_cons hpairwise List.mem_cons_self).elim

theorem noneTwice_of_pairwise {triggered : List Triggered}
    (h : triggered.Pairwise fun t t' => t.sceneIdx = t'.sceneIdx →
      t.freq = EVERY_WEEK ∧ t.nextTriggerTime < t'.nextTriggerTime) : NoneTwice triggered := by
  constructor
  · intro sceneIdx
    have hfilter : (triggered.filter fun t => t.sceneIdx = sceneIdx ∧ t.freq = ONCE).Pairwise
        fun _ _ => False := by
      refine List.pairwise_filter.2 (h.imp fun hlater ht ht' => ?_)
      obtain ⟨hsceneIdx, hfreq⟩ := of_decide_eq_true ht
      have hweek := (hlater (hsceneIdx.trans (of_decide_eq_true ht').1.symm)).1
      rw [hfreq] at hweek
      cases hweek
    exact length_le_one_of_pairwise hfilter
  · refine List.pairwise_map.2 (h.imp fun hlater heq => ?_)
    obtain ⟨hsame, htime⟩ := Prod.mk.inj heq
    have hlt := (hlater hsame).2
    rw [htime, BitVec.lt_def] at hlt
    exact absurd hlt (Nat.lt_irrefl _)

/-- A pass in which everything is allocated. -/
def freePass (seconds : Dword) : Pass where
  rtcTime := ⟨seconds, 0⟩
  getNextSunTimes := lateSunset
  clock := lateSunset_clock
  objects _ := ⟨true, true⟩
  execution _ := freeExecution

/-- A scene that is to be triggered once. -/
def onceScene : SceneProperties :=
  { exampleScene with
    nextTriggerTime := 1441018800, freq := ONCE, fits := exampleScene.zones_fit }

/-- Such a scene, and one that is triggered every day. -/
def twoScenes : State :=
  (State.initial.setSceneProperties 0 onceScene).setSceneProperties 1 weeklyScene

/-- A pass on the first of September 2015 at 09:29, and one at 11:01. -/
def twoPasses : List Event :=
  [.checkScenes ((freePass 1441099765).env twoScenes),
    .checkScenes ((freePass 1441105260).env
      (checkScenes ((freePass 1441099765).env twoScenes) twoScenes))]

theorem atRegularTimes_twoScenes : AtRegularTimes twoScenes :=
  Table.All.set (Table.All.set Table.all_empty fun _ => rfl) fun _ => rfl

theorem orderly_twoPasses : machine.AllSteps Orderly twoScenes twoPasses := by
  have hregular := atRegularTimes_twoScenes
  refine Machine.AllSteps.cons rfl (hregular.orderly _ (by decide) (by decide)) ?_
  exact Machine.AllSteps.cons rfl
    ((hregular.checkScenes _).orderly _ (by decide) (by decide)) trivial

end House

end Lcm
