import Lcm.House.Frames
import Lcm.House.SunTriggers

/-!
# One pass over the scenes

Every minute the event task calls `checkScenes` with the time of the clock.  Here a pass is that
call together with what the environment decides: what can be allocated, and how the executions go.

## Main definitions

* `Pass` : a call of `checkScenes`.
* `Pass.Handles`, `Pass.Executes` : a scene is due and handled; it is executed.
* `Pass.InOrder` : the next trigger of a scene is a valid time that lies ahead.
* `executed` : the scenes in whose rounds `ExecuteScene` begins a run.
* `Pass.Leaves` : what a pass leaves of a scene.

## Main results

* `checkScene_spec` : what a round does.
* `mem_executed_iff`, `runs_checkScenes` : which scenes are executed, each of them once.
* `leaves_checkScenes` : what a pass leaves of the scenes.
-/

namespace Lcm

namespace House

open Flash Scenes Schedule

/-- A call of `checkScenes`. -/
structure Pass where
  /-- `rtcTime` -/
  rtcTime : TimeStruct
  /-- How the times of sunrise and sunset are calculated. -/
  getNextSunTimes : DateStruct → Bool → DateStruct
  /-- They are times of day. -/
  clock : ∀ date sunrise, (getNextSunTimes date sunrise).hour < 24 ∧
    (getNextSunTimes date sunrise).minute < 60
  /-- About the broadcast, in each round. -/
  objects : ℕ → Objects
  /-- About the execution, in each round. -/
  execution : ℕ → ExecutionEnv

/-- The trigger of a scene, as `checkScenes` takes it. -/
def triggerTime (p : SceneProperties) : Dword := (cleanScene p).nextTriggerTime

/-- The data that `checkScenes` takes as valid. -/
structure ValidScene (p : SceneProperties) : Prop where
  trigger : p.trigger ∈ [REGULAR_TIME, SUNRISE, SUNSET]
  nextTriggerTime : p.nextTriggerTime ≠ 0 →
    minSystemTime ≤ p.nextTriggerTime.toNat ∧ p.nextTriggerTime.toNat ≤ maxSystemTime
  delta : minDeltaValue ≤ p.delta.toInt ∧ p.delta.toInt ≤ maxDeltaValue
  freq : p.freq ∈ [NONE, ONCE, EVERY_WEEK]

namespace Pass

variable (x : Pass)

/-- The trigger that `calculateNewTrigger` calculates; fuel for fourteen rounds suffices. -/
def nextTriggerTime (p : SceneProperties) : Dword :=
  (calculateNewTrigger x.getNextSunTimes 14 p x.rtcTime).elim 0 fun p => p.nextTriggerTime

/-- What is decided in the rounds, for the scenes that are there at the beginning. -/
def env (st : State) (sceneIdx : ℕ) : CheckEnv where
  now := x.rtcTime.seconds
  objects := x.objects sceneIdx
  execution := x.execution sceneIdx
  nextTriggerTime := (st.scenes.get sceneIdx).elim 0 fun p => x.nextTriggerTime (cleanScene p)

/-- The scene is due. -/
def Due (p : SceneProperties) : Prop :=
  (p.freq = ONCE ∨ p.freq = EVERY_WEEK) ∧ triggerTime p ≤ x.rtcTime.seconds

/-- The scene is due, and the objects for its broadcast are allocated. -/
def Handles (sceneIdx : ℕ) (p : SceneProperties) : Prop :=
  x.Due p ∧ (x.objects sceneIdx).both = true

/-- The scene is executed: it is not to be skipped, and not refused as already running. -/
def Executes (sceneIdx : ℕ) (p : SceneProperties) : Prop :=
  x.Handles sceneIdx p ∧ p.skipNext = 0 ∧ starts (x.execution sceneIdx).objects p = true

/-- The next trigger of a scene is a valid time that lies ahead. -/
structure InOrder (p : SceneProperties) : Prop where
  /-- At a regular time: the first of the times at which the scene may be triggered is valid. -/
  regular : (cleanScene p).trigger = REGULAR_TIME →
    ∃ t, IsLeast {t | Eligible (cleanScene p) x.rtcTime t} t ∧
      minSystemTime ≤ t.toNat ∧ t.toNat ≤ maxSystemTime
  /-- At a time of the sun. -/
  sun : (cleanScene p).trigger ≠ REGULAR_TIME →
    Ahead (cleanScene p) x.rtcTime (sunTimeToday x.getNextSunTimes (cleanScene p) x.rtcTime)

instance (p : SceneProperties) : Decidable (x.Due p) := inferInstanceAs (Decidable (_ ∧ _))

instance (sceneIdx : ℕ) (p : SceneProperties) : Decidable (x.Handles sceneIdx p) :=
  inferInstanceAs (Decidable (_ ∧ _))

instance (sceneIdx : ℕ) (p : SceneProperties) : Decidable (x.Executes sceneIdx p) :=
  inferInstanceAs (Decidable (_ ∧ _))

end Pass

/-- `checkScenes`, up to a round of its loop. -/
def checkScenesUpTo (env : ℕ → CheckEnv) (rounds : ℕ) (st : State) : State :=
  if st.addALight then st
  else
    (List.range rounds).foldl
      (fun st sceneIdx => checkScene (env sceneIdx) st (BitVec.ofNat 8 sceneIdx)) st

/-- The scenes that are executed in a pass: `ExecuteScene` begins a run in their rounds. -/
def executed (env : ℕ → CheckEnv) (st : State) : List ℕ :=
  (List.range maxNumberOfScenes).filter fun sceneIdx =>
    (checkScenesUpTo env sceneIdx st).runs ≠ (checkScenesUpTo env (sceneIdx + 1) st).runs

/-- What a pass leaves of a scene. -/
structure Pass.Leaves (x : Pass) (sceneIdx : ℕ) (p p' : SceneProperties) : Prop where
  /-- A scene that is not handled keeps its properties, except for invalid ones. -/
  other : ¬ x.Handles sceneIdx p → p' = cleanScene p
  /-- A scene that was to be triggered once is not triggered again. -/
  once : x.Handles sceneIdx p → p.freq = ONCE →
    p'.freq = NONE ∧ p'.nextTriggerTime = triggerTime p
  /-- A scene that is triggered every week gets its next trigger. -/
  everyWeek : x.Handles sceneIdx p → p.freq = EVERY_WEEK →
    p'.freq = EVERY_WEEK ∧ ∀ fuel, 14 ≤ fuel →
      calculateNewTrigger x.getNextSunTimes fuel { p' with nextTriggerTime := triggerTime p }
        x.rtcTime = some p'
  /-- If that is in order, it is later, and valid. -/
  later : x.Handles sceneIdx p → p.freq = EVERY_WEEK → x.InOrder p →
    x.rtcTime.seconds < p'.nextTriggerTime ∧ triggerTime p' = p'.nextTriggerTime
  /-- The mark to be skipped is used up. -/
  skipNext : x.Handles sceneIdx p → p'.skipNext = 0
  /-- The other mark says that the scene runs, if it is executed, or that it ended at once. -/
  running : p'.running = p.running ∨ x.Executes sceneIdx p ∧ (p'.running = 0 ∨ p'.running = 1)
  /-- Nothing else changes, except for what is invalid. -/
  rest : p' = { cleanScene p with
    nextTriggerTime := p'.nextTriggerTime, freq := p'.freq, skipNext := p'.skipNext
    running := p'.running }

/-- **What is valid stays.** -/
theorem cleanScene_of_valid {p : SceneProperties} (h : ValidScene p) : cleanScene p = p := by
  have htime : ¬ (p.nextTriggerTime ≠ 0 ∧
      ¬ ((1429810320 : Dword) ≤ p.nextTriggerTime ∧ p.nextTriggerTime ≤ 2147483647)) :=
    fun hnot => hnot.2 (valid_iff.2 (h.nextTriggerTime hnot.1))
  have hdelta : ¬ (120 < p.delta.toInt ∨ p.delta.toInt < -120) := by
    rw [not_or, not_lt, not_lt]
    exact ⟨h.delta.2, h.delta.1⟩
  rw [cleanScene, if_pos h.trigger, if_neg htime, if_neg hdelta, if_pos h.freq]

/-! ### Executing a scene -/

section Execution

variable (x : Execution) (env : ExecutionEnv) (st : State) (p : SceneProperties)

theorem scenes_sendRampCommandToTransmitTask (zoneIndex sceneId scenePercent : Byte)
    (priority run : ℕ) (sending : State.Sending) :
    (st.sendRampCommandToTransmitTask zoneIndex sceneId scenePercent priority run sending).scenes =
      st.scenes := (zonesOnly_sendRampCommandToTransmitTask ..).scenes

theorem runs_sendRampCommandToTransmitTask (zoneIndex sceneId scenePercent : Byte)
    (priority run : ℕ) (sending : State.Sending) :
    (st.sendRampCommandToTransmitTask zoneIndex sceneId scenePercent priority run sending).runs =
      st.runs := by
  unfold State.sendRampCommandToTransmitTask
  split
  · split
    · split <;> rfl
    · rfl
  · rfl

/-- The loop over the zones changes no scene and begins no run. -/
theorem executeZones_spec (rampRate : Byte) (number numZonesInScene : ℕ) (rounds : ℕ → Round)
    (zoneData : List ZoneInScene) (zoneIndex : ℕ) (running : Byte) :
    let result :=
      executeZones x rampRate number numZonesInScene rounds zoneIndex zoneData st running
    result.1.scenes = st.scenes ∧ result.1.runs = st.runs ∧
      (result.2 = 0 ∨ result.2 = running) := by
  induction zoneData generalizing zoneIndex st running with
  | nil => exact ⟨rfl, rfl, .inr rfl⟩
  | cons zone zoneData ih =>
    simp only [executeZones]
    split
    · rename_i st' hvisit
      obtain ⟨q, -, rfl⟩ := Option.map_eq_some_iff.1 hvisit
      obtain ⟨hscenes, hruns, hrunning⟩ := ih (State.sendRampCommandToTransmitTask _ zone.zoneId
        x.sceneIndex (scenePercent zoneIndex numZonesInScene) lowPriority number
        (rounds zoneIndex).sending) (zoneIndex + 1) running
      refine ⟨hscenes.trans ?_, hruns.trans ?_, hrunning⟩
      · rw [scenes_sendRampCommandToTransmitTask]
        rfl
      · rw [runs_sendRampCommandToTransmitTask]
        rfl
    · obtain ⟨hscenes, hruns, hrunning⟩ := ih st (zoneIndex + 1)
        (missingZone (scenePercent zoneIndex numZonesInScene) (rounds zoneIndex).objects running)
      refine ⟨hscenes, hruns, ?_⟩
      obtain hzero | hmissing := hrunning
      · exact .inl hzero
      · rw [hmissing, missingZone]
        split
        · exact .inl rfl
        · exact .inr rfl

theorem scenes_markToggled : (markToggled x st).scenes = st.scenes := by
  simp only [markToggled]
  split
  · rfl
  · split <;> rfl

theorem runs_markToggled : (markToggled x st).runs = st.runs := by
  simp only [markToggled]
  split
  · rfl
  · split <;> rfl

/-- **Executing a scene** changes no scene; it begins a run unless it is refused, and the mark of
the copy says then that the scene runs, or that it ended at once. -/
theorem executeScene_spec :
    (executeScene x env st p).1.scenes = st.scenes ∧
      (executeScene x env st p).1.runs = st.runs + (if starts env.objects p then 1 else 0) ∧
      ∃ running, (executeScene x env st p).2 = { p with running := running } ∧
        (running = p.running ∨ starts env.objects p = true ∧ (running = 0 ∨ running = 1)) := by
  unfold executeScene
  by_cases hstarts : starts env.objects p = true
  · obtain ⟨hscenes, hruns, hrunning⟩ := executeZones_spec x { st with runs := st.runs + 1 }
      (sceneRampRate p.zoneData) (st.runs + 1) p.zoneData.length env.rounds p.zoneData 0 1
    rw [if_pos hstarts, if_pos hstarts]
    refine ⟨?_, ?_, _, rfl, .inr ⟨hstarts, hrunning⟩⟩
    · exact (scenes_markToggled ..).trans hscenes
    · exact (runs_markToggled ..).trans hruns
  · rw [if_neg hstarts, if_neg hstarts]
    exact ⟨rfl, rfl, p.running, rfl, .inl rfl⟩

end Execution

/-! ### A round -/

/-- The scene is executed in the round. -/
def CheckEnv.Executes (env : CheckEnv) (p : SceneProperties) : Prop :=
  isDue env (cleanScene p) = true ∧ p.skipNext = 0 ∧ starts env.execution.objects p = true

instance (env : CheckEnv) (p : SceneProperties) : Decidable (env.Executes p) :=
  inferInstanceAs (Decidable (_ ∧ _))

/-- The copy that is stored at the end of the round. -/
def CheckEnv.left (env : CheckEnv) (p : SceneProperties) (running : Byte) : SceneProperties :=
  if isDue env (cleanScene p) then
    retrigger env.nextTriggerTime
      { cleanScene p with skipNext := 0, running := running, fits := cleanScene_zones_fit p }
  else cleanScene p

section Round

variable {env : CheckEnv} {st : State} {sceneIdx : ℕ}

theorem getSceneProperties_ofNat {p : SceneProperties} (h : st.scenes.get sceneIdx = some p) :
    st.getSceneProperties (BitVec.ofNat 8 sceneIdx) = some p := by
  have hlt : sceneIdx < 100 := Table.lt_of_get h
  rw [State.getSceneProperties, toNat_ofNat_of_lt (by omega), h]

theorem checkScene_none (hlt : sceneIdx < maxNumberOfScenes)
    (h : st.scenes.get sceneIdx = none) :
    checkScene env st (BitVec.ofNat 8 sceneIdx) = st := by
  have hlt : sceneIdx < 100 := hlt
  have hnone : st.getSceneProperties (BitVec.ofNat 8 sceneIdx) = none := by
    rw [State.getSceneProperties, toNat_ofNat_of_lt (by omega), h]
  unfold checkScene
  rw [hnone]

variable (env) in
/-- **What a round does**: it stores the copy of its scene, and begins a run if it executes it. -/
theorem checkScene_spec {p : SceneProperties} (h : st.scenes.get sceneIdx = some p) :
    let st' := checkScene env st (BitVec.ofNat 8 sceneIdx)
    (∃ running, (running = p.running ∨ env.Executes p ∧ (running = 0 ∨ running = 1)) ∧
      st'.scenes = st.scenes.set sceneIdx (env.left p running)) ∧
      st'.runs = st.runs + (if env.Executes p then 1 else 0) := by
  have hlt : sceneIdx < 100 := Table.lt_of_get h
  have hindex : (BitVec.ofNat 8 sceneIdx).toNat = sceneIdx := toNat_ofNat_of_lt (by omega)
  have hnamed : sceneNamed (cleanScene p) = true := st.scenes.named_of_get sceneIdx p h
  simp only [checkScene, getSceneProperties_ofNat h, hnamed, Bool.not_true, Bool.false_eq_true,
    if_false, CheckEnv.left, CheckEnv.Executes]
  by_cases hdue : isDue env (cleanScene p) = true
  · by_cases hskip : p.skipNext = 0
    · obtain ⟨hscenes, hruns, running, hcopy, hrunning⟩ := executeScene_spec
        (plainExecution (BitVec.ofNat 8 sceneIdx) 0) env.execution st (cleanScene p)
      have hclean : (cleanScene p).skipNext = 0 := hskip
      have hstarts : starts env.execution.objects (cleanScene p) =
          starts env.execution.objects p := rfl
      have hsame : { cleanScene p with running := running } =
          { cleanScene p with skipNext := 0, running := running } := by
        rw [← hclean]
      rw [hstarts] at hruns hrunning
      simp only [hdue, hclean, hskip, if_true, true_and]
      refine ⟨⟨running, hrunning, ?_⟩, hruns⟩
      rw [hcopy, hsame, State.setSceneProperties, hscenes, hindex]
    · have hclean : ¬ (cleanScene p).skipNext = 0 := hskip
      simp only [hdue, hclean, hskip, if_true, if_false, false_and, and_false]
      refine ⟨⟨p.running, .inl rfl, ?_⟩, rfl⟩
      rw [State.setSceneProperties, hindex]
      rfl
  · simp only [hdue, Bool.false_eq_true, if_false, false_and]
    refine ⟨⟨p.running, .inl rfl, ?_⟩, rfl⟩
    rw [State.setSceneProperties, hindex]

/-- A round changes no other scene. -/
theorem get_checkScene_ne {j : ℕ} (hlt : sceneIdx < maxNumberOfScenes) (hne : j ≠ sceneIdx) :
    (checkScene env st (BitVec.ofNat 8 sceneIdx)).scenes.get j = st.scenes.get j := by
  cases h : st.scenes.get sceneIdx with
  | none => rw [checkScene_none hlt h]
  | some p =>
    obtain ⟨⟨running, -, hscenes⟩, -⟩ := checkScene_spec env h
    rw [hscenes, Table.get_set_ne hne]

end Round

/-! ### A pass -/

section Rounds

variable {env : ℕ → CheckEnv} {st : State} {n sceneIdx : ℕ}

theorem checkScenes_eq (env : ℕ → CheckEnv) (st : State) :
    checkScenes env st = checkScenesUpTo env maxNumberOfScenes st := rfl

theorem checkScenesUpTo_of_addALight (h : st.addALight = true) :
    checkScenesUpTo env n st = st := if_pos h

theorem checkScenesUpTo_succ (h : st.addALight = false) : checkScenesUpTo env (n + 1) st =
    checkScene (env n) (checkScenesUpTo env n st) (BitVec.ofNat 8 n) := by
  simp only [checkScenesUpTo, h, Bool.false_eq_true, if_false, List.range_succ, List.foldl_append,
    List.foldl_cons, List.foldl_nil]

variable (env st) in
/-- A scene stays as it is until its round. -/
theorem get_checkScenesUpTo (hn : n ≤ maxNumberOfScenes) (hle : n ≤ sceneIdx) :
    (checkScenesUpTo env n st).scenes.get sceneIdx = st.scenes.get sceneIdx := by
  cases haddALight : st.addALight with
  | true => rw [checkScenesUpTo_of_addALight haddALight]
  | false =>
    induction n with
    | zero =>
      rw [checkScenesUpTo, haddALight]
      rfl
    | succ n ih =>
      rw [checkScenesUpTo_succ haddALight, get_checkScene_ne hn (Nat.ne_of_gt hle)]
      exact ih (Nat.le_of_succ_le hn) (Nat.le_of_succ_le hle)

/-- And it stays as it is after it. -/
theorem get_checkScenes (hlt : sceneIdx < maxNumberOfScenes) :
    (checkScenes env st).scenes.get sceneIdx =
      (checkScenesUpTo env (sceneIdx + 1) st).scenes.get sceneIdx := by
  cases haddALight : st.addALight with
  | true => rw [checkScenes_eq, checkScenesUpTo_of_addALight haddALight,
      checkScenesUpTo_of_addALight haddALight]
  | false =>
    have hstay (n : ℕ) (hn : sceneIdx + 1 + n ≤ maxNumberOfScenes) :
        (checkScenesUpTo env (sceneIdx + 1 + n) st).scenes.get sceneIdx =
          (checkScenesUpTo env (sceneIdx + 1) st).scenes.get sceneIdx := by
      induction n with
      | zero => rfl
      | succ n ih =>
        have hround : sceneIdx + 1 + n < maxNumberOfScenes := hn
        rw [← Nat.add_assoc, checkScenesUpTo_succ haddALight, get_checkScene_ne hround (by omega)]
        exact ih (Nat.le_of_lt hround)
    have hrest := hstay (maxNumberOfScenes - (sceneIdx + 1)) (by omega)
    rwa [Nat.add_sub_cancel' hlt] at hrest

variable (env) in
/-- A round begins a run if it executes its scene, as that was at the beginning of the pass. -/
theorem runs_checkScenesUpTo_succ (hlt : sceneIdx < maxNumberOfScenes)
    (h : st.addALight = false) :
    (checkScenesUpTo env (sceneIdx + 1) st).runs = (checkScenesUpTo env sceneIdx st).runs +
      (if (st.scenes.get sceneIdx).any fun p => (env sceneIdx).Executes p then 1 else 0) := by
  have hget := get_checkScenesUpTo env st (Nat.le_of_lt hlt) (Nat.le_refl sceneIdx)
  rw [checkScenesUpTo_succ h]
  cases hp : st.scenes.get sceneIdx with
  | none =>
    rw [hp] at hget
    rw [checkScene_none hlt hget]
    rfl
  | some p =>
    rw [hp] at hget
    rw [(checkScene_spec _ hget).2]
    simp only [Option.any_some, decide_eq_true_iff]

/-- **Which scenes are executed.** -/
theorem mem_executed : sceneIdx ∈ executed env st ↔
    st.addALight = false ∧ ∃ p, st.scenes.get sceneIdx = some p ∧ (env sceneIdx).Executes p := by
  rw [executed, List.mem_filter, List.mem_range, decide_eq_true_iff]
  constructor
  · rintro ⟨hlt, hne⟩
    have haddALight : st.addALight = false := by
      by_contra hadd
      rw [Bool.not_eq_false] at hadd
      exact hne (by rw [checkScenesUpTo_of_addALight hadd, checkScenesUpTo_of_addALight hadd])
    refine ⟨haddALight, ?_⟩
    rw [runs_checkScenesUpTo_succ env hlt haddALight] at hne
    split at hne
    · rename_i hany
      obtain ⟨p, hp, hexecutes⟩ := (Option.any_eq_true ..).1 hany
      exact ⟨p, hp, of_decide_eq_true hexecutes⟩
    · exact absurd rfl hne
  · rintro ⟨haddALight, p, hp, hexecutes⟩
    have hlt : sceneIdx < maxNumberOfScenes := Table.lt_of_get hp
    refine ⟨hlt, ?_⟩
    rw [runs_checkScenesUpTo_succ env hlt haddALight, hp, Option.any_some, decide_eq_true hexecutes]
    exact Nat.ne_of_lt (Nat.lt_succ_self _)

/-- **Each of them is executed once.** -/
theorem runs_checkScenes (env : ℕ → CheckEnv) (st : State) :
    (checkScenes env st).runs = st.runs + (executed env st).length := by
  cases haddALight : st.addALight with
  | true =>
    have hnil : executed env st = [] := by
      rw [List.eq_nil_iff_forall_not_mem]
      intro sceneIdx hmem
      rw [(mem_executed.1 hmem).1] at haddALight
      cases haddALight
    rw [checkScenes_eq, checkScenesUpTo_of_addALight haddALight, hnil]
    rfl
  | false =>
    have hrounds (n : ℕ) (hn : n ≤ maxNumberOfScenes) : (checkScenesUpTo env n st).runs =
        st.runs + ((List.range n).filter fun sceneIdx =>
          (checkScenesUpTo env sceneIdx st).runs ≠
            (checkScenesUpTo env (sceneIdx + 1) st).runs).length := by
      induction n with
      | zero =>
        rw [checkScenesUpTo, haddALight]
        rfl
      | succ n ih =>
        have hround := runs_checkScenesUpTo_succ env hn haddALight
        rw [List.range_succ, List.filter_append, List.length_append, ← Nat.add_assoc,
          ← ih (Nat.le_of_succ_le hn)]
        split at hround
        · rw [List.filter_cons_of_pos (by rw [decide_eq_true_iff]; omega)]
          exact hround
        · rw [List.filter_cons_of_neg (by rw [decide_eq_true_iff]; omega)]
          exact hround
    exact hrounds maxNumberOfScenes (Nat.le_refl _)

end Rounds

/-! ### The next trigger -/

section Trigger

variable {x : Pass} {p q : SceneProperties}

theorem freq_cleanScene_iff {freq : Byte} (h : freq = ONCE ∨ freq = EVERY_WEEK) :
    (cleanScene p).freq = freq ↔ p.freq = freq := by
  simp only [cleanScene]
  split
  · exact Iff.rfl
  · rename_i hnot
    constructor
    · rintro rfl
      obtain h | h := h <;> cases h
    · rintro rfl
      refine absurd ?_ hnot
      obtain h | h := h <;> rw [h] <;> decide

theorem delta_cleanScene (p : SceneProperties) :
    minDeltaValue ≤ (cleanScene p).delta.toInt ∧ (cleanScene p).delta.toInt ≤ maxDeltaValue := by
  simp only [cleanScene]
  split
  · decide
  · rename_i hnot
    rw [not_or, not_lt, not_lt] at hnot
    exact ⟨hnot.2, hnot.1⟩

/-- Neither of the marks has to do with the trigger. -/
theorem calculateNewTrigger_marks (getNextSunTimes : DateStruct → Bool → DateStruct) (fuel : ℕ)
    (p : SceneProperties) (rtcTime : TimeStruct) (skipNext running : Byte) :
    calculateNewTrigger getNextSunTimes fuel
        { p with skipNext := skipNext, running := running } rtcTime =
      (calculateNewTrigger getNextSunTimes fuel p rtcTime).map fun p =>
        { p with skipNext := skipNext, running := running } := by
  unfold calculateNewTrigger
  dsimp only
  rw [apply_ite (Option.map _)]
  refine if_congr Iff.rfl ?_ rfl
  rw [Option.bind_eq_bind, Option.map_bind]
  rfl

/-- **What the function returns** for a scene that is triggered every week. -/
theorem calculateNewTrigger_everyWeek (x : Pass) (hfreq : q.freq = EVERY_WEEK)
    (hdelta : minDeltaValue ≤ q.delta.toInt ∧ q.delta.toInt ≤ maxDeltaValue) {fuel : ℕ}
    (hfuel : 14 ≤ fuel) :
    calculateNewTrigger x.getNextSunTimes fuel q x.rtcTime =
      some { q with nextTriggerTime := x.nextTriggerTime q } := by
  obtain ⟨t, hrun⟩ : ∃ t, ∀ fuel, 14 ≤ fuel →
      calculateNewTrigger x.getNextSunTimes fuel q x.rtcTime =
        some { q with nextTriggerTime := t } := by
    by_cases htrigger : q.trigger = REGULAR_TIME
    · obtain ⟨t, hrun, -⟩ := exists_calculateNewTrigger x.getNextSunTimes x.rtcTime hfreq
        htrigger
      exact ⟨t, hrun⟩
    · obtain ⟨t, hrun, -⟩ := exists_sunTrigger x.clock x.rtcTime hfreq htrigger hdelta
      exact ⟨t, hrun⟩
  have ht : x.nextTriggerTime q = t := by
    rw [Pass.nextTriggerTime, hrun 14 (Nat.le_refl 14)]
    rfl
  rw [ht, hrun fuel hfuel]

/-- **A trigger that is in order** is later, and a valid time. -/
theorem Pass.InOrder.rearmed (h : x.InOrder p) (hfreq : p.freq = EVERY_WEEK) :
    x.rtcTime.seconds.toNat < (x.nextTriggerTime (cleanScene p)).toNat ∧
      minSystemTime ≤ (x.nextTriggerTime (cleanScene p)).toNat ∧
      (x.nextTriggerTime (cleanScene p)).toNat ≤ maxSystemTime := by
  have hweek : (cleanScene p).freq = EVERY_WEEK := (freq_cleanScene_iff (.inr rfl)).2 hfreq
  have hvalue {t : Dword} (hrun : ∀ fuel, 14 ≤ fuel →
      calculateNewTrigger x.getNextSunTimes fuel (cleanScene p) x.rtcTime =
        some { cleanScene p with nextTriggerTime := t }) :
      x.nextTriggerTime (cleanScene p) = t := by
    rw [Pass.nextTriggerTime, hrun 14 (Nat.le_refl 14)]
    rfl
  by_cases htrigger : (cleanScene p).trigger = REGULAR_TIME
  · obtain ⟨t, hrun, hleast⟩ := exists_calculateNewTrigger x.getNextSunTimes x.rtcTime hweek
      htrigger
    obtain ⟨t', ht', hvalid⟩ := h.regular htrigger
    have hlater : x.rtcTime.seconds.toNat / 60 < t'.toNat / 60 := ht'.1.later
    have hfirst := hleast ⟨t', ht'.1⟩
    obtain rfl : t = t' := BitVec.le_antisymm (hfirst.2 ht'.1) (ht'.2 hfirst.1)
    rw [hvalue hrun]
    exact ⟨by omega, hvalid⟩
  · obtain ⟨t, hrun, hrearmed⟩ := exists_sunTrigger x.clock x.rtcTime hweek htrigger
      (delta_cleanScene p)
    have hahead := hrearmed.2 (h.sun htrigger)
    have hlater : x.rtcTime.seconds.toNat / 60 < t.toNat / 60 := hahead.later
    rw [hvalue hrun]
    exact ⟨by omega, valid_of_notDue hweek hahead⟩

/-- At a regular time, it is in order from the first valid time to eight days before the last. -/
theorem Pass.inOrder_of_regular (htrigger : (cleanScene p).trigger = REGULAR_TIME)
    (hfreq : p.freq = EVERY_WEEK) (hmin : minSystemTime ≤ x.rtcTime.seconds.toNat)
    (hmax : x.rtcTime.seconds.toNat + 8 * 86400 ≤ maxSystemTime) : x.InOrder p := by
  refine ⟨fun _ => ?_, fun hne => absurd htrigger hne⟩
  obtain ⟨t, -, hleast⟩ := exists_calculateNewTrigger x.getNextSunTimes x.rtcTime
    ((freq_cleanScene_iff (.inr rfl)).2 hfreq) htrigger
  obtain ⟨t', ht', hle⟩ := exists_eligible_le (cleanScene p)
    (Nat.lt_of_le_of_lt hmax (by decide))
  have hfirst := hleast ⟨t', ht'⟩
  have hlater : x.rtcTime.seconds.toNat / 60 < t.toNat / 60 := hfirst.1.later
  have hbefore : t.toNat ≤ t'.toNat := BitVec.le_def.1 (hfirst.2 ht')
  exact ⟨t, hfirst, by omega, hbefore.trans (hle.trans hmax)⟩

end Trigger

/-! ### What is left -/

section Leaves

variable {x : Pass} {st : State} {sceneIdx : ℕ} {p : SceneProperties}

theorem isDue_iff : isDue (x.env st sceneIdx) (cleanScene p) = true ↔ x.Handles sceneIdx p := by
  have hfreq : (cleanScene p).freq ∈ [ONCE, EVERY_WEEK] ↔ p.freq = ONCE ∨ p.freq = EVERY_WEEK := by
    rw [List.mem_cons, List.mem_singleton, freq_cleanScene_iff (.inl rfl),
      freq_cleanScene_iff (.inr rfl)]
  rw [isDue, decide_eq_true_iff, hfreq, ← and_assoc]
  exact Iff.rfl

theorem executes_env_iff : (x.env st sceneIdx).Executes p ↔ x.Executes sceneIdx p :=
  and_congr_left' isDue_iff

/-- **Which scenes a pass executes**: outside the mode in which a light is added, those that are
handled and neither to be skipped nor already running. -/
theorem mem_executed_iff : sceneIdx ∈ executed (x.env st) st ↔
    st.addALight = false ∧ ∃ p, st.scenes.get sceneIdx = some p ∧ x.Executes sceneIdx p := by
  simp only [mem_executed, executes_env_iff]

/-- What is left is a valid trigger, if it is one. -/
theorem triggerTime_of_valid {p : SceneProperties} (hmin : minSystemTime ≤ p.nextTriggerTime.toNat)
    (hmax : p.nextTriggerTime.toNat ≤ maxSystemTime) : triggerTime p = p.nextTriggerTime :=
  if_neg fun h => h.2 (valid_iff.2 ⟨hmin, hmax⟩)

theorem left_of_not_handles (running : Byte) (h : ¬ x.Handles sceneIdx p) :
    (x.env st sceneIdx).left p running = cleanScene p := if_neg (mt isDue_iff.1 h)

theorem left_once {running : Byte} (h : x.Handles sceneIdx p) (hfreq : p.freq = ONCE) :
    (x.env st sceneIdx).left p running =
      { cleanScene p with skipNext := 0, running := running, freq := NONE } := by
  rw [CheckEnv.left, if_pos (isDue_iff.2 h), retrigger,
    if_pos ((freq_cleanScene_iff (.inl rfl)).2 hfreq)]

theorem left_everyWeek {running : Byte} (h : x.Handles sceneIdx p) (hfreq : p.freq = EVERY_WEEK)
    (hp : st.scenes.get sceneIdx = some p) :
    (x.env st sceneIdx).left p running =
      { cleanScene p with
        skipNext := 0, running := running
        nextTriggerTime := x.nextTriggerTime (cleanScene p) } := by
  have hweek : (cleanScene p).freq = EVERY_WEEK := (freq_cleanScene_iff (.inr rfl)).2 hfreq
  have honce : ¬ (cleanScene p).freq = ONCE := by rw [hweek]; decide
  rw [CheckEnv.left, if_pos (isDue_iff.2 h), retrigger, if_neg honce, Pass.env, hp]
  rfl

/-- **What a round leaves of its scene.** -/
theorem Pass.leaves_left {running : Byte} (hp : st.scenes.get sceneIdx = some p)
    (hrunning : running = p.running ∨ x.Executes sceneIdx p ∧ (running = 0 ∨ running = 1)) :
    x.Leaves sceneIdx p ((x.env st sceneIdx).left p running) := by
  by_cases hhandles : x.Handles sceneIdx p
  · obtain hfreq | hfreq := hhandles.1.1
    · have hne : p.freq ≠ EVERY_WEEK := by rw [hfreq]; decide
      rw [left_once hhandles hfreq]
      exact ⟨fun h => absurd hhandles h, fun _ _ => ⟨rfl, rfl⟩, fun _ h => absurd h hne,
        fun _ h => absurd h hne, fun _ => rfl, hrunning, rfl⟩
    · have hne : p.freq ≠ ONCE := by rw [hfreq]; decide
      have hweek : (cleanScene p).freq = EVERY_WEEK := (freq_cleanScene_iff (.inr rfl)).2 hfreq
      rw [left_everyWeek hhandles hfreq hp]
      refine ⟨fun h => absurd hhandles h, fun _ h => absurd h hne,
        fun _ _ => ⟨hweek, fun fuel hfuel => ?_⟩, fun _ _ horder => ?_, fun _ => rfl, hrunning, rfl⟩
      · -- the copy differs from the clean scene in its marks only
        have hcalculated := calculateNewTrigger_marks x.getNextSunTimes fuel (cleanScene p)
          x.rtcTime 0 running
        rw [calculateNewTrigger_everyWeek x hweek (delta_cleanScene p) hfuel] at hcalculated
        exact hcalculated
      · obtain ⟨hlater, hmin, hmax⟩ := horder.rearmed hfreq
        exact ⟨BitVec.lt_def.2 hlater, triggerTime_of_valid hmin hmax⟩
  · rw [left_of_not_handles running hhandles]
    exact ⟨fun _ => rfl, fun h => absurd h hhandles, fun h => absurd h hhandles,
      fun h => absurd h hhandles, fun h => absurd h hhandles, .inl rfl, rfl⟩

/-- **What a pass leaves of the scenes**, outside the mode in which a light is added. -/
theorem leaves_checkScenes (x : Pass) {st : State} (h : st.addALight = false) (sceneIdx : ℕ) :
    Option.Rel (x.Leaves sceneIdx) (st.scenes.get sceneIdx)
      ((checkScenes (x.env st) st).scenes.get sceneIdx) := by
  by_cases hlt : sceneIdx < maxNumberOfScenes
  · have hbefore := get_checkScenesUpTo (x.env st) st (Nat.le_of_lt hlt)
      (Nat.le_refl sceneIdx)
    rw [get_checkScenes hlt, checkScenesUpTo_succ h]
    cases hp : st.scenes.get sceneIdx with
    | none =>
      rw [hp] at hbefore
      rw [checkScene_none hlt hbefore, hbefore]
      exact .none
    | some p =>
      rw [hp] at hbefore
      obtain ⟨⟨running, hrunning, hscenes⟩, -⟩ := checkScene_spec (x.env st sceneIdx) hbefore
      have hleaves := Pass.leaves_left hp (hrunning.imp_right (And.imp_left executes_env_iff.1))
      have hname : ((x.env st sceneIdx).left p running).SceneNameString = p.SceneNameString := by
        rw [hleaves.rest]
        rfl
      have hnamed : sceneNamed ((x.env st sceneIdx).left p running) = true := by
        rw [sceneNamed, hname]
        exact st.scenes.named_of_get sceneIdx p hp
      rw [hscenes, Table.get_set_named hlt hnamed]
      exact .some hleaves
  · rw [Table.get_of_le _ _ (Nat.le_of_not_lt hlt), Table.get_of_le _ _ (Nat.le_of_not_lt hlt)]
    exact .none

/-- What is there after a pass was left of something. -/
theorem exists_leaves {p' : SceneProperties} (h : st.addALight = false)
    (hp' : (checkScenes (x.env st) st).scenes.get sceneIdx = some p') :
    ∃ p, st.scenes.get sceneIdx = some p ∧ x.Leaves sceneIdx p p' := by
  have hrel := leaves_checkScenes x h sceneIdx
  rw [hp'] at hrel
  cases hp : st.scenes.get sceneIdx with
  | none =>
    rw [hp] at hrel
    cases hrel
  | some p =>
    rw [hp] at hrel
    cases hrel with
    | some hleaves => exact ⟨p, rfl, hleaves⟩

/-- A valid trigger is valid after it was found to be. -/
theorem triggerTime_cleanScene (p : SceneProperties) :
    triggerTime (cleanScene p) = triggerTime p := by
  simp only [triggerTime, cleanScene]
  split
  · exact if_neg fun h => h.1 rfl
  · rfl

end Leaves

end House

end Lcm
