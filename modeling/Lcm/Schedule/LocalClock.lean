import Lcm.Schedule.AdjustTriggers
import Lcm.Schedule.DaylightSaving
import Lcm.System.History

/-!
# The local clock

The clock shows the local time.  When daylight saving time begins or ends, `checkForDST` changes the
flag, the effective offset, the clock and the triggers that depend on the sun; when the time zone is
set, all but the flag are changed.

## Main definitions

* `checkForDST` : the function of the source.
* `clock` : the machine of the offsets, the clock and the scenes.
* `Transition` : what a transition changes, and that it is not followed by another one.
* `TriggersAdjustable` : what a step asks of the scenes.

## Main results

* `checkForDST_spec` : a check makes a transition or changes nothing.
* `allSteps_keepsUTC` : in a run whose steps can adjust the triggers, the effective offset always is
  the right one, and all transitions keep the time in UTC and are final.
-/

namespace Lcm

namespace Schedule

open Flash Scenes Store Lcm.System

/-- The variables, the clock and the scenes. -/
structure State where
  /-- The variables. -/
  ram : Ram
  /-- The real time clock. -/
  clock : TimeStruct
  /-- The scenes. -/
  scenes : Store.State Byte

/-- The variables are set, and the clock and the triggers are adjusted. -/
def State.adjust (st : State) (ram : Ram) (adjustment : Dword) (garbage : ℕ → Garbage) :
    Option State :=
  (adjustTriggers adjustment garbage st.scenes).map fun scenes =>
    { ram := ram
      clock := { st.clock with seconds := st.clock.seconds + adjustment }
      scenes := scenes }

/-- `checkForDST`; nothing if it writes behind an array -/
def checkForDST (st : State) (curTime : DateStruct) (garbage : ℕ → Garbage) : Option State :=
  if st.ram.systemProperties.useDaylightSaving ≠ 0 then
    if st.ram.inDST = false ∧ isItDST st.ram.inDST curTime = true then
      st.adjust (st.ram.setDST true) 3600 garbage
    else if st.ram.inDST = true ∧ isItDST st.ram.inDST curTime = false then
      st.adjust (st.ram.setDST false) (-3600) garbage
    else some st
  else if st.ram.inDST = true then st.adjust (st.ram.setDST false) (-3600) garbage
  else some st

/-- `HandleMinuteChange`, as far as it checks for daylight saving time -/
def handleMinuteChange (st : State) (garbage : ℕ → Garbage) : Option State :=
  checkForDST st (timeToDate st.clock) garbage

/-- `TimeZone` is set, in `HandleIndividualSystemProperty`. -/
def setTimeZone (st : State) (gmtOffsetSeconds : Dword) (garbage : ℕ → Garbage) : Option State :=
  let diffOffset := st.ram.systemProperties.gmtOffsetSeconds - gmtOffsetSeconds
  st.adjust (st.ram.setTimeZone gmtOffsetSeconds) (-diffOffset) garbage

/-- The state with `useDaylightSaving` set. -/
def State.setUseDaylightSaving (st : State) (value : Bool) : State :=
  { st with
    ram := { st.ram with
      systemProperties :=
        { st.ram.systemProperties with useDaylightSaving := if value then 1 else 0 } } }

/-- `DaylightSavingTime` is set, in `HandleIndividualSystemProperty`. -/
def setDaylightSavingTime (st : State) (value : Bool) (garbage : ℕ → Garbage) : Option State :=
  let st := st.setUseDaylightSaving value
  checkForDST st (timeToDate st.clock) garbage

/-- What happens. -/
inductive Event
  /-- Time passes, or the clock is set. -/
  | setClock (clock : TimeStruct)
  /-- Something happens to the scenes. -/
  | scenes (e : Kind.Event SceneProperties)
  /-- `InitializeSystemProperties` is called. -/
  | initializeSystemProperties
  /-- `LoadSystemPropertiesFromFlash` is called, with any flash. -/
  | loadSystemPropertiesFromFlash (m : Memory)
  /-- The minute changes. -/
  | minuteChange (garbage : ℕ → Garbage)
  /-- The time zone is set. -/
  | setTimeZone (gmtOffsetSeconds : Dword) (garbage : ℕ → Garbage)
  /-- Daylight saving time is enabled or disabled. -/
  | setDaylightSavingTime (value : Bool) (garbage : ℕ → Garbage)

/-- The state after an event; nothing if it writes behind an array. -/
def result (st : State) : Event → Option State
  | .setClock clock => some { st with clock := clock }
  | .scenes e => some { st with scenes := scenes.next st.scenes e }
  | .initializeSystemProperties =>
    some { st with ram := System.initializeSystemProperties st.ram }
  | .loadSystemPropertiesFromFlash m => some { st with ram := loaded m st.ram }
  | .minuteChange garbage => handleMinuteChange st garbage
  | .setTimeZone gmtOffsetSeconds garbage => setTimeZone st gmtOffsetSeconds garbage
  | .setDaylightSavingTime value garbage => setDaylightSavingTime st value garbage

/-- The system from its start on, with the data erased; nothing is said about what comes after a
write behind an array. -/
def clock : Machine State Event where
  init st := ∃ m time,
    st = ⟨System.initializeSystemProperties startRam, time, Scenes.scenes.start m⟩
  step st e := some ((result st e).getD st)

/-- By what a transition into the given state changes the clock. -/
def State.change (st : State) : Dword := if st.ram.inDST then 3600 else -3600

/-- **A transition**: the clock and all triggers that depend on the sun change by the same amount,
the time in UTC stays the same, and a check for the local time that the clock then shows makes no
other transition. -/
structure Transition (st st' : State) : Prop where
  /-- The clock. -/
  clock : st'.clock.seconds = st.clock.seconds + st'.change
  /-- The time in UTC. -/
  utc : st'.clock.seconds - st'.ram.systemProperties.effectiveGmtOffsetSeconds =
    st.clock.seconds - st.ram.systemProperties.effectiveGmtOffsetSeconds
  /-- The triggers. -/
  triggers : ∀ i, scenes.getProperties st'.scenes i =
    (scenes.getProperties st.scenes i).map (adjusted st'.change)
  /-- The next check. -/
  again : ∀ garbage, checkForDST st' (timeToDate st'.clock) garbage = some st'

/-- A check returns, and if the flag is another one then, it made a transition. -/
def MakesTransition (st : State) (o : Option State) : Prop :=
  ∃ st', o = some st' ∧ (st'.ram.inDST ≠ st.ram.inDST → Transition st st')

/-- What is promised for an event. -/
def KeepsUTC (st : State) : Event → Prop
  | .minuteChange garbage => MakesTransition st (handleMinuteChange st garbage)
  | .setDaylightSavingTime value garbage =>
    MakesTransition st (setDaylightSavingTime st value garbage)
  | _ => True

/-- The flag is to be changed. -/
def FlagChanges (st : State) : Prop :=
  if st.ram.systemProperties.useDaylightSaving ≠ 0 then
    isItDST st.ram.inDST (timeToDate st.clock) ≠ st.ram.inDST
  else st.ram.inDST = true

/-- **The triggers can be adjusted** if they are to be adjusted, and scenes are only set if they
can be set. -/
def TriggersAdjustable (st : State) : Event → Prop
  | .scenes e => SlotUsable st.scenes e
  | .minuteChange _ => FlagChanges st → Adjustable st.scenes
  | .setTimeZone _ _ => Adjustable st.scenes
  | .setDaylightSavingTime value _ =>
    FlagChanges (st.setUseDaylightSaving value) → Adjustable st.scenes
  | _ => True

variable {st st' : State}

/-- The invariant. -/
structure Inv (st : State) : Prop where
  /-- The effective offset is that of the time of the year. -/
  offset : st.ram.OffsetOk
  /-- The scenes are stored. -/
  scenes : Scenes.scenes.Inv st.scenes

/-- The clock and the triggers are adjusted. -/
theorem Inv.adjust (h : Inv st) (hstored : Adjustable st.scenes) {ram : Ram} (hram : ram.OffsetOk)
    (adjustment : Dword) (garbage : ℕ → Garbage) :
    ∃ st', st.adjust ram adjustment garbage = some st' ∧ Inv st' ∧ st'.ram = ram ∧
      st'.clock = { st.clock with seconds := st.clock.seconds + adjustment } ∧
      ∀ i, Scenes.scenes.getProperties st'.scenes i =
        (Scenes.scenes.getProperties st.scenes i).map (adjusted adjustment) := by
  obtain ⟨scenes', hrun, hinv, hget⟩ := adjustTriggers_spec h.scenes hstored adjustment garbage
  refine ⟨⟨ram, { st.clock with seconds := st.clock.seconds + adjustment }, scenes'⟩, ?_,
    ⟨hram, hinv⟩, rfl, rfl, hget⟩
  rw [State.adjust, hrun]
  rfl

/-! ### One check -/

instance : Decidable (FlagChanges st) := by
  unfold FlagChanges
  infer_instance

/-- The change of the clock that goes with a change of the flag. -/
def State.nextChange (st : State) : Dword := if st.ram.inDST then -3600 else 3600

theorem flagChanges_iff (huse : st.ram.systemProperties.useDaylightSaving ≠ 0) :
    FlagChanges st ↔ isItDST st.ram.inDST (timeToDate st.clock) ≠ st.ram.inDST := by
  rw [FlagChanges, if_pos huse]

theorem flagChanges_iff_of_zero (huse : ¬ st.ram.systemProperties.useDaylightSaving ≠ 0) :
    FlagChanges st ↔ st.ram.inDST = true := by
  rw [FlagChanges, if_neg huse]

theorem nextChange_of_false (h : st.ram.inDST = false) : st.nextChange = 3600 := by
  rw [State.nextChange, h, if_neg Bool.false_ne_true]

theorem nextChange_of_true (h : st.ram.inDST = true) : st.nextChange = -3600 := by
  rw [State.nextChange, h, if_pos rfl]

/-- What a check for the local time does. -/
theorem checkForDST_eq (st : State) (garbage : ℕ → Garbage) :
    checkForDST st (timeToDate st.clock) garbage =
      if FlagChanges st then st.adjust (st.ram.setDST (!st.ram.inDST)) st.nextChange garbage
      else some st := by
  unfold checkForDST
  by_cases huse : st.ram.systemProperties.useDaylightSaving ≠ 0
  · rw [if_pos huse, if_congr (flagChanges_iff huse) rfl rfl]
    cases hflag : st.ram.inDST with
    | false =>
      rw [nextChange_of_false hflag, Bool.not_false]
      by_cases hdst : isItDST false (timeToDate st.clock) = true
      · rw [if_pos ⟨rfl, hdst⟩, if_pos (by rw [hdst]; decide)]
      · rw [if_neg fun h => hdst h.2, if_neg fun h => Bool.false_ne_true h.1,
          if_neg fun h => h (eq_false_of_ne_true hdst)]
    | true =>
      rw [nextChange_of_true hflag, Bool.not_true, if_neg fun h => Bool.false_ne_true h.1.symm]
      by_cases hdst : isItDST true (timeToDate st.clock) = false
      · rw [if_pos ⟨rfl, hdst⟩, if_pos (by rw [hdst]; decide)]
      · rw [if_neg fun h => hdst h.2, if_neg fun h => h (eq_true_of_ne_false hdst)]
  · rw [if_neg huse, if_congr (flagChanges_iff_of_zero huse) rfl rfl]
    by_cases hflag : st.ram.inDST = true
    · rw [if_pos hflag, if_pos hflag, nextChange_of_true hflag, hflag, Bool.not_true]
    · rw [if_neg hflag, if_neg hflag]

/-- The time in UTC is the same when the clock and the effective offset change together. -/
theorem utc_nextChange (h : st.ram.OffsetOk) :
    st.clock.seconds + st.nextChange -
        (st.ram.setDST (!st.ram.inDST)).systemProperties.effectiveGmtOffsetSeconds =
      st.clock.seconds - st.ram.systemProperties.effectiveGmtOffsetSeconds := by
  have h : st.ram.systemProperties.effectiveGmtOffsetSeconds =
    st.ram.systemProperties.gmtOffsetSeconds + if st.ram.inDST then 3600 else 0 := h
  rw [h]
  simp only [Ram.setDST]
  cases hflag : st.ram.inDST with
  | false =>
    rw [nextChange_of_false hflag, Bool.not_false, if_pos rfl, if_neg Bool.false_ne_true]
    bv_omega
  | true =>
    rw [nextChange_of_true hflag, Bool.not_true, if_neg Bool.false_ne_true, if_pos rfl]
    bv_omega

/-- A transition does not lead to another one. -/
theorem FlagChanges.not_again (h : FlagChanges st) (hram : st'.ram = st.ram.setDST (!st.ram.inDST))
    (hclock : st'.clock = { st.clock with seconds := st.clock.seconds + st.nextChange }) :
    ¬ FlagChanges st' := by
  have hflag : st'.ram.inDST = !st.ram.inDST := by rw [hram]; rfl
  have hsame : st'.ram.systemProperties.useDaylightSaving =
    st.ram.systemProperties.useDaylightSaving := by rw [hram]; rfl
  by_cases huse : st.ram.systemProperties.useDaylightSaving ≠ 0
  · rw [flagChanges_iff huse] at h
    rw [flagChanges_iff (hsame ▸ huse), not_not, hflag, hclock]
    cases hdst : st.ram.inDST with
    | false =>
      rw [hdst] at h
      rw [nextChange_of_false hdst, Bool.not_false]
      exact isItDST_add_hour (eq_true_of_ne_false h)
    | true =>
      rw [hdst] at h
      rw [nextChange_of_true hdst, Bool.not_true]
      exact isItDST_sub_hour (eq_false_of_ne_true h)
  · rw [flagChanges_iff_of_zero huse] at h
    rw [flagChanges_iff_of_zero (hsame ▸ huse), hflag, h]
    decide

/-- **A check** for the local time makes a transition if the flag is to be changed, and otherwise
changes nothing. -/
theorem checkForDST_spec (h : Inv st) (hstored : FlagChanges st → Adjustable st.scenes)
    (garbage : ℕ → Garbage) :
    ∃ st', checkForDST st (timeToDate st.clock) garbage = some st' ∧ Inv st' ∧
      (st'.ram.inDST ≠ st.ram.inDST → Transition st st') := by
  rw [checkForDST_eq]
  by_cases hchanges : FlagChanges st
  · rw [if_pos hchanges]
    obtain ⟨st', hrun, hinv, hram, hclock, hget⟩ := h.adjust (hstored hchanges)
      (st.ram.offsetOk_setDST (!st.ram.inDST)) st.nextChange garbage
    have hagain := hchanges.not_again hram hclock
    have hchange : st'.change = st.nextChange := by
      rw [State.change, State.nextChange, hram]
      cases hflag : st.ram.inDST <;> simp [Ram.setDST]
    refine ⟨st', hrun, hinv, fun _ => ⟨?_, ?_, ?_, fun garbage => ?_⟩⟩
    · rw [hclock, hchange]
    · rw [hclock, hram]
      exact utc_nextChange h.offset
    · rw [hchange]
      exact hget
    · rw [checkForDST_eq, if_neg hagain]
  · rw [if_neg hchanges]
    exact ⟨st, rfl, h, fun hne => absurd rfl hne⟩

/-! ### Runs -/

theorem offsetOk_loaded {ram : Ram} (h : ram.OffsetOk) (m : Memory) : (loaded m ram).OffsetOk := by
  unfold loaded
  split
  · exact loadBlock_inDST _ _
  · exact h

theorem inv_start (m : Memory) (time : TimeStruct) :
    Inv ⟨System.initializeSystemProperties startRam, time, Scenes.scenes.start m⟩ :=
  ⟨rfl, _, _, Kind.holds_clearFlash scenes_fits _⟩

/-- Every event keeps the invariant and its promise. -/
theorem Inv.result (h : Inv st) (e : Event) (he : TriggersAdjustable st e) :
    ∃ st', result st e = some st' ∧ Inv st' ∧ KeepsUTC st e := by
  cases e with
  | setClock time => exact ⟨_, rfl, ⟨h.offset, h.scenes⟩, trivial⟩
  | scenes e =>
    exact ⟨_, rfl, ⟨h.offset, h.scenes.next scenes_fits e ((usableFor_iff _ e).2 he)⟩, trivial⟩
  | initializeSystemProperties => exact ⟨_, rfl, ⟨rfl, h.scenes⟩, trivial⟩
  | loadSystemPropertiesFromFlash m =>
    exact ⟨_, rfl, ⟨offsetOk_loaded h.offset m, h.scenes⟩, trivial⟩
  | minuteChange garbage =>
    obtain ⟨st', hrun, hinv, htransition⟩ := checkForDST_spec h he garbage
    exact ⟨st', hrun, hinv, st', hrun, htransition⟩
  | setTimeZone gmtOffsetSeconds garbage =>
    obtain ⟨st', hrun, hinv, -⟩ := h.adjust he (Ram.OffsetOk.setTimeZone h.offset gmtOffsetSeconds)
      (-(st.ram.systemProperties.gmtOffsetSeconds - gmtOffsetSeconds)) garbage
    exact ⟨st', hrun, hinv, trivial⟩
  | setDaylightSavingTime value garbage =>
    have hset : Inv (st.setUseDaylightSaving value) := ⟨h.offset, h.scenes⟩
    obtain ⟨st', hrun, hinv, htransition⟩ := checkForDST_spec hset he garbage
    refine ⟨st', hrun, hinv, st', hrun, fun hne => ?_⟩
    obtain ⟨hclock, hutc, htriggers, hagain⟩ := htransition hne
    exact ⟨hclock, hutc, htriggers, hagain⟩

/-- **The local clock**: in every run whose steps can adjust the triggers, the effective offset
always is the offset, plus an hour if the flag is set, and every transition changes the clock and
all triggers that depend on the sun by the same amount, keeps the time in UTC, and is not followed
by another one. -/
theorem allSteps_keepsUTC (st : State) (hst : clock.init st) (es : List Event)
    (h : clock.AllSteps TriggersAdjustable st es) :
    clock.AllStates (fun st => st.ram.OffsetOk) st es ∧ clock.AllSteps KeepsUTC st es := by
  have hstep : ∀ s e s', Inv s → TriggersAdjustable s e → clock.step s e = some s' → Inv s' := by
    intro s e s' hs he hnext
    obtain ⟨t, ht, hinv, -⟩ := hs.result e he
    obtain rfl := Option.some.inj hnext
    rwa [ht]
  have hstart : Inv st := by
    obtain ⟨m, time, rfl⟩ := hst
    exact inv_start m time
  refine ⟨(Machine.allStates_of_allSteps hstep hstart h).imp fun _ hs => hs.offset, ?_⟩
  refine Machine.allSteps_of_allSteps hstep (fun s e s' hs he _ => ?_) hstart h
  obtain ⟨t, -, -, hkeeps⟩ := hs.result e he
  exact hkeeps

/-! ### The first scene -/

/-- A scene that is triggered at sunrise, without an id for the cloud. -/
def sunriseScene : SceneProperties :=
  { exampleScene with trigger := SUNRISE, fits := exampleScene.zones_fit }

/-- The same with an id. -/
def cloudScene : SceneProperties :=
  { sunriseScene with EliotDeviceId := ⟨[0x41], exampleName_noNul, by decide⟩ }

/-- The first of July 2015. -/
def july : TimeStruct := ⟨1435708800, 0⟩

/-- What is in the variables. -/
def zeroGarbage : Garbage := ⟨fun _ => 0, fun _ => 0, fun _ => 0, fun _ => 0⟩

/-- The state after the first scene is set. -/
def firstScene (p : SceneProperties) : Store.State Byte :=
  scenes.next (scenes.start fun _ => 0) (.set 0 p zeroGarbage)

theorem usable_first (p : SceneProperties) : scenes.Usable (scenes.start fun _ => 0) 0 p := by
  have hstart : scenes.Holds (scenes.start fun _ => 0) (fun _ => none) fun _ => none :=
    Kind.holds_clearFlash scenes_fits _
  have hrange : scenes.eliotRegion.InRange 0 := eliotSceneRegion_inRange_iff.2 (by decide)
  exact (hstart.usable_iff_of_none scenes_fits (by decide) hrange rfl).2 fun _ => rfl

theorem firstScene_spec {p : SceneProperties} (hnamed : p.SceneNameString.chars ≠ []) :
    ∃ values ids, scenes.Holds (firstScene p) values ids ∧
      (ids 0).getD (CString.empty (by decide)) = p.EliotDeviceId ∧
      ∀ i q, scenes.getProperties (firstScene p) i = some q ↔ i = 0 ∧ q = p := by
  have hstart : scenes.Holds (scenes.start fun _ => 0) (fun _ => none) fun _ => none :=
    Kind.holds_clearFlash scenes_fits _
  have hi : 0 < scenes.maxNumber := by decide
  have hnamed : scenes.codec.named (scenes.nonvolatile p) = true := decide_eq_true hnamed
  obtain ⟨st, ids, hset, hholds, hother, hid, hvolatile⟩ :=
    hstart.set scenes_fits hi (usable_first p) zeroGarbage
  have hget := Kind.getProperties_update scenes_fits hstart hi hholds hother
    (fun hnamed => hid (.inl hnamed)) hvolatile
  have hfirst : firstScene p = st := by rw [firstScene, Kind.next, hset]; rfl
  rw [hfirst]
  refine ⟨_, ids, hholds, hid (.inl hnamed), fun i q => ?_⟩
  rw [hget]
  by_cases hzero : i = 0
  · subst hzero
    rw [Function.update_self, Kind.stored, if_pos hnamed]
    exact ⟨fun h => ⟨rfl, (Option.some.inj h).symm⟩, fun h => h.2 ▸ rfl⟩
  · have hnone : scenes.getProperties (scenes.start fun _ => 0) i = none := by
      by_cases hlt : i < scenes.maxNumber
      · rw [hstart.getProperties scenes_fits hlt]
        rfl
      · exact Kind.getProperties_of_le hlt
    rw [Function.update_of_ne hzero, hnone]
    exact ⟨fun h => (by cases h), fun h => absurd h.1 hzero⟩

/-- Nothing is stored for a scene without an id. -/
theorem not_idStored_firstScene {p : SceneProperties} (hnamed : p.SceneNameString.chars ≠ [])
    (hempty : p.EliotDeviceId.chars = []) : ¬ IdStored (firstScene p) 0 p := by
  obtain ⟨values, ids, hholds, hid, -⟩ := firstScene_spec hnamed
  refine not_idStored hholds ?_
  cases hslot : ids 0 with
  | none => rfl
  | some id =>
    have hidNamed := hholds.eliotModels.named hslot
    rw [hslot, Option.getD_some] at hid
    rw [hid] at hidNamed
    exact absurd hempty (of_decide_eq_true hidNamed)

/-- The state before and after the first scene is set. -/
def julyState (scenes : Store.State Byte) : State :=
  ⟨System.initializeSystemProperties startRam, july, scenes⟩

@[simp] theorem julyState_scenes (scenes : Store.State Byte) :
    (julyState scenes).scenes = scenes := rfl

theorem flagChanges_july (scenes : Store.State Byte) : FlagChanges (julyState scenes) := by
  refine (flagChanges_iff (show (1 : Byte) ≠ 0 by decide)).2 ?_
  show isItDST false (timeToDate july) ≠ false
  decide +kernel

theorem step_firstScene (p : SceneProperties) :
    clock.step (julyState (Scenes.scenes.start fun _ => 0)) (.scenes (.set 0 p zeroGarbage)) =
      some (julyState (firstScene p)) := rfl

/-- With an id, the trigger of the scene is adjusted when daylight saving time begins. -/
theorem allSteps_keepsUTC_cloudScene :
    clock.AllStates (fun st => st.ram.OffsetOk) (julyState (Scenes.scenes.start fun _ => 0))
        [.scenes (.set 0 cloudScene zeroGarbage), .minuteChange fun _ => zeroGarbage] ∧
      clock.AllSteps KeepsUTC (julyState (Scenes.scenes.start fun _ => 0))
        [.scenes (.set 0 cloudScene zeroGarbage), .minuteChange fun _ => zeroGarbage] := by
  refine allSteps_keepsUTC _ ⟨_, _, rfl⟩ _
    (.cons (step_firstScene cloudScene) ?_ (.cons rfl ?_ trivial))
  · exact (usableFor_iff _ (.set 0 cloudScene zeroGarbage)).1 fun _ => usable_first cloudScene
  · intro _ i p hp _
    obtain ⟨-, -, -, -, hget⟩ := firstScene_spec (p := cloudScene) (by decide)
    rw [julyState_scenes] at hp ⊢
    obtain ⟨rfl, rfl⟩ := (hget i p).1 hp
    have hid : IdStored (firstScene cloudScene) 0 cloudScene := by
      unfold IdStored
      decide +kernel
    exact hid

/-- **A scene without an id** is not adjusted when daylight saving time begins. -/
theorem not_allSteps_keepsUTC :
    ¬ clock.AllSteps KeepsUTC (julyState (Scenes.scenes.start fun _ => 0))
      [.scenes (.set 0 sunriseScene zeroGarbage), .minuteChange fun _ => zeroGarbage] := by
  intro h
  have hnone : adjustTriggers 3600 (fun _ => zeroGarbage) (firstScene sunriseScene) = none := by
    obtain ⟨values, ids, hholds, -, hget⟩ := firstScene_spec (p := sunriseScene) (by decide)
    have hrange : List.range scenes.maxNumber = 0 :: (List.range scenes.maxNumber).tail := rfl
    rw [adjustTriggers, hrange, List.foldlM_cons, adjustTrigger_eq_none hholds
      ((hget 0 sunriseScene).2 ⟨rfl, rfl⟩) (by decide) (by decide)
      (not_idStored_firstScene (by decide) rfl)]
    rfl
  obtain ⟨-, h⟩ := h _ (step_firstScene sunriseScene)
  obtain ⟨⟨st', hrun, -⟩, -⟩ := h _ rfl
  have hcheck := checkForDST_eq (julyState (firstScene sunriseScene)) fun _ => zeroGarbage
  rw [if_pos (flagChanges_july _), nextChange_of_false rfl] at hcheck
  have hadjust : ∀ ram, State.adjust (julyState (firstScene sunriseScene)) ram 3600
      (fun _ => zeroGarbage) = none := by
    intro ram
    rw [State.adjust, julyState_scenes, hnone]
    rfl
  exact absurd (hrun.symm.trans (hcheck.trans (hadjust _))) (Option.some_ne_none st')

end Schedule

end Lcm
