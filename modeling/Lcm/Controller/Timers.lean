import Lcm.Controller.Passes
import Lcm.Polling

/-!
# The timers of the event controller

The other tasks ask for something by setting a timer: for the system properties to be saved, for a
check for updates, for a restart.  It is done in the first round by which the time has passed since
the timer was last set, and in no other, however the settings and the rounds follow each other; a
factory reset asks for a restart, too.

## Main definitions

* `Alarm` : a timer, with what is done when its time is over.
* `Alarm.history` : when it was set, and the time that has passed.

## Main results

* `timer_eq` : the timer is what a countdown with its history is.
* `action_iff_due` : what is asked for is done exactly when it is due.
-/

namespace Lcm

namespace Controller

open Polling

variable {s s' : State} {es : List Event} {e : Event} {i : Inputs}

/-! ### Rounds of a run -/

/-- A round that does not come to the restart. -/
def Stays (s : State) (i : Inputs) : Prop :=
  s.restarting = false ∧ expired s.timers.restartSystemTimer i.tickCount = false

instance instDecidableStays (s : State) (i : Inputs) : Decidable (Stays s i) :=
  inferInstanceAs (Decidable (_ ∧ _))

theorem step_eq (h : controller.step s e = some s') :
    s.restarting = false ∧ s' = stepState s e := by
  simp only [controller] at h
  split at h
  · cases h
  · rename_i hs
    exact ⟨Bool.eq_false_iff.2 hs, (Option.some.inj h).symm⟩

/-- A run ends with a step from a state that does not restart. -/
theorem exists_of_run_append {s₀ : State} (h : controller.run s₀ (es ++ [e]) = some s') :
    ∃ s, controller.run s₀ es = some s ∧ s.restarting = false ∧ s' = stepState s e := by
  rw [Machine.run_append] at h
  obtain ⟨s, hs, hstep⟩ := Option.bind_eq_some_iff.1 h
  obtain ⟨t, ht, hend⟩ := Option.bind_eq_some_iff.1 hstep
  cases hend
  obtain ⟨hrestarting, ht⟩ := step_eq ht
  exact ⟨s, hs, hrestarting, ht⟩

theorem expired_zero {w : ℕ} (timer : BitVec w) : expired timer 0 = false := by
  rw [Bool.eq_false_iff, Ne, expired_iff]
  simp

/-- The state after a round. -/
theorem value_pass (htick : i.tickCount ≠ 0) (h : Stays s i) :
    (pass i s).value = (passRest i (countedDown i s)).value := by
  rw [pass, if_neg htick, value_passTimed, h.1, h.2]
  rfl

/-- The state after a round with the restart. -/
theorem value_pass_restart (h : expired s.timers.restartSystemTimer i.tickCount = true) :
    (pass i s).value = countedDown i s := by
  have htick : i.tickCount ≠ 0 := by
    intro h0
    rw [h0, expired_zero] at h
    cases h
  rw [pass, if_neg htick, value_passTimed, h]
  rfl

theorem mem_actions {a : Action} (ha : a.isOutput = false) :
    a ∈ actions s (.pass i) ↔ i.tickCount ≠ 0 ∧ a ∈ effects (passTimed i s) := by
  rw [actions, pass]
  by_cases htick : i.tickCount = 0
  · simp [htick]
  · rw [if_neg htick, mem_effects ha]
    exact (and_iff_right htick).symm

/-- The flash is cleared. -/
theorem clearFlash_iff (hs : s.restarting = false) :
    .HandleClearFlash ∈ actions s (.pass i) ↔
      i.tickCount ≠ 0 ∧ Stays s i ∧ clearsFlash i s.buttons = true := by
  rw [mem_actions rfl, effects_passTimed]
  refine and_congr_right fun _ => ?_
  rw [effects_passRest]
  have hbuttons : (countedDown i s).buttons = s.buttons := rfl
  by_cases hexpired : expired s.timers.restartSystemTimer i.tickCount = true
  · simp [Stays, hexpired, hs]
  · by_cases hmtm : i.manufacturingTestModeFlag = true
    · simp [Stays, hexpired, hs, hmtm, clearsFlash]
    · simp [Stays, hexpired, hs, hmtm, hbuttons]

/-- The user key is cleared. -/
theorem clearUserKey_iff (hs : s.restarting = false) :
    .JSA_ClearUserKeyInFlash ∈ actions s (.pass i) ↔
      i.tickCount ≠ 0 ∧ Stays s i ∧ clearsUserKey i s.buttons = true := by
  rw [mem_actions rfl, effects_passTimed]
  refine and_congr_right fun _ => ?_
  rw [effects_passRest]
  have hbuttons : (countedDown i s).buttons = s.buttons := rfl
  by_cases hexpired : expired s.timers.restartSystemTimer i.tickCount = true
  · simp [Stays, hexpired, hs]
  · by_cases hmtm : i.manufacturingTestModeFlag = true
    · simp [Stays, hexpired, hs, hmtm, clearsUserKey]
    · simp [Stays, hexpired, hs, hmtm, hbuttons]

/-! ### The alarms -/

/-- A timer with which the other tasks ask for something. -/
inductive Alarm
  | flashSave
  | checkForUpdates
  | restartSystem
  deriving DecidableEq

namespace Alarm

/-- The timer. -/
def name : Alarm → TimerName
  | .flashSave => .flashSaveTimer
  | .checkForUpdates => .checkForUpdatesTimer
  | .restartSystem => .restartSystemTimer

/-- Its value. -/
def timer : Alarm → State → ℕ
  | .flashSave, s => s.timers.flashSaveTimer.toNat
  | .checkForUpdates, s => s.timers.checkForUpdatesTimer.toNat
  | .restartSystem, s => s.timers.restartSystemTimer.toNat

/-- What it is set to: two of the timers have 16 bits. -/
def kept : Alarm → Dword → ℕ
  | .flashSave, value => (value.setWidth 16).toNat
  | .checkForUpdates, value => value.toNat
  | .restartSystem, value => (value.setWidth 16).toNat

/-- What is asked for. -/
def action : Alarm → Action
  | .flashSave => .SaveSystemPropertiesToFlash
  | .checkForUpdates => .SendUpdateCommand
  | .restartSystem => .restart

/-- What an event does to the timer; a factory reset sets the one for the restart. -/
def events (a : Alarm) (s : State) : Event → List TimerEvent
  | .pass i =>
    if i.tickCount = 0 then []
    else .tick i.tickCount.toNat ::
      if a = .restartSystem ∧ .HandleClearFlash ∈ actions s (.pass i) then [.set 1000] else []
  | .setTimer timer value => if timer = a.name then [.set (a.kept value)] else []
  | _ => []

/-- What has happened to the timer in a run; at the beginning it has been set to its first value. -/
def history (a : Alarm) (s : State) (es : List Event) : List TimerEvent :=
  .set (a.timer s) :: controller.trace a.events s es

end Alarm

variable {a : Alarm}

/-- A round takes the time that has passed off the timer. -/
theorem timer_pass (hs : s.restarting = false) :
    a.timer (pass i s).value = (a.events s (.pass i)).foldl timerStep (a.timer s) := by
  by_cases htick : i.tickCount = 0#32
  · simp [Alarm.events, pass, htick]
  · -- a restart comes before the buttons, and so no factory reset sets the timer then
    by_cases hexpired : expired s.timers.restartSystemTimer i.tickCount = true
    · have hclear : .HandleClearFlash ∉ actions s (.pass i) := by
        rw [clearFlash_iff hs]
        intro h
        rw [h.2.1.2] at hexpired
        cases hexpired
      rw [value_pass_restart hexpired]
      cases a <;>
        simp [Alarm.events, htick, hclear, Alarm.timer, countedDown, toNat_countdown, timerStep]
    · have hstays : Stays s i := ⟨hs, Bool.eq_false_iff.2 hexpired⟩
      have hclear : .HandleClearFlash ∈ actions s (.pass i) ↔ clearsFlash i s.buttons = true := by
        rw [clearFlash_iff hs]
        simp [htick, hstays]
      rw [value_pass htick hstays, value_passRest]
      cases a with
      | flashSave =>
        simp [Alarm.events, htick, Alarm.timer, countedDown, toNat_countdown, timerStep]
      | checkForUpdates =>
        simp [Alarm.events, htick, Alarm.timer, countedDown, toNat_countdown, timerStep]
      | restartSystem =>
        by_cases hflash : clearsFlash i s.buttons = true
        · simp [Alarm.events, htick, hclear, hflash, Alarm.timer, countedDown, timerStep]
        · simp [Alarm.events, htick, hclear, hflash, Alarm.timer, countedDown, toNat_countdown,
            timerStep]

/-- **One event**: it does to the timer what it does to a countdown. -/
theorem timer_stepState (hs : s.restarting = false) (e : Event) :
    a.timer (stepState s e) = (a.events s e).foldl timerStep (a.timer s) := by
  cases e with
  | pass i => exact timer_pass hs
  | setTimer timer value =>
    cases a <;> cases timer <;> rfl
  | countTask i => cases a <;> rfl
  | heartbeat bits => cases a <;> rfl
  | resetSocket => cases a <;> rfl
  | setLed1GreenDefaultState on => cases a <;> rfl

/-- **The timer after a run** is what a countdown with its history is. -/
theorem timer_eq {s₀ : State} (h : controller.run s₀ es = some s) :
    a.timer s = timerAfter (a.history s₀ es) := by
  have hrun : a.timer s = (controller.trace a.events s₀ es).foldl timerStep (a.timer s₀) := by
    induction es generalizing s₀ with
    | nil =>
      cases h
      rfl
    | cons e es ih =>
      obtain ⟨t, ht, h⟩ := Option.bind_eq_some_iff.1 h
      obtain ⟨hs, ht'⟩ := step_eq ht
      rw [ih h, Machine.trace, ht, Option.elim_some, List.foldl_append, ← timer_stepState hs, ht']
  exact hrun

/-- **What is asked for is done exactly when it is due**: in the first round by which the time has
passed since the timer was last set. -/
theorem action_iff_due {s₀ : State} (h : controller.run s₀ es = some s) :
    a.action ∈ actions s (.pass i) ↔ Due (a.history s₀ es) i.tickCount.toNat := by
  have htick : ∀ timer : ℕ, timer ≠ 0 ∧ timer ≤ i.tickCount.toNat → i.tickCount ≠ 0 := by
    rintro timer ⟨hne, hle⟩ h0
    rw [h0] at hle
    exact hne (Nat.le_zero.1 hle)
  -- the rest of the round does none of the three
  have hrest : ∀ a : Alarm, a.action ∉ effects (passRest i (countedDown i s)) := by
    intro a
    rw [effects_passRest]
    by_cases hmtm : i.manufacturingTestModeFlag = true
    · cases a <;> simp [hmtm, Alarm.action]
    · cases a <;> simp [hmtm, Alarm.action]
  rw [← expires_iff_due, ← timer_eq h, mem_actions (by cases a <;> rfl), effects_passTimed]
  rw [← and_iff_right_of_imp (htick (a.timer s))]
  refine and_congr_right fun _ => ?_
  have hnot := hrest a
  cases a with
  | flashSave =>
    simp only [Alarm.action] at hnot
    rw [Alarm.timer, ← expired_iff]
    simp [Alarm.action, hnot]
  | checkForUpdates =>
    simp only [Alarm.action] at hnot
    rw [Alarm.timer, ← expired_iff]
    simp [Alarm.action, hnot]
  | restartSystem =>
    simp only [Alarm.action] at hnot
    rw [Alarm.timer, ← expired_iff]
    simp [Alarm.action, hnot]

/-- The first check for updates. -/
theorem action_iff_due_checkForUpdates :
    .SendUpdateCommand ∈ actions (State.initial 0 true true)
      (.pass ⟨90000, false, true, true, true, 0⟩) := by
  have hrun : controller.run (State.initial 0 true true) [] = some (State.initial 0 true true) :=
    rfl
  exact (action_iff_due (a := .checkForUpdates) hrun).2
    ⟨[], 90000, [], rfl, by decide, by decide⟩

end Controller

end Lcm
