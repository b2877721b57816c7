import Lcm.Controller.Loop
import Mathlib.Order.Fin.Basic

/-!
# What a round of the event controller does

Each block of the loop is described once: the state after it, and what it does apart from the
outputs of LEDs.  The rounds are put together of these descriptions.

## Main definitions

* `effects` : what is done apart from the outputs.
* `expired` : the time of a countdown is over in this round.

## Main results

* `value_passTimed`, `effects_passTimed` : a round, block by block.
-/

namespace Lcm

namespace Controller

variable {α β : Type} {w : ℕ} {i : Inputs} {s : State}

/-! ### Countdowns -/

/-- The time is over in this round. -/
def expired (timer : BitVec w) (tickCount : Dword) : Bool := (countdown timer tickCount).2

@[simp] theorem snd_countdown (timer : BitVec w) (tickCount : Dword) :
    (countdown timer tickCount).2 = expired timer tickCount := rfl

theorem expired_eq (timer : BitVec w) (tickCount : Dword) :
    expired timer tickCount = decide (timer.toNat ≠ 0 ∧ timer.toNat ≤ tickCount.toNat) := by
  simp only [expired, countdown]
  by_cases hzero : timer = 0
  · simp [hzero]
  · have hne : timer.toNat ≠ 0 := fun h => hzero (BitVec.eq_of_toNat_eq (by simpa using h))
    rw [if_neg hzero]
    by_cases hlt : tickCount.toNat < timer.toNat
    · simp [hlt]
    · rw [if_neg hlt]
      simpa [hne] using hlt

theorem expired_iff (timer : BitVec w) (tickCount : Dword) :
    expired timer tickCount = true ↔ timer.toNat ≠ 0 ∧ timer.toNat ≤ tickCount.toNat := by
  rw [expired_eq, decide_eq_true_iff]

/-- What is left of a countdown. -/
theorem toNat_countdown (timer : BitVec w) (tickCount : Dword) :
    (countdown timer tickCount).1.toNat = timer.toNat - tickCount.toNat := by
  simp only [countdown]
  by_cases hzero : timer = 0
  · simp [hzero]
  · by_cases hlt : tickCount.toNat < timer.toNat
    · simp only [hzero, hlt, if_false, if_true]
      have hw : timer.toNat < 2 ^ w := timer.isLt
      have hfits : (tickCount.setWidth w).toNat = tickCount.toNat := by
        rw [BitVec.toNat_setWidth, Nat.mod_eq_of_lt (by omega)]
      rw [BitVec.toNat_sub_of_le (by rw [BitVec.le_def, hfits]; omega), hfits]
    · simp only [hzero, hlt, if_false]
      simp
      omega

/-! ### What is done apart from the outputs -/

/-- What is done apart from the outputs of LEDs. -/
def effects (x : Logged Action α) : List Action := x.log.filter fun a => !a.isOutput

@[simp] theorem effects_pure (a : α) : effects (pure a) = [] := rfl

@[simp] theorem effects_bind (x : Logged Action α) (f : α → Logged Action β) :
    effects (x >>= f) = effects x ++ effects (f x.value) := by
  simp [effects]

@[simp] theorem effects_map (f : α → β) (x : Logged Action α) :
    effects (f <$> x) = effects x := by
  simp [effects]

@[simp] theorem effects_touch (a : Action) :
    effects (.touch a) = if a.isOutput then [] else [a] := by
  cases h : a.isOutput with
  | false => simp [effects, h]
  | true => simp [effects, h]

@[simp] theorem effects_ite (p : Prop) [Decidable p] (x y : Logged Action α) :
    effects (if p then x else y) = if p then effects x else effects y := apply_ite ..

@[simp] theorem value_ite (p : Prop) [Decidable p] (x y : Logged Action α) :
    (if p then x else y).value = if p then x.value else y.value := apply_ite ..

theorem mem_effects {x : Logged Action α} {a : Action} (ha : a.isOutput = false) :
    a ∈ effects x ↔ a ∈ x.log := by
  simp [effects, ha]

theorem effects_foldlM_eq_nil {f : β → α → Logged Action β} (h : ∀ b a, effects (f b a) = [])
    (l : List α) (b : β) : effects (l.foldlM f b) = [] := by
  induction l generalizing b with
  | nil => rfl
  | cons a l ih => rw [List.foldlM_cons, effects_bind, h, ih, List.nil_append]

/-! ### The blocks -/

theorem value_handleResetSocketFlag :
    (handleResetSocketFlag s).value = { s with resetSocketFlag := false } := by
  obtain ⟨timers, watchdog, greenLed, blink, buttons, resetSocketFlag, _⟩ := s
  cases resetSocketFlag <;> rfl

theorem effects_handleResetSocketFlag :
    effects (handleResetSocketFlag s) = if s.resetSocketFlag then [.shutdown] else [] := by
  cases h : s.resetSocketFlag <;> simp [handleResetSocketFlag, h, Action.isOutput]

section Timers

variable (tickCount : Dword) (s : State)

theorem value_handleRefreshTokenTimer :
    (handleRefreshTokenTimer tickCount s).value =
      { s with
        timers := { s.timers with
          refreshTokenTimer := (countdown s.timers.refreshTokenTimer tickCount).1 }
        refreshTokenFlag := expired s.timers.refreshTokenTimer tickCount || s.refreshTokenFlag
        refreshTokenFailCount := if expired s.timers.refreshTokenTimer tickCount then 0
          else s.refreshTokenFailCount } := by
  simp only [handleRefreshTokenTimer, snd_countdown]
  by_cases h : expired s.timers.refreshTokenTimer tickCount = true <;> simp [h]

theorem effects_handleRefreshTokenTimer :
    effects (handleRefreshTokenTimer tickCount s) =
      if expired s.timers.refreshTokenTimer tickCount then [.setRefreshTokenFlag] else [] := by
  simp only [handleRefreshTokenTimer, snd_countdown]
  by_cases h : expired s.timers.refreshTokenTimer tickCount = true <;> simp [h, Action.isOutput]

theorem value_handleFlashSaveTimer :
    (handleFlashSaveTimer tickCount s).value =
      { s with timers := { s.timers with
          flashSaveTimer := (countdown s.timers.flashSaveTimer tickCount).1 } } := by
  simp only [handleFlashSaveTimer]
  split <;> rfl

theorem effects_handleFlashSaveTimer :
    effects (handleFlashSaveTimer tickCount s) =
      if expired s.timers.flashSaveTimer tickCount then [.SaveSystemPropertiesToFlash]
      else [] := by
  simp only [handleFlashSaveTimer, snd_countdown]
  by_cases h : expired s.timers.flashSaveTimer tickCount = true <;> simp [h, Action.isOutput]

theorem value_handleCheckForUpdatesTimer :
    (handleCheckForUpdatesTimer tickCount s).value =
      { s with timers := { s.timers with
          checkForUpdatesTimer := (countdown s.timers.checkForUpdatesTimer tickCount).1 } } := by
  simp only [handleCheckForUpdatesTimer]
  split <;> rfl

theorem effects_handleCheckForUpdatesTimer :
    effects (handleCheckForUpdatesTimer tickCount s) =
      if expired s.timers.checkForUpdatesTimer tickCount then [.SendUpdateCommand] else [] := by
  simp only [handleCheckForUpdatesTimer, snd_countdown]
  by_cases h : expired s.timers.checkForUpdatesTimer tickCount = true <;> simp [h, Action.isOutput]

/-- The tasks that are in use and have not made progress. -/
def stalled (w : Watchdog) (i : Fin numTasksPlusOne) : Bool :=
  w.taskCounters i ≠ 0 && w.previousTaskCounters i = w.taskCounters i

/-- What is remembered of the counters that are in use. -/
def remembered (w : Watchdog) (i : Fin numTasksPlusOne) : Dword :=
  if w.taskCounters i ≠ 0 then w.taskCounters i else w.previousTaskCounters i

theorem checkTaskCounter_eq (w : Watchdog) (i : Fin numTasksPlusOne) :
    checkTaskCounter w i =
      ⟨{ w with previousTaskCounters := Function.update w.previousTaskCounters i (remembered w i) },
        if stalled w i then [.reboot i] else []⟩ := by
  by_cases hzero : w.taskCounters i = 0#32
  · simp [checkTaskCounter, remembered, stalled, hzero, pure]
  · by_cases hsame : w.previousTaskCounters i = w.taskCounters i
    · refine Logged.ext ?_ ?_
      · simp [checkTaskCounter, remembered, hzero, hsame]
      · simp [checkTaskCounter, stalled, hzero, hsame]
    · refine Logged.ext ?_ ?_
      · simp [checkTaskCounter, remembered, hzero, hsame]
      · simp [checkTaskCounter, stalled, hzero, hsame]

/-- What is remembered of one task has no bearing on another. -/
theorem stalled_update (w : Watchdog) {i j : Fin numTasksPlusOne} (v : Dword) (hne : i ≠ j) :
    stalled { w with previousTaskCounters := Function.update w.previousTaskCounters j v } i =
      stalled w i := by
  simp [stalled, hne]

theorem remembered_update (w : Watchdog) {i j : Fin numTasksPlusOne} (v : Dword) (hne : i ≠ j) :
    remembered { w with previousTaskCounters := Function.update w.previousTaskCounters j v } i =
      remembered w i := by
  simp [remembered, hne]

/-- The loop over the tasks: each is looked at once, so what was remembered of it is from the check
before. -/
theorem foldlM_checkTaskCounter {l : List (Fin numTasksPlusOne)} (hl : l.Nodup) (w : Watchdog) :
    l.foldlM checkTaskCounter w =
      ⟨{ w with
          previousTaskCounters := fun i =>
            if i ∈ l then remembered w i else w.previousTaskCounters i },
        (l.filter (stalled w)).map .reboot⟩ := by
  induction l generalizing w with
  | nil => simp [pure]
  | cons j l ih =>
    obtain ⟨hj, hl⟩ := List.nodup_cons.1 hl
    have hne : ∀ i ∈ l, i ≠ j := fun i hi h => hj (h ▸ hi)
    rw [List.foldlM_cons, checkTaskCounter_eq]
    refine Logged.ext ?_ ?_
    · simp only [Logged.value_bind, ih hl]
      congr 1
      funext i
      by_cases hi : i ∈ l
      · simp [hi, remembered_update w _ (hne i hi)]
      · by_cases hij : i = j
        · subst hij
          simp [hi]
        · simp [hi, hij]
    · simp only [Logged.log_bind, ih hl, List.filter_cons]
      rw [List.filter_congr fun i hi => stalled_update w _ (hne i hi)]
      by_cases h : stalled w j = true <;> simp [h]

/-- What is kept of the tasks after a check. -/
def Watchdog.checked (w : Watchdog) : Watchdog := { w with previousTaskCounters := remembered w }

theorem value_handleCheckWatchdogCountersTimer :
    (handleCheckWatchdogCountersTimer tickCount s).value =
      { s with
        watchdog :=
          if expired s.timers.checkWatchdogCountersTimer tickCount then s.watchdog.checked
          else s.watchdog
        timers := { s.timers with
          checkWatchdogCountersTimer :=
            if expired s.timers.checkWatchdogCountersTimer tickCount then watchdogTime
            else (countdown s.timers.checkWatchdogCountersTimer tickCount).1 } } := by
  simp only [handleCheckWatchdogCountersTimer, snd_countdown]
  by_cases h : expired s.timers.checkWatchdogCountersTimer tickCount = true
  · simp [h, foldlM_checkTaskCounter (List.nodup_finRange _), Watchdog.checked]
  · simp [h]

theorem effects_handleCheckWatchdogCountersTimer :
    effects (handleCheckWatchdogCountersTimer tickCount s) =
      if expired s.timers.checkWatchdogCountersTimer tickCount then
        ((List.finRange numTasksPlusOne).filter (stalled s.watchdog)).map .reboot
      else [] := by
  simp only [handleCheckWatchdogCountersTimer, snd_countdown]
  by_cases h : expired s.timers.checkWatchdogCountersTimer tickCount = true
  · simp [h, foldlM_checkTaskCounter (List.nodup_finRange _), effects, Action.isOutput]
  · simp [h]

theorem value_handleRestartSystemTimer :
    (handleRestartSystemTimer tickCount s).value =
      { s with
        timers := { s.timers with
          restartSystemTimer := (countdown s.timers.restartSystemTimer tickCount).1 }
        greenLed := { s.greenLed with
          led1GreenDefaultState :=
            (expired s.timers.restartSystemTimer tickCount &&
              s.buttons.led1GreenFunction = led1GreenFunctionDefault) ||
              s.greenLed.led1GreenDefaultState }
        restarting := expired s.timers.restartSystemTimer tickCount || s.restarting } := by
  simp only [handleRestartSystemTimer, snd_countdown]
  by_cases h : expired s.timers.restartSystemTimer tickCount = true
  · by_cases hdefault : s.buttons.led1GreenFunction = led1GreenFunctionDefault <;>
      simp [h, hdefault]
  · simp [h]

theorem effects_handleRestartSystemTimer :
    effects (handleRestartSystemTimer tickCount s) =
      if expired s.timers.restartSystemTimer tickCount then [.restart] else [] := by
  simp only [handleRestartSystemTimer, snd_countdown]
  by_cases h : expired s.timers.restartSystemTimer tickCount = true
  · by_cases hdefault : s.buttons.led1GreenFunction = led1GreenFunctionDefault <;>
      simp [h, hdefault, Action.isOutput]
  · simp [h]

end Timers

section Rest

variable (tickCount : Dword) (s : State)

/-- What is left of the timer of the LED for the activity. -/
def jsonActivityLeft : Word :=
  if tickCount.toNat < s.timers.jsonActivityTimer.toNat then
    s.timers.jsonActivityTimer - tickCount.setWidth 16
  else s.timers.jsonActivityTimer

theorem value_handleJsonActivityTimer :
    (handleJsonActivityTimer tickCount s).value =
      { s with timers := { s.timers with jsonActivityTimer := jsonActivityLeft tickCount s } } := by
  simp only [handleJsonActivityTimer, jsonActivityLeft]
  split <;> rfl

theorem effects_handleJsonActivityTimer : effects (handleJsonActivityTimer tickCount s) = [] := by
  simp only [handleJsonActivityTimer]
  split <;> simp [Action.isOutput]

/-- An LED that blinks after a round. -/
def Blink.after (b : Blink) : Blink :=
  if b.BlinkDisplayFlag then
    if tickCount.toNat < b.BlinkDisplayTimer.toNat then
      { b with BlinkDisplayTimer := b.BlinkDisplayTimer - tickCount.setWidth 16 }
    else if b.BlinkDisplayLEDState then turnOff b else turnOn b
  else b

theorem value_handleBlinkDisplay (ledIndex : Fin 3) :
    (handleBlinkDisplay tickCount s ledIndex).value =
      { s with blink :=
          Function.update s.blink ledIndex ((s.blink ledIndex).after tickCount) } := by
  simp only [handleBlinkDisplay, Blink.after]
  by_cases hflag : (s.blink ledIndex).BlinkDisplayFlag = true
  · by_cases hlt : tickCount.toNat < (s.blink ledIndex).BlinkDisplayTimer.toNat
    · simp [hflag, hlt]
    · simp [hflag, hlt]
  · simp [hflag]

theorem effects_setBlinkingLed (led1GreenFunction : Dword) (on : Bool) (ledIndex : Fin 3) :
    effects (setBlinkingLed led1GreenFunction on ledIndex) = [] := by
  simp only [setBlinkingLed]
  split
  · simp [Action.isOutput]
  · split <;> simp [Action.isOutput]
  · simp

theorem effects_handleBlinkDisplay (ledIndex : Fin 3) :
    effects (handleBlinkDisplay tickCount s ledIndex) = [] := by
  simp only [handleBlinkDisplay]
  by_cases hflag : (s.blink ledIndex).BlinkDisplayFlag = true
  · by_cases hlt : tickCount.toNat < (s.blink ledIndex).BlinkDisplayTimer.toNat
    · simp [hflag, hlt]
    · simp [hflag, hlt, effects_setBlinkingLed]
  · simp [hflag]

/-- The loop over the LEDs: each is looked at once. -/
theorem value_foldlM_handleBlinkDisplay {l : List (Fin 3)} (hl : l.Nodup) :
    (l.foldlM (handleBlinkDisplay tickCount) s).value =
      { s with blink := fun ledIndex =>
          if ledIndex ∈ l then (s.blink ledIndex).after tickCount else s.blink ledIndex } := by
  induction l generalizing s with
  | nil => simp
  | cons j l ih =>
    obtain ⟨hj, hl⟩ := List.nodup_cons.1 hl
    rw [List.foldlM_cons, Logged.value_bind, value_handleBlinkDisplay, ih _ hl]
    congr 1
    funext i
    by_cases hij : i = j
    · subst hij
      simp [hj]
    · simp [hij]

variable (memGetFree : Dword)

/-- The value that the green LED is to show after `count`. -/
def greenCount (count : Dword) : Dword :=
  if s.buttons.led1GreenFunction = led1GreenFunctionFreeMemory then memGetFree / 10000
  else if s.buttons.led1GreenFunction = led1GreenFunctionTaskHeartbeatBitmask then
    s.greenLed.taskHeartbeatBitmask
  else count

/-- It is time for another value. -/
def refreshesGreen : Bool :=
  s.buttons.led1GreenFunction ≠ led1GreenFunctionDefault &&
    s.greenLed.led1GreenUpdateTimer.toNat ≤ tickCount.toNat

/-- What is kept of the green LED after a round. -/
def greenLedAfter : GreenLed :=
  if s.buttons.led1GreenFunction = led1GreenFunctionDefault then s.greenLed
  else if tickCount.toNat < s.greenLed.led1GreenUpdateTimer.toNat then
    { s.greenLed with
      led1GreenUpdateTimer := s.greenLed.led1GreenUpdateTimer - tickCount.setWidth 16 }
  else
    { s.greenLed with
      taskHeartbeatBitmask :=
        if s.buttons.led1GreenFunction = led1GreenFunctionTaskHeartbeatBitmask then 0
        else s.greenLed.taskHeartbeatBitmask
      led1GreenUpdateTimer := greenLed1UpdateTime }

theorem value_handleLed1GreenFunction :
    (handleLed1GreenFunction tickCount memGetFree s).value =
      { s with
        blink := if refreshesGreen tickCount s then
            Function.update s.blink 1 ⟨addFrontDigit s.buttons.led1GreenFunction
                (greenCount s memGetFree (s.blink 1).BlinkDisplayCount),
              (s.blink 1).BlinkDisplayFlag,
              (s.blink 1).BlinkDisplayTimer, (s.blink 1).BlinkDisplayLEDState,
              (s.blink 1).BlinkDisplayDigitCount, (s.blink 1).BlinkDisplayDigitCountDestination,
              (s.blink 1).BlinkCountDigitIndex⟩
          else s.blink
        greenLed := greenLedAfter tickCount s } := by
  simp only [handleLed1GreenFunction, greenLedAfter, refreshesGreen, greenCount]
  by_cases hdefault : s.buttons.led1GreenFunction = led1GreenFunctionDefault
  · simp [hdefault]
  · by_cases hlt : tickCount.toNat < s.greenLed.led1GreenUpdateTimer.toNat
    · simp [hdefault, hlt, Nat.not_le.2 hlt]
    · simp [hdefault, hlt, Nat.not_lt.1 hlt]

theorem effects_handleLed1GreenFunction :
    effects (handleLed1GreenFunction tickCount memGetFree s) = [] := by
  simp only [handleLed1GreenFunction]
  split
  · split <;> simp
  · simp

end Rest

section Buttons

variable (tickCount : Dword) (input : Bool) (s : State)

/-- `led1Green_function` after the button has been pressed. -/
def nextFunction (led1GreenFunction : Dword) : Dword :=
  if led1GreenFunction = led1GreenFunctionTotal - 1 then led1GreenFunctionDefault
  else led1GreenFunction + 1

/-- What is kept of the buttons after `handleSw1`. -/
def Buttons.sw1 (b : Buttons) : Buttons :=
  if input then { b with spareS3InputPressed := false, togglePasswordTimer := passwordResetTime }
  else
    { b with
      togglePasswordTimer := (countdown b.togglePasswordTimer tickCount).1
      led1GreenFunction :=
        if b.spareS3InputPressed then b.led1GreenFunction else nextFunction b.led1GreenFunction
      spareS3InputPressed := true }

theorem value_handleSw1 :
    (handleSw1 tickCount input s).value =
      { s with
        buttons := s.buttons.sw1 tickCount input
        greenLed := { s.greenLed with
          led1GreenUpdateTimer :=
            if input || s.buttons.spareS3InputPressed then s.greenLed.led1GreenUpdateTimer
            else 0 } } := by
  simp only [handleSw1, Buttons.sw1, nextFunction, snd_countdown]
  cases input with
  | true => simp
  | false =>
    by_cases hpressed : s.buttons.spareS3InputPressed = true
    · simp [hpressed]
    · simp [hpressed]

theorem effects_handleSw1 :
    effects (handleSw1 tickCount input s) =
      if !input && expired s.buttons.togglePasswordTimer tickCount then [.JSA_ClearUserKeyInFlash]
      else [] := by
  simp only [handleSw1, snd_countdown]
  cases input with
  | true => simp
  | false =>
    by_cases hpressed : s.buttons.spareS3InputPressed = true
    · simp [hpressed, Action.isOutput]
    · simp [hpressed, Action.isOutput]

/-- What is kept of the buttons after `handleSw2`. -/
def Buttons.sw2 (b : Buttons) : Buttons :=
  if input then { b with spareS4InputPressed := false, toggleCloudTimer := 0 }
  else if toggleCloudTime ≤ (b.toggleCloudTimer + tickCount.setWidth 16).toNat then
    { b with cloudState := !b.cloudState, toggleCloudTimer := 0 }
  else { b with toggleCloudTimer := b.toggleCloudTimer + tickCount.setWidth 16 }

theorem value_handleSw2 :
    (handleSw2 tickCount input s).value =
      { s with buttons := s.buttons.sw2 tickCount input } := by
  simp only [handleSw2, Buttons.sw2]
  cases input with
  | true => simp
  | false =>
    simp only [Bool.not_false, Bool.false_eq_true, if_true, if_false]
    by_cases h : toggleCloudTime ≤ (s.buttons.toggleCloudTimer + tickCount.setWidth 16).toNat
    · simp only [if_pos h]
      rfl
    · simp only [if_neg h]
      rfl

theorem effects_handleSw2 : effects (handleSw2 tickCount input s) = [] := by
  simp [handleSw2, Action.isOutput]

/-- The button has been held for long enough, as far as the timer tells. -/
def reaches (b : Buttons) : Bool :=
  factoryResetTime ≤ (b.factoryResetTimer + tickCount.setWidth 16).toNat

/-- What is kept of the buttons after `handleFactoryReset`. -/
def Buttons.factoryReset (b : Buttons) : Buttons :=
  if input then { b with resetDeviceFlag := false, factoryResetTimer := 0 }
  else
    { b with
      factoryResetTimer := b.factoryResetTimer + tickCount.setWidth 16
      resetDeviceFlag := reaches tickCount b || b.resetDeviceFlag }

/-- The flash is cleared in this round. -/
def clears (b : Buttons) : Bool := input && b.resetDeviceFlag

theorem value_handleFactoryReset :
    (handleFactoryReset tickCount input s).value =
      { s with
        buttons := s.buttons.factoryReset tickCount input
        timers := { s.timers with
          restartSystemTimer :=
            if clears input s.buttons then 1000 else s.timers.restartSystemTimer }
        greenLed := { s.greenLed with
          led1GreenDefaultState :=
            if !input && reaches tickCount s.buttons &&
                s.buttons.led1GreenFunction = led1GreenFunctionDefault then false
            else s.greenLed.led1GreenDefaultState } } := by
  simp only [handleFactoryReset, Buttons.factoryReset, clears]
  cases input with
  | true =>
    by_cases hflag : s.buttons.resetDeviceFlag = true
    · simp [hflag]
    · simp [hflag]
  | false =>
    simp only [Bool.not_false, Bool.false_eq_true, if_true, if_false, Bool.true_and,
      Bool.false_and]
    by_cases h : factoryResetTime ≤ (s.buttons.factoryResetTimer + tickCount.setWidth 16).toNat
    · have hreaches : reaches tickCount s.buttons = true := decide_eq_true h
      simp only [if_pos h, hreaches, Bool.true_or]
      by_cases hdefault : s.buttons.led1GreenFunction = led1GreenFunctionDefault
      · simp [hdefault]
      · simp [hdefault]
    · have hreaches : reaches tickCount s.buttons = false := decide_eq_false h
      simp only [if_neg h, hreaches, Bool.false_or, Bool.false_and]
      rfl

theorem effects_handleFactoryReset :
    effects (handleFactoryReset tickCount input s) =
      if clears input s.buttons then [.HandleClearFlash] else [] := by
  simp only [handleFactoryReset, clears]
  cases input with
  | true =>
    by_cases hflag : s.buttons.resetDeviceFlag = true
    · simp [hflag, Action.isOutput]
    · simp [hflag, Action.isOutput]
  | false => simp [Action.isOutput]

end Buttons

/-! ### The rounds -/

variable (i s)

/-- What is kept of the buttons after a round. -/
def Buttons.after (b : Buttons) : Buttons :=
  if i.manufacturingTestModeFlag then b
  else
    ((b.sw1 i.tickCount i.spareS3Input).sw2 i.tickCount i.spareS4Input).factoryReset i.tickCount
      i.factoryResetInput

/-- The user key is cleared in this round. -/
def clearsUserKey (b : Buttons) : Bool :=
  !i.manufacturingTestModeFlag && (!i.spareS3Input && expired b.togglePasswordTimer i.tickCount)

/-- The flash is cleared in this round. -/
def clearsFlash (b : Buttons) : Bool :=
  !i.manufacturingTestModeFlag && clears i.factoryResetInput b

theorem resetDeviceFlag_sw1 (b : Buttons) (tickCount : Dword) (input : Bool) :
    (b.sw1 tickCount input).resetDeviceFlag = b.resetDeviceFlag := by
  simp only [Buttons.sw1]
  split <;> rfl

theorem resetDeviceFlag_sw2 (b : Buttons) (tickCount : Dword) (input : Bool) :
    (b.sw2 tickCount input).resetDeviceFlag = b.resetDeviceFlag := by
  simp only [Buttons.sw2]
  split
  · rfl
  · split <;> rfl

theorem effects_passRest :
    effects (passRest i s) =
      if i.manufacturingTestModeFlag then [.HandleMTMInputSense (i.tickCount.setWidth 16)]
      else (if clearsUserKey i s.buttons then [.JSA_ClearUserKeyInFlash] else []) ++
        (if clearsFlash i s.buttons then [.HandleClearFlash] else []) := by
  have hblink : ∀ s, effects ((List.finRange 3).foldlM (handleBlinkDisplay i.tickCount) s) = [] :=
    effects_foldlM_eq_nil (effects_handleBlinkDisplay i.tickCount) _
  by_cases hmtm : i.manufacturingTestModeFlag = true
  · simp [passRest, hmtm, hblink, effects_handleJsonActivityTimer, handleClearQubeAddressTimer,
      effects_handleLed1GreenFunction, Action.isOutput]
  · simp [passRest, hmtm, hblink, effects_handleJsonActivityTimer, handleClearQubeAddressTimer,
      effects_handleLed1GreenFunction, effects_handleSw1, effects_handleSw2,
      effects_handleFactoryReset, value_handleSw1, value_handleSw2,
      value_foldlM_handleBlinkDisplay i.tickCount _ (List.nodup_finRange 3),
      value_handleLed1GreenFunction, value_handleJsonActivityTimer, clearsUserKey, clearsFlash,
      clears, resetDeviceFlag_sw1, resetDeviceFlag_sw2]

theorem buttons_passRest : (passRest i s).value.buttons = s.buttons.after i := by
  by_cases hmtm : i.manufacturingTestModeFlag = true
  · simp [passRest, hmtm, Buttons.after, handleClearQubeAddressTimer,
      value_foldlM_handleBlinkDisplay i.tickCount _ (List.nodup_finRange 3),
      value_handleLed1GreenFunction, value_handleJsonActivityTimer]
  · simp [passRest, hmtm, Buttons.after, handleClearQubeAddressTimer,
      value_foldlM_handleBlinkDisplay i.tickCount _ (List.nodup_finRange 3),
      value_handleLed1GreenFunction, value_handleJsonActivityTimer, value_handleSw1,
      value_handleSw2, value_handleFactoryReset]

theorem value_passRest :
    (passRest i s).value =
      { s with
        timers := { s.timers with
          jsonActivityTimer := jsonActivityLeft i.tickCount s
          clearQubeAddressTimer := (countdown s.timers.clearQubeAddressTimer i.tickCount).1
          restartSystemTimer :=
            if clearsFlash i s.buttons then 1000 else s.timers.restartSystemTimer }
        greenLed := (passRest i s).value.greenLed
        blink := (passRest i s).value.blink
        buttons := s.buttons.after i } := by
  by_cases hmtm : i.manufacturingTestModeFlag = true
  · simp [passRest, hmtm, Buttons.after, handleClearQubeAddressTimer, clearsFlash,
      value_foldlM_handleBlinkDisplay i.tickCount _ (List.nodup_finRange 3),
      value_handleLed1GreenFunction, value_handleJsonActivityTimer]
  · simp [passRest, hmtm, Buttons.after, handleClearQubeAddressTimer, clearsFlash, clears,
      value_foldlM_handleBlinkDisplay i.tickCount _ (List.nodup_finRange 3),
      value_handleLed1GreenFunction, value_handleJsonActivityTimer, value_handleSw1,
      value_handleSw2, value_handleFactoryReset, resetDeviceFlag_sw1, resetDeviceFlag_sw2]

theorem blink_passRest :
    (passRest i s).value.blink 0 = (s.blink 0).after i.tickCount := by
  have hrefresh : ∀ (b : Bool) (v : Blink),
      (if b then Function.update s.blink 1 v else s.blink) 0 = s.blink 0 := by
    intro b v
    cases b <;> simp
  by_cases hmtm : i.manufacturingTestModeFlag = true
  · simp [passRest, hmtm, handleClearQubeAddressTimer,
      value_foldlM_handleBlinkDisplay i.tickCount _ (List.nodup_finRange 3),
      value_handleLed1GreenFunction, value_handleJsonActivityTimer, hrefresh]
  · simp [passRest, hmtm, handleClearQubeAddressTimer,
      value_foldlM_handleBlinkDisplay i.tickCount _ (List.nodup_finRange 3),
      value_handleLed1GreenFunction, value_handleJsonActivityTimer, value_handleSw1,
      value_handleSw2, value_handleFactoryReset, hrefresh]

/-- The state in which a round comes to the LEDs and the buttons, or restarts. -/
def countedDown : State :=
  { s with
    resetSocketFlag := false
    refreshTokenFlag := expired s.timers.refreshTokenTimer i.tickCount || s.refreshTokenFlag
    refreshTokenFailCount :=
      if expired s.timers.refreshTokenTimer i.tickCount then 0 else s.refreshTokenFailCount
    watchdog :=
      if expired s.timers.checkWatchdogCountersTimer i.tickCount then s.watchdog.checked
      else s.watchdog
    timers := { s.timers with
      refreshTokenTimer := (countdown s.timers.refreshTokenTimer i.tickCount).1
      flashSaveTimer := (countdown s.timers.flashSaveTimer i.tickCount).1
      checkForUpdatesTimer := (countdown s.timers.checkForUpdatesTimer i.tickCount).1
      checkWatchdogCountersTimer :=
        if expired s.timers.checkWatchdogCountersTimer i.tickCount then watchdogTime
        else (countdown s.timers.checkWatchdogCountersTimer i.tickCount).1
      restartSystemTimer := (countdown s.timers.restartSystemTimer i.tickCount).1 }
    greenLed := { s.greenLed with
      led1GreenDefaultState :=
        (expired s.timers.restartSystemTimer i.tickCount &&
          s.buttons.led1GreenFunction = led1GreenFunctionDefault) ||
          s.greenLed.led1GreenDefaultState }
    restarting := expired s.timers.restartSystemTimer i.tickCount || s.restarting }

/-- **The state after a round**, block by block. -/
theorem value_passTimed :
    (passTimed i s).value =
      if expired s.timers.restartSystemTimer i.tickCount || s.restarting then countedDown i s
      else (passRest i (countedDown i s)).value := by
  simp [passTimed, countedDown, value_handleResetSocketFlag, value_handleRefreshTokenTimer,
    value_handleFlashSaveTimer, value_handleCheckForUpdatesTimer,
    value_handleCheckWatchdogCountersTimer, value_handleRestartSystemTimer]

/-- **What a round does**, block by block. -/
theorem effects_passTimed :
    effects (passTimed i s) =
      (if s.resetSocketFlag then [.shutdown] else []) ++
      (if expired s.timers.refreshTokenTimer i.tickCount then [.setRefreshTokenFlag] else []) ++
      (if expired s.timers.flashSaveTimer i.tickCount then [.SaveSystemPropertiesToFlash]
        else []) ++
      (if expired s.timers.checkForUpdatesTimer i.tickCount then [.SendUpdateCommand] else []) ++
      (if expired s.timers.checkWatchdogCountersTimer i.tickCount then
        ((List.finRange numTasksPlusOne).filter (stalled s.watchdog)).map .reboot else []) ++
      (if expired s.timers.restartSystemTimer i.tickCount then [.restart] else []) ++
      (if expired s.timers.restartSystemTimer i.tickCount || s.restarting then []
        else effects (passRest i (countedDown i s))) := by
  simp [passTimed, countedDown, value_handleResetSocketFlag, value_handleRefreshTokenTimer,
    value_handleFlashSaveTimer, value_handleCheckForUpdatesTimer,
    value_handleCheckWatchdogCountersTimer, value_handleRestartSystemTimer,
    effects_handleResetSocketFlag, effects_handleRefreshTokenTimer, effects_handleFlashSaveTimer,
    effects_handleCheckForUpdatesTimer, effects_handleCheckWatchdogCountersTimer,
    effects_handleRestartSystemTimer]

end Controller

end Lcm
