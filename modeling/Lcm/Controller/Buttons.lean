import Lcm.Controller.Timers

/-!
# The buttons

The task looks at the buttons in the rounds in which time has passed, but not in the test mode of
the factory.  What it does depends on how long a button has been held: the flash is cleared when the
button is let go after five seconds, and the user key is cleared when the other one has been held
for fifteen.

The timer of the factory reset has 16 bits, so a round that takes more than a minute can be lost.

## Main definitions

* `samples` : the rounds in which a button was looked at.
* `HeldLongEnough` : the timer has come to five seconds while the button was held.

## Main results

* `clearFlash_iff_hold` : when the flash is cleared.
* `clearUserKey_iff_hold` : when the user key is cleared.
* `led1GreenFunction_eq` : what the green LED shows.
-/

namespace Lcm

namespace Controller

open Polling

variable {s s' : State} {es : List Event} {e : Event} {i : Inputs} {button : Inputs → Bool}

/-- What the task sees of a button, which is low when it is pressed. -/
def sampleOf (button : Inputs → Bool) : Event → Option Sample
  | .pass i =>
    if i.tickCount = 0 ∨ i.manufacturingTestModeFlag = true then none
    else some ⟨!button i, i.tickCount.toNat⟩
  | _ => none

/-- The rounds in which a button was looked at. -/
def samples (button : Inputs → Bool) (es : List Event) : List Sample :=
  es.filterMap (sampleOf button)

/-- While the button was held, its timer of 16 bits has come to `FACTORY_RESET_TIMER`. -/
def HeldLongEnough (times : List ℕ) : Prop :=
  ∃ k, factoryResetTime ≤ (times.take k).sum % 65536

theorem not_heldLongEnough_nil : ¬ HeldLongEnough [] := by
  rintro ⟨k, hk⟩
  simp at hk

/-- One more round. -/
theorem heldLongEnough_append (times : List ℕ) (time : ℕ) :
    HeldLongEnough (times ++ [time]) ↔
      factoryResetTime ≤ (times ++ [time]).sum % 65536 ∨ HeldLongEnough times := by
  constructor
  · rintro ⟨k, hk⟩
    rcases Nat.lt_or_ge times.length k with hlt | hle
    · left
      rwa [List.take_of_length_le (by simp; omega)] at hk
    · right
      exact ⟨k, by rwa [List.take_append_of_le_length hle] at hk⟩
  · rintro (h | ⟨k, hk⟩)
    · exact ⟨(times ++ [time]).length, by rwa [List.take_length]⟩
    · refine ⟨min k times.length, ?_⟩
      rwa [List.take_append_of_le_length (Nat.min_le_right ..), ← List.take_take, List.take_length]

/-! ### What is kept of the buttons -/

theorem samples_append (button : Inputs → Bool) (es es' : List Event) :
    samples button (es ++ es') = samples button es ++ samples button es' :=
  List.filterMap_append

/-- The task looked at the button in this round. -/
theorem samples_pass (htick : i.tickCount ≠ 0) (hmtm : i.manufacturingTestModeFlag = false) :
    samples button [.pass i] = [⟨!button i, i.tickCount.toNat⟩] := by
  have hlooked : ¬ (i.tickCount = 0 ∨ i.manufacturingTestModeFlag = true) := by
    rw [hmtm]
    simpa using htick
  have hsome : sampleOf button (.pass i) = some ⟨!button i, i.tickCount.toNat⟩ := if_neg hlooked
  rw [samples, List.filterMap_cons_some hsome, List.filterMap_nil]

/-- It did not. -/
theorem samples_not_looked (h : i.tickCount = 0 ∨ i.manufacturingTestModeFlag = true) :
    samples button [.pass i] = [] := by
  have hnone : sampleOf button (.pass i) = none := if_pos h
  rw [samples, List.filterMap_cons_none hnone, List.filterMap_nil]

/-- What is kept of the buttons tells what the task has seen of them. -/
structure Reflects (es : List Event) (b : Buttons) : Prop where
  factoryResetTimer :
    b.factoryResetTimer.toNat = (hold (samples Inputs.factoryResetInput es)).sum % 65536
  resetDeviceFlag :
    b.resetDeviceFlag = true ↔ HeldLongEnough (hold (samples Inputs.factoryResetInput es))
  togglePasswordTimer :
    b.togglePasswordTimer.toNat =
      passwordResetTime - (hold (samples Inputs.spareS3Input es)).sum
  spareS3InputPressed :
    b.spareS3InputPressed = !(hold (samples Inputs.spareS3Input es)).isEmpty
  led1GreenFunction :
    b.led1GreenFunction.toNat = beginnings (samples Inputs.spareS3Input es) % 3

variable {b : Buttons}

theorem reflects_initial (version : Word) (cloudState defaultState : Bool) :
    Reflects [] (State.initial version cloudState defaultState).buttons := by
  refine ⟨rfl, ?_, rfl, rfl, rfl⟩
  simp [State.initial, samples, not_heldLongEnough_nil]

theorem Reflects.of_samples_nil (h : Reflects es b) (hsamples : ∀ button, samples button [e] = []) :
    Reflects (es ++ [e]) b := by
  have hsame : ∀ button, samples button (es ++ [e]) = samples button es := by
    intro button
    rw [samples_append, hsamples, List.append_nil]
  refine ⟨?_, ?_, ?_, ?_, ?_⟩
  · rw [hsame, h.factoryResetTimer]
  · rw [hsame, h.resetDeviceFlag]
  · rw [hsame, h.togglePasswordTimer]
  · rw [hsame, h.spareS3InputPressed]
  · rw [hsame, h.led1GreenFunction]

/-- The functions of the green LED follow each other in a circle. -/
theorem toNat_nextFunction {f : Dword} {n : ℕ} (h : f.toNat = n % 3) :
    (nextFunction f).toNat = (n + 1) % 3 := by
  have hlast : f = led1GreenFunctionTotal - 1 ↔ n % 3 = 2 := by
    rw [← h, ← BitVec.toNat_inj]
    rfl
  rw [nextFunction]
  by_cases h2 : n % 3 = 2
  · rw [if_pos (hlast.2 h2)]
    simp only [led1GreenFunctionDefault]
    change 0 = _
    omega
  · rw [if_neg (mt hlast.1 h2), BitVec.toNat_add, h]
    change (n % 3 + 1) % 2 ^ 32 = _
    omega

section After

variable (hmtm : i.manufacturingTestModeFlag = false)
include hmtm

theorem after_eq : b.after i =
    ((b.sw1 i.tickCount i.spareS3Input).sw2 i.tickCount i.spareS4Input).factoryReset i.tickCount
      i.factoryResetInput := by
  rw [Buttons.after, hmtm]
  rfl

theorem after_factoryResetTimer : (b.after i).factoryResetTimer =
    if i.factoryResetInput then 0 else b.factoryResetTimer + i.tickCount.setWidth 16 := by
  simp only [after_eq hmtm, Buttons.factoryReset, Buttons.sw2, Buttons.sw1]
  split_ifs <;> rfl

theorem after_resetDeviceFlag : (b.after i).resetDeviceFlag =
    (!i.factoryResetInput && (reaches i.tickCount b || b.resetDeviceFlag)) := by
  simp only [after_eq hmtm, Buttons.factoryReset, Buttons.sw2, Buttons.sw1]
  split_ifs <;> simp_all [reaches]

theorem after_togglePasswordTimer : (b.after i).togglePasswordTimer =
    if i.spareS3Input then (passwordResetTime : Word)
    else (countdown b.togglePasswordTimer i.tickCount).1 := by
  simp only [after_eq hmtm, Buttons.factoryReset, Buttons.sw2, Buttons.sw1]
  split_ifs <;> rfl

theorem after_spareS3InputPressed : (b.after i).spareS3InputPressed = !i.spareS3Input := by
  simp only [after_eq hmtm, Buttons.factoryReset, Buttons.sw2, Buttons.sw1]
  split_ifs <;> simp_all

theorem after_led1GreenFunction : (b.after i).led1GreenFunction =
    if i.spareS3Input || b.spareS3InputPressed then b.led1GreenFunction
    else nextFunction b.led1GreenFunction := by
  simp only [after_eq hmtm, Buttons.factoryReset, Buttons.sw2, Buttons.sw1]
  split_ifs <;> simp_all

end After

/-- **A round in which the task looks at the buttons.** -/
theorem Reflects.after (h : Reflects es b) (htick : i.tickCount ≠ 0)
    (hmtm : i.manufacturingTestModeFlag = false) : Reflects (es ++ [.pass i]) (b.after i) := by
  have hsamples : ∀ button, samples button (es ++ [.pass i]) =
      samples button es ++ [⟨!button i, i.tickCount.toNat⟩] := by
    intro button
    rw [samples_append, samples_pass htick hmtm]
  have htime : (b.factoryResetTimer + i.tickCount.setWidth 16).toNat =
      (hold (samples Inputs.factoryResetInput es) ++ [i.tickCount.toNat]).sum % 65536 := by
    rw [BitVec.toNat_add, h.factoryResetTimer, BitVec.toNat_setWidth, List.sum_append]
    simp
  refine ⟨?_, ?_, ?_, ?_, ?_⟩
  · rw [hsamples, after_factoryResetTimer hmtm]
    cases hinput : i.factoryResetInput with
    | true => simp
    | false => simpa using htime
  · rw [hsamples, after_resetDeviceFlag hmtm]
    cases hinput : i.factoryResetInput with
    | true => simp [not_heldLongEnough_nil]
    | false =>
      have hreaches : reaches i.tickCount b = true ↔ factoryResetTime ≤
          (hold (samples Inputs.factoryResetInput es) ++ [i.tickCount.toNat]).sum % 65536 := by
        rw [reaches, htime, decide_eq_true_iff]
      simp only [Bool.not_false, Bool.true_and, Bool.or_eq_true, hold_found]
      rw [heldLongEnough_append, hreaches, h.resetDeviceFlag]
  · rw [hsamples, after_togglePasswordTimer hmtm]
    cases hinput : i.spareS3Input with
    | true => simp [passwordResetTime]
    | false =>
      simp only [Bool.not_false, Bool.false_eq_true, if_false, hold_found, toNat_countdown,
        h.togglePasswordTimer, List.sum_append, List.sum_cons, List.sum_nil]
      omega
  · rw [hsamples, after_spareS3InputPressed hmtm]
    cases i.spareS3Input <;> simp
  · rw [hsamples, after_led1GreenFunction hmtm, beginnings_append, h.spareS3InputPressed]
    cases hinput : i.spareS3Input with
    | true => simpa using h.led1GreenFunction
    | false =>
      by_cases hnil : hold (samples Inputs.spareS3Input es) = []
      · simpa [hnil] using toNat_nextFunction h.led1GreenFunction
      · simpa [hnil] using h.led1GreenFunction

/-- **One event**, without a restart. -/
theorem Reflects.stepState (h : Reflects es s.buttons) (hs : s.restarting = false) (e : Event)
    (hs' : (stepState s e).restarting = false) :
    Reflects (es ++ [e]) (Controller.stepState s e).buttons := by
  cases e with
  | pass i =>
    by_cases htick : i.tickCount = 0
    · have hsame : (Controller.stepState s (.pass i)).buttons = s.buttons := by
        simp only [Controller.stepState, pass, if_pos htick]
        rfl
      rw [hsame]
      exact h.of_samples_nil fun _ => samples_not_looked (.inl htick)
    · by_cases hexpired : expired s.timers.restartSystemTimer i.tickCount = true
      · rw [Controller.stepState, value_pass_restart hexpired, countedDown, hexpired] at hs'
        cases hs'
      · have hstays : Stays s i := ⟨hs, Bool.eq_false_iff.2 hexpired⟩
        have hafter : (Controller.stepState s (.pass i)).buttons = s.buttons.after i := by
          rw [Controller.stepState, value_pass htick hstays, buttons_passRest]
          rfl
        rw [hafter]
        -- in the test mode the buttons are not looked at
        cases hmtm : i.manufacturingTestModeFlag with
        | true =>
          rw [Buttons.after, if_pos hmtm]
          exact h.of_samples_nil fun _ => samples_not_looked (.inr hmtm)
        | false => exact h.after htick hmtm
  | setTimer timer value => exact h.of_samples_nil fun _ => rfl
  | countTask i => exact h.of_samples_nil fun _ => rfl
  | heartbeat bits => exact h.of_samples_nil fun _ => rfl
  | resetSocket => exact h.of_samples_nil fun _ => rfl
  | setLed1GreenDefaultState on => exact h.of_samples_nil fun _ => rfl

/-- **A run**: what is kept of the buttons tells what has been seen of them, until the restart. -/
theorem reflects_of_run {s₀ : State} (h₀ : controller.init s₀)
    (h : controller.run s₀ es = some s) (hs : s.restarting = false) : Reflects es s.buttons := by
  induction es using List.reverseRecOn generalizing s with
  | nil =>
    obtain ⟨version, cloudState, defaultState, rfl⟩ := h₀
    cases h
    exact reflects_initial version cloudState defaultState
  | append_singleton es e ih =>
    obtain ⟨t, ht, hrestarting, rfl⟩ := exists_of_run_append h
    exact (ih ht hrestarting).stepState hrestarting e hs

/-! ### What the buttons do -/

variable {s₀ : State}

/-- The task looks at the buttons in this round. -/
def Looks (s : State) (i : Inputs) : Prop :=
  i.tickCount ≠ 0 ∧ i.manufacturingTestModeFlag = false ∧ Stays s i

/-- **When the flash is cleared**: in the round in which the button has been let go, if it was held
for long enough until then; and never else. -/
theorem clearFlash_iff_hold (h₀ : controller.init s₀) (h : controller.run s₀ es = some s)
    (hs : s.restarting = false) :
    .HandleClearFlash ∈ actions s (.pass i) ↔
      Looks s i ∧ i.factoryResetInput = true ∧
        HeldLongEnough (hold (samples Inputs.factoryResetInput es)) := by
  rw [clearFlash_iff hs, ← (reflects_of_run h₀ h hs).resetDeviceFlag, clearsFlash, clears, Looks]
  simp only [Bool.and_eq_true, Bool.not_eq_true']
  tauto

/-- A button that is held for five seconds and let go. -/
theorem clearFlash_iff_hold_five :
    .HandleClearFlash ∈
      actions (stepState (State.initial 0 true true) (.pass ⟨5000, false, true, true, false, 0⟩))
        (.pass ⟨1, false, true, true, true, 0⟩) := by
  have hrun : controller.run (State.initial 0 true true)
      [.pass ⟨5000, false, true, true, false, 0⟩] =
        some (stepState (State.initial 0 true true) (.pass ⟨5000, false, true, true, false, 0⟩)) :=
    rfl
  exact (clearFlash_iff_hold ⟨0, true, true, rfl⟩ hrun rfl).2
    ⟨⟨by decide, rfl, by decide⟩, rfl, 1, by decide⟩

/-- **When the user key is cleared**: in the round by which the button has been held for fifteen
seconds, once while it is held; and never else. -/
theorem clearUserKey_iff_hold (h₀ : controller.init s₀) (h : controller.run s₀ es = some s)
    (hs : s.restarting = false) :
    .JSA_ClearUserKeyInFlash ∈ actions s (.pass i) ↔
      Looks s i ∧ i.spareS3Input = false ∧
        (hold (samples Inputs.spareS3Input es)).sum < passwordResetTime ∧
        passwordResetTime ≤
          (hold (samples Inputs.spareS3Input es)).sum + i.tickCount.toNat := by
  rw [clearUserKey_iff hs, clearsUserKey, Looks]
  simp only [Bool.and_eq_true, Bool.not_eq_true', expired_iff,
    (reflects_of_run h₀ h hs).togglePasswordTimer]
  constructor
  · rintro ⟨htick, hstays, hmtm, hinput, hne, hle⟩
    exact ⟨⟨htick, hmtm, hstays⟩, hinput, by omega, by omega⟩
  · rintro ⟨⟨htick, hmtm, hstays⟩, hinput, hlt, hle⟩
    exact ⟨htick, hstays, hmtm, hinput, by omega, by omega⟩

/-- A button that is held for fifteen seconds, in two rounds. -/
theorem clearUserKey_iff_hold_fifteen :
    .JSA_ClearUserKeyInFlash ∈
      actions (stepState (State.initial 0 true true) (.pass ⟨9000, false, false, true, true, 0⟩))
        (.pass ⟨6000, false, false, true, true, 0⟩) := by
  have hrun : controller.run (State.initial 0 true true)
      [.pass ⟨9000, false, false, true, true, 0⟩] =
        some (stepState (State.initial 0 true true) (.pass ⟨9000, false, false, true, true, 0⟩)) :=
    rfl
  exact (clearUserKey_iff_hold ⟨0, true, true, rfl⟩ hrun rfl).2
    ⟨⟨by decide, rfl, by decide⟩, rfl, by decide, by decide⟩

/-- **What the green LED shows** changes by one with every press. -/
theorem led1GreenFunction_eq (h₀ : controller.init s₀) (h : controller.run s₀ es = some s)
    (hs : s.restarting = false) :
    s.buttons.led1GreenFunction.toNat = beginnings (samples Inputs.spareS3Input es) % 3 :=
  (reflects_of_run h₀ h hs).led1GreenFunction

end Controller

end Lcm
