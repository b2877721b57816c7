import Mathlib.Algebra.BigOperators.Group.List.Basic
import Mathlib.Algebra.GroupWithZero.Nat
import Mathlib.Data.List.Induction
import Mathlib.Data.Nat.Notation

/-!
# Timers of a loop that polls

A loop reads at every round how much time has passed, and does things when there was enough of it.
A countdown is set to an amount of time and loses what passes; a hold collects the time for which a
condition has been found without a break.

## Main definitions

* `TimerEvent`, `timerAfter` : what happens to a countdown, and its value.
* `Due` : the time it was last set to is over in this round.
* `Sample`, `hold` : a round in which the condition was looked at, and the time that it has been
  found.

## Main results

* `expires_iff_due` : a countdown ends in the round in which it is due.
* `beginnings_append` : a round counts if the condition is found in it and was not before.
-/

namespace Lcm

namespace Polling

/-! ### Countdowns -/

/-- What happens to a countdown. -/
inductive TimerEvent
  | set (value : ℕ)
  | tick (n : ℕ)
  deriving DecidableEq

/-- A countdown after one event; it stays at 0. -/
def timerStep (timer : ℕ) : TimerEvent → ℕ
  | .set value => value
  | .tick n => timer - n

/-- A countdown after some events. -/
def timerAfter (es : List TimerEvent) : ℕ := es.foldl timerStep 0

/-- The time that the countdown was last set to is over after `n` more, and was not before. -/
def Due (es : List TimerEvent) (n : ℕ) : Prop :=
  ∃ before value passed, es = before ++ .set value :: List.map .tick passed ∧
    passed.sum < value ∧ value ≤ passed.sum + n

variable {es : List TimerEvent} {n : ℕ}

theorem timerAfter_append (es es' : List TimerEvent) :
    timerAfter (es ++ es') = es'.foldl timerStep (timerAfter es) := List.foldl_append

theorem foldl_timerStep_ticks (timer : ℕ) (passed : List ℕ) :
    (passed.map TimerEvent.tick).foldl timerStep timer = timer - passed.sum := by
  induction passed generalizing timer with
  | nil => simp
  | cons n passed ih =>
    simp only [List.map_cons, List.foldl_cons, List.sum_cons]
    rw [ih]
    simp only [timerStep]
    omega

/-- A countdown that was set has what is left of the time. -/
theorem timerAfter_set (before : List TimerEvent) (value : ℕ) (passed : List ℕ) :
    timerAfter (before ++ .set value :: passed.map .tick) = value - passed.sum := by
  rw [timerAfter_append, List.foldl_cons, foldl_timerStep_ticks]
  simp [timerStep]

/-- Only time has passed, or the countdown was set at some point and then only time has passed. -/
theorem exists_last_set (es : List TimerEvent) :
    (∃ passed, es = List.map .tick passed) ∨
      ∃ before value passed, es = before ++ .set value :: List.map .tick passed := by
  induction es using List.reverseRecOn with
  | nil => exact .inl ⟨[], rfl⟩
  | append_singleton es e ih =>
    cases e with
    | set value => exact .inr ⟨es, value, [], rfl⟩
    | tick n =>
      rcases ih with ⟨passed, rfl⟩ | ⟨before, value, passed, rfl⟩
      · exact .inl ⟨passed ++ [n], by simp⟩
      · exact .inr ⟨before, value, passed ++ [n], by simp⟩

/-- **A countdown ends in the round in which it is due.** -/
theorem expires_iff_due : timerAfter es ≠ 0 ∧ timerAfter es ≤ n ↔ Due es n := by
  constructor
  · rintro ⟨hne, hle⟩
    rcases exists_last_set es with ⟨passed, rfl⟩ | ⟨before, value, passed, rfl⟩
    · have hzero : timerAfter (List.map .tick passed) = 0 := by
        rw [timerAfter, foldl_timerStep_ticks, Nat.zero_sub]
      exact absurd hzero hne
    · rw [timerAfter_set] at hne hle
      exact ⟨before, value, passed, rfl, by omega, by omega⟩
  · rintro ⟨before, value, passed, rfl, hlt, hle⟩
    rw [timerAfter_set]
    omega

/-! ### Holds -/

/-- A round in which the condition was looked at: whether it was found, and the time since the round
before. -/
structure Sample where
  found : Bool
  time : ℕ
  deriving DecidableEq

/-- The times of the rounds since the condition was not found. -/
def hold (samples : List Sample) : List ℕ :=
  samples.foldl (fun times s => if s.found then times ++ [s.time] else []) []

variable {samples : List Sample} {time : ℕ}

@[simp] theorem hold_nil : hold [] = [] := rfl

@[simp] theorem hold_found : hold (samples ++ [⟨true, time⟩]) = hold samples ++ [time] := by
  simp [hold]

@[simp] theorem hold_not_found : hold (samples ++ [⟨false, time⟩]) = [] := by simp [hold]

theorem hold_append (samples : List Sample) (s : Sample) :
    hold (samples ++ [s]) = if s.found then hold samples ++ [s.time] else [] := by
  simp [hold]

/-- One round for `beginnings`: the number so far, and whether the condition was found before. -/
def beginningsStep (count : ℕ × Bool) (s : Sample) : ℕ × Bool :=
  (if s.found && !count.2 then count.1 + 1 else count.1, s.found)

/-- How often the condition was found when it had not been before. -/
def beginnings (samples : List Sample) : ℕ := (samples.foldl beginningsStep (0, false)).1

theorem foldl_beginningsStep_snd (samples : List Sample) :
    (samples.foldl beginningsStep (0, false)).2 = !(hold samples).isEmpty := by
  induction samples using List.reverseRecOn with
  | nil => rfl
  | append_singleton samples s ih =>
    rw [List.foldl_append, hold_append]
    cases hs : s.found with
    | false => simp [beginningsStep, hs]
    | true => simp [beginningsStep, hs]

/-- **A round counts** if the condition is found in it and was not before. -/
theorem beginnings_append (samples : List Sample) (s : Sample) :
    beginnings (samples ++ [s]) =
      if s.found = true ∧ hold samples = [] then beginnings samples + 1
      else beginnings samples := by
  rw [beginnings, List.foldl_append]
  simp only [List.foldl_cons, List.foldl_nil, beginningsStep, foldl_beginningsStep_snd]
  cases hs : s.found with
  | false => simp [beginnings]
  | true => simp [beginnings]

end Polling

end Lcm
