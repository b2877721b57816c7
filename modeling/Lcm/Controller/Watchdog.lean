import Lcm.Controller.Timers

/-!
# The watchdog

Every task counts its rounds.  Every five minutes the event controller compares the counters that
are in use with what it remembered at the check before, and resets the system if one of them has not
changed.  A counter of 32 bits that has come back to 0 is taken for one that is not in use.

## Main definitions

* `counts`, `ticks` : the rounds of a task, and the time, in a part of a run.
* `need` : the time after which a task that has stalled has been noticed.

## Main results

* `counts_of_reboot` : a task for which the system is reset has not counted for five minutes, unless
  its counter has come around.
* `reboot_of_stalled` : for a task that has counted and stops, the system is reset within ten
  minutes and the time of a round.
-/

namespace Lcm

namespace Controller

variable {s s' s₀ : State} {es : List Event} {e : Event} {i : Inputs} {j : Fin numTasksPlusOne}
  {limit : ℕ}

/-! ### What happens in a run -/

/-- The task counts. -/
def isCount (j : Fin numTasksPlusOne) : Event → Bool
  | .countTask k => k = j
  | _ => false

/-- How often a task has counted. -/
def counts (j : Fin numTasksPlusOne) (es : List Event) : ℕ := es.countP (isCount j)

/-- The time that passes at an event. -/
def ticksOf : Event → ℕ
  | .pass i => i.tickCount.toNat
  | _ => 0

/-- The time that passes. -/
def ticks (es : List Event) : ℕ := (es.map ticksOf).sum

@[simp] theorem counts_append (es es' : List Event) :
    counts j (es ++ es') = counts j es + counts j es' := List.countP_append

@[simp] theorem ticks_append (es es' : List Event) : ticks (es ++ es') = ticks es + ticks es' := by
  simp [ticks]

@[simp] theorem ticks_cons : ticks (e :: es) = ticksOf e + ticks es := by simp [ticks]

theorem counts_pass_cons : counts j (.pass i :: es) = counts j es :=
  List.countP_cons_of_neg (by simp [isCount])

/-! ### One event -/

theorem watchdog_pass (htick : i.tickCount ≠ 0) (hs : s.restarting = false) :
    (pass i s).value.watchdog =
      if expired s.timers.checkWatchdogCountersTimer i.tickCount then s.watchdog.checked
      else s.watchdog := by
  by_cases hexpired : expired s.timers.restartSystemTimer i.tickCount = true
  · rw [value_pass_restart hexpired]
    rfl
  · rw [value_pass htick ⟨hs, Bool.eq_false_iff.2 hexpired⟩, value_passRest]
    rfl

theorem checkWatchdogCountersTimer_pass (htick : i.tickCount ≠ 0) (hs : s.restarting = false) :
    (pass i s).value.timers.checkWatchdogCountersTimer =
      if expired s.timers.checkWatchdogCountersTimer i.tickCount then (watchdogTime : Dword)
      else (countdown s.timers.checkWatchdogCountersTimer i.tickCount).1 := by
  by_cases hexpired : expired s.timers.restartSystemTimer i.tickCount = true
  · rw [value_pass_restart hexpired]
    rfl
  · rw [value_pass htick ⟨hs, Bool.eq_false_iff.2 hexpired⟩, value_passRest]
    rfl

/-- The system is reset for a task in the round of a check in which it has stalled. -/
theorem reboot_iff :
    .reboot j ∈ actions s (.pass i) ↔
      expired s.timers.checkWatchdogCountersTimer i.tickCount = true ∧
        stalled s.watchdog j = true := by
  have hrest : .reboot j ∉ effects (passRest i (countedDown i s)) := by
    rw [effects_passRest]
    by_cases hmtm : i.manufacturingTestModeFlag = true
    · simp [hmtm]
    · simp [hmtm]
  rw [mem_actions rfl, effects_passTimed]
  by_cases hexpired : expired s.timers.checkWatchdogCountersTimer i.tickCount = true
  · have htick : ¬ i.tickCount = 0#32 := by
      intro h0
      have hzero := expired_zero s.timers.checkWatchdogCountersTimer
      rw [h0] at hexpired
      exact Bool.noConfusion (hzero.symm.trans hexpired)
    simp [hexpired, hrest, htick]
  · simp [hexpired, hrest]

/-- The timer of the watchdog, which is never at rest. -/
def watchdogTimer (s : State) : ℕ := s.timers.checkWatchdogCountersTimer.toNat

theorem expired_watchdogTimer :
    expired s.timers.checkWatchdogCountersTimer i.tickCount = true ↔
      watchdogTimer s ≠ 0 ∧ watchdogTimer s ≤ i.tickCount.toNat := expired_iff ..

/-- What a round does to the timer. -/
theorem watchdogTimer_pass (htick : i.tickCount ≠ 0) (hs : s.restarting = false) :
    watchdogTimer (pass i s).value =
      if watchdogTimer s ≠ 0 ∧ watchdogTimer s ≤ i.tickCount.toNat then watchdogTime
      else watchdogTimer s - i.tickCount.toNat := by
  rw [watchdogTimer, checkWatchdogCountersTimer_pass htick hs]
  by_cases hexpired : expired s.timers.checkWatchdogCountersTimer i.tickCount = true
  · rw [if_pos hexpired, if_pos (expired_watchdogTimer.1 hexpired)]
    rfl
  · rw [if_neg hexpired, if_neg (mt expired_watchdogTimer.2 hexpired), toNat_countdown]
    rfl

theorem watchdogTimer_stepState_of_not_pass (h : ∀ i, e ≠ .pass i) :
    watchdogTimer (stepState s e) = watchdogTimer s := by
  cases e with
  | pass i => exact absurd rfl (h i)
  | setTimer timer value => cases timer <;> rfl
  | countTask i => rfl
  | heartbeat bits => rfl
  | resetSocket => rfl
  | setLed1GreenDefaultState on => rfl

/-! ### The system is reset for tasks that have stalled -/

/-- The counters tell how often the tasks have counted, and what is remembered of a counter is its
value at a check since when the time has passed that the timer has lost. -/
structure Checked (es : List Event) (s : State) : Prop where
  counter : ∀ j, s.watchdog.taskCounters j = .ofNat 32 (counts j es)
  previous : ∀ j, s.watchdog.previousTaskCounters j ≠ 0 →
    ∃ before i after, es = before ++ .pass i :: after ∧
      s.watchdog.previousTaskCounters j = .ofNat 32 (counts j before) ∧
      watchdogTime ≤ ticks after + watchdogTimer s

theorem checked_initial (version : Word) (cloudState defaultState : Bool) :
    Checked [] (State.initial version cloudState defaultState) :=
  ⟨fun _ => rfl, fun _ h => absurd rfl h⟩

/-- What is remembered of a counter stays what it was at that check, when time passes. -/
theorem Checked.previous_append (h : Checked es s) {j : Fin numTasksPlusOne}
    (hj : s.watchdog.previousTaskCounters j ≠ 0) {timer : ℕ}
    (htimer : watchdogTimer s ≤ ticks [e] + timer) :
    ∃ before i after, es ++ [e] = before ++ .pass i :: after ∧
      s.watchdog.previousTaskCounters j = .ofNat 32 (counts j before) ∧
      watchdogTime ≤ ticks after + timer := by
  obtain ⟨before, i, after, rfl, hvalue, hlong⟩ := h.previous j hj
  refine ⟨before, i, after ++ [e], by simp, hvalue, ?_⟩
  rw [ticks_append]
  omega

theorem Checked.of_not_pass (h : Checked es s) (hpass : ∀ i, e ≠ .pass i)
    (hcounter : ∀ j, (Controller.stepState s e).watchdog.taskCounters j =
      .ofNat 32 (counts j (es ++ [e])))
    (hprevious : (Controller.stepState s e).watchdog.previousTaskCounters =
      s.watchdog.previousTaskCounters) : Checked (es ++ [e]) (Controller.stepState s e) := by
  refine ⟨hcounter, ?_⟩
  intro j hj
  rw [hprevious] at hj ⊢
  rw [watchdogTimer_stepState_of_not_pass hpass]
  exact h.previous_append hj (Nat.le_add_left ..)

theorem Checked.counter_append (h : Checked es s) (he : ∀ j, counts j [e] = 0)
    (j : Fin numTasksPlusOne) : s.watchdog.taskCounters j = .ofNat 32 (counts j (es ++ [e])) := by
  rw [counts_append, he, Nat.add_zero]
  exact h.counter j

theorem Checked.pass (h : Checked es s) (hs : s.restarting = false) (i : Inputs) :
    Checked (es ++ [.pass i]) (Controller.pass i s).value := by
  have hcount : ∀ j, counts j [.pass i] = 0 := fun _ => rfl
  by_cases htick : i.tickCount = 0
  · have hsame : (Controller.pass i s).value = s := by
      rw [Controller.pass, if_pos htick]
      rfl
    rw [hsame]
    refine ⟨h.counter_append hcount, ?_⟩
    intro j hj
    exact h.previous_append hj (Nat.le_add_left ..)
  · have hticks : ticks [.pass i] = i.tickCount.toNat := by simp [ticks, ticksOf]
    have hwatchdog := watchdog_pass htick hs
    have htimer := watchdogTimer_pass htick hs
    by_cases hexpired : expired s.timers.checkWatchdogCountersTimer i.tickCount = true
    · rw [if_pos hexpired] at hwatchdog
      rw [if_pos (expired_watchdogTimer.1 hexpired)] at htimer
      refine ⟨?_, ?_⟩
      · rw [hwatchdog]
        exact h.counter_append hcount
      · intro j hj
        rw [hwatchdog] at hj ⊢
        rw [htimer]
        -- the check passes over a task that does not count, and remembers the others
        by_cases huse : s.watchdog.taskCounters j = 0
        · have hremembered : s.watchdog.checked.previousTaskCounters j =
              s.watchdog.previousTaskCounters j := if_neg (not_not.2 huse)
          rw [hremembered] at hj ⊢
          have hle := (expired_watchdogTimer.1 hexpired).2
          exact h.previous_append hj (by omega)
        · have hremembered : s.watchdog.checked.previousTaskCounters j =
              s.watchdog.taskCounters j := if_pos huse
          rw [hremembered]
          exact ⟨es, i, [], rfl, h.counter j, Nat.le_add_left ..⟩
    · rw [if_neg hexpired] at hwatchdog
      rw [if_neg (mt expired_watchdogTimer.2 hexpired)] at htimer
      refine ⟨?_, ?_⟩
      · rw [hwatchdog]
        exact h.counter_append hcount
      · intro j hj
        rw [hwatchdog] at hj ⊢
        rw [htimer]
        exact h.previous_append hj (by omega)

/-- **One event.** -/
theorem Checked.stepState (h : Checked es s) (hs : s.restarting = false) (e : Event) :
    Checked (es ++ [e]) (Controller.stepState s e) := by
  cases e with
  | pass i => exact h.pass hs i
  | setTimer timer value =>
    exact h.of_not_pass (by simp) (h.counter_append fun _ => rfl) rfl
  | countTask k =>
    refine h.of_not_pass (by simp) ?_ rfl
    intro j
    rw [counts_append, BitVec.ofNat_add, ← h.counter j]
    by_cases hj : j = k
    · subst hj
      simp [Controller.stepState, counts, isCount]
    · simp [Controller.stepState, counts, isCount, hj, Ne.symm hj]
  | heartbeat bits => exact h.of_not_pass (by simp) (h.counter_append fun _ => rfl) rfl
  | resetSocket => exact h.of_not_pass (by simp) (h.counter_append fun _ => rfl) rfl
  | setLed1GreenDefaultState on =>
    exact h.of_not_pass (by simp) (h.counter_append fun _ => rfl) rfl

/-- **A run.** -/
theorem checked_of_run (h₀ : controller.init s₀) (h : controller.run s₀ es = some s) :
    Checked es s := by
  induction es using List.reverseRecOn generalizing s with
  | nil =>
    obtain ⟨version, cloudState, defaultState, rfl⟩ := h₀
    cases h
    exact checked_initial version cloudState defaultState
  | append_singleton es e ih =>
    obtain ⟨t, ht, hrestarting, rfl⟩ := exists_of_run_append h
    exact (ih ht).stepState hrestarting e

/-- **The system is reset only for a task that has stalled**: it has counted, and at a check at
least five minutes ago its counter was what it is now, so it has not counted since, unless it has
counted so often that the counter has come around. -/
theorem counts_of_reboot (h₀ : controller.init s₀) (h : controller.run s₀ es = some s)
    (hreboot : .reboot j ∈ actions s (.pass i)) :
    ∃ before i' after, es = before ++ .pass i' :: after ∧ 0 < counts j before ∧
      2 ^ 32 ∣ counts j after ∧ watchdogTime ≤ ticks after + i.tickCount.toNat := by
  obtain ⟨hexpired, hstalled⟩ := reboot_iff.1 hreboot
  obtain ⟨hne, hle⟩ := expired_watchdogTimer.1 hexpired
  simp only [stalled, Bool.and_eq_true, decide_eq_true_iff] at hstalled
  obtain ⟨huse, hsame⟩ := hstalled
  have hchecked := checked_of_run h₀ h
  obtain ⟨before, i', after, hes, hvalue, hlong⟩ := hchecked.previous j (hsame ▸ huse)
  have hcounts : counts j es = counts j before + counts j after := by
    rw [hes, counts_append, counts_pass_cons]
  have hequal : counts j before % 2 ^ 32 = (counts j before + counts j after) % 2 ^ 32 := by
    rw [← hcounts, ← BitVec.toNat_ofNat, ← BitVec.toNat_ofNat, ← hvalue, hsame,
      hchecked.counter j]
  refine ⟨before, i', after, hes, ?_, ?_, by omega⟩
  · refine Nat.pos_of_ne_zero ?_
    intro hzero
    rw [hzero] at hvalue
    exact huse (hsame.symm.trans hvalue)
  · omega

/-- A round of five minutes. -/
def fiveMinutes : Inputs := ⟨300000, false, true, true, true, 0⟩

/-- A task that has counted once. -/
def countedOnce : State := stepState (State.initial 0 true true) (.countTask 1)

/-- A task that counts once, and is looked at twice. -/
theorem counts_of_reboot_once :
    ∃ before i' after, [.countTask 1, .pass fiveMinutes] = before ++ .pass i' :: after ∧
      0 < counts 1 before ∧ 2 ^ 32 ∣ counts 1 after ∧
      watchdogTime ≤ ticks after + fiveMinutes.tickCount.toNat :=
  counts_of_reboot (s := stepState countedOnce (.pass fiveMinutes)) ⟨0, true, true, rfl⟩ rfl
    (reboot_iff.2 ⟨by decide, by decide⟩)

/-! ### Every task that stalls is noticed -/

/-- The time after which a task that counts no more has been noticed: a check has to remember its
counter before another one finds it unchanged. -/
def need (limit : ℕ) (j : Fin numTasksPlusOne) (s : State) : ℕ :=
  if s.watchdog.previousTaskCounters j = s.watchdog.taskCounters j then watchdogTimer s
  else watchdogTimer s + (watchdogTime + limit)

theorem watchdogTimer_le_need (limit : ℕ) (j : Fin numTasksPlusOne) (s : State) :
    watchdogTimer s ≤ need limit j s := by
  rw [need]
  split <;> omega

/-- The timer of the watchdog runs. -/
def Runs (s : State) : Prop := 0 < watchdogTimer s ∧ watchdogTimer s ≤ watchdogTime

theorem Runs.stepState (h : Runs s) (hs : s.restarting = false) (e : Event) :
    Runs (Controller.stepState s e) := by
  by_cases hpass : ∃ i, e = .pass i
  · obtain ⟨i, rfl⟩ := hpass
    by_cases htick : i.tickCount = 0
    · rw [Controller.stepState, Controller.pass, if_pos htick]
      exact h
    · have htimer := watchdogTimer_pass htick hs
      simp only [Runs, Controller.stepState, htimer]
      split
      · exact ⟨by decide, Nat.le_refl _⟩
      · obtain ⟨hpos, hle⟩ := h
        omega
  · have hsame := watchdogTimer_stepState_of_not_pass (s := s) fun i hi => hpass ⟨i, hi⟩
    rw [Runs, hsame]
    exact h

theorem runs_of_reachable (h : controller.Reachable s) : Runs s := by
  refine h.invariant ?_ ?_
  · rintro s ⟨version, cloudState, defaultState, rfl⟩
    change 0 < 300000 ∧ 300000 ≤ 300000
    decide
  · intro s e s' hs hstep
    obtain ⟨hrestarting, rfl⟩ := step_eq hstep
    exact hs.stepState hrestarting e

/-- **One event**, at which the task does not count: the system is reset for it, or the time that
passes is taken off what is needed. -/
theorem reboot_or_need (hruns : Runs s) (hs : s.restarting = false)
    (huse : s.watchdog.taskCounters j ≠ 0) (hcount : e ≠ .countTask j)
    (hlimit : ∀ i, e = .pass i → i.tickCount.toNat ≤ limit) :
    .reboot j ∈ actions s e ∨
      ((stepState s e).watchdog.taskCounters j = s.watchdog.taskCounters j ∧
        need limit j (stepState s e) + ticksOf e ≤ need limit j s) := by
  cases e with
  | pass i =>
    by_cases htick : i.tickCount = 0
    · have hsame : stepState s (.pass i) = s := by
        rw [stepState, pass, if_pos htick]
        rfl
      have hzero : ticksOf (.pass i) = 0 := by
        rw [ticksOf, htick]
        rfl
      rw [hsame, hzero]
      exact .inr ⟨rfl, Nat.le_refl _⟩
    · have hle := hlimit i rfl
      have hwatchdog := watchdog_pass htick hs
      have htimer := watchdogTimer_pass htick hs
      by_cases hexpired : expired s.timers.checkWatchdogCountersTimer i.tickCount = true
      · rw [if_pos hexpired] at hwatchdog
        rw [if_pos (expired_watchdogTimer.1 hexpired)] at htimer
        -- the first check remembers the counter, and the second one finds it unchanged
        by_cases hsame : s.watchdog.previousTaskCounters j = s.watchdog.taskCounters j
        · refine .inl (reboot_iff.2 ⟨hexpired, ?_⟩)
          simp only [stalled, Bool.and_eq_true, decide_eq_true_iff]
          exact ⟨huse, hsame⟩
        · right
          have hremembered : s.watchdog.checked.previousTaskCounters j =
              s.watchdog.checked.taskCounters j := if_pos huse
          refine ⟨by rw [stepState, hwatchdog]; rfl, ?_⟩
          rw [stepState, need, need, hwatchdog, if_pos hremembered, if_neg hsame, htimer, ticksOf]
          omega
      · rw [if_neg hexpired] at hwatchdog
        have hlong := mt expired_watchdogTimer.2 hexpired
        rw [if_neg hlong] at htimer
        have hpos := hruns.1
        right
        refine ⟨by rw [stepState, hwatchdog], ?_⟩
        rw [stepState, need, need, hwatchdog, htimer, ticksOf]
        split <;> omega
  | countTask k =>
    have hne : j ≠ k := fun h => hcount (h ▸ rfl)
    right
    have hcounter : (stepState s (.countTask k)).watchdog.taskCounters j =
        s.watchdog.taskCounters j := by
      simp [stepState, hne]
    refine ⟨hcounter, ?_⟩
    rw [need, hcounter]
    exact Nat.le_refl _
  | setTimer timer value =>
    right
    refine ⟨rfl, ?_⟩
    rw [need, watchdogTimer_stepState_of_not_pass (by simp)]
    exact Nat.le_refl _
  | heartbeat bits => exact .inr ⟨rfl, Nat.le_refl _⟩
  | resetSocket => exact .inr ⟨rfl, Nat.le_refl _⟩
  | setLed1GreenDefaultState on => exact .inr ⟨rfl, Nat.le_refl _⟩

/-- **A part of a run** in which the task does not count and that takes as long as is needed. -/
theorem reboot_of_need (hruns : Runs s) (huse : s.watchdog.taskCounters j ≠ 0)
    (h : controller.run s es = some s') (hcount : .countTask j ∉ es)
    (hlimit : ∀ i : Inputs, .pass i ∈ es → i.tickCount.toNat ≤ limit)
    (hlong : need limit j s ≤ ticks es) : .reboot j ∈ controller.trace actions s es := by
  induction es generalizing s with
  | nil =>
    have hpos := hruns.1
    have hle := watchdogTimer_le_need limit j s
    have hzero : ticks [] = 0 := rfl
    omega
  | cons e es ih =>
    obtain ⟨t, ht, h⟩ := Option.bind_eq_some_iff.1 h
    obtain ⟨hs, rfl⟩ := step_eq ht
    rw [Machine.trace, ht, Option.elim_some, List.mem_append]
    have hfirst := reboot_or_need hruns hs huse (fun he => hcount (he ▸ List.mem_cons_self ..))
      fun i hi => hlimit i (hi ▸ List.mem_cons_self ..)
    refine hfirst.imp_right ?_
    rintro ⟨hcounter, hneed⟩
    refine ih (hruns.stepState hs e) (by rw [hcounter]; exact huse) h
      (fun he => hcount (List.mem_cons_of_mem _ he))
      (fun i hi => hlimit i (List.mem_cons_of_mem _ hi)) ?_
    rw [ticks_cons] at hlong
    omega

/-- **Every task that stalls is noticed**: if a task is in use and counts no more, the system is
reset for it within ten minutes and the time of a round. -/
theorem reboot_of_stalled (hreachable : controller.Reachable s)
    (huse : s.watchdog.taskCounters j ≠ 0) (h : controller.run s es = some s')
    (hcount : .countTask j ∉ es)
    (hlimit : ∀ i : Inputs, .pass i ∈ es → i.tickCount.toNat ≤ limit)
    (hlong : 2 * watchdogTime + limit ≤ ticks es) : .reboot j ∈ controller.trace actions s es := by
  have hruns := runs_of_reachable hreachable
  refine reboot_of_need hruns huse h hcount hlimit (Nat.le_trans ?_ hlong)
  have hle := hruns.2
  rw [need]
  split <;> omega

/-- A task that counts once, and three rounds. -/
theorem reboot_of_stalled_once :
    .reboot 1 ∈ controller.trace actions countedOnce
      [.pass fiveMinutes, .pass fiveMinutes, .pass fiveMinutes] := by
  have hreachable : controller.Reachable countedOnce :=
    ⟨State.initial 0 true true, [.countTask 1], ⟨0, true, true, rfl⟩, rfl⟩
  have hlimit : ∀ i : Inputs, .pass i ∈
      [Event.pass fiveMinutes, .pass fiveMinutes, .pass fiveMinutes] →
        i.tickCount.toNat ≤ 300000 := by
    simp [fiveMinutes]
  exact reboot_of_stalled hreachable (by decide) rfl (by simp) hlimit (by decide)

end Controller

end Lcm
