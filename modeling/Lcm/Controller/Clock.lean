import Lcm.Crc
import Mathlib.Data.Nat.Notation
import Mathlib.Tactic.Linarith

/-!
# The milliseconds that have passed

`GetTickCount` returns the whole milliseconds since it was called before.  It measures them from a
reading of the clock that it keeps for more than 100 seconds, so that what is lost by rounding does
not add up; when it takes a new reading, less than a millisecond is lost for good.

What the clock of the operating system reads and how the difference of two readings is found are
parameters.

## Main definitions

* `Clock`, `GetTickCount` : the function with its static variables.
* `Measures` : the differences are whole milliseconds, rounded down.
* `total` : the sum of what it returns for some readings.

## Main results

* `total_bounds` : the sum never runs ahead of the time, and it loses at most one millisecond in 100
  seconds.
-/

namespace Lcm

namespace Controller

/-- The static variables of `GetTickCount`, after the first call. -/
structure Clock where
  lastTickCount : ℕ
  lastTicksDelta : ℤ
  deriving DecidableEq

section Clock

variable (timeDiffMilliseconds : ℕ → ℕ → ℤ)

/-- `GetTickCount`; there are no static variables as long as `firstTimeFlag` is set. -/
def GetTickCount (clock : Option Clock) (newTickCount : ℕ) : ℤ × Clock :=
  match clock with
  | none => (0, ⟨newTickCount, 0⟩)
  | some clock =>
    let ticksDelta := timeDiffMilliseconds newTickCount clock.lastTickCount
    let returnTicks := ticksDelta - clock.lastTicksDelta
    let clock' : Clock :=
      if 100000 < ticksDelta then ⟨newTickCount, 0⟩ else ⟨clock.lastTickCount, ticksDelta⟩
    (if returnTicks < 0 then 0 else returnTicks, clock')

/-- The sum of what `GetTickCount` returns, and the static variables after it. -/
def total (clock : Option Clock) : List ℕ → ℤ × Option Clock
  | [] => (0, clock)
  | newTickCount :: readings =>
    let (ticks, clock) := GetTickCount timeDiffMilliseconds clock newTickCount
    let (sum, clock) := total (some clock) readings
    (ticks + sum, clock)

/-- The difference of two readings is given in whole milliseconds of `unit` each. -/
structure Measures (unit : ℕ) : Prop where
  pos : 0 < unit
  diff : ∀ earlier later, earlier ≤ later →
    timeDiffMilliseconds later earlier = ((later - earlier) / unit : ℕ)

variable {timeDiffMilliseconds} {unit first : ℕ} {clock : Clock}

/-- What is known after some calls: the time until the reading that is kept has been counted but for
less than a millisecond for each of the `rebases` earlier ones, and each of those was kept for more
than 100 seconds. -/
structure Counted (unit first now : ℕ) (clock : Clock) (sum : ℤ) : Prop where
  first_le : first ≤ clock.lastTickCount
  le_now : clock.lastTickCount ≤ now
  delta : clock.lastTicksDelta = ((now - clock.lastTickCount) / unit : ℕ)
  counted : ∃ whole rebases : ℕ, sum = whole + clock.lastTicksDelta ∧ 100001 * rebases ≤ whole ∧
    whole * unit ≤ clock.lastTickCount - first ∧
    clock.lastTickCount - first ≤ whole * unit + rebases * (unit - 1)

theorem counted_first (unit now : ℕ) :
    Counted unit now now ⟨now, 0⟩ 0 := by
  refine ⟨Nat.le_refl _, Nat.le_refl _, by simp, 0, 0, by simp, by simp, by simp, by simp⟩

/-- **One call.** -/
theorem Counted.getTickCount {now now' : ℕ} {sum : ℤ} (h : Counted unit first now clock sum)
    (hmeasures : Measures timeDiffMilliseconds unit) (hnow : now ≤ now') :
    Counted unit first now' (GetTickCount timeDiffMilliseconds (some clock) now').2
      (sum + (GetTickCount timeDiffMilliseconds (some clock) now').1) := by
  obtain ⟨hfirst, hle, hdelta, whole, rebases, hsum, hrebases, hlow, hhigh⟩ := h
  have hdiff := hmeasures.diff clock.lastTickCount now' (Nat.le_trans hle hnow)
  have hmono : (now - clock.lastTickCount) / unit ≤ (now' - clock.lastTickCount) / unit :=
    Nat.div_le_div_right (Nat.sub_le_sub_right hnow _)
  have hticks : (GetTickCount timeDiffMilliseconds (some clock) now').1 =
      ((now' - clock.lastTickCount) / unit : ℕ) - clock.lastTicksDelta := by
    simp only [GetTickCount, hdiff]
    rw [if_neg]
    rw [hdelta]
    omega
  rw [hticks]
  by_cases hlong : (100000 : ℤ) < ((now' - clock.lastTickCount) / unit : ℕ)
  · have hclock : (GetTickCount timeDiffMilliseconds (some clock) now').2 = ⟨now', 0⟩ := by
      simp only [GetTickCount, hdiff, if_pos hlong]
    have hdivision := Nat.div_add_mod (now' - clock.lastTickCount) unit
    have hmod := Nat.mod_lt (now' - clock.lastTickCount) hmeasures.pos
    rw [hclock]
    refine ⟨Nat.le_trans hfirst (Nat.le_trans hle hnow), Nat.le_refl _, by simp,
      whole + (now' - clock.lastTickCount) / unit, rebases + 1, by push_cast; omega, by omega,
      ?_, ?_⟩
    · rw [Nat.add_mul, Nat.mul_comm ((now' - clock.lastTickCount) / unit)]
      change _ ≤ now' - first
      omega
    · rw [Nat.add_mul, Nat.add_mul, Nat.mul_comm ((now' - clock.lastTickCount) / unit)]
      change now' - first ≤ _
      omega
  · have hclock : (GetTickCount timeDiffMilliseconds (some clock) now').2 =
        ⟨clock.lastTickCount, ((now' - clock.lastTickCount) / unit : ℕ)⟩ := by
      simp only [GetTickCount, hdiff, if_neg hlong]
    rw [hclock]
    refine ⟨hfirst, Nat.le_trans hle hnow, rfl, whole, rebases, ?_, hrebases, hlow, hhigh⟩
    change _ = (whole : ℤ) + ((now' - clock.lastTickCount) / unit : ℕ)
    omega

/-- **Any number of calls**, with readings that do not go back. -/
theorem Counted.total {now : ℕ} {sum : ℤ} (h : Counted unit first now clock sum)
    (hmeasures : Measures timeDiffMilliseconds unit) {readings : List ℕ}
    (hreadings : (now :: readings).IsChain (· ≤ ·)) :
    ∃ clock', (Controller.total timeDiffMilliseconds (some clock) readings).2 = some clock' ∧
      Counted unit first ((now :: readings).getLast (by simp)) clock'
        (sum + (Controller.total timeDiffMilliseconds (some clock) readings).1) := by
  induction readings generalizing now clock sum with
  | nil => exact ⟨clock, rfl, by simpa [Controller.total] using h⟩
  | cons now' readings ih =>
    obtain ⟨hle, hchain⟩ := List.isChain_cons_cons.1 hreadings
    obtain ⟨clock', hclock', hcounted⟩ := ih (h.getTickCount hmeasures hle) hchain
    refine ⟨clock', hclock', ?_⟩
    rw [List.getLast_cons (by simp), Controller.total, ← add_assoc]
    exact hcounted

/-- **The milliseconds that are counted**: not more than have passed, and of 100 seconds at most one
millisecond less. -/
theorem total_bounds (hmeasures : Measures timeDiffMilliseconds unit) {first : ℕ}
    {readings : List ℕ} (hreadings : (first :: readings).IsChain (· ≤ ·)) :
    ∃ sum : ℕ, (total timeDiffMilliseconds none (first :: readings)).1 = sum ∧
      sum ≤ ((first :: readings).getLast (by simp) - first) / unit ∧
      ((first :: readings).getLast (by simp) - first) / unit ≤ sum + sum / 100001 := by
  obtain ⟨clock, -, hfirst, hle, hdelta, whole, rebases, hsum, hrebases, hlow, hhigh⟩ :=
    (counted_first unit first).total hmeasures hreadings
  have htotal : (total timeDiffMilliseconds none (first :: readings)).1 =
      0 + (total timeDiffMilliseconds (some ⟨first, 0⟩) readings).1 := rfl
  generalize (first :: readings).getLast (by simp) = last at *
  have hpos := hmeasures.pos
  have hdivision := Nat.div_add_mod (last - clock.lastTickCount) unit
  have hmod := Nat.mod_lt (last - clock.lastTickCount) hpos
  refine ⟨whole + (last - clock.lastTickCount) / unit, ?_, ?_, ?_⟩
  · rw [htotal, hsum, hdelta]
    push_cast
    rfl
  · rw [Nat.le_div_iff_mul_le hpos, Nat.add_mul,
      Nat.mul_comm ((last - clock.lastTickCount) / unit)]
    omega
  · have hwhole := Nat.le_add_right whole ((last - clock.lastTickCount) / unit)
    have hrounds : rebases ≤ (whole + (last - clock.lastTickCount) / unit) / 100001 := by
      rw [Nat.le_div_iff_mul_le (by decide), Nat.mul_comm]
      exact Nat.le_trans hrebases hwhole
    refine Nat.le_trans (Nat.le_of_lt_succ ((Nat.div_lt_iff_lt_mul hpos).2 ?_))
      (Nat.add_le_add_left hrounds _)
    have hexpand : (whole + (last - clock.lastTickCount) / unit + rebases).succ * unit =
        whole * unit + unit * ((last - clock.lastTickCount) / unit) + rebases * unit + unit := by
      rw [Nat.succ_mul, Nat.add_mul, Nat.add_mul,
        Nat.mul_comm ((last - clock.lastTickCount) / unit)]
    have hlost : rebases * (unit - 1) ≤ rebases * unit :=
      Nat.mul_le_mul_left _ (Nat.sub_le ..)
    rw [hexpand]
    omega

/-- A clock of microseconds, read three times. -/
theorem total_bounds_three :
    ∃ sum : ℕ, (total (fun later earlier => ((later - earlier) / 1000 : ℕ)) none
        [5, 70000999, 150002000]).1 = sum ∧
      sum ≤ ([5, 70000999, 150002000].getLast (by simp) - 5) / 1000 ∧
      ([5, 70000999, 150002000].getLast (by simp) - 5) / 1000 ≤ sum + sum / 100001 := by
  have hmeasures : Measures (fun later earlier => ((later - earlier) / 1000 : ℕ)) 1000 :=
    ⟨by decide, fun _ _ _ => rfl⟩
  exact total_bounds hmeasures (by simp)

end Clock

end Controller

end Lcm
