import Lcm.Schedule.Time

/-!
# Daylight saving time

Daylight saving time begins on the second Sunday in March and ends on the first Sunday in November,
both at 2:00.  In the hour before the end, which happens twice, it is in effect as long as the flag
says so.

## Main definitions

* `isItDST` : the function of the source.
* `InDST` : when it is in effect.

## Main results

* `isItDST_add_hour` : it is still in effect when the clock has been put forward.
* `isItDST_sub_hour` : it is still not in effect when the clock has been put back.
-/

namespace Lcm

namespace Schedule

open Flash

/-- `isItDST`; the flag is the one at the time of the call. -/
def isItDST (inDST : Bool) (myTime : DateStruct) : Bool :=
  if myTime.month < 3 ∨ myTime.month > 11 then false
  else if myTime.month > 3 ∧ myTime.month < 11 then true
  else if myTime.month = 3 then
    if myTime.day < 8 then false
    else if myTime.day ≥ 8 ∧ myTime.day ≤ 14 then
      if myTime.wday = 0 then
        if myTime.hour < 2 then false else true
      else if (myTime.day : ℤ) - 7 > myTime.wday then true
      else false
    else true
  else
    if myTime.day ≤ 7 then
      if myTime.wday = 0 then
        if myTime.hour ≥ 2 then false
        else if myTime.hour < 1 then true
        else inDST
      else if myTime.day > myTime.wday then false
      else true
    else false

/-- Daylight saving time is in effect: from the second Sunday in March to the first in November. -/
def InDST (inDST : Bool) (d : DateStruct) : Prop :=
  3 < d.month ∧ d.month < 11 ∨
    d.month = 3 ∧ (14 < d.day ∨ 8 ≤ d.day ∧ (d.wday = 0 ∧ 2 ≤ d.hour ∨
      d.wday ≠ 0 ∧ d.wday + 7 < d.day)) ∨
    d.month = 11 ∧ d.day ≤ 7 ∧ (d.wday = 0 ∧ (d.hour < 1 ∨ d.hour < 2 ∧ inDST = true) ∨
      d.wday ≠ 0 ∧ d.day ≤ d.wday)

/-- In March, it is in effect from the second Sunday on. -/
theorem isItDST_of_march {inDST : Bool} {d : DateStruct} (hmonth : d.month = 3) :
    isItDST inDST d = true ↔ 14 < d.day ∨ 8 ≤ d.day ∧ (d.wday = 0 ∧ 2 ≤ d.hour ∨
      d.wday ≠ 0 ∧ d.wday + 7 < d.day) := by
  rw [isItDST, if_neg (by omega), if_neg (by omega), if_pos hmonth]
  by_cases hfirst : d.day < 8
  · rw [if_pos hfirst, Bool.false_eq_true, false_iff]
    omega
  rw [if_neg hfirst]
  by_cases hweek : d.day ≥ 8 ∧ d.day ≤ 14
  · rw [if_pos hweek]
    split_ifs <;> simp only [false_iff, true_iff] <;> omega
  · rw [if_neg hweek, eq_self, true_iff]
    omega

/-- In November, it is in effect up to the first Sunday. -/
theorem isItDST_of_november {inDST : Bool} {d : DateStruct} (hmonth : d.month = 11) :
    isItDST inDST d = true ↔ d.day ≤ 7 ∧ (d.wday = 0 ∧ (d.hour < 1 ∨ d.hour < 2 ∧ inDST = true) ∨
      d.wday ≠ 0 ∧ d.day ≤ d.wday) := by
  rw [isItDST, if_neg (by omega), if_neg (by omega), if_neg (by omega)]
  by_cases hweek : d.day ≤ 7
  · rw [if_pos hweek]
    cases inDST <;> split_ifs <;>
      simp only [and_false, or_false, and_true, false_iff, true_iff] <;> omega
  · rw [if_neg hweek, Bool.false_eq_true, false_iff]
    omega

theorem isItDST_iff {inDST : Bool} {d : DateStruct} :
    isItDST inDST d = true ↔ InDST inDST d := by
  by_cases hmarch : d.month = 3
  · simp [isItDST_of_march hmarch, InDST, hmarch]
  by_cases hnovember : d.month = 11
  · simp [isItDST_of_november hnovember, InDST, hnovember]
  -- in any other month, it is in effect all the time or not at all
  rw [InDST, or_iff_left (by simp [hmarch, hnovember]), isItDST]
  by_cases hwinter : d.month < 3 ∨ d.month > 11
  · rw [if_pos hwinter, Bool.false_eq_true, false_iff]
    omega
  · have hsummer : d.month > 3 ∧ d.month < 11 := by omega
    rw [if_neg hwinter, if_pos hsummer, eq_self, true_iff]
    exact hsummer

/-! ### The clock is put forward -/

/-- One hour later, on the same day or on the next one. -/
def HourLater (d d' : DateStruct) : Prop :=
  d'.year = d.year ∧ d'.month = d.month ∧ d'.day = d.day ∧ d'.wday = d.wday ∧ d'.hour = d.hour + 1 ∨
    d.hour = 23 ∧ d'.hour = 0 ∧ d'.wday = (d.wday + 1) % 7 ∧
      (⟨d'.year, d'.month, d'.day⟩ : Calendar.Date) = Calendar.Date.next ⟨d.year, d.month, d.day⟩

theorem hourLater_dateOfSeconds (n ms ms' : ℕ) :
    HourLater (dateOfSeconds n ms) (dateOfSeconds (n + 3600) ms') := by
  by_cases hlast : n / 3600 % 24 = 23
  · have hday : (n + 3600) / 86400 = n / 86400 + 1 := by omega
    refine .inr ⟨hlast, ?_, ?_, ?_⟩
    · show (n + 3600) / 3600 % 24 = 0
      omega
    · show Calendar.weekday ((n + 3600) / 86400) = (Calendar.weekday (n / 86400) + 1) % 7
      unfold Calendar.weekday
      omega
    · show Calendar.ofDays ((n + 3600) / 86400) = (Calendar.ofDays (n / 86400)).next
      rw [hday, Calendar.ofDays_succ]
  · have hday : (n + 3600) / 86400 = n / 86400 := by omega
    have hhour : (n + 3600) / 3600 % 24 = n / 3600 % 24 + 1 := by omega
    exact .inl ⟨by simp only [dateOfSeconds, hday], by simp only [dateOfSeconds, hday],
      by simp only [dateOfSeconds, hday], by simp only [dateOfSeconds, hday], hhour⟩

/-- **An hour later it is still in effect**, if the flag is set then: also in the hour before the
end, and the end is not before the beginning. -/
theorem InDST.hourLater {d d' : DateStruct} (h : InDST false d) (hlater : HourLater d d')
    (hday : 1 ≤ d.day) (hwday : d.wday < 7) : InDST true d' := by
  simp only [InDST, Bool.false_eq_true, and_false, or_false] at h
  simp only [InDST, and_true]
  rcases hlater with ⟨-, hmonth, hday', hwday', hhour⟩ | ⟨hhour, hhour', hwday', hnext⟩
  · rw [hmonth, hday', hwday', hhour]
    omega
  · have hlength := Calendar.daysInMonth_pos d.year d.month
    simp only [Calendar.Date.next] at hnext
    split_ifs at hnext with hinside hyear
    · obtain ⟨-, hmonth, hday'⟩ := Calendar.Date.mk.inj hnext
      omega
    · obtain ⟨-, hmonth, hday'⟩ := Calendar.Date.mk.inj hnext
      omega
    · -- not in December
      omega

/-! ### The clock -/

theorem dateOfSeconds_day_pos (n ms : ℕ) : 1 ≤ (dateOfSeconds n ms).day :=
  (Calendar.valid_ofDays _).day.1

theorem dateOfSeconds_wday_lt (n ms : ℕ) : (dateOfSeconds n ms).wday < 7 :=
  Nat.mod_lt _ (by decide)

/-- The last hour before the clock wraps is in February 2106. -/
theorem isItDST_lastHour {inDST : Bool} {n : ℕ} (ms : ℕ) (hn : 2 ^ 32 - 3600 ≤ n)
    (hlt : n < 2 ^ 32) : isItDST inDST (dateOfSeconds n ms) = false := by
  have hday : n / 86400 = 49710 := by omega
  have hmonth : (dateOfSeconds n ms).month = 2 := by
    show (Calendar.ofDays (n / 86400)).month = 2
    rw [hday]
    decide +kernel
  rw [isItDST, if_pos (.inl (by omega))]

/-- **When the clock has been put forward, it is still in effect.** -/
theorem isItDST_add_hour {time : TimeStruct} (h : isItDST false (timeToDate time) = true) :
    isItDST true (timeToDate { time with seconds := time.seconds + 3600 }) = true := by
  have hlt : time.seconds.toNat < 2 ^ 32 := time.seconds.isLt
  have hwrap : time.seconds.toNat + 3600 < 2 ^ 32 := by
    by_contra hwrap
    have hfalse : isItDST false (timeToDate time) = false := isItDST_lastHour _ (by omega) hlt
    exact absurd (h.symm.trans hfalse) (by decide)
  have hsum : (time.seconds + 3600).toNat = time.seconds.toNat + 3600 := by
    rw [BitVec.toNat_add]
    exact Nat.mod_eq_of_lt hwrap
  rw [isItDST_iff] at h ⊢
  simp only [timeToDate, hsum]
  exact h.hourLater (hourLater_dateOfSeconds _ _ _) (dateOfSeconds_day_pos _ _)
    (dateOfSeconds_wday_lt _ _)

/-- **When the clock has been put back, it is still not in effect.** -/
theorem isItDST_sub_hour {time : TimeStruct} (h : isItDST true (timeToDate time) = false) :
    isItDST false (timeToDate { time with seconds := time.seconds + -3600 }) = false := by
  have hback : time.seconds + -3600 + 3600 = time.seconds := by
    rw [BitVec.add_assoc, show (-3600 : Dword) + 3600 = 0#32 by decide, BitVec.add_zero]
  by_contra hnot
  have hforward := isItDST_add_hour (eq_true_of_ne_false hnot)
  simp only [hback] at hforward
  exact absurd (hforward.symm.trans h) (by decide)

end Schedule

end Lcm
