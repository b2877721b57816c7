import Mathlib.Data.Nat.Find
import Mathlib.Data.Nat.Notation
import Mathlib.Order.Monotone.Basic

/-!
# The Gregorian calendar

Days are counted from the first of January 1970 on, a Thursday.  The year of a day is the last one
that has begun by then, and so is its month; that this is the inverse of counting the days before a
date follows from the two counts being monotone.

## Main definitions

* `toDays`, `ofDays` : the days before a date, and the date after so many days.
* `Date.Valid` : there is such a date.
* `Date.next` : the next day.

## Main results

* `toDays_ofDays`, `ofDays_toDays` : the conversions are inverse to each other.
* `ofDays_succ` : one day more is the next day.
-/

namespace Lcm

namespace Calendar

/-- A year with 366 days. -/
def isLeapYear (year : ℕ) : Bool := year % 4 = 0 && (year % 100 ≠ 0 || year % 400 = 0)

/-- The length of a year. -/
def daysInYear (year : ℕ) : ℕ := if isLeapYear year then 366 else 365

/-- The length of a month. -/
def daysInMonth (year : ℕ) : ℕ → ℕ
  | 2 => if isLeapYear year then 29 else 28
  | 4 | 6 | 9 | 11 => 30
  | _ => 31

/-- The days before the first day of year `1970 + i`. -/
def daysBeforeYear : ℕ → ℕ
  | 0 => 0
  | i + 1 => daysBeforeYear i + daysInYear (1970 + i)

/-- The days of a year before the first day of month `m + 1`. -/
def daysBeforeMonth (year : ℕ) : ℕ → ℕ
  | 0 => 0
  | m + 1 => daysBeforeMonth year m + daysInMonth year (m + 1)

/-- A year, a month and a day. -/
@[ext] structure Date where
  /-- The year. -/
  year : ℕ
  /-- The month, from 1 on. -/
  month : ℕ
  /-- The day of the month, from 1 on. -/
  day : ℕ
  deriving DecidableEq

/-- There is such a date, and it is not before 1970. -/
structure Date.Valid (d : Date) : Prop where
  /-- The year. -/
  year : 1970 ≤ d.year
  /-- The month. -/
  month : 1 ≤ d.month ∧ d.month ≤ 12
  /-- The day. -/
  day : 1 ≤ d.day ∧ d.day ≤ daysInMonth d.year d.month

/-- The days before a date. -/
def toDays (d : Date) : ℕ :=
  daysBeforeYear (d.year - 1970) + daysBeforeMonth d.year (d.month - 1) + (d.day - 1)

/-- The date after so many days. -/
def ofDays (n : ℕ) : Date :=
  let i := Nat.findGreatest (fun i => daysBeforeYear i ≤ n) (n / 365)
  let yearDay := n - daysBeforeYear i
  let m := Nat.findGreatest (fun m => daysBeforeMonth (1970 + i) m ≤ yearDay) 11
  ⟨1970 + i, m + 1, yearDay - daysBeforeMonth (1970 + i) m + 1⟩

/-- The day of the week, from Sunday on. -/
def weekday (n : ℕ) : ℕ := (n + 4) % 7

/-- The next day. -/
def Date.next (d : Date) : Date :=
  if d.day < daysInMonth d.year d.month then ⟨d.year, d.month, d.day + 1⟩
  else if d.month < 12 then ⟨d.year, d.month + 1, 1⟩
  else ⟨d.year + 1, 1, 1⟩

/-! ### The last entry of a monotone sequence that is not above a number -/

theorem findGreatest_eq {f : ℕ → ℕ} (hf : Monotone f) {i k n : ℕ} (hik : i ≤ k) (hi : f i ≤ n)
    (hn : n < f (i + 1)) : Nat.findGreatest (fun j => f j ≤ n) k = i := by
  rw [Nat.findGreatest_eq_iff]
  refine ⟨hik, fun _ => hi, fun j hj _ hle => ?_⟩
  have hmono : f (i + 1) ≤ f j := hf hj
  omega

theorem findGreatest_spec {f : ℕ → ℕ} (hzero : f 0 = 0) (n k : ℕ) :
    f (Nat.findGreatest (fun j => f j ≤ n) k) ≤ n :=
  Nat.findGreatest_spec (P := fun j => f j ≤ n) (Nat.zero_le k) (hzero.le.trans (Nat.zero_le n))

theorem lt_findGreatest_succ {f : ℕ → ℕ} {n k : ℕ} (hk : n < f (k + 1)) :
    n < f (Nat.findGreatest (fun j => f j ≤ n) k + 1) := by
  by_cases hlast : Nat.findGreatest (fun j => f j ≤ n) k = k
  · rwa [hlast]
  · have hle : Nat.findGreatest (fun j => f j ≤ n) k ≤ k := Nat.findGreatest_le k
    exact Nat.lt_of_not_le
      (Nat.findGreatest_is_greatest (P := fun j => f j ≤ n) (Nat.lt_succ_self _)
        (Nat.lt_of_le_of_ne hle hlast))

/-! ### Years and months -/

theorem daysInYear_bounds (year : ℕ) : 365 ≤ daysInYear year ∧ daysInYear year ≤ 366 := by
  unfold daysInYear
  split <;> omega

theorem daysInMonth_pos (year month : ℕ) : 28 ≤ daysInMonth year month := by
  unfold daysInMonth
  split
  · split <;> omega
  · omega
  · omega
  · omega
  · omega
  · omega

theorem daysBeforeYear_mono : Monotone daysBeforeYear :=
  monotone_nat_of_le_succ fun _ => Nat.le_add_right _ _

theorem daysBeforeMonth_mono (year : ℕ) : Monotone (daysBeforeMonth year) :=
  monotone_nat_of_le_succ fun _ => Nat.le_add_right _ _

/-- No year is shorter than 365 days. -/
theorem le_daysBeforeYear (i : ℕ) : 365 * i ≤ daysBeforeYear i := by
  induction i with
  | zero => exact Nat.le_refl 0
  | succ i ih =>
    have hlength := (daysInYear_bounds (1970 + i)).1
    rw [daysBeforeYear]
    omega

/-- The twelve months make up the year. -/
theorem daysBeforeMonth_twelve (year : ℕ) : daysBeforeMonth year 12 = daysInYear year := by
  simp only [daysBeforeMonth, daysInMonth, daysInYear]
  split <;> rfl

/-! ### The conversions -/

/-- **Counting the days before the date that many days lead to.** -/
theorem toDays_ofDays (n : ℕ) : toDays (ofDays n) = n := by
  have hyear := findGreatest_spec (f := daysBeforeYear) rfl n (n / 365)
  simp only [toDays, ofDays, Nat.add_sub_cancel, Nat.add_sub_cancel_left]
  generalize Nat.findGreatest (fun i => daysBeforeYear i ≤ n) (n / 365) = i at hyear ⊢
  have hmonth := findGreatest_spec (f := daysBeforeMonth (1970 + i)) rfl (n - daysBeforeYear i) 11
  omega

theorem valid_ofDays (n : ℕ) : (ofDays n).Valid := by
  have hbound : n < daysBeforeYear (n / 365 + 1) := by
    have hle := le_daysBeforeYear (n / 365 + 1)
    omega
  have hyear := lt_findGreatest_succ hbound
  simp only [ofDays]
  generalize Nat.findGreatest (fun i => daysBeforeYear i ≤ n) (n / 365) = i at hyear ⊢
  have htwelve : n - daysBeforeYear i < daysBeforeMonth (1970 + i) (11 + 1) := by
    have hpos := (daysInYear_bounds (1970 + i)).1
    rw [daysBeforeYear] at hyear
    rw [daysBeforeMonth_twelve]
    omega
  have hmonth := lt_findGreatest_succ htwelve
  have hle := findGreatest_spec (f := daysBeforeMonth (1970 + i)) rfl (n - daysBeforeYear i) 11
  have heleven := Nat.findGreatest_le (P := fun m => daysBeforeMonth (1970 + i) m ≤
    n - daysBeforeYear i) 11
  generalize Nat.findGreatest (fun m => daysBeforeMonth (1970 + i) m ≤ n - daysBeforeYear i) 11 = m
    at hmonth hle heleven ⊢
  rw [daysBeforeMonth] at hmonth
  exact ⟨by simp only; omega, by simp only; omega, by simp only; omega⟩

/-- **The date that the days before a date lead to.** -/
theorem ofDays_toDays {d : Date} (h : d.Valid) : ofDays (toDays d) = d := by
  obtain ⟨hyear, hmonth, hday⟩ := h
  obtain ⟨year, month, day⟩ := d
  simp only at hyear hmonth hday
  obtain ⟨i, rfl⟩ := Nat.exists_eq_add_of_le hyear
  obtain ⟨m, rfl⟩ := Nat.exists_eq_add_of_le' hmonth.1
  -- the day lies within the month, and the month within the year
  have hm : daysBeforeMonth (1970 + i) (m + 1) ≤ daysBeforeMonth (1970 + i) 12 :=
    daysBeforeMonth_mono _ hmonth.2
  rw [daysBeforeMonth_twelve, daysBeforeMonth] at hm
  have hstart : daysBeforeYear (i + 1) = daysBeforeYear i + daysInYear (1970 + i) := rfl
  have hi : Nat.findGreatest (fun j => daysBeforeYear j ≤ toDays ⟨1970 + i, m + 1, day⟩)
      (toDays ⟨1970 + i, m + 1, day⟩ / 365) = i := by
    have hle := le_daysBeforeYear i
    refine findGreatest_eq daysBeforeYear_mono ?_ ?_ ?_ <;>
      simp only [toDays, Nat.add_sub_cancel, Nat.add_sub_cancel_left] <;> omega
  have hrest : toDays ⟨1970 + i, m + 1, day⟩ - daysBeforeYear i =
      daysBeforeMonth (1970 + i) m + (day - 1) := by
    simp only [toDays, Nat.add_sub_cancel, Nat.add_sub_cancel_left]
    omega
  have hmonth : Nat.findGreatest (fun j => daysBeforeMonth (1970 + i) j ≤
      daysBeforeMonth (1970 + i) m + (day - 1)) 11 = m := by
    refine findGreatest_eq (daysBeforeMonth_mono _) (by omega) (by omega) ?_
    rw [daysBeforeMonth]
    omega
  simp only [ofDays, hi, hrest, hmonth, Date.mk.injEq, true_and]
  omega

/-! ### The next day -/

theorem Date.Valid.next {d : Date} (h : d.Valid) : d.next.Valid := by
  obtain ⟨hyear, hmonth, hday⟩ := h
  unfold Date.next
  split
  · exact ⟨hyear, hmonth, by simp only; omega⟩
  · split
    · have hlength := daysInMonth_pos d.year (d.month + 1)
      exact ⟨hyear, by simp only; omega, by simp only; omega⟩
    · have hlength := daysInMonth_pos (d.year + 1) 1
      exact ⟨by simp only; omega, by simp only; omega, by simp only; omega⟩

theorem toDays_next {d : Date} (h : d.Valid) : toDays d.next = toDays d + 1 := by
  obtain ⟨hyear, hmonth, hday⟩ := h
  obtain ⟨year, month, day⟩ := d
  simp only at hyear hmonth hday
  obtain ⟨m, rfl⟩ := Nat.exists_eq_add_of_le' hmonth.1
  unfold Date.next
  split
  · rename_i hlt
    simp only [toDays]
    omega
  · rename_i hlast
    simp only at hlast
    split
    · simp only [toDays, Nat.add_sub_cancel, daysBeforeMonth]
      omega
    · -- the last day of December
      rename_i hlong
      obtain rfl : m = 11 := by simp only at hlong; omega
      obtain ⟨i, rfl⟩ := Nat.exists_eq_add_of_le hyear
      have hday : day = daysInMonth (1970 + i) 12 :=
        Nat.le_antisymm hday.2 (Nat.le_of_not_lt hlast)
      have hlength : daysBeforeMonth (1970 + i) 11 + daysInMonth (1970 + i) 12 =
          daysInYear (1970 + i) := daysBeforeMonth_twelve _
      have hzero : daysBeforeMonth (1970 + i + 1) 0 = 0 := rfl
      simp only [toDays, Nat.sub_self, Nat.add_sub_cancel, hzero]
      rw [Nat.add_assoc 1970 i 1, Nat.add_sub_cancel_left, Nat.add_sub_cancel_left, daysBeforeYear]
      omega

/-- **One day more is the next day.** -/
theorem ofDays_succ (n : ℕ) : ofDays (n + 1) = (ofDays n).next := by
  have hnext := toDays_next (valid_ofDays n)
  rw [toDays_ofDays] at hnext
  rw [← hnext, ofDays_toDays (valid_ofDays n).next]

/-- The first of September 2015 was a Tuesday. -/
example : ofDays 16679 = ⟨2015, 9, 1⟩ ∧ weekday 16679 = 2 := by decide +kernel

end Calendar

end Lcm
