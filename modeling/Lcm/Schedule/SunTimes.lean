import Lcm.Conversions
import Lcm.Schedule.Time
import Mathlib.Tactic.Linarith

/-!
# The local time of sunrise and sunset

The minutes of a sunrise in UTC and the offset of the time zone are added.  A sum that is negative
is corrected by one day, and then the sum is taken apart into hours, minutes and seconds, each by a
conversion to `int` that is kept in 16 bits.  The minutes themselves are parameters, as any rational
numbers, and the arithmetic is exact.

## Main definitions

* `getNextSunTimes` : the function of the source, as far as its conversions are defined.
* `IsLocalTime` : the result is a time of the day that was asked for, and the right one.
* `InDay` : the sum is in the day, or in the day before.

## Main results

* `isLocalTime_iff` : when the result is right.
* `inDay_iff_of_small` : for an offset of less than 8191 days the sum has to be in the two days.
* `clock_getNextSunTimes` : a result that is right is one that `calculateNewTrigger` converts.
* `lateSunset_not_isLocalTime` : a sunset after midnight UTC, in a time zone east of Greenwich.
-/

namespace Lcm

namespace Schedule

namespace SunTimes

open Conversions

variable {m : ℚ} {n : ℤ}

/-! ### The function -/

/-- A `DATE_STRUCT` with a new time of day, in 16-bit integers. -/
structure SunDate where
  /-- The fields that are copied. -/
  date : DateStruct
  /-- `HOUR` -/
  HOUR : ℤ
  /-- `MINUTE` -/
  MINUTE : ℤ
  /-- `SECOND` -/
  SECOND : ℤ

/-- `zoneOffsetMin` -/
def zoneOffsetMin (effectiveGmtOffsetSeconds : Dword) : ℤ :=
  effectiveGmtOffsetSeconds.toInt.tdiv 60

/-- The minutes of the day, after the correction. -/
def corrected (utcMinutes : ℚ) : ℚ := if utcMinutes < 0 then utcMinutes + 24 * 60 else utcMinutes

/-- The minutes are taken apart. -/
def takeApart (nextDate : DateStruct) (utcMinutes : ℚ) : Option SunDate := do
  let hour := int16 (← toInt (utcMinutes / (60 : ℕ)))
  let minute := int16 (← toInt (utcMinutes - (hour * 60 : ℤ)))
  let second ← toInt (60 * (utcMinutes - minute - (hour * 60 : ℤ)))
  pure ⟨nextDate, hour, minute, int16 second⟩

/-- `utcMinutes`, before the offset is added; the parameters are the minutes of sunrise and of sunset
on a day, at the location of the system. -/
def utcMinutes (calcSunriseUTC calcSunsetUTC : ℕ → ℕ → ℕ → ℚ) (nextDate : DateStruct)
    (sunriseFlag : Bool) : ℚ :=
  if sunriseFlag then calcSunriseUTC nextDate.year nextDate.month nextDate.day
  else calcSunsetUTC nextDate.year nextDate.month nextDate.day

/-- `getNextSunTimes` -/
def getNextSunTimes (calcSunriseUTC calcSunsetUTC : ℕ → ℕ → ℕ → ℚ)
    (effectiveGmtOffsetSeconds : Dword) (nextDate : DateStruct) (sunriseFlag : Bool) :
    Option SunDate :=
  takeApart nextDate (corrected (utcMinutes calcSunriseUTC calcSunsetUTC nextDate sunriseFlag +
    zoneOffsetMin effectiveGmtOffsetSeconds))

/-! ### What is asked for -/

/-- **A time of the day that was asked for**, at `n` minutes, up to days. -/
def IsLocalTime (nextDate : DateStruct) (n : ℤ) : Option SunDate → Prop
  | none => False
  | some sunTime => sunTime.date = nextDate ∧ (0 ≤ sunTime.HOUR ∧ sunTime.HOUR < 24) ∧
      (0 ≤ sunTime.MINUTE ∧ sunTime.MINUTE < 60) ∧
      (sunTime.HOUR * 60 + sunTime.MINUTE) % 1440 = n % 1440

/-- Three times 65536 hours are a number of days: this is where the hours of a day come again. -/
def turn : ℤ := 3 * 65536 * 60

/-- **The minutes are in the day**, after the correction, or so many turns from it that the
conversions are still defined; before the day only whole hours are. -/
def InDay (m : ℚ) : Prop :=
  ∃ j : ℤ, (-3 ≤ j ∧ j ≤ 3) ∧ (0 ≤ corrected m - (turn * j : ℤ) ∧
    corrected m - (turn * j : ℤ) < 1440) ∧ (0 ≤ j ∨ ∃ q : ℤ, corrected m = (q * 60 : ℤ))

/-! ### Taking apart -/

theorem takeApart_eq_some_iff {nextDate : DateStruct} {d : SunDate} :
    takeApart nextDate m = some d ↔ ∃ hour minute second,
      toInt (m / (60 : ℕ)) = some hour ∧ toInt (m - (int16 hour * 60 : ℤ)) = some minute ∧
        toInt (60 * (m - int16 minute - (int16 hour * 60 : ℤ))) = some second ∧
          d = ⟨nextDate, int16 hour, int16 minute, int16 second⟩ := by
  simp only [takeApart, Option.bind_eq_bind, Option.bind_eq_some_iff, Option.pure_def,
    Option.some.injEq]
  constructor
  · rintro ⟨hour, hhour, minute, hminute, second, hsecond, rfl⟩
    exact ⟨hour, minute, second, hhour, hminute, hsecond, rfl⟩
  · rintro ⟨hour, minute, second, hhour, hminute, hsecond, rfl⟩
    exact ⟨hour, hhour, minute, hminute, second, hsecond, rfl⟩

/-- What is asked for, of the three conversions. -/
theorem isLocalTime_takeApart_iff (nextDate : DateStruct) (m : ℚ) (n : ℤ) :
    IsLocalTime nextDate n (takeApart nextDate m) ↔ ∃ hour minute,
      toInt (m / (60 : ℕ)) = some hour ∧ toInt (m - (int16 hour * 60 : ℤ)) = some minute ∧
        IsInt (trunc (60 * (m - int16 minute - (int16 hour * 60 : ℤ)))) ∧
          (0 ≤ int16 hour ∧ int16 hour < 24) ∧ (0 ≤ int16 minute ∧ int16 minute < 60) ∧
            (int16 hour * 60 + int16 minute) % 1440 = n % 1440 := by
  constructor
  · intro h
    cases hresult : takeApart nextDate m with
    | none =>
      rw [hresult] at h
      exact h.elim
    | some d =>
      rw [hresult] at h
      obtain ⟨hour, minute, second, hhour, hminute, hsecond, rfl⟩ := takeApart_eq_some_iff.1 hresult
      exact ⟨hour, minute, hhour, hminute, isInt_of_toInt hsecond, h.2⟩
  · rintro ⟨hour, minute, hhour, hminute, hsecond, hrest⟩
    rw [takeApart_eq_some_iff.2
      ⟨hour, minute, _, hhour, hminute, toInt_eq_some_iff.2 ⟨rfl, hsecond⟩, rfl⟩]
    exact ⟨rfl, hrest⟩

/-! ### Minutes that are not negative -/

/-- A time of day says how many turns the minutes are off. -/
theorem exists_turn_of_nonneg (hm : 0 ≤ m) {nextDate : DateStruct}
    (h : IsLocalTime nextDate ⌊m⌋ (takeApart nextDate m)) :
    ∃ j : ℤ, (0 ≤ j ∧ j ≤ 3) ∧ 0 ≤ ⌊m⌋ - turn * j ∧ ⌊m⌋ - turn * j < 1440 := by
  obtain ⟨hour, minute, hhour, hminute, hsecond, hHOUR, hMINUTE, hmod⟩ :=
    (isLocalTime_takeApart_iff nextDate m ⌊m⌋).1 h
  have hpos : 0 ≤ ⌊m⌋ := Int.floor_nonneg.2 hm
  have hquot : hour = ⌊m⌋ / 60 := by
    rw [← (toInt_eq_some_iff.1 hhour).1, trunc_div_natCast_of_nonneg hm]
    rfl
  have hhour_nonneg : 0 ≤ hour := hquot ▸ Int.ediv_nonneg hpos (by decide)
  have hle : int16 hour * 60 ≤ ⌊m⌋ :=
    calc int16 hour * 60 ≤ hour * 60 :=
          Int.mul_le_mul_of_nonneg_right (int16_le hhour_nonneg) (by decide)
      _ ≤ ⌊m⌋ := hquot ▸ Int.ediv_mul_le ⌊m⌋ (by decide)
  -- how often the hour and the minute have gone round in 16 bits
  obtain ⟨a, ha⟩ := exists_eq_int16_add hour
  obtain ⟨b, hb⟩ := exists_eq_int16_add minute
  have hrem : minute = ⌊m⌋ - int16 hour * 60 := by
    rw [← (toInt_eq_some_iff.1 hminute).1, trunc_sub_intCast, if_pos hle]
  have hlt := (isInt_trunc_iff.1 hsecond).2
  have hfloor := Int.floor_le m
  have hdiff : ⌊m⌋ = 3932160 * a + int16 minute + int16 hour * 60 := by omega
  have ha_lt : a < 10 := by
    rw [hdiff] at hfloor
    push_cast at hlt hfloor
    have hcast : (a : ℚ) < 10 := by linarith
    exact_mod_cast hcast
  refine ⟨a / 3, ⟨by omega, by omega⟩, ?_⟩
  rw [turn]
  omega

/-- So many turns later the same time of day comes again. -/
theorem isLocalTime_of_nonneg (nextDate : DateStruct) {j h l : ℤ} (hj : 0 ≤ j ∧ j ≤ 3)
    (hh : 0 ≤ h ∧ h < 24) (hl : 0 ≤ l ∧ l < 60) (hfloor : ⌊m⌋ = turn * j + (h * 60 + l)) :
    IsLocalTime nextDate ⌊m⌋ (takeApart nextDate m) := by
  have hturn : ⌊m⌋ = 11796480 * j + (h * 60 + l) := hfloor
  have hm : 0 ≤ m := Int.floor_nonneg.1 (by omega)
  have hHOUR : int16 (⌊m⌋ / 60) = h :=
    int16_eq (3 * j) (by omega) (by omega) (by omega)
  have hMINUTE : int16 (⌊m⌋ - h * 60) = l :=
    int16_eq (180 * j) (by omega) (by omega) (by omega)
  refine (isLocalTime_takeApart_iff nextDate m ⌊m⌋).2 ⟨⌊m⌋ / 60, ⌊m⌋ - h * 60, ?_⟩
  rw [hHOUR, hMINUTE]
  refine ⟨toInt_eq_some_iff.2 ⟨trunc_div_natCast_of_nonneg hm 60, by rw [IsInt]; omega⟩,
    toInt_eq_some_iff.2 ⟨?_, by rw [IsInt]; omega⟩, ?_, hh, hl, ?_⟩
  · rw [trunc_sub_intCast, if_pos (by omega)]
  · have hle := Int.floor_le m
    have hlt := Int.lt_floor_add_one m
    have hj_le : (j : ℚ) ≤ 3 := by exact_mod_cast hj.2
    have hj_pos : (0 : ℚ) ≤ j := by exact_mod_cast hj.1
    rw [hturn] at hle hlt
    rw [isInt_trunc_iff]
    push_cast at hle hlt ⊢
    constructor <;> linarith
  · omega

/-! ### Negative minutes -/

/-- Only whole hours, some turns before the day, make a time of day. -/
theorem exists_turn_of_neg (hm : m < 0) {nextDate : DateStruct}
    (h : IsLocalTime nextDate ⌊m⌋ (takeApart nextDate m)) :
    ∃ j q : ℤ, (-3 ≤ j ∧ j < 0) ∧ m = (q * 60 : ℤ) ∧ 0 ≤ q * 60 - turn * j ∧
      q * 60 - turn * j < 1440 := by
  obtain ⟨hour, minute, hhour, hminute, hsecond, hHOUR, hMINUTE, hmod⟩ :=
    (isLocalTime_takeApart_iff nextDate m ⌊m⌋).1 h
  have hneg : ⌊m⌋ < 0 := Int.floor_lt.2 (by exact_mod_cast hm)
  have hceil : ⌈m⌉ ≤ ⌊m⌋ + 1 := Int.ceil_le_floor_add_one m
  have hfloor_le : ⌊m⌋ ≤ ⌈m⌉ := Int.floor_le_ceil m
  obtain ⟨a, ha⟩ := exists_eq_int16_add hour
  obtain ⟨b, hb⟩ := exists_eq_int16_add minute
  have hquot : hour = -(-⌈m⌉ / 60) := by
    rw [← (toInt_eq_some_iff.1 hhour).1, trunc_div_natCast_of_neg hm (by decide)]
    rfl
  have hrem : minute = ⌈m⌉ - int16 hour * 60 := by
    rw [← (toInt_eq_some_iff.1 hminute).1, trunc_sub_intCast, if_neg (by omega)]
  -- the hour is rounded up, so that nothing is left for a minute that is not negative
  have hzero : int16 minute = 0 ∧ ⌈m⌉ = hour * 60 := by omega
  have hwhole : ⌊m⌋ = ⌈m⌉ := by omega
  have hm_eq : m = (hour * 60 : ℤ) := by
    rw [← hzero.2]
    exact le_antisymm (Int.le_ceil m) (hwhole ▸ Int.floor_le m)
  have hgt := (isInt_trunc_iff.1 hsecond).1
  have ha_gt : -10 < a := by
    rw [hzero.1, hm_eq] at hgt
    have hdiff : hour * 60 = 3932160 * a + int16 hour * 60 := by omega
    rw [hdiff] at hgt
    push_cast at hgt
    have hcast : (-10 : ℚ) < a := by linarith
    exact_mod_cast hcast
  refine ⟨a / 3, hour, ⟨by omega, by omega⟩, hm_eq, ?_⟩
  rw [turn]
  omega

theorem isLocalTime_of_neg (nextDate : DateStruct) {j h : ℤ} (hj : -3 ≤ j ∧ j < 0)
    (hh : 0 ≤ h ∧ h < 24) (hm : m = (turn * j + h * 60 : ℤ)) :
    IsLocalTime nextDate ⌊m⌋ (takeApart nextDate m) := by
  subst hm
  have hturn : turn * j + h * 60 = (196608 * j + h) * 60 := by
    rw [turn]
    omega
  rw [hturn]
  have hneg : (((196608 * j + h) * 60 : ℤ) : ℚ) < 0 := by
    have hneg : (196608 * j + h) * 60 < 0 := by omega
    exact_mod_cast hneg
  have hquot : trunc ((((196608 * j + h) * 60 : ℤ) : ℚ) / (60 : ℕ)) = 196608 * j + h := by
    rw [trunc_div_natCast_of_neg hneg (by decide), Int.ceil_intCast]
    push_cast
    omega
  have hHOUR : int16 (196608 * j + h) = h :=
    int16_eq (3 * j) (by omega) (by omega) (by omega)
  have hMINUTE : int16 (196608 * j * 60) = 0 :=
    int16_eq (180 * j) (by omega) (by omega) (by omega)
  refine (isLocalTime_takeApart_iff nextDate _ _).2 ⟨196608 * j + h, 196608 * j * 60, ?_⟩
  rw [hHOUR, hMINUTE]
  refine ⟨toInt_eq_some_iff.2 ⟨hquot, by rw [IsInt]; omega⟩,
    toInt_eq_some_iff.2 ⟨?_, by rw [IsInt]; omega⟩, ?_, hh, ⟨le_refl _, by decide⟩, ?_⟩
  · rw [← Int.cast_sub, trunc_intCast]
    omega
  · rw [← Int.cast_sub]
    have hint : ((60 * ((196608 * j + h) * 60 - 0 - h * 60) : ℤ) : ℚ) =
        60 * (((196608 * j + h) * 60 - 0 : ℤ) - (h * 60 : ℤ)) := by
      push_cast
      ring
    rw [← hint, trunc_intCast, IsInt]
    omega
  · rw [Int.floor_intCast]
    omega

/-! ### When the result is right -/

/-- The correction is by one day. -/
theorem floor_corrected_emod (m : ℚ) : ⌊corrected m⌋ % 1440 = ⌊m⌋ % 1440 := by
  rw [corrected]
  split
  · have hday : m + 24 * 60 = m + ((1440 : ℤ) : ℚ) := by norm_num
    rw [hday, Int.floor_add_intCast]
    omega
  · rfl

theorem isLocalTime_congr {nextDate : DateStruct} {k : ℤ} (h : n % 1440 = k % 1440)
    (result : Option SunDate) : IsLocalTime nextDate n result ↔ IsLocalTime nextDate k result := by
  cases result with
  | none => exact Iff.rfl
  | some d => rw [IsLocalTime, IsLocalTime, h]

/-- The bounds, of the integer part. -/
theorem bounds_iff_floor {k : ℤ} :
    0 ≤ m - k ∧ m - k < 1440 ↔ 0 ≤ ⌊m⌋ - k ∧ ⌊m⌋ - k < 1440 := by
  have hlow : 0 ≤ m - k ↔ k ≤ ⌊m⌋ := sub_nonneg.trans Int.le_floor.symm
  have hhigh : m - k < 1440 ↔ ⌊m⌋ < k + 1440 := by
    rw [Int.floor_lt, sub_lt_iff_lt_add']
    push_cast
    exact Iff.rfl
  rw [hlow, hhigh]
  omega

/-- What is asked for, of the minutes. -/
theorem isLocalTime_corrected_iff (nextDate : DateStruct) (m : ℚ) :
    IsLocalTime nextDate ⌊m⌋ (takeApart nextDate (corrected m)) ↔ InDay m := by
  rw [isLocalTime_congr (floor_corrected_emod m).symm, InDay]
  generalize corrected m = c
  rcases lt_or_ge c 0 with hc | hc
  · constructor
    · intro h
      obtain ⟨j, q, hj, rfl, hbounds⟩ := exists_turn_of_neg hc h
      refine ⟨j, ⟨hj.1, by omega⟩, bounds_iff_floor.2 ?_, .inr ⟨q, rfl⟩⟩
      rwa [Int.floor_intCast]
    · rintro ⟨j, hj, hbounds, hwhole⟩
      have hfloor : ⌊c⌋ < 0 := Int.floor_lt.2 (by exact_mod_cast hc)
      have hbounds := bounds_iff_floor.1 hbounds
      have hturn : turn = 11796480 := rfl
      have hneg : j < 0 := by
        rw [hturn] at hbounds
        omega
      obtain ⟨q, rfl⟩ := hwhole.resolve_left (by omega)
      rw [Int.floor_intCast, hturn] at hbounds
      refine isLocalTime_of_neg nextDate (h := q - 196608 * j) ⟨hj.1, hneg⟩ (by omega) ?_
      rw [hturn]
      congr 1
      omega
  · constructor
    · intro h
      obtain ⟨j, hj, hbounds⟩ := exists_turn_of_nonneg hc h
      exact ⟨j, ⟨by omega, hj.2⟩, bounds_iff_floor.2 hbounds, .inl hj.1⟩
    · rintro ⟨j, hj, hbounds, -⟩
      have hfloor : 0 ≤ ⌊c⌋ := Int.floor_nonneg.2 hc
      have hbounds := bounds_iff_floor.1 hbounds
      have hturn : turn = 11796480 := rfl
      rw [hturn] at hbounds
      refine isLocalTime_of_nonneg nextDate (h := (⌊c⌋ - 11796480 * j) / 60)
        (l := (⌊c⌋ - 11796480 * j) % 60) ⟨by omega, hj.2⟩ (by omega) (by omega) ?_
      rw [hturn]
      omega

/-- **The local time of sunrise and sunset** is right if the sum of the minutes and the offset is in
the day or in the day before, or as far from it as the hours need to come again. -/
theorem isLocalTime_iff (calcSunriseUTC calcSunsetUTC : ℕ → ℕ → ℕ → ℚ)
    (effectiveGmtOffsetSeconds : Dword) (nextDate : DateStruct) (sunriseFlag : Bool) :
    IsLocalTime nextDate
        (⌊utcMinutes calcSunriseUTC calcSunsetUTC nextDate sunriseFlag⌋ +
          zoneOffsetMin effectiveGmtOffsetSeconds)
        (getNextSunTimes calcSunriseUTC calcSunsetUTC effectiveGmtOffsetSeconds nextDate
          sunriseFlag) ↔
      InDay (utcMinutes calcSunriseUTC calcSunsetUTC nextDate sunriseFlag +
        zoneOffsetMin effectiveGmtOffsetSeconds) := by
  rw [getNextSunTimes, ← isLocalTime_corrected_iff nextDate, Int.floor_add_intCast]

/-- **With an offset of less than 8192 days** the sum has to be in one of the two days. -/
theorem inDay_iff_of_small (hlow : (-turn : ℤ) ≤ m) (hhigh : m < turn) :
    InDay m ↔ -1440 ≤ m ∧ m < 1440 := by
  rw [turn] at hlow hhigh
  push_cast at hlow hhigh
  rw [InDay, corrected]
  constructor
  · rintro ⟨j, hj, hbounds, -⟩
    have hzero : j = 0 := by
      rw [turn] at hbounds
      push_cast at hbounds
      have hup : (-1 : ℚ) < j ∧ (j : ℚ) < 1 := by
        split at hbounds
        · constructor <;> linarith [hbounds.1, hbounds.2]
        · constructor <;> linarith [hbounds.1, hbounds.2]
      have hlt : -1 < j := by exact_mod_cast hup.1
      have hgt : j < 1 := by exact_mod_cast hup.2
      omega
    rw [hzero, mul_zero, Int.cast_zero, sub_zero] at hbounds
    split at hbounds
    · rename_i hneg
      exact ⟨by linarith [hbounds.1], by linarith⟩
    · rename_i hpos
      exact ⟨by linarith [hbounds.1], hbounds.2⟩
  · rintro ⟨h₁, h₂⟩
    refine ⟨0, ⟨by decide, by decide⟩, ?_, .inl (le_refl 0)⟩
    rw [mul_zero, Int.cast_zero, sub_zero]
    split
    · rename_i hneg
      exact ⟨by linarith, by linarith⟩
    · rename_i hpos
      exact ⟨not_lt.1 hpos, h₂⟩

/-- The first of January 2024. -/
def newYear : DateStruct := ⟨2024, 1, 1, 0, 0, 0, 0, 1⟩

/-- A sunset at 1500 minutes, without an offset, is at 25:00. -/
theorem lateSunset_not_isLocalTime : ¬ IsLocalTime newYear 1500
    (getNextSunTimes (fun _ _ _ => 360) (fun _ _ _ => 1500) 0 newYear false) := by
  have hsum : utcMinutes (fun _ _ _ => 360) (fun _ _ _ => 1500) newYear false +
      (zoneOffsetMin 0 : ℚ) = 1500 := by
    rw [utcMinutes, if_neg (by decide), show zoneOffsetMin 0 = 0 from rfl, Int.cast_zero, add_zero]
  have hfloor : ⌊(1500 : ℚ)⌋ = 1500 := Int.floor_ofNat 1500
  rw [getNextSunTimes, hsum, ← hfloor, isLocalTime_corrected_iff,
    inDay_iff_of_small (by norm_num [turn]) (by norm_num [turn])]
  norm_num

/-! ### Triggers -/

/-- The result, as a date. -/
def SunDate.toDate (d : SunDate) : DateStruct :=
  { d.date with hour := d.HOUR.toNat, minute := d.MINUTE.toNat, second := d.SECOND.toNat }

/-- **A result that is right** has an hour and a minute that `calculateNewTrigger` can use. -/
theorem clock_getNextSunTimes {nextDate : DateStruct} {d : SunDate}
    (h : IsLocalTime nextDate n (some d)) : d.toDate.hour < 24 ∧ d.toDate.minute < 60 := by
  obtain ⟨-, hHOUR, hMINUTE, -⟩ := h
  constructor
  · show d.HOUR.toNat < 24
    omega
  · show d.MINUTE.toNat < 60
    omega

end SunTimes

end Schedule

end Lcm
