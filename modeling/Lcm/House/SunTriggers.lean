import Lcm.House.Execution
import Lcm.Schedule.Trigger

/-!
# The next trigger of a scene at sunrise or sunset

For a scene that is triggered some minutes before or after sunrise or sunset, `calculateNewTrigger`
adds these minutes twice: to the minute of the day by which it decides about today, and to the time
that it returns.  The days that it tests are those of the sun time, so that the minutes may lead out
of the day that was chosen.

## Main definitions

* `Rearmed` : the next trigger is a later one, on a day in the list, and not due yet.
* `SunDay`, `sunTrigger` : the days on which the scene may be triggered next, and the time.
* `Ahead` : the minutes do not lead from tomorrow back to a minute of today that is over, and the
  trigger is a time that `checkScenes` takes as valid.

## Main results

* `calculateNewTrigger_rearmed_iff` : the function returns, and the trigger is rearmed exactly when
  it is ahead.
* `not_calculateNewTrigger_rearmed` : it may stay due.
-/

namespace Lcm

namespace House

open Flash Scenes Schedule

/-- `MIN_SYSTEM_TIME` -/
abbrev minSystemTime : ℕ := 1429810320

/-- `MAX_SYSTEM_TIME` -/
abbrev maxSystemTime : ℕ := 2147483647

/-- `MIN_DELTA_VALUE` -/
abbrev minDeltaValue : ℤ := -120

/-- `MAX_DELTA_VALUE` -/
abbrev maxDeltaValue : ℤ := 120

/-- The sun time that `calculateNewTrigger` asks for: that of today. -/
def sunTimeToday (getNextSunTimes : DateStruct → Bool → DateStruct) (scene : SceneProperties)
    (rtcTime : TimeStruct) : DateStruct :=
  getNextSunTimes { timeToDate rtcTime with second := 0, millisec := 0 } (scene.trigger = SUNRISE)

/-- The minute of the day at which the scene is triggered, counted from the day of the sun time. -/
def sunMinute (scene : SceneProperties) (sunTime : DateStruct) : ℤ :=
  sunTime.hour * MINUTES_IN_HOUR + sunTime.minute + scene.delta.toInt

/-- The next trigger is in order. -/
structure Rearmed (scene : SceneProperties) (rtcTime : TimeStruct) (sunTime : DateStruct)
    (nextTriggerTime : Dword) : Prop where
  /-- It is after the current minute. -/
  later : rtcTime.seconds.toNat / 60 < nextTriggerTime.toNat / 60
  /-- It is at most eight days away. -/
  near : nextTriggerTime.toNat ≤ rtcTime.seconds.toNat + 8 * SECONDS_PER_DAY
  /-- It lies as many minutes as it should from the sun time, on a day in the list. -/
  onDay : ∃ day : ℕ, (nextTriggerTime.toNat : ℤ) =
      day * SECONDS_PER_DAY + sunMinute scene sunTime * SECS_IN_MINUTE ∧
    ((dayList scene).Nonempty → Calendar.weekday day ∈ dayList scene)
  /-- `checkScenes` does not find it due. -/
  notDue : ∀ env : CheckEnv, env.now = rtcTime.seconds →
    isDue env (cleanScene { scene with nextTriggerTime := nextTriggerTime }) = false

/-- The scene may be triggered `k` days after today: not today if it is too late. -/
structure SunDay (scene : SceneProperties) (rtcTime : TimeStruct) (sunTime : DateStruct) (k : ℕ) :
    Prop where
  /-- Today only if it is not too late. -/
  later : k = 0 → (rtcTime.seconds.toNat / 60 % 1440 : ℕ) < sunMinute scene sunTime
  /-- The day is in the list. -/
  day : (dayList scene).Nonempty →
    Calendar.weekday (rtcTime.seconds.toNat / SECONDS_PER_DAY + k) ∈ dayList scene

/-- The trigger that goes with a sun time `k` days after today. -/
def sunTrigger (scene : SceneProperties) (rtcTime : TimeStruct) (sunTime : DateStruct) (k : ℕ) :
    ℤ :=
  (rtcTime.seconds.toNat / SECONDS_PER_DAY + k : ℕ) * SECONDS_PER_DAY +
    sunMinute scene sunTime * SECS_IN_MINUTE

/-- The trigger is ahead. -/
structure Ahead (scene : SceneProperties) (rtcTime : TimeStruct) (sunTime : DateStruct) : Prop where
  /-- A trigger on the day before the sun time of tomorrow is not over. -/
  notOver : SunDay scene rtcTime sunTime 1 → sunMinute scene sunTime < 0 →
    (rtcTime.seconds.toNat / 60 % 1440 : ℕ) < sunMinute scene sunTime + 1440
  /-- The first possible trigger is a valid time. -/
  valid : ∃ k, IsLeast {k | SunDay scene rtcTime sunTime k} k ∧
    minSystemTime ≤ sunTrigger scene rtcTime sunTime k ∧
    sunTrigger scene rtcTime sunTime k ≤ maxSystemTime

variable {scene : SceneProperties} {rtcTime : TimeStruct} {sunTime : DateStruct}

theorem sunMinute_eq : sunMinute scene sunTime =
    sunTime.hour * 60 + sunTime.minute + scene.delta.toInt := rfl

theorem sunTrigger_eq (k : ℕ) : sunTrigger scene rtcTime sunTime k =
    (rtcTime.seconds.toNat / 86400 + k : ℕ) * 86400 + sunMinute scene sunTime * 60 := rfl

/-! ### The function -/

/-- Today, with the sun time. -/
def sunDate (rtcTime : TimeStruct) (sunTime : DateStruct) : DateStruct :=
  { timeToDate rtcTime with
    hour := sunTime.hour, minute := sunTime.minute, second := 0, millisec := 0 }

theorem secondsOfDate_sunDate : secondsOfDate (sunDate rtcTime sunTime) =
    rtcTime.seconds.toNat / 86400 * 86400 + sunTime.hour * 3600 +
      sunTime.minute * 60 := by
  refine (secondsOfDate_clock rtcTime.seconds.toNat rtcTime.milliseconds.toNat sunTime.hour
    sunTime.minute 0 0 (timeToDate rtcTime).wday).trans ?_
  rw [Nat.add_zero]

/-- The trigger on a date. -/
def dateTrigger (scene : SceneProperties) (date : DateStruct) : Dword :=
  (timeFromDate { date with second := 0, millisec := 0 }).seconds +
    BitVec.ofInt 32 (scene.delta.toInt * 60)

/-- Today is out of the question. -/
def NotToday (scene : SceneProperties) (rtcTime : TimeStruct) (sunTime : DateStruct) : Prop :=
  sunMinute scene sunTime ≤
      (timeToDate rtcTime).hour * 60 + (timeToDate rtcTime).minute ∨
    isInDayList scene (timeToDate rtcTime).wday = false ∧ anyDaysInList scene = true

instance : Decidable (NotToday scene rtcTime sunTime) := inferInstanceAs (Decidable (_ ∨ _))

/-- What the function returns for a scene that is triggered every week at a sun time. -/
theorem calculateNewTrigger_eq {getNextSunTimes : DateStruct → Bool → DateStruct} {fuel : ℕ}
    (hfreq : scene.freq = EVERY_WEEK) (htrigger : scene.trigger ≠ REGULAR_TIME)
    (hsun : sunTimeToday getNextSunTimes scene rtcTime = sunTime) :
    calculateNewTrigger getNextSunTimes fuel scene rtcTime =
      (if NotToday scene rtcTime sunTime then
        doWhile incrementDay (wrongDay scene) fuel (sunDate rtcTime sunTime)
      else some (sunDate rtcTime sunTime)).map fun date =>
        { scene with nextTriggerTime := dateTrigger scene date } := by
  subst hsun
  have hnone : scene.freq ≠ NONE := by rw [hfreq]; decide
  have honce : ¬ scene.freq = ONCE := by rw [hfreq]; decide
  simp only [calculateNewTrigger, if_neg honce, htrigger, ne_eq,
    not_false_eq_true, if_true, hnone, and_true]
  by_cases htoday : NotToday scene rtcTime (sunTimeToday getNextSunTimes scene rtcTime)
  · rw [if_pos htoday, Option.map_eq_bind]
    exact if_pos htoday
  · rw [if_neg htoday]
    exact if_neg htoday

/-- The minute of the day that `calculateNewTrigger` compares. -/
theorem currentMinuteOfDay_eq (rtcTime : TimeStruct) :
    ((timeToDate rtcTime).hour * 60 + (timeToDate rtcTime).minute : ℤ) =
      (rtcTime.seconds.toNat / 60 % 1440 : ℕ) := by
  show ((rtcTime.seconds.toNat / 3600 % 24 : ℕ) * (60 : ℕ) +
    (rtcTime.seconds.toNat / 60 % 60 : ℕ) : ℤ) = _
  omega

theorem sunDay_zero_iff : SunDay scene rtcTime sunTime 0 ↔ ¬ NotToday scene rtcTime sunTime := by
  have hday : isInDayList scene (timeToDate rtcTime).wday = false ∧ anyDaysInList scene = true ↔
      ¬ ((dayList scene).Nonempty →
        Calendar.weekday (rtcTime.seconds.toNat / 86400 + 0) ∈ dayList scene) := by
    rw [Classical.not_imp, ← anyDaysInList_iff, ← isInDayList_iff, Bool.not_eq_true, and_comm]
    rfl
  rw [NotToday, currentMinuteOfDay_eq, hday, not_or, not_not, not_le]
  exact ⟨fun h => ⟨h.later rfl, h.day⟩, fun h => ⟨fun _ => h.1, h.2⟩⟩

/-- The days after today. -/
theorem sunDay_succ_iff {k : ℕ} : SunDay scene rtcTime sunTime (k + 1) ↔
    ((dayList scene).Nonempty →
      Calendar.weekday (rtcTime.seconds.toNat / 86400 + (k + 1)) ∈ dayList scene) :=
  ⟨fun h => h.day, fun h => ⟨fun hk => absurd hk (Nat.succ_ne_zero k), h⟩⟩

/-! ### The loop -/

/-- The loop runs through the days after today, until the time wraps. -/
theorem incrementDay_sunDate (k : ℕ) : incrementDay^[k + 1] (sunDate rtcTime sunTime) =
    dateOfSeconds ((secondsOfDate (sunDate rtcTime sunTime) + (k + 1) * 86400) % 2 ^ 32)
      0 :=
  incrementDay_iterate _ k

/-- The trigger on a date, up to a wrap. -/
theorem toNat_dateTrigger (scene : SceneProperties) (date : DateStruct) :
    ((dateTrigger scene date).toNat : ℤ) =
      (secondsOfDate { date with second := 0, millisec := 0 } + scene.delta.toInt * 60) %
        2 ^ 32 := by
  have hnonneg : 0 ≤ scene.delta.toInt * 60 % (2 ^ 32 : ℕ) := Int.emod_nonneg _ (by decide)
  rw [dateTrigger, BitVec.toNat_add, BitVec.toNat_ofInt, timeFromDate, BitVec.toNat_ofNat,
    Int.natCast_emod, Int.natCast_add, Int.natCast_emod, Int.toNat_of_nonneg hnonneg,
    Int.emod_add_emod, Int.add_emod_emod]
  rfl

/-- A time that has wrapped is none that `checkScenes` takes as valid. -/
theorem not_valid_of_wrap {x : ℕ} {t delta : ℤ} (hx : 2 ^ 32 ≤ x)
    (hlt : x < 2 ^ 32 + 15 * 86400) (hdelta : -120 ≤ delta ∧ delta ≤ 120)
    (ht : t = ((x % 2 ^ 32 / 60 * 60 : ℕ) + delta * 60) % 2 ^ 32) :
    ¬ ((minSystemTime : ℤ) ≤ t ∧ t ≤ maxSystemTime) := by
  have hmod : x % 2 ^ 32 = x - 2 ^ 32 := by omega
  have hmin : (minSystemTime : ℤ) = 1429810320 := rfl
  have hmax : (maxSystemTime : ℤ) = 2147483647 := rfl
  rw [hmod] at ht
  rw [hmin, hmax]
  by_cases hneg : (((x - 2 ^ 32) / 60 * 60 : ℕ) : ℤ) + delta * 60 < 0
  · rw [← Int.add_emod_right, Int.emod_eq_of_lt (by omega) (by omega)] at ht
    omega
  · rw [Int.emod_eq_of_lt (by omega) (by omega)] at ht
    omega

theorem secondsOfDate_wholeMinute (n ms : ℕ) :
    secondsOfDate { dateOfSeconds n ms with second := 0, millisec := 0 } = n / 60 * 60 := by
  refine (secondsOfDate_clock n ms (n / 3600 % 24) (n / 60 % 60) 0 0
    (Calendar.weekday (n / 86400))).trans ?_
  show n / 86400 * 86400 + n / 3600 % 24 * 3600 + n / 60 % 60 * 60 + 0 = n / 60 * 60
  omega

section Loop

variable (hhour : sunTime.hour < 24) (hminute : sunTime.minute < 60)
include hhour hminute

/-- The days of the loop, as long as the time does not wrap. -/
theorem wrongDay_sunDate_iff {k : ℕ} (hfreq : scene.freq = EVERY_WEEK)
    (hk : secondsOfDate (sunDate rtcTime sunTime) + (k + 1) * 86400 < 2 ^ 32) :
    wrongDay scene (incrementDay^[k + 1] (sunDate rtcTime sunTime)) = true ↔
      ¬ SunDay scene rtcTime sunTime (k + 1) := by
  have hday : (secondsOfDate (sunDate rtcTime sunTime) + (k + 1) * 86400) /
      86400 = rtcTime.seconds.toNat / 86400 + (k + 1) := by
    rw [secondsOfDate_sunDate]
    omega
  have hwday : (incrementDay^[k + 1] (sunDate rtcTime sunTime)).wday =
      Calendar.weekday (rtcTime.seconds.toNat / 86400 + (k + 1)) := by
    rw [incrementDay_sunDate, Nat.mod_eq_of_lt hk, ← hday]
    rfl
  rw [wrongDay_iff hfreq, hwday, ← Classical.not_imp, not_iff_not, sunDay_succ_iff]

/-- **The loop ends with the first day** on which the scene may be triggered, unless the time
wraps. -/
theorem isLeast_of_exit {k : ℕ} (hfreq : scene.freq = EVERY_WEEK)
    (htoday : NotToday scene rtcTime sunTime)
    (hexit : wrongDay scene (incrementDay^[k + 1] (sunDate rtcTime sunTime)) = false)
    (hstay : ∀ i < k, wrongDay scene (incrementDay^[i + 1] (sunDate rtcTime sunTime)) = true)
    (hk : secondsOfDate (sunDate rtcTime sunTime) + (k + 1) * 86400 < 2 ^ 32) :
    IsLeast {k | SunDay scene rtcTime sunTime k} (k + 1) := by
  constructor
  · show SunDay scene rtcTime sunTime (k + 1)
    by_contra hnot
    rw [(wrongDay_sunDate_iff hhour hminute hfreq hk).2 hnot] at hexit
    cases hexit
  · rintro (_ | i) hi
    · exact absurd htoday (sunDay_zero_iff.1 hi)
    · by_contra hlt
      have hle : i + 1 ≤ k + 1 := Nat.le_of_lt (Nat.lt_of_not_le hlt)
      have hfits : secondsOfDate (sunDate rtcTime sunTime) + (i + 1) * 86400 < 2 ^ 32 :=
        Nat.lt_of_le_of_lt (Nat.add_le_add_left (Nat.mul_le_mul_right 86400 hle) _) hk
      exact (wrongDay_sunDate_iff hhour hminute hfreq hfits).1
        (hstay i (Nat.lt_of_succ_lt_succ (Nat.lt_of_not_le hlt))) hi

end Loop

/-- The trigger of the loop, as long as the time does not wrap. -/
theorem toNat_dateTrigger_iterate (scene : SceneProperties) {k : ℕ}
    (hk : secondsOfDate (sunDate rtcTime sunTime) + (k + 1) * 86400 < 2 ^ 32) :
    ((dateTrigger scene (incrementDay^[k + 1] (sunDate rtcTime sunTime))).toNat : ℤ) =
      sunTrigger scene rtcTime sunTime (k + 1) % 2 ^ 32 := by
  have hvalue : ((secondsOfDate (sunDate rtcTime sunTime) + (k + 1) * 86400) / 60 * 60 : ℕ) +
      scene.delta.toInt * 60 = sunTrigger scene rtcTime sunTime (k + 1) := by
    rw [secondsOfDate_sunDate, sunTrigger_eq, sunMinute_eq]
    omega
  rw [toNat_dateTrigger, incrementDay_sunDate, Nat.mod_eq_of_lt hk, secondsOfDate_wholeMinute,
    hvalue]

/-- The trigger of today. -/
theorem toNat_dateTrigger_sunDate (scene : SceneProperties) (rtcTime : TimeStruct)
    (sunTime : DateStruct) : ((dateTrigger scene (sunDate rtcTime sunTime)).toNat : ℤ) =
    sunTrigger scene rtcTime sunTime 0 % 2 ^ 32 := by
  have hvalue : (secondsOfDate { sunDate rtcTime sunTime with second := 0, millisec := 0 } : ℤ) +
      scene.delta.toInt * 60 = sunTrigger scene rtcTime sunTime 0 := by
    rw [show { sunDate rtcTime sunTime with second := 0, millisec := 0 } =
      sunDate rtcTime sunTime from rfl, secondsOfDate_sunDate]
    rw [sunTrigger_eq, sunMinute_eq]
    omega
  rw [toNat_dateTrigger, hvalue]

/-! ### The first day -/

/-- It is at most a week away, and the same day of the week only if today is too late. -/
theorem isLeast_le {k : ℕ} (hk : IsLeast {k | SunDay scene rtcTime sunTime k} k) :
    k ≤ 7 ∧ (k = 7 → sunMinute scene sunTime ≤ (rtcTime.seconds.toNat / 60 % 1440 : ℕ)) := by
  constructor
  · by_cases hlist : (dayList scene).Nonempty
    · obtain ⟨day, hday⟩ := hlist
      have hlt : day < 7 := hday.1
      have hweekday : Calendar.weekday (rtcTime.seconds.toNat / 86400 +
          ((day + 9 - (rtcTime.seconds.toNat / 86400) % 7) % 7 + 1)) = day := by
        unfold Calendar.weekday
        omega
      have hle := hk.2 (sunDay_succ_iff.2 fun _ => hweekday.symm ▸ hday)
      omega
    · have hle := hk.2 (sunDay_succ_iff.2 fun hne => absurd hne hlist : SunDay _ _ _ (0 + 1))
      omega
  · rintro rfl
    by_contra hlater
    -- today is the same day of the week
    have hzero : SunDay scene rtcTime sunTime 0 := by
      refine ⟨fun _ => not_le.1 hlater, fun hne => ?_⟩
      have hday := hk.1.day hne
      have hweekday : Calendar.weekday (rtcTime.seconds.toNat / 86400 + 7) =
          Calendar.weekday (rtcTime.seconds.toNat / 86400 + 0) := by
        unfold Calendar.weekday
        omega
      rwa [hweekday] at hday
    exact absurd (hk.2 hzero) (by decide)

/-! ### The trigger -/

/-- What `checkScenes` makes of the trigger. -/
theorem isDue_cleanScene {t : Dword} {env : CheckEnv} (hfreq : scene.freq = EVERY_WEEK) :
    isDue env (cleanScene { scene with nextTriggerTime := t }) = true ↔
      (if t ≠ 0 ∧ ¬ ((1429810320 : Dword) ≤ t ∧ t ≤ 2147483647) then 0 else t) ≤ env.now ∧
        env.objects.both = true := by
  have hweek : (cleanScene { scene with nextTriggerTime := t }).freq = EVERY_WEEK := by
    simp [cleanScene, hfreq]
  rw [isDue, decide_eq_true_iff, hweek]
  exact and_iff_right (by decide)

theorem valid_iff {t : Dword} : ((1429810320 : Dword) ≤ t ∧ t ≤ 2147483647) ↔
    minSystemTime ≤ t.toNat ∧ t.toNat ≤ maxSystemTime := by
  rw [BitVec.le_def, BitVec.le_def]
  rfl

/-- A trigger that is not a valid time is due at once. -/
theorem valid_of_notDue {t : Dword} (hfreq : scene.freq = EVERY_WEEK)
    (h : Rearmed scene rtcTime sunTime t) : minSystemTime ≤ t.toNat ∧ t.toNat ≤ maxSystemTime := by
  by_contra hnot
  have hzero : t ≠ 0 := by
    rintro rfl
    exact absurd h.later (Nat.not_lt_zero _)
  let env : CheckEnv :=
    ⟨rtcTime.seconds, ⟨true, true⟩, ⟨⟨true, true⟩, fun _ => ⟨⟨true, true⟩, ⟨true, true⟩⟩⟩, 0⟩
  have hdue : isDue env (cleanScene { scene with nextTriggerTime := t }) = true := by
    rw [isDue_cleanScene hfreq, if_pos ⟨hzero, mt valid_iff.1 hnot⟩]
    exact ⟨BitVec.le_def.2 (Nat.zero_le _), rfl⟩
  rw [h.notDue env rfl] at hdue
  cases hdue

/-- A valid time that is later is not due. -/
theorem notDue_of_valid {t : Dword} {env : CheckEnv} (hfreq : scene.freq = EVERY_WEEK)
    (hvalid : minSystemTime ≤ t.toNat ∧ t.toNat ≤ maxSystemTime)
    (hlater : env.now.toNat < t.toNat) :
    isDue env (cleanScene { scene with nextTriggerTime := t }) = false := by
  rw [Bool.eq_false_iff, ne_eq, isDue_cleanScene hfreq, if_neg fun h => h.2 (valid_iff.2 hvalid),
    BitVec.le_def]
  exact fun h => absurd h.1 (Nat.not_le.2 hlater)

/-- **The first trigger is in order** if it is ahead. -/
theorem Ahead.rearmed (h : Ahead scene rtcTime sunTime) (hfreq : scene.freq = EVERY_WEEK)
    (hhour : sunTime.hour < 24) (hminute : sunTime.minute < 60)
    (hdelta : minDeltaValue ≤ scene.delta.toInt ∧ scene.delta.toInt ≤ maxDeltaValue) {k : ℕ}
    (hk : IsLeast {k | SunDay scene rtcTime sunTime k} k) {t : Dword}
    (ht : (t.toNat : ℤ) = sunTrigger scene rtcTime sunTime k) :
    Rearmed scene rtcTime sunTime t := by
  obtain ⟨hle, hseven⟩ := isLeast_le hk
  have htrigger := ht
  rw [sunTrigger_eq] at htrigger
  have hsum : sunMinute scene sunTime = sunTime.hour * 60 + sunTime.minute + scene.delta.toInt :=
    sunMinute_eq
  have hbounds : -120 ≤ scene.delta.toInt ∧ scene.delta.toInt ≤ 120 := hdelta
  have hlater : rtcTime.seconds.toNat / 60 < t.toNat / 60 := by
    obtain rfl | rfl | hk2 : k = 0 ∨ k = 1 ∨ 2 ≤ k := by omega
    · have htoday := hk.1.later rfl
      omega
    · have hover := h.notOver hk.1
      by_cases hneg : sunMinute scene sunTime < 0
      · have hover := hover hneg
        omega
      · omega
    · omega
  obtain ⟨j, hj, hmin, hmax⟩ := h.valid
  obtain rfl := hk.unique hj
  rw [← ht] at hmin hmax
  refine ⟨hlater, ?_, ⟨rtcTime.seconds.toNat / 86400 + k, ht, hk.1.day⟩, ?_⟩
  · show t.toNat ≤ rtcTime.seconds.toNat + 8 * 86400
    omega
  · rintro env hnow
    refine notDue_of_valid hfreq ⟨by omega, by omega⟩ ?_
    rw [hnow]
    omega

/-- **It is ahead** if it is in order. -/
theorem Rearmed.ahead {t : Dword} (h : Rearmed scene rtcTime sunTime t)
    (hfreq : scene.freq = EVERY_WEEK) {k : ℕ}
    (hk : IsLeast {k | SunDay scene rtcTime sunTime k} k)
    (ht : (t.toNat : ℤ) = sunTrigger scene rtcTime sunTime k) : Ahead scene rtcTime sunTime := by
  obtain ⟨hmin, hmax⟩ := valid_of_notDue hfreq h
  refine ⟨fun hone hneg => ?_, k, hk, by omega, by omega⟩
  -- then tomorrow is the first day
  have hk1 : k = 1 := by
    have hle := hk.2 hone
    have hne : k ≠ 0 := by
      rintro rfl
      have htoday := hk.1.later rfl
      omega
    omega
  subst hk1
  have hlater := h.later
  rw [sunTrigger_eq] at ht
  omega

section Trigger

variable (hfreq : scene.freq = EVERY_WEEK) (hhour : sunTime.hour < 24)
  (hminute : sunTime.minute < 60)
  (hdelta : minDeltaValue ≤ scene.delta.toInt ∧ scene.delta.toInt ≤ maxDeltaValue)
include hfreq hhour hminute hdelta

theorem rearmed_today_iff (htoday : ¬ NotToday scene rtcTime sunTime) :
    Rearmed scene rtcTime sunTime (dateTrigger scene (sunDate rtcTime sunTime)) ↔
      Ahead scene rtcTime sunTime := by
  have hk : IsLeast {k | SunDay scene rtcTime sunTime k} 0 :=
    ⟨sunDay_zero_iff.2 htoday, fun _ _ => Nat.zero_le _⟩
  have ht := toNat_dateTrigger_sunDate scene rtcTime sunTime
  have hbounds : -120 ≤ scene.delta.toInt ∧ scene.delta.toInt ≤ 120 := hdelta
  constructor
  · intro h
    obtain ⟨hmin, hmax⟩ := valid_of_notDue hfreq h
    refine h.ahead hfreq hk (ht.trans ?_)
    have hlater := hk.1.later rfl
    have hmin : 1429810320 ≤ (dateTrigger scene (sunDate rtcTime sunTime)).toNat := hmin
    rw [sunTrigger_eq, sunMinute_eq] at ht ⊢
    rw [sunMinute_eq] at hlater
    omega
  · intro h
    obtain ⟨j, hj, hmin, hmax⟩ := h.valid
    obtain rfl := hk.unique hj
    refine h.rearmed hfreq hhour hminute hdelta hk (ht.trans (Int.emod_eq_of_lt ?_ ?_))
    · exact (Int.natCast_nonneg _).trans hmin
    · exact lt_of_le_of_lt hmax (by decide)

theorem rearmed_iterate_iff {n : ℕ} (hn : n ≤ 13) (htoday : NotToday scene rtcTime sunTime)
    (hexit : wrongDay scene (incrementDay^[n + 1] (sunDate rtcTime sunTime)) = false)
    (hstay : ∀ i < n, wrongDay scene (incrementDay^[i + 1] (sunDate rtcTime sunTime)) = true) :
    Rearmed scene rtcTime sunTime
        (dateTrigger scene (incrementDay^[n + 1] (sunDate rtcTime sunTime))) ↔
      Ahead scene rtcTime sunTime := by
  have hbounds : -120 ≤ scene.delta.toInt ∧ scene.delta.toInt ≤ 120 := hdelta
  by_cases hfits : secondsOfDate (sunDate rtcTime sunTime) + (n + 1) * 86400 < 2 ^ 32
  · have hk := isLeast_of_exit hhour hminute hfreq htoday hexit hstay hfits
    have ht := toNat_dateTrigger_iterate scene hfits
    constructor
    · intro h
      obtain ⟨hmin, hmax⟩ := valid_of_notDue hfreq h
      refine h.ahead hfreq hk (ht.trans ?_)
      have hmin : 1429810320 ≤
        (dateTrigger scene (incrementDay^[n + 1] (sunDate rtcTime sunTime))).toNat := hmin
      rw [secondsOfDate_sunDate] at hfits
      rw [sunTrigger_eq, sunMinute_eq] at ht ⊢
      omega
    · intro h
      obtain ⟨j, hj, hmin, hmax⟩ := h.valid
      obtain rfl := hk.unique hj
      refine h.rearmed hfreq hhour hminute hdelta hk (ht.trans (Int.emod_eq_of_lt ?_ ?_))
      · exact (Int.natCast_nonneg _).trans hmin
      · exact lt_of_le_of_lt hmax (by decide)
  · -- the time wraps: the trigger is not a valid time, and there is no day before
    refine iff_of_false (fun h => ?_) fun h => ?_
    · obtain ⟨hmin, hmax⟩ := valid_of_notDue hfreq h
      have ht := toNat_dateTrigger scene (incrementDay^[n + 1] (sunDate rtcTime sunTime))
      rw [incrementDay_sunDate, secondsOfDate_wholeMinute, ← incrementDay_sunDate] at ht
      have hlt : rtcTime.seconds.toNat < 2 ^ 32 := rtcTime.seconds.isLt
      have hnear : secondsOfDate (sunDate rtcTime sunTime) + (n + 1) * 86400 <
          2 ^ 32 + 15 * 86400 := by
        rw [secondsOfDate_sunDate]
        omega
      exact not_valid_of_wrap (Nat.le_of_not_lt hfits) hnear hbounds ht
        ⟨by exact_mod_cast hmin, by exact_mod_cast hmax⟩
    · obtain ⟨j, hj, hmin, hmax⟩ := h.valid
      have hmax : sunTrigger scene rtcTime sunTime j ≤ 2147483647 := hmax
      rw [sunTrigger_eq, sunMinute_eq] at hmax
      cases j with
      | zero => exact sunDay_zero_iff.1 hj.1 htoday
      | succ i =>
        have hbefore : secondsOfDate (sunDate rtcTime sunTime) + (i + 1) * 86400 < 2 ^ 32 := by
          rw [secondsOfDate_sunDate]
          omega
        have hi : i < n := by
          rw [secondsOfDate_sunDate] at hfits hbefore
          omega
        exact (wrongDay_sunDate_iff hhour hminute hfreq hbefore).1 (hstay i hi) hj.1

end Trigger

/-- The function returns, given fuel for fourteen rounds, and changes no other field; the trigger is
in order exactly when it is ahead. -/
theorem exists_sunTrigger {getNextSunTimes : DateStruct → Bool → DateStruct}
    (hsun : ∀ date sunrise, (getNextSunTimes date sunrise).hour < 24 ∧
      (getNextSunTimes date sunrise).minute < 60)
    (rtcTime : TimeStruct) (hfreq : scene.freq = EVERY_WEEK)
    (htrigger : scene.trigger ≠ REGULAR_TIME)
    (hdelta : minDeltaValue ≤ scene.delta.toInt ∧ scene.delta.toInt ≤ maxDeltaValue) :
    ∃ t, (∀ fuel, 14 ≤ fuel → calculateNewTrigger getNextSunTimes fuel scene rtcTime =
        some { scene with nextTriggerTime := t }) ∧
      (Rearmed scene rtcTime (sunTimeToday getNextSunTimes scene rtcTime) t ↔
        Ahead scene rtcTime (sunTimeToday getNextSunTimes scene rtcTime)) := by
  obtain ⟨sunTime, hsunTime⟩ : ∃ sunTime, sunTimeToday getNextSunTimes scene rtcTime = sunTime :=
    ⟨_, rfl⟩
  have hclock : sunTime.hour < 24 ∧ sunTime.minute < 60 := hsunTime ▸ hsun _ _
  rw [hsunTime]
  by_cases htoday : NotToday scene rtcTime sunTime
  · obtain ⟨k, hk, hexit⟩ := exists_wrongDay_false scene (sunDate rtcTime sunTime)
    obtain ⟨n, hn, hexit, hstay, hrun⟩ := exists_doWhile hexit
    refine ⟨dateTrigger scene (incrementDay^[n + 1] (sunDate rtcTime sunTime)),
      fun fuel hfuel => ?_, ?_⟩
    · rw [calculateNewTrigger_eq hfreq htrigger hsunTime, if_pos htoday, hrun fuel (by omega)]
      rfl
    · exact rearmed_iterate_iff hfreq hclock.1 hclock.2 hdelta (hn.trans hk) htoday hexit hstay
  · refine ⟨dateTrigger scene (sunDate rtcTime sunTime), fun fuel _ => ?_, ?_⟩
    · rw [calculateNewTrigger_eq hfreq htrigger hsunTime, if_neg htoday]
      rfl
    · exact rearmed_today_iff hfreq hclock.1 hclock.2 hdelta htoday

/-- **The next trigger of a scene at sunrise or sunset**: given fuel for fourteen rounds, the
function returns, it changes no other field, and the trigger is in order exactly when it is
ahead. -/
theorem calculateNewTrigger_rearmed_iff (getNextSunTimes : DateStruct → Bool → DateStruct)
    (hsun : ∀ date sunrise, (getNextSunTimes date sunrise).hour < 24 ∧
      (getNextSunTimes date sunrise).minute < 60)
    (scene : SceneProperties) (rtcTime : TimeStruct) (hfreq : scene.freq = EVERY_WEEK)
    (htrigger : scene.trigger = SUNRISE ∨ scene.trigger = SUNSET)
    (hdelta : minDeltaValue ≤ scene.delta.toInt ∧ scene.delta.toInt ≤ maxDeltaValue) :
    ∃ scene', (∀ fuel, 14 ≤ fuel →
        calculateNewTrigger getNextSunTimes fuel scene rtcTime = some scene') ∧
      scene' = { scene with nextTriggerTime := scene'.nextTriggerTime } ∧
      (Rearmed scene rtcTime (sunTimeToday getNextSunTimes scene rtcTime)
          scene'.nextTriggerTime ↔
        Ahead scene rtcTime (sunTimeToday getNextSunTimes scene rtcTime)) := by
  have hregular : scene.trigger ≠ REGULAR_TIME := by
    rintro heq
    rw [heq] at htrigger
    revert htrigger
    decide
  obtain ⟨t, hrun, hrearmed⟩ := exists_sunTrigger hsun rtcTime hfreq hregular hdelta
  exact ⟨{ scene with nextTriggerTime := t }, hrun, rfl, hrearmed⟩

/-- A scene that is triggered every day half an hour before sunset. -/
def eveningScene : SceneProperties :=
  { exampleScene with
    nextTriggerTime := 1441150800, freq := EVERY_WEEK, trigger := SUNSET, days := 0x7F
    delta := -30, fits := exampleScene.zones_fit }

/-- The sun sets at ten minutes past midnight. -/
def lateSunset (date : DateStruct) (_ : Bool) : DateStruct := { date with hour := 0, minute := 10 }

theorem lateSunset_clock (date : DateStruct) (sunrise : Bool) :
    (lateSunset date sunrise).hour < 24 ∧ (lateSunset date sunrise).minute < 60 :=
  ⟨show 0 < 24 by decide, show 10 < 60 by decide⟩

theorem ahead_eveningScene : Ahead eveningScene ⟨1441150200, 0⟩
    (sunTimeToday lateSunset eveningScene ⟨1441150200, 0⟩) := by
  have htomorrow : SunDay eveningScene ⟨1441150200, 0⟩
      (sunTimeToday lateSunset eveningScene ⟨1441150200, 0⟩) 1 :=
    ⟨by decide, fun _ => ⟨by decide, by decide⟩⟩
  refine ⟨fun _ _ => by decide, 1, ⟨htomorrow, fun k hk => ?_⟩, by decide, by decide⟩
  by_contra hlt
  obtain rfl : k = 0 := by omega
  exact absurd (hk.later rfl) (by decide)

/-- On the first of September 2015 at 23:30, the next trigger is the one at 23:40. -/
theorem calculateNewTrigger_rearmed_iff_lateSunset :
    Rearmed eveningScene ⟨1441150200, 0⟩ (sunTimeToday lateSunset eveningScene ⟨1441150200, 0⟩)
      1441150800 := by
  obtain ⟨scene', hrun, -, hrearmed⟩ := calculateNewTrigger_rearmed_iff lateSunset lateSunset_clock
    eveningScene ⟨1441150200, 0⟩ rfl (.inr rfl) (by decide)
  have hvalue := hrun 14 (Nat.le_refl 14)
  have hexit : wrongDay eveningScene (incrementDay^[0 + 1] (sunDate ⟨1441150200, 0⟩
      (sunTimeToday lateSunset eveningScene ⟨1441150200, 0⟩))) = false := by decide +kernel
  rw [calculateNewTrigger_eq rfl (by decide) rfl, if_pos (by decide),
    doWhile_eq (fun _ hi => absurd hi (Nat.not_lt_zero _)) hexit (by decide)] at hvalue
  obtain rfl := Option.some.inj hvalue
  have htime : dateTrigger eveningScene (incrementDay^[0 + 1] (sunDate ⟨1441150200, 0⟩
      (sunTimeToday lateSunset eveningScene ⟨1441150200, 0⟩))) = 1441150800 := by decide +kernel
  rw [← htime]
  exact hrearmed.2 ahead_eveningScene

/-- At 23:50 it is the one at 23:40, too, and it is due. -/
theorem not_calculateNewTrigger_rearmed :
    ¬ ∀ (getNextSunTimes : DateStruct → Bool → DateStruct) (scene : SceneProperties)
      (rtcTime : TimeStruct),
      (∀ date sunrise, (getNextSunTimes date sunrise).hour < 24 ∧
        (getNextSunTimes date sunrise).minute < 60) →
      scene.freq = EVERY_WEEK → scene.trigger = SUNRISE ∨ scene.trigger = SUNSET →
      minDeltaValue ≤ scene.delta.toInt ∧ scene.delta.toInt ≤ maxDeltaValue →
      ∃ rounds scene', (∀ fuel, rounds ≤ fuel →
          calculateNewTrigger getNextSunTimes fuel scene rtcTime = some scene') ∧
        Rearmed scene rtcTime (sunTimeToday getNextSunTimes scene rtcTime)
          scene'.nextTriggerTime := by
  intro h
  obtain ⟨rounds, scene', hrun, hrearmed⟩ := h lateSunset eveningScene ⟨1441151400, 0⟩
    lateSunset_clock rfl (.inr rfl) (by decide)
  have hvalue := hrun (rounds + 1) (Nat.le_succ rounds)
  -- tomorrow is in the list, and the loop ends after one round
  have hexit : wrongDay eveningScene (incrementDay^[0 + 1] (sunDate ⟨1441151400, 0⟩
      (sunTimeToday lateSunset eveningScene ⟨1441151400, 0⟩))) = false := by decide +kernel
  rw [calculateNewTrigger_eq rfl (by decide) rfl, if_pos (by decide),
    doWhile_eq (fun _ hi => absurd hi (Nat.not_lt_zero _)) hexit (Nat.succ_pos rounds)] at hvalue
  obtain rfl := Option.some.inj hvalue
  exact absurd hrearmed.later (by decide +kernel)

end House

end Lcm
