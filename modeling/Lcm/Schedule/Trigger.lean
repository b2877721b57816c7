import Lcm.Run.Loop
import Lcm.Scenes.Store
import Lcm.Schedule.Time
import Mathlib.Order.Bounds.Basic
import Mathlib.Tactic.IntervalCases

/-!
# The next trigger of a scene

After a scene was triggered, `calculateNewTrigger` looks for the next day on which it is triggered
again, from today on, and converts that day and the time of day of the scene to a time.

## Main definitions

* `calculateNewTrigger` : the function of the source; how the times of sunrise and sunset are
  calculated is a parameter.
* `dayList` : the days of the week on which a scene is triggered.
* `Eligible` : the times at which a scene with a regular time may be triggered next.

## Main results

* `calculateNewTrigger_isLeast` : for a scene that is triggered every week at a regular time, the
  function returns with the first of these times.
* `exists_eligible` : there is one, as long as the clock does not reach its end within a week.
-/

namespace Lcm

namespace Schedule

open Flash Scenes

/-- `NONE`, of `FrequencyType` -/
abbrev NONE : Byte := 0

/-- `ONCE` -/
abbrev ONCE : Byte := 1

/-- `EVERY_WEEK` -/
abbrev EVERY_WEEK : Byte := 2

/-- `REGULAR_TIME`, of `TriggerType` -/
abbrev REGULAR_TIME : Byte := 0

/-- `SUNRISE` -/
abbrev SUNRISE : Byte := 1

/-- `SUNSET` -/
abbrev SUNSET : Byte := 2

/-- `MINUTES_IN_HOUR` -/
abbrev MINUTES_IN_HOUR : ℕ := 60

/-- `SECS_IN_MINUTE` -/
abbrev SECS_IN_MINUTE : ℤ := 60

/-- `isInDayList`; the bits of the days are those of `DailySchedule`, from Sunday on. -/
def isInDayList (scene : SceneProperties) (day : ℕ) : Bool :=
  if scene.days.getLsbD 0 && day = 0 then true
  else if scene.days.getLsbD 1 && day = 1 then true
  else if scene.days.getLsbD 2 && day = 2 then true
  else if scene.days.getLsbD 3 && day = 3 then true
  else if scene.days.getLsbD 4 && day = 4 then true
  else if scene.days.getLsbD 5 && day = 5 then true
  else if scene.days.getLsbD 6 && day = 6 then true
  else false

/-- `anyDaysInList` -/
def anyDaysInList (scene : SceneProperties) : Bool :=
  scene.days.getLsbD 0 || scene.days.getLsbD 1 || scene.days.getLsbD 2 || scene.days.getLsbD 3 ||
    scene.days.getLsbD 4 || scene.days.getLsbD 5 || scene.days.getLsbD 6

/-- The body of the loop: the same time of day, on the next day. -/
def incrementDay (date : DateStruct) : DateStruct :=
  let tempTime := timeFromDate date
  timeToDate { tempTime with seconds := tempTime.seconds + BitVec.ofNat 32 SECONDS_PER_DAY }

/-- The loop goes on. -/
def wrongDay (scene : SceneProperties) (date : DateStruct) : Bool :=
  !isInDayList scene date.wday && scene.freq = EVERY_WEEK && anyDaysInList scene

/-- `calculateNewTrigger`, unless the loop takes more rounds than there is fuel. -/
def calculateNewTrigger (getNextSunTimes : DateStruct → Bool → DateStruct) (fuel : ℕ)
    (scene : SceneProperties) (rtcTime : TimeStruct) : Option SceneProperties := do
  let currentDate := timeToDate rtcTime
  let sceneDate := timeToDate ⟨scene.nextTriggerTime, 0⟩
  let currentMinuteOfDay : ℤ := currentDate.hour * MINUTES_IN_HOUR + currentDate.minute
  let (newTriggerDate, nextIsToday) :=
    if scene.freq = ONCE then
      (sceneDate, decide (sceneDate.year = currentDate.year ∧ sceneDate.month = currentDate.month ∧
        sceneDate.day = currentDate.day))
    else (currentDate, true)
  let newTriggerDate := { newTriggerDate with second := 0, millisec := 0 }
  let (newTriggerDate, sceneMinuteOfDay) : DateStruct × ℤ :=
    if scene.trigger = REGULAR_TIME then
      let newTriggerDate :=
        { newTriggerDate with hour := sceneDate.hour, minute := sceneDate.minute }
      (newTriggerDate, newTriggerDate.hour * MINUTES_IN_HOUR + newTriggerDate.minute)
    else
      let sunTime := getNextSunTimes newTriggerDate (scene.trigger = SUNRISE)
      let newTriggerDate := { newTriggerDate with hour := sunTime.hour, minute := sunTime.minute }
      (newTriggerDate,
        newTriggerDate.hour * MINUTES_IN_HOUR + newTriggerDate.minute + scene.delta.toInt)
  let newTriggerDate ←
    if (sceneMinuteOfDay ≤ currentMinuteOfDay ∧ nextIsToday = true ∨
        isInDayList scene currentDate.wday = false ∧ anyDaysInList scene = true) ∧
        scene.freq ≠ NONE then
      doWhile incrementDay (wrongDay scene) fuel newTriggerDate
    else some newTriggerDate
  let newTriggerTime := timeFromDate { newTriggerDate with second := 0, millisec := 0 }
  some { scene with
    nextTriggerTime :=
      if scene.trigger ≠ REGULAR_TIME then
        newTriggerTime.seconds + BitVec.ofInt 32 (scene.delta.toInt * SECS_IN_MINUTE)
      else newTriggerTime.seconds }

/-- The days of the week on which a scene is triggered. -/
def dayList (scene : SceneProperties) : Set ℕ := {day | day < 7 ∧ scene.days.getLsbD day = true}

/-- A time after the current minute that has the hour and the minute of the previous trigger, and
a day in the list if there are any. -/
structure Eligible (scene : SceneProperties) (rtcTime : TimeStruct) (t : Dword) : Prop where
  /-- After the current minute. -/
  later : rtcTime.seconds.toNat / 60 < t.toNat / 60
  /-- The hour. -/
  hour : (timeToDate ⟨t, 0⟩).hour = (timeToDate ⟨scene.nextTriggerTime, 0⟩).hour
  /-- The minute. -/
  minute : (timeToDate ⟨t, 0⟩).minute = (timeToDate ⟨scene.nextTriggerTime, 0⟩).minute
  /-- The day. -/
  day : (dayList scene).Nonempty → (timeToDate ⟨t, 0⟩).wday ∈ dayList scene

variable {scene : SceneProperties} {rtcTime : TimeStruct}

/-! ### The day list -/

theorem isInDayList_iff {day : ℕ} : isInDayList scene day = true ↔ day ∈ dayList scene := by
  unfold isInDayList dayList
  by_cases hday : day < 7
  · interval_cases day <;> simp
  · have hne : ∀ d < 7, day ≠ d := fun d hd => by omega
    simp [hday, hne]

theorem anyDaysInList_iff : anyDaysInList scene = true ↔ (dayList scene).Nonempty := by
  simp only [anyDaysInList, Bool.or_eq_true]
  constructor
  · rintro ((((((h | h) | h) | h) | h) | h) | h)
    · exact ⟨0, by decide, h⟩
    · exact ⟨1, by decide, h⟩
    · exact ⟨2, by decide, h⟩
    · exact ⟨3, by decide, h⟩
    · exact ⟨4, by decide, h⟩
    · exact ⟨5, by decide, h⟩
    · exact ⟨6, by decide, h⟩
  · rintro ⟨day, hday, h⟩
    interval_cases day <;> simp [h]

/-! ### The loop -/

/-- Going on means that there are days in the list, but not this one. -/
theorem wrongDay_iff {date : DateStruct} (hfreq : scene.freq = EVERY_WEEK) :
    wrongDay scene date = true ↔ (dayList scene).Nonempty ∧ date.wday ∉ dayList scene := by
  rw [← anyDaysInList_iff, ← isInDayList_iff]
  simp [wrongDay, hfreq, and_comm]

theorem timeFromDate_incrementDay (date : DateStruct) :
    timeFromDate (incrementDay date) =
      { timeFromDate date with
        seconds := (timeFromDate date).seconds + BitVec.ofNat 32 SECONDS_PER_DAY } :=
  timeFromDate_timeToDate _

/-- The times that the loop runs through are days apart, until they wrap. -/
theorem timeFromDate_iterate (date : DateStruct) (k : ℕ) :
    timeFromDate (incrementDay^[k] date) =
      ⟨BitVec.ofNat 32 (secondsOfDate date + k * SECONDS_PER_DAY),
        (timeFromDate date).milliseconds⟩ := by
  induction k with
  | zero =>
    rw [Nat.zero_mul, Nat.add_zero]
    rfl
  | succ k ih =>
    rw [Function.iterate_succ_apply', timeFromDate_incrementDay, ih, Nat.succ_mul, ← Nat.add_assoc]
    simp only [BitVec.ofNat_add]

theorem incrementDay_iterate (date : DateStruct) (k : ℕ) :
    incrementDay^[k + 1] date =
      dateOfSeconds ((secondsOfDate date + (k + 1) * SECONDS_PER_DAY) % 2 ^ 32)
        (timeFromDate date).milliseconds.toNat := by
  have hback : incrementDay^[k + 1] date =
      timeToDate (timeFromDate (incrementDay^[k + 1] date)) := by
    rw [Function.iterate_succ_apply', incrementDay, timeFromDate_timeToDate]
  rw [hback, timeFromDate_iterate, timeToDate, BitVec.toNat_ofNat]

/-- Every day of the week is reached within a week. -/
theorem exists_weekday_of_lt {n : ℕ} (hn : n + 7 * 86400 < 2 ^ 32) {day : ℕ} (hday : day < 7) :
    ∃ k ≤ 6, Calendar.weekday ((n + (k + 1) * 86400) % 2 ^ 32 / 86400) = day := by
  obtain ⟨k, hk⟩ : ∃ k, k = (day + 7 - (n / 86400 + 5) % 7) % 7 := ⟨_, rfl⟩
  have hround : (n + (k + 1) * 86400) / 86400 = n / 86400 + (k + 1) := by omega
  have hk6 : k ≤ 6 := by omega
  have hlt : n + (k + 1) * 86400 < 2 ^ 32 :=
    Nat.lt_of_le_of_lt (Nat.add_le_add_left (Nat.mul_le_mul_right _ (Nat.succ_le_succ hk6)) n) hn
  refine ⟨k, hk6, ?_⟩
  rw [Nat.mod_eq_of_lt hlt, hround, Calendar.weekday]
  omega

/-- It is reached within two if the time wraps, since it then wraps only once. -/
theorem exists_weekday (n : ℕ) {day : ℕ} (hday : day < 7) :
    ∃ k ≤ 13, Calendar.weekday ((n + (k + 1) * 86400) % 2 ^ 32 / 86400) = day := by
  by_cases hwrap : n % 2 ^ 32 + 7 * 86400 < 2 ^ 32
  · obtain ⟨k, hk, hweekday⟩ := exists_weekday_of_lt hwrap hday
    refine ⟨k, by omega, ?_⟩
    rwa [Nat.mod_add_mod] at hweekday
  · obtain ⟨k, hk, hweekday⟩ := exists_weekday_of_lt (n := n % 2 ^ 32 + 7 * 86400 - 2 ^ 32)
      (by omega) hday
    refine ⟨k + 7, by omega, ?_⟩
    have hsame : (n + (k + 7 + 1) * 86400) % 2 ^ 32 =
        (n % 2 ^ 32 + 7 * 86400 - 2 ^ 32 + (k + 1) * 86400) % 2 ^ 32 := by omega
    rwa [hsame]

/-- **The loop ends** after at most fourteen rounds. -/
theorem exists_wrongDay_false (scene : SceneProperties) (date : DateStruct) :
    ∃ k ≤ 13, wrongDay scene (incrementDay^[k + 1] date) = false := by
  by_cases hlist : (dayList scene).Nonempty
  · obtain ⟨day, hday⟩ := hlist
    obtain ⟨k, hk, hweekday⟩ := exists_weekday (secondsOfDate date) hday.1
    refine ⟨k, hk, ?_⟩
    have hwday : (incrementDay^[k + 1] date).wday = day := by
      rw [incrementDay_iterate]
      exact hweekday
    rw [wrongDay, hwday, isInDayList_iff.2 hday]
    rfl
  · have hany : anyDaysInList scene = false := Bool.eq_false_iff.2 (mt anyDaysInList_iff.1 hlist)
    exact ⟨0, Nat.zero_le _, by rw [wrongDay, hany, Bool.and_false]⟩

/-! ### The times at which a scene may be triggered -/

/-- The time today that has the hour and the minute of the previous trigger. -/
def todaysTrigger (scene : SceneProperties) (rtcTime : TimeStruct) : ℕ :=
  rtcTime.seconds.toNat / 86400 * 86400 + scene.nextTriggerTime.toNat % 86400 / 60 * 60

/-- The scene may be triggered `k` days after today. -/
structure EligibleDay (scene : SceneProperties) (rtcTime : TimeStruct) (k : ℕ) : Prop where
  /-- Not today if it is too late. -/
  later : rtcTime.seconds.toNat / 60 < todaysTrigger scene rtcTime / 60 + k * 1440
  /-- The day is in the list. -/
  day : (dayList scene).Nonempty →
    Calendar.weekday (rtcTime.seconds.toNat / 86400 + k) ∈ dayList scene

theorem eligible_iff {t : Dword} : Eligible scene rtcTime t ↔
    ∃ k, EligibleDay scene rtcTime k ∧
      t.toNat / 60 * 60 = todaysTrigger scene rtcTime + k * 86400 := by
  constructor
  · rintro ⟨hlater, hhour, hminute, hday⟩
    have hhour : t.toNat / 3600 % 24 = scene.nextTriggerTime.toNat / 3600 % 24 := hhour
    have hminute : t.toNat / 60 % 60 = scene.nextTriggerTime.toNat / 60 % 60 := hminute
    have hk : t.toNat / 86400 = rtcTime.seconds.toNat / 86400 +
        (t.toNat / 86400 - rtcTime.seconds.toNat / 86400) := by omega
    refine ⟨t.toNat / 86400 - rtcTime.seconds.toNat / 86400, ⟨?_, ?_⟩, ?_⟩
    · unfold todaysTrigger
      omega
    · rw [← hk]
      exact hday
    · unfold todaysTrigger
      omega
  · rintro ⟨k, ⟨hlater, hday⟩, ht⟩
    unfold todaysTrigger at hlater ht
    refine ⟨by omega, ?_, ?_, ?_⟩
    · show t.toNat / 3600 % 24 = scene.nextTriggerTime.toNat / 3600 % 24
      omega
    · show t.toNat / 60 % 60 = scene.nextTriggerTime.toNat / 60 % 60
      omega
    · have hk : t.toNat / 86400 = rtcTime.seconds.toNat / 86400 + k := by omega
      show _ → Calendar.weekday (t.toNat / 86400) ∈ dayList scene
      rwa [hk]

/-- The first day gives the first time. -/
theorem isLeast_of_eligibleDay {k : ℕ} (hk : EligibleDay scene rtcTime k)
    (hfirst : ∀ j, EligibleDay scene rtcTime j → todaysTrigger scene rtcTime + j * 86400 < 2 ^ 32 →
      k ≤ j) (hex : ∃ t, Eligible scene rtcTime t) :
    IsLeast {t | Eligible scene rtcTime t}
      (BitVec.ofNat 32 (todaysTrigger scene rtcTime + k * 86400)) := by
  have hle : ∀ t : Dword, Eligible scene rtcTime t →
      todaysTrigger scene rtcTime + k * 86400 ≤ t.toNat := by
    intro t ht
    obtain ⟨j, hj, htime⟩ := eligible_iff.1 ht
    have hlt : t.toNat < 2 ^ 32 := t.isLt
    have hkj : k ≤ j := hfirst j hj (by omega)
    omega
  have hfits : todaysTrigger scene rtcTime + k * 86400 < 2 ^ 32 := by
    obtain ⟨t, ht⟩ := hex
    exact Nat.lt_of_le_of_lt (hle t ht) t.isLt
  have hvalue : (BitVec.ofNat 32 (todaysTrigger scene rtcTime + k * 86400)).toNat =
      todaysTrigger scene rtcTime + k * 86400 := by
    rw [BitVec.toNat_ofNat, Nat.mod_eq_of_lt hfits]
  refine ⟨eligible_iff.2 ⟨k, hk, ?_⟩, fun t ht => ?_⟩
  · rw [hvalue, todaysTrigger]
    omega
  · rw [BitVec.le_def, hvalue]
    exact hle t ht

/-! ### The function -/

/-- Today, with the time of day of the scene. -/
def todaysDate (scene : SceneProperties) (rtcTime : TimeStruct) : DateStruct :=
  { timeToDate rtcTime with
    hour := (timeToDate ⟨scene.nextTriggerTime, 0⟩).hour
    minute := (timeToDate ⟨scene.nextTriggerTime, 0⟩).minute
    second := 0
    millisec := 0 }

theorem secondsOfDate_todaysDate : secondsOfDate (todaysDate scene rtcTime) =
    todaysTrigger scene rtcTime := by
  refine (secondsOfDate_clock _ _ _ _ 0 0 _).trans ?_
  show rtcTime.seconds.toNat / 86400 * 86400 + scene.nextTriggerTime.toNat / 3600 % 24 * 3600 +
    scene.nextTriggerTime.toNat / 60 % 60 * 60 + 0 = todaysTrigger scene rtcTime
  unfold todaysTrigger
  omega

/-- Today is out of the question. -/
def NotToday (scene : SceneProperties) (rtcTime : TimeStruct) : Prop :=
  ((todaysDate scene rtcTime).hour * 60 + (todaysDate scene rtcTime).minute : ℤ) ≤
      (timeToDate rtcTime).hour * 60 + (timeToDate rtcTime).minute ∨
    isInDayList scene (timeToDate rtcTime).wday = false ∧ anyDaysInList scene = true

instance : Decidable (NotToday scene rtcTime) := inferInstanceAs (Decidable (_ ∨ _))

theorem eligibleDay_zero_iff : EligibleDay scene rtcTime 0 ↔ ¬ NotToday scene rtcTime := by
  have hminutes : ((todaysDate scene rtcTime).hour * 60 + (todaysDate scene rtcTime).minute : ℤ) ≤
      (timeToDate rtcTime).hour * 60 + (timeToDate rtcTime).minute ↔
        ¬ rtcTime.seconds.toNat / 60 < todaysTrigger scene rtcTime / 60 + 0 * 1440 := by
    show ((scene.nextTriggerTime.toNat / 3600 % 24 : ℕ) * 60 +
      (scene.nextTriggerTime.toNat / 60 % 60 : ℕ) : ℤ) ≤
        (rtcTime.seconds.toNat / 3600 % 24 : ℕ) * 60 + (rtcTime.seconds.toNat / 60 % 60 : ℕ) ↔ _
    unfold todaysTrigger
    omega
  have hday : isInDayList scene (timeToDate rtcTime).wday = false ∧ anyDaysInList scene = true ↔
      ¬ ((dayList scene).Nonempty →
        Calendar.weekday (rtcTime.seconds.toNat / 86400 + 0) ∈ dayList scene) := by
    rw [Classical.not_imp, ← anyDaysInList_iff, ← isInDayList_iff, Bool.not_eq_true, and_comm]
    rfl
  rw [NotToday, hminutes, hday, ← not_and_or, not_not]
  exact ⟨fun h => ⟨h.later, h.day⟩, fun h => ⟨h.1, h.2⟩⟩

/-- What the function returns for a scene that is triggered every week at a regular time. -/
theorem calculateNewTrigger_eq {getNextSunTimes : DateStruct → Bool → DateStruct} {fuel : ℕ}
    (hfreq : scene.freq = EVERY_WEEK) (htrigger : scene.trigger = REGULAR_TIME) :
    calculateNewTrigger getNextSunTimes fuel scene rtcTime =
      (if NotToday scene rtcTime then
        doWhile incrementDay (wrongDay scene) fuel (todaysDate scene rtcTime)
      else some (todaysDate scene rtcTime)).map fun date =>
        { scene with
          nextTriggerTime := (timeFromDate { date with second := 0, millisec := 0 }).seconds } := by
  have hnone : scene.freq ≠ NONE := by rw [hfreq]; decide
  have honce : ¬ scene.freq = ONCE := by rw [hfreq]; decide
  simp only [calculateNewTrigger, if_neg honce, htrigger, if_true, ne_eq, not_true_eq_false,
    if_false, hnone, not_false_eq_true, and_true]
  by_cases htoday : NotToday scene rtcTime
  · rw [if_pos htoday, Option.map_eq_bind]
    exact if_pos htoday
  · rw [if_neg htoday]
    exact if_neg htoday

/-- The loop runs through the days after today, until the time wraps. -/
theorem incrementDay_todaysDate {k : ℕ}
    (hk : todaysTrigger scene rtcTime + (k + 1) * 86400 < 2 ^ 32) :
    incrementDay^[k + 1] (todaysDate scene rtcTime) =
      dateOfSeconds (todaysTrigger scene rtcTime + (k + 1) * 86400) 0 := by
  rw [incrementDay_iterate, secondsOfDate_todaysDate]
  exact congrArg₂ dateOfSeconds (Nat.mod_eq_of_lt hk) rfl

/-- It goes on unless the scene may be triggered on the day. -/
theorem wrongDay_iterate_iff {k : ℕ} (hfreq : scene.freq = EVERY_WEEK)
    (hk : todaysTrigger scene rtcTime + (k + 1) * 86400 < 2 ^ 32) :
    wrongDay scene (incrementDay^[k + 1] (todaysDate scene rtcTime)) = true ↔
      ¬ EligibleDay scene rtcTime (k + 1) := by
  have hday : (todaysTrigger scene rtcTime + (k + 1) * 86400) / 86400 =
      rtcTime.seconds.toNat / 86400 + (k + 1) := by
    unfold todaysTrigger
    omega
  have hwday : (incrementDay^[k + 1] (todaysDate scene rtcTime)).wday =
      Calendar.weekday (rtcTime.seconds.toNat / 86400 + (k + 1)) := by
    rw [incrementDay_todaysDate hk, ← hday]
    rfl
  rw [wrongDay_iff hfreq, hwday, ← Classical.not_imp, not_iff_not]
  refine ⟨fun h => ⟨?_, h⟩, fun h => h.day⟩
  unfold todaysTrigger
  omega

/-- A time that ends with a whole minute is got again from its date without the seconds. -/
theorem seconds_wholeMinute {n : ℕ} (ms : ℕ) (hn : n % 60 = 0) :
    (timeFromDate { dateOfSeconds n ms with second := 0, millisec := 0 }).seconds =
      BitVec.ofNat 32 n := by
  have hseconds : secondsOfDate { dateOfSeconds n ms with second := 0, millisec := 0 } = n := by
    refine (secondsOfDate_clock n ms _ _ 0 0 _).trans ?_
    show n / 86400 * 86400 + n / 3600 % 24 * 3600 + n / 60 % 60 * 60 + 0 = n
    omega
  rw [timeFromDate, hseconds]

theorem isLeast_today (htoday : ¬ NotToday scene rtcTime) (hex : ∃ t, Eligible scene rtcTime t) :
    IsLeast {t | Eligible scene rtcTime t} (timeFromDate (todaysDate scene rtcTime)).seconds := by
  have hleast := isLeast_of_eligibleDay (eligibleDay_zero_iff.2 htoday)
    (fun j _ _ => Nat.zero_le j) hex
  rwa [Nat.zero_mul, Nat.add_zero, ← secondsOfDate_todaysDate] at hleast

theorem isLeast_iterate {n : ℕ} (hfreq : scene.freq = EVERY_WEEK) (htoday : NotToday scene rtcTime)
    (hexit : wrongDay scene (incrementDay^[n + 1] (todaysDate scene rtcTime)) = false)
    (hstay : ∀ i < n, wrongDay scene (incrementDay^[i + 1] (todaysDate scene rtcTime)) = true)
    (hex : ∃ t, Eligible scene rtcTime t) :
    IsLeast {t | Eligible scene rtcTime t} (timeFromDate
      { incrementDay^[n + 1] (todaysDate scene rtcTime) with
        second := 0, millisec := 0 }).seconds := by
  have hfirst : ∀ j, EligibleDay scene rtcTime j →
      todaysTrigger scene rtcTime + j * 86400 < 2 ^ 32 → n + 1 ≤ j := by
    intro j hj hfits
    cases j with
    | zero => exact absurd htoday (eligibleDay_zero_iff.1 hj)
    | succ i =>
      by_contra hlt
      exact (wrongDay_iterate_iff hfreq hfits).1 (hstay i (by omega)) hj
  -- the loop ends before the time wraps, since it does so on the day of that time
  have hfits : todaysTrigger scene rtcTime + (n + 1) * 86400 < 2 ^ 32 := by
    obtain ⟨t, ht⟩ := hex
    obtain ⟨j, hj, htime⟩ := eligible_iff.1 ht
    have hlt : t.toNat < 2 ^ 32 := t.isLt
    have hle : n + 1 ≤ j := hfirst j hj (by omega)
    omega
  have hday : EligibleDay scene rtcTime (n + 1) := by
    by_contra hday
    rw [(wrongDay_iterate_iff hfreq hfits).2 hday] at hexit
    exact absurd hexit (by decide)
  have hminute : (todaysTrigger scene rtcTime + (n + 1) * 86400) % 60 = 0 := by
    unfold todaysTrigger
    omega
  rw [incrementDay_todaysDate hfits, seconds_wholeMinute 0 hminute]
  exact isLeast_of_eligibleDay hday hfirst hex

/-- The function returns, given fuel for fourteen rounds, and changes no other field; the trigger is
the first of these times if there are any. -/
theorem exists_calculateNewTrigger (getNextSunTimes : DateStruct → Bool → DateStruct)
    (rtcTime : TimeStruct) (hfreq : scene.freq = EVERY_WEEK)
    (htrigger : scene.trigger = REGULAR_TIME) :
    ∃ t, (∀ fuel, 14 ≤ fuel → calculateNewTrigger getNextSunTimes fuel scene rtcTime =
        some { scene with nextTriggerTime := t }) ∧
      ((∃ t, Eligible scene rtcTime t) → IsLeast {t | Eligible scene rtcTime t} t) := by
  by_cases htoday : NotToday scene rtcTime
  · obtain ⟨k, hk, hexit⟩ := exists_wrongDay_false scene (todaysDate scene rtcTime)
    obtain ⟨n, hn, hexit, hstay, hrun⟩ := exists_doWhile hexit
    refine ⟨(timeFromDate { incrementDay^[n + 1] (todaysDate scene rtcTime) with
        second := 0, millisec := 0 }).seconds, fun fuel hfuel => ?_,
      isLeast_iterate hfreq htoday hexit hstay⟩
    rw [calculateNewTrigger_eq hfreq htrigger, if_pos htoday, hrun fuel (by omega)]
    rfl
  · refine ⟨(timeFromDate (todaysDate scene rtcTime)).seconds, fun fuel _ => ?_,
      isLeast_today htoday⟩
    rw [calculateNewTrigger_eq hfreq htrigger, if_neg htoday]
    rfl

/-- **The next trigger of a scene that is triggered every week at a regular time**: given fuel for
fourteen rounds, the function returns, it changes no other field, and if there are times after the
current minute with the hour and the minute of the previous trigger and a day in the list, it is the
first of them. -/
theorem calculateNewTrigger_isLeast (getNextSunTimes : DateStruct → Bool → DateStruct)
    (scene : SceneProperties) (rtcTime : TimeStruct) (hfreq : scene.freq = EVERY_WEEK)
    (htrigger : scene.trigger = REGULAR_TIME) :
    ∃ scene', (∀ fuel, 14 ≤ fuel →
        calculateNewTrigger getNextSunTimes fuel scene rtcTime = some scene') ∧
      scene' = { scene with nextTriggerTime := scene'.nextTriggerTime } ∧
      ((∃ t, Eligible scene rtcTime t) →
        IsLeast {t | Eligible scene rtcTime t} scene'.nextTriggerTime) := by
  obtain ⟨t, hrun, hleast⟩ := exists_calculateNewTrigger getNextSunTimes rtcTime hfreq htrigger
  exact ⟨{ scene with nextTriggerTime := t }, hrun, rfl, hleast⟩

/-- There is such a time within eight days, as long as the clock does not reach its end. -/
theorem exists_eligible_le (scene : SceneProperties)
    (h : rtcTime.seconds.toNat + 8 * 86400 < 2 ^ 32) :
    ∃ t, Eligible scene rtcTime t ∧ t.toNat ≤ rtcTime.seconds.toNat + 8 * 86400 := by
  obtain ⟨k, hk, hday⟩ : ∃ k ≤ 7, EligibleDay scene rtcTime k := by
    by_cases hlist : (dayList scene).Nonempty
    · obtain ⟨day, hday⟩ := hlist
      have hlater : rtcTime.seconds.toNat / 60 < todaysTrigger scene rtcTime / 60 +
          ((day + 9 - (rtcTime.seconds.toNat / 86400) % 7) % 7 + 1) * 1440 := by
        unfold todaysTrigger
        omega
      have hweekday : Calendar.weekday (rtcTime.seconds.toNat / 86400 +
          ((day + 9 - (rtcTime.seconds.toNat / 86400) % 7) % 7 + 1)) = day := by
        have hlt : day < 7 := hday.1
        unfold Calendar.weekday
        omega
      exact ⟨_, by omega, hlater, fun _ => hweekday.symm ▸ hday⟩
    · refine ⟨1, by decide, ?_, fun hne => absurd hne hlist⟩
      unfold todaysTrigger
      omega
  have hfits : todaysTrigger scene rtcTime + k * 86400 ≤ rtcTime.seconds.toNat + 8 * 86400 := by
    unfold todaysTrigger
    omega
  have hvalue : (BitVec.ofNat 32 (todaysTrigger scene rtcTime + k * 86400)).toNat =
      todaysTrigger scene rtcTime + k * 86400 := by
    rw [BitVec.toNat_ofNat, Nat.mod_eq_of_lt (Nat.lt_of_le_of_lt hfits h)]
  refine ⟨BitVec.ofNat 32 (todaysTrigger scene rtcTime + k * 86400),
    eligible_iff.2 ⟨k, hday, ?_⟩, hvalue.trans_le hfits⟩
  rw [hvalue]
  unfold todaysTrigger
  omega

theorem exists_eligible (h : rtcTime.seconds.toNat + 8 * 86400 < 2 ^ 32) :
    ∃ t, Eligible scene rtcTime t := by
  obtain ⟨t, ht, -⟩ := exists_eligible_le scene h
  exact ⟨t, ht⟩

/-- A scene that is triggered at 11:00 on every day of the week. -/
def weeklyScene : SceneProperties :=
  { exampleScene with
    nextTriggerTime := 1441018800, freq := EVERY_WEEK, trigger := REGULAR_TIME, days := 0xFF }

/-- On the first of September 2015 at 09:29, it is triggered next at 11:00. -/
theorem calculateNewTrigger_isLeast_weekly :
    IsLeast {t | Eligible weeklyScene ⟨1441099765, 0⟩ t} 1441105200 := by
  obtain ⟨scene', hrun, -, hleast⟩ :=
    calculateNewTrigger_isLeast (fun date _ => date) weeklyScene ⟨1441099765, 0⟩ rfl rfl
  have hvalue : (calculateNewTrigger (fun date _ => date) 14 weeklyScene ⟨1441099765, 0⟩).map
      (fun scene => scene.nextTriggerTime) = some 1441105200 := by decide +kernel
  rw [hrun 14 (Nat.le_refl 14)] at hvalue
  rw [← Option.some.inj hvalue]
  exact hleast (exists_eligible (by decide))

/-- On Sundays only, it is triggered at 11:00 on the sixth. -/
example : (calculateNewTrigger (fun date _ => date) 14 { weeklyScene with days := 0x01 }
    ⟨1441099765, 0⟩).map (fun scene => scene.nextTriggerTime) = some 1441537200 := by
  decide +kernel

end Schedule

end Lcm
