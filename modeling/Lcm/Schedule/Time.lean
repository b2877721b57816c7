import Lcm.Calendar
import Lcm.Flash.Memory

/-!
# Times and dates

The clock counts the seconds of the local time from 1970 on, in 32 bits.  The conversions to and
from dates are those of the operating system, `_time_to_date` and `_time_from_date`.

## Main definitions

* `TimeStruct`, `DateStruct` : `TIME_STRUCT` and `DATE_STRUCT`.
* `timeToDate`, `timeFromDate` : the conversions.

## Main results

* `timeFromDate_timeToDate` : a time is got again from its date.
* `secondsOfDate_clock` : the seconds of a date with another time of day.
-/

namespace Lcm

namespace Schedule

open Flash

/-- `SECONDS_PER_DAY` -/
abbrev SECONDS_PER_DAY : ℕ := 86400

/-- `TIME_STRUCT` -/
@[ext] structure TimeStruct where
  /-- `SECONDS` -/
  seconds : Dword
  /-- `MILLISECONDS` -/
  milliseconds : Dword
  deriving DecidableEq

/-- `DATE_STRUCT`, without the day of the year, which is not read -/
structure DateStruct where
  /-- `YEAR` -/
  year : ℕ
  /-- `MONTH`, from 1 on -/
  month : ℕ
  /-- `DAY`, from 1 on -/
  day : ℕ
  /-- `HOUR` -/
  hour : ℕ
  /-- `MINUTE` -/
  minute : ℕ
  /-- `SECOND` -/
  second : ℕ
  /-- `MILLISEC` -/
  millisec : ℕ
  /-- `WDAY`, from Sunday on -/
  wday : ℕ
  deriving DecidableEq

/-- The date and the time of day, so many seconds after the first of January 1970. -/
def dateOfSeconds (n millisec : ℕ) : DateStruct :=
  let date := Calendar.ofDays (n / SECONDS_PER_DAY)
  { year := date.year, month := date.month, day := date.day
    hour := n / 3600 % 24, minute := n / 60 % 60, second := n % 60, millisec := millisec
    wday := Calendar.weekday (n / SECONDS_PER_DAY) }

/-- The seconds from the first of January 1970 to a date and a time of day. -/
def secondsOfDate (date : DateStruct) : ℕ :=
  Calendar.toDays ⟨date.year, date.month, date.day⟩ * SECONDS_PER_DAY + date.hour * 3600 +
    date.minute * 60 + date.second

/-- `_time_to_date` -/
def timeToDate (time : TimeStruct) : DateStruct :=
  dateOfSeconds time.seconds.toNat time.milliseconds.toNat

/-- `_time_from_date` -/
def timeFromDate (date : DateStruct) : TimeStruct :=
  ⟨BitVec.ofNat 32 (secondsOfDate date), BitVec.ofNat 32 date.millisec⟩

variable {time : TimeStruct}

/-- The seconds of a date with another time of day. -/
theorem secondsOfDate_clock (n ms h m s ms' w : ℕ) :
    secondsOfDate { dateOfSeconds n ms with
      hour := h, minute := m, second := s, millisec := ms', wday := w } =
      n / SECONDS_PER_DAY * SECONDS_PER_DAY + h * 3600 + m * 60 + s := by
  have hdays : Calendar.toDays ⟨(dateOfSeconds n ms).year, (dateOfSeconds n ms).month,
      (dateOfSeconds n ms).day⟩ = n / SECONDS_PER_DAY := Calendar.toDays_ofDays _
  simp only [secondsOfDate, hdays]

theorem secondsOfDate_dateOfSeconds (n ms : ℕ) : secondsOfDate (dateOfSeconds n ms) = n := by
  refine (secondsOfDate_clock n ms (n / 3600 % 24) (n / 60 % 60) (n % 60) ms
    (Calendar.weekday (n / SECONDS_PER_DAY))).trans ?_
  show n / 86400 * 86400 + n / 3600 % 24 * 3600 + n / 60 % 60 * 60 + n % 60 = n
  omega

/-- **A time is got again from its date.** -/
theorem timeFromDate_timeToDate (time : TimeStruct) : timeFromDate (timeToDate time) = time := by
  have hseconds : secondsOfDate (timeToDate time) = time.seconds.toNat :=
    secondsOfDate_dateOfSeconds _ _
  ext1
  · rw [timeFromDate, hseconds, BitVec.ofNat_toNat, BitVec.setWidth_eq]
  · exact (BitVec.ofNat_toNat 32 _).trans (BitVec.setWidth_eq _)

end Schedule

end Lcm
