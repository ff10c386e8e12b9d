import RelativeTime.Calendar.Date
import RelativeTime.Code

/-!
Wall-clock time without an end on either side: microseconds from midnight of the first of January
of the year 1. Every operation of the calendar is exact here and always has a result; whether a
clock can show that result is asked elsewhere.
-/
namespace RelativeTime.Timeline

def second : Int := 1000000

def minute : Int := 60 * second

def hour : Int := 60 * minute

def day : Int := 24 * hour

def week : Int := 7 * day

/-- The number of the day a moment lies in. -/
def dayNumber (t : Int) : Int :=
  t / day

/-- Microseconds since midnight. -/
def timeOfDay (t : Int) : Int :=
  t % day

def dateOf (t : Int) : CivilDate :=
  CivilDate.ofDay (dayNumber t)

/-- The moment of a date and a time of day. -/
def ofDate (date : CivilDate) (time : Int) : Int :=
  date.toDay * day + time

/-- Days since Sunday; the first day of the year 1 is a Monday. -/
def weekdayOrdinal (t : Int) : Int :=
  (dayNumber t + 1) % 7

def weekdayOf (t : Int) : Weekday :=
  Weekday.ofOrdinal (weekdayOrdinal t).toNat

/-- Months since the start of the year 1. -/
def monthIndex (date : CivilDate) : Int :=
  12 * (date.year - 1) + (date.month - 1)

/-- The date in a month that has the given day, or the last day of a month too short for it. -/
def dateInMonth (index : Int) (dayOfMonth : Nat) : CivilDate :=
  let year := index / 12 + 1
  let month := (index % 12).toNat + 1
  ⟨year, month, min dayOfMonth (CivilDate.monthLength year month)⟩

def shiftMonths (n : Int) (t : Int) : Int :=
  let date := dateOf t
  ofDate (dateInMonth (monthIndex date + n) date.day) (timeOfDay t)

/-- A moment moved by a number of units. -/
def shift (u : TimeUnit) (n : Int) (t : Int) : Int :=
  match u with
  | .second => t + n * second
  | .minute => t + n * minute
  | .hour => t + n * hour
  | .day => t + n * day
  | .week => t + n * week
  | .month => shiftMonths n t

/-- The first moment of the day. -/
def startOfDay (t : Int) : Int :=
  t - t % day

/-- The first moment of the week, for weeks that begin on a given day. -/
def startOfWeek (first : Weekday) (t : Int) : Int :=
  startOfDay t - Weekday.daysBack (weekdayOrdinal t) first.ordinal * day

/-- The first moment of a unit. -/
def startOf (first : Weekday) (u : TimeUnit) (t : Int) : Int :=
  match u with
  | .second => t - t % second
  | .minute => t - t % minute
  | .hour => t - t % hour
  | .day => startOfDay t
  | .week => startOfWeek first t
  | .month => ofDate { dateOf t with day := 1 } 0

/-- The last moment of a unit. -/
def endOf (first : Weekday) (u : TimeUnit) (t : Int) : Int :=
  match u with
  | .second => t - t % second + second - 1
  | .minute => t - t % minute + minute - 1
  | .hour => t - t % hour + hour - 1
  | .day => startOfDay t + day - 1
  | .week => startOfWeek first t + week - 1
  | .month => ofDate (dateInMonth (monthIndex (dateOf t)) 31) (day - 1)

/-- The same time of day on the last given weekday, today included. -/
def lastWeekday (w : Weekday) (t : Int) : Int :=
  t - Weekday.daysBack (weekdayOrdinal t) w.ordinal * day

/-- The same time of day on the next given weekday, today included. -/
def nextWeekday (w : Weekday) (t : Int) : Int :=
  t + Weekday.daysBack w.ordinal (weekdayOrdinal t) * day

end RelativeTime.Timeline
