import RelativeTime.Calendar.WallTime

/-!
Moving a wall time. An amount of a unit is split into larger units, the calendar counts the years
and months, and the rest is one fixed distance. Each stage refuses what it cannot hold, with a
reason of its own.
-/
namespace RelativeTime

/-- A distance in parts: years and months, which the calendar counts, and parts of fixed
length. -/
structure Parts where
  years : Int
  months : Int
  days : Int
  hours : Int
  minutes : Int
  seconds : Int
  deriving DecidableEq

namespace Parts

/-- An amount of one unit before it is split. -/
def ofAmount (u : TimeUnit) (n : Int) : Parts :=
  match u with
  | .second => ⟨0, 0, 0, 0, 0, n⟩
  | .minute => ⟨0, 0, 0, 0, n, 0⟩
  | .hour => ⟨0, 0, 0, n, 0, 0⟩
  | .day => ⟨0, 0, n, 0, 0, 0⟩
  | .week => ⟨0, 0, 7 * n, 0, 0, 0⟩
  | .month => ⟨0, n, 0, 0, 0, 0⟩

/-- What a part hands on to the next larger one, and what it keeps. The sign of a part that is
split is read off the nearest double-precision number. -/
def split (size : Nat) (n : Int) : Except RangeFault (Int × Int) :=
  if n.natAbs < size then .ok (0, n)
  else if RangeFault.doubleLimit ≤ n.natAbs then .error .amountTooLarge
  else .ok (n.tdiv size, n.tmod size)

/-- The parts with every one below the size of the next, save for years and days. -/
def balanced (p : Parts) : Except RangeFault Parts := do
  let (minutes, seconds) ← split 60 p.seconds
  let (hours, minutes) ← split 60 (p.minutes + minutes)
  let (days, hours) ← split 24 (p.hours + hours)
  let (years, months) ← split 12 p.months
  return ⟨p.years + years, months, p.days + days, hours, minutes, seconds⟩

/-- The same distance the other way. -/
def neg (p : Parts) : Parts :=
  ⟨-p.years, -p.months, -p.days, -p.hours, -p.minutes, -p.seconds⟩

/-- The parts of fixed length together, in microseconds. -/
def duration (p : Parts) : Int :=
  p.days * Timeline.day + p.hours * Timeline.hour + p.minutes * Timeline.minute +
    p.seconds * Timeline.second

end Parts

namespace WallTime

/-- The same time of day so many years and months on, on the last day of a month too short for
the day. -/
def inMonth (years months : Int) (w : WallTime) : Except RangeFault WallTime :=
  let year := w.date.year + years
  let month := w.date.month + months
  -- the months are fewer than a year, so they carry at most once
  let (year, month) :=
    if 12 < month then (year + 1, month - 12)
    else if month < 1 then (year - 1, month + 12)
    else (year, month)
  let date : CivilDate :=
    ⟨year, month.toNat, min w.date.day (CivilDate.monthLength year month.toNat)⟩
  if 1 ≤ year ∧ year ≤ 9999 then
    place .outside (Timeline.ofDate date (Timeline.timeOfDay w.micros))
  else .error (.ofYear year)

/-- The wall time a fixed distance on. The distance has to be one that can be kept, as whole days
and a part of a day, before it matters where it leads. -/
def movedBy (distance : Int) (w : WallTime) : Except RangeFault WallTime :=
  let fault := RangeFault.ofDays (Timeline.dayNumber distance)
  if fault = .outside then place .outside (w.micros + distance) else .error fault

def movedByParts (p : Parts) (w : WallTime) : Except RangeFault WallTime := do
  let dated ← w.inMonth p.years p.months
  dated.movedBy p.duration

/-- A wall time moved on by a number of units. -/
def shift (u : TimeUnit) (n : Int) (w : WallTime) : Except RangeFault WallTime := do
  let parts ← (Parts.ofAmount u n).balanced
  w.movedByParts parts

/-- A wall time moved back by a number of units. What is turned round are the parts. -/
def shiftBack (u : TimeUnit) (n : Int) (w : WallTime) : Except RangeFault WallTime := do
  let parts ← (Parts.ofAmount u n).balanced
  let back ← parts.neg.balanced
  w.movedByParts back

def lastWeekday (day : Weekday) (w : WallTime) : Except RangeFault WallTime :=
  w.shiftBack .day (Weekday.daysBack w.weekday.ordinal day.ordinal)

def nextWeekday (day : Weekday) (w : WallTime) : Except RangeFault WallTime :=
  w.shift .day (Weekday.daysBack day.ordinal w.weekday.ordinal)

/-- A week starts where its first day was last, seen from the start of the day. -/
def startOf (first : Weekday) (u : TimeUnit) (w : WallTime) : Except RangeFault WallTime :=
  match u with
  | .week => do
    let midnight ← place .outside (Timeline.startOfDay w.micros)
    midnight.lastWeekday first
  | u => place .outside (Timeline.startOf first u w.micros)

/-- The end of a week is found from its start, so both have to be in range. -/
def endOf (first : Weekday) (u : TimeUnit) (w : WallTime) : Except RangeFault WallTime :=
  match u with
  | .week => do
    -- the first week of the year 1 may begin before it and yet end in it
    let start ← startOf first .week w
    let last ← start.shift .day 6
    place .outside (Timeline.endOf first .day last.micros)
  | u => place .outside (Timeline.endOf first u w.micros)

end WallTime

end RelativeTime
