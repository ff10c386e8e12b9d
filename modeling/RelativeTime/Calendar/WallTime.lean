import RelativeTime.Calendar.Timeline

/-!
What a clock can show: wall-clock times of the years 1 to 9999. Moving one may leave that range,
and each way of leaving it has a reason of its own.
-/
namespace RelativeTime

namespace Timeline

/-- The first moment of the year 10000. -/
def limit : Int := 3652059 * day

end Timeline

structure WallTime where
  micros : Int
  micros_nonneg : 0 ≤ micros
  micros_lt : micros < Timeline.limit
  deriving DecidableEq

/-- Why a result is outside the years that a clock can show. -/
inductive RangeFault
  | amountTooLarge
  | yearTooWide
  | yearTooHigh
  | yearTooLow
  | year (n : Int)
  | daysTooWide
  | daysTooMany (n : Int)
  | outside
  deriving DecidableEq

namespace RangeFault

def message : RangeFault → String
  | amountTooLarge => "int too large to convert to float"
  | yearTooWide => "Python int too large to convert to C long"
  | yearTooHigh => "signed integer is greater than maximum"
  | yearTooLow => "signed integer is less than minimum"
  | year n => "year " ++ toString n ++ " is out of range"
  | daysTooWide => "Python int too large to convert to C int"
  | daysTooMany n => "days=" ++ toString n ++ "; must have magnitude <= 999999999"
  | outside => "date value out of range"

/-- A year that is no year of the clock; the others do not fit where a number is kept. -/
def isYear : RangeFault → Bool
  | year _ => true
  | _ => false

/-- From here on the nearest double-precision number is infinite. -/
def doubleLimit : Nat := Nat.pow 2 1024 - Nat.pow 2 970

/-- Half the number of words of 32 bits. -/
def wordLimit : Int := 2147483648

/-- Half the number of words of 64 bits. -/
def longLimit : Int := 9223372036854775808

def ofYear (n : Int) : RangeFault :=
  if n < -longLimit ∨ longLimit ≤ n then yearTooWide
  else if wordLimit ≤ n then yearTooHigh
  else if n < -wordLimit then yearTooLow
  else year n

def ofDays (n : Int) : RangeFault :=
  if n < -wordLimit ∨ wordLimit ≤ n then daysTooWide
  else if 999999999 < n.natAbs then daysTooMany n
  else outside

/-- The reason for an amount that is split into larger units: it has to fit a double-precision
number before anything else is looked at. -/
def ofParts (n : Int) (otherwise : RangeFault) : RangeFault :=
  if doubleLimit ≤ n.natAbs then amountTooLarge else otherwise

/-- The reason for a shift that leaves the range. Days and weeks are not split into larger
units. -/
def ofShift (u : TimeUnit) (n : Int) (t : Int) : RangeFault :=
  match u with
  | .second => ofParts n (ofDays (n * Timeline.second / Timeline.day))
  | .minute => ofParts n (ofDays (n * Timeline.minute / Timeline.day))
  | .hour => ofParts n (ofDays (n * Timeline.hour / Timeline.day))
  | .day => ofDays n
  | .week => ofDays (7 * n)
  | .month => ofParts n (ofYear ((Timeline.monthIndex (Timeline.dateOf t) + n) / 12 + 1))

end RangeFault

namespace WallTime

def ofMicros? (t : Int) : Option WallTime :=
  if h : 0 ≤ t ∧ t < Timeline.limit then some ⟨t, h.1, h.2⟩ else none

/-- The wall time at a moment, or the end of the range that lies nearer to it. -/
def nearest (t : Int) : WallTime :=
  ⟨max 0 (min t (Timeline.limit - 1)), by omega, by
    have : 0 < Timeline.limit := by decide
    omega⟩

/-- The wall time at a moment, or the reason given for its absence. -/
def place (fault : RangeFault) (t : Int) : Except RangeFault WallTime :=
  match ofMicros? t with
  | some w => .ok w
  | none => .error fault

def date (w : WallTime) : CivilDate :=
  Timeline.dateOf w.micros

def weekday (w : WallTime) : Weekday :=
  Timeline.weekdayOf w.micros

end WallTime

end RelativeTime
