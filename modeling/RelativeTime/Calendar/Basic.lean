import RelativeTime.Text.Quoted
import RelativeTime.Calendar.Parts
import RelativeTime.Zone

/-!
A calendar moves and rounds stamps. All of it works on the wall time and keeps the zone. Setting
fields of the wall time keeps which of two showings a stamp means; any computed distance goes to
the first.
-/
namespace RelativeTime

/-- A calendar is told apart by the first day of its weeks. -/
structure Calendar where
  weekStart : Weekday
  deriving DecidableEq

/-- Why a request to a calendar has no answer. -/
inductive CalendarError
  | range (f : RangeFault)
  | weekIndex
  | weekStart (n : Int)
  | unknownUnit (code : String)
  deriving DecidableEq

def CalendarError.message : CalendarError → String
  | range f => f.message
  | weekIndex => "tuple index out of range"
  | weekStart n => "week_starts_on must be a weekday ordinal 0-6, got " ++ toString n
  | unknownUnit code => Text.quoted code ++ " is not a valid Unit"

namespace Stamp

/-- The wall time put at a computed distance from another one. -/
def moved (s : Stamp) (w : WallTime) : Stamp :=
  ⟨w, s.zone, false⟩

/-- The wall time with some of its fields set. -/
def refitted (s : Stamp) (w : WallTime) : Stamp :=
  ⟨w, s.zone, s.repeated⟩

def shift (s : Stamp) (u : TimeUnit) (n : Int) : Except RangeFault Stamp :=
  s.moved <$> s.wall.shift u n

def shiftBack (s : Stamp) (u : TimeUnit) (n : Int) : Except RangeFault Stamp :=
  s.moved <$> s.wall.shiftBack u n

def lastWeekday (s : Stamp) (w : Weekday) : Except RangeFault Stamp :=
  s.moved <$> s.wall.lastWeekday w

def nextWeekday (s : Stamp) (w : Weekday) : Except RangeFault Stamp :=
  s.moved <$> s.wall.nextWeekday w

def weekday (s : Stamp) : Weekday :=
  s.wall.weekday

def isWeekend (s : Stamp) : Bool :=
  s.weekday.isWeekend

end Stamp

namespace Calendar

/-- The calendar whose weeks begin on Sunday. -/
def standard : Calendar := ⟨.sunday⟩

def ofOrdinal (n : Int) : Except CalendarError Calendar :=
  match Weekday.ofOrdinal? n with
  | some w => .ok ⟨w⟩
  | none => .error (.weekStart n)

/-- The calendar with another first day of the week, if one is asked for. -/
def withWeekStart (c : Calendar) : Option Int → Except CalendarError Calendar
  | none => .ok c
  | some i =>
    match Weekday.ofIndex? i with
    | some w => .ok ⟨w⟩
    | none => .error .weekIndex

/-- The first moment of the unit that a stamp lies in. -/
def startOf (c : Calendar) (u : TimeUnit) (s : Stamp) : Except RangeFault Stamp :=
  (if u = .week then s.moved else s.refitted) <$> s.wall.startOf c.weekStart u

/-- The last moment of the unit that a stamp lies in. -/
def endOf (c : Calendar) (u : TimeUnit) (s : Stamp) : Except RangeFault Stamp :=
  (if u = .week ∨ u = .month then s.moved else s.refitted) <$> s.wall.endOf c.weekStart u

/-- Whether two stamps lie in one week. -/
def sameWeek (c : Calendar) (a b : Stamp) : Except RangeFault Bool := do
  let first ← c.startOf .week a
  let second ← c.startOf .week b
  return first.agrees second

/-- The Monday inside the week of a stamp. -/
def businessMonday (c : Calendar) (s : Stamp) : Except RangeFault Stamp := do
  let first ← c.startOf .week s
  first.shift .day (Weekday.daysBack Weekday.monday.ordinal first.weekday.ordinal)

/-- The end of the business week of a stamp, which is the Monday to Friday inside its week. In
the week of the anchor a stamp on a weekday is its own end. -/
def endOfBusinessWeek (c : Calendar) (anchor s : Stamp) : Except RangeFault Stamp := do
  let monday ← c.businessMonday s
  if (← c.sameWeek s anchor) && !s.isWeekend then return s
  -- Friday is four days behind Monday
  let friday ← monday.shift .day 4
  c.endOf .day friday

/-- A request by code, which has to be that of a unit; the first day of the week may be
overridden and is looked at for weeks only. -/
def request (c : Calendar) (code : String) (override : Option Int)
    (run : Calendar → TimeUnit → Except RangeFault Stamp) : Except CalendarError Stamp :=
  match TimeUnit.ofCode? code with
  | none => .error (.unknownUnit code)
  | some u => do
    let c ← if u = .week then c.withWeekStart override else pure c
    (run c u).mapError .range

end Calendar

end RelativeTime
