import RelativeTime.Calendar.WallTime

/-!
Time zones. A zone is none at all, a fixed offset, or a name with the history of a clock: its first
offset and every change since. The offset of such a zone follows from the wall time, save where its
clock was set back and showed the time twice: there a stamp says which of the two it means.

The histories of the world's zones are not kept here. Whoever looks a name up brings them along.
-/
namespace RelativeTime

/-- A distance from universal time, in microseconds and less than a day. -/
structure Offset where
  micros : Int
  lower : -Timeline.day < micros
  upper : micros < Timeline.day
  deriving DecidableEq

namespace Offset

def ofMicros? (t : Int) : Option Offset :=
  if h : -Timeline.day < t ∧ t < Timeline.day then some ⟨t, h.1, h.2⟩ else none

def zero : Offset := ⟨0, by decide, by decide⟩

end Offset

/-- A change of a clock: the moment of universal time, and the offset from then on. -/
structure ClockChange where
  moment : Int
  offset : Int
  deriving DecidableEq

namespace ClockChange

/-- From here on up to `closes` the clock skips the wall time, or shows it twice. -/
def opens (c : ClockChange) (before : Int) : Int :=
  c.moment + min before c.offset

def closes (c : ClockChange) (before : Int) : Int :=
  c.moment + max before c.offset

/-- The wall time from which a stamp lies behind the change. -/
def isBehindFrom (c : ClockChange) (before : Int) (repeated : Bool) : Int :=
  if repeated then c.opens before else c.closes before

/-- Whether the clock shows for the second time what it shows at a moment behind the change. -/
def showsAgain (c : ClockChange) (before moment : Int) : Bool :=
  moment - c.moment < before - c.offset

end ClockChange

/-- The offset that a clock began with and all changes since, the earliest first. -/
structure ClockHistory where
  initial : Int
  changes : List ClockChange
  deriving DecidableEq

namespace ClockHistory

/-- The offset behind the last of some changes that the clock has passed when it shows a wall time,
for the first time or again. -/
def offsetBehind (current : Int) : List ClockChange → Bool → Int → Int
  | [], _, _ => current
  | c :: cs, repeated, wall =>
    if c.isBehindFrom current repeated ≤ wall then offsetBehind c.offset cs repeated wall
    else current

/-- The distance from universal time when the clock shows a wall time. -/
def offsetAt (h : ClockHistory) (repeated : Bool) (wall : Int) : Int :=
  offsetBehind h.initial h.changes repeated wall

/-- What the clock shows at a moment behind some changes, the last of which tells whether it shows
it for the second time. -/
def shownBehind (moment current : Int) (again : Bool) : List ClockChange → Int × Bool
  | [] => (moment + current, again)
  | c :: cs =>
    if c.moment ≤ moment then shownBehind moment c.offset (c.showsAgain current moment) cs
    else (moment + current, again)

/-- What the clock shows at a moment of universal time, and whether for the second time. -/
def wallAt (h : ClockHistory) (moment : Int) : Int × Bool :=
  shownBehind moment h.initial false h.changes

end ClockHistory

structure NamedZone where
  name : String
  history : ClockHistory
  deriving DecidableEq

inductive Zone
  | floating
  | fixed (offset : Offset)
  | named (z : NamedZone)
  deriving DecidableEq

namespace Zone

/-- What a clock in the zone shows at a moment of universal time, which a floating zone takes for
its own. -/
def wallAt : Zone → Int → Int × Bool
  | floating, moment => (moment, false)
  | fixed o, moment => (moment + o.micros, false)
  | named z, moment => z.history.wallAt moment

end Zone

/-- A wall time in a zone; `repeated` picks the second of two showings. -/
structure Stamp where
  wall : WallTime
  zone : Zone
  repeated : Bool
  deriving DecidableEq

namespace Stamp

/-- The distance from universal time, which a floating stamp has not. -/
def offset? (s : Stamp) : Option Int :=
  match s.zone with
  | .floating => none
  | .fixed o => some o.micros
  | .named z => some (z.history.offsetAt s.repeated s.wall.micros)

/-- The moment of universal time. -/
def moment? (s : Stamp) : Option Int :=
  s.offset?.map (s.wall.micros - ·)

/-- Whether the other showing of the wall time would have another offset: the clock skips the wall
time or shows it twice. -/
def isAmbiguous (s : Stamp) : Bool :=
  s.offset? ≠ { s with repeated := !s.repeated }.offset?

/-- Whether two stamps are equal: in one zone, or both floating, their wall times have to be;
otherwise their moments, and neither wall time may be ambiguous. -/
def agrees (a b : Stamp) : Bool :=
  if a.zone = b.zone then a.wall = b.wall
  else match a.moment?, b.moment? with
    | some s, some t => s = t && !a.isAmbiguous && !b.isAmbiguous
    | _, _ => false

/-- What the clock of a zone shows at a moment. A clock stops at the ends of its range. -/
def ofMoment (z : Zone) (moment : Int) : Stamp :=
  let shown := z.wallAt moment
  ⟨WallTime.nearest shown.1, z, shown.2⟩

end Stamp

end RelativeTime
