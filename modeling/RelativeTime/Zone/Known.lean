import RelativeTime.Zone

/-!
The clocks of a few zones, for the years 2007 to 2037. In summer some of them are an hour ahead of
the rest of the year.
-/
namespace RelativeTime.ClockHistory

/-- Midnight of the first Sunday that is not before a day of a month. -/
def sundayFrom (year : Int) (month day : Nat) : Int :=
  Timeline.nextWeekday .sunday (Timeline.ofDate ⟨year, month, day⟩ 0)

/-- A clock that goes an hour forward and back again in every year. -/
def withSummer (standard : Int) (forward back : Int → Int) : ClockHistory where
  initial := standard
  changes := (List.range 31).flatMap fun (i : Nat) =>
    [⟨forward (2007 + i), standard + Timeline.hour⟩, ⟨back (2007 + i), standard⟩]

def kolkata : ClockHistory :=
  ⟨5 * Timeline.hour + 30 * Timeline.minute, []⟩

/-- The last Sunday of a month of 31 days is the first from the 25th on. -/
def madrid : ClockHistory :=
  withSummer Timeline.hour (sundayFrom · 3 25 + Timeline.hour) (sundayFrom · 10 25 + Timeline.hour)

def newYork : ClockHistory :=
  withSummer (-5 * Timeline.hour) (sundayFrom · 3 8 + 7 * Timeline.hour)
    (sundayFrom · 11 1 + 6 * Timeline.hour)

/-- The clock of a zone by its name, if it is one of these. -/
def ofName? (name : String) : Option ClockHistory :=
  [("Asia/Kolkata", kolkata), ("Europe/Madrid", madrid), ("America/New_York", newYork)].lookup name

end RelativeTime.ClockHistory
