import RelativeTime.Evaluation

/-!
Evaluation without bounds: what clauses do to a moment when no year is too early or too late, and
the moments they pass through on the way. A clock can follow as long as it can show all of these.
-/
namespace RelativeTime

/-- Weekdays are those of the business week. -/
def Timeline.isBusinessDay (t : Int) : Bool :=
  !(Timeline.weekdayOf t).isWeekend

/-- The Monday on or after the first day of the week of a moment. -/
def Timeline.businessMonday (first : Weekday) (t : Int) : Int :=
  nextWeekday .monday (startOfWeek first t)

/-- The first day of the week of a moment. -/
def Timeline.firstDay (first : Weekday) (t : Int) : Int :=
  dayNumber (startOfWeek first t)

/-- Whether a moment is a business day in the week of the anchor. -/
def Timeline.isUnderWay (first : Weekday) (anchor t : Int) : Bool :=
  startOfWeek first t = startOfWeek first anchor && isBusinessDay t

namespace Clause

/-- The moments that a clause passes through, the last of which is its result. -/
def passes (first : Weekday) (anchor t : Int) : Clause → List Int
  | now => [t]
  | shift k => [Timeline.shift k.unit (k.sign.apply k.amount.count) t]
  | snap ⟨.start, .unit u⟩ => [Timeline.startOf first u t]
  | snap ⟨.finish, .unit .week⟩ =>
    [Timeline.startOf first .week t, Timeline.endOf first .week t]
  | snap ⟨.finish, .unit u⟩ => [Timeline.endOf first u t]
  | snap ⟨.start, .weekday w⟩ => [Timeline.lastWeekday w t]
  | snap ⟨.finish, .weekday w⟩ => [Timeline.nextWeekday w t]
  | snap ⟨.start, .businessWeek⟩ =>
    [Timeline.startOfWeek first t, Timeline.businessMonday first t]
  | snap ⟨.finish, .businessWeek⟩ =>
    let monday := Timeline.businessMonday first t
    [Timeline.startOfWeek first t, monday, Timeline.startOfWeek first anchor] ++
      if Timeline.isUnderWay first anchor t then [t]
      else [monday + 4 * Timeline.day, Timeline.endOf first .day (monday + 4 * Timeline.day)]

/-- The result of a clause. -/
def exact (first : Weekday) (anchor t : Int) (c : Clause) : Int :=
  (c.passes first anchor t).getLastD t

/-- The result of clauses one after the other. -/
def exactAll (first : Weekday) (anchor t : Int) (cs : List Clause) : Int :=
  cs.foldl (fun t c => c.exact first anchor t) t

/-- All moments that clauses pass through. -/
def passesAll (first : Weekday) (anchor t : Int) : List Clause → List Int
  | [] => []
  | c :: cs => c.passes first anchor t ++ passesAll first anchor (c.exact first anchor t) cs

/-- The days that a clause visits. The snaps that stay in their day or month visit none. -/
def days (first : Weekday) (anchor t : Int) : Clause → List Int
  | now => []
  | shift k => [Timeline.dayNumber (Timeline.shift k.unit (k.sign.apply k.amount.count) t)]
  | snap ⟨.start, .unit .week⟩ => [Timeline.firstDay first t]
  | snap ⟨.finish, .unit .week⟩ => [Timeline.firstDay first t, Timeline.firstDay first t + 6]
  | snap ⟨_, .unit _⟩ => []
  | snap ⟨.start, .weekday w⟩ => [Timeline.dayNumber (Timeline.lastWeekday w t)]
  | snap ⟨.finish, .weekday w⟩ => [Timeline.dayNumber (Timeline.nextWeekday w t)]
  | snap ⟨.start, .businessWeek⟩ =>
    [Timeline.firstDay first t, Timeline.dayNumber (Timeline.businessMonday first t)]
  | snap ⟨.finish, .businessWeek⟩ =>
    let monday := Timeline.dayNumber (Timeline.businessMonday first t)
    [Timeline.firstDay first t, monday, Timeline.firstDay first anchor] ++
      if Timeline.isUnderWay first anchor t then [] else [monday + 4]

/-- All days that clauses visit. -/
def daysAll (first : Weekday) (anchor t : Int) : List Clause → List Int
  | [] => []
  | c :: cs => c.days first anchor t ++ daysAll first anchor (c.exact first anchor t) cs

end Clause

end RelativeTime
