import RelativeTime.Calendar.Basic
import RelativeTime.Clause.Basic

/-!
What clauses do to a stamp. Clauses act one after the other; the stamp they began with stays in
sight, as the end of a business week depends on it.
-/
namespace RelativeTime

/-- One clause applied to a stamp, with the stamp that the evaluation began with as the anchor. -/
def Clause.apply (c : Calendar) (anchor s : Stamp) : Clause → Except RangeFault Stamp
  | now => .ok s
  | shift ⟨.plus, n, u⟩ => s.shift u n.count
  | shift ⟨.minus, n, u⟩ => s.shiftBack u n.count
  | snap ⟨.start, .unit u⟩ => c.startOf u s
  | snap ⟨.finish, .unit u⟩ => c.endOf u s
  | snap ⟨.start, .weekday w⟩ => s.lastWeekday w
  | snap ⟨.finish, .weekday w⟩ => s.nextWeekday w
  | snap ⟨.start, .businessWeek⟩ => c.businessMonday s
  | snap ⟨.finish, .businessWeek⟩ => c.endOfBusinessWeek anchor s

/-- Clauses applied from a stamp on, with a fixed anchor. -/
def Clause.applyAll (c : Calendar) (anchor s : Stamp) (clauses : List Clause) :
    Except RangeFault Stamp :=
  clauses.foldlM (fun s clause => clause.apply c anchor s) s

/-- The value of clauses at a reference. -/
def Clause.evaluate (c : Calendar) (reference : Stamp) (clauses : List Clause) :
    Except RangeFault Stamp :=
  applyAll c reference reference clauses

end RelativeTime
