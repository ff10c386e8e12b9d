/-!
The codes an expression is written with: six units of time, seven weekdays, and the boundaries
that a snap rounds to. Every code is read back to what it stands for, and nothing else is
(`byKey?_eq_some`).
-/
namespace RelativeTime

/-- The first of some values that has a key. -/
def byKey? {α : Type} (key : α → String) (all : List α) (s : String) : Option α :=
  all.find? fun a => key a == s

theorem isSome_byKey?_iff {α : Type} {key : α → String} {all : List α} {s : String} :
    (byKey? key all s).isSome ↔ s ∈ all.map key := by
  rw [byKey?, List.find?_isSome, List.mem_map]
  simp only [beq_iff_eq]

/-- To look a key up is to look it up in the table of all keys with their values. -/
theorem lookup_map_key {α : Type} (key : α → String) (all : List α) (s : String) :
    (all.map fun a => (key a, a)).lookup s = byKey? key all s := by
  induction all with
  | nil => rfl
  | cons a all ih =>
    by_cases h : key a = s
    · simp [byKey?, h]
    · have hs : ¬ s = key a := Ne.symm h
      simp only [List.map_cons, List.lookup_cons, beq_eq_false_iff_ne.mpr hs, ih, byKey?,
        List.find?_cons, beq_eq_false_iff_ne.mpr h]

/-- Where each value is found by its own key, a text finds the value that it is the key of. -/
theorem byKey?_eq_some {α : Type} {key : α → String} {all : List α}
    (h : ∀ a, byKey? key all (key a) = some a) {s : String} {a : α} :
    byKey? key all s = some a ↔ s = key a := by
  constructor
  · intro hs
    have ha : key a = s := by simpa using List.find?_some hs
    exact ha.symm
  · rintro rfl
    exact h a

inductive TimeUnit
  | second | minute | hour | day | week | month
  deriving DecidableEq

inductive Weekday
  | sunday | monday | tuesday | wednesday | thursday | friday | saturday
  deriving DecidableEq

/-- What a snap rounds to: a unit, the business week or a weekday. -/
inductive Boundary
  | unit (u : TimeUnit)
  | businessWeek
  | weekday (w : Weekday)
  deriving DecidableEq

namespace TimeUnit

def all : List TimeUnit := [second, minute, hour, day, week, month]

def code : TimeUnit → String
  | second => "s"
  | minute => "m"
  | hour => "h"
  | day => "d"
  | week => "w"
  | month => "M"

def ofCode? : String → Option TimeUnit :=
  byKey? code all

theorem ofCode?_eq_some {s : String} {u : TimeUnit} : ofCode? s = some u ↔ s = u.code :=
  byKey?_eq_some fun u => by cases u <;> decide

end TimeUnit

namespace Weekday

/-- The weekdays by ordinal. -/
def all : List Weekday := [sunday, monday, tuesday, wednesday, thursday, friday, saturday]

/-- Days since Sunday. -/
def ordinal : Weekday → Nat
  | sunday => 0
  | monday => 1
  | tuesday => 2
  | wednesday => 3
  | thursday => 4
  | friday => 5
  | saturday => 6

/-- The weekday a number of days after a Sunday. -/
def ofOrdinal (n : Nat) : Weekday :=
  match n % 7 with
  | 0 => sunday
  | 1 => monday
  | 2 => tuesday
  | 3 => wednesday
  | 4 => thursday
  | 5 => friday
  | _ => saturday

def code : Weekday → String
  | sunday => "sun"
  | monday => "mon"
  | tuesday => "tue"
  | wednesday => "wed"
  | thursday => "thu"
  | friday => "fri"
  | saturday => "sat"

def ofCode? : String → Option Weekday :=
  byKey? code all

theorem ordinal_lt (w : Weekday) : w.ordinal < 7 := by
  cases w <;> decide

theorem ofOrdinal_ordinal (w : Weekday) : ofOrdinal w.ordinal = w := by
  cases w <;> rfl

@[simp] theorem ordinal_ofOrdinal (n : Nat) : (ofOrdinal n).ordinal = n % 7 := by
  have h : n % 7 = 0 ∨ n % 7 = 1 ∨ n % 7 = 2 ∨ n % 7 = 3 ∨ n % 7 = 4 ∨ n % 7 = 5 ∨ n % 7 = 6 := by
    omega
  rcases h with h | h | h | h | h | h | h <;> simp only [ofOrdinal, h, ordinal]

/-- Days to go back from one ordinal to reach another, at least none and fewer than seven. -/
def daysBack (later earlier : Int) : Int :=
  (later - earlier) % 7

/-- A weekday's place in a week of seven, counted from either end as a list index may be. -/
def ofIndex? (i : Int) : Option Weekday :=
  if -7 ≤ i ∧ i < 7 then some (ofOrdinal (i % 7).toNat) else none

/-- A weekday by its ordinal alone. -/
def ofOrdinal? (i : Int) : Option Weekday :=
  if 0 ≤ i ∧ i < 7 then some (ofOrdinal i.toNat) else none

def isWeekend (w : Weekday) : Bool :=
  w = saturday || w = sunday

end Weekday

namespace Boundary

/-- The boundaries in the order that messages list them. -/
def all : List Boundary :=
  [unit .second, unit .minute, unit .hour, unit .day, unit .week, businessWeek, unit .month,
    weekday .monday, weekday .tuesday, weekday .wednesday, weekday .thursday, weekday .friday,
    weekday .saturday, weekday .sunday]

def code : Boundary → String
  | unit u => u.code
  | businessWeek => "bw"
  | weekday w => w.code

def ofCode? : String → Option Boundary :=
  byKey? code all

theorem mem_all (b : Boundary) : b ∈ all := by
  rcases b with u | _ | w
  · cases u <;> decide
  · decide
  · cases w <;> decide

theorem ofCode?_eq_some {s : String} {b : Boundary} : ofCode? s = some b ↔ s = b.code :=
  byKey?_eq_some fun b => by
    rcases b with u | _ | w
    · cases u <;> decide
    · decide
    · cases w <;> decide

end Boundary

/-- A fixed set of codes that one kind of clause takes. -/
structure CodeSet where
  codes : List String

namespace CodeSet

def accepts (set : CodeSet) (code : String) : Bool :=
  set.codes.contains code

/-- The codes in double quotes, between parentheses. -/
def listing (set : CodeSet) : String :=
  "(" ++ String.intercalate "," (set.codes.map fun c => "\"" ++ c ++ "\"") ++ ")"

/-- The codes of a shift. -/
def units : CodeSet := ⟨TimeUnit.all.map TimeUnit.code⟩

/-- The codes of a snap. -/
def boundaries : CodeSet := ⟨Boundary.all.map Boundary.code⟩

end CodeSet

end RelativeTime
