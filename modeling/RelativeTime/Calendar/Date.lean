/-!
The proleptic Gregorian calendar without an end on either side. A day is a number, zero being
the first of January of the year 1; a date is a year, a month and a day of the month. The two are
the same thing seen twice: `toDay_ofDay` and `ofDay_toDay`.
-/
namespace RelativeTime

structure CivilDate where
  year : Int
  month : Nat
  day : Nat
  deriving DecidableEq

namespace CivilDate

def isLeap (year : Int) : Bool :=
  year % 4 = 0 && (year % 100 ≠ 0 || year % 400 = 0)

/-- Days of a year that go before a month. -/
def daysBeforeMonth (leap : Bool) (month : Nat) : Nat :=
  match month with
  | 0 | 1 => 0
  | 2 => 31
  | 3 => 59 + leap.toNat
  | 4 => 90 + leap.toNat
  | 5 => 120 + leap.toNat
  | 6 => 151 + leap.toNat
  | 7 => 181 + leap.toNat
  | 8 => 212 + leap.toNat
  | 9 => 243 + leap.toNat
  | 10 => 273 + leap.toNat
  | 11 => 304 + leap.toNat
  | 12 => 334 + leap.toNat
  | _ => 365 + leap.toNat

def monthLength (year : Int) (month : Nat) : Nat :=
  daysBeforeMonth (isLeap year) (month + 1) - daysBeforeMonth (isLeap year) month

/-- Days that go before a year, negative for the years before the first. -/
def daysBeforeYear (year : Int) : Int :=
  365 * (year - 1) + (year - 1) / 4 - (year - 1) / 100 + (year - 1) / 400

/-- The date names a day of the calendar. -/
def IsValid (c : CivilDate) : Prop :=
  1 ≤ c.month ∧ c.month ≤ 12 ∧ 1 ≤ c.day ∧ c.day ≤ monthLength c.year c.month

instance (c : CivilDate) : Decidable c.IsValid := by
  unfold IsValid
  infer_instance

def toDay (c : CivilDate) : Int :=
  daysBeforeYear c.year + daysBeforeMonth (isLeap c.year) c.month + c.day - 1

/-- The year of a day: the mean length of a year gives it or its neighbour. -/
def yearOf (day : Int) : Int :=
  -- 400 years have 146097 days
  let guess := day * 400 / 146097 + 1
  if day < daysBeforeYear guess then guess - 1
  else if daysBeforeYear (guess + 1) ≤ day then guess + 1
  else guess

/-- The last of the first so many months that has begun by a day of the year, the days counted
from zero. -/
def lastBegun (leap : Bool) (dayOfYear : Nat) : Nat → Nat
  | 0 => 1
  | month + 1 =>
    if daysBeforeMonth leap (month + 1) ≤ dayOfYear then month + 1
    else lastBegun leap dayOfYear month

/-- The month that a day of the year falls in. -/
def monthOf (leap : Bool) (dayOfYear : Nat) : Nat :=
  lastBegun leap dayOfYear 12

def ofDay (day : Int) : CivilDate :=
  let year := yearOf day
  let leap := isLeap year
  let dayOfYear := (day - daysBeforeYear year).toNat
  let month := monthOf leap dayOfYear
  ⟨year, month, dayOfYear - daysBeforeMonth leap month + 1⟩

theorem isLeap_iff (y : Int) : isLeap y = true ↔ y % 4 = 0 ∧ (y % 100 ≠ 0 ∨ y % 400 = 0) := by
  simp [isLeap]

theorem daysBeforeYear_succ (y : Int) :
    daysBeforeYear (y + 1) = daysBeforeYear y + 365 + (isLeap y).toNat := by
  unfold daysBeforeYear
  have h := isLeap_iff y
  cases hl : isLeap y
  · rw [hl] at h
    have hn : ¬(y % 4 = 0 ∧ (y % 100 ≠ 0 ∨ y % 400 = 0)) := fun hc => by simpa using h.mpr hc
    simp only [Bool.toNat_false]
    omega
  · have hy := h.mp hl
    simp only [Bool.toNat_true]
    omega

theorem daysBeforeYear_lt {y z : Int} (h : y < z) : daysBeforeYear y < daysBeforeYear z := by
  unfold daysBeforeYear
  omega

theorem daysBeforeYear_le_yearOf (day : Int) : daysBeforeYear (yearOf day) ≤ day := by
  simp only [yearOf]
  split
  · simp only [daysBeforeYear] at *
    omega
  · split
    · assumption
    · omega

theorem lt_daysBeforeYear_yearOf (day : Int) : day < daysBeforeYear (yearOf day + 1) := by
  simp only [yearOf]
  split
  · simpa using ‹_›
  · split
    · simp only [daysBeforeYear] at *
      omega
    · omega

/-- A day lies in one year only. -/
theorem yearOf_eq {day y : Int} (hl : daysBeforeYear y ≤ day)
    (hu : day < daysBeforeYear (y + 1)) : yearOf day = y := by
  have h1 := daysBeforeYear_le_yearOf day
  have h2 := lt_daysBeforeYear_yearOf day
  rcases Int.lt_trichotomy (yearOf day) y with h | h | h
  · have hm : daysBeforeYear (yearOf day + 1) ≤ daysBeforeYear y := by
      rcases Int.lt_or_eq_of_le (show yearOf day + 1 ≤ y by omega) with h' | h'
      · exact Int.le_of_lt (daysBeforeYear_lt h')
      · exact Int.le_of_eq (congrArg daysBeforeYear h')
    omega
  · exact h
  · have hm : daysBeforeYear (y + 1) ≤ daysBeforeYear (yearOf day) := by
      rcases Int.lt_or_eq_of_le (show y + 1 ≤ yearOf day by omega) with h' | h'
      · exact Int.le_of_lt (daysBeforeYear_lt h')
      · exact Int.le_of_eq (congrArg daysBeforeYear h')
    omega

theorem lastBegun_bounds (leap : Bool) (n k : Nat) :
    1 ≤ lastBegun leap n k ∧ lastBegun leap n k ≤ k + 1 := by
  induction k with
  | zero => simp [lastBegun]
  | succ k ih =>
    simp only [lastBegun]
    split <;> omega

theorem daysBeforeMonth_le_lastBegun (leap : Bool) (n k : Nat) :
    daysBeforeMonth leap (lastBegun leap n k) ≤ n := by
  induction k with
  | zero => simp [lastBegun, daysBeforeMonth]
  | succ k ih =>
    simp only [lastBegun]
    split <;> assumption

theorem lt_daysBeforeMonth_lastBegun {leap : Bool} {n k : Nat}
    (h : n < daysBeforeMonth leap (k + 1)) :
    lastBegun leap n k ≤ max k 1 ∧ n < daysBeforeMonth leap (lastBegun leap n k + 1) := by
  induction k with
  | zero => simp [daysBeforeMonth] at h
  | succ k ih =>
    simp only [lastBegun]
    split
    · exact ⟨by omega, h⟩
    · have hk := ih (by omega)
      exact ⟨by omega, hk.2⟩

theorem monthOf_pos (leap : Bool) (n : Nat) : 1 ≤ monthOf leap n :=
  (lastBegun_bounds leap n 12).1

theorem daysBeforeMonth_le_monthOf (leap : Bool) (n : Nat) :
    daysBeforeMonth leap (monthOf leap n) ≤ n :=
  daysBeforeMonth_le_lastBegun leap n 12

theorem monthOf_le {leap : Bool} {n : Nat} (h : n < 365 + leap.toNat) : monthOf leap n ≤ 12 :=
  (lt_daysBeforeMonth_lastBegun (k := 12) h).1

theorem lt_daysBeforeMonth_monthOf {leap : Bool} {n : Nat} (h : n < 365 + leap.toNat) :
    n < daysBeforeMonth leap (monthOf leap n + 1) :=
  (lt_daysBeforeMonth_lastBegun (k := 12) h).2

theorem daysBeforeMonth_le_succ (leap : Bool) (m : Nat) :
    daysBeforeMonth leap m ≤ daysBeforeMonth leap (m + 1) := by
  have ht : leap.toNat ≤ 1 := Bool.toNat_le leap
  by_cases h : m < 13
  · have hm : m = 0 ∨ m = 1 ∨ m = 2 ∨ m = 3 ∨ m = 4 ∨ m = 5 ∨ m = 6 ∨ m = 7 ∨ m = 8 ∨ m = 9 ∨
        m = 10 ∨ m = 11 ∨ m = 12 := by omega
    rcases hm with h | h | h | h | h | h | h | h | h | h | h | h | h <;> subst h <;>
      simp only [daysBeforeMonth] <;> omega
  · obtain ⟨k, rfl⟩ : ∃ k, m = k + 13 := ⟨m - 13, by omega⟩
    simp only [daysBeforeMonth]
    omega

theorem daysBeforeMonth_mono (leap : Bool) {m k : Nat} (h : m ≤ k) :
    daysBeforeMonth leap m ≤ daysBeforeMonth leap k := by
  induction h with
  | refl => exact Nat.le_refl _
  | step _ ih => exact Nat.le_trans ih (daysBeforeMonth_le_succ leap _)

/-- A day of the year lies in one month only. -/
theorem monthOf_eq {leap : Bool} {n m : Nat} (hn : n < 365 + leap.toNat)
    (hl : daysBeforeMonth leap m ≤ n) (hu : n < daysBeforeMonth leap (m + 1)) :
    monthOf leap n = m := by
  have h1 := daysBeforeMonth_le_monthOf leap n
  have h2 := lt_daysBeforeMonth_monthOf hn
  rcases Nat.lt_trichotomy (monthOf leap n) m with h | h | h
  · have hm := daysBeforeMonth_mono leap (show monthOf leap n + 1 ≤ m by omega)
    omega
  · exact h
  · have hm := daysBeforeMonth_mono leap (show m + 1 ≤ monthOf leap n by omega)
    omega

@[simp] theorem toDay_ofDay (day : Int) : (ofDay day).toDay = day := by
  have h1 := daysBeforeYear_le_yearOf day
  have h3 := daysBeforeMonth_le_monthOf (isLeap (yearOf day))
    (day - daysBeforeYear (yearOf day)).toNat
  simp only [toDay, ofDay]
  omega

theorem ofDay_isValid (day : Int) : (ofDay day).IsValid := by
  have h1 := daysBeforeYear_le_yearOf day
  have h2 := lt_daysBeforeYear_yearOf day
  rw [daysBeforeYear_succ] at h2
  have hn : (day - daysBeforeYear (yearOf day)).toNat < 365 + (isLeap (yearOf day)).toNat := by
    omega
  have h3 := lt_daysBeforeMonth_monthOf hn
  have h5 := daysBeforeMonth_le_monthOf (isLeap (yearOf day))
    (day - daysBeforeYear (yearOf day)).toNat
  refine ⟨monthOf_pos _ _, monthOf_le hn, ?_, ?_⟩
  · simp only [ofDay]
    omega
  · simp only [ofDay, monthLength]
    omega

theorem ofDay_toDay {c : CivilDate} (h : c.IsValid) : ofDay c.toDay = c := by
  obtain ⟨hm1, hm12, hd1, hdl⟩ := h
  have hyl : daysBeforeMonth (isLeap c.year) (c.month + 1) ≤ 365 + (isLeap c.year).toNat :=
    daysBeforeMonth_mono (isLeap c.year) (show c.month + 1 ≤ 13 by omega)
  unfold monthLength at hdl
  have hy : yearOf c.toDay = c.year := by
    apply yearOf_eq
    · unfold toDay
      omega
    · rw [daysBeforeYear_succ]
      unfold toDay
      omega
  have hn : (c.toDay - daysBeforeYear c.year).toNat =
      daysBeforeMonth (isLeap c.year) c.month + c.day - 1 := by
    unfold toDay
    omega
  have hmo : monthOf (isLeap c.year) (daysBeforeMonth (isLeap c.year) c.month + c.day - 1) =
      c.month := monthOf_eq (by omega) (by omega) (by omega)
  have hd : daysBeforeMonth (isLeap c.year) c.month + c.day - 1 -
      daysBeforeMonth (isLeap c.year) c.month + 1 = c.day := by omega
  simp only [ofDay, hy, hn, hmo, hd]

end CivilDate

end RelativeTime
