import Mathlib.Algebra.Ring.Int.Defs
import Mathlib.Order.Monotone.Basic
import RelativeTime.Proofs.Moving

/-!
Shifts by months. They add up on the number of the month, and the time of day stays. The day of the
month stays too, but every month on the way that is too short for it cuts it down for good, so that
going back does not always lead back.
-/
namespace RelativeTime

namespace Timeline

/-- The number of days in a month, by the months since the start of the year 1. -/
def daysInMonth (index : Int) : Nat :=
  CivilDate.monthLength (index / 12 + 1) ((index % 12).toNat + 1)

/-- The day that a month starts with. -/
def firstOfMonth (index : Int) : Int :=
  CivilDate.daysBeforeYear (index / 12 + 1) +
    CivilDate.daysBeforeMonth (CivilDate.isLeap (index / 12 + 1)) ((index % 12).toNat + 1)

/-- The month lies in the years that a clock can show. -/
def IsShownMonth (index : Int) : Prop :=
  1 ≤ index / 12 + 1 ∧ index / 12 + 1 ≤ 9999

instance (index : Int) : Decidable (IsShownMonth index) := by
  unfold IsShownMonth
  infer_instance

theorem dateOf_ofDate {date : CivilDate} {time : Int} (hd : date.IsValid) (h0 : 0 ≤ time)
    (h1 : time < day) : dateOf (ofDate date time) = date := by
  rw [dateOf, dayNumber_ofDate h0 h1, CivilDate.ofDay_toDay hd]

theorem timeOfDay_ofDate {date : CivilDate} {time : Int} (h0 : 0 ≤ time) (h1 : time < day) :
    timeOfDay (ofDate date time) = time := by
  rw [timeOfDay, ofDate, day_eq] at *
  omega

theorem monthIndex_dateInMonth (index : Int) (d : Nat) :
    monthIndex (dateInMonth index d) = index := by
  simp only [monthIndex, dateInMonth]
  omega

theorem dateOf_shiftMonths (n t : Int) :
    dateOf (shiftMonths n t) = dateInMonth (monthIndex (dateOf t) + n) (dateOf t).day := by
  have hd : 1 ≤ (dateOf t).day := (dateOf_isValid t).2.2.1
  have htime := timeOfDay_bounds t
  exact dateOf_ofDate (dateInMonth_isValid _ hd) htime.1 htime.2

@[simp] theorem timeOfDay_shiftMonths (n t : Int) : timeOfDay (shiftMonths n t) = timeOfDay t := by
  have htime := timeOfDay_bounds t
  exact timeOfDay_ofDate htime.1 htime.2

@[simp] theorem monthIndex_shiftMonths (n t : Int) :
    monthIndex (dateOf (shiftMonths n t)) = monthIndex (dateOf t) + n := by
  rw [dateOf_shiftMonths, monthIndex_dateInMonth]

theorem day_shiftMonths (n t : Int) :
    (dateOf (shiftMonths n t)).day =
      min (dateOf t).day (daysInMonth (monthIndex (dateOf t) + n)) := by
  rw [dateOf_shiftMonths]
  rfl

theorem day_le_daysInMonth (t : Int) :
    (dateOf t).day ≤ daysInMonth (monthIndex (dateOf t)) := by
  have hv := dateOf_isValid t
  rw [daysInMonth, monthIndex_div hv, monthIndex_mod hv]
  exact hv.2.2.2

/-- A date is the month and the day of the month. -/
theorem dayNumber_eq (t : Int) :
    dayNumber t = firstOfMonth (monthIndex (dateOf t)) + ((dateOf t).day - 1) := by
  have hv := dateOf_isValid t
  have hd : (dateOf t).toDay = dayNumber t := CivilDate.toDay_ofDay _
  rw [firstOfMonth, monthIndex_div hv, monthIndex_mod hv, ← hd, CivilDate.toDay]
  omega

/-- A month ends where the next one starts. -/
theorem firstOfMonth_succ (index : Int) :
    firstOfMonth (index + 1) = firstOfMonth index + daysInMonth index := by
  have hle := CivilDate.daysBeforeMonth_le_succ (CivilDate.isLeap (index / 12 + 1))
    ((index % 12).toNat + 1)
  rw [firstOfMonth, firstOfMonth, daysInMonth, CivilDate.monthLength]
  by_cases h : index % 12 = 11
  · -- December is followed by the January of the next year
    have hyear : (index + 1) / 12 + 1 = index / 12 + 1 + 1 := by omega
    have hjanuary : ((index + 1) % 12).toNat + 1 = 1 := by omega
    have hdecember : (index % 12).toNat + 1 = 12 := by omega
    rw [hyear, hjanuary, hdecember, CivilDate.daysBeforeYear_succ]
    simp only [CivilDate.daysBeforeMonth]
    omega
  · have hyear : (index + 1) / 12 = index / 12 := by omega
    have hmonth : ((index + 1) % 12).toNat + 1 = (index % 12).toNat + 1 + 1 := by omega
    rw [hyear, hmonth]
    omega

theorem firstOfMonth_mono {i j : Int} (h : i ≤ j) : firstOfMonth i ≤ firstOfMonth j := by
  have hmono : Monotone firstOfMonth := by
    apply monotone_int_of_le_succ
    intro index
    rw [firstOfMonth_succ]
    omega
  exact hmono h

/-- Of two moments the one in the earlier month lies on the earlier day. -/
theorem dayNumber_lt_of_monthIndex_lt {t u : Int}
    (h : monthIndex (dateOf t) < monthIndex (dateOf u)) : dayNumber t < dayNumber u := by
  have ht := day_le_daysInMonth t
  have hu : 1 ≤ (dateOf u).day := (dateOf_isValid u).2.2.1
  have hnext : firstOfMonth (monthIndex (dateOf t) + 1) ≤ firstOfMonth (monthIndex (dateOf u)) :=
    firstOfMonth_mono h
  rw [firstOfMonth_succ] at hnext
  rw [dayNumber_eq t, dayNumber_eq u]
  omega

theorem dayNumber_le_iff (t u : Int) :
    dayNumber t ≤ dayNumber u ↔
      monthIndex (dateOf t) < monthIndex (dateOf u) ∨
        monthIndex (dateOf t) = monthIndex (dateOf u) ∧ (dateOf t).day ≤ (dateOf u).day := by
  rcases Int.lt_trichotomy (monthIndex (dateOf t)) (monthIndex (dateOf u)) with h | h | h
  · have hlt := dayNumber_lt_of_monthIndex_lt h
    omega
  · rw [dayNumber_eq t, dayNumber_eq u, h]
    omega
  · have hlt := dayNumber_lt_of_monthIndex_lt h
    omega

theorem dayNumber_shiftMonths_le (n : Int) {t u : Int} (h : dayNumber t ≤ dayNumber u) :
    dayNumber (shiftMonths n t) ≤ dayNumber (shiftMonths n u) := by
  rw [dayNumber_le_iff] at h ⊢
  rw [monthIndex_shiftMonths, monthIndex_shiftMonths, day_shiftMonths, day_shiftMonths]
  rcases h with h | ⟨h, hday⟩
  · exact Or.inl (by omega)
  · rw [h]
    exact Or.inr ⟨rfl, by omega⟩

end Timeline

/-- A step of month arithmetic, by an amount of any size and sign. -/
inductive MonthStep
  | add (n : Int)
  | subtract (n : Int)
  deriving DecidableEq

namespace MonthStep

def months : MonthStep → Int
  | add n => n
  | subtract n => -n

/-- The months that steps move on by together. -/
def total (ms : List MonthStep) : Int :=
  (ms.map months).sum

@[simp] theorem total_cons (m : MonthStep) (ms : List MonthStep) :
    total (m :: ms) = m.months + total ms := by
  rw [total, List.map_cons, List.sum_cons, total]

/-- The months that steps come through, the one they begin in among them. -/
def visited (index : Int) (ms : List MonthStep) : List Int :=
  (List.range (ms.length + 1)).map fun i => index + total (ms.take i)

@[simp] theorem visited_cons (index : Int) (m : MonthStep) (ms : List MonthStep) :
    visited index (m :: ms) = index :: visited (index + m.months) ms := by
  have hsum (i : Nat) : index + total ((m :: ms).take (i + 1)) =
      index + m.months + total (ms.take i) := by
    rw [List.take_succ_cons, total_cons, Int.add_assoc]
  rw [visited, List.length_cons, List.range_succ_eq_map, List.map_cons, List.map_map, visited]
  congr 1
  · simp [total]
  · exact List.map_congr_left fun i _ => hsum i

theorem exists_visited (index : Int) (ms : List MonthStep) :
    ∃ rest, visited index ms = index :: rest := by
  cases ms with
  | nil => exact ⟨[], by simp [visited, total]⟩
  | cons m ms => exact ⟨_, visited_cons index m ms⟩

theorem mem_visited {index i : Int} {ms : List MonthStep} :
    i ∈ visited index ms ↔ ∃ j ≤ ms.length, index + total (ms.take j) = i := by
  simp only [visited, List.mem_map, List.mem_range, Nat.lt_succ_iff]

end MonthStep

namespace Stamp

def stepMonths (s : Stamp) : MonthStep → Except RangeFault Stamp
  | .add n => s.shift .month n
  | .subtract n => s.shiftBack .month n

/-- Steps of month arithmetic, one after the other. -/
def runMonths (s : Stamp) (ms : List MonthStep) : Except RangeFault Stamp :=
  ms.foldlM stepMonths s

def monthIndex (s : Stamp) : Int :=
  Timeline.monthIndex s.wall.date

/-- Two stamps at one time of day in one month differ in the day alone. -/
theorem wall_eq_iff {s t : Stamp} (hi : s.monthIndex = t.monthIndex)
    (ht : Timeline.timeOfDay s.wall.micros = Timeline.timeOfDay t.wall.micros) :
    s.wall = t.wall ↔ s.wall.date.day = t.wall.date.day := by
  constructor
  · intro h
    rw [h]
  · intro hd
    have hs := Timeline.dayNumber_add_timeOfDay s.wall.micros
    have ht' := Timeline.dayNumber_add_timeOfDay t.wall.micros
    have hday : Timeline.dayNumber s.wall.micros = Timeline.dayNumber t.wall.micros := by
      rw [monthIndex, monthIndex] at hi
      rw [WallTime.date, WallTime.date] at hi hd
      rw [Timeline.dayNumber_eq, Timeline.dayNumber_eq, hi, hd]
    apply WallTime.eq_of_micros
    rw [← hs, ← ht', hday, ht]

section Steps

variable {s u v : Stamp} {m : MonthStep} {ms : List MonthStep}

theorem isShownMonth_monthIndex (s : Stamp) : Timeline.IsShownMonth s.monthIndex := by
  have hyear := (Timeline.isShown_iff_year s.wall.micros).mp s.wall.isShown
  rw [← Timeline.monthIndex_div (Timeline.dateOf_isValid s.wall.micros)] at hyear
  exact hyear

theorem stepMonths_eq (s : Stamp) (m : MonthStep) :
    s.stepMonths m = s.moved <$> WallTime.place (.ofShift .month m.months s.wall.micros)
      (Timeline.shiftMonths m.months s.wall.micros) := by
  cases m with
  | add n =>
    rw [stepMonths, shift, WallTime.shift_eq_place]
    rfl
  | subtract n =>
    rw [stepMonths, shiftBack, WallTime.shiftBack_eq_shift, WallTime.shift_eq_place]
    rfl

/-- A step succeeds as long as the month it leads to can be shown. -/
theorem stepMonths_cases (s : Stamp) (m : MonthStep) :
    (Timeline.IsShownMonth (s.monthIndex + m.months) ∧ ∃ v, s.stepMonths m = .ok v) ∨
      ¬ Timeline.IsShownMonth (s.monthIndex + m.months) ∧ ∃ f, s.stepMonths m = .error f := by
  have hshown := Timeline.isShown_shiftMonths m.months s.wall.micros
  rw [stepMonths_eq]
  by_cases h : Timeline.IsShown (Timeline.shiftMonths m.months s.wall.micros)
  · rw [WallTime.place_of_isShown h]
    exact Or.inl ⟨hshown.mp h, _, rfl⟩
  · rw [WallTime.place_of_not_isShown h]
    exact Or.inr ⟨fun hm => h (hshown.mpr hm), _, rfl⟩

theorem of_stepMonths (h : s.stepMonths m = .ok v) :
    v.zone = s.zone ∧ v.wall.micros = Timeline.shiftMonths m.months s.wall.micros := by
  rw [stepMonths_eq, moved_place_eq_ok] at h
  exact ⟨h.2.1, h.1⟩

theorem monthIndex_of_stepMonths (h : s.stepMonths m = .ok v) :
    v.monthIndex = s.monthIndex + m.months := by
  rw [monthIndex, WallTime.date, (of_stepMonths h).2, Timeline.monthIndex_shiftMonths]
  rfl

theorem day_of_stepMonths (h : s.stepMonths m = .ok v) :
    v.wall.date.day = min s.wall.date.day (Timeline.daysInMonth (s.monthIndex + m.months)) := by
  rw [WallTime.date, (of_stepMonths h).2, Timeline.day_shiftMonths]
  rfl

theorem timeOfDay_of_stepMonths (h : s.stepMonths m = .ok v) :
    Timeline.timeOfDay v.wall.micros = Timeline.timeOfDay s.wall.micros := by
  rw [(of_stepMonths h).2, Timeline.timeOfDay_shiftMonths]

end Steps

section Runs

variable {s t u v w : Stamp} {m : MonthStep} {ms : List MonthStep}

theorem runMonths_cons :
    s.runMonths (m :: ms) = s.stepMonths m >>= fun u => u.runMonths ms :=
  List.foldlM_cons

theorem of_runMonths_cons (h : s.runMonths (m :: ms) = .ok v) :
    ∃ u, s.stepMonths m = .ok u ∧ u.runMonths ms = .ok v := by
  rw [runMonths_cons] at h
  cases hm : s.stepMonths m with
  | error f => simp [hm, bind, Except.bind] at h
  | ok u =>
    rw [hm] at h
    exact ⟨u, rfl, h⟩

theorem runMonths_ok_iff (s : Stamp) (ms : List MonthStep) :
    (∃ v, s.runMonths ms = .ok v) ↔
      ∀ i ∈ MonthStep.visited s.monthIndex ms, Timeline.IsShownMonth i := by
  induction ms generalizing s with
  | nil =>
    have hs := isShownMonth_monthIndex s
    simp [runMonths, pure, Except.pure, MonthStep.visited, MonthStep.total, hs]
  | cons m ms ih =>
    rw [MonthStep.visited_cons, List.forall_mem_cons, runMonths_cons]
    rcases stepMonths_cases s m with ⟨_, u, hu⟩ | ⟨hm, f, hf⟩
    · have hindex := monthIndex_of_stepMonths hu
      rw [hu, ← hindex]
      exact (ih u).trans (and_iff_right (isShownMonth_monthIndex s)).symm
    · rw [hf]
      refine iff_of_false ?_ ?_
      · rintro ⟨v, hv⟩
        simp [bind, Except.bind] at hv
      · -- the month that the step fails at is the first that the rest would visit
        rintro ⟨_, hall⟩
        exact hm (hall _ (MonthStep.mem_visited.mpr ⟨0, Nat.zero_le _, by simp [MonthStep.total]⟩))

theorem runMonths_error_iff (s : Stamp) (ms : List MonthStep) :
    (∃ f, s.runMonths ms = .error f) ↔
      ∃ i ∈ MonthStep.visited s.monthIndex ms, ¬ Timeline.IsShownMonth i := by
  have hok := runMonths_ok_iff s ms
  cases h : s.runMonths ms with
  | ok v =>
    have hall := hok.mp ⟨v, h⟩
    refine iff_of_false (by simp) ?_
    rintro ⟨i, hi, hn⟩
    exact hn (hall i hi)
  | error f =>
    refine iff_of_true ⟨f, rfl⟩ ?_
    by_contra hall
    have hshown : ∀ i ∈ MonthStep.visited s.monthIndex ms, Timeline.IsShownMonth i := by
      intro i hi
      by_contra hn
      exact hall ⟨i, hi, hn⟩
    obtain ⟨v, hv⟩ := hok.mpr hshown
    simp [h] at hv

theorem monthIndex_of_runMonths (h : s.runMonths ms = .ok v) :
    v.monthIndex = s.monthIndex + MonthStep.total ms := by
  induction ms generalizing s with
  | nil =>
    obtain rfl : s = v := Except.ok.inj h
    simp [MonthStep.total]
  | cons m ms ih =>
    obtain ⟨u, hu, hv⟩ := of_runMonths_cons h
    rw [ih hv, monthIndex_of_stepMonths hu, MonthStep.total_cons, Int.add_assoc]

theorem timeOfDay_of_runMonths (h : s.runMonths ms = .ok v) :
    Timeline.timeOfDay v.wall.micros = Timeline.timeOfDay s.wall.micros ∧ v.zone = s.zone := by
  induction ms generalizing s with
  | nil =>
    obtain rfl : s = v := Except.ok.inj h
    exact ⟨rfl, rfl⟩
  | cons m ms ih =>
    obtain ⟨u, hu, hv⟩ := of_runMonths_cons h
    obtain ⟨htime, hzone⟩ := ih hv
    exact ⟨htime.trans (timeOfDay_of_stepMonths hu), hzone.trans (of_stepMonths hu).1⟩

/-- Every month on the way cuts the day down to its own length. -/
theorem day_of_runMonths (h : s.runMonths ms = .ok v) :
    v.wall.date.day =
      ((MonthStep.visited s.monthIndex ms).map Timeline.daysInMonth).foldl min s.wall.date.day := by
  have hstart (x : Stamp) : min x.wall.date.day (Timeline.daysInMonth x.monthIndex) =
      x.wall.date.day := Nat.min_eq_left (Timeline.day_le_daysInMonth x.wall.micros)
  induction ms generalizing s with
  | nil =>
    obtain rfl : s = v := Except.ok.inj h
    simp [MonthStep.visited, MonthStep.total, hstart]
  | cons m ms ih =>
    obtain ⟨u, hu, hv⟩ := of_runMonths_cons h
    have hday := day_of_stepMonths hu
    have hindex := monthIndex_of_stepMonths hu
    -- the month that the first step leads to has cut the day already when it is met again
    obtain ⟨rest, hrest⟩ := MonthStep.exists_visited u.monthIndex ms
    rw [ih hv, MonthStep.visited_cons, ← hindex, hrest]
    simp only [List.map_cons, List.foldl_cons, hstart, hday, hindex, Nat.min_assoc, Nat.min_self]

theorem runMonths_mono (h : Timeline.dayNumber s.wall.micros ≤ Timeline.dayNumber t.wall.micros)
    (hv : s.runMonths ms = .ok v) (hw : t.runMonths ms = .ok w) :
    Timeline.dayNumber v.wall.micros ≤ Timeline.dayNumber w.wall.micros := by
  induction ms generalizing s t with
  | nil =>
    obtain rfl : s = v := Except.ok.inj hv
    obtain rfl : t = w := Except.ok.inj hw
    exact h
  | cons m ms ih =>
    obtain ⟨x, hx, hxv⟩ := of_runMonths_cons hv
    obtain ⟨y, hy, hyw⟩ := of_runMonths_cons hw
    apply ih _ hxv hyw
    rw [(of_stepMonths hx).2, (of_stepMonths hy).2]
    exact Timeline.dayNumber_shiftMonths_le m.months h

/-- Going back by as many months leads to the date itself, unless the month in between is too short
for its day. -/
theorem stepMonths_back {n : Int} (h : s.stepMonths (.add n) = .ok v) :
    ∃ w, v.stepMonths (.subtract n) = .ok w ∧ w.zone = s.zone ∧
      (w.wall = s.wall ↔
        s.wall.date.day ≤ CivilDate.monthLength v.wall.date.year v.wall.date.month) := by
  have hindex : v.monthIndex + (MonthStep.subtract n).months = s.monthIndex := by
    rw [monthIndex_of_stepMonths h, MonthStep.months, MonthStep.months]
    omega
  have hlength : CivilDate.monthLength v.wall.date.year v.wall.date.month =
      Timeline.daysInMonth v.monthIndex := by
    have hvalid : v.wall.date.IsValid := Timeline.dateOf_isValid v.wall.micros
    rw [Timeline.daysInMonth, monthIndex, Timeline.monthIndex_div hvalid,
      Timeline.monthIndex_mod hvalid]
  rcases stepMonths_cases v (.subtract n) with ⟨_, w, hw⟩ | ⟨hn, _⟩
  · refine ⟨w, hw, (of_stepMonths hw).1.trans (of_stepMonths h).1, ?_⟩
    have hwi : w.monthIndex = s.monthIndex := by rw [monthIndex_of_stepMonths hw, hindex]
    have hday : w.wall.date.day = min s.wall.date.day (Timeline.daysInMonth v.monthIndex) := by
      have hs := Timeline.day_le_daysInMonth s.wall.micros
      rw [day_of_stepMonths hw, day_of_stepMonths h, hindex, ← monthIndex_of_stepMonths h]
      exact Nat.min_eq_left (Nat.le_trans (Nat.min_le_left _ _) hs)
    rw [hlength, wall_eq_iff hwi ((timeOfDay_of_stepMonths hw).trans (timeOfDay_of_stepMonths h)),
      hday]
    omega
  · -- the month gone back to is the one that the date itself shows
    rw [hindex] at hn
    exact absurd (isShownMonth_monthIndex s) hn

end Runs

/-- Steps of month arithmetic add up on the months since the year 1, and fail from the first on that
leaves its years. The time of day and the zone stay; the day of the month becomes the least of its
old value and the lengths of the months on the way. So to go back is not always to come back, but
the order of days is kept. -/
theorem runMonths_on_index (s : Stamp) (ms : List MonthStep) :
    (∀ i ≤ ms.length, (∃ f, s.runMonths (ms.take i) = .error f) ↔
        ∃ j ≤ i, ¬ Timeline.IsShownMonth (s.monthIndex + MonthStep.total (ms.take j))) ∧
      (∀ v, s.runMonths ms = .ok v →
        12 * v.wall.date.year + v.wall.date.month =
            12 * s.wall.date.year + s.wall.date.month + MonthStep.total ms ∧
          Timeline.timeOfDay v.wall.micros = Timeline.timeOfDay s.wall.micros ∧ v.zone = s.zone ∧
          v.wall.date.day = ((MonthStep.visited s.monthIndex ms).map Timeline.daysInMonth).foldl
            min s.wall.date.day) ∧
      (∀ (n : Int) (v : Stamp), s.shift .month n = .ok v →
        ∃ w, v.shiftBack .month n = .ok w ∧ w.zone = s.zone ∧
          (w.wall = s.wall ↔
            s.wall.date.day ≤ CivilDate.monthLength v.wall.date.year v.wall.date.month)) ∧
      ∀ t v w : Stamp, Timeline.dayNumber s.wall.micros ≤ Timeline.dayNumber t.wall.micros →
        s.runMonths ms = .ok v → t.runMonths ms = .ok w →
          Timeline.dayNumber v.wall.micros ≤ Timeline.dayNumber w.wall.micros := by
  refine ⟨?_, ?_, fun n v h => stepMonths_back h, fun t v w h hv hw => runMonths_mono h hv hw⟩
  · intro i hi
    rw [runMonths_error_iff]
    constructor
    · rintro ⟨index, hmem, hn⟩
      -- the months visited are those of the partial sums
      obtain ⟨j, hj, rfl⟩ := MonthStep.mem_visited.mp hmem
      have hji : j ≤ i := Nat.le_trans hj (List.length_take_le i ms)
      rw [List.take_take, Nat.min_eq_left hji] at hn
      exact ⟨j, hji, hn⟩
    · rintro ⟨j, hj, hn⟩
      refine ⟨_, MonthStep.mem_visited.mpr ⟨j, ?_, ?_⟩, hn⟩
      · rw [List.length_take, Nat.min_eq_left hi]
        exact hj
      · rw [List.take_take, Nat.min_eq_left hj]
  · intro v hv
    have hindex := monthIndex_of_runMonths hv
    obtain ⟨htime, hzone⟩ := timeOfDay_of_runMonths hv
    refine ⟨?_, htime, hzone, day_of_runMonths hv⟩
    rw [monthIndex, monthIndex, Timeline.monthIndex, Timeline.monthIndex] at hindex
    omega

/-- A month on and a month back from the end of January lead to the 28th, for February has no more
days. The months since the year 1, and one, are too many to go back by. -/
theorem runMonths_on_index_january :
    let s : Stamp := ⟨⟨63652984747000000, by decide, by decide⟩, .floating, false⟩
    let february : Stamp := ⟨⟨63655403947000000, by decide, by decide⟩, .floating, false⟩
    let steps : List MonthStep := [.add 1, .subtract 1, .subtract 24205]
    (∃ f, s.runMonths steps = .error f) ∧
      s.shift .month 1 = .ok february ∧
      (∃ w, february.shiftBack .month 1 = .ok w ∧ w.wall ≠ s.wall) ∧
      ∀ v, s.runMonths (steps.take 2) = .ok v → v.wall.date.day = 28 := by
  intro s february steps
  obtain ⟨herror, -, hback, -⟩ := runMonths_on_index s steps
  obtain ⟨-, hvalue, -, -⟩ := runMonths_on_index s (steps.take 2)
  have hadd : s.shift .month 1 = .ok february := by decide +kernel
  refine ⟨?_, hadd, ?_, ?_⟩
  · exact (herror 3 (by decide)).mpr ⟨3, by decide, by decide +kernel⟩
  · obtain ⟨w, hw, -, hsame⟩ := hback 1 february hadd
    exact ⟨w, hw, fun h => absurd (hsame.mp h) (by decide +kernel)⟩
  · intro v hv
    have hday := (hvalue v hv).2.2.2
    rw [hday]
    decide +kernel

end Stamp

end RelativeTime
