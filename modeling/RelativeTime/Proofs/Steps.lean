import Mathlib.Order.Bounds.Basic
import RelativeTime.Proofs.Absorption
import RelativeTime.Proofs.Durations

/-!
Single steps. A step by any number of units of one length leads to the wall time that far on, or out
of range where a clock cannot show it; to step back is to step on by the opposite number. Weekdays
follow the days stepped by, so that a snap to a weekday finds the nearest such day.
-/
namespace RelativeTime

namespace Timeline

/-- The first moment that a clock shows. -/
def first : Int :=
  ofDate ⟨1, 1, 1⟩ 0

/-- The last moment that a clock shows. -/
def last : Int :=
  ofDate ⟨9999, 12, 31⟩ (day - 1)

theorem isShown_iff_between (t : Int) : IsShown t ↔ first ≤ t ∧ t ≤ last := by
  have hfirst : first = 0 := by decide
  have hlast : last = limit - 1 := by decide
  rw [IsShown, hfirst, hlast]
  omega

theorem weekdayOf_eq_iff (t : Int) (w : Weekday) :
    weekdayOf t = w ↔ weekdayOrdinal t = w.ordinal := by
  have hw := w.ordinal_lt
  have hordinal : ((weekdayOf t).ordinal : Int) = weekdayOrdinal t := by
    rw [weekdayOf, Weekday.ordinal_ofOrdinal, weekdayOrdinal]
    omega
  constructor
  · rintro rfl
    exact hordinal.symm
  · intro h
    rw [weekdayOf, h, Int.toNat_natCast, Weekday.ofOrdinal_ordinal]

/-- The moments of a weekday at the time of day of another moment. -/
def recurrences (w : Weekday) (t : Int) : Set Int :=
  {x | timeOfDay x = timeOfDay t ∧ weekdayOf x = w}

/-- Of the moments of a weekday at one time of day, the last that is not behind a moment, or the
first that is not before it. -/
def IsNearest (e : Edge) (w : Weekday) (t x : Int) : Prop :=
  match e with
  | .start => IsGreatest {y ∈ recurrences w t | y ≤ t} x
  | .finish => IsLeast {y ∈ recurrences w t | t ≤ y} x

/-- A time of day comes round to its weekday every seven days. -/
theorem exists_weeks_between {w : Weekday} {t x y : Int} (hx : x ∈ recurrences w t)
    (hy : y ∈ recurrences w t) : ∃ k : Int, y = x + k * week := by
  obtain ⟨hxt, hxw⟩ := hx
  obtain ⟨hyt, hyw⟩ := hy
  rw [weekdayOf_eq_iff] at hxw hyw
  have htime : timeOfDay y = timeOfDay x := hyt.trans hxt.symm
  have hday : weekdayOrdinal y = weekdayOrdinal x := hyw.trans hxw.symm
  refine ⟨(dayNumber y - dayNumber x) / 7, ?_⟩
  simp only [timeOfDay, weekdayOrdinal, dayNumber, week_eq, day_eq] at htime hday ⊢
  omega

theorem nearest_mem_recurrences (e : Edge) (w : Weekday) (t : Int) :
    nearest e w t ∈ recurrences w t := by
  have htime (n : Int) : timeOfDay (t + n * day) = timeOfDay t :=
    Int.add_mul_emod_self_right t n day
  refine ⟨?_, (weekdayOf_eq_iff _ w).mpr (weekdayOrdinal_nearest e w t)⟩
  cases e with
  | start =>
    rw [nearest, lastWeekday, Int.sub_eq_add_neg, ← Int.neg_mul]
    exact htime _
  | finish => exact htime _

theorem nearest_isNearest (e : Edge) (w : Weekday) (t : Int) : IsNearest e w t (nearest e w t) := by
  have hmem := nearest_mem_recurrences e w t
  cases e with
  | start =>
    have hback := Weekday.daysBack_bounds (weekdayOrdinal t) w.ordinal
    constructor
    · refine ⟨hmem, ?_⟩
      rw [nearest, lastWeekday, day_eq]
      omega
    · rintro y ⟨hy, hyt⟩
      -- a week further on it would be behind the moment
      obtain ⟨k, rfl⟩ := exists_weeks_between hmem hy
      rw [nearest, lastWeekday, week_eq, day_eq] at hyt ⊢
      omega
  | finish =>
    have hon := Weekday.daysBack_bounds w.ordinal (weekdayOrdinal t)
    constructor
    · refine ⟨hmem, ?_⟩
      rw [nearest, nextWeekday, day_eq]
      omega
    · rintro y ⟨hy, hty⟩
      obtain ⟨k, rfl⟩ := exists_weeks_between hmem hy
      rw [nearest, nextWeekday, week_eq, day_eq] at hty ⊢
      omega

theorem nearest_finish_sub_start (w : Weekday) (t : Int) :
    nearest .finish w t - nearest .start w t = if weekdayOf t = w then 0 else 7 * day := by
  have hw := w.ordinal_lt
  rw [nearest, nearest, nextWeekday, lastWeekday, day_eq]
  split
  · rename_i h
    rw [weekdayOf_eq_iff] at h
    simp only [h, Weekday.daysBack]
    omega
  · rename_i h
    rw [weekdayOf_eq_iff] at h
    simp only [Weekday.daysBack, weekdayOrdinal] at h ⊢
    omega

end Timeline

namespace Stamp

variable {s v : Stamp}

theorem shift_eq_place {u : TimeUnit} (hu : u ≠ .month) (s : Stamp) (n : Int) :
    s.shift u n = s.moved <$> WallTime.place (.ofShift u n s.wall.micros)
      (s.wall.micros + n * u.length) := by
  rw [shift, WallTime.shift_eq_place, Timeline.shift_eq_add hu]

theorem weekday_of_shift_day {n : Int} (h : s.shift .day n = .ok v) :
    (v.weekday.ordinal : Int) = (s.weekday.ordinal + n) % 7 := by
  have hfollows := s.shift_follows .day n
  rw [h] at hfollows
  have hs : (s.weekday.ordinal : Int) = Timeline.weekdayOrdinal s.wall.micros :=
    weekday_ordinal ⟨rfl, rfl⟩
  calc (v.weekday.ordinal : Int)
      = Timeline.weekdayOrdinal (s.wall.micros + n * Timeline.day) := weekday_ordinal hfollows.of_ok
    _ = (s.weekday.ordinal + n) % 7 := by rw [Timeline.weekdayOrdinal_add_days, hs]

/-- A step by any number of seconds, minutes, hours, days or weeks leads to the wall time that far
on, in the zone of the stamp, as long as that lies in the years 1 to 9999, and out of range
otherwise. A step back, by months too, is the step on by the opposite number, with the same reason
if it fails. -/
theorem shift_exact (s : Stamp) (u : TimeUnit) (n : Int) :
    (u ≠ .month →
      ((∃ v, s.shift u n = .ok v) ↔
        Timeline.first ≤ s.wall.micros + n * u.length ∧
          s.wall.micros + n * u.length ≤ Timeline.last) ∧
      ∀ v, s.shift u n = .ok v ↔
        v.wall.micros = s.wall.micros + n * u.length ∧ v.zone = s.zone ∧ v.repeated = false) ∧
      s.shiftBack u n = s.shift u (-n) := by
  constructor
  · intro hu
    rw [shift_eq_place hu]
    refine ⟨?_, fun v => moved_place_eq_ok⟩
    rw [moved_place_ok_iff, Timeline.isShown_iff_between]
  · rw [shiftBack, WallTime.shiftBack_eq_shift]
    rfl

/-- Two seconds before the last one is over there is room for one second more, and not for two. -/
theorem shift_exact_last_second :
    let s : Stamp := ⟨⟨315537897598000000, by decide, by decide⟩, .floating, false⟩
    (∃ v, s.shift .second 1 = .ok v ∧ v.wall.micros = 315537897599000000) ∧
      (¬ ∃ v, s.shift .second 2 = .ok v) ∧ s.shiftBack .second (-2) = s.shift .second 2 := by
  intro s
  obtain ⟨hone, -⟩ := shift_exact s .second 1
  obtain ⟨htwo, -⟩ := shift_exact s .second 2
  obtain ⟨-, hback⟩ := shift_exact s .second (-2)
  obtain ⟨hreach, hvalue⟩ := hone (by decide)
  obtain ⟨v, hv⟩ := hreach.mpr (by decide)
  refine ⟨⟨v, hv, ((hvalue v).mp hv).1⟩, ?_, hback⟩
  rw [(htwo (by decide)).1]
  decide

end Stamp

namespace Clause

theorem apply_weekday_error_iff (c : Calendar) (anchor s : Stamp) (e : Edge) (w : Weekday) :
    (∃ f, (snap ⟨e, .weekday w⟩).apply c anchor s = .error f) ↔
      ¬ Timeline.IsShown (Timeline.nearest e w s.wall.micros) := by
  have hok : (∃ v, (snap ⟨e, .weekday w⟩).apply c anchor s = .ok v) ↔
      Timeline.IsShown (Timeline.nearest e w s.wall.micros) := by
    rw [apply_weekday_eq]
    exact Stamp.moved_place_ok_iff
  rw [← hok]
  cases (snap ⟨e, .weekday w⟩).apply c anchor s with
  | error f => simp
  | ok v => simp

/-- A snap to a weekday leads to the nearest such day at the same time of day, down to the last one
not behind the stamp or up to the first one not before it, and fails where that day is not in the
years 1 to 9999. On the weekday itself the two are one, and on other days they are a week apart.
Days stepped by count round the week. -/
theorem weekday_snaps_nearest (c : Calendar) (anchor s : Stamp) (w : Weekday) :
    (∀ e : Edge, ∃ t, Timeline.IsNearest e w s.wall.micros t ∧
      ((∃ f, (snap ⟨e, .weekday w⟩).apply c anchor s = .error f) ↔
        ¬ (1 ≤ (Timeline.dateOf t).year ∧ (Timeline.dateOf t).year ≤ 9999)) ∧
      ∀ v, (snap ⟨e, .weekday w⟩).apply c anchor s = .ok v ↔
        v.wall.micros = t ∧ v.zone = s.zone ∧ v.repeated = false) ∧
      (∀ u v, (down (.weekday w)).apply c anchor s = .ok u →
        (up (.weekday w)).apply c anchor s = .ok v →
          v.wall.micros - u.wall.micros = if s.weekday = w then 0 else 7 * Timeline.day) ∧
      ∀ (n : Int) (v : Stamp), s.shift .day n = .ok v →
        (v.weekday.ordinal : Int) = (s.weekday.ordinal + n) % 7 := by
  refine ⟨?_, ?_, fun n v => Stamp.weekday_of_shift_day⟩
  · intro e
    refine ⟨_, Timeline.nearest_isNearest e w s.wall.micros, ?_, fun v => apply_weekday_eq_ok e⟩
    rw [apply_weekday_error_iff, Timeline.isShown_iff_year]
  · intro u v hu hv
    rw [((apply_weekday_eq_ok .start).mp hu).1, ((apply_weekday_eq_ok .finish).mp hv).1]
    exact Timeline.nearest_finish_sub_start w s.wall.micros

/-- The last day of all is a Friday, so it has a Saturday before it and none behind. -/
theorem weekday_snaps_nearest_last_friday :
    let friday : Stamp := ⟨⟨315537854400000000, by decide, by decide⟩, .floating, false⟩
    let saturday : Stamp := ⟨⟨315537336000000000, by decide, by decide⟩, .floating, false⟩
    friday.shift .day (-6) = .ok saturday ∧ (saturday.weekday.ordinal : Int) = (5 + -6) % 7 ∧
      Timeline.IsNearest .start .saturday friday.wall.micros saturday.wall.micros ∧
      ∃ f, (up (.weekday .saturday)).apply .standard friday friday = .error f := by
  intro friday saturday
  obtain ⟨hnearest, -, hdays⟩ := weekday_snaps_nearest .standard friday friday .saturday
  have hsix : friday.shift .day (-6) = .ok saturday := by decide +kernel
  have hdown : (down (.weekday .saturday)).apply .standard friday friday = .ok saturday := by
    decide +kernel
  obtain ⟨t, ht, -, hvalue⟩ := hnearest .start
  obtain ⟨t', ht', herror, -⟩ := hnearest .finish
  refine ⟨hsix, hdays (-6) saturday hsix, ?_, ?_⟩
  · rw [((hvalue saturday).mp hdown).1]
    exact ht
  · apply herror.mpr
    rw [ht'.unique (Timeline.nearest_isNearest .finish .saturday friday.wall.micros)]
    decide +kernel

end Clause

end RelativeTime
