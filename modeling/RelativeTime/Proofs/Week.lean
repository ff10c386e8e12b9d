import Mathlib.Data.List.Basic
import RelativeTime.Proofs.Following

/-!
Weeks and the business weeks in them. A moment lies in the week that starts at or before it and less
than seven days back. The Monday of a business week always lies in its week; the Friday behind that
Monday does only if the week starts on a Saturday, a Sunday or a Monday.
-/
namespace RelativeTime

namespace Timeline

@[simp] theorem dayNumber_add_days (t n : Int) : dayNumber (t + n * day) = dayNumber t + n :=
  Int.add_mul_ediv_right t n (by decide)

@[simp] theorem dayNumber_add_weeks (t n : Int) :
    dayNumber (t + n * week) = dayNumber t + 7 * n := by
  grind

@[simp] theorem dayNumber_endOf_day (first : Weekday) (t : Int) :
    dayNumber (endOf first .day t) = dayNumber t := by
  grind

theorem startOfWeek_eq (first : Weekday) (t : Int) :
    startOfWeek first t =
      (dayNumber t - Weekday.daysBack (weekdayOrdinal t) first.ordinal) * day := by
  have hday : startOfDay t = dayNumber t * day := by
    have h := dayNumber_add_timeOfDay t
    rw [startOfDay, ← timeOfDay]
    omega
  rw [startOfWeek, hday, Int.sub_mul]

theorem dayNumber_startOfWeek (first : Weekday) (t : Int) :
    dayNumber (startOfWeek first t) =
      dayNumber t - Weekday.daysBack (weekdayOrdinal t) first.ordinal := by
  rw [startOfWeek_eq, dayNumber]
  exact Int.mul_ediv_cancel _ (by decide)

@[simp] theorem weekdayOrdinal_startOfWeek (first : Weekday) (t : Int) :
    weekdayOrdinal (startOfWeek first t) = first.ordinal := by
  have hf := first.ordinal_lt
  rw [weekdayOrdinal, dayNumber_startOfWeek, Weekday.daysBack, weekdayOrdinal]
  omega

theorem weekdayOrdinal_add_days (t n : Int) :
    weekdayOrdinal (t + n * day) = (weekdayOrdinal t + n) % 7 := by
  rw [weekdayOrdinal, weekdayOrdinal, dayNumber_add_days]
  omega

@[simp] theorem weekdayOrdinal_add_weeks (t n : Int) :
    weekdayOrdinal (t + n * week) = weekdayOrdinal t := by
  rw [weekdayOrdinal, weekdayOrdinal, dayNumber_add_weeks]
  omega

@[simp] theorem startOfWeek_add_weeks (first : Weekday) (t n : Int) :
    startOfWeek first (t + n * week) = startOfWeek first t + n * week := by
  rw [startOfWeek_eq, startOfWeek_eq, weekdayOrdinal_add_weeks, dayNumber_add_weeks]
  grind

/-- A week is the seven days from its start on. -/
theorem startOfWeek_eq_iff (first : Weekday) (t u : Int) :
    startOfWeek first u = startOfWeek first t ↔
      startOfWeek first t ≤ u ∧ u < startOfWeek first t + week := by
  have hf := first.ordinal_lt
  rw [startOfWeek_eq, startOfWeek_eq]
  simp only [Weekday.daysBack, weekdayOrdinal, dayNumber, week_eq, day_eq]
  omega

theorem businessMonday_eq (first : Weekday) (t : Int) :
    businessMonday first t =
      startOfWeek first t + Weekday.daysBack Weekday.monday.ordinal first.ordinal * day := by
  rw [businessMonday, nextWeekday, weekdayOrdinal_startOfWeek]

@[simp] theorem startOfWeek_businessMonday (first : Weekday) (t : Int) :
    startOfWeek first (businessMonday first t) = startOfWeek first t := by
  have hb := Weekday.daysBack_bounds Weekday.monday.ordinal first.ordinal
  rw [startOfWeek_eq_iff, businessMonday_eq, week_eq, day_eq]
  omega

@[simp] theorem weekdayOrdinal_businessMonday (first : Weekday) (t : Int) :
    weekdayOrdinal (businessMonday first t) = 1 := by
  have hf := first.ordinal_lt
  rw [businessMonday_eq, weekdayOrdinal_add_days, weekdayOrdinal_startOfWeek, Weekday.daysBack,
    Weekday.ordinal]
  omega

/-- The last moment of the Friday behind the Monday of a week. -/
def businessFriday (first : Weekday) (t : Int) : Int :=
  endOf first .day (businessMonday first t + 4 * day)

@[simp] theorem weekdayOrdinal_businessFriday (first : Weekday) (t : Int) :
    weekdayOrdinal (businessFriday first t) = 5 := by
  have hm := weekdayOrdinal_businessMonday first t
  have hd : dayNumber (businessFriday first t) = dayNumber (businessMonday first t) + 4 := by
    rw [businessFriday, dayNumber_endOf_day, dayNumber_add_days]
  rw [weekdayOrdinal] at hm ⊢
  omega

/-- The Friday lies in the week of its Monday if at most two days of the week go before that. -/
theorem startOfWeek_businessFriday (first : Weekday) (t : Int) :
    startOfWeek first (businessFriday first t) = startOfWeek first t ↔
      first ∈ [Weekday.saturday, .sunday, .monday] := by
  have hholds : first ∈ [Weekday.saturday, .sunday, .monday] ↔
      Weekday.daysBack Weekday.monday.ordinal first.ordinal ≤ 2 := by
    cases first <;> decide
  have hb := Weekday.daysBack_bounds Weekday.monday.ordinal first.ordinal
  have hstart := startOfWeek_eq first t
  rw [startOfWeek_eq_iff, hholds, businessFriday, businessMonday_eq]
  simp only [endOf, startOfDay, week_eq, day_eq] at hstart ⊢
  omega

end Timeline

namespace Stamp

theorem moved_congr {a b : Stamp} (h : a.zone = b.zone) : a.moved = b.moved := by
  funext w
  simp only [moved, h]

theorem weekday_ordinal {s : Stamp} {z : Zone} {t : Int} (h : s.Shows z t) :
    (s.weekday.ordinal : Int) = Timeline.weekdayOrdinal t := by
  rw [weekday, WallTime.ordinal_weekday, h.1]

theorem isWeekend_eq_false {s : Stamp} :
    s.isWeekend = false ↔ 1 ≤ s.weekday.ordinal ∧ s.weekday.ordinal ≤ 5 := by
  rw [isWeekend]
  cases s.weekday <;> decide

end Stamp

namespace Calendar

variable {c : Calendar} {anchor s v m : Stamp}

/-- The start of a week depends on nothing of a stamp but the week and the zone. -/
theorem startOf_week_congr (hz : v.zone = s.zone)
    (ht : Timeline.startOfWeek c.weekStart v.wall.micros =
      Timeline.startOfWeek c.weekStart s.wall.micros) :
    c.startOf .week v = c.startOf .week s := by
  have hplace : Timeline.startOf c.weekStart .week v.wall.micros =
      Timeline.startOf c.weekStart .week s.wall.micros := ht
  simp only [startOf, if_true, WallTime.startOf_eq_place, hplace, Stamp.moved_congr hz]

theorem businessMonday_congr (h : c.startOf .week v = c.startOf .week s) :
    c.businessMonday v = c.businessMonday s := by
  rw [businessMonday, businessMonday, h]

theorem sameWeek_congr (h : c.startOf .week v = c.startOf .week s) :
    c.sameWeek v anchor = c.sameWeek s anchor := by
  rw [sameWeek, sameWeek, h]

theorem exists_startOf_week (h : c.businessMonday s = .ok m) :
    ∃ first, c.startOf .week s = .ok first := by
  cases hs : c.startOf .week s with
  | ok first => exact ⟨first, rfl⟩
  | error f => simp [businessMonday, hs, bind, Except.bind] at h

/-- A business week that has a Monday has a start of its week, which tells the week. -/
theorem startOf_week_iff (h : c.businessMonday s = .ok m) (hz : v.zone = s.zone) :
    c.startOf .week v = c.startOf .week s ↔
      Timeline.startOfWeek c.weekStart v.wall.micros =
        Timeline.startOfWeek c.weekStart s.wall.micros := by
  constructor
  · intro hv
    obtain ⟨f, hf⟩ := exists_startOf_week h
    have hs := c.startOf_follows .week s
    have hw := c.startOf_follows .week v
    rw [hv] at hw
    rw [hf] at hs hw
    exact hw.of_ok.1.symm.trans hs.of_ok.1
  · exact startOf_week_congr hz

theorem endOfBusinessWeek_eq_ok (h : c.endOfBusinessWeek anchor s = .ok v) :
    ∃ monday same, c.businessMonday s = .ok monday ∧ c.sameWeek s anchor = .ok same ∧
      ((same = true ∧ s.isWeekend = false) ∧ v = s ∨
        ¬(same = true ∧ s.isWeekend = false) ∧
          (monday.shift .day 4 >>= fun friday => c.endOf .day friday) = .ok v) := by
  unfold endOfBusinessWeek at h
  cases hm : c.businessMonday s with
  | error e => simp [hm, bind, Except.bind] at h
  | ok monday =>
    cases hs : c.sameWeek s anchor with
    | error e => simp [hm, hs, bind, Except.bind] at h
    | ok same =>
      refine ⟨monday, same, rfl, rfl, ?_⟩
      by_cases hp : same = true ∧ s.isWeekend = false
      · left
        refine ⟨hp, ?_⟩
        simpa [hm, hs, hp.1, hp.2, bind, Except.bind, pure, Except.pure, eq_comm] using h
      · right
        refine ⟨hp, ?_⟩
        have hb : (same && !s.isWeekend) = false := by simpa using hp
        simpa [hm, hs, hb, bind, Except.bind] using h

theorem businessMonday_shows (h : c.businessMonday s = .ok m) :
    m.Shows s.zone (Timeline.businessMonday c.weekStart s.wall.micros) := by
  have hfollows := c.businessMonday_follows s
  rw [h] at hfollows
  exact hfollows.of_ok

theorem businessFriday_shows (hm : c.businessMonday s = .ok m)
    (h : (m.shift .day 4 >>= fun friday => c.endOf .day friday) = .ok v) :
    v.Shows s.zone (Timeline.businessFriday c.weekStart s.wall.micros) := by
  obtain ⟨hmw, hmz⟩ := businessMonday_shows hm
  have hfriday := m.shift_follows .day 4
  rw [hmw, hmz] at hfriday
  have hend := hfriday.bind fun friday hf => by
    have hday := c.endOf_follows (u := .day) (by decide) friday
    rwa [hf.1, hf.2] at hday
  rw [h] at hend
  exact hend.of_ok

/-- Snapping to the end again leaves a stamp alone that the first snap has kept in its week. -/
theorem endOfBusinessWeek_again (h : c.endOfBusinessWeek anchor s = .ok v)
    (hv : c.startOf .week v = c.startOf .week s) : c.endOfBusinessWeek anchor v = .ok v := by
  obtain ⟨monday, same, hm, hs, hcase⟩ := endOfBusinessWeek_eq_ok h
  rcases hcase with ⟨_, rfl⟩ | ⟨_, hfriday⟩
  · exact h
  · have hmv : c.businessMonday v = .ok monday := (businessMonday_congr hv).trans hm
    have hsv : c.sameWeek v anchor = .ok same := (sameWeek_congr hv).trans hs
    unfold endOfBusinessWeek
    simp only [hmv, hsv, bind, Except.bind]
    -- on a Friday of the anchor's week the stamp is its own end, and otherwise it is reached anew
    split
    · rfl
    · exact hfriday

end Calendar

/-- A snap to the business week ends on a day from Monday to Friday. It stays in the week of its
stamp and leaves its own result alone, unless it goes on to a Friday that the week does not hold. -/
theorem Clause.apply_businessWeek {c : Calendar} {anchor s v : Stamp} {edge : Edge}
    (h : (snap ⟨edge, .businessWeek⟩).apply c anchor s = .ok v) :
    (1 ≤ v.weekday.ordinal ∧ v.weekday.ordinal ≤ 5) ∧
      (c.startOf .week v = c.startOf .week s ↔
        edge = .start ∨ (c.sameWeek s anchor = .ok true ∧ s.isWeekend = false) ∨
          c.weekStart ∈ [Weekday.saturday, .sunday, .monday]) ∧
      (c.startOf .week v = c.startOf .week s →
        (snap ⟨edge, .businessWeek⟩).apply c anchor v = .ok v) := by
  cases edge with
  | start =>
    have hm : c.businessMonday s = .ok v := h
    have hshows := Calendar.businessMonday_shows hm
    have hday : (v.weekday.ordinal : Int) = 1 := by
      rw [Stamp.weekday_ordinal hshows, Timeline.weekdayOrdinal_businessMonday]
    have hweek : c.startOf .week v = c.startOf .week s := by
      rw [Calendar.startOf_week_iff hm hshows.2, hshows.1, Timeline.startOfWeek_businessMonday]
    refine ⟨by omega, ⟨fun _ => Or.inl rfl, fun _ => hweek⟩, ?_⟩
    intro _
    exact (Calendar.businessMonday_congr hweek).trans hm
  | finish =>
    have he : c.endOfBusinessWeek anchor s = .ok v := h
    obtain ⟨monday, same, hm, hs, hcase⟩ := Calendar.endOfBusinessWeek_eq_ok he
    have hway : (c.sameWeek s anchor = .ok true ∧ s.isWeekend = false) ↔
        same = true ∧ s.isWeekend = false := by
      rw [hs, Except.ok.injEq]
    rw [hway]
    -- the stamp is kept, or the snap goes on to the Friday
    refine ⟨?_, ?_, Calendar.endOfBusinessWeek_again he⟩
    · rcases hcase with ⟨hp, rfl⟩ | ⟨_, hfriday⟩
      · exact Stamp.isWeekend_eq_false.mp hp.2
      · have hday : (v.weekday.ordinal : Int) = 5 := by
          rw [Stamp.weekday_ordinal (Calendar.businessFriday_shows hm hfriday),
            Timeline.weekdayOrdinal_businessFriday]
        omega
    · rcases hcase with ⟨hp, rfl⟩ | ⟨hp, hfriday⟩
      · exact ⟨fun _ => Or.inr (Or.inl hp), fun _ => rfl⟩
      · obtain ⟨hw, hz⟩ := Calendar.businessFriday_shows hm hfriday
        rw [Calendar.startOf_week_iff hm hz, hw, Timeline.startOfWeek_businessFriday]
        simp [hp]

/-- On a Saturday of the running week the end of the business week is the Friday before it. -/
theorem Clause.apply_businessWeek_saturday :
    let saturday : Stamp := ⟨⟨63673810825000000, by decide, by decide⟩, .floating, false⟩
    let friday : Stamp := ⟨⟨63673775999999999, by decide, by decide⟩, .floating, false⟩
    (snap ⟨.finish, .businessWeek⟩).apply .standard saturday saturday = .ok friday ∧
      Calendar.standard.startOf .week friday = Calendar.standard.startOf .week saturday ∧
      (snap ⟨.finish, .businessWeek⟩).apply .standard saturday friday = .ok friday := by
  intro saturday friday
  have h : (snap ⟨.finish, .businessWeek⟩).apply .standard saturday saturday = .ok friday := by
    decide +kernel
  obtain ⟨_, hweek, hagain⟩ := apply_businessWeek h
  have hin := hweek.mpr (Or.inr (Or.inr (by decide)))
  exact ⟨h, hin, hagain hin⟩

/-- In a week that starts on a Wednesday the Monday is the sixth day. The Friday behind it lies in
the next week, and snapping again goes on to yet another Friday. -/
theorem Clause.apply_businessWeek_wednesday :
    let sunday : Stamp := ⟨⟨63664821547000000, by decide, by decide⟩, .floating, false⟩
    let friday : Stamp := ⟨⟨63665308799999999, by decide, by decide⟩, .floating, false⟩
    (snap ⟨.finish, .businessWeek⟩).apply ⟨.wednesday⟩ sunday sunday = .ok friday ∧
      Calendar.startOf ⟨.wednesday⟩ .week friday ≠ Calendar.startOf ⟨.wednesday⟩ .week sunday ∧
      (snap ⟨.finish, .businessWeek⟩).apply ⟨.wednesday⟩ sunday friday ≠ .ok friday := by
  decide +kernel

end RelativeTime
