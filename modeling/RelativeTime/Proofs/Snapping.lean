import RelativeTime.Proofs.Moving

/-!
Snapping a wall time is exact. Snaps that stay in their day or month always have a result; those to
weekdays and weeks can lead a few days out of the range at its ends.
-/
namespace RelativeTime

theorem Weekday.daysBack_bounds (later earlier : Int) :
    0 ≤ daysBack later earlier ∧ daysBack later earlier < 7 := by
  rw [daysBack]
  omega

namespace WallTime

theorem ordinal_weekday (w : WallTime) :
    (w.weekday.ordinal : Int) = Timeline.weekdayOrdinal w.micros := by
  have hb : 0 ≤ Timeline.weekdayOrdinal w.micros ∧ Timeline.weekdayOrdinal w.micros < 7 := by
    rw [Timeline.weekdayOrdinal]
    omega
  rw [weekday, Timeline.weekdayOf, Weekday.ordinal_ofOrdinal]
  omega

/-- A few days lead out of the range only at its ends. -/
theorem shift_day_eq_place {n : Int} (hn : n.natAbs < 7) (w : WallTime) :
    w.shift .day n = place .outside (w.micros + n * Timeline.day) := by
  have hf : RangeFault.ofShift .day n w.micros = .outside := by
    rw [RangeFault.ofShift, RangeFault.ofDays, RangeFault.wordLimit, if_neg (by omega),
      if_neg (by omega)]
  rw [shift_eq_place, hf]
  rfl

theorem lastWeekday_eq_place (day : Weekday) (w : WallTime) :
    w.lastWeekday day = place .outside (Timeline.lastWeekday day w.micros) := by
  have hb := Weekday.daysBack_bounds (Timeline.weekdayOrdinal w.micros) day.ordinal
  rw [lastWeekday, shiftBack_eq_shift, ordinal_weekday, shift_day_eq_place (by omega), Int.neg_mul,
    ← Int.sub_eq_add_neg]
  rfl

theorem nextWeekday_eq_place (day : Weekday) (w : WallTime) :
    w.nextWeekday day = place .outside (Timeline.nextWeekday day w.micros) := by
  have hb := Weekday.daysBack_bounds day.ordinal (Timeline.weekdayOrdinal w.micros)
  rw [nextWeekday, ordinal_weekday, shift_day_eq_place (by omega)]
  rfl

end WallTime

namespace Timeline

@[simp] theorem dayNumber_startOfDay (t : Int) : dayNumber (startOfDay t) = dayNumber t := by
  grind

theorem lastWeekday_startOfDay (first : Weekday) (t : Int) :
    lastWeekday first (startOfDay t) = startOf first .week t := by
  rw [lastWeekday, weekdayOrdinal, dayNumber_startOfDay]
  rfl

/-- A week ends with the seventh of its days. -/
theorem endOf_day_add_six (first : Weekday) (t : Int) :
    endOf first .day (startOf first .week t + 6 * day) = endOf first .week t := by
  simp only [endOf, startOf, startOfWeek, startOfDay, week_eq, day_eq]
  omega

/-- Snaps other than those to weeks stay in the year, so a clock can show where they lead. -/
theorem isShown_startOf {u : TimeUnit} (hu : u ≠ .week) (first : Weekday) {t : Int}
    (ht : IsShown t) : IsShown (startOf first u t) := by
  cases u with
  | week => exact absurd rfl hu
  | month =>
    have hv := dateOf_isValid t
    have hlen := monthLength_bounds (dateOf t).year hv.1 hv.2.1
    have hvalid : CivilDate.IsValid { dateOf t with day := 1 } :=
      ⟨hv.1, hv.2.1, Nat.le_refl 1, Nat.le_trans (show 1 ≤ 28 by decide) hlen.1⟩
    rw [isShown_iff_year] at ht
    exact (isShown_ofDate hvalid (by decide) (by decide)).mpr ht
  | _ => grind

theorem isShown_endOf {u : TimeUnit} (hu : u ≠ .week) (first : Weekday) {t : Int}
    (ht : IsShown t) : IsShown (endOf first u t) := by
  cases u with
  | week => exact absurd rfl hu
  | month =>
    have hv := dateOf_isValid t
    rw [isShown_iff_year, ← monthIndex_div hv] at ht
    exact (isShown_ofDate (dateInMonth_isValid _ (by decide)) (by decide) (by decide)).mpr ht
  | _ => grind

end Timeline

namespace WallTime

theorem startOf_eq_place (first : Weekday) (u : TimeUnit) (w : WallTime) :
    w.startOf first u = place .outside (Timeline.startOf first u w.micros) := by
  cases u with
  | week =>
    have hd : Timeline.IsShown (Timeline.startOfDay w.micros) :=
      Timeline.isShown_startOf (u := .day) (by decide) first w.isShown
    have hlast := lastWeekday_eq_place first ⟨Timeline.startOfDay w.micros, hd.1, hd.2⟩
    rw [Timeline.lastWeekday_startOfDay] at hlast
    unfold startOf
    simp only [place_of_isShown hd]
    exact hlast
  | _ => rfl

/-- The end of a week is in reach if its start is. -/
theorem endOf_week_eq_place (first : Weekday) (w : WallTime) :
    w.endOf first .week =
      (place .outside (Timeline.startOf first .week w.micros) >>= fun _ =>
        place .outside (Timeline.endOf first .week w.micros)) := by
  have hlast := Timeline.endOf_day_add_six first w.micros
  unfold endOf
  simp only [startOf_eq_place]
  cases hs : place .outside (Timeline.startOf first .week w.micros) with
  | error f => rfl
  | ok s =>
    have hstart := place_eq_ok.mp hs
    have hsix := shift_day_eq_place (n := 6) (by decide) s
    rw [hstart] at hsix
    simp only [bind, Except.bind, hsix]
    by_cases h6 : Timeline.IsShown (Timeline.startOf first .week w.micros + 6 * Timeline.day)
    · simp only [place_of_isShown h6, hlast]
    · -- the sixth day and the end of the week lie in one day, so neither can be shown
      have hend : ¬ Timeline.IsShown (Timeline.endOf first .week w.micros) := by
        intro he
        apply h6
        have hs0 := s.isShown
        rw [hstart] at hs0
        simp only [Timeline.IsShown, Timeline.limit_eq, Timeline.endOf, Timeline.startOf,
          Timeline.week_eq, Timeline.day_eq] at hs0 he ⊢
        omega
      rw [place_of_not_isShown h6, place_of_not_isShown hend]

theorem endOf_eq_place {u : TimeUnit} (hu : u ≠ .week) (first : Weekday) (w : WallTime) :
    w.endOf first u = place .outside (Timeline.endOf first u w.micros) := by
  cases u with
  | week => exact absurd rfl hu
  | _ => rfl

end WallTime

end RelativeTime
