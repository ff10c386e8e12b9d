import RelativeTime.Proofs.Months
import RelativeTime.Proofs.Week

/-!
Units tile the time line. Every moment lies in one unit of a kind, which begins at the start that
the moment is rounded down to and ends one microsecond before the next unit begins. So two moments
are in one unit if they are rounded to one start, and a clock tells units apart wherever it can show
them.
-/
namespace RelativeTime

/-- Of two wall times the one before the other. -/
instance : LE WallTime :=
  ⟨fun v w => v.micros ≤ w.micros⟩

instance (v w : WallTime) : Decidable (v ≤ w) :=
  inferInstanceAs (Decidable (v.micros ≤ w.micros))

namespace Timeline

theorem daysInMonth_bounds (i : Int) : 28 ≤ daysInMonth i ∧ daysInMonth i ≤ 31 :=
  monthLength_bounds _ (by omega) (by omega)

theorem firstOfMonth_lt {i j : Int} (h : i < j) : firstOfMonth i < firstOfMonth j := by
  have hlen := daysInMonth_bounds i
  have hnext : firstOfMonth (i + 1) ≤ firstOfMonth j := firstOfMonth_mono h
  rw [firstOfMonth_succ] at hnext
  omega

theorem firstOfMonth_inj {i j : Int} : firstOfMonth i = firstOfMonth j ↔ i = j := by
  constructor
  · intro h
    rcases Int.lt_trichotomy i j with hij | hij | hij
    · exact absurd h (Int.ne_of_lt (firstOfMonth_lt hij))
    · exact hij
    · exact absurd h.symm (Int.ne_of_lt (firstOfMonth_lt hij))
  · rintro rfl
    rfl

theorem firstOfMonth_le_dayNumber (t : Int) :
    firstOfMonth (monthIndex (dateOf t)) ≤ dayNumber t := by
  have hd : 1 ≤ (dateOf t).day := (dateOf_isValid t).2.2.1
  rw [dayNumber_eq]
  omega

theorem dayNumber_lt_firstOfMonth (t : Int) :
    dayNumber t < firstOfMonth (monthIndex (dateOf t) + 1) := by
  have hd := day_le_daysInMonth t
  have hpos : 1 ≤ (dateOf t).day := (dateOf_isValid t).2.2.1
  rw [firstOfMonth_succ, dayNumber_eq]
  omega

/-- A day lies in one month only. -/
theorem monthIndex_eq_iff (t i : Int) :
    monthIndex (dateOf t) = i ↔
      firstOfMonth i ≤ dayNumber t ∧ dayNumber t < firstOfMonth (i + 1) := by
  have hl := firstOfMonth_le_dayNumber t
  have hu := dayNumber_lt_firstOfMonth t
  constructor
  · rintro rfl
    exact ⟨hl, hu⟩
  · rintro ⟨hi, hi'⟩
    rcases Int.lt_trichotomy (monthIndex (dateOf t)) i with h | h | h
    · have hm : firstOfMonth (monthIndex (dateOf t) + 1) ≤ firstOfMonth i := firstOfMonth_mono h
      omega
    · exact h
    · have hm : firstOfMonth (i + 1) ≤ firstOfMonth (monthIndex (dateOf t)) := firstOfMonth_mono h
      omega

theorem startOf_month_eq (first : Weekday) (t : Int) :
    startOf first .month t = firstOfMonth (monthIndex (dateOf t)) * day := by
  have hv := dateOf_isValid t
  have hday :
      CivilDate.toDay { dateOf t with day := 1 } = firstOfMonth (monthIndex (dateOf t)) := by
    simp only [CivilDate.toDay, firstOfMonth, monthIndex_div hv, monthIndex_mod hv]
    omega
  rw [startOf, ofDate, hday, Int.add_zero]

/-- A month ends where the next one starts. -/
theorem endOf_month_eq (first : Weekday) (t : Int) :
    endOf first .month t = firstOfMonth (monthIndex (dateOf t) + 1) * day - 1 := by
  have hlen := daysInMonth_bounds (monthIndex (dateOf t))
  have hmin := Nat.min_eq_right hlen.2
  have hday : (dateInMonth (monthIndex (dateOf t)) 31).toDay =
      firstOfMonth (monthIndex (dateOf t) + 1) - 1 := by
    rw [daysInMonth] at hmin
    rw [firstOfMonth_succ, firstOfMonth, daysInMonth, CivilDate.toDay]
    simp only [dateInMonth, hmin]
  rw [endOf, ofDate, hday, Int.sub_mul]
  omega

/-- Two moments have one start if the one lies between the start and the end of the other. -/
theorem startOf_eq_iff (first : Weekday) (u : TimeUnit) (t x : Int) :
    startOf first u x = startOf first u t ↔ startOf first u t ≤ x ∧ x ≤ endOf first u t := by
  cases u with
  | week =>
    have hweek := startOfWeek_eq_iff first t x
    simp only [startOf, endOf]
    omega
  | month =>
    -- months are of different lengths, so they are told apart by the days they start on
    have hmonth := monthIndex_eq_iff x (monthIndex (dateOf t))
    have hinj : firstOfMonth (monthIndex (dateOf x)) = firstOfMonth (monthIndex (dateOf t)) ↔
        monthIndex (dateOf x) = monthIndex (dateOf t) := firstOfMonth_inj
    have hstart : startOf first .month x = startOf first .month t ↔
        monthIndex (dateOf x) = monthIndex (dateOf t) := by
      rw [startOf_month_eq, startOf_month_eq, ← hinj, day_eq]
      omega
    rw [hstart, hmonth, startOf_month_eq, endOf_month_eq, dayNumber, day_eq]
    omega
  | _ => grind

theorem startOf_le (first : Weekday) (u : TimeUnit) (t : Int) : startOf first u t ≤ t :=
  ((startOf_eq_iff first u t t).mp rfl).1

theorem le_endOf (first : Weekday) (u : TimeUnit) (t : Int) : t ≤ endOf first u t :=
  ((startOf_eq_iff first u t t).mp rfl).2

theorem endOf_congr {first : Weekday} {u : TimeUnit} {t x : Int}
    (h : startOf first u x = startOf first u t) : endOf first u x = endOf first u t := by
  cases u with
  | month =>
    have hindex : monthIndex (dateOf x) = monthIndex (dateOf t) := by
      rw [startOf_month_eq, startOf_month_eq, day_eq] at h
      exact firstOfMonth_inj.mp (by omega)
    rw [endOf_month_eq, endOf_month_eq, hindex]
  | _ => grind

/-- The moment behind the end of a unit is the start of the next one. -/
theorem startOf_endOf_add_one (first : Weekday) (u : TimeUnit) (t : Int) :
    startOf first u (endOf first u t + 1) = endOf first u t + 1 := by
  cases u with
  | week =>
    have hnext : endOf first .week t + 1 = startOfWeek first t + 1 * week := by
      simp only [endOf]
      omega
    have hsame : startOfWeek first (startOfWeek first t) = startOfWeek first t := by
      rw [startOfWeek_eq_iff, week_eq]
      omega
    rw [hnext, startOf, startOfWeek_add_weeks, hsame]
  | month =>
    have hnext : endOf first .month t + 1 = firstOfMonth (monthIndex (dateOf t) + 1) * day := by
      rw [endOf_month_eq]
      omega
    have hindex : monthIndex (dateOf (firstOfMonth (monthIndex (dateOf t) + 1) * day)) =
        monthIndex (dateOf t) + 1 := by
      have hlt := firstOfMonth_lt (Int.lt_succ (monthIndex (dateOf t) + 1))
      rw [monthIndex_eq_iff, dayNumber, day_eq]
      omega
    rw [hnext, startOf_month_eq, hindex]
  | _ => grind

end Timeline

namespace Calendar

variable {c : Calendar} {u : TimeUnit} {d x v first last : Stamp}

theorem startOf_shows (h : c.startOf u d = .ok v) :
    v.Shows d.zone (Timeline.startOf c.weekStart u d.wall.micros) := by
  have hfollows := c.startOf_follows u d
  rw [h] at hfollows
  exact hfollows.of_ok

theorem endOf_shows (h : c.endOf u d = .ok v) :
    v.Shows d.zone (Timeline.endOf c.weekStart u d.wall.micros) := by
  by_cases hu : u = .week
  · subst hu
    have hfollows := c.endOf_week_follows d
    rw [h] at hfollows
    exact hfollows.of_ok
  · have hfollows := c.endOf_follows hu d
    rw [h] at hfollows
    exact hfollows.of_ok

/-- In one zone stamps are rounded down to one start if they lie in one unit. -/
theorem startOf_agrees_iff (hs : c.startOf u d = .ok first) (he : c.endOf u d = .ok last)
    (hz : x.zone = d.zone) :
    (∃ v, c.startOf u x = .ok v ∧ v.agrees first = true) ↔
      first.wall ≤ x.wall ∧ x.wall ≤ last.wall := by
  obtain ⟨hsw, hsz⟩ := startOf_shows hs
  obtain ⟨hew, hez⟩ := endOf_shows he
  have hunit := Timeline.startOf_eq_iff c.weekStart u d.wall.micros x.wall.micros
  -- to lie between both ends is to have one start on the time line
  have hin : first.wall ≤ x.wall ∧ x.wall ≤ last.wall ↔
      Timeline.startOf c.weekStart u x.wall.micros =
        Timeline.startOf c.weekStart u d.wall.micros := by
    rw [hunit, ← hsw, ← hew]
    rfl
  rw [hin]
  constructor
  · rintro ⟨v, hv, hagrees⟩
    obtain ⟨hvw, hvz⟩ := startOf_shows hv
    rw [Stamp.agrees_of_zone (hvz.trans (hz.trans hsz.symm)), hvw, hsw] at hagrees
    exact of_decide_eq_true hagrees
  · intro hstart
    have hshown : Timeline.IsShown (Timeline.startOf c.weekStart u x.wall.micros) := by
      rw [hstart, ← hsw]
      exact first.wall.isShown
    obtain ⟨v, hv⟩ := (c.startOf_follows u x).ok_iff.mpr (by simpa using hshown)
    obtain ⟨hvw, hvz⟩ := startOf_shows hv
    refine ⟨v, hv, ?_⟩
    rw [Stamp.agrees_of_zone (hvz.trans (hz.trans hsz.symm)), hvw, hsw, hstart, decide_eq_true rfl]

theorem startOf_behind_endOf (he : c.endOf u d = .ok last) {w : WallTime}
    (hw : w.micros = last.wall.micros + 1) : c.startOf u (last.moved w) = .ok (last.moved w) := by
  have hstart : Timeline.startOf c.weekStart u w.micros = w.micros := by
    rw [hw, (endOf_shows he).1, Timeline.startOf_endOf_add_one]
  have hplace : (last.moved w).wall.startOf c.weekStart u = .ok w := by
    rw [WallTime.startOf_eq_place]
    exact (congrArg _ hstart).trans (WallTime.place_micros _ w)
  rw [startOf, hplace]
  split <;> rfl

theorem sameWeek_iff_between (hs : c.startOf .week d = .ok first) (he : c.endOf .week d = .ok last)
    (hz : x.zone = d.zone) :
    c.sameWeek x d = .ok true ↔ first.wall ≤ x.wall ∧ x.wall ≤ last.wall := by
  rw [← startOf_agrees_iff hs he hz, sameWeek, hs]
  cases hx : c.startOf .week x with
  | error f => simp [bind, Except.bind]
  | ok v => simp [bind, Except.bind, pure, Except.pure]

theorem withWeekStart_some (c : Calendar) {k : Int} (hl : -7 ≤ k) (hu : k < 7) :
    c.withWeekStart (some k) = .ok ⟨Weekday.ofOrdinal (k % 7).toNat⟩ := by
  rw [withWeekStart, Weekday.ofIndex?, if_pos ⟨hl, hu⟩]

theorem ofOrdinal_mod (k : Int) :
    Calendar.ofOrdinal (k % 7) = .ok ⟨Weekday.ofOrdinal (k % 7).toNat⟩ := by
  rw [ofOrdinal, Weekday.ofOrdinal?, if_pos (by omega)]

theorem startOf_of_ne_week (hu : u ≠ .week) (c c' : Calendar) (d : Stamp) :
    c.startOf u d = c'.startOf u d := by
  cases u with
  | week => exact absurd rfl hu
  | _ => rfl

theorem endOf_of_ne_week (hu : u ≠ .week) (c c' : Calendar) (d : Stamp) :
    c.endOf u d = c'.endOf u d := by
  cases u with
  | week => exact absurd rfl hu
  | _ => rfl

theorem request_of_override {run : Calendar → TimeUnit → Except RangeFault Stamp} {o : Int}
    {c' : Calendar} (ho : c.withWeekStart (some o) = .ok c')
    (hrun : u ≠ .week → run c u = run c' u) :
    c.request u.code (some o) run = (run c' u).mapError .range := by
  rw [request, TimeUnit.ofCode?_eq_some.mpr rfl]
  by_cases hu : u = .week
  · simp only [if_pos hu, ho]
    rfl
  · rw [← hrun hu]
    simp only [if_neg hu]
    rfl

/-- Where a clock can show the start and the end of a unit, the stamps of the unit are those between
them: they and no others are rounded down to that start, and one microsecond behind the end the next
unit starts. For weeks these are the stamps of one week. To ask for another first day of the week,
counted from either end, is to ask a calendar with that first day. -/
theorem units_tile (c : Calendar) (u : TimeUnit) :
    (∀ d first last, c.startOf u d = .ok first → c.endOf u d = .ok last →
      (first.zone = d.zone ∧ last.zone = d.zone ∧ first.wall ≤ d.wall ∧ d.wall ≤ last.wall) ∧
      (∀ x, x.zone = d.zone → ((∃ v, c.startOf u x = .ok v ∧ v.agrees first = true) ↔
        first.wall ≤ x.wall ∧ x.wall ≤ last.wall)) ∧
      (∀ w : WallTime, w.micros = last.wall.micros + 1 →
        c.startOf u (last.moved w) = .ok (last.moved w)) ∧
      (u = .week → ∀ x, x.zone = d.zone → (c.sameWeek x d = .ok true ↔
        first.wall ≤ x.wall ∧ x.wall ≤ last.wall))) ∧
    ∀ k : Int, -7 ≤ k → k < 7 → ∃ c', Calendar.ofOrdinal (k % 7) = .ok c' ∧ ∀ d x,
      c.request u.code (some k) (fun c u => c.startOf u d) = (c'.startOf u d).mapError .range ∧
      c.request u.code (some k) (fun c u => c.endOf u d) = (c'.endOf u d).mapError .range ∧
      (c.withWeekStart (some k) >>= fun c => (c.sameWeek x d).mapError CalendarError.range) =
        (c'.sameWeek x d).mapError .range := by
  constructor
  · intro d first last hs he
    obtain ⟨hsw, hsz⟩ := startOf_shows hs
    obtain ⟨hew, hez⟩ := endOf_shows he
    have hle : first.wall.micros ≤ d.wall.micros := by
      rw [hsw]
      exact Timeline.startOf_le c.weekStart u d.wall.micros
    have hge : d.wall.micros ≤ last.wall.micros := by
      rw [hew]
      exact Timeline.le_endOf c.weekStart u d.wall.micros
    refine ⟨⟨hsz, hez, hle, hge⟩, fun x hz => startOf_agrees_iff hs he hz,
      fun w hw => startOf_behind_endOf he hw, ?_⟩
    rintro rfl x hz
    exact sameWeek_iff_between hs he hz
  · intro k hl hu
    -- units other than weeks do not look at the first day of the week
    have hweek := c.withWeekStart_some hl hu
    refine ⟨_, ofOrdinal_mod k, fun d x => ⟨?_, ?_, ?_⟩⟩
    · exact request_of_override hweek fun hne => startOf_of_ne_week hne _ _ d
    · exact request_of_override hweek fun hne => endOf_of_ne_week hne _ _ d
    · rw [hweek]
      rfl

/-- The last week of a year holds the first days of the next one. Asked for the weekday before
Sunday, a calendar answers with the week that starts on Saturday. -/
theorem units_tile_new_year :
    let d : Stamp := ⟨⟨63871243200000000, by decide, by decide⟩, .floating, false⟩
    let newYear : Stamp := ⟨⟨63871286400000000, by decide, by decide⟩, .floating, false⟩
    let sunday : Stamp := ⟨⟨63871632000000000, by decide, by decide⟩, .floating, false⟩
    let saturday : Calendar := ⟨.saturday⟩
    standard.sameWeek newYear d = .ok true ∧ standard.sameWeek sunday d ≠ .ok true ∧
      standard.startOf .week sunday = .ok sunday ∧
      standard.request "w" (some (-1)) (fun c u => c.startOf u d) =
        (saturday.startOf .week d).mapError .range := by
  intro d newYear sunday saturday
  let first : Stamp := ⟨⟨63871027200000000, by decide, by decide⟩, .floating, false⟩
  let last : Stamp := ⟨⟨63871631999999999, by decide, by decide⟩, .floating, false⟩
  obtain ⟨htile, hoverride⟩ := units_tile standard .week
  have hs : standard.startOf .week d = .ok first := by decide +kernel
  have he : standard.endOf .week d = .ok last := by decide +kernel
  obtain ⟨-, -, hbehind, hsame⟩ := htile d first last hs he
  obtain ⟨c', hc', hasked⟩ := hoverride (-1) (by decide) (by decide)
  obtain rfl : saturday = c' := Except.ok.inj hc'
  refine ⟨(hsame rfl newYear rfl).mpr (by decide), ?_, hbehind sunday.wall (by decide),
    (hasked d d).1⟩
  exact mt (hsame rfl sunday rfl).mp (by decide)

end Calendar

end RelativeTime
