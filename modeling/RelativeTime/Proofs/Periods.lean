import RelativeTime.Proofs.Steps
import RelativeTime.Proofs.WeekClauses

/-!
Snaps and whole periods. The days of a week come round every seven days, so snaps of all kinds but
those to months commute with steps by whole weeks; the end of a business week does if its anchor
takes the same steps. Snaps to months commute with steps by whole months, for the day that a step
may cut down is not looked at.
-/
namespace RelativeTime

namespace Timeline

theorem startOf_add_weeks {u : TimeUnit} (hu : u ≠ .month) (first : Weekday) (t n : Int) :
    startOf first u (t + n * week) = startOf first u t + n * week := by
  cases u with
  | month => exact absurd rfl hu
  | week => exact startOfWeek_add_weeks first t n
  | _ => grind

theorem endOf_add_weeks {u : TimeUnit} (hu : u ≠ .month) (first : Weekday) (t n : Int) :
    endOf first u (t + n * week) = endOf first u t + n * week := by
  have hstart := startOf_add_weeks hu first t n
  cases u with
  | month => exact absurd rfl hu
  | _ =>
    simp only [startOf, endOf] at hstart ⊢
    omega

theorem nearest_add_weeks (e : Edge) (w : Weekday) (t n : Int) :
    nearest e w (t + n * week) = nearest e w t + n * week := by
  cases e with
  | start =>
    rw [nearest, nearest, lastWeekday, lastWeekday, weekdayOrdinal_add_weeks]
    omega
  | finish =>
    rw [nearest, nearest, nextWeekday, nextWeekday, weekdayOrdinal_add_weeks]
    omega

theorem edgeOf_add_weeks {u : TimeUnit} (hu : u ≠ .month) (first : Weekday) (e : Edge) (t n : Int) :
    edgeOf first e u (t + n * week) = edgeOf first e u t + n * week := by
  cases e with
  | start => exact startOf_add_weeks hu first t n
  | finish => exact endOf_add_weeks hu first t n

theorem monthIndex_startOf_month (first : Weekday) (t : Int) :
    monthIndex (dateOf (startOf first .month t)) = monthIndex (dateOf t) := by
  have hself : startOf first .month (startOf first .month t) = startOf first .month t :=
    startOf_edgeOf .refl first .start t
  rw [startOf_month_eq, startOf_month_eq] at hself
  have hfirst : firstOfMonth (monthIndex (dateOf (firstOfMonth (monthIndex (dateOf t)) * day))) =
      firstOfMonth (monthIndex (dateOf t)) := by
    rw [day_eq] at hself ⊢
    omega
  rw [startOf_month_eq]
  exact firstOfMonth_inj.mp hfirst

/-- The first of a month is a day that every month has, so no step by months cuts it down. -/
theorem shiftMonths_startOf_month (first : Weekday) (n t : Int) :
    shiftMonths n (startOf first .month t) = startOf first .month (shiftMonths n t) := by
  have hindex := monthIndex_startOf_month first t
  -- the day is the first, the time is midnight, and the step leaves both alone
  have hnumber : dayNumber (startOf first .month t) = firstOfMonth (monthIndex (dateOf t)) := by
    rw [startOf_month_eq, dayNumber]
    exact Int.mul_ediv_cancel _ (by decide)
  have htime : timeOfDay (startOf first .month t) = 0 := by
    rw [startOf_month_eq, timeOfDay]
    exact Int.mul_emod_left _ _
  have hday : (dateOf (startOf first .month t)).day = 1 := by
    have hpos : 1 ≤ (dateOf (startOf first .month t)).day := (dateOf_isValid _).2.2.1
    have heq := dayNumber_eq (startOf first .month t)
    rw [hindex, hnumber] at heq
    omega
  have hlength := daysInMonth_bounds (monthIndex (dateOf t) + n)
  have hto : dayNumber (shiftMonths n (startOf first .month t)) =
      firstOfMonth (monthIndex (dateOf t) + n) := by
    rw [dayNumber_eq, monthIndex_shiftMonths, day_shiftMonths, hindex, hday]
    omega
  calc shiftMonths n (startOf first .month t)
      = dayNumber (shiftMonths n (startOf first .month t)) * day +
          timeOfDay (shiftMonths n (startOf first .month t)) :=
        (dayNumber_add_timeOfDay _).symm
    _ = firstOfMonth (monthIndex (dateOf t) + n) * day := by
        rw [hto, timeOfDay_shiftMonths, htime, Int.add_zero]
    _ = startOf first .month (shiftMonths n t) := by
        rw [startOf_month_eq, monthIndex_shiftMonths]

end Timeline

/-- The zone has no clock that is ever set: it is none at all, or one offset for good. -/
def Zone.IsPlain : Zone → Prop
  | .floating => True
  | .fixed _ => True
  | .named _ => False

instance : DecidablePred Zone.IsPlain
  | .floating => isTrue trivial
  | .fixed _ => isTrue trivial
  | .named _ => isFalse id

namespace Calendar

theorem sameWeek_eq_ok {c : Calendar} {s anchor : Stamp} {same : Bool}
    (h : c.sameWeek s anchor = .ok same) :
    ∃ own first, c.startOf .week s = .ok own ∧ c.startOf .week anchor = .ok first ∧
      same = own.agrees first := by
  unfold sameWeek at h
  cases hs : c.startOf .week s with
  | error f => simp [hs, bind, Except.bind] at h
  | ok own =>
    cases ha : c.startOf .week anchor with
    | error f => simp [hs, ha, bind, Except.bind] at h
    | ok first =>
      refine ⟨own, first, rfl, rfl, ?_⟩
      simpa [hs, ha, bind, Except.bind, pure, Except.pure, eq_comm] using h

end Calendar

namespace Stamp

variable {a b p q s v x y : Stamp} {n : Int}

theorem offset?_of_isPlain (hz : a.zone.IsPlain) (h : b.zone = a.zone) : b.offset? = a.offset? := by
  rw [offset?, offset?, h]
  generalize a.zone = z at hz
  cases z with
  | floating => rfl
  | fixed o => rfl
  | named z => exact absurd hz id

theorem isAmbiguous_of_isPlain (hz : a.zone.IsPlain) : a.isAmbiguous = false := by
  have hshowing : Stamp.offset? { a with repeated := !a.repeated } = a.offset? :=
    offset?_of_isPlain hz rfl
  rw [isAmbiguous, hshowing]
  simp

/-- The stamp so many weeks on from another, in the same zone. -/
structure Behind (n : Int) (a b : Stamp) : Prop where
  wall : b.wall.micros = a.wall.micros + n * Timeline.week
  zone : b.zone = a.zone
  repeated : b.repeated = false

theorem shift_week_eq_ok : a.shift .week n = .ok b ↔ Behind n a b := by
  rw [shift_eq_place (by decide), moved_place_eq_ok]
  constructor
  · rintro ⟨hwall, hzone, hrepeated⟩
    exact ⟨hwall, hzone, hrepeated⟩
  · intro h
    exact ⟨h.wall, h.zone, h.repeated⟩

namespace Behind

theorem shift_day {m : Int} (h : Behind n a b) (hv : a.shift .day m = .ok v)
    (hy : b.shift .day m = .ok y) : Behind n v y := by
  rw [shift_eq_place (by decide), moved_place_eq_ok] at hv hy
  obtain ⟨hvw, hvz, -⟩ := hv
  obtain ⟨hyw, hyz, hyr⟩ := hy
  have hwall := h.wall
  refine ⟨?_, hyz.trans (h.zone.trans hvz.symm), hyr⟩
  omega

/-- Two comparisons of wall times, or of moments where no clock is ever set, that are as many weeks
apart on either side. -/
theorem agrees (hab : Behind n a b) (hpq : Behind n p q)
    (hz : a.zone = p.zone ∨ a.zone.IsPlain ∧ p.zone.IsPlain) : b.agrees q = a.agrees p := by
  have hwa := hab.wall
  have hwp := hpq.wall
  by_cases hsame : a.zone = p.zone
  · have hsame' : b.zone = q.zone := by rw [hab.zone, hpq.zone, hsame]
    have hwall : b.wall.micros = q.wall.micros ↔ a.wall.micros = p.wall.micros := by omega
    rw [agrees_of_zone hsame, agrees_of_zone hsame']
    exact decide_eq_decide.mpr hwall
  · obtain ⟨hpa, hpp⟩ := hz.resolve_left hsame
    have hsame' : ¬ b.zone = q.zone := by rwa [hab.zone, hpq.zone]
    have hb : b.isAmbiguous = false := isAmbiguous_of_isPlain (hab.zone ▸ hpa)
    have hq : q.isAmbiguous = false := isAmbiguous_of_isPlain (hpq.zone ▸ hpp)
    rw [Stamp.agrees, Stamp.agrees, if_neg hsame, if_neg hsame', hb, hq,
      isAmbiguous_of_isPlain hpa, isAmbiguous_of_isPlain hpp, moment?, moment?, moment?, moment?,
      offset?_of_isPlain hpa hab.zone, offset?_of_isPlain hpp hpq.zone, hwa, hwp]
    cases a.offset? with
    | none => rfl
    | some o =>
      cases p.offset? with
      | none => rfl
      | some o' =>
        -- both moments have moved on by the same distance
        have hmoment :
            a.wall.micros + n * Timeline.week - o = p.wall.micros + n * Timeline.week - o' ↔
            a.wall.micros - o = p.wall.micros - o' := by omega
        simp only [Option.map_some, hmoment]

section Snaps

variable {c : Calendar} (h : Behind n a b)

include h

theorem snap_unit {e : Edge} {u : TimeUnit} (hu : u ≠ .month)
    (hv : (Clause.snap ⟨e, .unit u⟩).apply c p a = .ok v)
    (hy : (Clause.snap ⟨e, .unit u⟩).apply c q b = .ok y) : Behind n v y := by
  obtain ⟨-, ⟨hvw, hvz⟩, -⟩ := Clause.of_apply_unit hv
  obtain ⟨-, ⟨hyw, hyz⟩, hyr⟩ := Clause.of_apply_unit hy
  refine ⟨?_, hyz.trans (h.zone.trans hvz.symm), ?_⟩
  · rw [hyw, hvw, h.wall, Timeline.edgeOf_add_weeks hu]
  · rw [hyr, h.repeated, ite_self]

theorem snap_weekday {e : Edge} {w : Weekday}
    (hv : (Clause.snap ⟨e, .weekday w⟩).apply c p a = .ok v)
    (hy : (Clause.snap ⟨e, .weekday w⟩).apply c q b = .ok y) : Behind n v y := by
  obtain ⟨hvw, hvz, -⟩ := (Clause.apply_weekday_eq_ok e).mp hv
  obtain ⟨hyw, hyz, hyr⟩ := (Clause.apply_weekday_eq_ok e).mp hy
  refine ⟨?_, hyz.trans (h.zone.trans hvz.symm), hyr⟩
  rw [hyw, hvw, h.wall, Timeline.nearest_add_weeks]

theorem startOf_week (hv : c.startOf .week a = .ok v) (hy : c.startOf .week b = .ok y) :
    Behind n v y :=
  h.snap_unit (p := a) (q := a) (e := .start) (by decide) hv hy

/-- The Monday of a business week is the first one on from the start of the week. -/
theorem businessMonday (hv : c.businessMonday a = .ok v) (hy : c.businessMonday b = .ok y) :
    Behind n v y := by
  obtain ⟨first, hfirst⟩ := Calendar.exists_startOf_week hv
  obtain ⟨first', hfirst'⟩ := Calendar.exists_startOf_week hy
  rw [Calendar.businessMonday_eq_nextWeekday, hfirst] at hv
  rw [Calendar.businessMonday_eq_nextWeekday, hfirst'] at hy
  exact (h.startOf_week hfirst hfirst').snap_weekday (c := c) (p := a) (q := a) (e := .finish) hv hy

theorem sameWeek (hpq : Behind n p q) (hz : a.zone = p.zone ∨ a.zone.IsPlain ∧ p.zone.IsPlain)
    {same same' : Bool} (hv : c.sameWeek a p = .ok same) (hy : c.sameWeek b q = .ok same') :
    same' = same := by
  obtain ⟨own, first, ho, hf, rfl⟩ := Calendar.sameWeek_eq_ok hv
  obtain ⟨own', first', ho', hf', rfl⟩ := Calendar.sameWeek_eq_ok hy
  have hzone : own.zone = first.zone ∨ own.zone.IsPlain ∧ first.zone.IsPlain := by
    rwa [(Calendar.startOf_shows ho).2, (Calendar.startOf_shows hf).2]
  exact (h.startOf_week ho ho').agrees (hpq.startOf_week hf hf') hzone

theorem isWeekend : b.isWeekend = a.isWeekend := by
  have hday : b.weekday = a.weekday := by
    rw [weekday, weekday, WallTime.weekday, WallTime.weekday, Timeline.weekdayOf,
      Timeline.weekdayOf, h.wall, Timeline.weekdayOrdinal_add_weeks]
  rw [Stamp.isWeekend, Stamp.isWeekend, hday]

theorem endOfBusinessWeek (hpq : Behind n p q)
    (hz : a.zone = p.zone ∨ a.zone.IsPlain ∧ p.zone.IsPlain)
    (hv : c.endOfBusinessWeek p a = .ok v) (hy : c.endOfBusinessWeek q b = .ok y) :
    Behind n v y := by
  obtain ⟨monday, same, hm, hs, hcase⟩ := Calendar.endOfBusinessWeek_eq_ok hv
  obtain ⟨monday', same', hm', hs', hcase'⟩ := Calendar.endOfBusinessWeek_eq_ok hy
  rw [h.sameWeek hpq hz hs hs', h.isWeekend] at hcase'
  rcases hcase with ⟨hp, rfl⟩ | ⟨hp, hfriday⟩
  · -- both weeks are under way, and both stamps are their own ends
    obtain ⟨-, rfl⟩ := hcase'.resolve_right fun hn => hn.1 hp
    exact h
  · obtain ⟨-, hfriday'⟩ := hcase'.resolve_left fun hn => hp hn.1
    have hmonday := h.businessMonday hm hm'
    cases hf : monday.shift .day 4 with
    | error e => simp [hf, bind, Except.bind] at hfriday
    | ok friday =>
      cases hf' : monday'.shift .day 4 with
      | error e => simp [hf', bind, Except.bind] at hfriday'
      | ok friday' =>
        rw [hf] at hfriday
        rw [hf'] at hfriday'
        exact (hmonday.shift_day hf hf').snap_unit (c := c) (p := a) (q := a) (e := .finish)
          (by decide) hfriday hfriday'

end Snaps

end Behind

end Stamp

namespace Calendar

/-- The month that a step leads to does not depend on the day of the month it is made from. -/
theorem shift_month_startOf (c : Calendar) (s : Stamp) (n : Int) :
    (s.shift .month n >>= fun x => c.startOf .month x) =
      c.startOf .month s >>= fun first => first.shift .month n := by
  obtain ⟨first, hfirst⟩ : ∃ first, c.startOf .month s = .ok first :=
    Clause.exists_apply_snap c s s .start (by decide)
  obtain ⟨hwall, hzone⟩ := startOf_shows hfirst
  have hindex : Timeline.monthIndex (Timeline.dateOf first.wall.micros) =
      Timeline.monthIndex (Timeline.dateOf s.wall.micros) := by
    rw [hwall, Timeline.monthIndex_startOf_month]
  -- on the time line the step and the start of the month commute
  have hto : Timeline.shiftMonths n first.wall.micros =
      Timeline.startOf c.weekStart .month (Timeline.shiftMonths n s.wall.micros) := by
    rw [hwall, Timeline.shiftMonths_startOf_month]
  -- a fault only tells the month that a step leads to
  have hfault : RangeFault.ofShift .month n first.wall.micros =
      RangeFault.ofShift .month n s.wall.micros := by
    simp only [RangeFault.ofShift, hindex]
  have hs : s.shift .month n = s.moved <$> WallTime.place (.ofShift .month n s.wall.micros)
      (Timeline.shiftMonths n s.wall.micros) := s.stepMonths_eq (.add n)
  have hf : first.shift .month n = first.moved <$> WallTime.place (.ofShift .month n s.wall.micros)
      (Timeline.shiftMonths n first.wall.micros) := hfault ▸ first.stepMonths_eq (.add n)
  rw [hfirst, hs]
  show _ = first.shift .month n
  rw [hf]
  by_cases hshown : Timeline.IsShown (Timeline.shiftMonths n s.wall.micros)
  · have hstart := Timeline.isShown_startOf (u := .month) (by decide) c.weekStart hshown
    let w : WallTime := ⟨_, hshown.1, hshown.2⟩
    let start : WallTime := ⟨_, hstart.1, hstart.2⟩
    rw [WallTime.place_of_isShown hshown, hto, WallTime.place_of_isShown hstart,
      Stamp.moved_congr hzone]
    show c.startOf .month (s.moved w) = .ok (s.moved start)
    rw [startOf, WallTime.startOf_eq_place]
    exact congrArg _ (WallTime.place_of_isShown hstart)
  · -- the two steps leave the range together
    have hlost : ¬ Timeline.IsShown (Timeline.shiftMonths n first.wall.micros) := by
      rw [Timeline.isShown_shiftMonths] at hshown ⊢
      rwa [hindex]
    rw [WallTime.place_of_not_isShown hshown, WallTime.place_of_not_isShown hlost]
    rfl

theorem shift_month_endOf (c : Calendar) (s : Stamp) (n : Int) :
    (s.shift .month n >>= fun x => c.endOf .month x) =
      c.startOf .month s >>= fun first => first.shift .month n >>= fun x => c.endOf .month x := by
  have hup (x : Stamp) : (c.startOf .month x >>= fun first => c.endOf .month first) =
      c.endOf .month x := by
    show ((Clause.down (.unit .month)).apply c x x >>= fun y =>
      (Clause.up (.unit .month)).apply c x y) = (Clause.up (.unit .month)).apply c x x
    exact Clause.apply_unit_larger .refl nofun
  calc (s.shift .month n >>= fun x => c.endOf .month x)
      = s.shift .month n >>= fun x => c.startOf .month x >>= fun first => c.endOf .month first := by
        simp only [hup]
    _ = (s.shift .month n >>= fun x => c.startOf .month x) >>=
        fun first => c.endOf .month first := by
        rw [bind_assoc]
    _ = c.startOf .month s >>= fun first =>
          first.shift .month n >>= fun x => c.endOf .month x := by
        rw [shift_month_startOf, bind_assoc]

end Calendar

namespace Clause

/-- Snaps to all but months commute with a step by whole weeks, the end of a business week if the
step is made by its anchor too, and both stand in one zone or on clocks that are never set. Down to
the month and a step by months lead to one place in either order; up to the end of a month lead a
step by months and the same step from the start of the month. -/
theorem snaps_commute_with_periods (c : Calendar) (s : Stamp) (n : Int) :
    (∀ (k : Snap) (p q x v y : Stamp), k.boundary ≠ .unit .month → s.shift .week n = .ok x →
      (k = ⟨.finish, .businessWeek⟩ → p.shift .week n = .ok q ∧
        (s.zone = p.zone ∨ s.zone.IsPlain ∧ p.zone.IsPlain)) →
      (snap k).apply c p s = .ok v → (snap k).apply c q x = .ok y → v.shift .week n = .ok y) ∧
      (s.shift .month n >>= fun x => c.startOf .month x) =
        (c.startOf .month s >>= fun first => first.shift .month n) ∧
      (s.shift .month n >>= fun x => c.endOf .month x) =
        c.startOf .month s >>= fun first => first.shift .month n >>= fun x => c.endOf .month x := by
  refine ⟨?_, Calendar.shift_month_startOf c s n, Calendar.shift_month_endOf c s n⟩
  -- each kind of snap takes two stamps that are so many weeks apart to two that are
  rintro ⟨edge, boundary⟩ p q x v y hk hx hanchor hv hy
  rw [Stamp.shift_week_eq_ok] at hx ⊢
  cases boundary with
  | unit u => exact hx.snap_unit (fun hu => hk (congrArg Boundary.unit hu)) hv hy
  | weekday w => exact hx.snap_weekday hv hy
  | businessWeek =>
    cases edge with
    | start => exact hx.businessMonday hv hy
    | finish =>
      obtain ⟨hp, hz⟩ := hanchor rfl
      exact hx.endOfBusinessWeek (Stamp.shift_week_eq_ok.mp hp) hz hv hy

/-- A week before the Friday that a business week ended with, seen from its Saturday, is the Friday
seen from the Saturday before. From the end of January the month on is February, though its days are
fewer. -/
theorem snaps_commute_with_periods_saturday :
    let zone : Zone := .fixed ⟨7200000000, by decide, by decide⟩
    let saturday : Stamp := ⟨⟨63673810825000000, by decide, by decide⟩, zone, true⟩
    let before : Stamp := ⟨⟨63673206025000000, by decide, by decide⟩, zone, false⟩
    let friday : Stamp := ⟨⟨63673775999999999, by decide, by decide⟩, zone, false⟩
    let earlier : Stamp := ⟨⟨63673171199999999, by decide, by decide⟩, zone, false⟩
    let january : Stamp := ⟨⟨63652984747000000, by decide, by decide⟩, zone, false⟩
    let february : Stamp := ⟨⟨63653040000000000, by decide, by decide⟩, zone, false⟩
    saturday.shift .week (-1) = .ok before ∧
      (snap ⟨.finish, .businessWeek⟩).apply .standard saturday saturday = .ok friday ∧
      (snap ⟨.finish, .businessWeek⟩).apply .standard before before = .ok earlier ∧
      friday.shift .week (-1) = .ok earlier ∧
      (january.shift .month 1 >>= fun x => Calendar.standard.startOf .month x) = .ok february := by
  intro zone saturday before friday earlier january february
  obtain ⟨hweeks, -, -⟩ := snaps_commute_with_periods .standard saturday (-1)
  obtain ⟨-, hmonth, -⟩ := snaps_commute_with_periods .standard january 1
  have hbefore : saturday.shift .week (-1) = .ok before := by decide +kernel
  have hfriday :
      (snap ⟨.finish, .businessWeek⟩).apply .standard saturday saturday = .ok friday := by
    decide +kernel
  have hearlier : (snap ⟨.finish, .businessWeek⟩).apply .standard before before = .ok earlier := by
    decide +kernel
  refine ⟨hbefore, hfriday, hearlier, ?_, ?_⟩
  · exact hweeks _ saturday before before friday earlier (by decide) hbefore
      (fun _ => ⟨hbefore, Or.inl rfl⟩) hfriday hearlier
  · rw [hmonth]
    decide +kernel

end Clause

end RelativeTime
