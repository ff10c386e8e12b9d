import RelativeTime.Calendar.Basic

/-!
Moving a wall time is exact. However an amount is split, and whatever stage refuses it, the result
is the one on the unbounded time line, or there is none because a clock cannot show that.
-/
namespace RelativeTime

namespace Timeline

/-- A clock can show the moment. -/
@[grind =]
def IsShown (t : Int) : Prop :=
  0 ≤ t ∧ t < limit

instance (t : Int) : Decidable (IsShown t) := by
  unfold IsShown
  infer_instance

section Units

-- with the units in microseconds, days and the starts and ends of units of one length are a matter
-- of linear arithmetic

@[grind =] theorem second_eq : second = 1000000 := by decide

@[grind =] theorem minute_eq : minute = 60000000 := by decide

@[grind =] theorem hour_eq : hour = 3600000000 := by decide

@[grind =] theorem day_eq : day = 86400000000 := by decide

@[grind =] theorem week_eq : week = 604800000000 := by decide

@[grind =] theorem limit_eq : limit = 315537897600000000 := by decide

attribute [grind =] dayNumber timeOfDay startOfDay startOf endOf

end Units

@[simp] theorem dayNumber_add_timeOfDay (t : Int) : dayNumber t * day + timeOfDay t = t :=
  Int.mul_comm _ _ ▸ Int.mul_ediv_add_emod t day

theorem timeOfDay_bounds (t : Int) : 0 ≤ timeOfDay t ∧ timeOfDay t < day := by
  grind

@[simp] theorem ofDate_dateOf (t : Int) : ofDate (dateOf t) (timeOfDay t) = t := by
  rw [ofDate, dateOf, CivilDate.toDay_ofDay, dayNumber_add_timeOfDay]

theorem dayNumber_ofDate {date : CivilDate} {time : Int} (h0 : 0 ≤ time) (h1 : time < day) :
    dayNumber (ofDate date time) = date.toDay := by
  rw [dayNumber, ofDate, day_eq] at *
  omega

theorem isShown_iff_dayNumber (t : Int) :
    IsShown t ↔ 0 ≤ dayNumber t ∧ dayNumber t < 3652059 := by
  rw [IsShown, dayNumber, limit_eq, day_eq]
  omega

end Timeline

namespace CivilDate

/-- The years that a clock can show are those of so many days. -/
theorem year_ofDay_iff (d : Int) :
    1 ≤ (ofDay d).year ∧ (ofDay d).year ≤ 9999 ↔ 0 ≤ d ∧ d < 3652059 := by
  have hl : daysBeforeYear (yearOf d) ≤ d := daysBeforeYear_le_yearOf d
  have hu : d < daysBeforeYear (yearOf d + 1) := lt_daysBeforeYear_yearOf d
  have hy : (ofDay d).year = yearOf d := rfl
  rw [hy]
  unfold daysBeforeYear at hl hu
  omega

end CivilDate

namespace Timeline

theorem isShown_iff_year (t : Int) :
    IsShown t ↔ 1 ≤ (dateOf t).year ∧ (dateOf t).year ≤ 9999 := by
  rw [isShown_iff_dayNumber, dateOf, CivilDate.year_ofDay_iff]

theorem isShown_ofDate {date : CivilDate} {time : Int} (hd : date.IsValid) (h0 : 0 ≤ time)
    (h1 : time < day) : IsShown (ofDate date time) ↔ 1 ≤ date.year ∧ date.year ≤ 9999 := by
  rw [isShown_iff_year, dateOf, dayNumber_ofDate h0 h1, CivilDate.ofDay_toDay hd]

theorem dateOf_isValid (t : Int) : (dateOf t).IsValid :=
  CivilDate.ofDay_isValid _

theorem monthLength_bounds (year : Int) {month : Nat} (h1 : 1 ≤ month) (h2 : month ≤ 12) :
    28 ≤ CivilDate.monthLength year month ∧ CivilDate.monthLength year month ≤ 31 := by
  have ht : (CivilDate.isLeap year).toNat ≤ 1 := Bool.toNat_le _
  have hm : month = 1 ∨ month = 2 ∨ month = 3 ∨ month = 4 ∨ month = 5 ∨ month = 6 ∨ month = 7 ∨
      month = 8 ∨ month = 9 ∨ month = 10 ∨ month = 11 ∨ month = 12 := by omega
  unfold CivilDate.monthLength
  rcases hm with rfl | rfl | rfl | rfl | rfl | rfl | rfl | rfl | rfl | rfl | rfl | rfl <;>
    simp only [CivilDate.daysBeforeMonth] <;> omega

theorem dateInMonth_isValid (index : Int) {day : Nat} (h : 1 ≤ day) :
    (dateInMonth index day).IsValid := by
  have hlen := monthLength_bounds (index / 12 + 1) (show 1 ≤ (index % 12).toNat + 1 by omega)
    (by omega)
  refine ⟨?_, ?_, ?_, ?_⟩ <;> simp only [dateInMonth] <;> omega

theorem isShown_shiftMonths (n t : Int) :
    IsShown (shiftMonths n t) ↔
      1 ≤ (monthIndex (dateOf t) + n) / 12 + 1 ∧ (monthIndex (dateOf t) + n) / 12 + 1 ≤ 9999 := by
  have hd := (dateOf_isValid t).2.2.1
  have htime := timeOfDay_bounds t
  exact isShown_ofDate (dateInMonth_isValid _ hd) htime.1 htime.2

theorem monthIndex_div {date : CivilDate} (h : date.IsValid) :
    monthIndex date / 12 + 1 = date.year := by
  obtain ⟨hm1, hm2, _⟩ := h
  rw [monthIndex]
  omega

theorem monthIndex_mod {date : CivilDate} (h : date.IsValid) :
    (monthIndex date % 12).toNat + 1 = date.month := by
  obtain ⟨hm1, hm2, _⟩ := h
  rw [monthIndex]
  omega

theorem dateInMonth_monthIndex {date : CivilDate} (h : date.IsValid) :
    dateInMonth (monthIndex date) date.day = date := by
  simp only [dateInMonth, monthIndex_div h, monthIndex_mod h, Nat.min_eq_left h.2.2.2]

/-- Carrying once is dividing the months since the year 1. -/
theorem carried_eq {date : CivilDate} (hv : date.IsValid) (years : Int) {months : Int}
    (h : months.natAbs < 12) :
    (if 12 < (date.month : Int) + months then
        (date.year + years + 1, (date.month : Int) + months - 12)
      else if (date.month : Int) + months < 1 then
        (date.year + years - 1, (date.month : Int) + months + 12)
      else (date.year + years, (date.month : Int) + months)) =
      ((monthIndex date + (12 * years + months)) / 12 + 1,
        (monthIndex date + (12 * years + months)) % 12 + 1) := by
  obtain ⟨hm1, hm2, _⟩ := hv
  rw [monthIndex]
  split
  · exact Prod.ext (by simp only; omega) (by simp only; omega)
  · split
    · exact Prod.ext (by simp only; omega) (by simp only; omega)
    · exact Prod.ext (by simp only; omega) (by simp only; omega)

@[simp] theorem shiftMonths_zero (t : Int) : shiftMonths 0 t = t := by
  simp only [shiftMonths, Int.add_zero]
  rw [dateInMonth_monthIndex (dateOf_isValid t), ofDate_dateOf]

end Timeline

namespace Parts

/-- No part reaches the size of the next larger one. -/
structure IsBalanced (p : Parts) : Prop where
  months : p.months.natAbs < 12
  hours : p.hours.natAbs < 24
  minutes : p.minutes.natAbs < 60
  seconds : p.seconds.natAbs < 60

theorem doubleLimit_large : 1000000000000000000 < RangeFault.doubleLimit := by decide +kernel

theorem split_of_lt {size : Nat} {n : Int} (h : n.natAbs < size) : split size n = .ok (0, n) := by
  rw [split, if_pos h]

theorem split_of_limit (size : Nat) {n : Int} (hs : size ≤ 60)
    (h : RangeFault.doubleLimit ≤ n.natAbs) : split size n = .error .amountTooLarge := by
  have hl := doubleLimit_large
  have hge : size ≤ n.natAbs := Nat.le_trans hs (by omega)
  rw [split, if_neg (Nat.not_lt.mpr hge), if_pos h]

/-- A part that can be split is, into a carry and a remainder that have its sign. -/
theorem split_eq_ok {size : Nat} {n : Int} (h : n.natAbs < RangeFault.doubleLimit) :
    split size n = .ok (n.tdiv size, n.tmod size) := by
  unfold split
  split
  · rename_i hlt
    have hd : n.tdiv size = 0 := by
      apply Int.natAbs_eq_zero.mp
      rw [Int.natAbs_tdiv, Int.natAbs_natCast]
      exact Nat.div_eq_of_lt hlt
    have hm : n.tmod size = n := by
      have hmd := Int.mul_tdiv_add_tmod n size
      rw [hd, Int.mul_zero, Int.zero_add] at hmd
      exact hmd
    rw [hd, hm]
  · rw [if_neg (by omega)]

theorem exists_split (size : Nat) {n : Int} (h : n.natAbs < RangeFault.doubleLimit) :
    ∃ carry rest, split size n = .ok (carry, rest) ∧ carry.natAbs ≤ n.natAbs :=
  ⟨_, _, split_eq_ok h, Int.natAbs_tdiv_le_natAbs n size⟩

theorem split_facts {size : Nat} {n carry rest : Int} (hs : 0 < size)
    (h : split size n = .ok (carry, rest)) :
    carry * size + rest = n ∧ rest.natAbs < size := by
  -- small numbers are not split, others only where a float can hold them
  have hn : n.natAbs < RangeFault.doubleLimit ∨ n.natAbs < size := by
    unfold split at h
    split at h
    · exact Or.inr ‹_›
    · split at h
      · simp at h
      · exact Or.inl (by omega)
  rcases hn with hn | hn
  · rw [split_eq_ok hn] at h
    obtain ⟨rfl, rfl⟩ : n.tdiv size = carry ∧ n.tmod size = rest := by simpa using h
    constructor
    · rw [Int.mul_comm]
      exact Int.mul_tdiv_add_tmod n size
    · rw [Int.natAbs_tmod, Int.natAbs_natCast]
      exact Nat.mod_lt _ hs
  · rw [split_of_lt hn] at h
    obtain ⟨rfl, rfl⟩ : 0 = carry ∧ n = rest := by simpa using h
    exact ⟨by omega, hn⟩

theorem balanced_of_isBalanced {p : Parts} (h : p.IsBalanced) : p.balanced = .ok p := by
  unfold balanced
  simp only [split_of_lt h.seconds, split_of_lt h.minutes, split_of_lt h.hours,
    split_of_lt h.months, bind, Except.bind, pure, Except.pure, Int.add_zero]

theorem IsBalanced.neg {p : Parts} (h : p.IsBalanced) : p.neg.IsBalanced := by
  constructor
  · simpa [Parts.neg] using h.months
  · simpa [Parts.neg] using h.hours
  · simpa [Parts.neg] using h.minutes
  · simpa [Parts.neg] using h.seconds

theorem years_ofAmount (u : TimeUnit) (n : Int) : (ofAmount u n).years = 0 := by
  cases u <;> rfl

theorem ofAmount_neg (u : TimeUnit) (n : Int) : ofAmount u (-n) = (ofAmount u n).neg := by
  cases u with
  | week => exact congrArg (fun days => Parts.mk 0 0 days 0 0 0) (Int.mul_neg 7 n)
  | _ => rfl

@[simp] theorem duration_neg (p : Parts) : p.neg.duration = -p.duration := by
  simp only [duration, neg, Int.neg_mul]
  omega

/-- What balancing keeps: the distance in months, and the one of fixed length. -/
theorem balanced_facts {p q : Parts} (h : p.balanced = .ok q) :
    q.IsBalanced ∧ q.duration = p.duration ∧ 12 * q.years + q.months = 12 * p.years + p.months := by
  unfold balanced at h
  cases hs : split 60 p.seconds with
  | error f => simp [hs, bind, Except.bind] at h
  | ok s =>
    cases hm : split 60 (p.minutes + s.1) with
    | error f => simp [hs, hm, bind, Except.bind] at h
    | ok m =>
      cases hh : split 24 (p.hours + m.1) with
      | error f => simp [hs, hm, hh, bind, Except.bind] at h
      | ok d =>
        cases hy : split 12 p.months with
        | error f => simp [hs, hm, hh, hy, bind, Except.bind] at h
        | ok y =>
          obtain rfl : (⟨p.years + y.1, y.2, p.days + d.1, d.2, m.2, s.2⟩ : Parts) = q := by
            simpa [hs, hm, hh, hy, bind, Except.bind, pure, Except.pure] using h
          -- what one part loses the next larger one gains
          obtain ⟨hs1, hs2⟩ := split_facts (by decide) hs
          obtain ⟨hm1, hm2⟩ := split_facts (by decide) hm
          obtain ⟨hh1, hh2⟩ := split_facts (by decide) hh
          obtain ⟨hy1, hy2⟩ := split_facts (by decide) hy
          refine ⟨⟨hy2, hh2, hm2, hs2⟩, ?_, ?_⟩
          · simp only [duration, Timeline.day, Timeline.hour, Timeline.minute, Timeline.second]
            omega
          · simp only
            omega

/-- Parts can be balanced if each, with what is carried into it, can be split. -/
theorem exists_balanced {p : Parts} (hm : p.months.natAbs < RangeFault.doubleLimit)
    (h : p.seconds.natAbs + p.minutes.natAbs + p.hours.natAbs < RangeFault.doubleLimit) :
    ∃ q, p.balanced = .ok q := by
  obtain ⟨c1, r1, h1, hc1⟩ := exists_split 60 (n := p.seconds) (by omega)
  obtain ⟨c2, r2, h2, hc2⟩ := exists_split 60 (n := p.minutes + c1) (by omega)
  obtain ⟨c3, r3, h3, hc3⟩ := exists_split 24 (n := p.hours + c2) (by omega)
  obtain ⟨c4, r4, h4, _⟩ := exists_split 12 (n := p.months) hm
  unfold balanced
  simp only [h1, h2, h3, h4, bind, Except.bind, pure, Except.pure]
  exact ⟨_, rfl⟩

/-- The units whose amounts are split into larger ones. -/
def IsSplit (u : TimeUnit) : Prop :=
  u ≠ .day ∧ u ≠ .week

theorem natAbs_ofAmount_le (u : TimeUnit) (n : Int) :
    (ofAmount u n).months.natAbs ≤ n.natAbs ∧
      (ofAmount u n).seconds.natAbs + (ofAmount u n).minutes.natAbs +
        (ofAmount u n).hours.natAbs ≤ n.natAbs := by
  cases u <;> simp [ofAmount]

theorem natAbs_ofAmount_of_not_isSplit {u : TimeUnit} (hu : ¬ IsSplit u) (n : Int) :
    (ofAmount u n).months.natAbs = 0 ∧
      (ofAmount u n).seconds.natAbs + (ofAmount u n).minutes.natAbs +
        (ofAmount u n).hours.natAbs = 0 := by
  cases u <;> simp [IsSplit, ofAmount] at hu ⊢

theorem exists_balanced_ofAmount {u : TimeUnit} {n : Int}
    (h : IsSplit u → n.natAbs < RangeFault.doubleLimit) : ∃ q, (ofAmount u n).balanced = .ok q := by
  have hl := doubleLimit_large
  by_cases hu : IsSplit u
  · obtain ⟨hm, hs⟩ := natAbs_ofAmount_le u n
    have hn := h hu
    exact exists_balanced (by omega) (by omega)
  · obtain ⟨hm, hs⟩ := natAbs_ofAmount_of_not_isSplit hu n
    exact exists_balanced (by omega) (by omega)

/-- An amount that is too large is refused by the first split it comes to. -/
theorem balanced_ofAmount_error {u : TimeUnit} {n : Int} (hu : IsSplit u)
    (h : RangeFault.doubleLimit ≤ n.natAbs) :
    (ofAmount u n).balanced = .error .amountTooLarge := by
  have h60 : split 60 0 = .ok (0, 0) := split_of_lt (by decide)
  have h24 : split 24 0 = .ok (0, 0) := split_of_lt (by decide)
  have hn60 := split_of_limit 60 (by decide) h
  have hn24 := split_of_limit 24 (by decide) h
  have hn12 := split_of_limit 12 (by decide) h
  unfold balanced
  cases u with
  | day => exact absurd rfl hu.1
  | week => exact absurd rfl hu.2
  | second => simp only [ofAmount, hn60, bind, Except.bind]
  | minute => simp only [ofAmount, h60, hn60, Int.add_zero, bind, Except.bind]
  | hour => simp only [ofAmount, h60, hn24, Int.add_zero, bind, Except.bind]
  | month => simp only [ofAmount, h60, h24, hn12, Int.add_zero, bind, Except.bind]

end Parts

namespace WallTime

theorem isShown (w : WallTime) : Timeline.IsShown w.micros :=
  ⟨w.micros_nonneg, w.micros_lt⟩

theorem eq_of_micros {v w : WallTime} (h : v.micros = w.micros) : v = w := by
  cases v
  cases w
  simpa using h

theorem place_of_isShown {f : RangeFault} {t : Int} (h : Timeline.IsShown t) :
    place f t = .ok ⟨t, h.1, h.2⟩ := by
  unfold Timeline.IsShown at h
  rw [place, ofMicros?, dif_pos h]

theorem place_of_not_isShown {f : RangeFault} {t : Int} (h : ¬ Timeline.IsShown t) :
    place f t = .error f := by
  unfold Timeline.IsShown at h
  rw [place, ofMicros?, dif_neg h]

@[simp] theorem place_micros (f : RangeFault) (w : WallTime) : place f w.micros = .ok w :=
  place_of_isShown w.isShown

theorem place_eq_ok {f : RangeFault} {t : Int} {w : WallTime} :
    place f t = .ok w ↔ w.micros = t := by
  constructor
  · intro h
    by_cases ht : Timeline.IsShown t
    · rw [place_of_isShown ht] at h
      rw [← Except.ok.inj h]
    · rw [place_of_not_isShown ht] at h
      simp at h
  · rintro rfl
    exact place_micros f w

theorem place_congr {f g : RangeFault} {t : Int} (h : ¬ Timeline.IsShown t → f = g) :
    place f t = place g t := by
  by_cases ht : Timeline.IsShown t
  · rw [place_of_isShown ht, place_of_isShown ht]
  · rw [h ht]

/-- Months and years move a date on by that many months altogether. -/
theorem inMonth_eq_place {years months : Int} (h : months.natAbs < 12) (w : WallTime) :
    w.inMonth years months =
      place (.ofYear ((Timeline.monthIndex w.date + (12 * years + months)) / 12 + 1))
        (Timeline.shiftMonths (12 * years + months) w.micros) := by
  have hv : w.date.IsValid := Timeline.dateOf_isValid w.micros
  have hcarried := Timeline.carried_eq hv years h
  have hmonth : ((Timeline.monthIndex w.date + (12 * years + months)) % 12 + 1).toNat =
      ((Timeline.monthIndex w.date + (12 * years + months)) % 12).toNat + 1 := by omega
  have hshown := Timeline.isShown_shiftMonths (12 * years + months) w.micros
  unfold inMonth
  simp only [hcarried, hmonth]
  split
  · rename_i hy
    exact place_congr fun hn => absurd (hshown.mpr hy) hn
  · rename_i hy
    exact (place_of_not_isShown fun hs => hy (hshown.mp hs)).symm

@[simp] theorem inMonth_zero (w : WallTime) : w.inMonth 0 0 = .ok w := by
  rw [inMonth_eq_place (by decide), Int.mul_zero, Int.add_zero, Timeline.shiftMonths_zero,
    place_micros]

/-- A distance that cannot be kept leads out of the range from everywhere. -/
theorem movedBy_eq_place (d : Int) (w : WallTime) :
    w.movedBy d = place (.ofDays (Timeline.dayNumber d)) (w.micros + d) := by
  have hw := w.isShown
  unfold movedBy
  simp only
  split
  · rename_i hf
    rw [hf]
  · rename_i hf
    refine (place_of_not_isShown ?_).symm
    intro hs
    apply hf
    rw [Timeline.IsShown, Timeline.limit_eq] at hs hw
    -- from one moment in range to another it is never far
    have hd : -3652060 ≤ Timeline.dayNumber d ∧ Timeline.dayNumber d ≤ 3652060 := by
      rw [Timeline.dayNumber, Timeline.day_eq]
      omega
    unfold RangeFault.ofDays RangeFault.wordLimit
    rw [if_neg (by omega), if_neg (by omega)]

theorem movedByParts_of_months_zero {p : Parts} (hb : p.IsBalanced)
    (h : 12 * p.years + p.months = 0) (w : WallTime) :
    w.movedByParts p =
      place (.ofDays (Timeline.dayNumber p.duration)) (w.micros + p.duration) := by
  have hm := hb.months
  have hyears : p.years = 0 := by omega
  have hmonths : p.months = 0 := by omega
  rw [movedByParts, hyears, hmonths, inMonth_zero, ← movedBy_eq_place]
  rfl

theorem movedByParts_of_duration_zero {p : Parts} (h : p.duration = 0) (w : WallTime) :
    w.movedByParts p = w.inMonth p.years p.months := by
  have hmoved (v : WallTime) : v.movedBy 0 = .ok v := by
    rw [movedBy_eq_place, Int.add_zero, place_micros]
  rw [movedByParts, h]
  cases w.inMonth p.years p.months with
  | error f => rfl
  | ok v => exact hmoved v

theorem shift_eq_add_duration {u : TimeUnit} (hu : u ≠ .month) (n t : Int) :
    Timeline.shift u n t = t + (Parts.ofAmount u n).duration := by
  cases u with
  | month => exact absurd rfl hu
  | week =>
    simp [Timeline.shift, Parts.duration, Parts.ofAmount, Timeline.week_eq, Timeline.day_eq]
    omega
  | _ => simp [Timeline.shift, Parts.duration, Parts.ofAmount]

theorem ofShift_eq_ofDays {u : TimeUnit} {n : Int} (hu : u ≠ .month)
    (hn : Parts.IsSplit u → n.natAbs < RangeFault.doubleLimit) (t : Int) :
    RangeFault.ofShift u n t = .ofDays (Timeline.dayNumber (Parts.ofAmount u n).duration) := by
  have hsplit (hs : Parts.IsSplit u) (f : RangeFault) : RangeFault.ofParts n f = f := by
    rw [RangeFault.ofParts, if_neg (Nat.not_le.mpr (hn hs))]
  cases u with
  | month => exact absurd rfl hu
  | day =>
    have hd : Timeline.dayNumber (n * Timeline.day) = n := Int.mul_ediv_cancel n (by decide)
    simp [RangeFault.ofShift, Parts.duration, Parts.ofAmount, hd]
  | week =>
    have hd : Timeline.dayNumber (7 * n * Timeline.day) = 7 * n :=
      Int.mul_ediv_cancel (7 * n) (by decide)
    simp [RangeFault.ofShift, Parts.duration, Parts.ofAmount, hd]
  | second =>
    rw [RangeFault.ofShift, hsplit ⟨by decide, by decide⟩]
    simp [Parts.duration, Parts.ofAmount, Timeline.dayNumber]
  | minute =>
    rw [RangeFault.ofShift, hsplit ⟨by decide, by decide⟩]
    simp [Parts.duration, Parts.ofAmount, Timeline.dayNumber]
  | hour =>
    rw [RangeFault.ofShift, hsplit ⟨by decide, by decide⟩]
    simp [Parts.duration, Parts.ofAmount, Timeline.dayNumber]

/-- Balanced parts of an amount move a wall time as the amount does. -/
theorem movedByParts_eq_place {u : TimeUnit} {n : Int} {p : Parts} (hb : p.IsBalanced)
    (hd : p.duration = (Parts.ofAmount u n).duration)
    (hm : 12 * p.years + p.months = (Parts.ofAmount u n).months)
    (hn : Parts.IsSplit u → n.natAbs < RangeFault.doubleLimit) (w : WallTime) :
    w.movedByParts p = place (.ofShift u n w.micros) (Timeline.shift u n w.micros) := by
  by_cases hu : u = .month
  · -- months are counted by the calendar, and no distance of fixed length is left
    subst hu
    have hzero : p.duration = 0 := by
      rw [hd]
      simp [Parts.ofAmount, Parts.duration]
    have hmonths : 12 * p.years + p.months = n := hm
    have hnl := Nat.not_le.mpr (hn ⟨by decide, by decide⟩)
    rw [movedByParts_of_duration_zero hzero, inMonth_eq_place hb.months, hmonths,
      RangeFault.ofShift, RangeFault.ofParts, if_neg hnl]
    rfl
  · -- no months to count, so the calendar leaves the date alone
    have hzero : 12 * p.years + p.months = 0 := by
      rw [hm]
      cases u <;> simp [Parts.ofAmount] at hu ⊢
    rw [movedByParts_of_months_zero hb hzero, hd, ofShift_eq_ofDays hu hn,
      shift_eq_add_duration hu]

theorem not_isShown_of_doubleLimit {u : TimeUnit} {n : Int} (hu : Parts.IsSplit u)
    (h : RangeFault.doubleLimit ≤ n.natAbs) (w : WallTime) :
    ¬ Timeline.IsShown (Timeline.shift u n w.micros) := by
  have hl := Parts.doubleLimit_large
  have hw := w.isShown
  cases u with
  | day => exact absurd rfl hu.1
  | week => exact absurd rfl hu.2
  | month =>
    rw [Timeline.isShown_iff_year] at hw
    have hv := Timeline.dateOf_isValid w.micros
    obtain ⟨hm1, hm2, _⟩ := hv
    rw [Timeline.shift, Timeline.isShown_shiftMonths, Timeline.monthIndex]
    omega
  | _ => grind [Timeline.shift]

theorem place_ofShift_of_doubleLimit {u : TimeUnit} {n : Int} (hu : Parts.IsSplit u)
    (h : RangeFault.doubleLimit ≤ n.natAbs) (w : WallTime) :
    place (.ofShift u n w.micros) (Timeline.shift u n w.micros) = .error .amountTooLarge := by
  have hparts (f : RangeFault) : RangeFault.ofParts n f = .amountTooLarge := by
    rw [RangeFault.ofParts, if_pos h]
  rw [place_of_not_isShown (not_isShown_of_doubleLimit hu h w)]
  cases u with
  | day => exact absurd rfl hu.1
  | week => exact absurd rfl hu.2
  | _ => rw [RangeFault.ofShift, hparts]

/-- Moving a wall time moves the moment it shows, if a clock can follow. -/
theorem shift_eq_place (u : TimeUnit) (n : Int) (w : WallTime) :
    w.shift u n = place (.ofShift u n w.micros) (Timeline.shift u n w.micros) := by
  by_cases hn : Parts.IsSplit u → n.natAbs < RangeFault.doubleLimit
  · obtain ⟨q, hq⟩ := Parts.exists_balanced_ofAmount hn
    obtain ⟨hb, hd, hm⟩ := Parts.balanced_facts hq
    rw [Parts.years_ofAmount, Int.mul_zero, Int.zero_add] at hm
    rw [shift, hq]
    exact movedByParts_eq_place hb hd hm hn w
  · -- the amount is refused before it is split, and it leads out of the range anyway
    obtain ⟨hu, hl⟩ := Classical.not_imp.mp hn
    have hl := Nat.not_lt.mp hl
    rw [place_ofShift_of_doubleLimit hu hl, shift, Parts.balanced_ofAmount_error hu hl]
    rfl

/-- Moving back is moving on by the opposite amount, with the same reason if that fails. -/
theorem shiftBack_eq_shift (u : TimeUnit) (n : Int) (w : WallTime) :
    w.shiftBack u n = w.shift u (-n) := by
  have habs : (-n).natAbs = n.natAbs := Int.natAbs_neg n
  rw [shift_eq_place]
  by_cases hn : Parts.IsSplit u → n.natAbs < RangeFault.doubleLimit
  · obtain ⟨q, hq⟩ := Parts.exists_balanced_ofAmount hn
    obtain ⟨hb, hd, hm⟩ := Parts.balanced_facts hq
    -- balanced parts stay balanced when they are turned round
    have hback := Parts.balanced_of_isBalanced hb.neg
    have hdn : q.neg.duration = (Parts.ofAmount u (-n)).duration := by
      rw [Parts.ofAmount_neg, Parts.duration_neg, Parts.duration_neg, hd]
    have hmn : 12 * q.neg.years + q.neg.months = (Parts.ofAmount u (-n)).months := by
      rw [Parts.years_ofAmount] at hm
      rw [Parts.ofAmount_neg]
      simp only [Parts.neg]
      omega
    rw [shiftBack, hq]
    simp only [bind, Except.bind, hback]
    exact movedByParts_eq_place hb.neg hdn hmn (fun hu => by rw [habs]; exact hn hu) w
  · obtain ⟨hu, hl⟩ := Classical.not_imp.mp hn
    have hl := Nat.not_lt.mp hl
    rw [place_ofShift_of_doubleLimit hu (by rw [habs]; exact hl), shiftBack,
      Parts.balanced_ofAmount_error hu hl]
    rfl

end WallTime

namespace Stamp

variable {s v : Stamp} {f : RangeFault} {t : Int}

theorem eq_of_fields (hw : s.wall = v.wall) (hz : s.zone = v.zone)
    (hr : s.repeated = v.repeated) : s = v := by
  cases s
  cases v
  simp_all

/-- To find a stamp at a moment is to find the first showing of that wall time in the zone. -/
theorem moved_place_eq_ok :
    s.moved <$> WallTime.place f t = .ok v ↔
      v.wall.micros = t ∧ v.zone = s.zone ∧ v.repeated = false := by
  constructor
  · intro h
    cases hw : WallTime.place f t with
    | error g =>
      rw [hw] at h
      cases h
    | ok w =>
      rw [hw] at h
      obtain rfl : s.moved w = v := Except.ok.inj h
      exact ⟨WallTime.place_eq_ok.mp hw, rfl, rfl⟩
  · rintro ⟨ht, hz, hr⟩
    have hv : s.moved v.wall = v := eq_of_fields rfl hz.symm hr.symm
    rw [WallTime.place_eq_ok.mpr ht]
    exact congrArg Except.ok hv

theorem moved_place_ok_iff :
    (∃ v, s.moved <$> WallTime.place f t = .ok v) ↔ Timeline.IsShown t := by
  constructor
  · rintro ⟨v, hv⟩
    rw [← (moved_place_eq_ok.mp hv).1]
    exact v.wall.isShown
  · intro ht
    rw [WallTime.place_of_isShown ht]
    exact ⟨_, rfl⟩

end Stamp

end RelativeTime
