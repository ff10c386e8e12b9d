import Mathlib.Algebra.Group.Nat.Defs
import RelativeTime.Iso.Printer
import RelativeTime.Proofs.FrontEnds
import RelativeTime.Proofs.Moving

/-!
Printed stamps read back. Each part of a printed stamp has a fixed width, so the reader cuts the
text where the printer joined it: the date at its length, the time at the mark of the offset, the
fraction at its six digits. What a run prints is therefore a reference for the next run, of the same
wall time and the same offset; a stamp without an offset comes back in the time zone that is set.
-/
namespace RelativeTime

namespace Iso

section Digits

variable {width n : Nat}

theorem toList_padded (width n : Nat) :
    (padded width n).toList =
      List.replicate (width - (Nat.toDigits 10 n).length) '0' ++ Nat.toDigits 10 n :=
  String.toList_ofList

theorem length_padded (hw : 0 < width) (h : n < 10 ^ width) :
    (padded width n).toList.length = width := by
  have hlen : (Nat.toDigits 10 n).length ≤ width :=
    (Nat.length_toDigits_le_iff (by decide) hw).mpr h
  rw [toList_padded, List.length_append, List.length_replicate]
  omega

theorem isDigit_of_mem_padded {c : Char} (h : c ∈ (padded width n).toList) : c.isDigit = true := by
  rw [toList_padded, List.mem_append, List.mem_replicate] at h
  rcases h with ⟨_, rfl⟩ | h
  · decide
  · exact Nat.isDigit_of_mem_toDigits (by decide) (by decide) h

theorem ofDigitChars_padded (width n : Nat) :
    Nat.ofDigitChars 10 (padded width n).toList 0 = n := by
  rw [toList_padded, Nat.ofDigitChars_append, Nat.ofDigitChars_replicate_zero, Nat.mul_zero,
    Nat.ofDigitChars_ten_toDigits]

/-- Digits padded to a width read as their number, whatever stands behind them. -/
theorem readDigits_padded (hw : 0 < width) (h : n < 10 ^ width) (rest : List Char) :
    readDigits width ((padded width n).toList ++ rest) = some (n, rest) := by
  have hlen := length_padded hw h
  have htake : ((padded width n).toList ++ rest).take width = (padded width n).toList :=
    List.take_left' hlen
  have hdrop : ((padded width n).toList ++ rest).drop width = rest := List.drop_left' hlen
  have hall : (padded width n).toList.all Char.isDigit = true :=
    List.all_eq_true.mpr fun c hc => isDigit_of_mem_padded hc
  simp only [readDigits, htake, hdrop, hlen, hall, and_self, if_true, ofDigitChars_padded]

/-- Two digits, the first of which does not begin a week. -/
theorem padded_two (h : n < 10 ^ 2) :
    ∃ a b : Char, (padded 2 n).toList = [a, b] ∧ a ≠ 'W' := by
  have hlen : (padded 2 n).toList.length = 2 := length_padded (by decide) h
  obtain ⟨a, b, hab⟩ := List.length_eq_two.mp hlen
  have ha : a.isDigit = true := by
    apply isDigit_of_mem_padded
    rw [hab]
    exact List.mem_cons_self
  refine ⟨a, b, hab, ?_⟩
  rintro rfl
  exact absurd ha (by decide)

end Digits

section Dates

variable {c : CivilDate}

theorem toList_date (c : CivilDate) :
    (date c).toList = (padded 4 c.year.toNat).toList ++
      '-' :: ((padded 2 c.month).toList ++ '-' :: (padded 2 c.day).toList) := by
  simp [date, List.append_assoc]

/-- The years that take four digits. -/
theorem bounds_of_isValid (h : c.IsValid) (hy : 1 ≤ c.year ∧ c.year ≤ 9999) :
    c.year.toNat < 10 ^ 4 ∧ c.month < 10 ^ 2 ∧ c.day < 10 ^ 2 := by
  obtain ⟨hm1, hm2, hd1, hd2⟩ := h
  have hlen := Timeline.monthLength_bounds c.year hm1 hm2
  omega

theorem dateLength?_date (h : c.IsValid) (hy : 1 ≤ c.year ∧ c.year ≤ 9999) (rest : List Char) :
    dateLength? ((date c).toList ++ rest) = some 10 := by
  obtain ⟨hyear, hmonth, hday⟩ := bounds_of_isValid h hy
  have hlen : (padded 4 c.year.toNat).toList.length = 4 := length_padded (by decide) hyear
  have hdlen : (padded 2 c.day).toList.length = 2 := length_padded (by decide) hday
  obtain ⟨a, b, hab, hW⟩ := padded_two hmonth
  rw [toList_date, hab]
  simp [dateLength?, List.getElem?_append, hlen, hdlen, hW]
  omega

theorem readDate_date (h : c.IsValid) (hy : 1 ≤ c.year ∧ c.year ≤ 9999) :
    readDate (date c).toList = some c.toDay := by
  obtain ⟨hyear, hmonth, hday⟩ := bounds_of_isValid h hy
  obtain ⟨a, b, hab, hW⟩ := padded_two hmonth
  have hm := readDigits_padded (by decide) hmonth ('-' :: (padded 2 c.day).toList)
  have hd := readDigits_padded (by decide) hday []
  rw [List.append_nil] at hd
  rw [hab] at hm
  rw [toList_date, hab]
  simp only [readDate, readDigits_padded (by decide) hyear, Option.bind_eq_bind, Option.bind_some,
    List.head?_cons, if_true, readChar]
  split
  -- a date whose month began with the mark of a week
  · rename_i heq
    exact absurd (List.cons.inj heq).1 hW
  · have hyear' : (c.year.toNat : Int) = c.year := Int.toNat_of_nonneg (by omega)
    simp only [hm, hd, hyear', Option.bind_some, if_true, List.isEmpty_nil, true_and]
    exact if_pos h

end Dates

section Clocks

theorem toList_clock (t : Nat) :
    (clock t).toList = (padded 2 (t / 1000000 / 3600)).toList ++
      ':' :: ((padded 2 (t / 1000000 / 60 % 60)).toList ++
        ':' :: (padded 2 (t / 1000000 % 60)).toList) := by
  simp [clock, List.append_assoc]

end Clocks

namespace ClockFields

/-- The parts that a time of day is written with. -/
def ofTime (t : Nat) : ClockFields :=
  ⟨t / 1000000 / 3600, t / 1000000 / 60 % 60, t / 1000000 % 60, t % 1000000, false⟩

/-- Within a day each part takes two digits. -/
theorem parts_lt {t : Nat} (h : t < 86400000000) :
    t / 1000000 / 3600 < 10 ^ 2 ∧ t / 1000000 / 60 % 60 < 10 ^ 2 ∧ t / 1000000 % 60 < 10 ^ 2 := by
  omega

theorem seconds_ofTime (t : Nat) : (ofTime t).seconds = t / 1000000 := by
  simp only [seconds, ofTime]
  omega

theorem timeOfDay?_ofTime {t : Nat} (h : t < 86400000000) :
    (ofTime t).timeOfDay? = some (t : Int) := by
  have hseconds := seconds_ofTime t
  rw [timeOfDay?, hseconds, if_pos (by simp only [ofTime]; omega)]
  simp only [ofTime, Option.some.injEq]
  omega

section Reading

variable {fields : ClockFields} {next : ClockFields → List Char → Option ClockFields}
  {h m s n : Nat} {cs : List Char}

theorem readAfter_colon (hne : cs ≠ []) :
    readAfter fields true next (':' :: cs) = next fields cs := by
  obtain ⟨c, cs, rfl⟩ := List.exists_cons_of_ne_nil hne
  simp [readAfter]

theorem readAfter_fraction (hn : n < 10 ^ 6) :
    readAfter fields true next ('.' :: (padded 6 n).toList) =
      some { fields with micros := n, leftover := false } := by
  have hlen : (padded 6 n).toList.length = 6 := length_padded (by decide) hn
  have hread := readDigits_padded (by decide) hn []
  rw [List.append_nil] at hread
  obtain ⟨c, cs, hcs⟩ := List.exists_cons_of_length_eq_add_one hlen
  rw [hcs] at hread hlen ⊢
  simp [readAfter, readFraction, hlen, hread]

theorem padded_two_ne_nil (hn : n < 10 ^ 2) (cs : List Char) : (padded 2 n).toList ++ cs ≠ [] := by
  obtain ⟨a, b, hab, _⟩ := padded_two hn
  simp [hab]

theorem read_hour_minute (hh : h < 10 ^ 2) (hm : m < 10 ^ 2) (cs : List Char) :
    read ((padded 2 h).toList ++ ':' :: ((padded 2 m).toList ++ cs)) =
      readAfter ⟨h, m, 0, 0, false⟩ true (readSecond true) cs := by
  simp only [read, readDigits_padded (by decide) hh, Option.bind_eq_bind, Option.bind_some,
    List.head?_cons, decide_true]
  rw [readAfter_colon (padded_two_ne_nil hm cs), readMinute]
  simp only [readDigits_padded (by decide) hm, Option.bind_eq_bind, Option.bind_some]

theorem readAfter_second (hs : s < 10 ^ 2) (cs : List Char) :
    readAfter fields true (readSecond true) (':' :: ((padded 2 s).toList ++ cs)) =
      readAfter { fields with second := s } true readFraction cs := by
  rw [readAfter_colon (padded_two_ne_nil hs cs), readSecond]
  simp only [readDigits_padded (by decide) hs, Option.bind_eq_bind, Option.bind_some]

theorem read_clock {t : Nat} (h : t < 86400000000) :
    read ((clock t).toList ++ (fraction t).toList) = some (ofTime t) := by
  obtain ⟨hh, hm, hs⟩ := parts_lt h
  rw [toList_clock, List.append_assoc, List.cons_append, List.append_assoc, List.cons_append,
    read_hour_minute hh hm, readAfter_second hs, fraction]
  split
  -- whole seconds are printed without a fraction, and a missing one reads as zero
  case isTrue hwhole =>
    rw [String.toList_empty, readAfter, ofTime, hwhole]
  case isFalse hwhole =>
    have hn : t % 1000000 < 10 ^ 6 := Nat.mod_lt _ (by decide)
    rw [String.toList_append]
    exact readAfter_fraction hn

end Reading

end ClockFields

section Offsets

/-- The size of an offset as it is printed. -/
def offsetSize (t : Nat) : List Char :=
  (padded 2 (t / 1000000 / 3600)).toList ++
    ':' :: ((padded 2 (t / 1000000 / 60 % 60)).toList ++
      if t % 60000000 = 0 then []
      else ':' :: ((padded 2 (t / 1000000 % 60)).toList ++ (fraction t).toList))

theorem toList_offset (micros : Int) :
    (offset micros).toList =
      (if micros < 0 then '-' else '+') :: offsetSize micros.natAbs := by
  unfold offset offsetSize
  split <;> simp only [String.toList_append] <;> split <;> simp [List.append_assoc]

theorem read_offsetSize {t : Nat} (h : t < 86400000000) (hwhole : t % 1000000 = 0) :
    ClockFields.read (offsetSize t) = some (ClockFields.ofTime t) := by
  obtain ⟨hh, hm, hs⟩ := ClockFields.parts_lt h
  rw [offsetSize, ClockFields.read_hour_minute hh hm]
  split
  case isTrue hminute =>
    have hzero : t / 1000000 % 60 = 0 := by omega
    rw [ClockFields.readAfter, ClockFields.ofTime, hzero, hwhole]
  case isFalse hminute =>
    rw [ClockFields.readAfter_second hs, fraction, if_pos hwhole, String.toList_empty,
      ClockFields.readAfter, ClockFields.ofTime, hwhole]

/-- An offset of whole seconds reads back from behind its sign. -/
theorem readOffset_offsetSize {o : Offset} (h : o.micros % Timeline.second = 0) :
    readOffset (o.micros < 0) (offsetSize o.micros.natAbs) = some o := by
  have hwhole : o.micros.natAbs % 1000000 = 0 := by
    rw [Timeline.second] at h
    omega
  have hsize : o.micros.natAbs < 86400000000 := by
    have h1 := o.lower
    have h2 := o.upper
    rw [Timeline.day_eq] at h1 h2
    omega
  have hread := read_offsetSize hsize hwhole
  have hseconds := ClockFields.seconds_ofTime o.micros.natAbs
  have hoffset : Offset.ofMicros? o.micros = some o := dif_pos ⟨o.lower, o.upper⟩
  simp only [readOffset, hread, Option.bind_eq_bind, Option.bind_some, hseconds]
  have hleftover : (ClockFields.ofTime o.micros.natAbs).leftover = false := rfl
  simp only [hleftover, Bool.false_eq_true, if_false]
  split
  -- an offset of no seconds reads as universal time whatever its sign
  case isTrue hzero =>
    have hmicros : o.micros = 0 := by omega
    rw [hmicros] at hoffset
    exact hoffset
  case isFalse hzero =>
    have hparts : ((o.micros.natAbs / 1000000 : Nat) : Int) * 1000000 +
        (ClockFields.ofTime o.micros.natAbs).micros = o.micros.natAbs := by
      simp only [ClockFields.ofTime]
      omega
    have hsign : (if decide (o.micros < 0) = true then -(o.micros.natAbs : Int)
        else o.micros.natAbs) = o.micros := by
      simp only [decide_eq_true_eq]
      split <;> omega
    rw [hparts, hsign, hoffset]

end Offsets

section Times

theorem isZoneMark_of_isDigit {c : Char} (h : c.isDigit = true) : isZoneMark c = false := by
  apply Bool.eq_false_iff.mpr
  intro hmark
  simp only [isZoneMark, Bool.or_eq_true, decide_eq_true_eq] at hmark
  rcases hmark with (rfl | rfl) | rfl <;> exact absurd h (by decide)

theorem isZoneMark_of_mem_fraction {t : Nat} {c : Char} (h : c ∈ (fraction t).toList) :
    isZoneMark c = false := by
  unfold fraction at h
  split at h
  · simp at h
  · rw [String.toList_append, List.mem_append] at h
    rcases h with h | h
    · rw [List.mem_singleton.mp h]
      decide
    · exact isZoneMark_of_isDigit (isDigit_of_mem_padded h)

theorem isZoneMark_of_mem_clock {t : Nat} {c : Char} (h : c ∈ (clock t).toList) :
    isZoneMark c = false := by
  simp only [toList_clock, List.mem_append, List.mem_cons] at h
  rcases h with h | rfl | h | rfl | h
  · exact isZoneMark_of_isDigit (isDigit_of_mem_padded h)
  · decide
  · exact isZoneMark_of_isDigit (isDigit_of_mem_padded h)
  · decide
  · exact isZoneMark_of_isDigit (isDigit_of_mem_padded h)

/-- What stands before the offset is the time. -/
theorem takeWhile_time (t : Nat) (cs : List Char) (h : ∀ c ∈ cs.head?, isZoneMark c = true) :
    let time := (clock t).toList ++ (fraction t).toList
    (time ++ cs).takeWhile (!isZoneMark ·) = time ∧
      (time ++ cs).dropWhile (!isZoneMark ·) = cs := by
  intro time
  have htime : ∀ c ∈ time, (!isZoneMark c) = true := by
    intro c hc
    have hmark : isZoneMark c = false := by
      rcases List.mem_append.mp hc with hc | hc
      · exact isZoneMark_of_mem_clock hc
      · exact isZoneMark_of_mem_fraction hc
    simp [hmark]
  rw [List.takeWhile_append_of_pos htime, List.dropWhile_append_of_pos htime]
  cases cs with
  | nil => simp
  | cons c cs =>
    have hc : isZoneMark c = true := h c rfl
    simp [hc]

theorem readTime_clock {t : Nat} (h : t < 86400000000) :
    readTime ((clock t).toList ++ (fraction t).toList) = some ((t : Int), none) := by
  obtain ⟨htake, hdrop⟩ := takeWhile_time t [] (by simp)
  rw [List.append_nil] at htake hdrop
  have hleftover : (ClockFields.ofTime t).leftover = false := rfl
  simp only [readTime, htake, hdrop, ClockFields.read_clock h, ClockFields.timeOfDay?_ofTime h,
    Option.bind_eq_bind, Option.bind_some, hleftover, Bool.false_eq_true, if_false]

theorem readTime_clock_sign {t : Nat} (h : t < 86400000000) {c : Char} (hc : c = '+' ∨ c = '-')
    (cs : List Char) :
    readTime ((clock t).toList ++ (fraction t).toList ++ c :: cs) =
      (readOffset (c = '-') cs).map fun o => ((t : Int), some o) := by
  have hmark : ∀ d ∈ (c :: cs).head?, isZoneMark d = true := by
    intro d hd
    rw [← Option.some.inj hd]
    rcases hc with rfl | rfl <;> decide
  obtain ⟨htake, hdrop⟩ := takeWhile_time t (c :: cs) hmark
  simp only [readTime, htake, hdrop, ClockFields.read_clock h, ClockFields.timeOfDay?_ofTime h,
    Option.bind_eq_bind, Option.bind_some]
  rw [Option.map_eq_bind]
  rcases hc with rfl | rfl <;> rfl

theorem readTime_clock_offset {t : Nat} (h : t < 86400000000) {o : Offset}
    (ho : o.micros % Timeline.second = 0) :
    readTime ((clock t).toList ++ (fraction t).toList ++ (offset o.micros).toList) =
      some ((t : Int), some o) := by
  have hread := readOffset_offsetSize ho
  rw [toList_offset]
  by_cases hn : o.micros < 0
  · rw [if_pos hn, readTime_clock_sign h (Or.inr rfl)]
    simp only [hn, decide_true] at hread
    simp [hread]
  · rw [if_neg hn, readTime_clock_sign h (Or.inl rfl)]
    simp only [hn, decide_false] at hread
    simp [hread]

end Times

section Texts

variable {c : CivilDate}

theorem length_date (h : c.IsValid) (hy : 1 ≤ c.year ∧ c.year ≤ 9999) :
    (date c).toList.length = 10 := by
  obtain ⟨hyear, hmonth, hday⟩ := bounds_of_isValid h hy
  rw [toList_date, List.length_append, List.length_cons, List.length_append, List.length_cons,
    length_padded (by decide) hyear, length_padded (by decide) hmonth,
    length_padded (by decide) hday]

/-- A printed date and what is read as a time behind it. -/
theorem read_date (h : c.IsValid) (hy : 1 ≤ c.year ∧ c.year ≤ 9999) {cs : List Char} {t : Int}
    {o : Option Offset} (ht : readTime cs = some (t, o)) :
    read ((date c).toList ++ 'T' :: cs) =
      (WallTime.ofMicros? (c.toDay * Timeline.day + t)).map (·, o) := by
  have hlen := length_date h hy
  have htake : ((date c).toList ++ 'T' :: cs).take 10 = (date c).toList := List.take_left' hlen
  have hdrop : ((date c).toList ++ 'T' :: cs).drop 10 = 'T' :: cs := List.drop_left' hlen
  simp only [read, dateLength?_date h hy, htake, hdrop, readDate_date h hy, ht,
    Option.bind_eq_bind, Option.bind_some]
  cases WallTime.ofMicros? (c.toDay * Timeline.day + t) <;> rfl

end Texts

end Iso

namespace WallTime

theorem wholeSecond_bounds (w : WallTime) :
    0 ≤ w.micros - w.micros % Timeline.second ∧
      w.micros - w.micros % Timeline.second < Timeline.limit := by
  have h1 := w.micros_nonneg
  have h2 := w.micros_lt
  rw [Timeline.second]
  omega

/-- The wall time with its microseconds set to zero. -/
def toSecond (w : WallTime) : WallTime :=
  ⟨w.micros - w.micros % Timeline.second, w.wholeSecond_bounds.1, w.wholeSecond_bounds.2⟩

theorem date_isValid (w : WallTime) :
    w.date.IsValid ∧ 1 ≤ w.date.year ∧ w.date.year ≤ 9999 :=
  ⟨Timeline.dateOf_isValid w.micros, (Timeline.isShown_iff_year w.micros).mp w.isShown⟩

theorem ofMicros?_micros (w : WallTime) : ofMicros? w.micros = some w :=
  dif_pos ⟨w.micros_nonneg, w.micros_lt⟩

/-- The time of day in whole microseconds, behind the midnight of the date. -/
theorem exists_time (w : WallTime) :
    ∃ t : Nat, (Timeline.timeOfDay w.micros).toNat = t ∧ t < 86400000000 ∧
      w.date.toDay * Timeline.day + t = w.micros := by
  have hbounds := Timeline.timeOfDay_bounds w.micros
  have hwhole : w.date.toDay * Timeline.day + Timeline.timeOfDay w.micros = w.micros :=
    Timeline.ofDate_dateOf w.micros
  refine ⟨_, rfl, ?_, ?_⟩
  · rw [Timeline.day_eq] at hbounds
    omega
  · rw [Int.toNat_of_nonneg hbounds.1, hwhole]

theorem date_toSecond (w : WallTime) : w.toSecond.date = w.date := by
  have hday : Timeline.dayNumber w.toSecond.micros = Timeline.dayNumber w.micros := by
    simp only [toSecond, Timeline.dayNumber, Timeline.day_eq, Timeline.second]
    omega
  exact congrArg CivilDate.ofDay hday

theorem time_toSecond (w : WallTime) :
    (Timeline.timeOfDay w.toSecond.micros).toNat / 1000000 =
        (Timeline.timeOfDay w.micros).toNat / 1000000 ∧
      (Timeline.timeOfDay w.toSecond.micros).toNat % 1000000 = 0 := by
  have h := w.micros_nonneg
  simp only [toSecond, Timeline.timeOfDay, Timeline.day_eq, Timeline.second]
  omega

end WallTime

namespace Iso

section Stamps

variable {s : Stamp}

theorem toList_stamp (s : Stamp) :
    let t := (Timeline.timeOfDay s.wall.micros).toNat
    (stamp s).toList = (date s.wall.date).toList ++
      'T' :: ((clock t).toList ++ (fraction t).toList ++ (zone s).toList) := by
  intro t
  simp [stamp, t, List.append_assoc]

/-- To the second a stamp is printed as it is with its microseconds set to zero. -/
theorem toList_stampToSecond (s : Stamp) :
    let t := (Timeline.timeOfDay s.wall.toSecond.micros).toNat
    (stampToSecond s).toList = (date s.wall.toSecond.date).toList ++
      'T' :: ((clock t).toList ++ (fraction t).toList ++ (zone s).toList) := by
  intro t
  obtain ⟨hseconds, hwhole⟩ := s.wall.time_toSecond
  have hclock : clock t = clock (Timeline.timeOfDay s.wall.micros).toNat := by
    simp only [clock, t, hseconds]
  have hfraction : fraction t = "" := if_pos hwhole
  rw [hclock, hfraction, s.wall.date_toSecond]
  simp [stampToSecond, List.append_assoc]

/-- A stamp as a result is printed, to the microsecond or to the second. -/
def text (toSecond : Bool) (s : Stamp) : String :=
  if toSecond then stampToSecond s else stamp s

/-- The wall time of a stamp as far as it is printed. -/
def printedWall (toSecond : Bool) (s : Stamp) : WallTime :=
  if toSecond then s.wall.toSecond else s.wall

theorem toList_text (toSecond : Bool) (s : Stamp) :
    let w := printedWall toSecond s
    let t := (Timeline.timeOfDay w.micros).toNat
    (text toSecond s).toList = (date w.date).toList ++
      'T' :: ((clock t).toList ++ (fraction t).toList ++ (zone s).toList) := by
  cases toSecond with
  | false => exact toList_stamp s
  | true => exact toList_stampToSecond s

theorem read_text {toSecond : Bool} {o : Option Offset}
    (h : ∀ t : Nat, t < 86400000000 →
      readTime ((clock t).toList ++ (fraction t).toList ++ (zone s).toList) = some ((t : Int), o)) :
    read (text toSecond s).toList = some (printedWall toSecond s, o) := by
  obtain ⟨t, ht, hlt, hwhole⟩ := (printedWall toSecond s).exists_time
  obtain ⟨hvalid, hyears⟩ := (printedWall toSecond s).date_isValid
  have hread := h t hlt
  have htext := toList_text toSecond s
  simp only [ht] at htext
  rw [htext, read_date hvalid hyears hread, hwhole, WallTime.ofMicros?_micros, Option.map_some]

theorem readStamp?_text {o : Offset} (toSecond : Bool) (ho : s.offset? = some o.micros)
    (hwhole : o.micros % Timeline.second = 0) :
    readStamp? (text toSecond s) = some ⟨printedWall toSecond s, .fixed o, false⟩ := by
  have hzone : zone s = offset o.micros := by rw [zone, ho]
  have hread : read (text toSecond s).toList = some (printedWall toSecond s, some o) := by
    apply read_text
    intro t ht
    rw [hzone]
    exact readTime_clock_offset ht hwhole
  rw [readStamp?, hread]
  rfl

theorem readStamp?_text_floating (toSecond : Bool) (hs : s.zone = .floating) :
    readStamp? (text toSecond s) = some ⟨printedWall toSecond s, .floating, false⟩ := by
  have hzone : zone s = "" := by rw [zone, Stamp.offset?, hs]
  have hread : read (text toSecond s).toList = some (printedWall toSecond s, none) := by
    apply read_text
    intro t ht
    rw [hzone, String.toList_empty, List.append_nil]
    exact readTime_clock ht
  rw [readStamp?, hread]
  rfl

end Stamps

end Iso

namespace CommandLine

section Results

variable {s : Stamp} {q : ResolveRequest} {console : Console} {clock : Zone → Stamp}
  {store : SettingsStore} {c : Settings} {reference : Option Stamp}

theorem resolveFrom_of_resolve (console : Console)
    (h : (store.resolve (some q.expression) reference clock).1 = .ok s) :
    ∃ x, resolveFrom console q clock reference store = showResolved q x s := by
  unfold SettingsStore.resolve at h
  unfold resolveFrom
  generalize store.readExpression (some q.expression) reference = read at h ⊢
  obtain ⟨_ | x, t⟩ := read
  · exact absurd h nofun
  · have hv : (t.evaluate x none none clock).1 = .ok s := h
    exact ⟨x, by simp only [hv]⟩

theorem showResolved_line (x : Expression) (s : Stamp) (h : q.asJson = false) :
    showResolved q x s = succeed [Iso.text q.toSecond s] := by
  simp [showResolved, h, Iso.text]

/-- A run that is asked to resolve prints the value in one line. -/
theorem run_of_resolve (hs : store.Offers c) {args : List String} {level : Bool}
    (hargs : Request.ofArguments? args = some ⟨level, .resolve q⟩) (hjson : q.asJson = false)
    (href : q.reference.map c.reference? = reference.map some)
    (hv : (store.resolve (some q.expression) reference clock).1 = .ok s) :
    run console args clock store = succeed [Iso.text q.toSecond s] := by
  have hvalue : ∀ t : SettingsStore, t.Offers c →
      resolveFrom console q clock reference t = succeed [Iso.text q.toSecond s] := by
    intro t ht
    have hsame : (t.resolve (some q.expression) reference clock).1 = .ok s := by
      rw [← hv, SettingsStore.resolve_of_offers ht, SettingsStore.resolve_of_offers hs]
    obtain ⟨x, hx⟩ := resolveFrom_of_resolve console hsame
    rw [hx, showResolved_line x s hjson]
  obtain ⟨t, ht, hrun⟩ := run_of_offers console clock hs hargs
  rw [hrun, Task.perform]
  -- a reference that is given is read first, which may load the settings
  cases hq : q.reference with
  | none =>
    rw [hq, Option.map_none, eq_comm, Option.map_eq_none_iff] at href
    subst href
    rw [runResolve_of_none hq, hvalue t ht]
  | some value =>
    rw [hq, Option.map_some, eq_comm, Option.map_eq_some_iff] at href
    obtain ⟨r, rfl, hr⟩ := href
    rw [eq_comm] at hr
    obtain ⟨u, hu, hread⟩ := SettingsStore.readReference_of_offers ht hr
    rw [runResolve_of_some hq, hread]
    exact hvalue u hu

end Results

/-- What a run prints as the result of an expression reads as a reference of the same wall time, to
the microsecond or to the second, with the same offset; without an offset it is put in the time zone
of the settings. -/
theorem result_reads_back (s : Stamp) (toSecond : Bool) :
    let line := Iso.text toSecond s
    let wall := Iso.printedWall toSecond s
    (∀ o : Offset, s.offset? = some o.micros → o.micros % Timeline.second = 0 →
      ∀ store : SettingsStore, store.readReference line = (.ok ⟨wall, .fixed o, false⟩, store)) ∧
    (s.zone = .floating → ∀ (store : SettingsStore) (c : Settings), store.Offers c →
      store.readReference line =
        (.ok ⟨wall, c.timezone.zone, false⟩, { store with cached := some c })) ∧
    ∀ (console : Console) (clock : Zone → Stamp) (store : SettingsStore) (c : Settings)
        (args : List String) (level : Bool) (q : ResolveRequest) (reference : Option Stamp),
      store.Offers c →
      Request.ofArguments? args = some ⟨level, .resolve q⟩ → q.asJson = false →
      q.toSecond = toSecond → q.reference.map c.reference? = reference.map some →
      (store.resolve (some q.expression) reference clock).1 = .ok s →
        run console args clock store = succeed [line] := by
  intro line wall
  refine ⟨?_, ?_, ?_⟩
  · intro o ho hwhole store
    exact SettingsStore.readReference_of_zone (Iso.readStamp?_text toSecond ho hwhole) nofun
  · intro hs store c hc
    rw [SettingsStore.readReference_of_floating (Iso.readStamp?_text_floating toSecond hs) rfl,
      SettingsStore.withSettings_of_offers hc]
    rfl
  · rintro console clock store c args level q reference hs hargs hjson rfl href hv
    exact run_of_resolve hs hargs hjson href hv

/-- The first microsecond but one of the year 1, half an hour and some seconds behind universal
time, is printed, read and printed again, and so is its second without any offset. -/
theorem result_reads_back_first_microseconds :
    let o : Offset := ⟨-1815000000, by decide, by decide⟩
    let w : WallTime := ⟨1, by decide, by decide⟩
    let first : WallTime := ⟨0, by decide, by decide⟩
    let env := Environment.ofVars [] ClockHistory.ofName?
    let store := SettingsStore.ofEnvironment env
    let line := "0001-01-01T00:00:00.000001-00:30:15"
    Iso.text false ⟨w, .fixed o, false⟩ = line ∧
      store.readReference line = (.ok ⟨w, .fixed o, false⟩, store) ∧
      run (.ofColumns 80) ["resolve", "now", "--at", line] (fun _ => ⟨w, .floating, false⟩) store =
        succeed [line] ∧
      store.Offers Settings.default ∧ Iso.text true ⟨w, .floating, false⟩ = "0001-01-01T00:00:00" ∧
      store.readReference "0001-01-01T00:00:00" =
        (.ok ⟨first, .fixed .zero, false⟩, ⟨env, some Settings.default⟩) := by
  intro o w first env store line
  have hline : Iso.text false ⟨w, .fixed o, false⟩ = line := by decide +kernel
  have hfloating : Iso.text true ⟨w, .floating, false⟩ = "0001-01-01T00:00:00" := by decide +kernel
  have hs : store.Offers Settings.default :=
    SettingsStore.offers_ofEnvironment (by decide +kernel)
  obtain ⟨hread, -, hrun⟩ := result_reads_back ⟨w, .fixed o, false⟩ false
  obtain ⟨-, hnaive, -⟩ := result_reads_back ⟨w, .floating, false⟩ true
  rw [hline] at hread hrun
  rw [hfloating] at hnaive
  refine ⟨hline, hread o rfl (by decide) store, ?_, hs, hfloating, hnaive rfl store _ hs⟩
  have hargs : Request.ofArguments? ["resolve", "now", "--at", line] =
      some ⟨true, .resolve ⟨"now", some line, false, false⟩⟩ := by decide +kernel
  have href : Settings.default.reference? line = some ⟨w, .fixed o, false⟩ := by decide +kernel
  exact hrun _ _ store _ _ _ _ (some ⟨w, .fixed o, false⟩) hs hargs rfl rfl
    (congrArg some href) (by decide +kernel)

end CommandLine

end RelativeTime
