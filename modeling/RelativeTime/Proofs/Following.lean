import RelativeTime.Evaluation.Exact
import RelativeTime.Proofs.Snapping

/-!
A clock follows evaluation without bounds as long as it can show every moment that is passed
through, and gives up at the first one that it cannot show. The zone of a stamp stays what it was,
so comparing weeks is comparing wall times.
-/
namespace RelativeTime

/-- A result agrees with a passage through some moments: there is one, of which `P` holds, if a
clock can show all of them, and none otherwise. -/
inductive Follows {α : Type} (ts : List Int) (P : α → Prop) : Except RangeFault α → Prop
  | shown {a : α} (all : ∀ t ∈ ts, Timeline.IsShown t) (holds : P a) : Follows ts P (.ok a)
  | lost {f : RangeFault} (out : ¬ ∀ t ∈ ts, Timeline.IsShown t) : Follows ts P (.error f)

namespace Follows

variable {α β : Type} {ts us : List Int} {P : α → Prop} {Q : β → Prop} {e : Except RangeFault α}

theorem ok_iff (h : Follows ts P e) : (∃ a, e = .ok a) ↔ ∀ t ∈ ts, Timeline.IsShown t := by
  cases h with
  | shown all holds => exact ⟨fun _ => all, fun _ => ⟨_, rfl⟩⟩
  | lost out => exact ⟨fun ⟨_, ha⟩ => by simp at ha, fun all => absurd all out⟩

theorem of_ok {a : α} (h : Follows ts P (.ok a)) : P a := by
  cases h with
  | shown all holds => exact holds

theorem congr (hp : (∀ t ∈ ts, Timeline.IsShown t) ↔ ∀ t ∈ us, Timeline.IsShown t)
    (h : Follows ts P e) : Follows us P e := by
  cases h with
  | shown all holds => exact .shown (hp.mp all) holds
  | lost out => exact .lost fun all => out (hp.mpr all)

theorem map {g : α → β} (h : Follows ts P e) (hg : ∀ a, P a → Q (g a)) :
    Follows ts Q (g <$> e) := by
  cases h with
  | shown all holds => exact .shown all (hg _ holds)
  | lost out => exact .lost out

/-- One passage after another. -/
theorem bind {k : α → Except RangeFault β} (h : Follows ts P e)
    (hk : ∀ a, P a → Follows us Q (k a)) : Follows (ts ++ us) Q (e >>= k) := by
  cases h with
  | lost out =>
    apply Follows.lost
    intro all
    exact out fun t ht => all t (List.mem_append_left us ht)
  | @shown a all holds =>
    have hnext := hk a holds
    apply hnext.congr
    constructor
    · intro hus t ht
      rcases List.mem_append.mp ht with ht | ht
      · exact all t ht
      · exact hus t ht
    · intro hall t ht
      exact hall t (List.mem_append_right ts ht)

theorem place (f : RangeFault) (t : Int) :
    Follows [t] (fun w : WallTime => w.micros = t) (WallTime.place f t) := by
  by_cases ht : Timeline.IsShown t
  · rw [WallTime.place_of_isShown ht]
    exact .shown (by simpa using ht) rfl
  · rw [WallTime.place_of_not_isShown ht]
    exact .lost (by simpa using ht)

end Follows

namespace Stamp

/-- The stamp shows a moment on the clock of a zone. -/
def Shows (z : Zone) (t : Int) (s : Stamp) : Prop :=
  s.wall.micros = t ∧ s.zone = z

theorem shift_follows (u : TimeUnit) (n : Int) (s : Stamp) :
    Follows [Timeline.shift u n s.wall.micros] (Shows s.zone (Timeline.shift u n s.wall.micros))
      (s.shift u n) := by
  rw [shift, WallTime.shift_eq_place]
  exact (Follows.place _ _).map fun w hw => ⟨hw, rfl⟩

theorem shiftBack_follows (u : TimeUnit) (n : Int) (s : Stamp) :
    Follows [Timeline.shift u (-n) s.wall.micros]
      (Shows s.zone (Timeline.shift u (-n) s.wall.micros)) (s.shiftBack u n) := by
  rw [shiftBack, WallTime.shiftBack_eq_shift]
  exact shift_follows u (-n) s

theorem lastWeekday_follows (w : Weekday) (s : Stamp) :
    Follows [Timeline.lastWeekday w s.wall.micros]
      (Shows s.zone (Timeline.lastWeekday w s.wall.micros)) (s.lastWeekday w) := by
  rw [lastWeekday, WallTime.lastWeekday_eq_place]
  exact (Follows.place _ _).map fun w hw => ⟨hw, rfl⟩

theorem nextWeekday_follows (w : Weekday) (s : Stamp) :
    Follows [Timeline.nextWeekday w s.wall.micros]
      (Shows s.zone (Timeline.nextWeekday w s.wall.micros)) (s.nextWeekday w) := by
  rw [nextWeekday, WallTime.nextWeekday_eq_place]
  exact (Follows.place _ _).map fun w hw => ⟨hw, rfl⟩

theorem agrees_of_zone {a b : Stamp} (h : a.zone = b.zone) :
    a.agrees b = decide (a.wall.micros = b.wall.micros) := by
  have hw : a.wall = b.wall ↔ a.wall.micros = b.wall.micros := by
    cases a.wall
    cases b.wall
    simp
  simp only [agrees, if_pos h, hw]

end Stamp

namespace Calendar

variable (c : Calendar)

theorem startOf_follows (u : TimeUnit) (s : Stamp) :
    Follows [Timeline.startOf c.weekStart u s.wall.micros]
      (Stamp.Shows s.zone (Timeline.startOf c.weekStart u s.wall.micros)) (c.startOf u s) := by
  rw [startOf, WallTime.startOf_eq_place]
  apply (Follows.place _ _).map
  intro w hw
  split
  · exact ⟨hw, rfl⟩
  · exact ⟨hw, rfl⟩

theorem endOf_follows {u : TimeUnit} (hu : u ≠ .week) (s : Stamp) :
    Follows [Timeline.endOf c.weekStart u s.wall.micros]
      (Stamp.Shows s.zone (Timeline.endOf c.weekStart u s.wall.micros)) (c.endOf u s) := by
  rw [endOf, WallTime.endOf_eq_place hu]
  apply (Follows.place _ _).map
  intro w hw
  split
  · exact ⟨hw, rfl⟩
  · exact ⟨hw, rfl⟩

theorem endOf_week_follows (s : Stamp) :
    Follows
      [Timeline.startOf c.weekStart .week s.wall.micros,
        Timeline.endOf c.weekStart .week s.wall.micros]
      (Stamp.Shows s.zone (Timeline.endOf c.weekStart .week s.wall.micros)) (c.endOf .week s) := by
  rw [endOf, WallTime.endOf_week_eq_place, if_pos (Or.inl rfl)]
  have hboth := (Follows.place .outside (Timeline.startOf c.weekStart .week s.wall.micros)).bind
    fun _ _ => Follows.place .outside (Timeline.endOf c.weekStart .week s.wall.micros)
  exact hboth.map fun w hw => ⟨hw, rfl⟩

/-- In one zone stamps lie in one week if their wall times do. -/
theorem sameWeek_follows {a b : Stamp} (hz : a.zone = b.zone) :
    Follows
      [Timeline.startOfWeek c.weekStart a.wall.micros,
        Timeline.startOfWeek c.weekStart b.wall.micros]
      (fun same : Bool => same = decide (Timeline.startOfWeek c.weekStart a.wall.micros =
        Timeline.startOfWeek c.weekStart b.wall.micros))
      (c.sameWeek a b) := by
  apply (c.startOf_follows .week a).bind
  rintro x ⟨hxw, hxz⟩
  rw [← List.append_nil [_]]
  apply (c.startOf_follows .week b).bind
  rintro y ⟨hyw, hyz⟩
  -- nothing more is passed through, and in one zone instants are compared by wall time
  apply Follows.shown (by simp)
  rw [Stamp.agrees_of_zone (by rw [hxz, hyz, hz]), hxw, hyw]
  rfl

theorem businessMonday_follows (s : Stamp) :
    Follows
      [Timeline.startOfWeek c.weekStart s.wall.micros,
        Timeline.businessMonday c.weekStart s.wall.micros]
      (Stamp.Shows s.zone (Timeline.businessMonday c.weekStart s.wall.micros))
      (c.businessMonday s) := by
  apply (c.startOf_follows .week s).bind
  rintro first ⟨hwall, hzone⟩
  have hshift := Stamp.shift_follows .day
    (Weekday.daysBack Weekday.monday.ordinal first.weekday.ordinal) first
  have hto : Timeline.shift .day (Weekday.daysBack Weekday.monday.ordinal first.weekday.ordinal)
      first.wall.micros = Timeline.businessMonday c.weekStart s.wall.micros := by
    rw [Stamp.weekday, WallTime.ordinal_weekday, hwall]
    rfl
  rwa [hto, hzone] at hshift

theorem exact_endOfBusinessWeek (first : Weekday) (anchor t : Int) :
    Clause.exact first anchor t (.snap ⟨.finish, .businessWeek⟩) =
      if Timeline.isUnderWay first anchor t then t
      else Timeline.endOf first .day (Timeline.businessMonday first t + 4 * Timeline.day) := by
  cases hu : Timeline.isUnderWay first anchor t <;> simp [Clause.exact, Clause.passes, hu]

/-- From its Monday on, the end of a business week. -/
theorem friday_follows {anchor s monday : Stamp}
    (hm : monday.Shows s.zone (Timeline.businessMonday c.weekStart s.wall.micros)) (same : Bool)
    (hsame : same = decide (Timeline.startOfWeek c.weekStart s.wall.micros =
      Timeline.startOfWeek c.weekStart anchor.wall.micros)) :
    Follows
      (if Timeline.isUnderWay c.weekStart anchor.wall.micros s.wall.micros then [s.wall.micros]
        else [Timeline.businessMonday c.weekStart s.wall.micros + 4 * Timeline.day,
          Timeline.endOf c.weekStart .day
            (Timeline.businessMonday c.weekStart s.wall.micros + 4 * Timeline.day)])
      (Stamp.Shows s.zone (Clause.exact c.weekStart anchor.wall.micros s.wall.micros
        (.snap ⟨.finish, .businessWeek⟩)))
      (if same && !s.isWeekend then .ok s
        else monday.shift .day 4 >>= fun friday => c.endOf .day friday) := by
  have hway : (same && !s.isWeekend) =
      Timeline.isUnderWay c.weekStart anchor.wall.micros s.wall.micros := by
    rw [hsame]
    rfl
  rw [hway, exact_endOfBusinessWeek]
  cases hu : Timeline.isUnderWay c.weekStart anchor.wall.micros s.wall.micros with
  | true =>
    -- the business week is under way, so nothing is moved
    simp only [if_true]
    exact .shown (by simpa using s.wall.isShown) ⟨rfl, rfl⟩
  | false =>
    obtain ⟨hmw, hmz⟩ := hm
    have hfriday := Stamp.shift_follows .day 4 monday
    rw [hmw, hmz] at hfriday
    simp only [Bool.false_eq_true, if_false]
    apply hfriday.bind
    rintro friday ⟨hfw, hfz⟩
    have hend := c.endOf_follows (u := .day) (by decide) friday
    rwa [hfw, hfz] at hend

theorem endOfBusinessWeek_follows {anchor s : Stamp} (hz : s.zone = anchor.zone) :
    Follows
      (Clause.passes c.weekStart anchor.wall.micros s.wall.micros (.snap ⟨.finish, .businessWeek⟩))
      (Stamp.Shows s.zone (Clause.exact c.weekStart anchor.wall.micros s.wall.micros
        (.snap ⟨.finish, .businessWeek⟩)))
      (c.endOfBusinessWeek anchor s) := by
  have hall := (c.businessMonday_follows s).bind fun monday hm =>
    (c.sameWeek_follows hz).bind fun same hsame => c.friday_follows hm same hsame
  apply hall.congr
  -- the start of the week is passed through twice
  simp only [Clause.passes, List.cons_append, List.nil_append, List.forall_mem_cons]
  constructor
  · rintro ⟨hweek, hmonday, _, hanchor, hrest⟩
    exact ⟨hweek, hmonday, hanchor, hrest⟩
  · rintro ⟨hweek, hmonday, hanchor, hrest⟩
    exact ⟨hweek, hmonday, hweek, hanchor, hrest⟩

end Calendar

namespace Clause

variable (c : Calendar)

/-- One clause: a clock can follow it through the moments it passes through, and the result is
exact and stays in its zone. -/
theorem apply_follows {anchor s : Stamp} (hz : s.zone = anchor.zone) (k : Clause) :
    Follows (k.passes c.weekStart anchor.wall.micros s.wall.micros)
      (Stamp.Shows s.zone (k.exact c.weekStart anchor.wall.micros s.wall.micros))
      (k.apply c anchor s) := by
  cases k with
  | now => exact .shown (by simpa [passes] using s.wall.isShown) ⟨rfl, rfl⟩
  | shift k =>
    obtain ⟨sign, n, u⟩ := k
    cases sign with
    | plus => exact s.shift_follows u n.count
    | minus => exact s.shiftBack_follows u n.count
  | snap k =>
    obtain ⟨edge, boundary⟩ := k
    cases boundary with
    | unit u =>
      cases edge with
      | start => exact c.startOf_follows u s
      | finish =>
        cases u with
        | week => exact c.endOf_week_follows s
        | _ => exact c.endOf_follows (by decide) s
    | weekday w =>
      cases edge with
      | start => exact s.lastWeekday_follows w
      | finish => exact s.nextWeekday_follows w
    | businessWeek =>
      cases edge with
      | start => exact c.businessMonday_follows s
      | finish => exact c.endOfBusinessWeek_follows hz

/-- A whole run, by induction on its clauses: the zone of the anchor is kept all the way. -/
theorem applyAll_follows {anchor s : Stamp} (hz : s.zone = anchor.zone) (ks : List Clause) :
    Follows (passesAll c.weekStart anchor.wall.micros s.wall.micros ks)
      (Stamp.Shows anchor.zone (exactAll c.weekStart anchor.wall.micros s.wall.micros ks))
      (applyAll c anchor s ks) := by
  induction ks generalizing s with
  | nil => exact .shown (by simp [passesAll]) ⟨rfl, hz⟩
  | cons k ks ih =>
    have hstep := apply_follows c hz k
    unfold applyAll at ih ⊢
    rw [List.foldlM_cons, passesAll]
    apply hstep.bind
    rintro v ⟨hvw, hvz⟩
    -- the step has kept the zone, so the rest is still compared in that of the anchor
    have hrest := ih (hvz.trans hz)
    rwa [hvw] at hrest

theorem evaluate_follows (r : Stamp) (ks : List Clause) :
    Follows (passesAll c.weekStart r.wall.micros r.wall.micros ks)
      (Stamp.Shows r.zone (exactAll c.weekStart r.wall.micros r.wall.micros ks))
      (evaluate c r ks) :=
  applyAll_follows c rfl ks

end Clause

end RelativeTime
