import Mathlib.Logic.Relation
import RelativeTime.Proofs.Tiling
import RelativeTime.Proofs.Zones

/-!
Snaps that absorb each other. A snap to a unit stays in every larger unit that the unit is part of,
and the start and the end of the larger one are a start and an end of the smaller. So of two snaps
to such units the one to the larger decides where they lead, in either order. Snaps to a weekday and
to the Monday of a business week leave their own result alone.
-/
namespace RelativeTime

namespace TimeUnit

/-- Units are made up of the next smaller ones; weeks and months both of days. -/
inductive MakesUp : TimeUnit → TimeUnit → Prop
  | seconds : MakesUp .second .minute
  | minutes : MakesUp .minute .hour
  | hours : MakesUp .hour .day
  | days_of_week : MakesUp .day .week
  | days_of_month : MakesUp .day .month

/-- The unit is the other one or nested in it. -/
def IsWithin : TimeUnit → TimeUnit → Prop :=
  Relation.ReflTransGen MakesUp

theorem IsWithin.eq_of_largest {u v : TimeUnit} (h : u.IsWithin v) (hu : u = .week ∨ u = .month) :
    v = u := by
  rcases Relation.ReflTransGen.cases_head h with rfl | ⟨w, hw, -⟩
  · rfl
  · -- nothing is made up of weeks or of months
    rcases hu with rfl | rfl <;> cases hw

end TimeUnit

namespace Timeline

variable {u v : TimeUnit} {first : Weekday} {t x : Int}

theorem startOf_le_of_makesUp (h : u.MakesUp v) (first : Weekday) (t : Int) :
    startOf first v t ≤ startOf first u t := by
  cases h with
  | days_of_week =>
    have hback := Weekday.daysBack_bounds (weekdayOrdinal t) first.ordinal
    simp only [startOf, startOfWeek, day_eq]
    omega
  | days_of_month =>
    have hday := firstOfMonth_le_dayNumber t
    rw [startOf_month_eq]
    grind
  | _ => grind

theorem endOf_le_of_makesUp (h : u.MakesUp v) (first : Weekday) (t : Int) :
    endOf first u t ≤ endOf first v t := by
  cases h with
  | days_of_week =>
    have hback := Weekday.daysBack_bounds (weekdayOrdinal t) first.ordinal
    simp only [endOf, startOfWeek, week_eq, day_eq]
    omega
  | days_of_month =>
    have hday := dayNumber_lt_firstOfMonth t
    rw [endOf_month_eq]
    grind
  | _ => grind

/-- A unit begins no earlier than one that it is nested in, and ends no later. -/
theorem bounds_of_isWithin (h : u.IsWithin v) (first : Weekday) (t : Int) :
    startOf first v t ≤ startOf first u t ∧ endOf first u t ≤ endOf first v t := by
  induction h with
  | refl => exact ⟨Int.le_refl _, Int.le_refl _⟩
  | tail _ hstep ih =>
    exact ⟨Int.le_trans (startOf_le_of_makesUp hstep first t) ih.1,
      Int.le_trans ih.2 (endOf_le_of_makesUp hstep first t)⟩

theorem startOf_eq_of_isWithin (h : u.IsWithin v) (hl : startOf first u t ≤ x)
    (hr : x ≤ endOf first u t) : startOf first v x = startOf first v t := by
  have hbounds := bounds_of_isWithin h first t
  rw [startOf_eq_iff]
  omega

/-- The first or the last moment of a unit. -/
def edgeOf (first : Weekday) (e : Edge) (u : TimeUnit) (t : Int) : Int :=
  match e with
  | .start => startOf first u t
  | .finish => endOf first u t

theorem edgeOf_bounds (first : Weekday) (e : Edge) (u : TimeUnit) (t : Int) :
    startOf first u t ≤ edgeOf first e u t ∧ edgeOf first e u t ≤ endOf first u t := by
  have hl := startOf_le first u t
  have hr := le_endOf first u t
  cases e with
  | start => exact ⟨Int.le_refl _, Int.le_trans hl hr⟩
  | finish => exact ⟨Int.le_trans hl hr, Int.le_refl _⟩

theorem edgeOf_congr (e : Edge) (h : startOf first u x = startOf first u t) :
    edgeOf first e u x = edgeOf first e u t := by
  cases e with
  | start => exact h
  | finish => exact endOf_congr h

theorem startOf_edgeOf (h : u.IsWithin v) (first : Weekday) (e : Edge) (t : Int) :
    startOf first v (edgeOf first e u t) = startOf first v t := by
  have hbounds := edgeOf_bounds first e u t
  exact startOf_eq_of_isWithin h hbounds.1 hbounds.2

/-- An edge of the larger unit is one of the smaller. -/
theorem edgeOf_edgeOf (h : u.IsWithin v) (first : Weekday) (e : Edge) (t : Int) :
    edgeOf first e u (edgeOf first e v t) = edgeOf first e v t := by
  have hself : edgeOf first e v (edgeOf first e v t) = edgeOf first e v t :=
    edgeOf_congr e (startOf_edgeOf .refl first e t)
  have hbounds := bounds_of_isWithin h first (edgeOf first e v t)
  cases e with
  | start =>
    have hle := startOf_le first u (startOf first v t)
    simp only [edgeOf] at hself hbounds ⊢
    omega
  | finish =>
    have hle := le_endOf first u (endOf first v t)
    simp only [edgeOf] at hself hbounds ⊢
    omega

/-- The nearest moment of a weekday, before or behind. -/
def nearest (e : Edge) (w : Weekday) (t : Int) : Int :=
  match e with
  | .start => lastWeekday w t
  | .finish => nextWeekday w t

theorem weekdayOrdinal_nearest (e : Edge) (w : Weekday) (t : Int) :
    weekdayOrdinal (nearest e w t) = w.ordinal := by
  have hw := w.ordinal_lt
  cases e with
  | start =>
    rw [nearest, lastWeekday, Int.sub_eq_add_neg, ← Int.neg_mul, weekdayOrdinal_add_days,
      Weekday.daysBack]
    omega
  | finish =>
    rw [nearest, nextWeekday, weekdayOrdinal_add_days, Weekday.daysBack]
    omega

theorem nearest_of_ordinal {w : Weekday} (h : weekdayOrdinal t = w.ordinal) (e : Edge) :
    nearest e w t = t := by
  cases e with
  | start => simp [nearest, lastWeekday, h, Weekday.daysBack]
  | finish => simp [nearest, nextWeekday, h, Weekday.daysBack]

end Timeline

namespace WallTime

variable {t u : Int} {w : WallTime} {f : RangeFault}

/-- To find one moment through another, a clock has to show both. -/
theorem place_through_eq_ok :
    (place .outside t >>= fun _ => place .outside u) = .ok w ↔
      Timeline.IsShown t ∧ w.micros = u := by
  by_cases ht : Timeline.IsShown t
  · rw [place_of_isShown ht]
    simp only [ht, true_and]
    exact place_eq_ok
  · rw [place_of_not_isShown ht]
    simp [ht, bind, Except.bind]

theorem eq_outside_of_place_through
    (h : (place .outside t >>= fun _ => place .outside u) = .error f) : f = .outside := by
  have hplace {a : Int} {g : RangeFault} (hg : place .outside a = .error g) : g = .outside := by
    by_cases ha : Timeline.IsShown a
    · rw [place_of_isShown ha] at hg
      cases hg
    · rw [place_of_not_isShown ha] at hg
      exact (Except.error.inj hg).symm
  cases ht : place .outside t with
  | error g =>
    rw [ht] at h
    obtain rfl : g = f := Except.error.inj h
    exact hplace ht
  | ok v =>
    rw [ht] at h
    exact hplace h

end WallTime

/-- One wall time in one zone, whichever of two showings is meant. -/
def Stamp.Alike (a b : Stamp) : Prop :=
  a.wall = b.wall ∧ a.zone = b.zone

namespace Clause

/-- A step that leaves every result of another one alone may be left out behind it. -/
theorem bind_of_fixed {r : Except RangeFault Stamp} {k : Stamp → Except RangeFault Stamp}
    (h : ∀ x, r = .ok x → k x = .ok x) : (r >>= k) = r := by
  cases r with
  | error f => rfl
  | ok x => exact h x rfl

def down (b : Boundary) : Clause :=
  .snap ⟨.start, b⟩

def up (b : Boundary) : Clause :=
  .snap ⟨.finish, b⟩

/-- The snaps that compute a distance, and so mean the first of two showings. -/
def Moves (e : Edge) (u : TimeUnit) : Prop :=
  u = .week ∨ (u = .month ∧ e = .finish)

instance (e : Edge) (u : TimeUnit) : Decidable (Moves e u) :=
  inferInstanceAs (Decidable (_ ∨ _))

theorem Moves.of_isWithin {e f : Edge} {u v : TimeUnit} (hm : Moves e u) (h : u.IsWithin v)
    (hef : e = .finish → f = .finish) : Moves f v := by
  rcases hm with hu | ⟨hu, he⟩
  · exact Or.inl ((h.eq_of_largest (Or.inl hu)).trans hu)
  · exact Or.inr ⟨(h.eq_of_largest (Or.inr hu)).trans hu, hef he⟩

section Units

variable {c : Calendar} {anchor s x : Stamp} {e f : Edge} {u v : TimeUnit}

/-- A snap to a unit is in reach where the start of the unit and the edge snapped to are. -/
theorem apply_unit_eq (c : Calendar) (anchor s : Stamp) (e : Edge) (u : TimeUnit) :
    (snap ⟨e, .unit u⟩).apply c anchor s =
      (if Moves e u then s.moved else s.refitted) <$>
        (WallTime.place .outside (Timeline.startOf c.weekStart u s.wall.micros) >>= fun _ =>
          WallTime.place .outside (Timeline.edgeOf c.weekStart e u s.wall.micros)) := by
  cases e with
  | start =>
    have hmoves : Moves .start u ↔ u = .week := by simp [Moves]
    have htwice (t : Int) : (WallTime.place .outside t >>= fun _ => WallTime.place .outside t) =
        WallTime.place .outside t := by
      cases WallTime.place .outside t <;> rfl
    simp only [apply, Calendar.startOf, WallTime.startOf_eq_place, Timeline.edgeOf, htwice, hmoves]
  | finish =>
    have hmoves : Moves .finish u ↔ u = .week ∨ u = .month := by simp [Moves]
    by_cases hu : u = .week
    · subst hu
      simp only [apply, Calendar.endOf, WallTime.endOf_week_eq_place, Timeline.edgeOf, hmoves]
    · -- only the start of a week can be out of reach
      have hstart := Timeline.isShown_startOf hu c.weekStart s.wall.isShown
      simp only [apply, Calendar.endOf, WallTime.endOf_eq_place hu, Timeline.edgeOf, hmoves,
        WallTime.place_of_isShown hstart]
      rfl

theorem of_apply_unit (h : (snap ⟨e, .unit u⟩).apply c anchor s = .ok x) :
    Timeline.IsShown (Timeline.startOf c.weekStart u s.wall.micros) ∧
      x.Shows s.zone (Timeline.edgeOf c.weekStart e u s.wall.micros) ∧
      x.repeated = if Moves e u then false else s.repeated := by
  rw [apply_unit_eq] at h
  cases hw : WallTime.place .outside (Timeline.startOf c.weekStart u s.wall.micros) >>= fun _ =>
      WallTime.place .outside (Timeline.edgeOf c.weekStart e u s.wall.micros) with
  | error f =>
    rw [hw] at h
    cases h
  | ok w =>
    obtain ⟨hs, hmicros⟩ := WallTime.place_through_eq_ok.mp hw
    rw [hw] at h
    obtain rfl := Except.ok.inj h
    refine ⟨hs, ?_, ?_⟩
    · split
      · exact ⟨hmicros, rfl⟩
      · exact ⟨hmicros, rfl⟩
    · split <;> rfl

/-- A snap to a unit looks at nothing but the unit and the zone, and at the showing if it keeps it.
-/
theorem apply_unit_congr (hz : x.zone = s.zone)
    (ht : Timeline.startOf c.weekStart u x.wall.micros =
      Timeline.startOf c.weekStart u s.wall.micros) (hr : Moves e u ∨ x.repeated = s.repeated) :
    (snap ⟨e, .unit u⟩).apply c anchor x = (snap ⟨e, .unit u⟩).apply c anchor s := by
  have hfit : (if Moves e u then x.moved else x.refitted) =
      if Moves e u then s.moved else s.refitted := by
    funext w
    split
    · simp only [Stamp.moved, hz]
    · simp only [Stamp.refitted, hz, hr.resolve_left ‹_›]
  rw [apply_unit_eq, apply_unit_eq, hfit, ht, Timeline.edgeOf_congr e ht]

theorem apply_unit_alike (hz : x.zone = s.zone)
    (ht : Timeline.startOf c.weekStart u x.wall.micros =
      Timeline.startOf c.weekStart u s.wall.micros) :
    Paired Stamp.Alike ((snap ⟨e, .unit u⟩).apply c anchor x)
      ((snap ⟨e, .unit u⟩).apply c anchor s) := by
  rw [apply_unit_eq, apply_unit_eq, ht, Timeline.edgeOf_congr e ht]
  apply Paired.map_self
  intro w
  split
  · exact ⟨rfl, hz⟩
  · exact ⟨rfl, hz⟩

theorem apply_unit_of_edge
    (hs : Timeline.IsShown (Timeline.startOf c.weekStart u s.wall.micros))
    (ht : Timeline.edgeOf c.weekStart e u s.wall.micros = s.wall.micros)
    (hr : Moves e u → s.repeated = false) : (snap ⟨e, .unit u⟩).apply c anchor s = .ok s := by
  have hfit : (if Moves e u then s.moved else s.refitted) s.wall = s := by
    split
    · rw [Stamp.moved, ← hr ‹_›]
    · rfl
  rw [apply_unit_eq, ht, WallTime.place_of_isShown hs]
  exact (congrArg _ (WallTime.place_micros _ s.wall)).trans (congrArg Except.ok hfit)

theorem exists_apply_unit (hs : Timeline.IsShown (Timeline.startOf c.weekStart u s.wall.micros))
    (he : Timeline.IsShown (Timeline.edgeOf c.weekStart e u s.wall.micros)) :
    ∃ x, (snap ⟨e, .unit u⟩).apply c anchor s = .ok x := by
  let w : WallTime := ⟨Timeline.edgeOf c.weekStart e u s.wall.micros, he.1, he.2⟩
  have hw := (WallTime.place_through_eq_ok (w := w)).mpr ⟨hs, rfl⟩
  rw [apply_unit_eq, hw]
  exact ⟨_, rfl⟩

theorem apply_unit_error {fault : RangeFault}
    (h : (snap ⟨e, .unit u⟩).apply c anchor s = .error fault) : fault = .outside := by
  rw [apply_unit_eq] at h
  cases hw : WallTime.place .outside (Timeline.startOf c.weekStart u s.wall.micros) >>= fun _ =>
      WallTime.place .outside (Timeline.edgeOf c.weekStart e u s.wall.micros) with
  | error f =>
    rw [hw] at h
    obtain rfl : f = fault := Except.error.inj h
    exact WallTime.eq_outside_of_place_through hw
  | ok w =>
    rw [hw] at h
    cases h

theorem exists_apply_of_larger (h : u.IsWithin v) (hef : e = .finish → f = .finish)
    (hv : (snap ⟨f, .unit v⟩).apply c anchor s = .ok x) :
    ∃ y, (snap ⟨e, .unit u⟩).apply c anchor s = .ok y := by
  obtain ⟨hs, ⟨hx, -⟩, -⟩ := of_apply_unit hv
  have hbounds := Timeline.bounds_of_isWithin h c.weekStart s.wall.micros
  have hl := Timeline.startOf_le c.weekStart u s.wall.micros
  have hr := Timeline.le_endOf c.weekStart u s.wall.micros
  have ht := s.wall.isShown
  have hxs := x.wall.isShown
  have hstart : Timeline.IsShown (Timeline.startOf c.weekStart u s.wall.micros) := by
    simp only [Timeline.IsShown] at hs ht ⊢
    omega
  apply exists_apply_unit hstart
  cases e with
  | start => exact hstart
  | finish =>
    -- the end of the smaller unit lies between the stamp and the end of the larger
    obtain rfl := hef rfl
    rw [hx] at hxs
    simp only [Timeline.edgeOf, Timeline.IsShown] at hxs ht ⊢
    omega

/-- Of two snaps the one to the larger unit decides, if it comes last. -/
theorem apply_unit_larger (h : u.IsWithin v) (hef : e = .finish → f = .finish) :
    ((snap ⟨e, .unit u⟩).apply c anchor s >>= fun x => (snap ⟨f, .unit v⟩).apply c anchor x) =
      (snap ⟨f, .unit v⟩).apply c anchor s := by
  cases hx : (snap ⟨e, .unit u⟩).apply c anchor s with
  | error fault =>
    -- where the first snap is out of reach the second one is so by itself
    cases hv : (snap ⟨f, .unit v⟩).apply c anchor s with
    | error other =>
      obtain rfl := apply_unit_error hx
      obtain rfl := apply_unit_error hv
      rfl
    | ok y =>
      obtain ⟨z, hz⟩ := exists_apply_of_larger h hef hv
      rw [hz] at hx
      cases hx
  | ok x =>
    obtain ⟨-, ⟨hxw, hxz⟩, hxr⟩ := of_apply_unit hx
    have hstart : Timeline.startOf c.weekStart v x.wall.micros =
        Timeline.startOf c.weekStart v s.wall.micros := by
      rw [hxw, Timeline.startOf_edgeOf h]
    apply apply_unit_congr hxz hstart
    -- the first snap forgets the showing only where the second one does
    by_cases hm : Moves e u
    · exact Or.inl (hm.of_isWithin h hef)
    · right
      rw [hxr, if_neg hm]

/-- Of two snaps of one direction the one to the larger unit decides, if it comes first. -/
theorem apply_unit_smaller (h : u.IsWithin v) :
    ((snap ⟨e, .unit v⟩).apply c anchor s >>= fun x => (snap ⟨e, .unit u⟩).apply c anchor x) =
      (snap ⟨e, .unit v⟩).apply c anchor s := by
  apply bind_of_fixed
  intro x hx
  obtain ⟨hs, ⟨hxw, -⟩, hxr⟩ := of_apply_unit hx
  have hedge : Timeline.edgeOf c.weekStart e u x.wall.micros = x.wall.micros := by
    rw [hxw, Timeline.edgeOf_edgeOf h]
  have hself : Timeline.startOf c.weekStart v x.wall.micros =
      Timeline.startOf c.weekStart v s.wall.micros := by
    rw [hxw, Timeline.startOf_edgeOf .refl]
  -- between a start that can be shown and the stamp itself
  have hstart : Timeline.IsShown (Timeline.startOf c.weekStart u x.wall.micros) := by
    have hbounds := Timeline.bounds_of_isWithin h c.weekStart x.wall.micros
    have hl := Timeline.startOf_le c.weekStart u x.wall.micros
    have hshown := x.wall.isShown
    simp only [Timeline.IsShown] at hs hshown ⊢
    omega
  apply apply_unit_of_edge hstart hedge
  intro hm
  rw [hxr, if_pos (hm.of_isWithin h id)]

/-- Up the smaller unit and down the larger: where the first snap has a result, the second one
takes no notice of it. -/
theorem apply_up_down (h : u.IsWithin v) (hx : (up (.unit u)).apply c anchor s = .ok x) :
    Paired Stamp.Alike ((down (.unit v)).apply c anchor x) ((down (.unit v)).apply c anchor s) := by
  obtain ⟨-, ⟨hxw, hxz⟩, -⟩ := of_apply_unit hx
  apply apply_unit_alike hxz
  rw [hxw, Timeline.startOf_edgeOf h]

end Units

section Days

variable {c : Calendar} {anchor s x m : Stamp} {e : Edge} {w : Weekday}

theorem apply_weekday_eq (c : Calendar) (anchor s : Stamp) (e : Edge) (w : Weekday) :
    (snap ⟨e, .weekday w⟩).apply c anchor s =
      s.moved <$> WallTime.place .outside (Timeline.nearest e w s.wall.micros) := by
  cases e with
  | start => simp only [apply, Stamp.lastWeekday, WallTime.lastWeekday_eq_place, Timeline.nearest]
  | finish => simp only [apply, Stamp.nextWeekday, WallTime.nextWeekday_eq_place, Timeline.nearest]

theorem apply_weekday_eq_ok (e : Edge) :
    (snap ⟨e, .weekday w⟩).apply c anchor s = .ok x ↔
      x.wall.micros = Timeline.nearest e w s.wall.micros ∧ x.zone = s.zone ∧
        x.repeated = false := by
  rw [apply_weekday_eq]
  exact Stamp.moved_place_eq_ok

/-- Snapping to a weekday again, to either side, leaves a stamp where the first snap has put it. -/
theorem apply_weekday_again (f : Edge) (h : (snap ⟨e, .weekday w⟩).apply c anchor s = .ok x) :
    (snap ⟨f, .weekday w⟩).apply c anchor x = .ok x := by
  obtain ⟨hwall, -, hrepeated⟩ := (apply_weekday_eq_ok e).mp h
  have hday : Timeline.weekdayOrdinal x.wall.micros = w.ordinal := by
    rw [hwall, Timeline.weekdayOrdinal_nearest]
  have hx : x.moved x.wall = x := by rw [Stamp.moved, ← hrepeated]
  rw [apply_weekday_eq, Timeline.nearest_of_ordinal hday, WallTime.place_micros]
  exact congrArg Except.ok hx

theorem businessMonday_again (h : c.businessMonday s = .ok m) : c.businessMonday m = .ok m := by
  have hshows := Calendar.businessMonday_shows h
  have hweek : c.startOf .week m = c.startOf .week s := by
    rw [Calendar.startOf_week_iff h hshows.2, hshows.1, Timeline.startOfWeek_businessMonday]
  exact (Calendar.businessMonday_congr hweek).trans h

end Days

section Runs

theorem applyAll_single (c : Calendar) (anchor s : Stamp) (k : Clause) :
    applyAll c anchor s [k] = k.apply c anchor s := by
  simp [applyAll]

theorem applyAll_pair (c : Calendar) (anchor s : Stamp) (k l : Clause) :
    applyAll c anchor s [k, l] = k.apply c anchor s >>= fun x => l.apply c anchor x := by
  simp [applyAll]

end Runs

/-- Of two snaps to units of which one is part of the other, the snap to the larger unit decides, in
either order, and the run is in reach where that snap is. The exception is a snap up to the end of a
week and down again, which is out of reach where the end of the week is. (On a clock that shows a
time twice, up to the end of a month and down again means the first showing.) Two snaps to one
weekday are as good as the first, and so are two to the Monday of a business week. -/
theorem snaps_absorb {u v : TimeUnit} (h : u.IsWithin v) (c : Calendar) (anchor s : Stamp) :
    let run := applyAll c anchor s
    run [down (.unit u), down (.unit v)] = run [down (.unit v)] ∧
      run [down (.unit v), down (.unit u)] = run [down (.unit v)] ∧
      run [up (.unit u), up (.unit v)] = run [up (.unit v)] ∧
      run [up (.unit v), up (.unit u)] = run [up (.unit v)] ∧
      run [down (.unit u), up (.unit v)] = run [up (.unit v)] ∧
      (u ≠ .week →
        Paired Stamp.Alike (run [up (.unit u), down (.unit v)]) (run [down (.unit v)])) ∧
      (u = .week → run [up (.unit u), down (.unit v)] =
        run [up (.unit u)] >>= fun _ => run [down (.unit v)]) ∧
      (∀ w : Weekday,
        run [down (.weekday w), down (.weekday w)] = run [down (.weekday w)] ∧
        run [up (.weekday w), up (.weekday w)] = run [up (.weekday w)] ∧
        run [down (.weekday w), up (.weekday w)] = run [down (.weekday w)] ∧
        run [up (.weekday w), down (.weekday w)] = run [up (.weekday w)]) ∧
      run [down .businessWeek, down .businessWeek] = run [down .businessWeek] := by
  simp only [applyAll_pair, applyAll_single]
  refine ⟨apply_unit_larger h id, apply_unit_smaller h, apply_unit_larger h id,
    apply_unit_smaller h, apply_unit_larger h nofun, ?_, ?_, ?_, ?_⟩
  · intro hu
    -- only the end of a week can be out of reach, so the first snap succeeds
    have hstart := Timeline.isShown_startOf hu c.weekStart s.wall.isShown
    have hend := Timeline.isShown_endOf hu c.weekStart s.wall.isShown
    obtain ⟨x, hx⟩ : ∃ x, (up (.unit u)).apply c anchor s = .ok x := exists_apply_unit hstart hend
    rw [hx]
    exact apply_up_down h hx
  · intro hu
    -- no unit is larger than a week, so both snaps are to weeks
    have hv : v = .week := (h.eq_of_largest (Or.inl hu)).trans hu
    cases hx : (up (.unit u)).apply c anchor s with
    | error f => rfl
    | ok x =>
      obtain ⟨-, ⟨hxw, hxz⟩, -⟩ := of_apply_unit hx
      show (down (.unit v)).apply c anchor x = (down (.unit v)).apply c anchor s
      apply apply_unit_congr hxz
      · rw [hxw, Timeline.startOf_edgeOf h]
      · exact Or.inl (Or.inl hv)
  · intro w
    exact ⟨bind_of_fixed fun x hx => apply_weekday_again .start hx,
      bind_of_fixed fun x hx => apply_weekday_again .finish hx,
      bind_of_fixed fun x hx => apply_weekday_again .finish hx,
      bind_of_fixed fun x hx => apply_weekday_again .start hx⟩
  · exact bind_of_fixed fun m hm => businessMonday_again hm

/-- From an hour up and then up to the end of its month is just up to the end of the month. -/
theorem snaps_absorb_hour_month :
    let s : Stamp := ⟨⟨63673810825000000, by decide, by decide⟩, .floating, false⟩
    let last : Stamp := ⟨⟨63673948799999999, by decide, by decide⟩, .floating, false⟩
    applyAll .standard s s [up (.unit .hour), up (.unit .month)] = .ok last ∧
      applyAll .standard s s [up (.unit .month), up (.unit .hour)] = .ok last := by
  intro s last
  have hin : TimeUnit.IsWithin .hour .month :=
    .tail (.single TimeUnit.MakesUp.hours) TimeUnit.MakesUp.days_of_month
  have hmonth : applyAll .standard s s [up (.unit .month)] = .ok last := by decide +kernel
  obtain ⟨-, -, hlast, hfirst, -⟩ := snaps_absorb hin .standard s s
  exact ⟨hlast.trans hmonth, hfirst.trans hmonth⟩

/-- In the last week that a clock can show, weeks that start on Sunday have no end, so going up to
it fails though the start of the week is in reach. -/
theorem snaps_absorb_last_week :
    let friday : Stamp := ⟨⟨315537811200000000, by decide, by decide⟩, .floating, false⟩
    let sunday : Stamp := ⟨⟨315537379200000000, by decide, by decide⟩, .floating, false⟩
    TimeUnit.IsWithin .week .week ∧
      applyAll .standard friday friday [down (.unit .week)] = .ok sunday ∧
      applyAll .standard friday friday [up (.unit .week), down (.unit .week)] =
        .error .outside := by
  exact ⟨.refl, by decide +kernel, by decide +kernel⟩

end Clause

end RelativeTime
