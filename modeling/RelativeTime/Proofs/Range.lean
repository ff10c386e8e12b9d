import RelativeTime.Proofs.Printing
import RelativeTime.Proofs.Week

/-!
When evaluation fails. A run of clauses has a value as long as every day it visits lies in the years
that a clock can show; the first clause to visit another day is where it fails, for good.
-/
namespace RelativeTime

namespace Timeline

/-- A clock can show the day. -/
def IsShownDay (d : Int) : Prop :=
  1 ≤ (CivilDate.ofDay d).year ∧ (CivilDate.ofDay d).year ≤ 9999

theorem isShown_iff_day (t : Int) : IsShown t ↔ IsShownDay (dayNumber t) :=
  isShown_iff_year t

theorem dayNumber_endOf_week (first : Weekday) (t : Int) :
    dayNumber (endOf first .week t) = firstDay first t + 6 := by
  rw [← endOf_day_add_six, dayNumber_endOf_day, dayNumber_add_days]
  rfl

end Timeline

namespace Clause

variable {first : Weekday} {anchor t : Int}

/-- The moments a clause passes through can be shown if the days it visits can. -/
theorem passes_iff_days (ht : Timeline.IsShown t) (k : Clause) :
    (∀ p ∈ k.passes first anchor t, Timeline.IsShown p) ↔
      ∀ d ∈ k.days first anchor t, Timeline.IsShownDay d := by
  cases k with
  | now => simp [passes, days, ht]
  | shift k => simp [passes, days, Timeline.isShown_iff_day]
  | snap k =>
    obtain ⟨edge, boundary⟩ := k
    cases boundary with
    | unit u =>
      by_cases hu : u = .week
      · subst hu
        have hstart : Timeline.dayNumber (Timeline.startOf first .week t) =
            Timeline.firstDay first t := rfl
        have hend := Timeline.dayNumber_endOf_week first t
        cases edge with
        | start => simp [passes, days, Timeline.isShown_iff_day, hstart]
        | finish => simp [passes, days, Timeline.isShown_iff_day, hstart, hend]
      · -- no day is visited, and the moment passed through is in range with `t`
        have hs := Timeline.isShown_startOf hu first ht
        have he := Timeline.isShown_endOf hu first ht
        cases edge with
        | start => cases u <;> simp [passes, days, hs] at hu ⊢
        | finish => cases u <;> simp [passes, days, he] at hu ⊢
    | weekday w =>
      cases edge with
      | start => simp [passes, days, Timeline.isShown_iff_day]
      | finish => simp [passes, days, Timeline.isShown_iff_day]
    | businessWeek =>
      cases edge with
      | start => simp [passes, days, Timeline.firstDay, Timeline.isShown_iff_day]
      | finish =>
        cases hu : Timeline.isUnderWay first anchor t with
        | true =>
          -- the clause ends where it stands
          have hday := (Timeline.isShown_iff_day t).mp ht
          simp [passes, days, hu, Timeline.firstDay, Timeline.isShown_iff_day, hday]
        | false =>
          simp [passes, days, hu, Timeline.firstDay, Timeline.isShown_iff_day,
            Timeline.dayNumber_endOf_day, Timeline.dayNumber_add_days]

/-- The result of a clause is the last moment it passes through. -/
theorem isShown_exact (ht : Timeline.IsShown t) {k : Clause}
    (h : ∀ p ∈ k.passes first anchor t, Timeline.IsShown p) :
    Timeline.IsShown (k.exact first anchor t) := by
  rw [exact, List.getLastD_eq_getLast?]
  cases hl : (k.passes first anchor t).getLast? with
  | none => exact ht
  | some p => exact h p (List.mem_of_getLast? hl)

theorem passesAll_iff_daysAll (ht : Timeline.IsShown t) (ks : List Clause) :
    (∀ p ∈ passesAll first anchor t ks, Timeline.IsShown p) ↔
      ∀ d ∈ daysAll first anchor t ks, Timeline.IsShownDay d := by
  induction ks generalizing t with
  | nil => simp [passesAll, daysAll]
  | cons k ks ih =>
    have hk : (∀ p ∈ k.passes first anchor t, Timeline.IsShown p) ↔
        ∀ d ∈ k.days first anchor t, Timeline.IsShownDay d := passes_iff_days ht k
    rw [passesAll, daysAll, List.forall_mem_append, List.forall_mem_append, hk]
    -- only a first clause that stays in range leaves a moment to go on from
    constructor
    · rintro ⟨hd, hp⟩
      exact ⟨hd, (ih (isShown_exact ht (hk.mpr hd))).mp hp⟩
    · rintro ⟨hd, hds⟩
      exact ⟨hd, (ih (isShown_exact ht (hk.mpr hd))).mpr hds⟩

/-- A unit other than the week is always snapped to. -/
theorem exists_apply_snap (c : Calendar) (anchor s : Stamp) (edge : Edge) {u : TimeUnit}
    (hu : u ≠ .week) : ∃ v, (snap ⟨edge, .unit u⟩).apply c anchor s = .ok v := by
  cases edge with
  | start =>
    apply (c.startOf_follows u s).ok_iff.mpr
    simpa using Timeline.isShown_startOf hu c.weekStart s.wall.isShown
  | finish =>
    apply (c.endOf_follows hu s).ok_iff.mpr
    simpa using Timeline.isShown_endOf hu c.weekStart s.wall.isShown

/-- A run that fails does so at one clause: it can be followed up to there, and no further. -/
theorem applyAll_first_failure {c : Calendar} {anchor s : Stamp} {f : RangeFault}
    {ks : List Clause} (h : applyAll c anchor s ks = .error f) :
    ∃ i k v, ks[i]? = some k ∧ applyAll c anchor s (ks.take i) = .ok v ∧
      k.apply c anchor v = .error f ∧
      (∀ j ≤ i, ∃ v, applyAll c anchor s (ks.take j) = .ok v) ∧
      ∀ j, i < j → applyAll c anchor s (ks.take j) = .error f := by
  induction ks generalizing s with
  | nil => simp [applyAll, pure, Except.pure] at h
  | cons k ks ih =>
    have hcons (ks : List Clause) : applyAll c anchor s (k :: ks) =
        k.apply c anchor s >>= fun s => applyAll c anchor s ks := List.foldlM_cons
    rw [hcons] at h
    cases hk : k.apply c anchor s with
    | error g =>
      -- the first clause fails, so only the empty prefix is left
      rw [hk] at h
      obtain rfl : g = f := Except.error.inj h
      refine ⟨0, k, s, rfl, rfl, hk, ?_, ?_⟩
      · intro j hj
        rw [Nat.le_zero.mp hj]
        exact ⟨s, rfl⟩
      · intro j hj
        obtain ⟨j, rfl⟩ := Nat.exists_eq_add_one_of_ne_zero (by omega : j ≠ 0)
        rw [List.take_succ_cons, hcons, hk]
        rfl
    | ok v =>
      rw [hk] at h
      obtain ⟨i, x, w, hx, hv, hf, hbefore, hafter⟩ := ih h
      refine ⟨i + 1, x, w, hx, ?_, hf, ?_, ?_⟩
      · rw [List.take_succ_cons, hcons, hk]
        exact hv
      · intro j hj
        cases j with
        | zero => exact ⟨s, rfl⟩
        | succ j =>
          rw [List.take_succ_cons, hcons, hk]
          exact hbefore j (by omega)
      · intro j hj
        obtain ⟨j, rfl⟩ := Nat.exists_eq_add_one_of_ne_zero (by omega : j ≠ 0)
        rw [List.take_succ_cons, hcons, hk]
        exact hafter j (by omega)

end Clause

namespace Expression

theorem clauses_take (x : Expression) (n : Nat) : (x.take n).clauses = x.clauses.take n :=
  List.map_take

theorem written_take {x : Expression} (h : x.written = .ok x.text) (n : Nat) :
    (x.take n).written = .ok (x.take n).text := by
  apply written_eq_ok
  intro k hk
  rw [clauses_take] at hk
  exact isWritable_of_written h k (List.mem_of_mem_take hk)

theorem evaluate_ok_iff_days (x : Expression) (c : Calendar) (r : Stamp) :
    (∃ v, x.evaluate c r = .ok v) ↔
      ∀ d ∈ Clause.daysAll c.weekStart r.wall.micros r.wall.micros x.clauses,
        Timeline.IsShownDay d := by
  have hrun := (Clause.evaluate_follows c r x.clauses).ok_iff
  rw [Clause.passesAll_iff_daysAll r.wall.isShown] at hrun
  simp only [evaluate_eq_ok]
  exact hrun

/-- An expression that was read has a value, the exact one, as long as all days it visits are in the
years 1 to 9999. Otherwise it fails by the first clause that visits another day, and under its own
text: the expressions of fewer nodes have values, those of more fail for the same reason. -/
theorem evaluate_of_ofText {text : Option String} {ref : Option Stamp} {x : Expression}
    (h : ofText text ref = .ok x) (c : Calendar) (r : Stamp) :
    x.written = .ok x.text ∧
      ((∃ v, x.evaluate c r = .ok v) ↔
        ∀ d ∈ Clause.daysAll c.weekStart r.wall.micros r.wall.micros x.clauses,
          1 ≤ (CivilDate.ofDay d).year ∧ (CivilDate.ofDay d).year ≤ 9999) ∧
      (∀ v, x.evaluate c r = .ok v → v.zone = r.zone ∧
        v.wall.micros = Clause.exactAll c.weekStart r.wall.micros r.wall.micros x.clauses) ∧
      (∀ s edge u, u ≠ .week → ∃ v, (Clause.snap ⟨edge, .unit u⟩).apply c r s = .ok v) ∧
      ∀ failure, x.evaluate c r = .error failure →
        ∃ i k s fault, x.clauses[i]? = some k ∧ (x.take i).evaluate c r = .ok s ∧
          k.apply c r s = .error fault ∧ failure = .range x.text fault.message ∧
          (∀ j ≤ i, ∃ v, (x.take j).evaluate c r = .ok v) ∧
          ∀ j, i < j → (x.take j).evaluate c r = .error (.range (x.take j).text fault.message) := by
  refine ⟨written_of_ofText h, evaluate_ok_iff_days x c r, ?_, ?_, ?_⟩
  · intro v hv
    have hrun := Clause.evaluate_follows c r x.clauses
    rw [evaluate_eq_ok.mp hv] at hrun
    obtain ⟨hwall, hzone⟩ := hrun.of_ok
    exact ⟨hzone, hwall⟩
  · intro s edge u hu
    exact Clause.exists_apply_snap c r s edge hu
  · intro failure hf
    obtain ⟨fault, hfault, rfl⟩ := evaluate_eq_error.mp hf
    -- the first clause to fail fails every longer run by the same fault
    obtain ⟨i, k, s, hk, hs, happly, hbefore, hafter⟩ := Clause.applyAll_first_failure hfault
    refine ⟨i, k, s, fault, hk, ?_, happly, failureOf_of_written (written_of_ofText h), ?_, ?_⟩
    · rw [evaluate_eq_ok, clauses_take]
      exact hs
    · intro j hj
      obtain ⟨v, hv⟩ := hbefore j hj
      refine ⟨v, ?_⟩
      rw [evaluate_eq_ok, clauses_take]
      exact hv
    · intro j hj
      rw [evaluate_eq_range (written_take (written_of_ofText h) j)]
      refine ⟨fault, ?_, rfl⟩
      rw [clauses_take]
      exact hafter j hj

/-- The first week of the year 1 starts on the Sunday before it, which fails the first clause even
though the second leads back into the year. -/
theorem evaluate_of_ofText_first_week :
    ∃ x, ofText (some "/w+7d") none = .ok x ∧ x.written = .ok "/w+7d" ∧
      ∃ reason, x.evaluate Calendar.standard ⟨⟨0, by decide, by decide⟩, .floating, false⟩ =
        .error (.range "/w+7d" reason) := by
  have hx : ofText (some "/w+7d") none = .ok ⟨[.snap ⟨.start, .unit .week⟩ (some ⟨.slash, "/"⟩),
      .shift ⟨.plus, ⟨7, by decide⟩, .day⟩ (some ⟨.plus, "+"⟩)], none⟩ := by decide +kernel
  have ht : Expression.text ⟨[.snap ⟨.start, .unit .week⟩ (some ⟨.slash, "/"⟩),
      .shift ⟨.plus, ⟨7, by decide⟩, .day⟩ (some ⟨.plus, "+"⟩)], none⟩ = "/w+7d" := by
    decide +kernel
  obtain ⟨hw, hdays, _, _, hfail⟩ := evaluate_of_ofText hx Calendar.standard
    ⟨⟨0, by decide, by decide⟩, .floating, false⟩
  rw [ht] at hw hfail
  refine ⟨_, hx, hw, ?_⟩
  generalize hv : evaluate _ Calendar.standard _ = value at hdays hfail ⊢
  cases value with
  | ok v =>
    have hall := hdays.mp ⟨v, rfl⟩
    have hsunday : 1 ≤ (CivilDate.ofDay (-1)).year := (hall (-1) (by decide)).1
    exact absurd hsunday (by decide)
  | error f =>
    obtain ⟨_, _, _, fault, _, _, _, rfl, _⟩ := hfail f rfl
    exact ⟨fault.message, rfl⟩

end Expression

end RelativeTime
