import Mathlib.Algebra.Ring.Int.Defs
import RelativeTime.Proofs.Range

/-!
Shifts of fixed length. All units but the month have one length, so shifts by them move every wall
time by the same distance, and distances add up in whatever order and units they are given. A clock
can follow as long as each of the partial sums stays in its range.
-/
namespace RelativeTime

/-- The microseconds in a unit. A month has no length of its own. -/
def TimeUnit.length : TimeUnit → Int
  | second => Timeline.second
  | minute => Timeline.minute
  | hour => Timeline.hour
  | day => Timeline.day
  | week => Timeline.week
  | month => 0

theorem Timeline.shift_eq_add {u : TimeUnit} (hu : u ≠ .month) (n t : Int) :
    shift u n t = t + n * u.length := by
  cases u with
  | month => exact absurd rfl hu
  | _ => rfl

namespace Clause

/-- The clause moves every wall time by the same distance. -/
def IsFixed : Clause → Prop
  | now => True
  | shift s => s.unit ≠ .month
  | snap _ => False

instance (k : Clause) : Decidable k.IsFixed := by
  cases k <;> unfold IsFixed <;> infer_instance

/-- The distance that a shift of fixed length moves by, in microseconds. -/
def distance : Clause → Int
  | shift s => s.sign.apply s.amount.count * s.unit.length
  | _ => 0

/-- The distance that clauses move by together. -/
def distanceAll (ks : List Clause) : Int :=
  (ks.map distance).sum

section Exact

variable {first : Weekday} {anchor t : Int} {k : Clause} {ks : List Clause}

@[simp] theorem distanceAll_cons : distanceAll (k :: ks) = k.distance + distanceAll ks := by
  rw [distanceAll, List.map_cons, List.sum_cons, distanceAll]

theorem passes_of_isFixed (h : k.IsFixed) : k.passes first anchor t = [t + k.distance] := by
  cases k with
  | now => simp [passes, distance]
  | shift s => rw [passes, distance, Timeline.shift_eq_add h]
  | snap s => exact absurd h id

theorem exact_of_isFixed (h : k.IsFixed) : k.exact first anchor t = t + k.distance := by
  rw [exact, passes_of_isFixed h, List.getLastD_cons, List.getLastD_nil]

theorem exactAll_of_isFixed (h : ∀ k ∈ ks, k.IsFixed) :
    exactAll first anchor t ks = t + distanceAll ks := by
  induction ks generalizing t with
  | nil => simp [exactAll, distanceAll]
  | cons k ks ih =>
    have hk : k.IsFixed := h k List.mem_cons_self
    have hks : ∀ x ∈ ks, x.IsFixed := fun x hx => h x (List.mem_cons_of_mem k hx)
    have hrest : exactAll first anchor (t + k.distance) ks = t + k.distance + distanceAll ks :=
      ih hks
    calc exactAll first anchor t (k :: ks)
        = exactAll first anchor (k.exact first anchor t) ks := rfl
      _ = t + k.distance + distanceAll ks := by rw [exact_of_isFixed hk, hrest]
      _ = t + distanceAll (k :: ks) := by rw [distanceAll_cons, Int.add_assoc]

/-- The moments passed through are the partial sums. -/
theorem passesAll_iff_sums (ht : Timeline.IsShown t) (h : ∀ k ∈ ks, k.IsFixed) :
    (∀ p ∈ passesAll first anchor t ks, Timeline.IsShown p) ↔
      ∀ i ≤ ks.length, Timeline.IsShown (t + distanceAll (ks.take i)) := by
  induction ks generalizing t with
  | nil => simp [passesAll, distanceAll, ht]
  | cons k ks ih =>
    have hk : k.IsFixed := h k List.mem_cons_self
    have hks : ∀ x ∈ ks, x.IsFixed := fun x hx => h x (List.mem_cons_of_mem k hx)
    have hsum (i : Nat) : t + distanceAll ((k :: ks).take (i + 1)) =
        t + k.distance + distanceAll (ks.take i) := by
      rw [List.take_succ_cons, distanceAll_cons, Int.add_assoc]
    rw [passesAll, passes_of_isFixed hk, exact_of_isFixed hk, List.singleton_append,
      List.forall_mem_cons]
    constructor
    · rintro ⟨hfirst, hrest⟩ i hi
      cases i with
      | zero => simpa [distanceAll] using ht
      | succ i =>
        rw [hsum]
        exact (ih hfirst hks).mp hrest i (Nat.le_of_succ_le_succ hi)
    · intro hall
      -- the first of the sums is where the rest begins
      have hfirst : Timeline.IsShown (t + k.distance) := by
        have h1 := hall 1 (by simp)
        rw [hsum] at h1
        simpa [distanceAll] using h1
      refine ⟨hfirst, (ih hfirst hks).mpr ?_⟩
      intro i hi
      have hnext := hall (i + 1) (Nat.succ_le_succ hi)
      rwa [hsum] at hnext

end Exact

section Repeated

variable {c : Calendar} {anchor s v : Stamp}

/-- A shift leads to the first showing of a wall time. -/
theorem repeated_of_apply {k : Clause} (hk : k.IsFixed) (h : k.apply c anchor s = .ok v) :
    v.repeated = (s.repeated && !k.isShift) := by
  have hmoved {e : Except RangeFault WallTime} (he : s.moved <$> e = .ok v) :
      v.repeated = false := by
    cases e with
    | error f => simp [Functor.map, Except.map] at he
    | ok w =>
      obtain rfl : s.moved w = v := Except.ok.inj he
      rfl
  -- only a word for now hands its stamp on as it is
  cases k with
  | now =>
    obtain rfl : s = v := Except.ok.inj h
    simp [isShift]
  | shift k =>
    obtain ⟨sign, n, u⟩ := k
    cases sign with
    | plus => simpa [isShift] using hmoved h
    | minus => simpa [isShift] using hmoved h
  | snap k => exact absurd hk id

theorem repeated_of_applyAll {ks : List Clause} (hks : ∀ k ∈ ks, k.IsFixed)
    (h : applyAll c anchor s ks = .ok v) : v.repeated = (s.repeated && !ks.any isShift) := by
  induction ks generalizing s with
  | nil =>
    obtain rfl : s = v := Except.ok.inj h
    simp
  | cons k ks ih =>
    rw [applyAll, List.foldlM_cons] at h
    cases hk : k.apply c anchor s with
    | error f => simp [hk, bind, Except.bind] at h
    | ok u =>
      rw [hk] at h
      have hu := repeated_of_apply (hks k List.mem_cons_self) hk
      have hv := ih (fun x hx => hks x (List.mem_cons_of_mem k hx)) h
      rw [hv, hu, List.any_cons, Bool.not_or, Bool.and_assoc]

end Repeated

end Clause

namespace Expression

theorem value_of_isFixed {x : Expression} {c : Calendar} {r v : Stamp}
    (h : ∀ k ∈ x.clauses, k.IsFixed) (hv : x.evaluate c r = .ok v) :
    v.wall.micros = r.wall.micros + Clause.distanceAll x.clauses ∧ v.zone = r.zone ∧
      v.repeated = (r.repeated && !x.isModified) := by
  have hok : Clause.evaluate c r x.clauses = .ok v := evaluate_eq_ok.mp hv
  have hrun := Clause.evaluate_follows c r x.clauses
  rw [hok, Clause.exactAll_of_isFixed h] at hrun
  exact ⟨hrun.of_ok.1, hrun.of_ok.2, Clause.repeated_of_applyAll h hok⟩

/-- An expression of nothing but shifts of fixed length has a value as long as every partial sum
of its distances stays in the years 1 to 9999, and the value lies at the whole sum. Two of them with
one sum, whatever their shifts are, have one value wherever both have any. -/
theorem evaluate_of_isFixed {x : Expression} (h : ∀ k ∈ x.clauses, k.IsFixed) (c : Calendar)
    (r : Stamp) :
    ((∃ v, x.evaluate c r = .ok v) ↔ ∀ i ≤ x.clauses.length,
        1 ≤ (Timeline.dateOf (r.wall.micros + Clause.distanceAll (x.clauses.take i))).year ∧
          (Timeline.dateOf (r.wall.micros + Clause.distanceAll (x.clauses.take i))).year ≤ 9999) ∧
      (∀ v, x.evaluate c r = .ok v →
        v.wall.micros = r.wall.micros + Clause.distanceAll x.clauses ∧ v.zone = r.zone ∧
          v.repeated = (r.repeated && !x.isModified)) ∧
      ∀ (y : Expression) (d : Calendar) (v w : Stamp), (∀ k ∈ y.clauses, k.IsFixed) →
        Clause.distanceAll y.clauses = Clause.distanceAll x.clauses →
        x.evaluate c r = .ok v → y.evaluate d r = .ok w →
          v.wall = w.wall ∧ v.zone = w.zone ∧ v.agrees w = true ∧
            (x.isModified = y.isModified → v = w) := by
  refine ⟨?_, fun v => value_of_isFixed h, ?_⟩
  · -- the moments passed through are the partial sums
    have hrun := (Clause.evaluate_follows c r x.clauses).ok_iff
    rw [Clause.passesAll_iff_sums r.wall.isShown h] at hrun
    simp only [evaluate_eq_ok, ← Timeline.isShown_iff_year]
    exact hrun
  · intro y d v w hy hsum hv hw
    obtain ⟨hvw, hvz, hvr⟩ := value_of_isFixed h hv
    obtain ⟨hww, hwz, hwr⟩ := value_of_isFixed hy hw
    have hzone : v.zone = w.zone := hvz.trans hwz.symm
    have hmicros : v.wall.micros = w.wall.micros := by rw [hvw, hww, hsum]
    have hwall : v.wall = w.wall := WallTime.eq_of_micros hmicros
    refine ⟨hwall, hzone, ?_, ?_⟩
    · rw [Stamp.agrees_of_zone hzone, hmicros, decide_eq_true rfl]
    · intro hm
      have hrepeated : v.repeated = w.repeated := by rw [hvr, hwr, hm]
      exact Stamp.eq_of_fields hwall hzone hrepeated

/-- An hour and a half before the last moment there is, ninety minutes lead to it, and so do an hour
and thirty minutes. Two hours forward and thirty minutes back fail half-way. -/
theorem evaluate_of_isFixed_last :
    let r : Stamp := ⟨⟨315537892199999999, by decide, by decide⟩, .floating, false⟩
    let minutes : Expression := ⟨[.shift ⟨.plus, ⟨90, by decide⟩, .minute⟩ none], none⟩
    let hour : Expression :=
      ⟨[.shift ⟨.plus, ⟨1, by decide⟩, .hour⟩ none, .shift ⟨.plus, ⟨30, by decide⟩, .minute⟩ none],
        none⟩
    let hours : Expression :=
      ⟨[.shift ⟨.plus, ⟨2, by decide⟩, .hour⟩ none, .shift ⟨.minus, ⟨30, by decide⟩, .minute⟩ none],
        none⟩
    (∀ k ∈ minutes.clauses, k.IsFixed) ∧ (∀ k ∈ hour.clauses, k.IsFixed) ∧
      (∀ k ∈ hours.clauses, k.IsFixed) ∧
      Clause.distanceAll hour.clauses = Clause.distanceAll minutes.clauses ∧
      Clause.distanceAll hours.clauses = Clause.distanceAll minutes.clauses ∧
      (∃ v, minutes.evaluate .standard r = .ok v ∧ hour.evaluate .standard r = .ok v ∧
        v.wall.micros = 315537897599999999) ∧
      ¬ ∃ v, hours.evaluate .standard r = .ok v := by
  intro r minutes hour hours
  have hm : ∀ k ∈ minutes.clauses, k.IsFixed := by decide
  have hh : ∀ k ∈ hour.clauses, k.IsFixed := by decide
  have hhs : ∀ k ∈ hours.clauses, k.IsFixed := by decide
  have hsum : Clause.distanceAll hour.clauses = Clause.distanceAll minutes.clauses := by decide
  obtain ⟨hminutes, hvalue, hsame⟩ := evaluate_of_isFixed hm .standard r
  obtain ⟨hhour, -, -⟩ := evaluate_of_isFixed hh .standard r
  obtain ⟨hhours, -, -⟩ := evaluate_of_isFixed hhs .standard r
  refine ⟨hm, hh, hhs, hsum, by decide, ?_, ?_⟩
  · obtain ⟨v, hv⟩ := hminutes.mpr (by decide +kernel)
    obtain ⟨w, hw⟩ := hhour.mpr (by decide +kernel)
    obtain ⟨-, -, -, heq⟩ := hsame hour .standard v w hh hsum hv hw
    obtain rfl : v = w := heq rfl
    exact ⟨v, hv, hw, (hvalue v hv).1⟩
  · intro hv
    have hall := hhours.mp hv 1 (by decide)
    exact absurd hall (by decide +kernel)

end Expression

end RelativeTime
