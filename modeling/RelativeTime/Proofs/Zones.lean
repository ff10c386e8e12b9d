import Mathlib.Data.List.Basic
import RelativeTime.Expression
import RelativeTime.Proofs.Following

/-!
Evaluation does not look at the zone. Two runs that begin with one wall time in two zones stay side
by side: after every clause they show one wall time, each in the zone it began in, or they have
failed for the same reason. The only step that compares stamps compares two of one zone.
-/
namespace RelativeTime

/-- Two results side by side: related values, or one fault. -/
inductive Paired {α β : Type} (R : α → β → Prop) : Except RangeFault α → Except RangeFault β → Prop
  | shown {a : α} {b : β} (related : R a b) : Paired R (.ok a) (.ok b)
  | lost (f : RangeFault) : Paired R (.error f) (.error f)

namespace Paired

variable {α β γ δ : Type} {R : α → β → Prop} {S : γ → δ → Prop}
  {x : Except RangeFault α} {y : Except RangeFault β}

theorem bind {k : α → Except RangeFault γ} {l : β → Except RangeFault δ} (h : Paired R x y)
    (hk : ∀ a b, R a b → Paired S (k a) (l b)) : Paired S (x >>= k) (y >>= l) := by
  cases h with
  | lost f => exact .lost f
  | shown related => exact hk _ _ related

theorem map_self {f : α → γ} {g : α → δ} (h : ∀ a, S (f a) (g a)) (x : Except RangeFault α) :
    Paired S (f <$> x) (g <$> x) := by
  cases x with
  | error e => exact .lost e
  | ok a => exact .shown (h a)

/-- What one step keeps side by side, a whole run does. -/
theorem foldlM {ι : Type} {f : α → ι → Except RangeFault α} {g : β → ι → Except RangeFault β}
    (h : ∀ a b i, R a b → Paired R (f a i) (g b i)) {a : α} {b : β} (hab : R a b) (is : List ι) :
    Paired R (is.foldlM f a) (is.foldlM g b) := by
  induction is generalizing a b with
  | nil => exact .shown hab
  | cons i is ih =>
    rw [List.foldlM_cons, List.foldlM_cons]
    exact (h a b i hab).bind fun a b hab => ih hab

end Paired

/-- One wall time in two zones. -/
structure Stamp.Beside (y z : Zone) (a b : Stamp) : Prop where
  wall : a.wall = b.wall
  left : a.zone = y
  right : b.zone = z

namespace Stamp.Beside

variable {y z : Zone} {a b : Stamp} (h : Beside y z a b)

include h

theorem moved (w : WallTime) : Beside y z (a.moved w) (b.moved w) :=
  ⟨rfl, h.left, h.right⟩

theorem refitted (w : WallTime) : Beside y z (a.refitted w) (b.refitted w) :=
  ⟨rfl, h.left, h.right⟩

theorem weekday : a.weekday = b.weekday := by
  rw [Stamp.weekday, Stamp.weekday, h.wall]

theorem isWeekend : a.isWeekend = b.isWeekend := by
  rw [Stamp.isWeekend, Stamp.isWeekend, h.weekday]

theorem shift (u : TimeUnit) (n : Int) : Paired (Beside y z) (a.shift u n) (b.shift u n) := by
  rw [Stamp.shift, Stamp.shift, h.wall]
  exact Paired.map_self h.moved _

theorem shiftBack (u : TimeUnit) (n : Int) :
    Paired (Beside y z) (a.shiftBack u n) (b.shiftBack u n) := by
  rw [Stamp.shiftBack, Stamp.shiftBack, h.wall]
  exact Paired.map_self h.moved _

theorem lastWeekday (d : Weekday) : Paired (Beside y z) (a.lastWeekday d) (b.lastWeekday d) := by
  rw [Stamp.lastWeekday, Stamp.lastWeekday, h.wall]
  exact Paired.map_self h.moved _

theorem nextWeekday (d : Weekday) : Paired (Beside y z) (a.nextWeekday d) (b.nextWeekday d) := by
  rw [Stamp.nextWeekday, Stamp.nextWeekday, h.wall]
  exact Paired.map_self h.moved _

theorem startOf (c : Calendar) (u : TimeUnit) :
    Paired (Beside y z) (c.startOf u a) (c.startOf u b) := by
  rw [Calendar.startOf, Calendar.startOf, h.wall]
  apply Paired.map_self
  intro w
  split
  · exact h.moved w
  · exact h.refitted w

theorem endOf (c : Calendar) (u : TimeUnit) : Paired (Beside y z) (c.endOf u a) (c.endOf u b) := by
  rw [Calendar.endOf, Calendar.endOf, h.wall]
  apply Paired.map_self
  intro w
  split
  · exact h.moved w
  · exact h.refitted w

theorem businessMonday (c : Calendar) :
    Paired (Beside y z) (c.businessMonday a) (c.businessMonday b) := by
  apply (h.startOf c .week).bind
  intro v w hvw
  rw [hvw.weekday]
  exact hvw.shift .day _

/-- In either zone the weeks are compared by wall time, so the answer is one. -/
theorem sameWeek (c : Calendar) {p q : Stamp} (hpq : Beside y z p q) :
    Paired Eq (c.sameWeek a p) (c.sameWeek b q) := by
  apply (h.startOf c .week).bind
  intro v w hvw
  apply (hpq.startOf c .week).bind
  intro v' w' hvw'
  apply Paired.shown
  rw [agrees_of_zone (hvw.left.trans hvw'.left.symm),
    agrees_of_zone (hvw.right.trans hvw'.right.symm), hvw.wall, hvw'.wall]

theorem endOfBusinessWeek (c : Calendar) {p q : Stamp} (hpq : Beside y z p q) :
    Paired (Beside y z) (c.endOfBusinessWeek p a) (c.endOfBusinessWeek q b) := by
  apply (h.businessMonday c).bind
  intro v w hvw
  apply (h.sameWeek c hpq).bind
  rintro same _ rfl
  rw [h.isWeekend]
  split
  · exact .shown h
  · apply (hvw.shift .day 4).bind
    intro friday friday' hf
    exact hf.endOf c .day

end Stamp.Beside

namespace Clause

variable {y z : Zone} {p q a b : Stamp}

/-- One clause, with anchors of one wall time too. -/
theorem apply_beside (c : Calendar) (hpq : p.Beside y z q) (h : a.Beside y z b) (k : Clause) :
    Paired (Stamp.Beside y z) (k.apply c p a) (k.apply c q b) := by
  cases k with
  | now => exact .shown h
  | shift k =>
    obtain ⟨sign, n, u⟩ := k
    cases sign with
    | plus => exact h.shift u n.count
    | minus => exact h.shiftBack u n.count
  | snap k =>
    obtain ⟨edge, boundary⟩ := k
    cases boundary with
    | unit u =>
      cases edge with
      | start => exact h.startOf c u
      | finish => exact h.endOf c u
    | weekday d =>
      cases edge with
      | start => exact h.lastWeekday d
      | finish => exact h.nextWeekday d
    | businessWeek =>
      cases edge with
      | start => exact h.businessMonday c
      | finish => exact h.endOfBusinessWeek c hpq

theorem evaluate_beside (c : Calendar) (h : p.Beside y z q) (ks : List Clause) :
    Paired (Stamp.Beside y z) (evaluate c p ks) (evaluate c q ks) :=
  Paired.foldlM (fun _ _ k hab => apply_beside c h hab k) h ks

end Clause

theorem Amount.overlong_pos : 0 < Nat.pow 10 maxDigits := by
  rw [Nat.pow_eq]
  exact Nat.pow_pos (by decide)

/-- The least amount that has too many digits to be written. -/
def Amount.overlong : Amount := ⟨Nat.pow 10 maxDigits, overlong_pos⟩

namespace Expression

/-- One wall time in two zones, be it in the first or the second of two showings: an expression has
values of one wall time there, each in the zone of its reference, or fails by one fault. The fault
is told under the text of the expression in either zone, unless an amount is too long to be written:
then in either the failure to write it is all that is told. -/
theorem evaluate_in_two_zones (x : Expression) (c : Calendar) (w : WallTime) (y z : Zone)
    (r s : Bool) :
    (∃ u v, x.evaluate c ⟨w, y, r⟩ = .ok u ∧ x.evaluate c ⟨w, z, s⟩ = .ok v ∧
        u.wall = v.wall ∧ u.zone = y ∧ v.zone = z) ∨
      ∃ fault failure, Clause.evaluate c ⟨w, y, r⟩ x.clauses = .error fault ∧
        Clause.evaluate c ⟨w, z, s⟩ x.clauses = .error fault ∧
        x.evaluate c ⟨w, y, r⟩ = .error failure ∧ x.evaluate c ⟨w, z, s⟩ = .error failure ∧
        ((∀ k ∈ x.clauses, k.isWritable = true) → failure = .range x.text fault.message) ∧
        ((∃ k ∈ x.clauses, k.isWritable = false) →
          failure = .foreign ⟨Unwritable.message ⟨Amount.maxDigits⟩, true⟩) := by
  have hstart : Stamp.Beside y z ⟨w, y, r⟩ ⟨w, z, s⟩ := ⟨rfl, rfl, rfl⟩
  have hrun := Clause.evaluate_beside c hstart x.clauses
  -- the runs are paired: both succeed, or both fail by one fault
  generalize hl : Clause.evaluate c ⟨w, y, r⟩ x.clauses = left at hrun
  generalize hr : Clause.evaluate c ⟨w, z, s⟩ x.clauses = right at hrun
  cases hrun with
  | @shown u v huv =>
    left
    exact ⟨u, v, evaluate_eq_ok.mpr hl, evaluate_eq_ok.mpr hr, huv.wall, huv.left, huv.right⟩
  | lost fault =>
    right
    refine ⟨fault, x.failureOf fault, rfl, rfl, evaluate_eq_error.mpr ⟨fault, hl, rfl⟩,
      evaluate_eq_error.mpr ⟨fault, hr, rfl⟩, ?_, ?_⟩
    · intro h
      exact failureOf_of_written (written_eq_ok h)
    · intro h
      exact failureOf_of_unwritable (written_eq_error h)

/-- No calendar has as many days as the number, but what is told is that it cannot be written. -/
theorem evaluate_overlong :
    let x : Expression := ⟨[.shift ⟨.plus, .overlong, .day⟩ none], none⟩
    let early : Stamp := ⟨⟨0, by decide, by decide⟩, .floating, false⟩
    Clause.evaluate .standard early x.clauses = .error .daysTooWide ∧
      x.evaluate .standard early = .error (.foreign ⟨"Exceeds the limit (4300 digits) for " ++
        "integer string conversion; use sys.set_int_max_str_digits() to increase the limit",
        true⟩) ∧
      ∀ spelling reason, x.evaluate .standard early ≠ .error (.range spelling reason) := by
  intro x early
  have hfault : Clause.evaluate .standard early x.clauses = .error .daysTooWide := by
    decide +kernel
  have hlong : x.written = .error ⟨Amount.maxDigits⟩ := by decide +kernel
  have hvalue : x.evaluate .standard early =
      .error (.foreign ⟨Unwritable.message ⟨Amount.maxDigits⟩, true⟩) :=
    evaluate_eq_error.mpr ⟨_, hfault, (failureOf_of_unwritable hlong).symm⟩
  refine ⟨hfault, hvalue.trans (by decide +kernel), ?_⟩
  intro spelling reason
  rw [hvalue]
  exact nofun

end Expression

end RelativeTime
