import Mathlib.Data.Int.Init
import RelativeTime.Proofs.Steps
import RelativeTime.Zone.Known

/-!
Snaps in universal time. A clock that is never set while it is still making up for being set before
shows its times in the order in which they pass, but for those that it skips and those that it shows
twice. A snap between times that are not skipped stays on its side of the stamp, unless it leads up
from the second showing of a time to the first of a later one and the clock shows again all there is
between the two. That is what a snap from a weekday up to itself does.
-/
namespace RelativeTime

/-- The moment lies on the side of another one that a snap leads to. -/
def Edge.OnSide (e : Edge) (t x : Int) : Prop :=
  match e with
  | .start => x ≤ t
  | .finish => t ≤ x

/-- How far the moment lies on that side. -/
def Edge.reach (e : Edge) (t x : Int) : Int :=
  match e with
  | .start => t - x
  | .finish => x - t

namespace Timeline

theorem edgeOf_onSide (first : Weekday) (e : Edge) (u : TimeUnit) (t : Int) :
    e.OnSide t (edgeOf first e u t) := by
  cases e with
  | start => exact startOf_le first u t
  | finish => exact le_endOf first u t

theorem nearest_onSide (e : Edge) (w : Weekday) (t : Int) : e.OnSide t (nearest e w t) := by
  have hnearest : IsNearest e w t (nearest e w t) := nearest_isNearest e w t
  cases e with
  | start => exact hnearest.1.2
  | finish => exact hnearest.1.2

end Timeline

/-- The distance from universal time when a clock shows a wall time, for the first time or again. -/
abbrev Clock := Bool → Int → Int

/-- The clock of a zone. A floating stamp has none. -/
def Zone.clock? : Zone → Option Clock
  | .floating => none
  | .fixed o => some fun _ _ => o.micros
  | .named z => some z.history.offsetAt

namespace Clock

variable {k : Clock} {e : Edge} {t x : Int} {a b : Bool}

/-- The moment of universal time when the clock shows a wall time. -/
def moment (k : Clock) (repeated : Bool) (t : Int) : Int :=
  t - k repeated t

/-- The clock is set forward over the wall time. -/
def Skips (k : Clock) (t : Int) : Prop :=
  k false t < k true t

/-- The clock is set back over the wall time. -/
def ShowsTwice (k : Clock) (t : Int) : Prop :=
  k true t < k false t

instance : DecidablePred k.Skips := fun t => inferInstanceAs (Decidable (k false t < k true t))

instance : DecidablePred k.ShowsTwice :=
  fun t => inferInstanceAs (Decidable (k true t < k false t))

/-- The clock shows again all wall times from one to another. -/
def ShowsAllTwice (k : Clock) (t x : Int) : Prop :=
  ∀ u, t ≤ u → u ≤ x → k.ShowsTwice u

/-- To mean the first showing instead of the second leads to the other side than a snap does. -/
def Misleads (k : Clock) (e : Edge) (t : Int) : Prop :=
  match e with
  | .start => k.Skips t
  | .finish => k.ShowsTwice t

/-- One showing comes no later than another one of a later time, unless it is the second of a time
and the other one is the first of a time that is shown again with all before it. -/
def Ascends (k : Clock) (a b : Bool) (t x : Int) : Prop :=
  k.moment a t ≤ k.moment b x ↔ ¬ (a = true ∧ b = false ∧ k.ShowsAllTwice t x)

/-- The first showing is at the moment of a showing unless that is another one. -/
theorem moment_false_eq_iff :
    k.moment false t = k.moment a t ↔ ¬ (a = true ∧ k true t ≠ k false t) := by
  cases a with
  | false => simp
  | true =>
    simp only [moment, true_and]
    omega

theorem onSide_moment_false_iff :
    e.OnSide (k.moment a t) (k.moment false t) ↔ ¬ (a = true ∧ k.Misleads e t) := by
  cases a with
  | false => cases e <;> simp [Edge.OnSide]
  | true =>
    cases e with
    | start =>
      simp only [Edge.OnSide, Misleads, Skips, moment, true_and]
      omega
    | finish =>
      simp only [Edge.OnSide, Misleads, ShowsTwice, moment, true_and]
      omega

/-- A snap keeps to its side unless the clock is set forward by more than the snap leads. -/
theorem onSide_moment_iff :
    e.OnSide (k.moment a t) (k.moment b x) ↔ e.reach (k a t) (k b x) ≤ e.reach t x := by
  cases e <;> simp only [Edge.OnSide, Edge.reach, moment] <;> omega

theorem ascends_of_le (ht : ¬ k.ShowsTwice t) (htx : t ≤ x) (h : k.moment a t ≤ k.moment b x) :
    k.Ascends a b t x :=
  iff_of_true h fun hall => ht (hall.2.2 t le_rfl htx)

theorem Ascends.of_eq {l : Clock} (h : l.Ascends a b t x) (htx : t ≤ x)
    (hl : ∀ r u, t ≤ u → k r u = l r u) : k.Ascends a b t x := by
  have htwice : k.ShowsAllTwice t x ↔ l.ShowsAllTwice t x := by
    refine forall₃_congr fun u hu _ => ?_
    rw [ShowsTwice, ShowsTwice, hl true u hu, hl false u hu]
  rw [Ascends, moment, moment, hl a t le_rfl, hl b x htx, htwice]
  exact h

end Clock

namespace ClockHistory

/-- On the clock every change is over before the next one begins. -/
def OrderlyBehind (past current : Int) : List ClockChange → Prop
  | [] => True
  | c :: cs => past < c.opens current ∧ OrderlyBehind (c.closes current) c.offset cs

instance decidableOrderlyBehind (past current : Int) :
    (cs : List ClockChange) → Decidable (OrderlyBehind past current cs)
  | [] => isTrue trivial
  | c :: cs =>
    have := decidableOrderlyBehind (c.closes current) c.offset cs
    inferInstanceAs (Decidable (_ ∧ _))

def IsOrderly (h : ClockHistory) : Prop :=
  ∃ past, OrderlyBehind past h.initial h.changes

section Changes

variable {c : ClockChange} {cs : List ClockChange} {current past t x : Int} {a b : Bool}

theorem offsetBehind_before (ht : t < c.opens current) :
    offsetBehind current (c :: cs) a t = current := by
  have hpass : ¬ c.isBehindFrom current a ≤ t := by
    simp only [ClockChange.isBehindFrom, ClockChange.opens, ClockChange.closes] at ht ⊢
    split <;> omega
  rw [offsetBehind, if_neg hpass]

theorem offsetBehind_of_le (h : OrderlyBehind past current cs) (ht : t ≤ past) :
    offsetBehind current cs a t = current := by
  cases cs with
  | nil => rfl
  | cons c cs => exact offsetBehind_before (Int.lt_of_le_of_lt ht h.1)

/-- While the clock makes up for a change, the showing decides on which side of it a stamp lies. -/
theorem offsetBehind_during (h : OrderlyBehind (c.closes current) c.offset cs)
    (hlo : c.opens current ≤ t) (hhi : t < c.closes current) :
    offsetBehind current (c :: cs) a t = if a then c.offset else current := by
  cases a with
  | true =>
    rw [offsetBehind, ClockChange.isBehindFrom, if_pos rfl, if_pos hlo,
      offsetBehind_of_le h (Int.le_of_lt hhi)]
    rfl
  | false =>
    have hpass : ¬ c.isBehindFrom current false ≤ t := not_le_of_gt hhi
    rw [offsetBehind, if_neg hpass]
    rfl

theorem offsetBehind_behind (ht : c.closes current ≤ t) :
    offsetBehind current (c :: cs) a t = offsetBehind c.offset cs a t := by
  have hpass : c.isBehindFrom current a ≤ t := by
    simp only [ClockChange.isBehindFrom, ClockChange.opens, ClockChange.closes] at ht ⊢
    split <;> omega
  rw [offsetBehind, if_pos hpass]

/-- What is not skipped is shown no earlier than the offset from before would have it. -/
theorem le_moment_behind (h : OrderlyBehind past current cs) (hx : past ≤ x)
    (hskip : ¬ Clock.Skips (offsetBehind current cs) x) :
    past - current ≤ Clock.moment (offsetBehind current cs) b x := by
  induction cs generalizing past current with
  | nil => exact Int.sub_le_sub_right hx current
  | cons c cs ih =>
    obtain ⟨hopens, hrest⟩ := h
    rcases lt_or_ge x (c.opens current) with hlo | hlo
    · rw [Clock.moment, offsetBehind_before hlo]
      exact Int.sub_le_sub_right hx current
    rcases lt_or_ge x (c.closes current) with hhi | hhi
    · simp only [Clock.Skips, Clock.moment, offsetBehind_during hrest hlo hhi] at hskip ⊢
      cases b <;> simp at hskip ⊢ <;> omega
    · -- the change itself comes no earlier, and the clock is behind it
      simp only [Clock.Skips, Clock.moment, offsetBehind_behind hhi] at hskip ⊢
      have hmoment := ih hrest hhi hskip
      simp only [ClockChange.opens, ClockChange.closes, Clock.moment] at hopens hmoment
      omega

/-- Showings that are not skipped ascend with their wall times, one change after the other. -/
theorem ascends_behind (h : OrderlyBehind past current cs) (htx : t ≤ x)
    (ht : ¬ Clock.Skips (offsetBehind current cs) t)
    (hx : ¬ Clock.Skips (offsetBehind current cs) x) :
    Clock.Ascends (offsetBehind current cs) a b t x := by
  induction cs generalizing past current with
  | nil =>
    apply Clock.ascends_of_le (by simp [Clock.ShowsTwice, offsetBehind]) htx
    exact Int.sub_le_sub_right htx current
  | cons c cs ih =>
    obtain ⟨hopens, hrest⟩ := h
    rcases lt_or_ge t (c.opens current) with htlo | htlo
    · -- the earlier time comes before the change
      apply Clock.ascends_of_le (by simp [Clock.ShowsTwice, offsetBehind_before htlo]) htx
      rw [Clock.moment, offsetBehind_before htlo]
      exact le_moment_behind ⟨htlo, hrest⟩ htx hx
    rcases lt_or_ge t (c.closes current) with hthi | hthi
    · have hkt (r : Bool) : offsetBehind current (c :: cs) r t = if r then c.offset else current :=
        offsetBehind_during hrest htlo hthi
      -- the clock is set back here, as it does not skip the earlier time
      have hback : c.offset < current := by
        simp only [Clock.Skips, hkt, ClockChange.opens, ClockChange.closes] at ht htlo hthi
        simp at ht
        omega
      rcases lt_or_ge x (c.closes current) with hxhi | hxhi
      · have hkx (r : Bool) :
            offsetBehind current (c :: cs) r x = if r then c.offset else current :=
          offsetBehind_during hrest (Int.le_trans htlo htx) hxhi
        have hall : Clock.ShowsAllTwice (offsetBehind current (c :: cs)) t x := by
          intro u htu hux
          have hku (r : Bool) :
              offsetBehind current (c :: cs) r u = if r then c.offset else current :=
            offsetBehind_during hrest (Int.le_trans htlo htu) (Int.lt_of_le_of_lt hux hxhi)
          simpa [Clock.ShowsTwice, hku] using hback
        -- all first showings come before the change, and all second ones behind it
        simp only [ClockChange.opens, ClockChange.closes] at htlo hxhi
        cases a <;> cases b <;> simp [Clock.Ascends, Clock.moment, hkt, hkx, hall] <;> omega
      · have hbound := le_moment_behind (b := b) hrest hxhi
          (by simpa only [Clock.Skips, offsetBehind_behind hxhi] using hx)
        refine iff_of_true ?_ ?_
        · simp only [Clock.moment, hkt, offsetBehind_behind hxhi] at hbound ⊢
          split <;> omega
        · -- the change is past before the later time
          rintro ⟨-, -, hall⟩
          have htwice := hall (c.closes current) (Int.le_of_lt hthi) hxhi
          simp [Clock.ShowsTwice, offsetBehind_behind le_rfl, offsetBehind_of_le hrest le_rfl]
            at htwice
    · -- both times lie behind the change
      refine Clock.Ascends.of_eq (l := offsetBehind c.offset cs) ?_ htx ?_
      · apply ih hrest
        · simpa only [Clock.Skips, offsetBehind_behind hthi] using ht
        · simpa only [Clock.Skips, offsetBehind_behind (Int.le_trans hthi htx)] using hx
      · exact fun r u hu => offsetBehind_behind (Int.le_trans hthi hu)

/-- What a clock shows is shown at that moment, and is nothing that it skips. It lies before all
changes, or behind what the last one was over with. -/
structure Shows (k : Clock) (current past : Int) (again : Bool) (m : Int) (shown : Int × Bool) :
    Prop where
  moment : k.moment shown.2 shown.1 = m
  not_skipped : ¬ k.Skips shown.1
  place : shown = (m + current, again) ∨ past < shown.1

theorem Shows.behind {m : Int} {again : Bool} {shown : Int × Bool}
    (h : Shows (offsetBehind c.offset cs) c.offset (c.closes current) again m shown)
    (hopens : past < c.opens current) (hle : c.closes current ≤ shown.1) {again' : Bool} :
    Shows (offsetBehind current (c :: cs)) current past again' m shown := by
  constructor
  case moment => rw [Clock.moment, offsetBehind_behind hle, ← h.moment, Clock.moment]
  case not_skipped => simpa only [Clock.Skips, offsetBehind_behind hle] using h.not_skipped
  case place =>
    right
    simp only [ClockChange.opens, ClockChange.closes] at hopens hle
    omega

theorem shows_shownBehind {m : Int} (again : Bool) (h : OrderlyBehind past current cs)
    (hagain : again = true → m + current < past) :
    Shows (offsetBehind current cs) current past again m (shownBehind m current again cs) := by
  induction cs generalizing past current again with
  | nil => exact ⟨Int.add_sub_cancel m current, Int.lt_irrefl _, Or.inl rfl⟩
  | cons c cs ih =>
    obtain ⟨hopens, hrest⟩ := h
    rw [shownBehind]
    split
    case isFalse hm =>
      -- the change is still to come
      have hhi : m + current < c.closes current := by
        simp only [ClockChange.closes]
        omega
      rcases lt_or_ge (m + current) (c.opens current) with hlo | hlo
      · refine ⟨?_, ?_, Or.inl rfl⟩
        · rw [Clock.moment, offsetBehind_before hlo, Int.add_sub_cancel]
        · simp [Clock.Skips, offsetBehind_before hlo]
      · -- only a first showing can have come before the change
        obtain rfl : again = false := by
          by_contra hne
          have hlt := hagain (by simpa using hne)
          omega
        have hback : c.offset < current := by
          simp only [ClockChange.opens] at hlo
          omega
        refine ⟨?_, ?_, Or.inl rfl⟩
        · simp [Clock.moment, offsetBehind_during hrest hlo hhi]
        · simpa [Clock.Skips, offsetBehind_during hrest hlo hhi] using Int.le_of_lt hback
    case isTrue hm =>
      -- the change is past, so the later ones decide what is shown
      have hfirst : c.showsAgain current m = true → m + c.offset < c.closes current := by
        simp only [ClockChange.showsAgain, ClockChange.closes, decide_eq_true_eq]
        omega
      have hshown := ih _ hrest hfirst
      rcases hshown.place with hplace | hplace
      · rw [hplace] at hshown ⊢
        rcases lt_or_ge (m + c.offset) (c.closes current) with hhi | hhi
        · -- the clock shows again what it showed before the change
          have hlo : c.opens current ≤ m + c.offset := by
            simp only [ClockChange.opens]
            omega
          have hback : c.offset < current := by
            simp only [ClockChange.closes] at hhi
            omega
          have hsecond : c.showsAgain current m = true := by
            simp only [ClockChange.showsAgain, ClockChange.closes, decide_eq_true_eq] at hhi ⊢
            omega
          refine ⟨?_, ?_, Or.inr (Int.lt_of_lt_of_le hopens hlo)⟩
          · simp [Clock.moment, offsetBehind_during hrest hlo hhi, hsecond]
          · simpa [Clock.Skips, offsetBehind_during hrest hlo hhi] using Int.le_of_lt hback
        · exact hshown.behind hopens hhi
      · exact hshown.behind hopens (Int.le_of_lt hplace)

end Changes

/-- An orderly clock reads back the moment at which it was read, and shows nothing that it skips. -/
theorem moment_wallAt {h : ClockHistory} (ho : h.IsOrderly) (m : Int) :
    Clock.moment h.offsetAt (h.wallAt m).2 (h.wallAt m).1 = m ∧
      ¬ Clock.Skips h.offsetAt (h.wallAt m).1 := by
  obtain ⟨past, ho⟩ := ho
  have hshown := shows_shownBehind (m := m) false ho nofun
  exact ⟨hshown.moment, hshown.not_skipped⟩

theorem ascends {h : ClockHistory} (ho : h.IsOrderly) {t x : Int} {a b : Bool} (htx : t ≤ x)
    (ht : ¬ Clock.Skips h.offsetAt t) (hx : ¬ Clock.Skips h.offsetAt x) :
    Clock.Ascends h.offsetAt a b t x := by
  obtain ⟨past, ho⟩ := ho
  exact ascends_behind ho htx ht hx

end ClockHistory

namespace Stamp

variable {s : Stamp} {k : Clock}

theorem offset?_eq_some (h : s.zone.clock? = some k) :
    s.offset? = some (k s.repeated s.wall.micros) := by
  rw [offset?]
  cases hz : s.zone with
  | floating => simp [hz, Zone.clock?] at h
  | _ =>
    rw [hz] at h
    obtain rfl := Option.some.inj h
    rfl

theorem moment?_eq_some (h : s.zone.clock? = some k) :
    s.moment? = some (k.moment s.repeated s.wall.micros) := by
  rw [moment?, offset?_eq_some h]
  rfl

theorem isAmbiguous_iff (h : s.zone.clock? = some k) :
    s.isAmbiguous = true ↔ k true s.wall.micros ≠ k false s.wall.micros := by
  have hother : Stamp.offset? { s with repeated := !s.repeated } =
      some (k (!s.repeated) s.wall.micros) := offset?_eq_some h
  rw [isAmbiguous, offset?_eq_some h, hother, decide_eq_true_eq, ne_eq, Option.some.injEq]
  cases s.repeated with
  | false => exact ne_comm
  | true => exact Iff.rfl

/-- What an orderly clock shows at a moment, if it is within the range of wall times, is a stamp of
that moment and nothing that the clock skips. -/
theorem moment?_ofMoment {z : NamedZone} (ho : z.history.IsOrderly) {m : Int}
    (hlo : 0 ≤ (z.history.wallAt m).1) (hhi : (z.history.wallAt m).1 < Timeline.limit) :
    (ofMoment (.named z) m).moment? = some m ∧
      ¬ Clock.Skips z.history.offsetAt (ofMoment (.named z) m).wall.micros := by
  obtain ⟨hmoment, hskips⟩ := ClockHistory.moment_wallAt ho m
  have hwall : (ofMoment (.named z) m).wall.micros = (z.history.wallAt m).1 := by
    simp only [ofMoment, Zone.wallAt, WallTime.nearest]
    omega
  rw [moment?_eq_some (k := z.history.offsetAt) rfl, hwall]
  exact ⟨congrArg some hmoment, hskips⟩

end Stamp

namespace Zone

variable {z : Zone} {k : Clock} {t x : Int} {a b : Bool}

/-- Every clock of the zone is over with a change before the next one. -/
def IsOrderly (z : Zone) : Prop :=
  ∀ n, z = .named n → n.history.IsOrderly

theorem ascends (hz : z.IsOrderly) (hk : z.clock? = some k) (htx : t ≤ x) (ht : ¬ k.Skips t)
    (hx : ¬ k.Skips x) : k.Ascends a b t x := by
  cases z with
  | floating => simp [clock?] at hk
  | fixed o =>
    obtain rfl := Option.some.inj hk
    exact Clock.ascends_of_le (Int.lt_irrefl _) htx (Int.sub_le_sub_right htx _)
  | named n =>
    obtain rfl := Option.some.inj hk
    exact ClockHistory.ascends (hz n rfl) htx ht hx

end Zone

namespace Clause

open Timeline

variable {c : Calendar} {anchor s v : Stamp} {e : Edge} {b : Boundary} {k : Clock}

/-- Snaps to all but business weeks keep to their side on the clock. Those that put parts of the
stamp in place keep the showing, and those that move the stamp mean the first. -/
theorem apply_snap_onSide (hb : b ≠ .businessWeek) (h : (snap ⟨e, b⟩).apply c anchor s = .ok v) :
    e.OnSide s.wall.micros v.wall.micros ∧ v.zone = s.zone ∧
      (v.repeated = true ↔ s.repeated = true ∧ ∃ u, b = .unit u ∧ ¬ Moves e u) := by
  cases b with
  | businessWeek => exact absurd rfl hb
  | unit u =>
    obtain ⟨-, ⟨hwall, hzone⟩, hrepeated⟩ := of_apply_unit h
    refine ⟨hwall ▸ edgeOf_onSide c.weekStart e u s.wall.micros, hzone, ?_⟩
    rw [hrepeated]
    by_cases hm : Moves e u <;> simp [hm]
  | weekday w =>
    obtain ⟨hwall, hzone, hrepeated⟩ := (apply_weekday_eq_ok e).mp h
    exact ⟨hwall ▸ nearest_onSide e w s.wall.micros, hzone, by simp [hrepeated]⟩

theorem moment_of_own_weekday (h : (snap ⟨e, .weekday s.weekday⟩).apply c anchor s = .ok v) :
    k.moment v.repeated v.wall.micros = k.moment false s.wall.micros := by
  obtain ⟨hwall, -, hrepeated⟩ := (apply_weekday_eq_ok e).mp h
  have hown : weekdayOrdinal s.wall.micros = s.weekday.ordinal :=
    (weekdayOf_eq_iff s.wall.micros s.weekday).mp rfl
  rw [hrepeated, hwall, nearest_of_ordinal hown]

/-- A snap never leads down from a first showing to a second, so only up it can cross. -/
theorem onSide_iff_of_ascends (hside : e.OnSide s.wall.micros v.wall.micros)
    (hrepeated : v.repeated = true → s.repeated = true)
    (hk : ∀ {a b t x}, t ≤ x → (t = s.wall.micros ∨ t = v.wall.micros) →
      (x = s.wall.micros ∨ x = v.wall.micros) → k.Ascends a b t x) :
    e.OnSide (k.moment s.repeated s.wall.micros) (k.moment v.repeated v.wall.micros) ↔
      ¬ (e = .finish ∧ s.repeated = true ∧ v.repeated = false ∧
        k.ShowsAllTwice s.wall.micros v.wall.micros) := by
  cases e with
  | start =>
    refine iff_of_true ((hk hside (Or.inr rfl) (Or.inl rfl)).mpr ?_) (by simp)
    rintro ⟨hv, hs, -⟩
    exact absurd (hrepeated hv) (by simp [hs])
  | finish =>
    have hiff := hk (a := s.repeated) (b := v.repeated) hside (Or.inl rfl) (Or.inr rfl)
    simpa [Clock.Ascends, Edge.OnSide] using hiff

/-- Snaps from a clock to all but business weeks. In universal time they lead to their side of the
stamp unless the clock is set forward between by more than they lead. Between times that an orderly
clock does not skip that never happens down. Up it happens exactly from a second showing to a first
one with nothing between that is not shown twice, so only to a snap that loses the showing. A snap
from a weekday to itself leads to the very moment unless it loses the showing: then it crosses down
from a time that the clock is set forward over, and up from one that it is set back over. -/
theorem snaps_in_real_time (hb : b ≠ .businessWeek) (h : (snap ⟨e, b⟩).apply c anchor s = .ok v)
    (hk : s.zone.clock? = some k) :
    ∃ m n, s.moment? = some m ∧ v.moment? = some n ∧
      (e.OnSide m n ↔ e.reach (k s.repeated s.wall.micros) (k v.repeated v.wall.micros) ≤
        e.reach s.wall.micros v.wall.micros) ∧
      (v.repeated = true ↔ s.repeated = true ∧ ∃ u, b = .unit u ∧ ¬ Moves e u) ∧
      (s.zone.IsOrderly → ¬ k.Skips s.wall.micros → ¬ k.Skips v.wall.micros →
        (e.OnSide m n ↔ ¬ (e = .finish ∧ s.repeated = true ∧ v.repeated = false ∧
          k.ShowsAllTwice s.wall.micros v.wall.micros))) ∧
      (b = .weekday s.weekday →
        (n = m ↔ ¬ (s.repeated = true ∧ s.isAmbiguous = true)) ∧
        (e.OnSide m n ↔ ¬ (s.repeated = true ∧ k.Misleads e s.wall.micros))) := by
  obtain ⟨hside, hzone, hrepeated⟩ := apply_snap_onSide hb h
  have hv : v.zone.clock? = some k := by rw [hzone, hk]
  refine ⟨_, _, Stamp.moment?_eq_some hk, Stamp.moment?_eq_some hv, Clock.onSide_moment_iff,
    hrepeated, ?_, ?_⟩
  · intro horderly hs hvskip
    apply onSide_iff_of_ascends hside fun hv => (hrepeated.mp hv).1
    rintro a b t x htx (rfl | rfl) (rfl | rfl) <;>
      exact Zone.ascends horderly hk htx (by assumption) (by assumption)
  · rintro rfl
    rw [moment_of_own_weekday h, Stamp.isAmbiguous_iff hk]
    exact ⟨Clock.moment_false_eq_iff, Clock.onSide_moment_false_iff⟩

/-- From the second half past two of a Sunday in Madrid up to the end of its day the time goes on,
and down to the Sunday itself it goes an hour back. -/
theorem snaps_in_real_time_madrid :
    let z : Zone := .named ⟨"Europe/Madrid", .madrid⟩
    let s : Stamp := ⟨⟨63676290600000000, by decide, by decide⟩, z, true⟩
    let last : Stamp := ⟨⟨63676367999999999, by decide, by decide⟩, z, true⟩
    let first : Stamp := ⟨⟨63676290600000000, by decide, by decide⟩, z, false⟩
    (up (.unit .day)).apply .standard s s = .ok last ∧
      (∃ m n, s.moment? = some m ∧ last.moment? = some n ∧ m ≤ n) ∧
      (down (.weekday .sunday)).apply .standard s s = .ok first ∧
      ∃ m n, s.moment? = some m ∧ first.moment? = some n ∧ n ≤ m ∧ n ≠ m := by
  intro z s last first
  have horderly : z.IsOrderly := by
    rintro n hn
    obtain rfl := Zone.named.inj hn
    exact ⟨0, by decide +kernel⟩
  have hlast : (up (.unit .day)).apply .standard s s = .ok last := by decide +kernel
  have hfirst : (down (.weekday .sunday)).apply .standard s s = .ok first := by decide +kernel
  have hsunday : s.weekday = .sunday := by decide +kernel
  have hambiguous : s.isAmbiguous = true := by decide +kernel
  have hs : ¬ Clock.Skips ClockHistory.madrid.offsetAt s.wall.micros := by decide +kernel
  have hskips : ¬ Clock.Skips ClockHistory.madrid.offsetAt last.wall.micros := by decide +kernel
  refine ⟨hlast, ?_, hfirst, ?_⟩
  · obtain ⟨m, n, hm, hn, -, -, hside, -⟩ := snaps_in_real_time (by decide) hlast rfl
    exact ⟨m, n, hm, hn, (hside horderly hs hskips).mpr fun hcross => absurd hcross.2.2.1 nofun⟩
  · obtain ⟨m, n, hm, hn, -, -, -, hown⟩ := snaps_in_real_time (by decide) hfirst rfl
    obtain ⟨hsame, hside⟩ := hown (by rw [hsunday])
    refine ⟨m, n, hm, hn, hside.mpr fun hcross => hs hcross.2, fun heq => ?_⟩
    exact hsame.mp heq ⟨rfl, hambiguous⟩

/-- What the clock of Madrid shows at half past one of that Sunday, universal time, is the second
half past two; up to the Sunday itself leads to the first one, an hour before the moment. -/
theorem up_to_own_weekday_crosses :
    let m : Int := 63676287000000000
    let s := Stamp.ofMoment (.named ⟨"Europe/Madrid", .madrid⟩) m
    s.moment? = some m ∧ s.weekday = .sunday ∧
      ∃ v, (up (.weekday .sunday)).apply .standard s s = .ok v ∧ v.wall = s.wall ∧
        v.moment? = some (m - hour) := by
  intro m s
  have horderly : ClockHistory.madrid.IsOrderly := ⟨0, by decide +kernel⟩
  have hmoment : s.moment? = some m :=
    (Stamp.moment?_ofMoment horderly (by decide +kernel) (by decide +kernel)).1
  refine ⟨hmoment, by decide +kernel, { s with repeated := false }, ?_⟩
  exact ⟨by decide +kernel, rfl, by decide +kernel⟩

end Clause

end RelativeTime
