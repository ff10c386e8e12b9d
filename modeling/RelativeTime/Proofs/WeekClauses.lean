import RelativeTime.Proofs.Absorption
import RelativeTime.Proofs.Printing

/-!
Clauses about weeks said by clauses about days. The start of a week is the last of its first
weekday, the end of a week the end of the sixth day from there, and a business week is a Monday and
the four days behind it, unless it is the one under way. Each two texts lead to one place, or out of
range for one reason.
-/
namespace RelativeTime

/-- The stamp lies in the seven days of another one's week, also where the week begins before the
clock does. -/
def Stamp.InWeekOf (s : Stamp) (c : Calendar) (anchor : Stamp) : Prop :=
  Timeline.startOfWeek c.weekStart anchor.wall.micros ≤ s.wall.micros ∧
    s.wall.micros < Timeline.startOfWeek c.weekStart anchor.wall.micros + Timeline.week

instance (s : Stamp) (c : Calendar) (anchor : Stamp) : Decidable (s.InWeekOf c anchor) :=
  inferInstanceAs (Decidable (_ ∧ _))

namespace Calendar

variable {c : Calendar} {anchor s first own monday : Stamp}

theorem startOf_week_eq_lastWeekday (c : Calendar) (s : Stamp) :
    c.startOf .week s = c.startOf .day s >>= fun midnight => midnight.lastWeekday c.weekStart := by
  -- midnight is always in range, so only the way back from there can fail
  have hshown := Timeline.isShown_startOf (u := .day) (by decide) c.weekStart s.wall.isShown
  obtain ⟨midnight, hm⟩ := (c.startOf_follows .day s).ok_iff.mpr (by simpa using hshown)
  obtain ⟨hwall, hzone⟩ := startOf_shows hm
  have hlast : midnight.wall.lastWeekday c.weekStart = s.wall.startOf c.weekStart .week := by
    rw [WallTime.lastWeekday_eq_place, WallTime.startOf_eq_place, hwall]
    exact congrArg _ (Timeline.lastWeekday_startOfDay c.weekStart s.wall.micros)
  calc c.startOf .week s
    _ = s.moved <$> s.wall.startOf c.weekStart .week := rfl
    _ = midnight.moved <$> midnight.wall.lastWeekday c.weekStart := by
      rw [hlast, Stamp.moved_congr hzone]
    _ = c.startOf .day s >>= fun midnight => midnight.lastWeekday c.weekStart := by
      rw [hm]
      rfl

theorem endOf_week_eq_endOf_day (c : Calendar) (s : Stamp) :
    c.endOf .week s = c.startOf .week s >>= fun first =>
      first.shift .day 6 >>= fun last => c.endOf .day last := by
  simp only [endOf, startOf, WallTime.endOf, true_or, if_true, Stamp.shift]
  cases s.wall.startOf c.weekStart .week with
  | error f => rfl
  | ok first =>
    cases hlast : first.shift .day 6 with
    | error f => simp [bind, Except.bind, Functor.map, Except.map, Stamp.moved, hlast]
    | ok last =>
      -- setting the last hour keeps the showing, which the six days have made the first
      simp [bind, Except.bind, Functor.map, Except.map, Stamp.moved, Stamp.refitted, hlast]

theorem businessMonday_eq_nextWeekday (c : Calendar) (s : Stamp) :
    c.businessMonday s = c.startOf .week s >>= fun first => first.nextWeekday .monday :=
  rfl

theorem sameWeek_eq_inWeekOf (hz : s.zone = anchor.zone) (hs : c.startOf .week s = .ok own)
    (ha : c.startOf .week anchor = .ok first) :
    c.sameWeek s anchor = .ok (decide (s.InWeekOf c anchor)) := by
  have hin : Timeline.startOfWeek c.weekStart s.wall.micros =
      Timeline.startOfWeek c.weekStart anchor.wall.micros ↔ s.InWeekOf c anchor :=
    Timeline.startOfWeek_eq_iff c.weekStart anchor.wall.micros s.wall.micros
  have hsame : c.sameWeek s anchor = .ok (own.agrees first) := by
    simp [sameWeek, hs, ha, bind, Except.bind, pure, Except.pure]
  have hfollows := c.sameWeek_follows hz
  rw [hsame] at hfollows ⊢
  rw [hfollows.of_ok]
  exact congrArg Except.ok (decide_eq_decide.mpr hin)

/-- Away from the week of the anchor, and on its weekend, a business week ends with a Friday. -/
theorem endOfBusinessWeek_of_over (hz : s.zone = anchor.zone)
    (ha : c.startOf .week anchor = .ok first) (h : s.isWeekend = true ∨ ¬ s.InWeekOf c anchor) :
    c.endOfBusinessWeek anchor s = c.businessMonday s >>= fun monday =>
      monday.shift .day 4 >>= fun friday => c.endOf .day friday := by
  have hover : (decide (s.InWeekOf c anchor) && !s.isWeekend) = false := by
    rcases h with hday | hout
    · simp [hday]
    · simp [hout]
  rw [endOfBusinessWeek]
  cases hm : c.businessMonday s with
  | error f => rfl
  | ok monday =>
    obtain ⟨own, hs⟩ := exists_startOf_week hm
    simp only [sameWeek_eq_inWeekOf hz hs ha, bind, Except.bind, hover]
    rfl

theorem endOfBusinessWeek_of_underWay (hz : s.zone = anchor.zone) (hday : s.isWeekend = false)
    (hin : s.InWeekOf c anchor) (hm : c.businessMonday s = .ok monday) :
    c.endOfBusinessWeek anchor s = .ok s := by
  obtain ⟨own, hs⟩ := exists_startOf_week hm
  -- the week of the anchor is that of the stamp, so it starts in range as well
  have hanchor : c.startOf .week anchor = c.startOf .week s := by
    apply startOf_week_congr hz.symm
    exact ((Timeline.startOfWeek_eq_iff c.weekStart _ _).mpr hin).symm
  have hsame := sameWeek_eq_inWeekOf hz hs (hanchor.trans hs)
  simp [endOfBusinessWeek, hm, hsame, hin, hday, bind, Except.bind, pure, Except.pure]

end Calendar

namespace Expression

/-- The text reads as an expression, and from the stamp its clauses have the given result. -/
def LeadsTo (c : Calendar) (anchor s : Stamp) (text : String) (r : Except RangeFault Stamp) :
    Prop :=
  ∃ x, ofText (some text) none = .ok x ∧ Clause.applyAll c anchor s x.clauses = r

/-- Both texts read as expressions, and these have one result from the stamp. -/
def Coincide (c : Calendar) (anchor s : Stamp) (a b : String) : Prop :=
  ∃ r, LeadsTo c anchor s a r ∧ LeadsTo c anchor s b r

section Texts

variable (c : Calendar) (anchor s : Stamp) {text : String}

theorem leadsTo_join {ks : List Clause} (hne : ks ≠ []) (hnow : ∀ k ∈ ks.tail, k ≠ .now)
    (hdigit : ∀ k, .shift k ∈ ks → k.amount.count < 10)
    (ht : String.join (ks.map Clause.text) = text) :
    LeadsTo c anchor s text (Clause.applyAll c anchor s ks) := by
  have hr : ∀ k ∈ ks, k.IsReadable := by
    rintro _ hk shift rfl
    have hlen : (Nat.toDigits 10 shift.amount.count).length ≤ 1 :=
      (Nat.length_toDigits_le_iff (by decide) (by decide)).mpr (hdigit shift hk)
    exact Nat.le_trans hlen (by decide)
  have hread := Clause.ofText_join hne hnow hr
  rw [ht] at hread
  have hok : ofText (some text) none = .ok ⟨ks.map Clause.node, none⟩ :=
    ofText_eq_ok.mpr ⟨by rw [hread], by rw [hread]⟩
  exact ⟨_, hok, by rw [clauses_map_node]⟩

theorem leadsTo_snap (k : Snap) (ht : String.join [(Clause.snap k).text] = text) :
    LeadsTo c anchor s text ((Clause.snap k).apply c anchor s) := by
  rw [← Clause.applyAll_single]
  exact leadsTo_join c anchor s (List.cons_ne_nil _ _) (by simp) (by simp) ht

theorem leadsTo_two_snaps (k l : Snap)
    (ht : String.join [(Clause.snap k).text, (Clause.snap l).text] = text) :
    LeadsTo c anchor s text
      ((Clause.snap k).apply c anchor s >>= fun x => (Clause.snap l).apply c anchor x) := by
  rw [← Clause.applyAll_pair]
  exact leadsTo_join c anchor s (List.cons_ne_nil _ _) (by simp) (by simp) ht

/-- A snap, some days on from there, and the end of that day. -/
theorem leadsTo_end_of_later_day (k : Snap) (n : Amount) (hn : n.count < 10)
    (ht : String.join [(Clause.snap k).text, (Clause.shift ⟨.plus, n, .day⟩).text, "@d"] = text) :
    LeadsTo c anchor s text ((Clause.snap k).apply c anchor s >>= fun x =>
      x.shift .day n.count >>= fun y => c.endOf .day y) := by
  have hrun : Clause.applyAll c anchor s
      [.snap k, .shift ⟨.plus, n, .day⟩, Clause.up (.unit .day)] =
        (Clause.snap k).apply c anchor s >>= fun x =>
          x.shift .day n.count >>= fun y => c.endOf .day y := by
    simp [Clause.applyAll, Clause.apply, Clause.up]
  rw [← hrun]
  exact leadsTo_join c anchor s (List.cons_ne_nil _ _) (by simp [Clause.up])
    (by simpa [Clause.up] using hn) ht

end Texts

theorem LeadsTo.unique {c : Calendar} {anchor s : Stamp} {text : String}
    {r r' : Except RangeFault Stamp} (h : LeadsTo c anchor s text r)
    (h' : LeadsTo c anchor s text r') : r = r' := by
  obtain ⟨x, hx, rfl⟩ := h
  obtain ⟨y, hy, rfl⟩ := h'
  obtain rfl : x = y := Except.ok.inj (hx.symm.trans hy)
  rfl

/-- The start of a week is the last of its first weekday, seen from the start of the day; the end of
a week is the end of the sixth day behind that; a business week starts with the next Monday. Outside
the week of the reference, and there on a Saturday or a Sunday, a business week ends with the end of
the fourth day behind its Monday; on the other days of that week it ends where it stands. Values and
errors are the same on both sides. -/
theorem week_snaps_coincide (c : Calendar) (anchor s : Stamp) :
    Coincide c anchor s "/w" ("/d/" ++ c.weekStart.code) ∧
      Coincide c anchor s "@w" "/w+6d@d" ∧
      Coincide c anchor s "/bw" "/w@mon" ∧
      (s.zone = anchor.zone →
        ((∃ first, c.startOf .week anchor = .ok first) →
          s.isWeekend = true ∨ ¬ s.InWeekOf c anchor → Coincide c anchor s "@bw" "/bw+4d@d") ∧
        (s.isWeekend = false → s.InWeekOf c anchor → ∀ monday,
          LeadsTo c anchor s "/bw" (.ok monday) → LeadsTo c anchor s "@bw" (.ok s))) := by
  -- where the short texts lead
  have hweek : LeadsTo c anchor s "/w" (c.startOf .week s) :=
    leadsTo_snap c anchor s ⟨.start, .unit .week⟩ (by decide)
  have hend : LeadsTo c anchor s "@w" (c.endOf .week s) :=
    leadsTo_snap c anchor s ⟨.finish, .unit .week⟩ (by decide)
  have hmonday : LeadsTo c anchor s "/bw" (c.businessMonday s) :=
    leadsTo_snap c anchor s ⟨.start, .businessWeek⟩ (by decide)
  have hfriday : LeadsTo c anchor s "@bw" (c.endOfBusinessWeek anchor s) :=
    leadsTo_snap c anchor s ⟨.finish, .businessWeek⟩ (by decide)
  refine ⟨⟨_, hweek, ?_⟩, ⟨_, hend, ?_⟩, ⟨_, hmonday, ?_⟩, ?_⟩
  · rw [Calendar.startOf_week_eq_lastWeekday]
    exact leadsTo_two_snaps c anchor s ⟨.start, .unit .day⟩ ⟨.start, .weekday c.weekStart⟩
      (by cases c.weekStart <;> decide)
  · rw [Calendar.endOf_week_eq_endOf_day]
    exact leadsTo_end_of_later_day c anchor s ⟨.start, .unit .week⟩ ⟨6, by decide⟩ (by decide)
      (by decide)
  · rw [Calendar.businessMonday_eq_nextWeekday]
    exact leadsTo_two_snaps c anchor s ⟨.start, .unit .week⟩ ⟨.finish, .weekday .monday⟩
      (by decide)
  · intro hz
    constructor
    · rintro ⟨first, hfirst⟩ hover
      refine ⟨_, hfriday, ?_⟩
      rw [Calendar.endOfBusinessWeek_of_over hz hfirst hover]
      exact leadsTo_end_of_later_day c anchor s ⟨.start, .businessWeek⟩ ⟨4, by decide⟩ (by decide)
        (by decide)
    · intro hday hin monday hm
      have hbusiness : c.businessMonday s = .ok monday := hmonday.unique hm
      rwa [Calendar.endOfBusinessWeek_of_underWay hz hday hin hbusiness] at hfriday

/-- In weeks that start on a Wednesday the Friday of a business week lies behind its Sunday. -/
theorem week_snaps_coincide_wednesday :
    let c : Calendar := ⟨.wednesday⟩
    let sunday : Stamp := ⟨⟨63664821547000000, by decide, by decide⟩, .floating, false⟩
    let thursday : Stamp := ⟨⟨63664562347000000, by decide, by decide⟩, .floating, false⟩
    let friday : Stamp := ⟨⟨63665308799999999, by decide, by decide⟩, .floating, false⟩
    LeadsTo c sunday sunday "/bw+4d@d" (.ok friday) ∧
      LeadsTo c sunday thursday "@bw" (.ok thursday) := by
  intro c sunday thursday friday
  have hmonday : LeadsTo c sunday thursday "/bw"
      (.ok ⟨⟨63664876800000000, by decide, by decide⟩, .floating, false⟩) :=
    ⟨⟨[.snap ⟨.start, .businessWeek⟩ (some ⟨.slash, "/"⟩)], none⟩, by decide +kernel,
      by decide +kernel⟩
  have hfriday : LeadsTo c sunday sunday "@bw" (.ok friday) :=
    ⟨⟨[.snap ⟨.finish, .businessWeek⟩ (some ⟨.atSign, "@"⟩)], none⟩, by decide +kernel,
      by decide +kernel⟩
  have hfirst : ∃ first, c.startOf .week sunday = .ok first :=
    ⟨⟨⟨63664444800000000, by decide, by decide⟩, .floating, false⟩, by decide +kernel⟩
  obtain ⟨-, -, -, hover⟩ := week_snaps_coincide c sunday sunday
  obtain ⟨-, -, -, hunder⟩ := week_snaps_coincide c sunday thursday
  obtain ⟨r, hr, hprimitive⟩ := (hover rfl).1 hfirst (Or.inl (by decide +kernel))
  obtain rfl : .ok friday = r := hfriday.unique hr
  exact ⟨hprimitive, (hunder rfl).2 (by decide +kernel) (by decide +kernel) _ hmonday⟩

end Expression

end RelativeTime
