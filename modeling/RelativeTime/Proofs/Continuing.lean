import RelativeTime.Proofs.Printing

/-!
Evaluation over the seam of two texts. It goes part by part as reading does. Only the end of a
business week looks back beyond the seam, to the anchor.
-/
namespace RelativeTime

namespace Clause

theorem applyAll_append (c : Calendar) (anchor s : Stamp) (xs ys : List Clause) :
    applyAll c anchor s (xs ++ ys) =
      applyAll c anchor s xs >>= fun s => applyAll c anchor s ys :=
  List.foldlM_append

/-- Only the end of a business week depends on the anchor. -/
theorem apply_anchor (c : Calendar) (a b s : Stamp) {x : Clause}
    (h : x ≠ .snap ⟨.finish, .businessWeek⟩) : x.apply c a s = x.apply c b s := by
  cases x with
  | now => rfl
  | shift k => rcases k with ⟨_ | _, _, _⟩ <;> rfl
  | snap k =>
    obtain ⟨edge, boundary⟩ := k
    cases boundary with
    | unit u => cases edge <;> rfl
    | weekday w => cases edge <;> rfl
    | businessWeek =>
      cases edge with
      | start => rfl
      | finish => exact absurd rfl h

theorem applyAll_anchor (c : Calendar) (a b s : Stamp) {xs : List Clause}
    (h : ∀ x ∈ xs, x ≠ .snap ⟨.finish, .businessWeek⟩) :
    applyAll c a s xs = applyAll c b s xs := by
  induction xs generalizing s with
  | nil => rfl
  | cons x xs ih =>
    have hx := apply_anchor c a b s (h x List.mem_cons_self)
    simp only [applyAll, List.foldlM_cons, hx]
    congr 1
    funext s
    exact ih s fun y hy => h y (List.mem_cons_of_mem x hy)

theorem evaluate_append (c : Calendar) (r : Stamp) (xs ys : List Clause) :
    evaluate c r (xs ++ ys) = evaluate c r xs >>= fun s => applyAll c r s ys :=
  applyAll_append c r r xs ys

/-- Without an end of a business week the second part may as well start anew. -/
theorem evaluate_append_anew (c : Calendar) (r : Stamp) (xs : List Clause) {ys : List Clause}
    (h : ∀ y ∈ ys, y ≠ .snap ⟨.finish, .businessWeek⟩) :
    evaluate c r (xs ++ ys) = evaluate c r xs >>= fun s => evaluate c s ys := by
  rw [evaluate_append]
  congr 1
  funext s
  exact applyAll_anchor c r s s h

end Clause

namespace Expression

/-- An expression whose clauses are those of two others, the second of which does not look back to
the anchor, is the one evaluated from where the other ends. -/
theorem evaluate_joined {x xa xb : Expression} (hc : x.clauses = xa.clauses ++ xb.clauses)
    (hx : x.written = .ok x.text) (ha : xa.written = .ok xa.text) (hb : xb.written = .ok xb.text)
    (hfree : ∀ k ∈ xb.clauses, k ≠ .snap ⟨.finish, .businessWeek⟩) (c : Calendar) (r : Stamp) :
    (∀ v, x.evaluate c r = .ok v ↔ ∃ s, xa.evaluate c r = .ok s ∧ xb.evaluate c s = .ok v) ∧
      ∀ reason, x.evaluate c r = .error (.range x.text reason) ↔
        xa.evaluate c r = .error (.range xa.text reason) ∨
          ∃ s, xa.evaluate c r = .ok s ∧ xb.evaluate c s = .error (.range xb.text reason) := by
  have hv := Clause.evaluate_append_anew c r xa.clauses hfree
  rw [← hc] at hv
  simp only [evaluate_eq_ok, evaluate_eq_range hx, evaluate_eq_range ha, evaluate_eq_range hb, hv]
  cases Clause.evaluate c r xa.clauses with
  | error f => simp [bind, Except.bind]
  | ok s => simp [bind, Except.bind]

/-- Texts put together read part by part, whatever their parts are. If both parts are expressions,
so is the whole, and its value is found by going on from the value of the first part with the old
anchor; without an end of a business week behind the seam the old anchor does not matter. -/
theorem evaluate_ofText_append (a b : String) (ha : a ≠ "")
    (hb : ∃ c ∈ ['+', '-', '/', '@'], b.toList.head? = some c) :
    (Reading.ofText (some (a ++ b))).nodes =
        (Reading.ofText (some a)).nodes ++ (Reading.ofText (some b)).nodes ∧
      (Reading.ofText (some (a ++ b))).errors =
        (Reading.ofText (some a)).errors ++ (Reading.ofText (some b)).errors ∧
      ∀ (ra rb ref : Option Stamp) (xa xb : Expression),
        ofText (some a) ra = .ok xa → ofText (some b) rb = .ok xb →
        ∃ x, ofText (some (a ++ b)) ref = .ok x ∧ ∀ (c : Calendar) (r : Stamp),
          Clause.evaluate c r x.clauses =
              (Clause.evaluate c r xa.clauses >>= fun s => Clause.applyAll c r s xb.clauses) ∧
            ((∀ k ∈ xb.clauses, k ≠ .snap ⟨.finish, .businessWeek⟩) →
              (∀ v, x.evaluate c r = .ok v ↔
                ∃ s, xa.evaluate c r = .ok s ∧ xb.evaluate c s = .ok v) ∧
              ∀ reason, x.evaluate c r = .error (.range x.text reason) ↔
                xa.evaluate c r = .error (.range xa.text reason) ∨
                  ∃ s, xa.evaluate c r = .ok s ∧
                    xb.evaluate c s = .error (.range xb.text reason)) := by
  obtain ⟨o, ho, hh⟩ := hb
  -- the operator in front ends the last token of the first part
  have hop : ∀ c ∈ b.toList.head?, Token.classOf c = .operator := by
    intro c hc
    rw [hh, Option.mem_some_iff] at hc
    rw [← hc]
    simp only [List.mem_cons, List.not_mem_nil, or_false] at ho
    rcases ho with rfl | rfl | rfl | rfl <;> decide
  have hbe : b ≠ "" := by
    rintro rfl
    simp at hh
  have hr := Reading.ofText_append ha hbe hop
  refine ⟨by rw [hr], by rw [hr], ?_⟩
  intro ra rb ref xa xb hxa hxb
  obtain ⟨hea, hna⟩ := ofText_eq_ok.mp hxa
  obtain ⟨heb, hnb⟩ := ofText_eq_ok.mp hxb
  have he : (Reading.ofText (some (a ++ b))).errors = [] := by
    rw [hr, hea, heb]
    rfl
  have hx : ofText (some (a ++ b)) ref = .ok ⟨(Reading.ofText (some (a ++ b))).nodes, ref⟩ :=
    ofText_eq_ok.mpr ⟨he, rfl⟩
  refine ⟨_, hx, ?_⟩
  intro c r
  have hc : clauses ⟨(Reading.ofText (some (a ++ b))).nodes, ref⟩ = xa.clauses ++ xb.clauses := by
    rw [hna, hnb]
    simp only [clauses, hr, List.map_append]
  refine ⟨by rw [hc, Clause.evaluate_append], ?_⟩
  intro hfree
  exact evaluate_joined hc (written_of_ofText hx) (written_of_ofText hxa) (written_of_ofText hxb)
    hfree c r

/-- A number that nothing follows is left behind at the seam. -/
theorem evaluate_ofText_append_start_of_day :
    "now-1h5" ≠ "" ∧ (∃ c ∈ ['+', '-', '/', '@'], "/d".toList.head? = some c) ∧
      ∃ x, ofText (some ("now-1h5" ++ "/d")) none = .ok x ∧ ∀ c r v,
        x.evaluate c r = .ok v ↔
          ∃ s, evaluate ⟨[.now ⟨.now, "now"⟩, .shift ⟨.minus, .one, .hour⟩ (some ⟨.minus, "-"⟩)],
              none⟩ c r = .ok s ∧
            evaluate ⟨[.snap ⟨.start, .unit .day⟩ (some ⟨.slash, "/"⟩)], none⟩ c s = .ok v := by
  have ha : "now-1h5" ≠ "" := by decide
  have hb : ∃ c ∈ ['+', '-', '/', '@'], "/d".toList.head? = some c := ⟨'/', by decide, by decide⟩
  have hxa : ofText (some "now-1h5") none = .ok ⟨[.now ⟨.now, "now"⟩,
      .shift ⟨.minus, .one, .hour⟩ (some ⟨.minus, "-"⟩)], none⟩ := by decide +kernel
  have hxb : ofText (some "/d") none =
      .ok ⟨[.snap ⟨.start, .unit .day⟩ (some ⟨.slash, "/"⟩)], none⟩ := by decide +kernel
  obtain ⟨x, hx, hv⟩ := (evaluate_ofText_append "now-1h5" "/d" ha hb).2.2 none none none _ _ hxa hxb
  refine ⟨ha, hb, x, hx, ?_⟩
  intro c r v
  exact ((hv c r).2 (by decide)).1 v

end Expression

end RelativeTime
