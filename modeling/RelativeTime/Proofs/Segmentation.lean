import Mathlib.Data.List.TakeWhile
import RelativeTime.Token.Segmentation

/-!
The runs of a text are the only way to cut it into runs. So a cut respects every seam at which the
neighbouring runs are separate, and a seam in front of an operator is one.
-/
namespace RelativeTime.Token

theorem isRun_ne_nil {run : List Char} (h : IsRun run) : run ≠ [] := by
  rcases h with ⟨c, rfl, _⟩ | ⟨hn, _⟩
  · exact List.cons_ne_nil c []
  · exact hn

theorem isRun_class {c : Char} {cs : List Char} (h : IsRun (c :: cs)) :
    ∀ d ∈ c :: cs, classOf d = classOf c := by
  intro d hd
  rcases h with ⟨e, he, _⟩ | ⟨_, k, _, hk⟩
  · rw [he] at hd
    obtain ⟨rfl, rfl⟩ := List.cons.inj he
    rw [List.mem_singleton.mp hd]
  · rw [hk d hd, hk c List.mem_cons_self]

theorem allSeparate_cons (a : List Char) (rs : List (List Char)) :
    AllSeparate (a :: rs) ↔ (∀ b ∈ rs.head?, Separate a b) ∧ AllSeparate rs := by
  cases rs with
  | nil => simp [AllSeparate]
  | cons b rs => simp [AllSeparate]

theorem allSeparate_append {rs ss : List (List Char)} (hr : AllSeparate rs) (hs : AllSeparate ss)
    (h : ∀ a ∈ rs.getLast?, ∀ b ∈ ss.head?, Separate a b) : AllSeparate (rs ++ ss) := by
  induction rs with
  | nil => exact hs
  | cons a rs ih =>
    obtain ⟨ha, hr⟩ := (allSeparate_cons a rs).mp hr
    rw [List.cons_append, allSeparate_cons]
    cases rs with
    | nil => exact ⟨h a rfl, hs⟩
    | cons r rs =>
      refine ⟨ha, ih hr ?_⟩
      intro b hb
      exact h b (by rw [List.getLast?_cons_cons]; exact hb)

theorem isSegmentation_tail {text r : List Char} {rs : List (List Char)}
    (h : IsSegmentation text (r :: rs)) : IsSegmentation rs.flatten rs :=
  ⟨rfl, fun s hs => h.isRun s (List.mem_cons_of_mem r hs),
    ((allSeparate_cons r rs).mp h.allSeparate).2⟩

/-- The head of a cut text is the head of its first run. -/
theorem head?_flatten {rs : List (List Char)} (hr : ∀ r ∈ rs, IsRun r) {d : Char}
    (hd : d ∈ rs.flatten.head?) : ∃ b ∈ rs.head?, d ∈ b := by
  cases rs with
  | nil => simp at hd
  | cons b rs =>
    obtain ⟨e, es, rfl⟩ := List.exists_cons_of_ne_nil (isRun_ne_nil (hr b List.mem_cons_self))
    have he : e = d := by simpa using hd
    exact ⟨e :: es, rfl, he ▸ List.mem_cons_self⟩

theorem firstRun_of_isRun {run rest : List Char} (hr : IsRun run)
    (hs : ∀ c ∈ run, ∀ d ∈ rest.head?, classOf c = classOf d → classOf c = .operator) :
    firstRun (run ++ rest) = (run, rest) := by
  obtain ⟨c, cs, rfl⟩ := List.exists_cons_of_ne_nil (isRun_ne_nil hr)
  have hc := isRun_class hr
  by_cases ho : classOf c = .operator
  · have hcs : cs = [] := by
      rcases hr with ⟨e, he, _⟩ | ⟨_, k, hk, hall⟩
      · exact (List.cons.inj he).2
      · exact absurd ((hall c List.mem_cons_self).symm.trans ho) hk
    rw [hcs]
    simp [firstRun, ho]
  · have hp : ∀ d ∈ cs, decide (classOf d = classOf c) = true := fun d hd =>
      decide_eq_true (hc d (List.mem_cons_of_mem c hd))
    have hstop : rest.takeWhile (fun d => decide (classOf d = classOf c)) = [] ∧
        rest.dropWhile (fun d => decide (classOf d = classOf c)) = rest := by
      cases rest with
      | nil => exact ⟨rfl, rfl⟩
      | cons d ds =>
        have hd : classOf d ≠ classOf c := fun h =>
          ho (hs c List.mem_cons_self d rfl h.symm)
        simp [hd]
    rw [List.cons_append, firstRun, if_neg ho, List.takeWhile_append_of_pos hp,
      List.dropWhile_append_of_pos hp, hstop.1, hstop.2, List.append_nil]

/-- A text has no other segmentation than its runs. -/
theorem runs_eq_of_isSegmentation {text : List Char} {rs : List (List Char)}
    (h : IsSegmentation text rs) : runs text = rs := by
  induction rs generalizing text with
  | nil => rw [← h.flatten_eq]; exact runs_nil
  | cons r rs ih =>
    have hr := h.isRun r List.mem_cons_self
    have ht := isSegmentation_tail h
    have hf : firstRun (r ++ rs.flatten) = (r, rs.flatten) := by
      apply firstRun_of_isRun hr
      intro c hc d hd
      obtain ⟨b, hb, hdb⟩ := head?_flatten ht.isRun hd
      exact ((allSeparate_cons r rs).mp h.allSeparate).1 b hb c hc d hdb
    obtain ⟨c, cs, rfl⟩ := List.exists_cons_of_ne_nil (isRun_ne_nil hr)
    rw [List.cons_append] at hf
    rw [← h.flatten_eq, List.flatten_cons, List.cons_append, runs_cons, hf, ih ht]

theorem isRun_firstRun (c : Char) (cs : List Char) : IsRun (firstRun (c :: cs)).1 := by
  rw [firstRun]
  split
  · rename_i ho
    exact Or.inl ⟨c, rfl, ho⟩
  · rename_i ho
    refine Or.inr ⟨List.cons_ne_nil _ _, classOf c, ho, ?_⟩
    intro d hd
    rcases List.mem_cons.mp hd with rfl | hd
    · rfl
    · simpa using List.mem_takeWhile_imp hd

/-- Behind the first run comes a character that could not have been part of it. -/
theorem firstRun_stops {c : Char} {cs : List Char} {d : Char}
    (hd : d ∈ (firstRun (c :: cs)).2.head?) :
    ∀ e ∈ (firstRun (c :: cs)).1, classOf e = classOf d → classOf e = .operator := by
  intro e he h
  by_cases ho : classOf c = .operator
  · rw [firstRun, if_pos ho] at he
    rw [List.mem_singleton.mp he, ho]
  · have hec : classOf e = classOf c :=
      isRun_class (by
        have hr := isRun_firstRun c cs
        rwa [firstRun, if_neg ho] at hr) e (by rwa [firstRun, if_neg ho] at he)
    rw [firstRun, if_neg ho] at hd
    have hn := List.head?_dropWhile_not (fun d => decide (classOf d = classOf c)) cs
    rw [Option.mem_def.mp hd] at hn
    exact absurd (h.symm.trans hec) (by simpa using hn)

theorem isSegmentation_runs (cs : List Char) : IsSegmentation cs (runs cs) := by
  induction h : cs.length using Nat.strongRecOn generalizing cs with
  | ind n ih =>
    cases cs with
    | nil => rw [runs_nil]; exact ⟨rfl, by simp, trivial⟩
    | cons c cs =>
      have hl := length_firstRun_lt c cs
      have hrest := ih _ (by omega) (firstRun (c :: cs)).2 rfl
      refine ⟨flatten_runs (c :: cs), ?_, ?_⟩
      · intro r hr
        rw [runs_cons] at hr
        rcases List.mem_cons.mp hr with rfl | hr
        · exact isRun_firstRun c cs
        · exact hrest.isRun r hr
      · rw [runs_cons, allSeparate_cons]
        refine ⟨?_, hrest.allSeparate⟩
        intro b hb e he d hd hed
        obtain ⟨rs, hrs⟩ : ∃ rs, runs (firstRun (c :: cs)).2 = b :: rs := by
          cases hx : runs (firstRun (c :: cs)).2 with
          | nil => rw [hx] at hb; simp at hb
          | cons b' rs => rw [hx] at hb; exact ⟨rs, by rw [Option.some.inj hb]⟩
        -- the next run is of one class, so its first character speaks for all
        have hbr : IsRun b := hrest.isRun b (by rw [hrs]; exact List.mem_cons_self)
        obtain ⟨f, fs, rfl⟩ := List.exists_cons_of_ne_nil (isRun_ne_nil hbr)
        have hf : f ∈ (firstRun (c :: cs)).2.head? := by
          rw [← hrest.flatten_eq, hrs]
          rfl
        exact firstRun_stops hf e he (hed.trans (isRun_class hbr d hd))

theorem isSegmentation_append {as bs : List Char} {rs ss : List (List Char)}
    (ha : IsSegmentation as rs) (hb : IsSegmentation bs ss)
    (h : ∀ r ∈ rs.getLast?, ∀ s ∈ ss.head?, Separate r s) :
    IsSegmentation (as ++ bs) (rs ++ ss) := by
  refine ⟨?_, ?_, allSeparate_append ha.allSeparate hb.allSeparate h⟩
  · rw [List.flatten_append, ha.flatten_eq, hb.flatten_eq]
  · intro r hr
    rcases List.mem_append.mp hr with hr | hr
    · exact ha.isRun r hr
    · exact hb.isRun r hr

/-- No run reaches across a seam in front of an operator. -/
theorem runs_append {as bs : List Char} (h : ∀ c ∈ bs.head?, classOf c = .operator) :
    runs (as ++ bs) = runs as ++ runs bs := by
  apply runs_eq_of_isSegmentation
  apply isSegmentation_append (isSegmentation_runs as) (isSegmentation_runs bs)
  intro r _ s hs c _ d hd hcd
  cases bs with
  | nil => rw [runs_nil] at hs; simp at hs
  | cons b bs =>
    have hb : classOf b = .operator := h b rfl
    rw [runs_cons, firstRun, if_pos hb, List.head?_cons, Option.mem_some_iff] at hs
    rw [← hs, List.mem_singleton] at hd
    rw [hcd, hd, hb]

theorem ofChars_append {as bs : List Char} (h : ∀ c ∈ bs.head?, classOf c = .operator) :
    ofChars (as ++ bs) = ofChars as ++ ofChars bs := by
  rw [ofChars, runs_append h, List.map_append, ofChars, ofChars]

end RelativeTime.Token
