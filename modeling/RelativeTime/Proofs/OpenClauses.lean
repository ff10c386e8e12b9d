import RelativeTime.Proofs.LocalReading
import RelativeTime.Proofs.Scanning

/-!
Tokens that break a clause. Behind an operator the tokens go on with its clause until it is whole or
a token cannot go on. That token is read on its own: it is told as an error, opens the next clause,
or, if it is a number right behind the operator of a snap, is passed over in silence.
-/
namespace RelativeTime

namespace Window

/-- The kinds of tokens that make the clause of an operator whole. Behind a sign the number may be
left out. -/
def wholes : Token.Kind → List (List Token.Kind)
  | .plus | .minus => [[.modifier], [.number, .modifier]]
  | .slash | .atSign => [[.modifier]]
  | _ => []

/-- Behind an operator so many tokens go on with its clause without making it whole, and the next
one cannot go on. -/
structure Breaks (ts : List Token) (i n : Nat) (opener x : Token) : Prop where
  opener_eq : ts[i]? = some opener
  token_eq : ts[i + 1 + n]? = some x
  goes_on : ∃ whole ∈ wholes opener.kind,
    ((ts.drop (i + 1)).take n).map Token.kind <+: whole ∧ n < whole.length
  stops : ∀ whole ∈ wholes opener.kind, ¬ ((ts.drop (i + 1)).take (n + 1)).map Token.kind <+: whole

variable {ts : List Token} {i n : Nat} {opener x : Token}

theorem isSign_iff : isSign opener = true ↔ opener.kind = .plus ∨ opener.kind = .minus := by
  simp [isSign]

theorem mem_wholes {k : Token.Kind} {whole : List Token.Kind} :
    whole ∈ wholes k ↔ k ∈ Token.Kind.operators ∧ whole = [.modifier] ∨
      (k = .plus ∨ k = .minus) ∧ whole = [.number, .modifier] := by
  cases k <;> simp [wholes, Token.Kind.operators]

theorem take_drop_one (hx : ts[i]? = some x) : (ts.drop i).take 1 = [x] := by
  rw [List.take_one, List.head?_drop, hx]
  rfl

theorem take_drop_two {t : Token} (ht : ts[i]? = some t) (hx : ts[i + 1]? = some x) :
    (ts.drop i).take 2 = [t, x] := by
  rw [List.take_add_one, take_drop_one ht, List.getElem?_drop, hx]
  rfl

theorem mem_operators_of_wholes {k : Token.Kind} {whole : List Token.Kind}
    (h : whole ∈ wholes k) : k ∈ Token.Kind.operators := by
  rcases mem_wholes.mp h with ⟨hk, _⟩ | ⟨rfl | rfl, _⟩
  · exact hk
  · decide
  · decide

/-- A clause breaks right behind its operator, or behind the number that follows a sign. -/
theorem Breaks.cases (h : Breaks ts i n opener x) :
    opener.kind ∈ Token.Kind.operators ∧ x.kind ≠ .modifier ∧
      (n = 0 ∧ (isSign opener = true → x.kind ≠ .number) ∨
        n = 1 ∧ ∃ t, ts[i + 1]? = some t ∧ t.kind = .number) := by
  obtain ⟨whole, hwhole, hbegins, hn⟩ := h.goes_on
  have hstops := h.stops
  have hx := h.token_eq
  have hop := mem_operators_of_wholes hwhole
  have hmodifier : [.modifier] ∈ wholes opener.kind := mem_wholes.mpr (Or.inl ⟨hop, rfl⟩)
  cases n with
  | zero =>
    rw [Nat.zero_add, take_drop_one hx] at hstops
    refine ⟨hop, ?_, Or.inl ⟨rfl, ?_⟩⟩
    · intro hk
      exact hstops _ hmodifier (by simp [hk])
    · intro hsign hk
      exact hstops _ (mem_wholes.mpr (Or.inr ⟨isSign_iff.mp hsign, rfl⟩)) (by simp [hk])
  | succ n =>
    -- only behind a sign is there anything to go on with that does not make the clause whole
    rcases mem_wholes.mp hwhole with ⟨_, rfl⟩ | ⟨hsign, rfl⟩
    · simp at hn
    · obtain rfl : n = 0 := Nat.lt_one_iff.mp (Nat.lt_of_succ_lt_succ hn)
      have hlt : i + 1 < ts.length := by
        have := (List.getElem?_eq_some_iff.mp hx).1
        omega
      have ht : ts[i + 1]? = some ts[i + 1] := List.getElem?_eq_getElem hlt
      rw [Nat.zero_add, take_drop_one ht] at hbegins
      rw [Nat.zero_add, take_drop_two ht hx] at hstops
      have hnumber : ts[i + 1].kind = .number := by simpa using hbegins
      refine ⟨hop, ?_, Or.inr ⟨rfl, _, ht, hnumber⟩⟩
      intro hk
      exact hstops _ hwhole (by simp [hk, hnumber])

/-- A number breaks the clause of a snap only, if no number follows another. -/
theorem Breaks.number (h : Breaks ts i n opener x) (hk : x.kind = .number)
    (happart : ∀ j t u, ts[j]? = some t → ts[j + 1]? = some u → t.kind = .number →
      u.kind ≠ .number) :
    n = 0 ∧ (opener.kind = .slash ∨ opener.kind = .atSign) := by
  obtain ⟨hop, -, hplace⟩ := h.cases
  rcases hplace with ⟨hn, hsign⟩ | ⟨rfl, t, ht, hnumber⟩
  · refine ⟨hn, ?_⟩
    have hns : ¬ (opener.kind = .plus ∨ opener.kind = .minus) := fun hs =>
      hsign (isSign_iff.mpr hs) hk
    simp only [Token.Kind.operators, List.mem_cons, List.not_mem_nil, or_false] at hop
    tauto
  · exact absurd hk (happart _ t x ht h.token_eq hnumber)

theorem Breaks.isErrorAt_iff (h : Breaks ts i n opener x) (hop : x.kind ∉ Token.Kind.operators)
    (hfinish : x.kind ≠ .finish)
    (hnumber : x.kind = .number → n = 0 ∧ (opener.kind = .slash ∨ opener.kind = .atSign)) :
    isErrorAt ts (i + 1 + n) = true ↔ x.kind ≠ .number := by
  have hx := h.token_eq
  have hmodifier := h.cases.2.1
  cases hk : x.kind with
  | number =>
    -- in front of it stands no sign, so it is nobody's amount and no error
    obtain ⟨rfl, hedge⟩ := hnumber hk
    have hsign : isSign opener = false := by rcases hedge with he | he <;> simp [isSign, he]
    have hbehind : behindSign ts (i + 1) = false := by
      rw [behindSign_succ h.opener_eq, hsign]
    simp [isErrorAt, hx, hk, hbehind]
  | now =>
    have hpos : 0 < i + 1 + n := by omega
    simp [isErrorAt, hx, hk, hpos]
  | illegal => simp [isErrorAt, hx, hk]
  | modifier => exact absurd hk hmodifier
  | finish => exact absurd hk hfinish
  | _ => exact absurd (by rw [hk]; decide) hop

theorem errorAt_messages (ts : List Token) :
    ((List.range ts.length).filterMap (errorAt ts)).map ReadError.message =
      ((List.range ts.length).filter (isErrorAt ts)).filterMap fun j =>
        ts[j]?.map fun x => "Illegal operator: \"" ++ x.literal ++ "\"" := by
  rw [List.map_filterMap, List.filterMap_filter]
  congr 1
  funext j
  unfold errorAt
  split
  · rw [Option.map_map]
    rfl
  · rfl

end Window

namespace Token

/-- Numbers are longest runs of digits, so none follows another. -/
theorem kind_ne_number_of_succ {text : String} {i : Nat} {t u : Token}
    (ht : (ofChars text.toList)[i]? = some t) (hu : (ofChars text.toList)[i + 1]? = some u)
    (hk : t.kind = .number) : u.kind ≠ .number := by
  intro hl
  have htokens : Tokenizes text (ofChars text.toList) := tokenizes_iff.mpr rfl
  have hdigits : ∀ v ∈ ofChars text.toList, v.kind = .number → v.IsOf .digit := by
    intro v hv hn
    have hspelled := htokens.spelled v hv
    rw [hn] at hspelled
    cases hspelled with
    | number ne_nil digits => exact digits
  obtain ⟨hi, rfl⟩ := List.getElem?_eq_some_iff.mp ht
  obtain ⟨hi', rfl⟩ := List.getElem?_eq_some_iff.mp hu
  have hapart := List.isChain_iff_getElem.mp htokens.apart i hi'
  exact hapart .digit (by decide) ⟨hdigits _ (List.getElem_mem hi) hk,
    hdigits _ (List.getElem_mem hi') hl⟩

end Token

/-- Of the tokens that break a clause and are no operators themselves each is told as an error, in
its place among the errors of the text, unless it is a number; and a number breaks only the clause
of a snap. -/
theorem Reading.breaks_told (text : String) :
    let ts := Token.ofChars text.toList
    ∃ places : List Nat,
      places.Pairwise (· < ·) ∧
      (text ≠ "" → (Reading.ofText (some text)).errors.map ReadError.message =
        places.filterMap fun j => ts[j]?.map fun x => "Illegal operator: \"" ++ x.literal ++ "\"") ∧
      ∀ i n opener x, Window.Breaks ts i n opener x → x.kind ∉ Token.Kind.operators →
        (i + 1 + n ∈ places ↔ x.kind ≠ .number) ∧
          (x.kind = .number → n = 0 ∧ (opener.kind = .slash ∨ opener.kind = .atSign)) := by
  intro ts
  -- the places are where the tokens around show an error by themselves
  refine ⟨(List.range ts.length).filter (Window.isErrorAt ts), ?_, ?_, ?_⟩
  · exact List.pairwise_lt_range.filter _
  · intro hne
    have hmodifier : ∀ t ∈ ts, t.kind = .modifier → (Boundary.ofCode? t.literal).isSome :=
      fun t ht hk => Token.isSome_boundary_of_modifier ht hk
    rw [Reading.ofText_of_ne_empty hne, Window.ofTokens_eq_reading hmodifier]
    exact Window.errorAt_messages ts
  · intro i n opener x h hoperator
    have hmem : x ∈ ts := List.mem_of_getElem? h.token_eq
    have hfinish : x.kind ≠ .finish :=
      Token.kind_ne_finish ((Token.tokenizes_iff.mpr rfl).spelled x hmem)
    have hnumber : x.kind = .number → n = 0 ∧ (opener.kind = .slash ∨ opener.kind = .atSign) :=
      fun hk => h.number hk fun j t u => Token.kind_ne_number_of_succ
    have hlt : i + 1 + n < ts.length := (List.getElem?_eq_some_iff.mp h.token_eq).1
    refine ⟨?_, hnumber⟩
    rw [List.mem_filter, List.mem_range, and_iff_right hlt]
    exact h.isErrorAt_iff hoperator hfinish hnumber

/-- The clause of the sign goes on with the number before the word for now breaks it, and the number
behind the slash breaks the next one. -/
theorem Reading.breaks_told_late_now :
    let ts := Token.ofChars "+5now/7".toList
    Window.Breaks ts 0 1 ⟨.plus, "+"⟩ ⟨.now, "now"⟩ ∧
      Window.Breaks ts 3 0 ⟨.slash, "/"⟩ ⟨.number, "7"⟩ ∧
      ∃ places : List Nat, 2 ∈ places ∧ 4 ∉ places ∧
        (Reading.ofText (some "+5now/7")).errors.map ReadError.message =
          places.filterMap fun j =>
            ts[j]?.map fun x => "Illegal operator: \"" ++ x.literal ++ "\"" := by
  intro ts
  have hts : ts = [⟨.plus, "+"⟩, ⟨.number, "5"⟩, ⟨.now, "now"⟩, ⟨.slash, "/"⟩, ⟨.number, "7"⟩] := by
    decide +kernel
  have hlate : Window.Breaks ts 0 1 ⟨.plus, "+"⟩ ⟨.now, "now"⟩ := by
    rw [hts]
    exact ⟨rfl, rfl, ⟨[.number, .modifier], by decide, by decide, by decide⟩, by decide⟩
  have hnumber : Window.Breaks ts 3 0 ⟨.slash, "/"⟩ ⟨.number, "7"⟩ := by
    rw [hts]
    exact ⟨rfl, rfl, ⟨[.modifier], by decide, by decide, by decide⟩, by decide⟩
  obtain ⟨places, -, herrors, hplaces⟩ := breaks_told "+5now/7"
  refine ⟨hlate, hnumber, places, ?_, ?_, herrors (by decide)⟩
  · exact (hplaces _ _ _ _ hlate (by decide)).1.mpr (by decide)
  · intro hmem
    exact (hplaces _ _ _ _ hnumber (by decide)).1.mp hmem rfl

/-- A number right behind a slash breaks its clause and is told nowhere. -/
theorem Reading.number_behind_slash_untold :
    Window.Breaks (Token.ofChars "now/5".toList) 1 0 ⟨.slash, "/"⟩ ⟨.number, "5"⟩ ∧
      Token.Kind.number ∉ Token.Kind.operators ∧
      "Illegal operator: \"5\"" ∉
        (Reading.ofText (some "now/5")).errors.map ReadError.message := by
  have hts : Token.ofChars "now/5".toList = [⟨.now, "now"⟩, ⟨.slash, "/"⟩, ⟨.number, "5"⟩] := by
    decide +kernel
  have hread : Reading.ofText (some "now/5") = ⟨[.now ⟨.now, "now"⟩], []⟩ := by decide +kernel
  refine ⟨?_, by decide, ?_⟩
  · rw [hts]
    exact ⟨rfl, rfl, ⟨[.modifier], by decide, by decide, by decide⟩, by decide⟩
  · rw [hread]
    exact List.not_mem_nil

end RelativeTime
