import RelativeTime.Clause.Window
import RelativeTime.Proofs.TokenKind

/-!
Reading a text finds what each place of its tokens shows by itself. The reader skips from clause
to clause; the places it skips show nothing else, and it never stops inside of a clause.
-/
namespace RelativeTime.Window

variable {ts rest : List Token} {t u : Token} {i : Nat}

section Literals

variable {literal : String}

/-- A good number is one that the reader takes for an amount. -/
@[simp]
theorem amountOf?_number : amountOf? ⟨.number, literal⟩ = Finding.amount? literal := by
  have hvalue : decimal literal.toList = Nat.ofDigitChars 10 literal.toList 0 := rfl
  by_cases hlength : literal.length ≤ Amount.maxDigits
  · rw [Finding.amount?, if_pos hlength, ← hvalue]
    exact if_pos ⟨rfl, hlength⟩
  · rw [Finding.amount?, if_neg hlength]
    exact if_neg fun h => hlength h.2

@[simp]
theorem unitOf?_modifier : unitOf? ⟨.modifier, literal⟩ = TimeUnit.ofCode? literal :=
  lookup_map_key TimeUnit.code TimeUnit.all literal

@[simp]
theorem boundaryOf?_modifier : boundaryOf? ⟨.modifier, literal⟩ = Boundary.ofCode? literal :=
  lookup_map_key Boundary.code Boundary.all literal

theorem amountOf?_eq_none (h : t.kind ≠ .number) : amountOf? t = none :=
  if_neg fun hk => h hk.1

theorem unitOf?_eq_none (h : t.kind ≠ .modifier) : unitOf? t = none :=
  if_neg h

theorem boundaryOf?_eq_none (h : t.kind ≠ .modifier) : boundaryOf? t = none :=
  if_neg h

end Literals

/-- The token at a place does not belong to a clause that was opened before it. -/
structure Settled (ts : List Token) (i : Nat) : Prop where
  number : ∀ t ∈ ts[i]?, t.kind = .number → behindSign ts i = false
  modifier : ∀ t ∈ ts[i]?, t.kind = .modifier →
    behindSign ts i = false ∧ behindAmount ts i = false

theorem getElem?_of_drop (h : ts.drop i = t :: rest) : ts[i]? = some t := by
  have h0 := congrArg (fun l => l[0]?) h
  simpa using h0

theorem drop_succ_of_drop (h : ts.drop i = t :: rest) : ts.drop (i + 1) = rest := by
  rw [← List.drop_drop, h, List.drop_one, List.tail_cons]

theorem kind_cases (k : Token.Kind) (hd : ts.drop i = rest) :
    (∃ literal us, rest = ⟨k, literal⟩ :: us) ∨ ∀ u ∈ ts[i]?, u.kind ≠ k := by
  rw [← List.head?_drop, hd]
  exact Token.head_cases k rest

theorem behindSign_succ (h : ts[i]? = some t) : behindSign ts (i + 1) = isSign t := by
  simp [behindSign, h]

theorem behindAmount_succ (h : ts[i]? = some t) :
    behindAmount ts (i + 1) = ((amountOf? t).isSome && behindSign ts i) := by
  cases i with
  | zero => simp [behindAmount, behindSign]
  | succ i => simp [behindAmount, h]

/-- Behind a token that is no sign, and no amount of a shift either, everything is settled. -/
theorem settled_succ (h : ts[i]? = some t) (hs : isSign t = false)
    (ha : amountOf? t = none ∨ behindSign ts i = false) : Settled ts (i + 1) := by
  have h1 : behindSign ts (i + 1) = false := by rw [behindSign_succ h, hs]
  have h2 : behindAmount ts (i + 1) = false := by
    rw [behindAmount_succ h]
    rcases ha with ha | ha <;> simp [ha]
  exact ⟨fun _ _ _ => h1, fun _ _ _ => ⟨h1, h2⟩⟩

theorem nodeAt_of_kind (h : ts[i]? = some t) (hn : t.kind = .now → 0 < i)
    (ho : t.kind ∉ Token.Kind.operators) : nodeAt ts i = none := by
  cases hk : t.kind <;> simp [hk, Token.Kind.operators] at ho hn <;> simp [nodeAt, h, hk]
  omega

theorem errorAt_of_operator (h : ts[i]? = some t)
    (ho : t.kind ∈ Token.Kind.operators) : errorAt ts i = none := by
  cases hk : t.kind <;> simp [hk, Token.Kind.operators] at ho <;> simp [errorAt, isErrorAt, h, hk]

/-- From a place up to where the tokens `us` begin nothing is shown but the error of a finding, and
`us` begin at a settled place. -/
def Trails (ts : List Token) (i : Nat) (f : Option Finding) (us : List Token) : Prop :=
  ∃ n, us = ts.drop (i + n) ∧ Settled ts (i + n) ∧
    (List.range' i n).filterMap (nodeAt ts) = [] ∧
    (List.range' i n).filterMap (errorAt ts) = (f.bind Finding.error?).toList

/-- From a place up to where the remaining tokens begin the places show what a step found, and the
remaining tokens begin at a settled place. -/
def Agrees (ts : List Token) (i : Nat) (r : Option Finding × List Token) : Prop :=
  ∃ n, r.2 = ts.drop (i + 1 + n) ∧ Settled ts (i + 1 + n) ∧
    (List.range' i (n + 1)).filterMap (nodeAt ts) = (r.1.bind Finding.node?).toList ∧
    (List.range' i (n + 1)).filterMap (errorAt ts) = (r.1.bind Finding.error?).toList

theorem trails_here {us : List Token} {f : Option Finding} (hd : ts.drop i = us)
    (hs : Settled ts i) (hf : f.bind Finding.error? = none) : Trails ts i f us :=
  ⟨0, hd.symm, hs, rfl, by rw [hf]; rfl⟩

theorem trails_cons {us : List Token} {f : Option Finding} (hn : nodeAt ts i = none)
    (he : errorAt ts i = none) (h : Trails ts (i + 1) f us) : Trails ts i f us := by
  obtain ⟨n, hu, hs, hns, hes⟩ := h
  have hi : i + 1 + n = i + (n + 1) := by omega
  refine ⟨n + 1, hi ▸ hu, hi ▸ hs, ?_, ?_⟩
  · rw [List.range'_succ, List.filterMap_cons_none hn, hns]
  · rw [List.range'_succ, List.filterMap_cons_none he, hes]

theorem trails_error {us : List Token} {e : ReadError} (hn : nodeAt ts i = none)
    (he : errorAt ts i = some e) (h : Trails ts (i + 1) none us) :
    Trails ts i (some (.error e)) us := by
  obtain ⟨n, hu, hs, hns, hes⟩ := h
  have hi : i + 1 + n = i + (n + 1) := by omega
  refine ⟨n + 1, hi ▸ hu, hi ▸ hs, ?_, ?_⟩
  · rw [List.range'_succ, List.filterMap_cons_none hn, hns]
  · rw [List.range'_succ, List.filterMap_cons_some he, hes]
    rfl

/-- An opener shows the node of its clause; an error of the clause is shown further on. -/
theorem agrees_of_opener {r : Option Finding × List Token}
    (hn : nodeAt ts i = r.1.bind Finding.node?) (he : errorAt ts i = none)
    (h : Trails ts (i + 1) r.1 r.2) : Agrees ts i r := by
  obtain ⟨n, hu, hs, hns, hes⟩ := h
  refine ⟨n, hu, hs, ?_, ?_⟩
  · rw [List.range'_succ, ← hn]
    cases hx : nodeAt ts i with
    | none => rw [List.filterMap_cons_none hx, hns]; rfl
    | some x => rw [List.filterMap_cons_some hx, hns]; rfl
  · rw [List.range'_succ, List.filterMap_cons_none he, hes]

theorem agrees_of_single {f : Option Finding} (hd : ts.drop i = t :: rest)
    (hn : nodeAt ts i = f.bind Finding.node?) (he : errorAt ts i = f.bind Finding.error?)
    (hs : Settled ts (i + 1)) : Agrees ts i (f, rest) := by
  refine ⟨0, (drop_succ_of_drop hd).symm, hs, ?_, ?_⟩
  · rw [← hn]
    cases hx : nodeAt ts i <;> simp [hx]
  · rw [← he]
    cases hx : errorAt ts i <;> simp [hx]

/-- A modifier is passed over as far as nodes go, and what follows it is settled. -/
theorem modifier_place {code : String} {us : List Token}
    (hd : ts.drop i = ⟨.modifier, code⟩ :: us) :
    ts[i]? = some ⟨.modifier, code⟩ ∧ nodeAt ts i = none ∧ ts.drop (i + 1) = us ∧
      Settled ts (i + 1) := by
  have hi := getElem?_of_drop hd
  exact ⟨hi, nodeAt_of_kind hi (by simp) (by simp [Token.Kind.operators]), drop_succ_of_drop hd,
    settled_succ hi rfl (Or.inl rfl)⟩

theorem unitStep_trails (sign : Sign) (t : Token) (n : Amount) {us : List Token}
    (hd : ts.drop i = us) (ho : (behindSign ts i || behindAmount ts i) = true)
    (hs : ∀ u ∈ ts[i]?, u.kind = .number → behindSign ts i = false) :
    (Finding.unitStep sign t n us).1.bind Finding.node? =
        (ts[i]?.bind unitOf?).map (fun u => .shift ⟨sign, n, u⟩ (some t)) ∧
      Trails ts i (Finding.unitStep sign t n us).1 (Finding.unitStep sign t n us).2 := by
  rcases kind_cases .modifier hd with ⟨code, us', rfl⟩ | hu
  · obtain ⟨hi, hn, hd1, hset⟩ := modifier_place hd
    -- a code that is no unit is the error of its own place, and there is no node
    cases hc : TimeUnit.ofCode? code with
    | none =>
      have he : errorAt ts i = some (.illegal code) := by
        simp [errorAt, isErrorAt, hi, hc, ho]
      simp only [Finding.unitStep, hc, hi]
      exact ⟨by simp [hc, Finding.node?], trails_error hn he (trails_here hd1 hset rfl)⟩
    | some unit =>
      have he : errorAt ts i = none := by simp [errorAt, isErrorAt, hi, hc]
      simp only [Finding.unitStep, hc, hi]
      exact ⟨by simp [hc, Finding.node?], trails_cons hn he (trails_here hd1 hset rfl)⟩
  · have hnone : ts[i]?.bind unitOf? = none := by
      cases hx : ts[i]? with
      | none => rfl
      | some u => exact unitOf?_eq_none (hu u hx)
    rw [Finding.unitStep_of_kind (by rw [← hd, List.head?_drop]; exact hu), hnone]
    exact ⟨rfl, trails_here hd ⟨hs, fun u hu' hku => absurd hku (hu u hu')⟩ rfl⟩

theorem skipModifier_trails {us : List Token} (hd : ts.drop i = us)
    (ho : behindSign ts i = false) (ha : behindAmount ts i = false) :
    Trails ts i none (Finding.skipModifier us) := by
  unfold Finding.skipModifier
  split
  · rename_i code us'
    obtain ⟨hi, hn, hd1, hset⟩ := modifier_place hd
    have he : errorAt ts i = none := by simp [errorAt, isErrorAt, hi, ho, ha]
    exact trails_cons hn he (trails_here hd1 hset rfl)
  · exact trails_here hd ⟨fun _ _ _ => ho, fun _ _ _ => ⟨ho, ha⟩⟩ rfl

theorem shiftStep_agrees (sign : Sign) (hd : ts.drop i = t :: rest) (ht : isSign t = true)
    (hn : nodeAt ts i = (shiftAt sign ts i).map fun s => .shift s (some t))
    (he : errorAt ts i = none) : Agrees ts i (Finding.shiftStep sign t rest) := by
  have hi := getElem?_of_drop hd
  have hd1 := drop_succ_of_drop hd
  have hb1 : behindSign ts (i + 1) = true := by rw [behindSign_succ hi, ht]
  -- an amount may stand between the sign and the unit
  rcases kind_cases .number hd1 with ⟨literal, us, rfl⟩ | hu
  · have hi1 := getElem?_of_drop hd1
    have hd2 := drop_succ_of_drop hd1
    have hn1 : nodeAt ts (i + 1) = none :=
      nodeAt_of_kind hi1 (by simp) (by simp [Token.Kind.operators])
    have hb2 : behindSign ts (i + 1 + 1) = false := by rw [behindSign_succ hi1]; rfl
    have ha2 : behindAmount ts (i + 1 + 1) = (Finding.amount? literal).isSome := by
      rw [behindAmount_succ hi1, hb1, Bool.and_true, amountOf?_number]
    cases ha : Finding.amount? literal with
    | some n =>
      have he1 : errorAt ts (i + 1) = none := by simp [errorAt, isErrorAt, hi1, ha]
      obtain ⟨hnode, htr⟩ := unitStep_trails sign t n hd2
        (by rw [ha2, ha]; simp) (fun _ _ _ => hb2)
      simp only [Finding.shiftStep, ha]
      apply agrees_of_opener _ he (trails_cons hn1 he1 htr)
      rw [hn, hnode]
      simp [shiftAt, hi1, ha, Function.comp_def]
    | none =>
      -- a number that is no amount is the error, and a code behind it goes with it
      have he1 : errorAt ts (i + 1) = some (.illegal literal) := by
        simp [errorAt, isErrorAt, hi1, ha, hb1]
      have htr := skipModifier_trails hd2 hb2 (by rw [ha2, ha]; rfl)
      simp only [Finding.shiftStep, ha]
      apply agrees_of_opener _ he (trails_error hn1 he1 htr)
      rw [hn]
      simp [shiftAt, hi1, ha, unitOf?_eq_none, Finding.node?]
  · -- without a number the amount is one
    have hnone : ts[i + 1]?.bind amountOf? = none := by
      cases hx : ts[i + 1]? with
      | none => rfl
      | some u => exact amountOf?_eq_none (hu u hx)
    obtain ⟨hnode, htr⟩ := unitStep_trails sign t .one hd1
      (by rw [hb1]; rfl) (fun u hu' hku => absurd hku (hu u hu'))
    rw [Finding.shiftStep_of_kind (by rw [← hd1, List.head?_drop]; exact hu)]
    apply agrees_of_opener _ he htr
    rw [hn, hnode]
    simp [shiftAt, hnone, Function.comp_def]

/-- A snap takes every code there is, so it never ends in an error. -/
theorem snapStep_agrees (edge : Edge) (hd : ts.drop i = t :: rest)
    (ht : t.kind = .slash ∨ t.kind = .atSign)
    (hm : ∀ t ∈ ts, t.kind = .modifier → (Boundary.ofCode? t.literal).isSome)
    (hn : nodeAt ts i = (snapAt edge ts i).map fun s => .snap s (some t))
    (he : errorAt ts i = none) : Agrees ts i (Finding.snapStep edge t rest) := by
  have hi := getElem?_of_drop hd
  have hd1 := drop_succ_of_drop hd
  have hsign : isSign t = false := by rcases ht with h | h <;> simp [isSign, h]
  have hamount : amountOf? t = none :=
    amountOf?_eq_none (by rcases ht with h | h <;> simp [h])
  have hset := settled_succ hi hsign (Or.inl hamount)
  rcases kind_cases .modifier hd1 with ⟨code, us, rfl⟩ | hu
  · obtain ⟨hi1, hn1, hd2, hset2⟩ := modifier_place hd1
    obtain ⟨b, hb⟩ := Option.isSome_iff_exists.mp (hm _ (List.mem_of_getElem? hi1) rfl)
    have he1 : errorAt ts (i + 1) = none := by
      simp [errorAt, isErrorAt, hi1, behindSign_succ hi, behindAmount_succ hi, hsign, hamount]
    simp only [Finding.snapStep, hb]
    apply agrees_of_opener _ he (trails_cons hn1 he1 (trails_here hd2 hset2 rfl))
    rw [hn]
    simp [snapAt, hi1, hb, Finding.node?]
  · -- a snap without a code is dropped, and nothing else with it
    have hnone : ts[i + 1]?.bind boundaryOf? = none := by
      cases hx : ts[i + 1]? with
      | none => rfl
      | some u => exact boundaryOf?_eq_none (hu u hx)
    rw [Finding.snapStep_of_kind (by rw [← hd1, List.head?_drop]; exact hu)]
    apply agrees_of_opener _ he (trails_here hd1 hset rfl)
    rw [hn]
    simp [snapAt, hnone]

/-- One step of the reader, taken at a settled place, agrees with what the places show. -/
theorem step_agrees (hm : ∀ t ∈ ts, t.kind = .modifier → (Boundary.ofCode? t.literal).isSome)
    (hd : ts.drop i = t :: rest) (hs : Settled ts i) (hnow : t.kind = .now → 0 < i) :
    Agrees ts i (Finding.step t rest) := by
  have hi := getElem?_of_drop hd
  have hd1 := drop_succ_of_drop hd
  cases hk : t.kind with
  | plus =>
    simp only [Finding.step, hk]
    exact shiftStep_agrees .plus hd (by simp [isSign, hk]) (by simp [nodeAt, hi, hk])
      (errorAt_of_operator hi (by simp [hk, Token.Kind.operators]))
  | minus =>
    simp only [Finding.step, hk]
    exact shiftStep_agrees .minus hd (by simp [isSign, hk]) (by simp [nodeAt, hi, hk])
      (errorAt_of_operator hi (by simp [hk, Token.Kind.operators]))
  | slash =>
    simp only [Finding.step, hk]
    exact snapStep_agrees .start hd (Or.inl hk) hm (by simp [nodeAt, hi, hk])
      (errorAt_of_operator hi (by simp [hk, Token.Kind.operators]))
  | atSign =>
    simp only [Finding.step, hk]
    exact snapStep_agrees .finish hd (Or.inr hk) hm (by simp [nodeAt, hi, hk])
      (errorAt_of_operator hi (by simp [hk, Token.Kind.operators]))
  | number =>
    -- at a settled place a number or a code belongs to no clause and is passed over
    have hb : behindSign ts i = false := hs.number t hi hk
    have he : errorAt ts i = none := by simp [errorAt, isErrorAt, hi, hk, hb]
    simp only [Finding.step, hk]
    exact agrees_of_single hd
      (nodeAt_of_kind hi (by simp [hk]) (by simp [hk, Token.Kind.operators])) he
      (settled_succ hi (by simp [isSign, hk]) (Or.inr hb))
  | modifier =>
    obtain ⟨hb, ha⟩ := hs.modifier t hi hk
    have he : errorAt ts i = none := by simp [errorAt, isErrorAt, hi, hk, hb, ha]
    simp only [Finding.step, hk]
    exact agrees_of_single hd
      (nodeAt_of_kind hi (by simp [hk]) (by simp [hk, Token.Kind.operators])) he
      (settled_succ hi (by simp [isSign, hk]) (Or.inr hb))
  | finish =>
    have he : errorAt ts i = none := by simp [errorAt, isErrorAt, hi, hk]
    simp only [Finding.step, hk]
    exact agrees_of_single hd
      (nodeAt_of_kind hi (by simp [hk]) (by simp [hk, Token.Kind.operators])) he
      (settled_succ hi (by simp [isSign, hk]) (Or.inl (amountOf?_eq_none (by simp [hk]))))
  | now =>
    have he : errorAt ts i = some (.illegal t.literal) := by
      simp [errorAt, isErrorAt, hi, hk, hnow hk]
    simp only [Finding.step, hk]
    exact agrees_of_single hd (nodeAt_of_kind hi hnow (by simp [hk, Token.Kind.operators])) he
      (settled_succ hi (by simp [isSign, hk]) (Or.inl (amountOf?_eq_none (by simp [hk]))))
  | illegal =>
    have he : errorAt ts i = some (.illegal t.literal) := by
      simp [errorAt, isErrorAt, hi, hk]
    simp only [Finding.step, hk]
    exact agrees_of_single hd
      (nodeAt_of_kind hi (by simp [hk]) (by simp [hk, Token.Kind.operators])) he
      (settled_succ hi (by simp [isSign, hk]) (Or.inl (amountOf?_eq_none (by simp [hk]))))

theorem filterMap_range'_beyond {α : Type} (f : Nat → Option α) {i n : Nat} (k : Nat)
    (hf : ∀ j, i + n ≤ j → f j = none) :
    (List.range' i (n + k)).filterMap f = (List.range' i n).filterMap f := by
  have hb : (List.range' (i + n) k).filterMap f = [] := by
    apply List.filterMap_eq_nil_iff.mpr
    intro j hj
    exact hf j (List.mem_range'_1.mp hj).1
  rw [← List.range'_append_1, List.filterMap_append, hb, List.append_nil]

theorem ofTokens_drop (hm : ∀ t ∈ ts, t.kind = .modifier → (Boundary.ofCode? t.literal).isSome)
    (i n : Nat) (hs : Settled ts i) (hnow : ∀ t ∈ ts[i]?, t.kind = .now → 0 < i)
    (hn : ts.length ≤ i + n) :
    Reading.ofFindings (Finding.ofTokens (ts.drop i)) =
      ⟨(List.range' i n).filterMap (nodeAt ts), (List.range' i n).filterMap (errorAt ts)⟩ := by
  have hnone (j : Nat) (hj : ts.length ≤ j) : nodeAt ts j = none ∧ errorAt ts j = none := by
    have hx : ts[j]? = none := List.getElem?_eq_none hj
    exact ⟨by simp [nodeAt, hx], by simp [errorAt, isErrorAt, hx]⟩
  induction hl : (ts.drop i).length using Nat.strongRecOn generalizing i with
  | ind l ih =>
    cases hd : ts.drop i with
    | nil =>
      have hi : ts.length ≤ i := List.drop_eq_nil_iff.mp hd
      have h1 := filterMap_range'_beyond (nodeAt ts) (i := i) (n := 0) n
        (fun j hj => (hnone j (by omega)).1)
      have h2 := filterMap_range'_beyond (errorAt ts) (i := i) (n := 0) n
        (fun j hj => (hnone j (by omega)).2)
      rw [Nat.zero_add] at h1 h2
      rw [h1, h2, Finding.ofTokens]
      rfl
    | cons t rest =>
      -- the step ends at a settled place, from where the induction goes on
      obtain ⟨m, hr, hset, hnodes, herrors⟩ := step_agrees hm hd hs (hnow t (getElem?_of_drop hd))
      have hlt : (ts.drop (i + 1 + m)).length < l := by
        have hi := (List.getElem?_eq_some_iff.mp (getElem?_of_drop hd)).1
        rw [← hl, List.length_drop, List.length_drop]
        omega
      have hrest := ih _ hlt (i + 1 + m) hset (fun _ _ _ => by omega) (by omega) rfl
      -- the places from `i` on are those of the step and then those of the rest
      have hsplit : List.range' i (n + (m + 1)) =
          List.range' i (m + 1) ++ List.range' (i + 1 + m) n := by
        rw [Nat.add_comm n, ← List.range'_append_1, show i + (m + 1) = i + 1 + m by omega]
      rw [← filterMap_range'_beyond (nodeAt ts) (m + 1) (fun j hj => (hnone j (by omega)).1),
        ← filterMap_range'_beyond (errorAt ts) (m + 1) (fun j hj => (hnone j (by omega)).2),
        hsplit, List.filterMap_append, List.filterMap_append, hnodes, herrors,
        Finding.ofTokens, hr, Reading.ofFindings_append, Reading.ofFindings_toList, hrest]

theorem ofTokens_eq_reading
    (hm : ∀ t ∈ ts, t.kind = .modifier → (Boundary.ofCode? t.literal).isSome) :
    Reading.ofTokens ts = reading ts := by
  have hzero : Settled ts 0 := ⟨fun _ _ _ => rfl, fun _ _ _ => ⟨rfl, rfl⟩⟩
  simp only [reading, List.range_eq_range', Reading.ofTokens]
  rcases kind_cases .now (List.drop_zero (l := ts)) with ⟨literal, us, rfl⟩ | hu
  · -- the word for now is read by itself, and the run begins behind it
    have hset : Settled (⟨.now, literal⟩ :: us) 1 :=
      settled_succ (t := ⟨.now, literal⟩) rfl rfl (Or.inl rfl)
    have hrest := ofTokens_drop hm 1 us.length hset (fun _ _ _ => Nat.one_pos)
      (by rw [List.length_cons]; omega)
    have hnode : nodeAt (⟨.now, literal⟩ :: us) 0 = some (.now ⟨.now, literal⟩) := rfl
    have herror : errorAt (⟨.now, literal⟩ :: us) 0 = none := rfl
    rw [List.length_cons, List.range'_succ, List.filterMap_cons_some hnode,
      List.filterMap_cons_none herror, Nat.zero_add]
    rw [List.drop_one, List.tail_cons] at hrest
    exact congrArg (fun r : Reading => Reading.mk (.now ⟨.now, literal⟩ :: r.nodes) r.errors) hrest
  · rw [Reading.findings_of_kind (by rw [List.head?_eq_getElem?]; exact hu)]
    exact ofTokens_drop hm 0 ts.length hzero (fun t ht hk => absurd hk (hu t ht)) (by omega)

end RelativeTime.Window

namespace RelativeTime

/-- A text reads as the places of its tokens show, each by itself; an error names the token at its
place. -/
theorem Reading.ofText_eq_window (text : String) (h : text ≠ "") :
    Reading.ofText (some text) = Window.reading (Token.ofChars text.toList) ∧
      (Reading.ofText (some text)).errors.map ReadError.message =
        (List.range (Token.ofChars text.toList).length).filterMap fun i =>
          if Window.isErrorAt (Token.ofChars text.toList) i then
            (Token.ofChars text.toList)[i]?.map fun t =>
              "Illegal operator: \"" ++ t.literal ++ "\""
          else none := by
  have hr : Reading.ofText (some text) = Window.reading (Token.ofChars text.toList) := by
    rw [Reading.ofText_of_ne_empty h]
    exact Window.ofTokens_eq_reading fun t ht hk => Token.isSome_boundary_of_modifier ht hk
  refine ⟨hr, ?_⟩
  rw [hr]
  simp only [Window.reading, List.map_filterMap]
  congr 1
  funext i
  unfold Window.errorAt
  split
  · rw [Option.map_map]
    rfl
  · rfl

/-- A text in which most clauses break off, and the word for now stands too late. -/
theorem Reading.ofText_eq_window_broken :
    "+h3/-0d/now@5+7bw" ≠ "" ∧
      Reading.ofText (some "+h3/-0d/now@5+7bw") =
        Window.reading (Token.ofChars "+h3/-0d/now@5+7bw".toList) :=
  ⟨by decide, (Reading.ofText_eq_window "+h3/-0d/now@5+7bw" (by decide)).1⟩

end RelativeTime
