import RelativeTime.Expression
import RelativeTime.Proofs.Joining
import RelativeTime.Proofs.LocalReading

/-!
Printing and reading. Clauses print without anything between them, yet every border of a clause is a
seam: what is printed reads as the same clauses. And whatever reads as an expression can be printed.
-/
namespace RelativeTime

namespace Token

/-- Without a character of its class behind it a run is a token by itself. -/
theorem ofChars_run_append {run rest : List Char} (hr : IsRun run)
    (hs : ∀ c ∈ run, ∀ d ∈ rest.head?, classOf c = classOf d → classOf c = .operator) :
    ofChars (run ++ rest) = ofRun run :: ofChars rest := by
  have hf := firstRun_of_isRun hr hs
  obtain ⟨c, cs, rfl⟩ := List.exists_cons_of_ne_nil (isRun_ne_nil hr)
  rw [List.cons_append] at hf
  rw [ofChars, List.cons_append, runs_cons, hf, List.map_cons, ofChars]

theorem ofChars_run {run : List Char} (hr : IsRun run) : ofChars run = [ofRun run] := by
  have h : ofChars (run ++ []) = ofRun run :: ofChars [] := ofChars_run_append hr (by simp)
  rwa [List.append_nil, ofChars_nil] at h

theorem operatorKind?_of_isDigit {c : Char} (h : c.isDigit = true) : operatorKind? c = none := by
  unfold operatorKind?
  split
  · exact absurd h (by decide)
  · exact absurd h (by decide)
  · exact absurd h (by decide)
  · exact absurd h (by decide)
  · rfl

theorem classOf_of_isDigit {c : Char} (h : c.isDigit = true) : classOf c = .digit := by
  simp [classOf, operatorKind?_of_isDigit h, h]

theorem isDigit_of_classOf {c : Char} (h : classOf c = .digit) : c.isDigit = true := by
  unfold classOf at h
  split at h
  · simp at h
  · split at h
    · assumption
    · split at h <;> simp at h

theorem classOf_digits (n : Nat) : ∀ c ∈ Nat.toDigits 10 n, classOf c = .digit := by
  intro c hc
  exact classOf_of_isDigit (Nat.isDigit_of_mem_toDigits (by decide) (by decide) hc)

theorem isRun_digits (n : Nat) : IsRun (Nat.toDigits 10 n) :=
  Or.inr ⟨Nat.toDigits_ne_nil, .digit, by decide, classOf_digits n⟩

theorem ofRun_digits (n : Nat) : ofRun (Nat.toDigits 10 n) = ⟨.number, toString n⟩ := by
  have hd := classOf_digits n
  rw [ofRun, Nat.toString_eq_ofList_toDigits]
  cases h : Nat.toDigits 10 n with
  | nil => exact absurd h Nat.toDigits_ne_nil
  | cons c cs =>
    rw [h] at hd
    simp only [kindOf, hd c List.mem_cons_self]

theorem classOf_code (b : Boundary) : ∀ c ∈ b.code.toList, classOf c = .letter := by
  have hall : (b.code.toList.all fun c => classOf c == .letter) = true := by
    rcases b with u | _ | w
    · cases u <;> decide
    · decide
    · cases w <;> decide
  intro c hc
  exact beq_iff_eq.mp (List.all_eq_true.mp hall c hc)

theorem isRun_code (b : Boundary) : IsRun b.code.toList := by
  refine Or.inr ⟨?_, .letter, by decide, classOf_code b⟩
  rcases b with u | _ | w
  · cases u <;> decide
  · decide
  · cases w <;> decide

theorem ofRun_code (b : Boundary) : ofRun b.code.toList = ⟨.modifier, b.code⟩ := by
  rcases b with u | _ | w
  · cases u <;> decide
  · decide
  · cases w <;> decide

theorem ofChars_code (b : Boundary) : ofChars b.code.toList = [⟨.modifier, b.code⟩] := by
  rw [ofChars_run (isRun_code b), ofRun_code]

/-- A number against a code is cut where the digits end. -/
theorem ofChars_digits_code (n : Nat) (b : Boundary) :
    ofChars (Nat.toDigits 10 n ++ b.code.toList) =
      [⟨.number, toString n⟩, ⟨.modifier, b.code⟩] := by
  rw [ofChars_run_append (isRun_digits n), ofRun_digits, ofChars_code]
  intro c hc d hd h
  rw [classOf_digits n c hc, classOf_code b d (List.mem_of_head? hd)] at h
  simp at h

end Token

namespace Sign

/-- The token that a printed shift opens with. -/
def token : Sign → Token
  | plus => ⟨.plus, "+"⟩
  | minus => ⟨.minus, "-"⟩

theorem step_token (x : Sign) (ts : List Token) :
    Finding.step x.token ts = Finding.shiftStep x x.token ts := by
  cases x <;> rfl

end Sign

namespace Edge

/-- The token that a printed snap opens with. -/
def token : Edge → Token
  | start => ⟨.slash, "/"⟩
  | finish => ⟨.atSign, "@"⟩

theorem step_token (x : Edge) (ts : List Token) :
    Finding.step x.token ts = Finding.snapStep x x.token ts := by
  cases x <;> rfl

end Edge

namespace Clause

/-- The node that a printed clause reads as. -/
def node : Clause → Node
  | now => .now Token.now
  | shift s => .shift s (some s.sign.token)
  | snap s => .snap s (some s.edge.token)

@[simp] theorem clause_node (x : Clause) : x.node.clause = x := by
  cases x <;> rfl

@[simp] theorem text_node (x : Clause) : x.node.text = x.text := by
  cases x <;> rfl

/-- The amount has no more digits than can be read. -/
def IsReadable (x : Clause) : Prop :=
  ∀ s, x = .shift s → (Nat.toDigits 10 s.amount.count).length ≤ Amount.maxDigits

theorem ofChars_text_shift (s : Shift) :
    Token.ofChars (shift s).text.toList =
      [s.sign.token, ⟨.number, toString s.amount.count⟩, ⟨.modifier, s.unit.code⟩] := by
  have ht : (shift s).text.toList = s.sign.symbol.toList ++
      (Nat.toDigits 10 s.amount.count ++ (Boundary.unit s.unit).code.toList) := by
    simp [text, Boundary.code]
  have hrest := Token.ofChars_digits_code s.amount.count (.unit s.unit)
  rw [ht]
  cases s.sign with
  | plus => exact (Token.ofChars_cons_operator rfl _).trans (congrArg _ hrest)
  | minus => exact (Token.ofChars_cons_operator rfl _).trans (congrArg _ hrest)

theorem ofChars_text_snap (s : Snap) :
    Token.ofChars (snap s).text.toList = [s.edge.token, ⟨.modifier, s.boundary.code⟩] := by
  have ht : (snap s).text.toList = s.edge.symbol.toList ++ s.boundary.code.toList := by
    simp [text]
  have hrest := Token.ofChars_code s.boundary
  rw [ht]
  cases s.edge with
  | start => exact (Token.ofChars_cons_operator rfl _).trans (congrArg _ hrest)
  | finish => exact (Token.ofChars_cons_operator rfl _).trans (congrArg _ hrest)

theorem amount?_toString {n : Amount} (h : (Nat.toDigits 10 n.count).length ≤ Amount.maxDigits) :
    Finding.amount? (toString n.count) = some n := by
  have hl : (toString n.count).length = (Nat.toDigits 10 n.count).length := by
    rw [Nat.toString_eq_ofList_toDigits, String.length_ofList]
  have hv : Nat.ofDigitChars 10 (toString n.count).toList 0 = n.count := by
    rw [Nat.toString_eq_ofList_toDigits, String.toList_ofList, Nat.ofDigitChars_ten_toDigits]
  rw [Finding.amount?, hl, if_pos h, hv, Amount.ofNat?, dif_pos n.count_pos]

theorem text_ne_empty (x : Clause) : x.text ≠ "" := by
  cases x with
  | now => decide
  | shift s => cases h : s.sign <;> simp [text, h, Sign.symbol]
  | snap s => cases h : s.edge <;> simp [text, h, Edge.symbol]

theorem ofTokens_of_step {t : Token} {ts : List Token} {n : Node}
    (ht : t.kind ∈ Token.Kind.operators) (h : Finding.step t ts = (some (.node n), [])) :
    Reading.ofTokens (t :: ts) = ⟨[n], []⟩ := by
  have hhead : ∀ u ∈ (t :: ts).head?, u.kind ∈ Token.Kind.operators := by
    intro u hu
    rw [List.head?_cons, Option.mem_some_iff] at hu
    rwa [← hu]
  have hnow : ∀ u ∈ (t :: ts).head?, u.kind ≠ .now := Token.head_kind_ne hhead (by decide)
  rw [Reading.ofTokens, Reading.findings_of_kind hnow, Finding.ofTokens, h, Finding.ofTokens]
  rfl

theorem step_shift {s : Shift} (h : (shift s).IsReadable) :
    Finding.step s.sign.token [⟨.number, toString s.amount.count⟩, ⟨.modifier, s.unit.code⟩] =
      (some (.node (shift s).node), []) := by
  have ha := amount?_toString (h s rfl)
  have hu : TimeUnit.ofCode? s.unit.code = some s.unit := TimeUnit.ofCode?_eq_some.mpr rfl
  rw [Sign.step_token]
  simp only [Finding.shiftStep, ha, Finding.unitStep, hu]
  rfl

theorem step_snap (s : Snap) :
    Finding.step s.edge.token [⟨.modifier, s.boundary.code⟩] =
      (some (.node (snap s).node), []) := by
  have hb : Boundary.ofCode? s.boundary.code = some s.boundary :=
    Boundary.ofCode?_eq_some.mpr rfl
  rw [Edge.step_token]
  simp only [Finding.snapStep, hb]
  rfl

/-- A printed clause reads as itself. -/
theorem ofText_text {x : Clause} (h : x.IsReadable) :
    Reading.ofText (some x.text) = ⟨[x.node], []⟩ := by
  rw [Reading.ofText_of_ne_empty (text_ne_empty x)]
  cases x with
  | now => decide +kernel
  | shift s =>
    rw [ofChars_text_shift]
    exact ofTokens_of_step (by cases s.sign <;> decide) (step_shift h)
  | snap s =>
    rw [ofChars_text_snap]
    exact ofTokens_of_step (by cases s.edge <;> decide) (step_snap s)

theorem head?_text {x : Clause} (h : x ≠ .now) :
    ∀ c ∈ x.text.toList.head?, Token.classOf c = .operator := by
  cases x with
  | now => exact absurd rfl h
  | shift s => cases hs : s.sign <;> simp [text, hs, Sign.symbol] <;> decide
  | snap s => cases hs : s.edge <;> simp [text, hs, Edge.symbol] <;> decide

/-- Printed clauses read as themselves, for every border between them is a seam. -/
theorem ofText_join {xs : List Clause} (hne : xs ≠ []) (hnow : ∀ x ∈ xs.tail, x ≠ .now)
    (hr : ∀ x ∈ xs, x.IsReadable) :
    Reading.ofText (some (String.join (xs.map text))) = ⟨xs.map node, []⟩ := by
  induction xs with
  | nil => exact absurd rfl hne
  | cons x xs ih =>
    have hx := ofText_text (hr x List.mem_cons_self)
    cases xs with
    | nil => simpa using hx
    | cons y ys =>
      have hy : y ≠ .now := hnow y List.mem_cons_self
      have hrest := ih (List.cons_ne_nil y ys) (fun z hz => hnow z (List.mem_cons_of_mem y hz))
        (fun z hz => hr z (List.mem_cons_of_mem x hz))
      -- the rest begins with an operator, so texts and readings part at the same place
      have hyne : String.join ((y :: ys).map text) ≠ "" := by
        simp [text_ne_empty y]
      have hop : ∀ c ∈ (String.join ((y :: ys).map text)).toList.head?,
          Token.classOf c = .operator := by
        have hhead := head?_text hy
        have hc : y.text.toList ≠ [] := by simpa using text_ne_empty y
        obtain ⟨d, ds, hd⟩ := List.exists_cons_of_ne_nil hc
        rw [List.map_cons, String.join_cons, String.toList_append, hd, List.cons_append]
        rwa [hd] at hhead
      rw [List.map_cons, String.join_cons, Reading.ofText_append (text_ne_empty x) hyne hop,
        hx, hrest]
      rfl

end Clause

namespace Token

theorem isDigit_of_number {cs : List Char} {t : Token} (h : t ∈ ofChars cs)
    (hk : t.kind = .number) : ∀ c ∈ t.literal.toList, c.isDigit = true := by
  obtain ⟨run, hm, rfl⟩ := List.mem_map.mp h
  have hr := (isSegmentation_runs cs).isRun run hm
  obtain ⟨d, ds, rfl⟩ := List.exists_cons_of_ne_nil (isRun_ne_nil hr)
  intro c hc
  rw [ofRun, String.toList_ofList] at hc
  exact isDigit_of_classOf ((isRun_class hr c hc).trans (classOf_of_number hk))

theorem ofDigitChars_lt {ds : List Char} (h : ∀ c ∈ ds, c.isDigit = true) :
    Nat.ofDigitChars 10 ds 0 < Nat.pow 10 ds.length := by
  induction ds with
  | nil => simp
  | cons c ds ih =>
    have hd := ih fun d hd => h d (List.mem_cons_of_mem c hd)
    have hc : c.toNat - '0'.toNat ≤ 9 := by
      have hc := h c List.mem_cons_self
      rw [Char.isDigit_iff_toNat] at hc
      have h0 : '0'.toNat = 48 := rfl
      have h9 : '9'.toNat = 57 := rfl
      omega
    rw [Nat.ofDigitChars_cons, Nat.ofDigitChars_eq_ofDigitChars_zero, List.length_cons,
      ← Nat.pow_eq]
    have hm : Nat.pow 10 ds.length * (10 * 0 + (c.toNat - '0'.toNat)) ≤ Nat.pow 10 ds.length * 9 :=
      Nat.mul_le_mul_left _ (by omega)
    have hs : Nat.pow 10 (ds.length + 1) = Nat.pow 10 ds.length * 10 := rfl
    omega

theorem length_toDigits_le {ds : List Char} {n : Nat} (h : ∀ c ∈ ds, c.isDigit = true)
    (hn : 0 < n) (hl : ds.length ≤ n) :
    (Nat.toDigits 10 (Nat.ofDigitChars 10 ds 0)).length ≤ n := by
  have hlt : Nat.ofDigitChars 10 ds 0 < Nat.pow 10 ds.length := ofDigitChars_lt h
  have hpow : Nat.pow 10 ds.length ≤ Nat.pow 10 n := Nat.pow_le_pow_right (by decide) hl
  exact (Nat.length_toDigits_le_iff (by decide) hn).mpr (Nat.lt_of_lt_of_le hlt hpow)

theorem literal_of_operator {cs : List Char} {t : Token} (h : t ∈ ofChars cs)
    (hk : t.kind ∈ Kind.operators) : t.literal = t.kind.value := by
  obtain ⟨run, hrun, rfl⟩ := List.mem_map.mp h
  rcases (isSegmentation_runs cs).isRun run hrun with ⟨c, rfl, hc⟩ | ⟨hne, k, hoperator, hall⟩
  · obtain ⟨k, hkind⟩ := Option.isSome_iff_exists.mp (classOf_eq_operator.mp hc)
    have hof : (ofRun [c]).kind = k := by simp only [ofRun, kindOf, hc, hkind, Option.getD_some]
    rw [hof]
    exact operatorKind?_value hkind
  · obtain ⟨c, rest, rfl⟩ := List.exists_cons_of_ne_nil hne
    have hc : classOf c ≠ .operator := by
      rw [hall c List.mem_cons_self]
      exact hoperator
    exact absurd hk (kindOf_not_mem_operators hc)

theorem eq_sign_token {cs : List Char} {t : Token} {x : Sign} (h : t ∈ ofChars cs)
    (hk : t.kind = x.token.kind) : t = x.token := by
  have hl : t.literal = t.kind.value :=
    literal_of_operator h (by rw [hk]; cases x <;> decide)
  rw [hk] at hl
  obtain ⟨kind, literal⟩ := t
  cases x <;> simp_all [Sign.token] <;> rfl

theorem eq_edge_token {cs : List Char} {t : Token} {x : Edge} (h : t ∈ ofChars cs)
    (hk : t.kind = x.token.kind) : t = x.token := by
  have hl : t.literal = t.kind.value :=
    literal_of_operator h (by rw [hk]; cases x <;> decide)
  rw [hk] at hl
  obtain ⟨kind, literal⟩ := t
  cases x <;> simp_all [Edge.token] <;> rfl

end Token

namespace Window

variable {ts : List Token} {i : Nat}

theorem nodeAt_now {t : Token} (h : nodeAt ts i = some (.now t)) :
    i = 0 ∧ t ∈ ts ∧ t.kind = .now := by
  cases hi : ts[i]? with
  | none => simp [nodeAt, hi] at h
  | some u =>
    cases hk : u.kind <;> simp [nodeAt, hi, hk] at h
    obtain ⟨hzero, rfl⟩ := h
    exact ⟨hzero, List.mem_of_getElem? hi, hk⟩

/-- An amount that is shown stands among the tokens, unless it was left out. -/
theorem shiftAt_amount {sign : Sign} {s : Shift} (h : shiftAt sign ts i = some s) :
    s.amount = .one ∨ ∃ t ∈ ts, amountOf? t = some s.amount := by
  unfold shiftAt at h
  split at h
  · rename_i n hn
    obtain ⟨u, _, rfl⟩ := Option.map_eq_some_iff.mp h
    obtain ⟨t, ht, ha⟩ := Option.bind_eq_some_iff.mp hn
    exact Or.inr ⟨t, List.mem_of_getElem? ht, ha⟩
  · obtain ⟨u, _, rfl⟩ := Option.map_eq_some_iff.mp h
    exact Or.inl rfl

theorem nodeAt_shift {s : Shift} {o : Option Token} (h : nodeAt ts i = some (.shift s o)) :
    s.amount = .one ∨ ∃ t ∈ ts, amountOf? t = some s.amount := by
  cases hi : ts[i]? with
  | none => simp [nodeAt, hi] at h
  | some u =>
    rw [nodeAt, hi, Option.bind_some] at h
    cases hk : u.kind with
    | plus =>
      simp only [hk] at h
      obtain ⟨k, hs, he⟩ := Option.map_eq_some_iff.mp h
      obtain rfl : k = s := (Node.shift.inj he).1
      exact shiftAt_amount hs
    | minus =>
      simp only [hk] at h
      obtain ⟨k, hs, he⟩ := Option.map_eq_some_iff.mp h
      obtain rfl : k = s := (Node.shift.inj he).1
      exact shiftAt_amount hs
    | _ => simp [hk] at h

theorem shiftAt_sign {sign : Sign} {s : Shift}
    (h : shiftAt sign ts i = some s) : s.sign = sign := by
  unfold shiftAt at h
  split at h <;> (obtain ⟨u, _, rfl⟩ := Option.map_eq_some_iff.mp h; rfl)

theorem snapAt_edge {edge : Edge} {s : Snap}
    (h : snapAt edge ts i = some s) : s.edge = edge := by
  obtain ⟨b, _, rfl⟩ := Option.map_eq_some_iff.mp h
  rfl

/-- A node has the clause that its opening token is for. -/
theorem nodeAt_cases {n : Node} (h : nodeAt ts i = some n) :
    ∃ t ∈ ts, (t.kind = .now ∧ n = .now t) ∨
      (∃ s : Shift, t.kind = s.sign.token.kind ∧ n = .shift s (some t)) ∨
        ∃ s : Snap, t.kind = s.edge.token.kind ∧ n = .snap s (some t) := by
  obtain ⟨t, ht, h⟩ := Option.bind_eq_some_iff.mp h
  refine ⟨t, List.mem_of_getElem? ht, ?_⟩
  split at h
  case h_1 hk =>
    split at h
    · exact Or.inl ⟨hk, (Option.some.inj h).symm⟩
    · simp at h
  case h_2 hk =>
    obtain ⟨s, hs, rfl⟩ := Option.map_eq_some_iff.mp h
    exact Or.inr (Or.inl ⟨s, by rw [hk, shiftAt_sign hs]; rfl, rfl⟩)
  case h_3 hk =>
    obtain ⟨s, hs, rfl⟩ := Option.map_eq_some_iff.mp h
    exact Or.inr (Or.inl ⟨s, by rw [hk, shiftAt_sign hs]; rfl, rfl⟩)
  case h_4 hk =>
    obtain ⟨s, hs, rfl⟩ := Option.map_eq_some_iff.mp h
    exact Or.inr (Or.inr ⟨s, by rw [hk, snapAt_edge hs]; rfl, rfl⟩)
  case h_5 hk =>
    obtain ⟨s, hs, rfl⟩ := Option.map_eq_some_iff.mp h
    exact Or.inr (Or.inr ⟨s, by rw [hk, snapAt_edge hs]; rfl, rfl⟩)
  case h_6 => simp at h

/-- A node opens with the token that its clause is printed with. -/
theorem node_of_nodeAt {cs : List Char} {n : Node}
    (h : nodeAt (Token.ofChars cs) i = some n) : n.clause.node = n := by
  obtain ⟨t, ht, ⟨hk, rfl⟩ | ⟨s, hk, rfl⟩ | ⟨s, hk, rfl⟩⟩ := nodeAt_cases h
  · have hnow : t = Token.now := by
      obtain ⟨kind, literal⟩ := t
      obtain rfl : kind = .now := hk
      have hl : literal = "now" := Token.literal_of_now ht rfl
      rw [hl, Token.now]
    rw [hnow]
    rfl
  · rw [Token.eq_sign_token ht hk]
    rfl
  · rw [Token.eq_edge_token ht hk]
    rfl

theorem exists_place_of_mem_tail {n : Node} (h : n ∈ (reading ts).nodes.tail) :
    ∃ i, 0 < i ∧ nodeAt ts i = some n := by
  cases hl : ts.length with
  | zero => simp [reading, hl] at h
  | succ m =>
    have hmem : n ∈ (List.range' 1 m).filterMap (nodeAt ts) := by
      rw [reading, hl, List.range_eq_range', List.range'_succ] at h
      cases h0 : nodeAt ts 0 with
      | none =>
        rw [List.filterMap_cons_none h0] at h
        exact List.mem_of_mem_tail h
      | some n0 => rwa [List.filterMap_cons_some h0, List.tail_cons] at h
    obtain ⟨i, hi, hn⟩ := List.mem_filterMap.mp hmem
    exact ⟨i, (List.mem_range'_1.mp hi).1, hn⟩

/-- The nodes of a text are read from tokens that were cut from characters. -/
theorem exists_reading (text : Option String) :
    ∃ cs, (Reading.ofText text).nodes = (reading (Token.ofChars cs)).nodes := by
  rw [Reading.ofText, Reading.ofScanner]
  split
  case isTrue => exact ⟨[], by decide +kernel⟩
  case isFalse =>
    have hr : Reading.ofTokens (Token.ofChars (Scanner.ofText text).unread) =
        reading (Token.ofChars (Scanner.ofText text).unread) :=
      ofTokens_eq_reading fun t ht hk => Token.isSome_boundary_of_modifier ht hk
    exact ⟨(Scanner.ofText text).unread, by rw [hr]⟩

/-- Every node of a reading opens with the token that its clause is printed with. -/
theorem node_of_mem {text : Option String} {n : Node} (h : n ∈ (Reading.ofText text).nodes) :
    n.clause.node = n := by
  obtain ⟨cs, hcs⟩ := exists_reading text
  rw [hcs] at h
  obtain ⟨i, _, hni⟩ := List.mem_filterMap.mp h
  exact node_of_nodeAt hni

end Window

theorem Amount.length_digits_le {cs : List Char} {t : Token} {n : Amount}
    (ht : t ∈ Token.ofChars cs) (h : Window.amountOf? t = some n) :
    (Nat.toDigits 10 n.count).length ≤ maxDigits := by
  unfold Window.amountOf? at h
  split at h
  case isTrue hgood =>
    split at h
    case isTrue =>
      obtain rfl := Option.some.inj h
      exact Token.length_toDigits_le (Token.isDigit_of_number ht hgood.1) (by decide) hgood.2
    case isFalse => simp at h
  case isFalse => simp at h

namespace Expression

/-- The nodes print as they would be written: the word for now in front only, and no amount longer
than can be read. -/
structure IsPrintable (x : Expression) : Prop where
  now_first : ∀ n ∈ x.nodes.tail, n.clause ≠ .now
  now_literal : ∀ t, .now t ∈ x.nodes → t.literal = "now"
  readable : ∀ n ∈ x.nodes, n.clause.IsReadable

theorem text_eq_join {x : Expression} (h : ∀ t, .now t ∈ x.nodes → t.literal = "now") :
    x.text = String.join (x.clauses.map Clause.text) := by
  have hn : ∀ n ∈ x.nodes, n.text = n.clause.text := by
    intro n hn
    cases n with
    | now t => exact h t hn
    | shift s o => rfl
    | snap s o => rfl
  rw [text, clauses, List.map_map, List.map_congr_left hn]
  rfl

theorem isWritable_of_isReadable {k : Clause} (h : k.IsReadable) : k.isWritable = true := by
  cases k with
  | now => rfl
  | shift s =>
    rw [Clause.isWritable, decide_eq_true_eq, Nat.pow_eq,
      ← Nat.length_toDigits_le_iff (by decide) (by decide)]
    exact h s rfl
  | snap s => rfl

theorem written_of_isPrintable {x : Expression} (h : x.IsPrintable) : x.written = .ok x.text := by
  apply written_eq_ok
  intro k hk
  obtain ⟨n, hn, rfl⟩ := List.mem_map.mp hk
  exact isWritable_of_isReadable (h.readable n hn)

theorem clauses_map_node (ks : List Clause) (ref : Option Stamp) :
    clauses ⟨ks.map Clause.node, ref⟩ = ks := by
  rw [clauses, List.map_map, (funext Clause.clause_node : Node.clause ∘ Clause.node = id),
    List.map_id]

theorem ofText_text {x : Expression} (h : x.IsPrintable) (hne : x.nodes ≠ []) :
    Reading.ofText (some x.text) = ⟨x.clauses.map Clause.node, []⟩ := by
  rw [text_eq_join h.now_literal]
  apply Clause.ofText_join
  · simpa [clauses] using hne
  · intro k hk
    rw [clauses, ← List.map_tail] at hk
    obtain ⟨n, hn, rfl⟩ := List.mem_map.mp hk
    exact h.now_first n hn
  · intro k hk
    obtain ⟨n, hn, rfl⟩ := List.mem_map.mp hk
    exact h.readable n hn

theorem isPrintable_of_ofText {text : Option String} {ref : Option Stamp} {x : Expression}
    (h : ofText text ref = .ok x) : x.IsPrintable := by
  obtain ⟨he, rfl⟩ := ofText_eq_ok.mp h
  obtain ⟨cs, hcs⟩ := Window.exists_reading text
  constructor
  · -- a word for now behind the first place would be an error and no node
    intro n hn hnow
    rw [hcs] at hn
    obtain ⟨i, hi, hni⟩ := Window.exists_place_of_mem_tail hn
    cases n with
    | now t => exact absurd (Window.nodeAt_now hni).1 (by omega)
    | shift s o => simp [Node.clause] at hnow
    | snap s o => simp [Node.clause] at hnow
  · intro t ht
    rw [hcs] at ht
    obtain ⟨i, _, hni⟩ := List.mem_filterMap.mp ht
    obtain ⟨_, hmem, hk⟩ := Window.nodeAt_now hni
    exact Token.literal_of_now hmem hk
  · intro n hn s hs
    rw [hcs] at hn
    obtain ⟨i, _, hni⟩ := List.mem_filterMap.mp hn
    cases n with
    | now t => simp [Node.clause] at hs
    | snap b o => simp [Node.clause] at hs
    | shift k o =>
      obtain rfl : k = s := by simpa [Node.clause] using hs
      -- an amount that was read has no more digits than the number it was read from
      rcases Window.nodeAt_shift hni with h1 | ⟨t, ht, ha⟩
      · rw [h1]
        decide
      · exact Amount.length_digits_le ht ha

theorem written_of_ofText {text : Option String} {ref : Option Stamp} {x : Expression}
    (h : ofText text ref = .ok x) : x.written = .ok x.text :=
  written_of_isPrintable (isPrintable_of_ofText h)

/-- An expression that was read from a text is read again, tokens included, from what it prints. -/
theorem ofText_text_eq {text : Option String} {ref ref' : Option Stamp} {x : Expression}
    (h : ofText text ref = .ok x) (hne : x.nodes ≠ []) :
    ofText (some x.text) ref' = .ok { x with reference := ref' } := by
  have hr := ofText_text (isPrintable_of_ofText h) hne
  have hnodes : x.clauses.map Clause.node = x.nodes := by
    obtain ⟨he, rfl⟩ := ofText_eq_ok.mp h
    rw [clauses, List.map_map]
    exact (List.map_congr_left fun n hn => Window.node_of_mem hn).trans (List.map_id _)
  rw [ofText_eq_ok, hr, hnodes]
  exact ⟨rfl, rfl⟩

theorem text_eq_empty {x : Expression} (h : x.IsPrintable) : x.text = "" ↔ x.nodes = [] := by
  rw [text_eq_join h.now_literal, clauses]
  cases x.nodes with
  | nil => simp
  | cons n ns => simp [Clause.text_ne_empty]

theorem toData_eq {x y : Expression} (h : x.clauses = y.clauses) : x.toData = y.toData := by
  have hn : Node.toData = (fun k : Clause => (Clause.node k).toData) ∘ Node.clause := by
    funext n
    simp only [Function.comp_apply, Node.toData, Clause.clause_node]
  rw [clauses, clauses] at h
  rw [toData, toData, hn, ← List.map_map, ← List.map_map, h]

/-- What is printed reads as the same clauses, and then as the same expression in every respect
that does not look at the tokens. -/
theorem ofText_printed {x : Expression} (h : x.IsPrintable) (hne : x.nodes ≠ [])
    (ref : Option Stamp) :
    ∃ y, ofText (some x.text) ref = .ok y ∧ y.clauses = x.clauses ∧ y.text = x.text := by
  have hr := ofText_text h hne
  have hc : clauses ⟨x.clauses.map Clause.node, ref⟩ = x.clauses := clauses_map_node x.clauses ref
  have hok : ofText (some x.text) ref = .ok ⟨x.clauses.map Clause.node, ref⟩ :=
    ofText_eq_ok.mpr ⟨by rw [hr], by rw [hr]⟩
  refine ⟨_, hok, hc, ?_⟩
  rw [text_eq_join (isPrintable_of_ofText hok).now_literal, hc, ← text_eq_join h.now_literal]

/-- Printing and then reading is the identity on printable expressions, and every expression that
was read is printable. -/
theorem ofText_text_ofText :
    (∀ x : Expression, x.nodes ≠ [] → x.IsPrintable →
      x.written = .ok x.text ∧ (Reading.ofText (some x.text)).errors = [] ∧
        ∀ ref, ∃ y, ofText (some x.text) ref = .ok y ∧ y.clauses = x.clauses ∧
          y.toData = x.toData ∧ y.isSnapped = x.isSnapped ∧ y.isModified = x.isModified ∧
          y.text = x.text ∧ ∀ c r, y.evaluate c r = x.evaluate c r) ∧
      ∀ text ref x, ofText text ref = .ok x →
        x.IsPrintable ∧ x.written = .ok x.text ∧ (x.text = "" ↔ x.nodes = []) ∧
          (x.nodes ≠ [] → ∃ y, ofText (some x.text) ref = .ok y ∧ y.clauses = x.clauses ∧
            y.text = x.text) := by
  constructor
  · intro x hne h
    refine ⟨written_of_isPrintable h, by rw [ofText_text h hne], ?_⟩
    intro ref
    obtain ⟨y, hy, hc, ht⟩ := ofText_printed h hne ref
    refine ⟨y, hy, hc, toData_eq hc, ?_, ?_, ht, ?_⟩
    · rw [isSnapped, isSnapped, hc]
    · rw [isModified, isModified, hc]
    · exact fun c r => evaluate_congr hc ht
  · intro text ref x hx
    have h := isPrintable_of_ofText hx
    exact ⟨h, written_of_isPrintable h, text_eq_empty h, fun hne => ofText_printed h hne ref⟩

/-- The shift prints with its amount, whether or not that was written. -/
theorem ofText_text_ofText_backward_week :
    (∃ x, ofText (some "now-d@bw") none = .ok x ∧ x.nodes ≠ [] ∧ x.IsPrintable ∧
      x.text = "now-1d@bw" ∧ ∃ y, ofText (some "now-1d@bw") none = .ok y ∧
        y.clauses = x.clauses ∧ y.text = "now-1d@bw") := by
  have hx : ofText (some "now-d@bw") none = .ok ⟨[.now ⟨.now, "now"⟩,
      .shift ⟨.minus, .one, .day⟩ (some ⟨.minus, "-"⟩),
      .snap ⟨.finish, .businessWeek⟩ (some ⟨.atSign, "@"⟩)], none⟩ := by decide +kernel
  have ht : Expression.text ⟨[.now ⟨.now, "now"⟩,
      .shift ⟨.minus, .one, .day⟩ (some ⟨.minus, "-"⟩),
      .snap ⟨.finish, .businessWeek⟩ (some ⟨.atSign, "@"⟩)], none⟩ = "now-1d@bw" := by
    decide +kernel
  have hp := (ofText_text_ofText.2 _ _ _ hx).1
  obtain ⟨_, _, hy⟩ := ofText_text_ofText.1 _ (by simp) hp
  obtain ⟨y, hy, hc, _, _, _, hyt, _⟩ := hy none
  rw [ht] at hy hyt
  exact ⟨_, hx, by simp, hp, ht, y, hy, hc, hyt⟩

end Expression

end RelativeTime
