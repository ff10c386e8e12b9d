import RelativeTime.Token.Scanner

/-!
What the kind of a token says about its literal, for tokens that were cut from a text.
-/
namespace RelativeTime.Token

/-- Tokens begin with one of a kind, or they do not. -/
theorem head_cases (k : Kind) (ts : List Token) :
    (∃ literal us, ts = ⟨k, literal⟩ :: us) ∨ ∀ u ∈ ts.head?, u.kind ≠ k := by
  cases ts with
  | nil => exact Or.inr (by simp)
  | cons u us =>
    by_cases hu : u.kind = k
    · exact Or.inl ⟨u.literal, us, by rw [← hu]⟩
    · right
      intro v hv
      rwa [← Option.some.inj hv]

theorem head_kind_ne {k : Kind} {ts : List Token}
    (h : ∀ u ∈ ts.head?, u.kind ∈ Kind.operators) (hk : k ∉ Kind.operators) :
    ∀ u ∈ ts.head?, u.kind ≠ k := by
  intro u hu he
  apply hk
  rw [← he]
  exact h u hu

theorem operatorKind?_mem {c : Char} {k : Kind} (h : operatorKind? c = some k) :
    k ∈ Kind.operators := by
  unfold operatorKind? at h
  split at h <;> simp at h <;> simp [← h, Kind.operators]

theorem operatorKind?_value {c : Char} {k : Kind} (h : operatorKind? c = some k) :
    String.ofList [c] = k.value := by
  unfold operatorKind? at h
  split at h
  case h_5 => simp at h
  all_goals rw [← Option.some.inj h]; rfl

theorem classOf_eq_operator {c : Char} : classOf c = .operator ↔ (operatorKind? c).isSome := by
  unfold classOf
  split
  · simp [*]
  · split
    · simp [*]
    · split <;> simp [*]

/-- The kind of a run by the class of its first character. -/
theorem kindOf_cases (c : Char) (cs : List Char) :
    (classOf c = .operator ∧ kindOf (c :: cs) ∈ Kind.operators) ∨
      (classOf c = .digit ∧ kindOf (c :: cs) = .number) ∨
      (classOf c = .letter ∧ kindOf (c :: cs) = wordKind (String.ofList (c :: cs))) ∨
      (classOf c = .other ∧ kindOf (c :: cs) = .illegal) := by
  cases h : classOf c with
  | operator =>
    obtain ⟨k, hk⟩ := Option.isSome_iff_exists.mp (classOf_eq_operator.mp h)
    left
    refine ⟨rfl, ?_⟩
    simpa only [kindOf, h, hk, Option.getD_some] using operatorKind?_mem hk
  | digit => simp [kindOf, h]
  | letter => simp [kindOf, h]
  | other => simp [kindOf, h]

theorem wordKind_cases (word : String) :
    (wordKind word = .now ∧ word = "now") ∨
      (wordKind word = .modifier ∧ (Boundary.ofCode? word).isSome) ∨ wordKind word = .illegal := by
  unfold wordKind
  split
  · exact Or.inl ⟨rfl, ‹_›⟩
  · split
    · exact Or.inr (Or.inl ⟨rfl, ‹_›⟩)
    · exact Or.inr (Or.inr rfl)

theorem kindOf_not_mem_operators {c : Char} {cs : List Char} (h : classOf c ≠ .operator) :
    kindOf (c :: cs) ∉ Kind.operators := by
  rcases kindOf_cases c cs with ⟨hc, _⟩ | ⟨_, hk⟩ | ⟨_, hk⟩ | ⟨_, hk⟩
  · exact absurd hc h
  · rw [hk]; decide
  · rw [hk]
    rcases wordKind_cases (String.ofList (c :: cs)) with ⟨hw, _⟩ | ⟨hw, _⟩ | hw <;> rw [hw] <;>
      decide
  · rw [hk]; decide

/-- Only a run of letters is the word for now or a modifier. -/
theorem wordKind_of_kindOf {run : List Char} (h : kindOf run = .now ∨ kindOf run = .modifier) :
    wordKind (String.ofList run) = kindOf run := by
  cases run with
  | nil => simp [kindOf] at h
  | cons c cs =>
    rcases kindOf_cases c cs with ⟨_, hk⟩ | ⟨_, hk⟩ | ⟨_, hk⟩ | ⟨_, hk⟩
    · rcases h with h | h <;> rw [h] at hk <;> simp [Kind.operators] at hk
    · rcases h with h | h <;> rw [h] at hk <;> simp at hk
    · exact hk.symm
    · rcases h with h | h <;> rw [h] at hk <;> simp at hk

/-- A number starts with a digit. -/
theorem classOf_of_number {c : Char} {cs : List Char} (h : kindOf (c :: cs) = .number) :
    classOf c = .digit := by
  rcases kindOf_cases c cs with ⟨_, hk⟩ | ⟨hc, _⟩ | ⟨_, hk⟩ | ⟨_, hk⟩
  · rw [h] at hk; simp [Kind.operators] at hk
  · exact hc
  · rw [h] at hk
    rcases wordKind_cases (String.ofList (c :: cs)) with ⟨hw, _⟩ | ⟨hw, _⟩ | hw <;>
      rw [← hk] at hw <;> simp at hw
  · rw [h] at hk; simp at hk

/-- Every modifier is the code of a boundary. -/
theorem isSome_boundary_of_modifier {cs : List Char} {t : Token} (h : t ∈ ofChars cs)
    (hk : t.kind = .modifier) : (Boundary.ofCode? t.literal).isSome := by
  obtain ⟨run, _, rfl⟩ := List.mem_map.mp h
  have hr : kindOf run = .modifier := hk
  have hw := wordKind_of_kindOf (Or.inr hr)
  rcases wordKind_cases (String.ofList run) with hc | hc | hc
  · rw [hw, hr] at hc; simp at hc
  · exact hc.2
  · rw [hw, hr] at hc; simp at hc

theorem literal_of_now {cs : List Char} {t : Token} (h : t ∈ ofChars cs) (hk : t.kind = .now) :
    t.literal = "now" := by
  obtain ⟨run, _, rfl⟩ := List.mem_map.mp h
  have hr : kindOf run = .now := hk
  have hw := wordKind_of_kindOf (Or.inl hr)
  rcases wordKind_cases (String.ofList run) with hc | hc | hc
  · exact hc.2
  · rw [hw, hr] at hc; simp at hc
  · rw [hw, hr] at hc; simp at hc

end RelativeTime.Token
