import RelativeTime.Clause.Reading
import RelativeTime.Proofs.TokenKind
import RelativeTime.Proofs.Segmentation

/-!
Texts put together. A text that begins with an operator can be put behind any other: the seam cuts
no token and no clause, so reading goes part by part.
-/
namespace RelativeTime

theorem head?_append_of {α : Type} {P : α → Prop} {as bs : List α} (ha : ∀ x ∈ as.head?, P x)
    (hb : ∀ x ∈ bs.head?, P x) : ∀ x ∈ (as ++ bs).head?, P x := by
  cases as with
  | nil => exact hb
  | cons a as => exact ha

namespace Finding

variable {bs : List Token}

theorem unitStep_append (sign : Sign) (t : Token) (n : Amount) (as : List Token)
    (hb : ∀ u ∈ bs.head?, u.kind ≠ .modifier) :
    unitStep sign t n (as ++ bs) =
      ((unitStep sign t n as).1, (unitStep sign t n as).2 ++ bs) := by
  rcases Token.head_cases .modifier as with ⟨code, us, rfl⟩ | ha
  · simp only [List.cons_append, unitStep]
    cases TimeUnit.ofCode? code <;> rfl
  · rw [unitStep_of_kind (head?_append_of ha hb), unitStep_of_kind ha]

theorem skipModifier_append (as : List Token) (hb : ∀ u ∈ bs.head?, u.kind ≠ .modifier) :
    skipModifier (as ++ bs) = skipModifier as ++ bs := by
  rcases Token.head_cases .modifier as with ⟨code, us, rfl⟩ | ha
  · rfl
  · rw [skipModifier_of_kind (head?_append_of ha hb), skipModifier_of_kind ha]

theorem shiftStep_append (sign : Sign) (t : Token) (as : List Token)
    (hm : ∀ u ∈ bs.head?, u.kind ≠ .modifier) (hn : ∀ u ∈ bs.head?, u.kind ≠ .number) :
    shiftStep sign t (as ++ bs) = ((shiftStep sign t as).1, (shiftStep sign t as).2 ++ bs) := by
  rcases Token.head_cases .number as with ⟨literal, us, rfl⟩ | ha
  · simp only [List.cons_append, shiftStep]
    cases amount? literal with
    | none => simp only [skipModifier_append us hm]
    | some n => exact unitStep_append sign t n us hm
  · rw [shiftStep_of_kind (head?_append_of ha hn), shiftStep_of_kind ha]
    exact unitStep_append sign t .one as hm

theorem snapStep_append (edge : Edge) (t : Token) (as : List Token)
    (hb : ∀ u ∈ bs.head?, u.kind ≠ .modifier) :
    snapStep edge t (as ++ bs) = ((snapStep edge t as).1, (snapStep edge t as).2 ++ bs) := by
  rcases Token.head_cases .modifier as with ⟨code, us, rfl⟩ | ha
  · simp only [List.cons_append, snapStep]
    cases Boundary.ofCode? code <;> rfl
  · rw [snapStep_of_kind (head?_append_of ha hb), snapStep_of_kind ha]

/-- A clause that is open at the seam ends there as it ends behind the last token. -/
theorem step_append (t : Token) (as : List Token)
    (hb : ∀ u ∈ bs.head?, u.kind ∈ Token.Kind.operators) :
    step t (as ++ bs) = ((step t as).1, (step t as).2 ++ bs) := by
  have hm : ∀ u ∈ bs.head?, u.kind ≠ .modifier := Token.head_kind_ne hb (by decide)
  have hn : ∀ u ∈ bs.head?, u.kind ≠ .number := Token.head_kind_ne hb (by decide)
  cases hk : t.kind <;> simp only [step, hk]
  · exact shiftStep_append .plus t as hm hn
  · exact shiftStep_append .minus t as hm hn
  · exact snapStep_append .start t as hm
  · exact snapStep_append .finish t as hm

theorem ofTokens_append (as : List Token)
    (hb : ∀ u ∈ bs.head?, u.kind ∈ Token.Kind.operators) :
    ofTokens (as ++ bs) = ofTokens as ++ ofTokens bs := by
  induction hl : as.length using Nat.strongRecOn generalizing as with
  | ind l ih =>
    cases as with
    | nil => rw [List.nil_append, ofTokens, List.nil_append]
    | cons t as =>
      -- a step may leave several tokens behind, so the induction is on their number
      have hlt := length_step_le t as
      have hrest := ih (step t as).2.length (by rw [← hl, List.length_cons]; omega)
        (step t as).2 rfl
      rw [List.cons_append, ofTokens, step_append t as hb, hrest, ofTokens, List.append_assoc]

end Finding

namespace Reading

variable {as bs : List Token}

/-- Behind a first token no word for now can be taken for the first one. -/
theorem findings_append (ha : as ≠ []) (hb : ∀ u ∈ bs.head?, u.kind ∈ Token.Kind.operators) :
    findings (as ++ bs) = findings as ++ Finding.ofTokens bs := by
  rcases Token.head_cases .now as with ⟨literal, us, rfl⟩ | hn
  · simp only [List.cons_append, findings]
    rw [Finding.ofTokens_append us hb]
  · -- the first token of the whole is that of the first part
    have hn' : ∀ u ∈ (as ++ bs).head?, u.kind ≠ .now := by
      obtain ⟨t, as, rfl⟩ := List.exists_cons_of_ne_nil ha
      exact hn
    rw [findings_of_kind hn', findings_of_kind hn, Finding.ofTokens_append as hb]

theorem ofTokens_append (ha : as ≠ []) (hb : ∀ u ∈ bs.head?, u.kind ∈ Token.Kind.operators) :
    ofTokens (as ++ bs) =
      ⟨(ofTokens as).nodes ++ (ofTokens bs).nodes,
        (ofTokens as).errors ++ (ofTokens bs).errors⟩ := by
  have hn : ∀ u ∈ bs.head?, u.kind ≠ .now := Token.head_kind_ne hb (by decide)
  simp only [ofTokens, findings_append ha hb, findings_of_kind hn, ofFindings_append]

end Reading

namespace Token

theorem ofChars_cons_operator {c : Char} (hc : classOf c = .operator) (cs : List Char) :
    ofChars (c :: cs) = ofRun [c] :: ofChars cs := by
  rw [ofChars, runs_cons, firstRun, if_pos hc, List.map_cons, ofChars]

theorem kind_of_operator {c : Char} (hc : classOf c = .operator) :
    (ofRun [c]).kind ∈ Kind.operators := by
  obtain ⟨k, hk⟩ := Option.isSome_iff_exists.mp (classOf_eq_operator.mp hc)
  simpa only [ofRun, kindOf, hc, hk, Option.getD_some] using operatorKind?_mem hk

theorem kind_head?_ofChars {cs : List Char} (h : ∀ c ∈ cs.head?, classOf c = .operator) :
    ∀ t ∈ (ofChars cs).head?, t.kind ∈ Kind.operators := by
  intro t ht
  cases cs with
  | nil => simp [ofChars_nil] at ht
  | cons c cs =>
    rw [ofChars_cons_operator (h c rfl), List.head?_cons, Option.mem_some_iff] at ht
    rw [← ht]
    exact kind_of_operator (h c rfl)

theorem ofChars_ne_nil {cs : List Char} (h : cs ≠ []) : ofChars cs ≠ [] := by
  obtain ⟨c, cs, rfl⟩ := List.exists_cons_of_ne_nil h
  rw [ofChars, runs_cons]
  exact List.cons_ne_nil _ _

end Token

theorem Reading.ofText_append {a b : String} (ha : a ≠ "") (hb : b ≠ "")
    (ho : ∀ c ∈ b.toList.head?, Token.classOf c = .operator) :
    Reading.ofText (some (a ++ b)) =
      ⟨(ofText (some a)).nodes ++ (ofText (some b)).nodes,
        (ofText (some a)).errors ++ (ofText (some b)).errors⟩ := by
  have hne : a ++ b ≠ "" := by simp [ha]
  have ha' : a.toList ≠ [] := by simpa using ha
  rw [ofText_of_ne_empty hne, ofText_of_ne_empty ha, ofText_of_ne_empty hb, String.toList_append,
    Token.ofChars_append ho,
    ofTokens_append (Token.ofChars_ne_nil ha') (Token.kind_head?_ofChars ho)]

end RelativeTime
