import Mathlib.Data.List.Chain
import RelativeTime.Proofs.Segmentation
import RelativeTime.Proofs.TokenKind

/-!
Scanning a text. The tokens that a scanner gives one after the other cut the text into longest runs
of one class, each of the kind that its characters spell, and no other list of tokens does. Where
the scanner stands decides what it still gives: the tokens of what is unread, as if that were the
whole text, and from its end on the finishing token for ever.
-/
namespace RelativeTime

namespace Token

def IsOperator (c : Char) : Prop :=
  c = '+' ∨ c = '-' ∨ c = '/' ∨ c = '@'

def IsDigit (c : Char) : Prop :=
  '0' ≤ c ∧ c ≤ '9'

def IsLetter (c : Char) : Prop :=
  ('A' ≤ c ∧ c ≤ 'Z') ∨ ('a' ≤ c ∧ c ≤ 'z')

/-- The characters of a class, told apart by themselves. -/
def CharClass.Contains : CharClass → Char → Prop
  | .operator, c => IsOperator c
  | .digit, c => IsDigit c
  | .letter, c => IsLetter c
  | .other, c => ¬ IsOperator c ∧ ¬ IsDigit c ∧ ¬ IsLetter c

/-- The words that are modifiers. -/
def modifierCodes : List String :=
  ["s", "m", "h", "d", "w", "M", "bw", "mon", "tue", "wed", "thu", "fri", "sat", "sun"]

/-- What a token of a kind reads. Nothing spells the finishing kind. -/
inductive Spells : Kind → List Char → Prop
  | plus : Spells .plus ['+']
  | minus : Spells .minus ['-']
  | slash : Spells .slash ['/']
  | atSign : Spells .atSign ['@']
  | number {run : List Char} (ne_nil : run ≠ []) (digits : ∀ c ∈ run, IsDigit c) :
      Spells .number run
  | now : Spells .now ['n', 'o', 'w']
  | modifier {code : String} (mem : code ∈ modifierCodes) : Spells .modifier code.toList
  | word {run : List Char} (ne_nil : run ≠ []) (letters : ∀ c ∈ run, IsLetter c)
      (not_now : String.ofList run ≠ "now") (not_code : String.ofList run ∉ modifierCodes) :
      Spells .illegal run
  | other {run : List Char} (ne_nil : run ≠ [])
      (others : ∀ c ∈ run, CharClass.other.Contains c) : Spells .illegal run

/-- The characters that a token was read from. -/
def run (t : Token) : List Char :=
  t.literal.toList

/-- All characters of a token are of one class. -/
def IsOf (t : Token) (k : CharClass) : Prop :=
  ∀ c ∈ t.run, k.Contains c

/-- Two tokens that are not runs of one class. Operators are no runs. -/
def Apart (t u : Token) : Prop :=
  ∀ k : CharClass, k ≠ .operator → ¬ (t.IsOf k ∧ u.IsOf k)

/-- The tokens are the text cut into longest runs: nothing is lost, every token is of the kind that
it spells, and no two neighbours are runs of one class. -/
structure Tokenizes (text : String) (ts : List Token) : Prop where
  literals : String.join (ts.map Token.literal) = text
  spelled : ∀ t ∈ ts, Spells t.kind t.run
  apart : ts.IsChain Apart

section Classes

variable {c : Char} {k : CharClass}

theorem isSome_operatorKind? : (operatorKind? c).isSome ↔ IsOperator c := by
  unfold operatorKind? IsOperator
  split <;> simp_all

theorem isDigit_iff : c.isDigit = true ↔ IsDigit c := by
  simp [Char.isDigit, IsDigit, Char.le_def]

theorem isAlpha_iff : c.isAlpha = true ↔ IsLetter c := by
  have hupper : c.isUpper = true ↔ 'A' ≤ c ∧ c ≤ 'Z' := decide_eq_true_iff
  have hlower : c.isLower = true ↔ 'a' ≤ c ∧ c ≤ 'z' := by
    show (decide ('a' ≤ c) && decide (c ≤ 'z')) = true ↔ 'a' ≤ c ∧ c ≤ 'z'
    simp
  have halpha : c.isAlpha = true ↔ c.isUpper = true ∨ c.isLower = true := Bool.or_eq_true_iff
  rw [halpha, hupper, hlower, IsLetter]

theorem IsDigit.not_isOperator (h : IsDigit c) : ¬ IsOperator c := by
  rintro (rfl | rfl | rfl | rfl) <;> simp [IsDigit] at h

theorem IsLetter.not_isOperator (h : IsLetter c) : ¬ IsOperator c := by
  rintro (rfl | rfl | rfl | rfl) <;> simp [IsLetter] at h

theorem IsLetter.not_isDigit (h : IsLetter c) : ¬ IsDigit c := by
  intro hd
  simp only [IsLetter, IsDigit, Char.le_def, UInt32.le_iff_toNat_le] at h hd
  have hnine : '9'.val.toNat = 57 := rfl
  have hA : 'A'.val.toNat = 65 := rfl
  have ha : 'a'.val.toNat = 97 := rfl
  omega

theorem classOf_contains (c : Char) : (classOf c).Contains c := by
  unfold classOf
  split
  · exact isSome_operatorKind?.mp ‹_›
  · split
    · exact isDigit_iff.mp ‹_›
    · split
      · exact isAlpha_iff.mp ‹_›
      · exact ⟨mt isSome_operatorKind?.mpr ‹_›, mt isDigit_iff.mpr ‹_›, mt isAlpha_iff.mpr ‹_›⟩

theorem classOf_of_contains (h : k.Contains c) : classOf c = k := by
  cases k with
  | operator => rw [classOf, if_pos (isSome_operatorKind?.mpr h)]
  | digit =>
    have ho : ¬ IsOperator c := IsDigit.not_isOperator h
    rw [classOf, if_neg (mt isSome_operatorKind?.mp ho), if_pos (isDigit_iff.mpr h)]
  | letter =>
    have ho : ¬ IsOperator c := IsLetter.not_isOperator h
    have hd : ¬ IsDigit c := IsLetter.not_isDigit h
    rw [classOf, if_neg (mt isSome_operatorKind?.mp ho), if_neg (mt isDigit_iff.mp hd),
      if_pos (isAlpha_iff.mpr h)]
  | other =>
    obtain ⟨ho, hd, ha⟩ := h
    rw [classOf, if_neg (mt isSome_operatorKind?.mp ho), if_neg (mt isDigit_iff.mp hd),
      if_neg (mt isAlpha_iff.mp ha)]

theorem classOf_eq_iff : classOf c = k ↔ k.Contains c :=
  ⟨fun h => h ▸ classOf_contains c, classOf_of_contains⟩

end Classes

section Spelling

variable {run : List Char} {k : Kind}

theorem isSome_ofCode?_iff {word : String} :
    (Boundary.ofCode? word).isSome ↔ word ∈ modifierCodes := by
  have hcodes : modifierCodes.Perm (Boundary.all.map Boundary.code) := by decide
  rw [hcodes.mem_iff]
  exact isSome_byKey?_iff

theorem isRun_of_word {word : String} (h : word ∈ "now" :: modifierCodes) : IsRun word.toList := by
  have hall : ∀ word ∈ "now" :: modifierCodes,
      word.toList ≠ [] ∧ word.toList.all (fun c => classOf c = .letter) = true := by
    decide
  obtain ⟨hne, hletters⟩ := hall word h
  have hclass : ∀ c ∈ word.toList, classOf c = .letter := by simpa using hletters
  exact Or.inr ⟨hne, .letter, by decide, hclass⟩

theorem isRun_of_class {l : CharClass} (hne : run ≠ []) (hl : l ≠ .operator)
    (h : ∀ c ∈ run, l.Contains c) : IsRun run :=
  Or.inr ⟨hne, l, hl, fun c hc => classOf_of_contains (h c hc)⟩

theorem spells_kindOf (h : IsRun run) : Spells (kindOf run) run := by
  obtain ⟨c, cs, rfl⟩ := List.exists_cons_of_ne_nil (isRun_ne_nil h)
  have hclass {l : CharClass} (hl : classOf c = l) : ∀ d ∈ c :: cs, l.Contains d := by
    intro d hd
    exact classOf_eq_iff.mp ((isRun_class h d hd).trans hl)
  rcases kindOf_cases c cs with ⟨hc, _⟩ | ⟨hc, hk⟩ | ⟨hc, hk⟩ | ⟨hc, hk⟩
  · -- an operator is a run by itself
    have hone : cs = [] := by
      rcases h with ⟨e, he, _⟩ | ⟨_, l, hl, hall⟩
      · exact (List.cons.inj he).2
      · exact absurd ((hall c List.mem_cons_self).symm.trans hc) hl
    subst hone
    rcases classOf_eq_iff.mp hc with rfl | rfl | rfl | rfl
    · exact .plus
    · exact .minus
    · exact .slash
    · exact .atSign
  · rw [hk]
    exact .number (List.cons_ne_nil c cs) (hclass hc)
  · -- letters spell the word for now, a code or neither
    rw [hk, wordKind]
    split
    · rename_i hnow
      have hrun : c :: cs = ['n', 'o', 'w'] := by
        rw [← String.toList_ofList (l := c :: cs), hnow]
        rfl
      rw [hrun]
      exact .now
    · split
      · rename_i hcode
        have hspelled := Spells.modifier (isSome_ofCode?_iff.mp hcode)
        rwa [String.toList_ofList] at hspelled
      · rename_i hnow hcode
        exact .word (List.cons_ne_nil c cs) (hclass hc) hnow (mt isSome_ofCode?_iff.mpr hcode)
  · rw [hk]
    exact .other (List.cons_ne_nil c cs) (hclass hc)

theorem Spells.isRun (h : Spells k run) : IsRun run := by
  cases h with
  | plus => exact Or.inl ⟨'+', rfl, by decide⟩
  | minus => exact Or.inl ⟨'-', rfl, by decide⟩
  | slash => exact Or.inl ⟨'/', rfl, by decide⟩
  | atSign => exact Or.inl ⟨'@', rfl, by decide⟩
  | number ne_nil digits => exact isRun_of_class (l := .digit) ne_nil (by decide) digits
  | now => exact isRun_of_word List.mem_cons_self
  | modifier mem => exact isRun_of_word (List.mem_cons_of_mem "now" mem)
  | word ne_nil letters => exact isRun_of_class (l := .letter) ne_nil (by decide) letters
  | other ne_nil others => exact isRun_of_class ne_nil (by decide) others

/-- Nothing spells two kinds. -/
theorem Spells.kindOf_eq (h : Spells k run) : kindOf run = k := by
  have hfirst {l : CharClass} (hne : run ≠ []) (hall : ∀ c ∈ run, l.Contains c) :
      ∃ c cs, run = c :: cs ∧ classOf c = l := by
    obtain ⟨c, cs, rfl⟩ := List.exists_cons_of_ne_nil hne
    exact ⟨c, cs, rfl, classOf_of_contains (hall c List.mem_cons_self)⟩
  cases h with
  | plus => rfl
  | minus => rfl
  | slash => rfl
  | atSign => rfl
  | number ne_nil digits =>
    obtain ⟨c, cs, rfl, hc⟩ := hfirst (l := .digit) ne_nil digits
    simp only [kindOf, hc]
  | now => decide
  | modifier mem =>
    have hkind : ∀ code ∈ modifierCodes, kindOf code.toList = .modifier := by decide
    exact hkind _ mem
  | word ne_nil letters not_now not_code =>
    obtain ⟨c, cs, rfl, hc⟩ := hfirst (l := .letter) ne_nil letters
    simp only [kindOf, hc, wordKind]
    rw [if_neg not_now, if_neg (mt isSome_ofCode?_iff.mp not_code)]
  | other ne_nil others =>
    obtain ⟨c, cs, rfl, hc⟩ := hfirst ne_nil others
    simp only [kindOf, hc]

end Spelling

section Cuts

variable {text : String} {t u : Token} {ts us : List Token}

theorem run_ofRun (cs : List Char) : (ofRun cs).run = cs :=
  String.toList_ofList

theorem eq_ofRun_of_spells (h : Spells t.kind t.run) : t = ofRun t.run := by
  have hk := h.kindOf_eq
  have hl : String.ofList t.run = t.literal := String.ofList_toList
  rw [ofRun, hk, hl]

theorem isOf_of_mem (h : IsRun t.run) {c : Char} (hc : c ∈ t.run) : t.IsOf (classOf c) := by
  obtain ⟨e, es, he⟩ := List.exists_cons_of_ne_nil (isRun_ne_nil h)
  rw [he] at h hc
  intro d hd
  rw [he] at hd
  exact classOf_eq_iff.mp ((isRun_class h d hd).trans (isRun_class h c hc).symm)

theorem separate_iff_apart (ht : IsRun t.run) (hu : IsRun u.run) :
    Separate t.run u.run ↔ t.Apart u := by
  constructor
  · rintro h k hk ⟨htk, huk⟩
    obtain ⟨c, hc⟩ := List.exists_mem_of_ne_nil _ (isRun_ne_nil ht)
    obtain ⟨d, hd⟩ := List.exists_mem_of_ne_nil _ (isRun_ne_nil hu)
    have hck : classOf c = k := classOf_of_contains (htk c hc)
    have hdk : classOf d = k := classOf_of_contains (huk d hd)
    exact hk (hck.symm.trans (h c hc d hd (hck.trans hdk.symm)))
  · -- characters of one class, one from each token, make both tokens runs of that class
    intro h c hc d hd hcd
    by_contra ho
    have hud : u.IsOf (classOf c) := hcd ▸ isOf_of_mem hu hd
    exact h (classOf c) ho ⟨isOf_of_mem ht hc, hud⟩

theorem allSeparate_iff_apart (h : ∀ t ∈ ts, IsRun t.run) :
    AllSeparate (ts.map run) ↔ ts.IsChain Apart := by
  induction ts with
  | nil => simp [AllSeparate]
  | cons t ts ih =>
    cases ts with
    | nil => simp [AllSeparate]
    | cons u us =>
      have ht : IsRun t.run := h t List.mem_cons_self
      have hu : IsRun u.run := h u (List.mem_cons_of_mem t List.mem_cons_self)
      have hrest := ih fun v hv => h v (List.mem_cons_of_mem t hv)
      rw [List.isChain_cons_cons, ← separate_iff_apart ht hu, ← hrest]
      rfl

theorem flatten_runs_eq : (ts.map run).flatten = (String.join (ts.map Token.literal)).toList := by
  rw [String.toList_join, List.flatMap_map, List.flatten_eq_flatMap, List.flatMap_map]
  rfl

/-- The tokens of a text are the one way to cut it. -/
theorem tokenizes_iff : Tokenizes text ts ↔ ts = ofChars text.toList := by
  constructor
  · intro h
    have hrun : ∀ t ∈ ts, IsRun t.run := fun t ht => (h.spelled t ht).isRun
    have hcut : IsSegmentation text.toList (ts.map run) := by
      refine ⟨?_, ?_, (allSeparate_iff_apart hrun).mpr h.apart⟩
      · rw [flatten_runs_eq, h.literals]
      · intro r hr
        obtain ⟨t, ht, rfl⟩ := List.mem_map.mp hr
        exact hrun t ht
    -- the runs decide the tokens, as each token is the one that its characters make
    have hof : ts.map (ofRun ∘ run) = ts := by
      apply (List.map_congr_left fun t ht => ?_).trans (List.map_id ts)
      exact (eq_ofRun_of_spells (h.spelled t ht)).symm
    rw [ofChars, runs_eq_of_isSegmentation hcut, List.map_map, hof]
  · rintro rfl
    have hcut := isSegmentation_runs text.toList
    have hruns : (ofChars text.toList).map run = runs text.toList := by
      rw [ofChars, List.map_map]
      exact (List.map_congr_left fun cs _ => run_ofRun cs).trans (List.map_id _)
    have hspelled : ∀ t ∈ ofChars text.toList, Spells t.kind t.run := by
      intro t ht
      obtain ⟨cs, hcs, rfl⟩ := List.mem_map.mp ht
      rw [run_ofRun]
      exact spells_kindOf (hcut.isRun cs hcs)
    refine ⟨?_, hspelled, ?_⟩
    · rw [← String.toList_inj, ← flatten_runs_eq, hruns, hcut.flatten_eq]
    · rw [← allSeparate_iff_apart fun t ht => (hspelled t ht).isRun, hruns]
      exact hcut.allSeparate

theorem kind_ne_finish (h : Spells t.kind t.run) : t.kind ≠ .finish := by
  intro hk
  rw [hk] at h
  cases h

end Cuts

end Token

namespace Scanner

/-- Asking a scanner for tokens until it gives the finishing one: the tokens that it gave, that one
last, and the scanner they left behind. -/
inductive Yields : Scanner → List Token → Scanner → Prop
  | stop {s : Scanner} (last : s.next.1.kind = .finish) : Yields s [s.next.1] s.next.2
  | more {s v : Scanner} {ts : List Token} (goes_on : s.next.1.kind ≠ .finish)
      (others : Yields s.next.2 ts v) : Yields s (s.next.1 :: ts) v

section Steps

variable {s v : Scanner} {ts : List Token}

theorem next_of_nil (h : s.unread = []) : s.next = (Token.finish, s) := by
  obtain ⟨text, unread⟩ := s
  obtain rfl : unread = [] := h
  rfl

theorem ofChars_unread_of_cons (h : s.unread ≠ []) :
    Token.ofChars s.unread = s.next.1 :: Token.ofChars s.next.2.unread := by
  obtain ⟨c, cs, hcs⟩ := List.exists_cons_of_ne_nil h
  simp only [next, hcs, Token.ofChars, Token.runs_cons, List.map_cons]

theorem kind_next : s.next.1.kind = .finish ↔ s.unread = [] := by
  constructor
  · intro hk
    by_contra hne
    have hmem : s.next.1 ∈ Token.ofChars s.unread := by
      rw [ofChars_unread_of_cons hne]
      exact List.mem_cons_self
    have htokens : Token.Tokenizes (String.ofList s.unread) (Token.ofChars s.unread) := by
      rw [Token.tokenizes_iff, String.toList_ofList]
    exact Token.kind_ne_finish (htokens.spelled _ hmem) hk
  · intro h
    rw [next_of_nil h]
    rfl

theorem length_unread_next (h : s.unread ≠ []) : s.next.2.unread.length < s.unread.length := by
  obtain ⟨c, cs, hcs⟩ := List.exists_cons_of_ne_nil h
  simp only [next, hcs]
  exact Token.length_firstRun_lt c cs

theorem rest_of_nil (h : s.unread = []) : s.rest = [Token.finish] := by
  rw [rest, h, Token.ofChars_nil, List.nil_append]

theorem rest_of_cons (h : s.unread ≠ []) : s.rest = s.next.1 :: s.next.2.rest := by
  rw [rest, ofChars_unread_of_cons h, List.cons_append, rest]

theorem drained_of_nil (h : s.unread = []) : s.drained = s := by
  obtain ⟨text, unread⟩ := s
  obtain rfl : unread = [] := h
  rfl

/-- A scanner gives what its unread text holds and then the finishing token, and stops there. -/
theorem yields_rest (s : Scanner) : s.Yields s.rest s.drained := by
  -- by what is unread, of which every token but the finishing one takes at least a character
  induction h : s.unread.length using Nat.strongRecOn generalizing s with
  | ind n ih =>
    by_cases hs : s.unread = []
    · have hstop := Yields.stop (kind_next.mpr hs)
      rw [next_of_nil hs] at hstop
      rw [rest_of_nil hs, drained_of_nil hs]
      exact hstop
    · have hlt := length_unread_next hs
      have hothers : s.next.2.Yields s.next.2.rest s.next.2.drained := ih _ (by omega) _ rfl
      rw [rest_of_cons hs]
      exact .more (mt kind_next.mp hs) hothers

theorem Yields.eq_rest (h : s.Yields ts v) : ts = s.rest := by
  induction h with
  | stop last =>
    have hs := kind_next.mp last
    rw [rest_of_nil hs, next_of_nil hs]
  | more goes_on _ ih =>
    rw [rest_of_cons (mt kind_next.mpr goes_on), ← ih]

theorem yields_iff : (∃ v, s.Yields ts v) ↔ ts = s.rest :=
  ⟨fun ⟨_, h⟩ => h.eq_rest, fun h => ⟨s.drained, h ▸ s.yields_rest⟩⟩

theorem ofChars_unread_next (s : Scanner) :
    Token.ofChars s.next.2.unread = (Token.ofChars s.unread).tail := by
  by_cases hs : s.unread = []
  · rw [next_of_nil hs, hs, Token.ofChars_nil, List.tail_nil]
  · rw [ofChars_unread_of_cons hs, List.tail_cons]

theorem ofChars_unread_skip (n : Nat) (s : Scanner) :
    Token.ofChars (skip n s).unread = (Token.ofChars s.unread).drop n := by
  induction n generalizing s with
  | zero => rfl
  | succ n ih => rw [skip, ih, ofChars_unread_next, List.drop_tail]

theorem next_skip (n : Nat) (s : Scanner) :
    (skip n s).next.1 = (Token.ofChars s.unread)[n]?.getD Token.finish := by
  rw [← List.head?_drop, ← ofChars_unread_skip]
  by_cases hs : (skip n s).unread = []
  · rw [next_of_nil hs, hs, Token.ofChars_nil, List.head?_nil, Option.getD_none]
  · rw [ofChars_unread_of_cons hs, List.head?_cons, Option.getD_some]

/-- What a scanner has given, with what it has left, is the text it began with. -/
theorem join_append_unread (n : Nat) (s : Scanner) :
    String.join (((Token.ofChars s.unread).take n).map Token.literal) ++
      String.ofList (skip n s).unread = String.ofList s.unread := by
  have hwhole (cs : List Char) :
      String.join ((Token.ofChars cs).map Token.literal) = String.ofList cs := by
    have htokens : Token.Tokenizes (String.ofList cs) (Token.ofChars cs) := by
      rw [Token.tokenizes_iff, String.toList_ofList]
    exact htokens.literals
  let tokens := Token.ofChars s.unread
  calc String.join ((tokens.take n).map Token.literal) ++ String.ofList (skip n s).unread
    _ = String.join ((tokens.take n).map Token.literal) ++
        String.join ((tokens.drop n).map Token.literal) := by
      rw [← hwhole (skip n s).unread, ofChars_unread_skip]
    _ = String.join (tokens.map Token.literal) := by
      rw [← String.join_append, ← List.map_append, List.take_append_drop]
    _ = String.ofList s.unread := hwhole s.unread

theorem unread_skip_of_le {n : Nat} (h : (Token.ofChars s.unread).length ≤ n) :
    (skip n s).unread = [] := by
  by_contra hne
  have hdrop := ofChars_unread_skip n s
  rw [List.drop_eq_nil_of_le h, ofChars_unread_of_cons hne] at hdrop
  exact List.cons_ne_nil _ _ hdrop

theorem rest_ofText (s : Scanner) : (ofText (some (String.ofList s.unread))).rest = s.rest := by
  rw [rest, rest, ofText, Option.getD_some, String.toList_ofList]

end Steps

/-- There is one way to cut a text, empty or none at all included, into tokens, and it is what a
scanner gives before the finishing token, with which asking it comes to an end. Behind any number of
tokens the scanner goes on as a fresh one does on the rest of the text, and at the end it stays. -/
theorem ofText_yields (text : Option String) :
    ∃ ts : List Token,
      (∀ us, Token.Tokenizes (text.getD "") us ↔ us = ts) ∧ (∀ t ∈ ts, t.kind ≠ .finish) ∧
      (ofText text).rest = ts ++ [⟨.finish, ""⟩] ∧
      (∀ out, (∃ v, (ofText text).Yields out v) ↔ out = ts ++ [⟨.finish, ""⟩]) ∧
      (∀ n, ∃ unread : String,
        String.join ((ts.take n).map Token.literal) ++ unread = text.getD "" ∧
        (skip n (ofText text)).unread = unread.toList ∧
        (skip n (ofText text)).next.1 = ts[n]?.getD ⟨.finish, ""⟩ ∧
        ∀ out, (∃ v, (skip n (ofText text)).Yields out v) ↔
          ∃ v, (ofText (some unread)).Yields out v) ∧
      ∀ n, ts.length ≤ n →
        (skip n (ofText text)).next = (⟨.finish, ""⟩, skip n (ofText text)) := by
  have hunread : (ofText text).unread = (text.getD "").toList := rfl
  refine ⟨Token.ofChars (text.getD "").toList, fun us => Token.tokenizes_iff, ?_, rfl,
    fun out => yields_iff, ?_, ?_⟩
  · intro t ht
    have hspelled := (Token.tokenizes_iff.mpr rfl).spelled t ht
    exact Token.kind_ne_finish hspelled
  · intro n
    refine ⟨String.ofList (skip n (ofText text)).unread, ?_, String.toList_ofList.symm,
      next_skip n _, ?_⟩
    · have hjoin := join_append_unread n (ofText text)
      rwa [hunread, String.ofList_toList] at hjoin
    · intro out
      rw [yields_iff, yields_iff, rest_ofText]
  · intro n hn
    exact next_of_nil (unread_skip_of_le hn)

/-- Letters run together even where each is a code, and operators do not. -/
example : (ofText (some "dd++1")).rest =
    [⟨.illegal, "dd"⟩, ⟨.plus, "+"⟩, ⟨.plus, "+"⟩, ⟨.number, "1"⟩, ⟨.finish, ""⟩] := by
  decide +kernel

end Scanner

end RelativeTime
