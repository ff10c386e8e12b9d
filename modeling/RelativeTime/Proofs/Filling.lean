import RelativeTime.CommandLine.Terminal

/-!
Words in lines. Nothing of a row is lost when its words are put into lines but white space at the
ends of the lines, and what is cut off a line after that is white space as well, as long as every
other character takes a column. No line is wider than the console.
-/
namespace RelativeTime

namespace Text

/-- What a text holds beside white space. -/
def ink (cs : List Char) : List Char :=
  cs.filter (!isSpace ·)

@[simp] theorem ink_nil : ink [] = [] :=
  rfl

@[simp] theorem ink_append (as bs : List Char) : ink (as ++ bs) = ink as ++ ink bs :=
  List.filter_append _ _

theorem ink_flatten (lines : List (List Char)) : ink lines.flatten = (lines.map ink).flatten :=
  List.filter_flatten

theorem ink_eq_nil {cs : List Char} (h : ∀ c ∈ cs, isSpace c = true) : ink cs = [] := by
  simpa [ink] using h

/-- A text is what remains when it is cut at its end, and what has been cut. -/
theorem exists_trimEnd (p : Char → Bool) (cs : List Char) :
    ∃ cut, cs = trimEnd p cs ++ cut ∧ ∀ c ∈ cut, p c = true := by
  refine ⟨(cs.reverse.takeWhile p).reverse, ?_, ?_⟩
  · rw [trimEnd, ← List.reverse_append, List.takeWhile_append_dropWhile, List.reverse_reverse]
  · intro c hc
    exact List.all_eq_true.mp List.all_takeWhile c (List.mem_reverse.mp hc)

theorem trimEnd_isBeginning (p : Char → Bool) (cs : List Char) : trimEnd p cs <+: cs := by
  obtain ⟨cut, hcs, -⟩ := exists_trimEnd p cs
  exact ⟨cut, hcs.symm⟩

theorem trimEnd_append (p : Char → Bool) (as bs : List Char) :
    trimEnd p (as ++ bs) = if trimEnd p bs = [] then trimEnd p as else as ++ trimEnd p bs := by
  simp only [trimEnd, List.reverse_append, List.dropWhile_append, List.reverse_eq_nil_iff,
    List.isEmpty_iff]
  split
  · rfl
  · rw [List.reverse_append, List.reverse_reverse]

theorem trimEnd_eq_self {p : Char → Bool} {cs : List Char} (h : ∀ c ∈ cs.getLast?, p c = false) :
    trimEnd p cs = cs := by
  rw [← List.head?_reverse] at h
  cases hr : cs.reverse with
  | nil => simp [List.reverse_eq_nil_iff.mp hr, trimEnd]
  | cons c rest =>
    have hc : p c = false := h c (by rw [hr]; rfl)
    have hcs : cs = (c :: rest).reverse := by rw [← hr, List.reverse_reverse]
    rw [trimEnd, hr, List.dropWhile_cons, hc, hcs]
    rfl

/-- Where something remains, its last character does not belong to the class. -/
theorem not_of_getLast?_trimEnd {p : Char → Bool} {cs : List Char} {c : Char}
    (h : (trimEnd p cs).getLast? = some c) : p c = false := by
  rw [trimEnd, List.getLast?_reverse] at h
  have hp := List.head?_dropWhile_not p cs.reverse
  rwa [h] at hp

theorem trimEnd_eq_nil {p : Char → Bool} {cs : List Char} (h : ∀ c ∈ cs, p c = true) :
    trimEnd p cs = [] := by
  apply List.getLast?_eq_none_iff.mp
  cases hl : (trimEnd p cs).getLast? with
  | none => rfl
  | some c =>
    have hc : c ∈ cs := (trimEnd_isBeginning p cs).subset (List.mem_of_getLast? hl)
    exact absurd (h c hc) (by simp [not_of_getLast?_trimEnd hl])

theorem ink_trimEnd (cs : List Char) : ink (trimEnd isSpace cs) = ink cs := by
  obtain ⟨cut, hcs, hcut⟩ := exists_trimEnd isSpace cs
  conv => rhs; rw [hcs]
  rw [ink_append, ink_eq_nil hcut, List.append_nil]

end Text

namespace CommandLine.Terminal

section Width

theorem foldl_width (cs : List Char) (n : Nat) :
    cs.foldl (fun n c => n + Text.width c) n = n + width cs := by
  induction cs generalizing n with
  | nil => rfl
  | cons c cs ih =>
    rw [width, List.foldl_cons, List.foldl_cons, ih, ih]
    omega

@[simp] theorem width_nil : width [] = 0 :=
  rfl

@[simp] theorem width_cons (c : Char) (cs : List Char) :
    width (c :: cs) = Text.width c + width cs := by
  rw [width, List.foldl_cons, foldl_width, Nat.zero_add]

@[simp] theorem width_append (as bs : List Char) : width (as ++ bs) = width as + width bs := by
  rw [width, List.foldl_append, foldl_width]
  rfl

theorem width_le_of_prefix {as bs : List Char} (h : as <+: bs) : width as ≤ width bs := by
  obtain ⟨rest, rfl⟩ := h
  simp

theorem width_trimEnd_le (p : Char → Bool) (cs : List Char) :
    width (Text.trimEnd p cs) ≤ width cs :=
  width_le_of_prefix (Text.trimEnd_isBeginning p cs)

theorem charWidth_le (c : Char) : Text.width c ≤ 2 := by
  unfold Text.width
  split
  · omega
  · split
    · omega
    · omega

theorem inRanges_eq_false {ranges : List (Nat × Nat)} {n : Nat}
    (h : ∀ r ∈ ranges, n < r.1 ∨ r.2 < n) : Text.inRanges ranges n = false := by
  rw [Text.inRanges, List.any_eq_false]
  intro r hr
  have hout := h r hr
  simp only [Bool.and_eq_true, decide_eq_true_eq]
  omega

/-- The codes of the narrow characters lie between the ranges of the tables. -/
theorem charWidth_of_isNarrow {c : Char} (h : isNarrow c = true) : Text.width c = 1 := by
  have hbetween : ∀ r ∈ Text.widthNone ++ Text.widthTwo,
      (r.2 < 0x20 ∨ 0x6f < r.1) ∧ (r.2 < 0xa0 ∨ 0xa0 < r.1) ∧ (r.2 < 0x2ff ∨ 0x2ff < r.1) ∧
        (r.2 < 0x370 ∨ 0x482 < r.1) := by
    decide +kernel
  have hout : ∀ r ∈ Text.widthNone ++ Text.widthTwo, c.toNat < r.1 ∨ r.2 < c.toNat := by
    intro r hr
    have hr := hbetween r hr
    simp only [isNarrow, Bool.or_eq_true, Bool.and_eq_true, decide_eq_true_eq] at h
    omega
  rw [Text.width, inRanges_eq_false fun r hr => hout r (List.mem_append_left _ hr),
    inRanges_eq_false fun r hr => hout r (List.mem_append_right _ hr)]
  rfl

theorem width_eq_length {cs : List Char} (h : ∀ c ∈ cs, Text.width c = 1) :
    width cs = cs.length := by
  induction cs with
  | nil => rfl
  | cons c cs ih =>
    have hc := h c List.mem_cons_self
    have hcs := ih fun d hd => h d (List.mem_cons_of_mem c hd)
    rw [width_cons, hc, hcs, List.length_cons, Nat.add_comm]

end Width

section Cuts

variable {limit : Nat} {line : List Char}

/-- What is taken off a line is white space at its end. -/
theorem exists_withoutExcess (limit : Nat) (line : List Char) :
    ∃ kept, withoutExcess limit line = Text.trimEnd Text.isSpace line ++ kept ∧
      ∀ c ∈ kept, Text.isSpace c = true := by
  obtain ⟨cut, hline, hcut⟩ := Text.exists_trimEnd Text.isSpace line
  have hlen := congrArg List.length hline
  rw [List.length_append] at hlen
  generalize hn : line.length - min (line.length - (Text.trimEnd Text.isSpace line).length)
    (line.length - limit) = n
  have hle : (Text.trimEnd Text.isSpace line).length ≤ n := by omega
  refine ⟨cut.take (n - (Text.trimEnd Text.isSpace line).length), ?_, ?_⟩
  · rw [withoutExcess]
    simp only [hn]
    conv => lhs; rw [hline]
    rw [List.take_append, List.take_of_length_le hle]
  · intro c hc
    exact hcut c (List.mem_of_mem_take hc)

theorem withoutExcess_of_trimEnd (h : Text.trimEnd Text.isSpace line = line) (limit : Nat) :
    withoutExcess limit line = line := by
  rw [withoutExcess]
  simp only [h, Nat.sub_self, Nat.zero_min, Nat.sub_zero, List.take_length]

theorem prefix_withoutExcess {lead : List Char} (h : lead <+: line) (hl : lead.length ≤ limit) :
    lead <+: withoutExcess limit line := by
  have hle := h.length_le
  rw [withoutExcess, List.prefix_take_iff]
  exact ⟨h, by omega⟩

/-- A text whose last character is wide and sticks out of so many columns. -/
def SticksOut (columns : Nat) (start : List Char) : Prop :=
  width start = columns + 1 ∧ start.getLast?.map Text.width = some 2

/-- Where a search is: the line is too long at the higher end, and not yet at the lower. -/
structure Searches (columns : Nat) (line : List Char) (low high : Nat) : Prop where
  ordered : low ≤ high
  before : low = 0 ∨ width (line.take (low + 1)) < columns
  behind : columns < width (line.take (high + 1))
  sharp : line.length ≤ high ∨ ¬SticksOut columns (line.take (high + 1))

theorem take_succ_cases (line : List Char) (k : Nat) :
    (line.length ≤ k ∧ line.take (k + 1) = line.take k) ∨
      k < line.length ∧ ∃ c, line.take (k + 1) = line.take k ++ [c] := by
  rw [List.take_add_one]
  by_cases h : k < line.length
  · exact Or.inr ⟨h, _, by rw [List.getElem?_eq_getElem h]; rfl⟩
  · have hk := Nat.not_lt.mp h
    exact Or.inl ⟨hk, by rw [List.getElem?_eq_none hk]; exact List.append_nil _⟩

/-- From too short to too long in one character, this character sticks out. -/
theorem sticksOut_of_lt {columns k : Nat} (hk : width (line.take k) < columns)
    (hk1 : columns < width (line.take (k + 1))) :
    k < line.length ∧ SticksOut columns (line.take (k + 1)) := by
  rcases take_succ_cases line k with ⟨_, h⟩ | ⟨hlt, c, h⟩
  · rw [h] at hk1
    omega
  · have hle := charWidth_le c
    rw [h, width_append, width_cons, width_nil] at hk1
    have hc : Text.width c = 2 := by omega
    refine ⟨hlt, ?_, ?_⟩
    · rw [h, width_append, width_cons, width_nil]
      omega
    · rw [h, List.getLast?_concat, Option.map_some, hc]

namespace Searches

variable {columns low high : Nat}

/-- A search between two equal ends is over. -/
theorem low_lt_high (h : Searches columns line low high) (h0 : 0 < columns)
    (hsharp : ¬SticksOut columns (line.take (low + 1))) : low < high := by
  apply Nat.lt_of_le_of_ne h.ordered
  rintro rfl
  have hbehind := h.behind
  have hlow : low = 0 := h.before.resolve_right (by omega)
  subst hlow
  exact hsharp (sticksOut_of_lt h0 hbehind).2

theorem succ_low_lt_high (h : Searches columns line low high)
    (hlow : width (line.take (low + 1)) < columns) : low + 1 < high := by
  have hbehind := h.behind
  have hne : low ≠ high := by
    rintro rfl
    omega
  apply Nat.lt_of_le_of_ne (Nat.lt_of_le_of_ne h.ordered hne)
  rintro rfl
  obtain ⟨hlt, hsticks⟩ := sticksOut_of_lt hlow hbehind
  exact h.sharp.elim (by omega) (absurd hsticks)

end Searches

/-- A beginning of a line that takes so many columns, or one less and a blank for the rest. -/
def IsBeginning (columns : Nat) (line : List Char) (result : List Char) : Prop :=
  ∃ k, (result = line.take k ∧ width (line.take k) = columns) ∨
    (result = line.take k ++ [' '] ∧ width (line.take k) + 1 = columns ∧
      columns < width (line.take (k + 1)))

theorem isBeginning_search {columns low high : Nat} (h0 : 0 < columns)
    (h : Searches columns line low high) :
    IsBeginning columns line (search columns line low high) := by
  fun_induction search columns line low high with
  | case1 low high middle start taken hwide =>
    -- a wide last character sticks out by one column, and a blank stands in for it
    obtain ⟨htaken, hlast⟩ := hwide
    obtain ⟨c, hc, hcw⟩ := Option.map_eq_some_iff.mp hlast
    obtain ⟨init, hinit⟩ := List.getLast?_eq_some_iff.mp hc
    have hstart : start <+: line := List.take_prefix _ _
    have hk : init = line.take init.length :=
      List.prefix_iff_eq_take.mp ((hinit ▸ List.prefix_append init [c]).trans hstart)
    have hk1 : start = line.take (init.length + 1) := by
      have := List.prefix_iff_eq_take.mp hstart
      rwa [hinit, List.length_append, List.length_singleton, ← hinit] at this
    have hw : width start = width init + 2 := by
      rw [hinit, width_append, width_cons, width_nil, hcw]
    refine ⟨init.length, Or.inr ⟨?_, ?_, ?_⟩⟩
    · rw [hinit, List.dropLast_concat, ← hk]
    · rw [← hk]
      omega
    · rw [← hk1]
      omega
  | case2 low high middle start taken _ htaken =>
    exact ⟨_, Or.inl ⟨rfl, htaken⟩⟩
  | case3 low high middle start taken hsharp _ hlt hmiddle ih =>
    exact ih ⟨by omega, h.before, hlt, Or.inr hsharp⟩
  | case4 low high middle start taken hsharp _ hlt hmiddle =>
    -- bounds that meet leave nothing to search, but these lie apart
    have hordered := h.ordered
    have hmid : middle = low := by omega
    exact absurd (h.low_lt_high h0 (hmid ▸ hsharp)) (by omega)
  | case5 low high middle start taken _ hne hnlt hmiddle ih =>
    have hlt : taken < columns := Nat.lt_of_le_of_ne (Nat.not_lt.mp hnlt) hne
    exact ih ⟨by omega, Or.inr hlt, h.behind, h.sharp⟩
  | case6 low high middle start taken _ hne hnlt hmiddle =>
    have hlt : width (line.take (middle + 1)) < columns :=
      Nat.lt_of_le_of_ne (Nat.not_lt.mp hnlt) hne
    have hordered := h.ordered
    have hmid : middle = low := by omega
    exact absurd (h.succ_low_lt_high (hmid ▸ hlt)) (by omega)

theorem isBeginning_beginning {columns : Nat} (h0 : 0 < columns) (h : columns < width line) :
    IsBeginning columns line (beginning columns line) := by
  rw [beginning, if_neg (Nat.ne_of_gt h0)]
  split
  case isTrue hall =>
    have hn : ∀ c ∈ line, Text.width c = 1 :=
      fun c hc => charWidth_of_isNarrow (List.all_eq_true.mp hall c hc)
    rw [width_eq_length hn] at h
    refine ⟨columns, Or.inl ⟨rfl, ?_⟩⟩
    rw [width_eq_length fun c hc => hn c (List.mem_of_mem_take hc), List.length_take]
    omega
  case isFalse =>
    apply isBeginning_search h0
    have htake : line.take (line.length + 1) = line := List.take_of_length_le (Nat.le_succ _)
    exact ⟨Nat.zero_le _, Or.inl rfl, by rwa [htake], Or.inl (Nat.le_refl _)⟩

theorem crop_of_le (h : width line ≤ limit) : crop limit line = line := by
  rw [crop, if_neg (Nat.not_lt.mpr h)]

theorem width_crop_le (h0 : 0 < limit) (line : List Char) : width (crop limit line) ≤ limit := by
  unfold crop
  split
  case isTrue h =>
    obtain ⟨k, ⟨hk, hw⟩ | ⟨hk, hw, -⟩⟩ := isBeginning_beginning h0 h
    · exact Nat.le_of_eq (by rw [hk, hw])
    · have hblank : Text.width ' ' = 1 := charWidth_of_isNarrow (by decide)
      exact Nat.le_of_eq (by rw [hk, width_append, width_cons, width_nil, hblank, hw])
  case isFalse h => exact Nat.not_lt.mp h

/-- A beginning that ends in a character with a column is shorter than what is as wide as it. -/
theorem length_le_of_width_le {lead : List Char} {k : Nat}
    (hlast : ∀ c ∈ lead.getLast?, 0 < Text.width c) (h : width lead ≤ width (lead.take k)) :
    lead.length ≤ k := by
  apply Nat.le_of_not_lt
  intro hlt
  have hne : lead ≠ [] := List.ne_nil_of_length_pos (by omega)
  have hsplit := List.dropLast_concat_getLast hne
  have hpos := hlast _ (List.getLast?_eq_some_getLast hne)
  have hw := congrArg width hsplit
  rw [width_append, width_cons, width_nil] at hw
  have hle : width (lead.take k) ≤ width lead.dropLast := by
    rw [List.dropLast_eq_take]
    exact width_le_of_prefix (List.take_prefix_take_left (by omega))
  omega

/-- A beginning that fits is kept, and behind it are characters of the line or one blank. -/
theorem exists_crop (h0 : 0 < limit) {lead : List Char} (h : lead <+: line)
    (hw : width lead ≤ limit) (hlast : ∀ c ∈ lead.getLast?, 0 < Text.width c) :
    ∃ k, lead.length ≤ k ∧
      (crop limit line = line.take k ∨ crop limit line = line.take k ++ [' ']) := by
  have hlead : ∀ {k}, k ≤ lead.length → line.take k = lead.take k := by
    intro k hk
    obtain ⟨rest, rfl⟩ := h
    exact List.take_append_of_le_length hk
  unfold crop
  split
  case isTrue hlt =>
    obtain ⟨k, ⟨hk, hkw⟩ | ⟨hk, -, hkw⟩⟩ := isBeginning_beginning h0 hlt
    · refine ⟨k, ?_, Or.inl hk⟩
      -- a shorter beginning would take fewer columns than the one that fits
      rcases Nat.le_total lead.length k with hle | hle
      · exact hle
      · rw [hlead hle] at hkw
        exact length_le_of_width_le hlast (by omega)
    · refine ⟨k, ?_, Or.inr hk⟩
      apply Nat.le_of_not_lt
      intro hlt'
      have hle : width (lead.take (k + 1)) ≤ width lead :=
        width_le_of_prefix (List.take_prefix _ _)
      rw [hlead (k := k + 1) hlt'] at hkw
      omega
  case isFalse =>
    exact ⟨line.length, h.length_le, Or.inl (List.take_length).symm⟩

theorem prefix_crop (h0 : 0 < limit) {lead : List Char} (h : lead <+: line)
    (hw : width lead ≤ limit) (hlast : ∀ c ∈ lead.getLast?, 0 < Text.width c) :
    lead <+: crop limit line := by
  obtain ⟨k, hk, hcrop⟩ := exists_crop h0 h hw hlast
  have htake : lead <+: line.take k := List.prefix_take_iff.mpr ⟨h, hk⟩
  rcases hcrop with hcrop | hcrop
  · rwa [hcrop]
  · rw [hcrop]
    exact htake.trans (List.prefix_append _ _)

/-- Nothing but white space is cut off where the rest fits. -/
theorem ink_crop (h0 : 0 < limit) {lead blanks : List Char}
    (hb : ∀ c ∈ blanks, Text.isSpace c = true) (hw : width lead ≤ limit)
    (hlast : ∀ c ∈ lead.getLast?, 0 < Text.width c) :
    Text.ink (crop limit (lead ++ blanks)) = Text.ink lead := by
  obtain ⟨k, hk, hcrop⟩ := exists_crop h0 (List.prefix_append lead blanks) hw hlast
  have hink : Text.ink ((lead ++ blanks).take k) = Text.ink lead := by
    have hb' : ∀ c ∈ blanks.take (k - lead.length), Text.isSpace c = true :=
      fun c hc => hb c (List.mem_of_mem_take hc)
    rw [List.take_append, List.take_of_length_le hk, Text.ink_append, Text.ink_eq_nil hb',
      List.append_nil]
  rcases hcrop with hcrop | hcrop
  · rw [hcrop, hink]
  · have hblank : Text.ink [' '] = [] := by decide
    rw [hcrop, Text.ink_append, hink, hblank, List.append_nil]

end Cuts

section Filling

variable {limit column : Nat} {line word : List Char} {own : List Char → List (List Char)}

/-- A line that is no wider than the limit but for white space at its end. -/
def Fits (limit : Nat) (line : List Char) : Prop :=
  width (Text.trimEnd Text.isSpace line) ≤ limit

theorem fits_of_width_le (h : width line ≤ limit) : Fits limit line :=
  Nat.le_trans (width_trimEnd_le _ _) h

theorem fits_of_isSpace (h : ∀ c ∈ line, Text.isSpace c = true) : Fits limit line := by
  rw [Fits, Text.trimEnd_eq_nil h]
  exact Nat.zero_le _

theorem flatten_chop (limit : Nat) (line : List Char) (column : Nat) (word : List Char) :
    (chop limit line column word).flatten = line ++ word := by
  fun_induction chop limit line column word with
  | case1 => simp
  | case2 line column c cs _ ih => rw [List.flatten_cons, ih, List.singleton_append]
  | case3 line column c cs _ ih => rw [ih, List.append_assoc, List.singleton_append]

/-- A character fits on a line of two columns. -/
theorem width_le_of_mem_chop (h2 : 2 ≤ limit) (hcolumn : column = width line)
    (hline : width line ≤ limit) : ∀ l ∈ chop limit line column word, width l ≤ limit := by
  fun_induction chop limit line column word with
  | case1 => simpa using hline
  | case2 line column c cs _ ih =>
    have hc := charWidth_le c
    intro l hl
    rcases List.mem_cons.mp hl with rfl | hl
    · exact hline
    · exact ih (by simp) (by simp; omega) l hl
  | case3 line column c cs hle ih =>
    have hw : width (line ++ [c]) = column + Text.width c := by simp [hcolumn]
    exact ih hw.symm (by omega)

theorem flatten_folded (limit : Nat) (word : List Char) : (folded limit word).flatten = word := by
  unfold folded
  split
  · exact flatten_chop limit [] 0 word
  · simp

theorem fits_of_mem_folded (h2 : 2 ≤ limit) (word : List Char) :
    ∀ l ∈ folded limit word, Fits limit l := by
  unfold folded
  split
  case isTrue =>
    intro l hl
    exact fits_of_width_le (width_le_of_mem_chop h2 rfl (Nat.zero_le _) l hl)
  case isFalse h =>
    intro l hl
    rw [List.mem_singleton.mp hl]
    exact Nat.not_lt.mp h

theorem flatten_dropWhile_isEmpty (lines : List (List Char)) :
    (lines.dropWhile List.isEmpty).flatten = lines.flatten := by
  induction lines with
  | nil => rfl
  | cons l lines ih => cases l <;> simp [ih]

theorem flatten_dropLast (lines : List (List Char)) :
    lines.dropLast.flatten ++ lines.getLastD [] = lines.flatten := by
  rcases List.eq_nil_or_concat lines with rfl | ⟨init, last, rfl⟩
  · rfl
  · simp

/-- Nothing of the words is lost. -/
theorem flatten_fill (hown : ∀ word, (own word).flatten = word) (line : List Char) (column : Nat)
    (words : List (List Char)) :
    (fill limit own line column words).flatten = line ++ words.flatten := by
  fun_induction fill limit own line column words with
  | case1 => simp
  | case2 line column word rest _ ih => rw [ih, List.flatten_cons, List.append_assoc]
  | case3 line column word rest _ begun last ih =>
    have hbegun : begun.flatten = line ++ word := by
      simp only [begun]
      split
      case isTrue h => rw [flatten_dropWhile_isEmpty, hown, List.isEmpty_iff.mp h, List.nil_append]
      case isFalse => rw [List.flatten_cons, hown]
    rw [List.flatten_append, ih, ← List.append_assoc, flatten_dropLast, hbegun, List.flatten_cons,
      List.append_assoc]

theorem fits_of_mem_fill (hown : ∀ word, ∀ l ∈ own word, Fits limit l) {words : List (List Char)}
    (hcolumn : column = width line) (hline : Fits limit line) :
    ∀ l ∈ fill limit own line column words, Fits limit l := by
  fun_induction fill limit own line column words with
  | case1 => simpa using hline
  | case2 line column word rest hle ih =>
    refine ih (by rw [width_append, hcolumn]) ?_
    rw [Fits, Text.trimEnd_append]
    split
    case isTrue => exact hline
    case isFalse => rwa [width_append, ← hcolumn]
  | case3 line column word rest _ begun last ih =>
    -- the word does not fit behind the line, and begins lines of its own
    have hbegun : ∀ l ∈ begun, Fits limit l := by
      intro l hl
      simp only [begun] at hl
      split at hl
      · exact hown word l ((List.dropWhile_suffix _).subset hl)
      · exact (List.mem_cons.mp hl).elim (fun h => h ▸ hline) (hown word l)
    have hlast : Fits limit last := by
      simp only [last, List.getLastD_eq_getLast?]
      cases h : begun.getLast? with
      | none => exact fits_of_width_le (Nat.zero_le _)
      | some l => exact hbegun l (List.mem_of_getLast? h)
    intro l hl
    rcases List.mem_append.mp hl with hl | hl
    · exact hbegun l (List.dropLast_subset _ hl)
    · exact ih rfl hlast l hl

/-- Words that fit on one line stay on it. -/
theorem fill_of_fits (own : List Char → List (List Char)) (words : List (List Char))
    (hcolumn : column = width line)
    (h : width line + width words.flatten ≤ limit) :
    fill limit own line column words = [line ++ words.flatten] := by
  induction words generalizing line column with
  | nil => simp [fill]
  | cons word rest ih =>
    have hle := width_trimEnd_le Text.isSpace word
    rw [List.flatten_cons, width_append] at h
    rw [fill, if_pos (by omega), ih (by simp [hcolumn]) (by simp; omega), List.flatten_cons,
      List.append_assoc]

/-- The first line begins with what has been filled. -/
theorem fill_eq_cons (limit : Nat) (own : List Char → List (List Char)) (hline : line ≠ [])
    (column : Nat) (words : List (List Char)) :
    ∃ first more, fill limit own line column words = first :: more ∧ line <+: first := by
  induction words generalizing line column with
  | nil => exact ⟨line, [], rfl, List.prefix_rfl⟩
  | cons word rest ih =>
    rw [fill]
    split
    case isTrue =>
      have hne : line ++ word ≠ [] := by simp [hline]
      obtain ⟨first, more, hfill, hfirst⟩ := ih hne _
      exact ⟨first, more, hfill, (List.prefix_append line word).trans hfirst⟩
    case isFalse =>
      simp only [List.isEmpty_eq_false_iff.mpr hline, Bool.false_eq_true, if_false]
      cases own word with
      | nil => exact ih hline _
      | cons l ls => exact ⟨line, _, by rw [List.dropLast_cons_cons, List.cons_append],
          List.prefix_rfl⟩

end Filling

section Lines

variable {limit : Nat} {row : List Char}

/-- A character that is white space or takes a column. -/
def HasColumn (c : Char) : Prop :=
  Text.isSpace c = true ∨ 0 < Text.width c

/-- A row is put into lines that fit, and nothing of it is lost before they are cut. -/
theorem wrap_eq_map (h2 : 2 ≤ limit) (row : List Char) :
    ∃ uncut : List (List Char), wrap limit (folded limit) row = uncut.map (withoutExcess limit) ∧
      uncut.flatten = row ∧ ∀ l ∈ uncut, Fits limit l := by
  refine ⟨_, rfl, ?_⟩
  split
  case isTrue h =>
    refine ⟨List.flatten_singleton, fun l hl => ?_⟩
    rw [List.mem_singleton.mp hl]
    exact fits_of_isSpace (List.all_eq_true.mp h)
  case isFalse =>
    constructor
    · rw [flatten_fill (flatten_folded limit), List.nil_append, flatten_words]
    · exact fits_of_mem_fill (fits_of_mem_folded h2) rfl (fits_of_width_le (Nat.zero_le _))

theorem ink_crop_withoutExcess (h0 : 0 < limit) {line : List Char} (h : Fits limit line)
    (hc : ∀ c ∈ line, HasColumn c) :
    Text.ink (crop limit (withoutExcess limit line)) = Text.ink line := by
  obtain ⟨kept, hline, hkept⟩ := exists_withoutExcess limit line
  have hlast : ∀ c ∈ (Text.trimEnd Text.isSpace line).getLast?, 0 < Text.width c := by
    intro c hlast
    have hmem : c ∈ line := (Text.trimEnd_isBeginning _ _).subset (List.mem_of_getLast? hlast)
    apply (hc c hmem).resolve_left
    simp [Text.not_of_getLast?_trimEnd hlast]
  rw [hline, ink_crop h0 hkept h hlast, Text.ink_trimEnd]

theorem ink_wrap (h2 : 2 ≤ limit) (hc : ∀ c ∈ row, HasColumn c) :
    Text.ink ((wrap limit (folded limit) row).map (crop limit)).flatten = Text.ink row := by
  obtain ⟨uncut, hwrap, hrow, hfits⟩ := wrap_eq_map h2 row
  have hlines : uncut.map ((Text.ink ∘ crop limit) ∘ withoutExcess limit) =
      uncut.map Text.ink := by
    apply List.map_congr_left
    intro l hl
    refine ink_crop_withoutExcess (by omega) (hfits l hl) fun c hcl => hc c ?_
    rw [← hrow]
    exact List.mem_flatten_of_mem hl hcl
  rw [hwrap, Text.ink_flatten, List.map_map, List.map_map, hlines, ← Text.ink_flatten, hrow]

theorem split_eq_cons (separates : Char → Bool) (cs : List Char) :
    ∃ part parts, split separates cs = part :: parts := by
  cases cs with
  | nil => exact ⟨[], [], rfl⟩
  | cons c cs =>
    rw [split]
    split
    · exact ⟨_, _, rfl⟩
    · split
      · exact ⟨_, _, rfl⟩
      · exact ⟨_, _, rfl⟩

theorem split_cons_of_not {separates : Char → Bool} {c : Char} (h : separates c = false)
    {cs part : List Char} {parts : List (List Char)} (hcs : split separates cs = part :: parts) :
    split separates (c :: cs) = (c :: part) :: parts := by
  rw [split, h, hcs]
  rfl

theorem split_append {separates : Char → Bool} {lead : List Char}
    (h : ∀ c ∈ lead, separates c = false) (cs : List Char) :
    ∃ part parts, split separates cs = part :: parts ∧
      split separates (lead ++ cs) = (lead ++ part) :: parts := by
  induction lead with
  | nil =>
    obtain ⟨part, parts, hcs⟩ := split_eq_cons separates cs
    exact ⟨part, parts, hcs, hcs⟩
  | cons c lead ih =>
    have hc : separates c ≠ true := by simp [h c List.mem_cons_self]
    obtain ⟨part, parts, hcs, hlead⟩ := ih fun d hd => h d (List.mem_cons_of_mem c hd)
    refine ⟨part, parts, hcs, ?_⟩
    rw [List.cons_append, split, if_neg hc, hlead]
    rfl

theorem split_of_none {separates : Char → Bool} {cs : List Char}
    (h : ∀ c ∈ cs, separates c = false) : split separates cs = [cs] := by
  obtain ⟨part, parts, hnil, hcs⟩ := split_append h []
  obtain ⟨rfl, rfl⟩ := List.cons.inj hnil
  simpa using hcs

/-- A separator is white space, so that nothing else is lost between the parts. -/
theorem ink_split {separates : Char → Bool} (h : ∀ c, separates c = true → Text.isSpace c = true)
    (cs : List Char) : Text.ink (split separates cs).flatten = Text.ink cs := by
  induction cs with
  | nil => rfl
  | cons c cs ih =>
    cases hc : separates c with
    | true =>
      have hink : Text.ink (c :: cs) = Text.ink cs := by simp [Text.ink, h c hc]
      rw [split, hc, hink, ← ih]
      rfl
    | false =>
      obtain ⟨part, parts, hcs⟩ := split_eq_cons separates cs
      rw [hcs] at ih
      rw [split_cons_of_not hc hcs]
      simp only [Text.ink, List.flatten_cons, List.cons_append, List.filter_cons] at ih ⊢
      rw [ih]

theorem split_subset {separates : Char → Bool} {cs part : List Char}
    (h : part ∈ split separates cs) : part.Sublist cs := by
  induction cs generalizing part with
  | nil => simp_all [split]
  | cons c cs ih =>
    cases hc : separates c with
    | true =>
      rw [split, hc] at h
      rcases List.mem_cons.mp h with rfl | h
      · exact List.nil_sublist _
      · exact (ih h).cons c
    | false =>
      obtain ⟨first, parts, hcs⟩ := split_eq_cons separates cs
      rw [split_cons_of_not hc hcs] at h
      rw [hcs] at ih
      rcases List.mem_cons.mp h with rfl | h
      · exact (ih List.mem_cons_self).cons_cons c
      · exact (ih (List.mem_cons_of_mem _ h)).cons c

theorem width_le_of_sublist {as bs : List Char} (h : as.Sublist bs) : width as ≤ width bs := by
  induction h with
  | slnil => exact Nat.le_refl _
  | cons c _ ih =>
    rw [width_cons]
    omega
  | cons_cons c _ ih =>
    rw [width_cons, width_cons]
    omega

theorem expandTabs_append {lead : List Char} (h : '\t' ∉ lead) (column : Nat) (cs : List Char) :
    ∃ column', expandTabs column (lead ++ cs) = lead ++ expandTabs column' cs := by
  induction lead generalizing column with
  | nil => exact ⟨column, rfl⟩
  | cons c lead ih =>
    have hc : c ≠ '\t' := Ne.symm (List.ne_of_not_mem_cons h)
    obtain ⟨column', hlead⟩ := ih (List.not_mem_of_not_mem_cons h) (column + Text.width c)
    refine ⟨column', ?_⟩
    rw [List.cons_append, expandTabs, hlead]
    · rfl
    · simp [hc]

theorem ink_expandTabs (column : Nat) (cs : List Char) :
    Text.ink (expandTabs column cs) = Text.ink cs := by
  fun_induction expandTabs column cs with
  | case1 => rfl
  | case2 column cs gap ih =>
    have hgap : ∀ c ∈ List.replicate gap ' ', Text.isSpace c = true := by
      intro c hc
      rw [List.eq_of_mem_replicate hc]
      decide
    have htab : Text.ink ('\t' :: cs) = Text.ink cs := by
      have : Text.isSpace '\t' = true := by decide
      simp [Text.ink, this]
    rw [Text.ink_append, Text.ink_eq_nil hgap, ih, htab, List.nil_append]
  | case3 column c cs _ ih =>
    simp only [Text.ink, List.filter_cons] at ih ⊢
    rw [ih]

theorem hasColumn_of_mem_expandTabs {column : Nat} {cs : List Char}
    (h : ∀ c ∈ cs, HasColumn c) : ∀ c ∈ expandTabs column cs, HasColumn c := by
  fun_induction expandTabs column cs with
  | case1 => exact h
  | case2 column cs gap ih =>
    intro c hc
    rcases List.mem_append.mp hc with hc | hc
    · rw [List.eq_of_mem_replicate hc]
      exact Or.inl (by decide)
    · exact ih (fun d hd => h d (List.mem_cons_of_mem _ hd)) c hc
  | case3 column d cs _ ih =>
    intro c hc
    rcases List.mem_cons.mp hc with rfl | hc
    · exact h c List.mem_cons_self
    · exact ih (fun d hd => h d (List.mem_cons_of_mem _ hd)) c hc

theorem isSpace_of_endsLine {c : Char} (h : endsLine c = true) : Text.isSpace c = true := by
  simp only [endsLine, List.contains_eq_mem, List.mem_cons, List.not_mem_nil, or_false,
    decide_eq_true_eq] at h
  unfold Text.isSpace Text.isBlank Text.blankRanges
  rcases h with h | h | h | h | h | h
  all_goals rw [h]; decide

theorem ink_flatMap {f : List Char → List (List Char)} {ls : List (List Char)}
    (h : ∀ l ∈ ls, Text.ink (f l).flatten = Text.ink l) :
    Text.ink (ls.flatMap f).flatten = Text.ink ls.flatten := by
  induction ls with
  | nil => rfl
  | cons l ls ih =>
    have hl := h l List.mem_cons_self
    have hls := ih fun m hm => h m (List.mem_cons_of_mem l hm)
    rw [List.flatMap_cons, List.flatten_append, Text.ink_append, hl, hls, List.flatten_cons,
      Text.ink_append]

theorem ink_rows (content : List Char) : Text.ink (rows content).flatten = Text.ink content := by
  have hfeed : ∀ c, decide (c = '\n') = true → Text.isSpace c = true := by
    intro c hc
    rw [of_decide_eq_true hc]
    decide
  have htabs : (split (· = '\n') content).map (Text.ink ∘ expandTabs 0) =
      (split (· = '\n') content).map Text.ink :=
    List.map_congr_left fun row _ => ink_expandTabs 0 row
  rw [rows, Text.ink_flatten, List.map_map, htabs, ← Text.ink_flatten, ink_split hfeed]

theorem hasColumn_of_mem_rows {content row : List Char} (h : ∀ c ∈ content, HasColumn c)
    (hrow : row ∈ rows content) : ∀ c ∈ row, HasColumn c := by
  obtain ⟨part, hpart, rfl⟩ := List.mem_map.mp hrow
  exact hasColumn_of_mem_expandTabs fun c hc => h c ((split_subset hpart).subset hc)

/-- A text is shown in full but for white space, if every other character of it takes a column. -/
theorem ink_lines {columns : Nat} (h2 : 2 ≤ columns) {s : String}
    (hc : ∀ c ∈ content s, HasColumn c) :
    Text.ink ((lines columns s).map String.toList).flatten = Text.ink (content s) := by
  have hlines : (lines columns s).map String.toList =
      ((rows (content s)).flatMap fun row =>
        (wrap columns (folded columns) row).map (crop columns)).flatMap (split endsLine) := by
    rw [← List.map_flatMap, lines, List.map_map]
    simp [Function.comp_def]
  rw [hlines, ink_flatMap fun l _ => ink_split (fun _ => isSpace_of_endsLine) l,
    ink_flatMap fun row hrow => ink_wrap h2 (hasColumn_of_mem_rows hc hrow), ink_rows]

theorem width_of_mem_lines {columns : Nat} (h0 : 0 < columns) (s : String) :
    ∀ l ∈ lines columns s, width l.toList ≤ columns := by
  intro l hl
  obtain ⟨part, hpart, rfl⟩ := List.mem_map.mp hl
  obtain ⟨line, hline, hpart⟩ := List.mem_flatMap.mp hpart
  obtain ⟨uncut, -, rfl⟩ := List.mem_map.mp hline
  rw [String.toList_ofList]
  exact Nat.le_trans (width_le_of_sublist (split_subset hpart)) (width_crop_le h0 uncut)

end Lines

end CommandLine.Terminal

end RelativeTime
