import RelativeTime.CommandLine.Run
import RelativeTime.Proofs.Tables

/-!
What the terminal keeps of a text. The beginning of a text that holds nothing but plain characters
and colons before blanks is shown as it is, whatever follows it, and a whole text of this kind on
one line, where it fits. Every error therefore begins its own line with the word for it.
-/
namespace RelativeTime

namespace ReadError

/-- The characters that the message of an error quotes. -/
def quoted : ReadError → List Char
  | invalid => []
  | illegal literal => literal.toList

theorem message_invalid : invalid.message = "Invalid token" :=
  rfl

theorem message_illegal (literal : String) :
    (illegal literal).message = "Illegal operator: \"" ++ literal ++ "\"" :=
  rfl

end ReadError

namespace CommandLine

namespace Markup

theorem openBrackets_append {lead : List Char} (h : '\\' ∉ lead) (cs : List Char) :
    openBrackets (lead ++ cs) = lead ++ openBrackets cs := by
  induction lead with
  | nil => rfl
  | cons c lead ih =>
    have hc : c ≠ '\\' := Ne.symm (List.ne_of_not_mem_cons h)
    have hlead : '\\' ∉ lead := List.not_mem_of_not_mem_cons h
    rw [List.cons_append, openBrackets, ih hlead]
    · rfl
    · simp [hc]

theorem pieces_append {lead : List Char} (h : '[' ∉ lead) (passed cs : List Char) :
    pieces passed (lead ++ cs) = pieces (lead.reverse ++ passed) cs := by
  induction lead generalizing passed with
  | nil => rfl
  | cons c lead ih =>
    have hc : c ≠ '[' := Ne.symm (List.ne_of_not_mem_cons h)
    have hlead : '[' ∉ lead := List.not_mem_of_not_mem_cons h
    rw [List.cons_append, pieces, if_neg hc, ih hlead, List.reverse_cons, List.append_assoc]
    rfl

theorem stops_at_lead {lead : List Char} (h : '\\' ∉ lead) :
    lead.reverse.takeWhile (· = '\\') = [] ∧
      lead.reverse.dropWhile (· = '\\') = lead.reverse := by
  cases hr : lead.reverse with
  | nil => simp
  | cons c cs =>
    have hc : c ≠ '\\' := by
      rintro rfl
      exact h (List.mem_reverse.mp (hr ▸ List.mem_cons_self))
    simp [hc]

theorem takeWhile_backslash_append {lead : List Char} (h : '\\' ∉ lead) (passed : List Char) :
    (passed ++ lead.reverse).takeWhile (· = '\\') = passed.takeWhile (· = '\\') := by
  have hlead : lead.reverse.takeWhile (· = '\\') = [] := (stops_at_lead h).1
  rw [List.takeWhile_append, hlead, List.append_nil]
  split
  case isTrue hall =>
    exact ((List.takeWhile_prefix _).eq_of_length hall).symm
  case isFalse => rfl

theorem dropWhile_backslash_append {lead : List Char} (h : '\\' ∉ lead) (passed : List Char) :
    (passed ++ lead.reverse).dropWhile (· = '\\') =
      passed.dropWhile (· = '\\') ++ lead.reverse := by
  have hlead : lead.reverse.dropWhile (· = '\\') = lead.reverse := (stops_at_lead h).2
  rw [List.dropWhile_append, hlead]
  split
  case isTrue hall => rw [List.isEmpty_iff.mp hall, List.nil_append]
  case isFalse => rfl

/-- What was passed first goes into the first piece. -/
theorem pieces_behind {lead : List Char} (h : '\\' ∉ lead) (passed cs : List Char) :
    ∃ p ps, pieces passed cs = p :: ps ∧
      pieces (passed ++ lead.reverse) cs = (lead ++ p) :: ps := by
  -- only a tag cuts off what was passed, and the lead stays in front of it
  fun_induction pieces passed cs with
  | case1 passed =>
    refine ⟨_, _, rfl, ?_⟩
    rw [pieces, List.reverse_append, List.reverse_reverse, openBrackets_append h]
  | case2 passed c cs n htag =>
    refine ⟨_, _, rfl, ?_⟩
    rw [dite_eq_ite] at htag
    rw [pieces, htag]
    -- the backslashes before a tag end where the lead ends at the latest
    simp only [takeWhile_backslash_append h, dropWhile_backslash_append h, List.reverse_append,
      List.reverse_reverse, openBrackets_append h]
  | case3 passed c cs htag ih =>
    rw [dite_eq_ite] at htag
    rw [pieces, htag]
    exact ih

/-- The beginning of a text that the markup leaves alone, whatever follows it. -/
structure Keeps (lead : List Char) : Prop where
  no_bracket : '[' ∉ lead
  no_backslash : '\\' ∉ lead
  no_emoji : ∀ cs, replaceEmoji (lead ++ cs) = lead ++ replaceEmoji cs

theorem guarded_append {lead : List Char} (h : '\\' ∉ lead) (cs : List Char) :
    guarded (lead ++ cs) = lead ++ guarded cs := by
  have hlast : ∀ ds : List Char,
      (lead ++ ds).getLast? = some '\\' ↔ ds.getLast? = some '\\' := by
    intro ds
    have hlead : lead.getLast? ≠ some '\\' := fun hl => h (List.mem_of_getLast? hl)
    cases hds : ds.getLast? <;> simp [List.getLast?_append, hds, hlead]
  by_cases hcs : cs = []
  · subst hcs
    have hlead : lead.getLast? ≠ some '\\' := by simpa using hlast []
    simp [guarded, hlead]
  · unfold guarded
    rw [List.dropLast_append_of_ne_nil hcs]
    simp only [hlast, ne_eq]
    split
    case isTrue => rw [List.append_assoc]
    case isFalse => rfl

theorem Keeps.append {lead next : List Char} (h : Keeps lead) (hn : Keeps next) :
    Keeps (lead ++ next) := by
  constructor
  case no_bracket => exact List.not_mem_append h.no_bracket hn.no_bracket
  case no_backslash => exact List.not_mem_append h.no_backslash hn.no_backslash
  case no_emoji =>
    intro cs
    rw [List.append_assoc, h.no_emoji, hn.no_emoji, List.append_assoc]

theorem shown_append {lead : List Char} (h : Keeps lead) (cs : List Char) :
    shown (lead ++ cs) = lead ++ shown cs := by
  obtain ⟨p, ps, hcs, hlead⟩ := pieces_behind h.no_backslash [] (guarded cs)
  unfold shown
  rw [guarded_append h.no_backslash, pieces_append h.no_bracket, List.append_nil,
    ← List.nil_append lead.reverse, hlead, hcs, List.flatMap_cons, List.flatMap_cons, h.no_emoji,
    List.append_assoc]

@[simp] theorem shown_nil : shown [] = [] := by
  simp [shown, guarded, pieces, openBrackets, replaceEmoji]

theorem shown_of_keeps {cs : List Char} (h : Keeps cs) : shown cs = cs := by
  simpa [shown_nil] using shown_append h []

theorem replaceEmoji_cons_of_ne {c : Char} (h : c ≠ ':') (cs : List Char) :
    replaceEmoji (c :: cs) = c :: replaceEmoji cs := by
  rw [replaceEmoji, if_neg h]

theorem replaceEmoji_append {lead : List Char} (h : ':' ∉ lead) (cs : List Char) :
    replaceEmoji (lead ++ cs) = lead ++ replaceEmoji cs := by
  induction lead with
  | nil => rfl
  | cons c lead ih =>
    have hc : c ≠ ':' := Ne.symm (List.ne_of_not_mem_cons h)
    rw [List.cons_append, replaceEmoji_cons_of_ne hc, ih (List.not_mem_of_not_mem_cons h),
      List.cons_append]

/-- Without brackets, backslashes and colons there is no markup. -/
theorem keeps_of_not_mem {lead : List Char} (hb : '[' ∉ lead) (hs : '\\' ∉ lead)
    (hc : ':' ∉ lead) : Keeps lead :=
  ⟨hb, hs, replaceEmoji_append hc⟩

theorem replaceEmoji_colon_blank (cs : List Char) :
    replaceEmoji (':' :: ' ' :: cs) = ':' :: ' ' :: replaceEmoji cs := by
  have hblank : ((' ' :: cs).takeWhile (· ≠ ':')).any Text.isSpace = true := by
    have hspace : Text.isSpace ' ' = true := by decide
    simp [hspace]
  rw [replaceEmoji, if_pos rfl, if_neg (by simp only [hblank]; simp),
    replaceEmoji_cons_of_ne (by decide)]

end Markup

namespace Terminal

/-- A character that neither ends a line nor moves within one. -/
def isStill (c : Char) : Bool :=
  c ≠ '\n' && c ≠ '\t' && !isControl c && !endsLine c

/-- The beginning of a text that is shown as it is, whatever follows it. -/
structure Keeps (lead : List Char) : Prop extends Markup.Keeps lead where
  still : ∀ c ∈ lead, isStill c = true

theorem Keeps.append {lead next : List Char} (h : Keeps lead) (hn : Keeps next) :
    Keeps (lead ++ next) :=
  ⟨h.toKeeps.append hn.toKeeps, fun c hc => (List.mem_append.mp hc).elim (h.still c) (hn.still c)⟩

/-- A character that the markup may take for a part of its own. -/
def isMarkup (c : Char) : Bool :=
  c = '[' || c = '\\' || c = ':'

theorem markup_keeps {lead : List Char} (h : ∀ c ∈ lead, isMarkup c = false) :
    Markup.Keeps lead := by
  have hm : ∀ c ∈ lead, ((¬c = '[' ∧ ¬c = '\\') ∧ ¬c = ':') := by simpa [isMarkup] using h
  exact Markup.keeps_of_not_mem (fun hc => (hm _ hc).1.1 rfl) (fun hc => (hm _ hc).1.2 rfl)
    (fun hc => (hm _ hc).2 rfl)

/-- A character that is shown as it is wherever it stands. -/
def isPlain (c : Char) : Bool :=
  !isMarkup c && isStill c

theorem isPlain_iff {c : Char} : isPlain c = true ↔ isMarkup c = false ∧ isStill c = true := by
  simp [isPlain]

theorem keeps_of_isPlain {lead : List Char} (h : lead.all isPlain = true) : Keeps lead := by
  have hp : ∀ c ∈ lead, isMarkup c = false ∧ isStill c = true := by
    intro c hc
    exact isPlain_iff.mp (List.all_eq_true.mp h c hc)
  exact ⟨markup_keeps fun c hc => (hp c hc).1, fun c hc => (hp c hc).2⟩

/-- A colon before a blank, as behind the word for an error, begins no name of an emoji. -/
theorem keeps_colon_blank : Keeps [':', ' '] :=
  ⟨⟨by decide, by decide, Markup.replaceEmoji_colon_blank⟩, List.all_eq_true.mp (by decide)⟩

theorem Keeps.not_separated {lead : List Char} (h : Keeps lead) :
    (∀ c ∈ lead, decide (c = '\n') = false) ∧ '\t' ∉ lead ∧
      (∀ c ∈ lead, isControl c = false) ∧ ∀ c ∈ lead, endsLine c = false := by
  have hs : ∀ c ∈ lead, ((¬c = '\n' ∧ ¬c = '\t') ∧ isControl c = false) ∧ endsLine c = false := by
    simpa [isStill] using h.still
  refine ⟨fun c hc => by simpa using (hs c hc).1.1.1, fun hc => (hs _ hc).1.1.2 rfl,
    fun c hc => (hs c hc).1.2, fun c hc => (hs c hc).2⟩

theorem content_append {lead : String} (h : Keeps lead.toList) (s : String) :
    content (lead ++ s) = lead.toList ++ content s := by
  have hlead : lead.toList.filter (fun c => !isControl c) = lead.toList := by
    simpa using h.not_separated.2.2.1
  simp only [content, String.toList_append, Markup.shown_append h.toKeeps, List.filter_append,
    hlead]

section Lines

variable {columns : Nat} {own : List Char → List (List Char)}

/-- A word and a blank behind it begin the first line of a row that they begin. -/
theorem wrap_eq_cons {word : List Char} (h : IsWord word) (hw : width word ≤ columns)
    (hl : (word ++ [' ']).length ≤ columns) (rest : List Char) :
    ∃ first more, wrap columns own (word ++ ' ' :: rest) = first :: more ∧
      word ++ [' '] <+: first := by
  have hblank : Text.isSpace ' ' = true := by decide
  have hspace : ¬(word ++ ' ' :: rest).all Text.isSpace = true := by
    intro hall
    obtain ⟨c, hc⟩ := List.exists_mem_of_ne_nil word h.1
    exact h.not_mem (List.all_eq_true.mp hall c (List.mem_append_left _ hc)) hc
  have hfirst := h.firstWord_append (' ' :: rest) (by simpa using hblank)
  rw [List.takeWhile_cons_of_pos hblank] at hfirst
  generalize hline : word ++ ' ' :: rest.takeWhile Text.isSpace = line at hfirst
  have hne : line ≠ [] := by
    rw [← hline]
    simp
  -- the first word, without the blanks behind it, is what the first line starts with
  have htrim : Text.trimEnd Text.isSpace line = word := by
    have hblanks : ∀ c ∈ ' ' :: rest.takeWhile Text.isSpace, Text.isSpace c = true := by
      intro c hc
      rcases List.mem_cons.mp hc with rfl | hc
      · exact hblank
      · exact List.all_eq_true.mp List.all_takeWhile c hc
    rw [← hline, Text.trimEnd_append, if_pos (Text.trimEnd_eq_nil hblanks), h.trimEnd]
  obtain ⟨first, more, hfill, hprefix⟩ := fill_eq_cons columns own hne (width line)
    (words ((' ' :: rest).dropWhile Text.isSpace))
  have hlead : word ++ [' '] <+: first := by
    refine List.IsPrefix.trans ⟨rest.takeWhile Text.isSpace, ?_⟩ hprefix
    rw [← hline, List.append_assoc, List.singleton_append]
  refine ⟨withoutExcess columns first, more.map (withoutExcess columns), ?_,
    prefix_withoutExcess hlead hl⟩
  rw [wrap, if_neg hspace, words, hfirst, if_neg hne, fill, htrim, Nat.zero_add, if_pos hw,
    List.nil_append, Nat.zero_add, hfill, List.map_cons]

/-- A row without white space at its end that fits is one line. -/
theorem wrap_of_fits {row : List Char} (hw : width row ≤ columns)
    (hlast : Text.trimEnd Text.isSpace row = row) : wrap columns own row = [row] := by
  have huncut : (if row.all Text.isSpace then [row] else fill columns own [] 0 (words row)) =
      [row] := by
    split
    case isTrue => rfl
    case isFalse =>
      have hwords : width [] + width (words row).flatten ≤ columns := by
        rwa [flatten_words, width_nil, Nat.zero_add]
      have hfill := fill_of_fits own (words row) rfl hwords
      rwa [flatten_words, List.nil_append] at hfill
  simp only [wrap, huncut, List.map_singleton, withoutExcess_of_trimEnd hlast]

theorem content_of_keeps {s : String} (h : Keeps s.toList) : content s = s.toList := by
  simpa [content, Markup.shown_nil] using content_append h ""

/-- A text begins its first line as it begins itself, with a word and a blank that take a column for
each character. -/
theorem lines_append {lead : String} {word : List Char} (h : Keeps lead.toList)
    (hlead : lead.toList = word ++ [' ']) (hword : IsWord word)
    (hn : ∀ c ∈ lead.toList, Text.width c = 1) (hl : lead.toList.length ≤ columns) (s : String) :
    ∃ first more, lines columns (lead ++ s) = (lead ++ first) :: more := by
  obtain ⟨hfeed, htab, -, hends⟩ := h.not_separated
  have hw : width lead.toList ≤ columns := by rwa [width_eq_length hn]
  have hlast : ∀ c ∈ lead.toList.getLast?, 0 < Text.width c := by
    intro c hc
    rw [hn c (List.mem_of_getLast? hc)]
    exact Nat.one_pos
  have h0 : 0 < columns := by
    rw [hlead, List.length_append] at hl
    exact Nat.lt_of_lt_of_le (Nat.succ_pos _) hl
  -- no line feed, tab, fold, cut or line end touches the lead
  obtain ⟨part, parts, -, hsplit⟩ := split_append hfeed (content s)
  obtain ⟨column, hrow⟩ := expandTabs_append htab 0 part
  have hwrap : ∃ line more, wrap columns (folded columns) (expandTabs 0 (lead.toList ++ part)) =
      line :: more ∧ lead.toList <+: line := by
    rw [hrow, hlead, List.append_assoc, List.singleton_append]
    refine wrap_eq_cons hword ?_ (by rwa [← hlead]) _
    rw [hlead, width_append] at hw
    omega
  obtain ⟨line, more, hwrap, hline⟩ := hwrap
  obtain ⟨tail, htail⟩ := prefix_crop h0 hline hw hlast
  obtain ⟨first, others, -, hparts⟩ := split_append hends tail
  rw [htail] at hparts
  refine ⟨String.ofList first, ?_⟩
  rw [lines, content_append h, rows, hsplit, List.map_cons, List.flatMap_cons, hwrap]
  simp only [List.cons_append, List.map_cons, List.flatMap_cons, hparts]
  exact ⟨_, by rw [String.ofList_append, String.ofList_toList]⟩

theorem lines_of_keeps {s : String} (h : Keeps s.toList) (hw : width s.toList ≤ columns)
    (hlast : Text.trimEnd Text.isSpace s.toList = s.toList) : lines columns s = [s] := by
  obtain ⟨hfeed, htab, -, hends⟩ := h.not_separated
  obtain ⟨column, hrow⟩ := expandTabs_append htab 0 []
  have hrow : expandTabs 0 s.toList = s.toList := by simpa [expandTabs] using hrow
  rw [lines, rows, content_of_keeps h, split_of_none hfeed]
  simp [hrow, wrap_of_fits hw hlast, crop_of_le hw, split_of_none hends]

end Lines

end Terminal

section Errors

open Terminal

theorem keeps_error : Keeps "Error: ".toList := by
  have h : Keeps ("Error".toList ++ [':', ' ']) :=
    (keeps_of_isPlain (by decide)).append keeps_colon_blank
  exact h

theorem keeps_invalid : Keeps "Invalid token".toList :=
  keeps_of_isPlain (by decide)

theorem keeps_illegal : Keeps "Illegal operator: \"".toList := by
  have h : Keeps ("Illegal operator".toList ++ [':', ' '] ++ "\"".toList) :=
    ((keeps_of_isPlain (by decide)).append keeps_colon_blank).append (keeps_of_isPlain (by decide))
  exact h

theorem keeps_quote : Keeps "\"".toList :=
  keeps_of_isPlain (by decide)

variable {columns : Nat}

/-- Whatever an error says, its first line begins with the word for it. -/
theorem errorLines_eq_cons (h : 7 ≤ columns) (text : String) :
    ∃ first more, errorLines columns text = ("Error: " ++ first) :: more := by
  have hspace : "Error:".toList.all (!Text.isSpace ·) = true := by decide
  have hword : IsWord "Error:".toList := ⟨by decide, by simpa using hspace⟩
  have hwidth : "Error: ".toList.all (Text.width · = 1) = true := by decide +kernel
  have hn : ∀ c ∈ "Error: ".toList, Text.width c = 1 := by simpa using hwidth
  exact lines_append keeps_error rfl hword hn h text

variable {e : ReadError}

theorem keeps_message (h : ∀ c ∈ e.quoted, isMarkup c = false) :
    Markup.Keeps ("Error: " ++ e.message).toList := by
  rw [String.toList_append]
  apply keeps_error.toKeeps.append
  cases e with
  | invalid =>
    rw [ReadError.message_invalid]
    exact keeps_invalid.toKeeps
  | illegal literal =>
    rw [ReadError.message_illegal, String.toList_append, String.toList_append]
    exact (keeps_illegal.toKeeps.append (markup_keeps h)).append keeps_quote.toKeeps

theorem still_message (h : ∀ c ∈ e.quoted, isStill c = true) :
    ∀ c ∈ ("Error: " ++ e.message).toList, isStill c = true := by
  intro c hc
  rw [String.toList_append] at hc
  rcases List.mem_append.mp hc with hc | hc
  · exact keeps_error.still c hc
  cases e with
  | invalid =>
    rw [ReadError.message_invalid] at hc
    exact keeps_invalid.still c hc
  | illegal literal =>
    rw [ReadError.message_illegal, String.toList_append, String.toList_append] at hc
    rcases List.mem_append.mp hc with hc | hc
    · exact (List.mem_append.mp hc).elim (keeps_illegal.still c) (h c)
    · exact keeps_quote.still c hc

/-- The markup leaves an error alone that quotes none of its characters. -/
theorem content_message (h : ∀ c ∈ e.quoted, isMarkup c = false) :
    content ("Error: " ++ e.message) =
      ("Error: " ++ e.message).toList.filter fun c => !isControl c := by
  rw [content, Markup.shown_of_keeps (keeps_message h)]

theorem trimEnd_message (e : ReadError) :
    Text.trimEnd Text.isSpace ("Error: " ++ e.message).toList =
      ("Error: " ++ e.message).toList := by
  apply Text.trimEnd_eq_self
  intro c hc
  cases e with
  | invalid =>
    rw [ReadError.message_invalid] at hc
    obtain rfl : 'n' = c := Option.some.inj hc
    decide
  | illegal literal =>
    have hquote : ("Error: " ++ (ReadError.illegal literal).message).toList =
        ("Error: Illegal operator: \"" ++ literal).toList ++ ['"'] := by
      simp [ReadError.message_illegal]
    rw [hquote, List.getLast?_concat] at hc
    obtain rfl : '"' = c := Option.some.inj hc
    decide

/-- An error that quotes plain characters, or none, is shown as it is where it fits. -/
theorem errorLines_message (h : ∀ c ∈ e.quoted, isPlain c = true)
    (hw : width ("Error: " ++ e.message).toList ≤ columns) :
    errorLines columns e.message = ["Error: " ++ e.message] := by
  have hp : ∀ c ∈ e.quoted, isMarkup c = false ∧ isStill c = true :=
    fun c hc => isPlain_iff.mp (h c hc)
  have hkeeps : Keeps ("Error: " ++ e.message).toList :=
    ⟨keeps_message fun c hc => (hp c hc).1, still_message fun c hc => (hp c hc).2⟩
  exact lines_of_keeps hkeeps hw (trimEnd_message e)

end Errors

end CommandLine

end RelativeTime
