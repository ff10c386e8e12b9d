import Mathlib.Data.List.Forall2
import RelativeTime.Proofs.Filling

/-!
Tables of words. A cell that holds a single word has one line, cut where the word is wider than its
column, so that such a table has one row for each row of cells. On a console with room for all of it
the table shows the cells as they are.
-/
namespace RelativeTime.CommandLine.Terminal

/-- Characters of which none is white space, so that nothing breaks them up. -/
def IsWord (cs : List Char) : Prop :=
  cs ≠ [] ∧ ∀ c ∈ cs, Text.isSpace c = false

section Words

variable {cs : List Char}

theorem IsWord.not_mem (h : IsWord cs) {c : Char} (hc : Text.isSpace c = true) : c ∉ cs := by
  intro hmem
  exact absurd (h.2 c hmem) (by simp [hc])

theorem IsWord.trimEnd (h : IsWord cs) : Text.trimEnd Text.isSpace cs = cs :=
  Text.trimEnd_eq_self fun c hc => h.2 c (List.mem_of_getLast? hc)

theorem IsWord.dropWhile (h : IsWord cs) : cs.dropWhile Text.isSpace = cs := by
  cases cs with
  | nil => rfl
  | cons c cs => exact List.dropWhile_cons_of_neg (by simp [h.2 c List.mem_cons_self])

theorem IsWord.trim (h : IsWord cs) : Text.trim Text.isSpace cs = cs := by
  rw [Text.trim, h.dropWhile, h.trimEnd]

theorem IsWord.split (h : IsWord cs) {separates : Char → Bool}
    (hs : ∀ c, separates c = true → Text.isSpace c = true) : Terminal.split separates cs = [cs] :=
  split_of_none fun c hc => Bool.eq_false_iff.mpr fun hsep => h.not_mem (hs c hsep) hc

theorem IsWord.expandTabs (h : IsWord cs) : Terminal.expandTabs 0 cs = cs := by
  obtain ⟨column, hcs⟩ := expandTabs_append (h.not_mem (by decide)) 0 []
  simpa [Terminal.expandTabs] using hcs

theorem IsWord.rows (h : IsWord cs) : Terminal.rows cs = [cs] := by
  have hfeed : ∀ c, decide (c = '\n') = true → Text.isSpace c = true := by
    intro c hc
    rw [of_decide_eq_true hc]
    decide
  rw [Terminal.rows, h.split hfeed, List.map_singleton, h.expandTabs]

/-- A word ends where white space begins, and takes this with it. -/
theorem IsWord.firstWord_append (h : IsWord cs) (rest : List Char)
    (hrest : ∀ c ∈ rest.head?, Text.isSpace c = true) :
    Terminal.firstWord (cs ++ rest) =
      (cs ++ rest.takeWhile Text.isSpace, rest.dropWhile Text.isSpace) := by
  have hcs : ∀ c ∈ cs, (!Text.isSpace c) = true := by simpa using h.2
  have hlead : (cs ++ rest).takeWhile Text.isSpace = [] ∧
      (cs ++ rest).dropWhile Text.isSpace = cs ++ rest := by
    cases hc : cs with
    | nil => exact absurd hc h.1
    | cons c _ =>
      have : Text.isSpace c = false := h.2 c (hc ▸ List.mem_cons_self)
      simp [this]
  have hbody : rest.takeWhile (!Text.isSpace ·) = [] ∧
      rest.dropWhile (!Text.isSpace ·) = rest := by
    cases rest with
    | nil => exact ⟨rfl, rfl⟩
    | cons c _ => simp [hrest c rfl]
  simp only [Terminal.firstWord, hlead, List.takeWhile_append_of_pos hcs,
    List.dropWhile_append_of_pos hcs, hbody, List.nil_append, List.append_nil]

theorem IsWord.words (h : IsWord cs) : Terminal.words cs = [cs] := by
  have hfirst : Terminal.firstWord cs = (cs, []) := by
    simpa using h.firstWord_append [] nofun
  have hnil : Terminal.words [] = [] := by
    rw [Terminal.words]
    rfl
  rw [Terminal.words, hfirst, if_neg h.1, hnil]

theorem IsWord.contentWidth (h : IsWord cs) : Terminal.contentWidth cs = width cs := by
  have hends : ∀ c, (c = '\n' || endsLine c) = true → Text.isSpace c = true := by
    intro c hc
    rcases Bool.or_eq_true_iff.mp hc with hc | hc
    · rw [of_decide_eq_true hc]
      decide
    · exact isSpace_of_endsLine hc
  rw [Terminal.contentWidth, h.split hends]
  exact Nat.zero_max _

/-- A word is not folded in a cell. -/
theorem IsWord.cellLines (h : IsWord cs) (limit : Nat) :
    Terminal.cellLines limit cs = [shownCell limit cs] := by
  unfold Terminal.cellLines
  split
  case isTrue hzero =>
    rw [shownCell, clip, if_pos hzero]
    rfl
  case isFalse =>
    have hspace : ¬cs.all Text.isSpace = true := by
      intro hall
      obtain ⟨c, hc⟩ := List.exists_mem_of_ne_nil cs h.1
      exact h.not_mem (List.all_eq_true.mp hall c hc) hc
    have hfill : fill limit (fun word => [word]) [] 0 [cs] = [cs] := by
      have hne : cs.isEmpty = false := List.isEmpty_eq_false_iff.mpr h.1
      rw [fill]
      split
      · rfl
      · simp [hne, fill]
    have hwrap : wrap limit (fun word => [word]) cs = [cs] := by
      rw [wrap]
      simp only [if_neg hspace, h.words, hfill, List.map_singleton,
        withoutExcess_of_trimEnd h.trimEnd]
    rw [h.rows, List.flatMap_singleton, hwrap, List.map_singleton]

theorem IsWord.shownCell_of_le (h : IsWord cs) {limit : Nat} (h0 : 0 < limit)
    (hw : width cs ≤ limit) : shownCell limit cs = String.ofList cs := by
  rw [shownCell, clip, if_neg (Nat.ne_of_gt h0), if_neg (Nat.not_lt.mpr hw), h.trim]

end Words

theorem stack_of_single {cells : List String} (h : cells ≠ []) :
    stack (cells.map fun cell => [cell]) = [cells] := by
  have hone : ∀ cells : List String, (cells.map fun _ => 1).foldl max 1 = 1 := by
    intro cells
    induction cells with
    | nil => rfl
    | cons _ _ ih => exact ih
  have hheight : ((cells.map fun cell => [cell]).map List.length).foldl max 0 = 1 := by
    rw [List.map_map]
    cases cells with
    | nil => exact absurd rfl h
    | cons _ cells => exact hone cells
  simp only [stack, hheight]
  rw [List.range_one, List.map_singleton, List.map_map]
  exact congrArg (fun row => [row]) (List.map_id cells)

section Rows

variable {header : List String} {cells : List (List String)} {limits : List Nat}

/-- A cell that holds one word, and is shown as it is where there is room. -/
structure IsWordCell (cell : String) : Prop where
  isWord : IsWord cell.toList
  content_eq : content cell = cell.toList
  width_pos : 0 < width cell.toList

/-- Rows of as many words as the header has. -/
structure AreWords (header : List String) (cells : List (List String)) : Prop where
  ne_nil : header ≠ []
  length_eq : ∀ row ∈ cells, row.length = header.length
  isWordCell : ∀ row ∈ header :: cells, ∀ cell ∈ row, IsWordCell cell

/-- A row of cells cut to the widths of their columns. -/
def shownRow (limits : List Nat) (row : List String) : List String :=
  List.zipWith (fun limit cell => shownCell limit cell.toList) limits row

theorem forall₂_zipWith_max : ∀ {as bs : List Nat}, as.length = bs.length →
    List.Forall₂ (· ≤ ·) as (List.zipWith max as bs) ∧
      List.Forall₂ (· ≤ ·) bs (List.zipWith max as bs)
  | [], [], _ => ⟨.nil, .nil⟩
  | a :: as, b :: bs, h => by
    obtain ⟨has, hbs⟩ := forall₂_zipWith_max (Nat.succ.inj h)
    exact ⟨.cons (Nat.le_max_left a b) has, .cons (Nat.le_max_right a b) hbs⟩

theorem forall₂_le_trans {as bs cs : List Nat} (hab : List.Forall₂ (· ≤ ·) as bs)
    (hbc : List.Forall₂ (· ≤ ·) bs cs) : List.Forall₂ (· ≤ ·) as cs := by
  induction hab generalizing cs with
  | nil => exact hbc
  | cons h _ ih =>
    cases hbc with
    | cons h' hbc => exact .cons (Nat.le_trans h h') (ih hbc)

/-- The widths that a table asks for are enough for each of its rows. -/
theorem forall₂_foldl (rows : List (List Nat)) (ws : List Nat)
    (h : ∀ row ∈ rows, row.length = ws.length) :
    List.Forall₂ (· ≤ ·) ws (rows.foldl (List.zipWith max) ws) ∧
      ∀ row ∈ rows, List.Forall₂ (· ≤ ·) row (rows.foldl (List.zipWith max) ws) := by
  induction rows generalizing ws with
  | nil => exact ⟨List.forall₂_same.mpr fun n _ => Nat.le_refl n, nofun⟩
  | cons row rows ih =>
    have hrow : ws.length = row.length := (h row List.mem_cons_self).symm
    obtain ⟨hws, hrow'⟩ := forall₂_zipWith_max hrow
    have hlen : (List.zipWith max ws row).length = ws.length := hws.length_eq.symm
    obtain ⟨hstart, hrows⟩ := ih (List.zipWith max ws row) fun other hother => by
      rw [hlen]
      exact h other (List.mem_cons_of_mem row hother)
    refine ⟨forall₂_le_trans hws hstart, fun other hother => ?_⟩
    rcases List.mem_cons.mp hother with rfl | hother
    · exact forall₂_le_trans hrow' hstart
    · exact hrows other hother

theorem AreWords.widths (h : AreWords header cells) {row : List String}
    (hrow : row ∈ header :: cells) :
    (row.map fun cell => contentWidth (content cell)) = row.map fun cell => width cell.toList := by
  apply List.map_congr_left
  intro cell hcell
  have hword := h.isWordCell row hrow cell hcell
  rw [hword.content_eq, hword.isWord.contentWidth]

theorem AreWords.forall₂ (h : AreWords header cells) {row : List String}
    (hrow : row ∈ header :: cells) :
    List.Forall₂ (fun limit cell => width cell.toList ≤ limit) (columnWidths header cells) row := by
  let widths (row : List String) := row.map fun cell => contentWidth (content cell)
  have hfold : columnWidths header cells =
      (cells.map widths).foldl (List.zipWith max) (widths header) := by
    rw [List.foldl_map]
    rfl
  have hlen : ∀ ws ∈ cells.map widths, ws.length = (widths header).length := by
    intro ws hws
    obtain ⟨other, hother, rfl⟩ := List.mem_map.mp hws
    simp only [widths, List.length_map, h.length_eq other hother]
  obtain ⟨hheader, hcells⟩ := forall₂_foldl _ _ hlen
  rw [← hfold] at hheader hcells
  have hle : List.Forall₂ (· ≤ ·) (widths row) (columnWidths header cells) := by
    rcases List.mem_cons.mp hrow with rfl | hrow
    · exact hheader
    · exact hcells _ (List.mem_map_of_mem hrow)
  simp only [widths] at hle
  rw [h.widths hrow, List.forall₂_map_left_iff] at hle
  exact hle.flip

theorem zipWith_cellLines {row : List String} (h : ∀ cell ∈ row, IsWordCell cell)
    (limits : List Nat) :
    List.zipWith cellLines limits (row.map content) =
      (shownRow limits row).map fun cell => [cell] := by
  induction row generalizing limits with
  | nil => simp [shownRow]
  | cons cell row ih =>
    cases limits with
    | nil => rfl
    | cons limit limits =>
      have hcell := h cell List.mem_cons_self
      have hrow := ih (fun other hother => h other (List.mem_cons_of_mem cell hother)) limits
      rw [List.map_cons, List.zipWith_cons_cons, hcell.content_eq, hcell.isWord.cellLines, hrow]
      rfl

theorem shownRow_of_le {row : List String} (h : ∀ cell ∈ row, IsWordCell cell)
    (hle : List.Forall₂ (fun limit cell => width cell.toList ≤ limit) limits row) :
    shownRow limits row = row := by
  induction hle with
  | nil => rfl
  | @cons limit cell limits row hw _ ih =>
    have hcell := h cell List.mem_cons_self
    have h0 : 0 < limit := Nat.lt_of_lt_of_le hcell.width_pos hw
    rw [shownRow, List.zipWith_cons_cons, hcell.isWord.shownCell_of_le h0 hw, String.ofList_toList]
    exact congrArg (cell :: ·) (ih fun other hother => h other (List.mem_cons_of_mem cell hother))

/-- A table of words has one row for each row of cells. -/
theorem table_of_words (console : Console) (title : String) (h : AreWords header cells) :
    table console title header cells =
      ⟨title, (header :: cells).map (shownRow (console.share (columnWidths header cells)))⟩ := by
  have hrows : ∀ row ∈ header :: cells,
      stack (List.zipWith cellLines (console.share (columnWidths header cells))
        (row.map content)) = [shownRow (console.share (columnWidths header cells)) row] := by
    intro row hrow
    have hlen : (console.share (columnWidths header cells)).length = row.length := by
      rw [console.length_share, (h.forall₂ hrow).length_eq]
    have hrowlen : row.length = header.length := by
      rcases List.mem_cons.mp hrow with rfl | hrow
      · rfl
      · exact h.length_eq row hrow
    have hshown : shownRow (console.share (columnWidths header cells)) row ≠ [] := by
      have hpos := List.length_pos_iff.mpr h.ne_nil
      apply List.ne_nil_of_length_pos
      rw [shownRow, List.length_zipWith, hlen, Nat.min_self, hrowlen]
      exact hpos
    rw [zipWith_cellLines (h.isWordCell row hrow), stack_of_single hshown]
  rw [table, List.map_eq_flatMap]
  exact congrArg (Table.mk title) (List.flatMap_congr hrows)

/-- Where there is room for all cells, they are shown as they are. -/
theorem table_of_fits {console : Console} (title : String) (h : AreWords header cells)
    (hfits : totalWidth (columnWidths header cells) + 3 * header.length + 1 ≤ console.columns) :
    table console title header cells = ⟨title, header :: cells⟩ := by
  have hlen : (columnWidths header cells).length = header.length :=
    (h.forall₂ List.mem_cons_self).length_eq
  rw [← hlen] at hfits
  rw [table_of_words console title h, console.share_of_fits hfits]
  refine congrArg (Table.mk title) ?_
  conv => rhs; rw [← List.map_id (header :: cells)]
  exact List.map_congr_left fun row hrow =>
    shownRow_of_le (h.isWordCell row hrow) (h.forall₂ hrow)

end Rows

end RelativeTime.CommandLine.Terminal
