import RelativeTime.CommandLine.Console
import RelativeTime.CommandLine.Markup
import RelativeTime.Text.Width

/-!
Text as a terminal shows it, line by line. Characters that would move the cursor are dropped, and
tabs reach to the next multiple of eight columns. Words that do not fit behind one another go to the
next line; one that fits no line is folded, or in a table cut with dots for what is lost. A column
of a table asks for the width of its widest cell before tabs are expanded, so that a cell with tabs
may need several lines.

The frame of a table, its colours and the place of its title are left out.
-/
namespace RelativeTime.CommandLine.Terminal

/-- Bell, backspace, vertical tab, form feed and carriage return. -/
def isControl (c : Char) : Bool :=
  [7, 8, 11, 12, 13].contains c.toNat

/-- A line with its tabs expanded, from a column on. -/
def expandTabs (column : Nat) : List Char → List Char
  | [] => []
  | '\t' :: cs =>
    let gap := 8 - column % 8
    List.replicate gap ' ' ++ expandTabs (column + gap) cs
  | c :: cs => c :: expandTabs (column + Text.width c) cs

/-- The parts of a text between separating characters. -/
def split (separates : Char → Bool) : List Char → List (List Char)
  | [] => [[]]
  | c :: cs =>
    if separates c then [] :: split separates cs
    else
      match split separates cs with
      | [] => [[c]]
      | part :: parts => (c :: part) :: parts

/-- The lines of a text that holds no character to end one but the line feed. -/
def plainLines (s : String) : List String :=
  (split (· = '\n') s.toList).map String.ofList

/-- What is left of a text when its markup has been taken as it is. -/
def content (s : String) : List Char :=
  (Markup.shown s.toList).filter fun c => !isControl c

/-- The lines of a content with their tabs expanded. -/
def rows (content : List Char) : List (List Char) :=
  (split (· = '\n') content).map (expandTabs 0)

/-- The characters beside the line feed that end a line: three separators of ASCII, the next line
character, and the line and paragraph separators. -/
def endsLine (c : Char) : Bool :=
  [0x1c, 0x1d, 0x1e, 0x85, 0x2028, 0x2029].contains c.toNat

/-- The columns that characters take side by side. -/
def width (cs : List Char) : Nat :=
  cs.foldl (fun n c => n + Text.width c) 0

/-- The columns that a content takes, tabs not counted. -/
def contentWidth (content : List Char) : Nat :=
  ((split (fun c => c = '\n' || endsLine c) content).map width).foldl max 0

/-- White space, characters that are none, and white space again; and what is left. -/
def firstWord (cs : List Char) : List Char × List Char :=
  let lead := cs.takeWhile Text.isSpace
  let body := (cs.dropWhile Text.isSpace).takeWhile (!Text.isSpace ·)
  let rest := (cs.dropWhile Text.isSpace).dropWhile (!Text.isSpace ·)
  (lead ++ body ++ rest.takeWhile Text.isSpace, rest.dropWhile Text.isSpace)

theorem firstWord_append (cs : List Char) : (firstWord cs).1 ++ (firstWord cs).2 = cs := by
  simp [firstWord]

theorem firstWord_cons_ne_nil (c : Char) (cs : List Char) : (firstWord (c :: cs)).1 ≠ [] := by
  cases h : Text.isSpace c <;> simp [firstWord, h]

theorem length_firstWord_lt {cs : List Char} (h : (firstWord cs).1 ≠ []) :
    (firstWord cs).2.length < cs.length := by
  have ha := congrArg List.length (firstWord_append cs)
  have hp := List.length_pos_iff.mpr h
  simp only [List.length_append] at ha
  omega

/-- The words of a row, each with the white space behind it, and the first also with the one
before it. -/
def words (cs : List Char) : List (List Char) :=
  if (firstWord cs).1 = [] then [] else (firstWord cs).1 :: words (firstWord cs).2
termination_by cs.length
decreasing_by exact length_firstWord_lt ‹_›

theorem flatten_words (cs : List Char) : (words cs).flatten = cs := by
  fun_induction words cs with
  | case1 cs h =>
    cases cs with
    | nil => rfl
    | cons c cs => exact absurd h (firstWord_cons_ne_nil c cs)
  | case2 cs h ih => rw [List.flatten_cons, ih, firstWord_append]

/-- A word folded into lines of a width; `line` has been filled up to a column. -/
def chop (limit : Nat) (line : List Char) (column : Nat) : List Char → List (List Char)
  | [] => [line]
  | c :: cs =>
    if limit < column + Text.width c then line :: chop limit [c] (Text.width c) cs
    else chop limit (line ++ [c]) (column + Text.width c) cs

/-- The lines of a word that fits none by itself. -/
def folded (limit : Nat) (word : List Char) : List (List Char) :=
  if limit < width (Text.trimEnd Text.isSpace word) then chop limit [] 0 word else [word]

/-- Words put into lines of a width; `line` has been filled up to a column. A word that does not
fit begins a line, and the last of its own lines is filled on. -/
def fill (limit : Nat) (own : List Char → List (List Char)) (line : List Char) (column : Nat) :
    List (List Char) → List (List Char)
  | [] => [line]
  | word :: rest =>
    if column + width (Text.trimEnd Text.isSpace word) ≤ limit then
      fill limit own (line ++ word) (column + width word) rest
    else
      -- an empty line is not kept, be it the first of all or the first of the word
      let begun := if line.isEmpty then (own word).dropWhile List.isEmpty else line :: own word
      let last := begun.getLastD []
      begun.dropLast ++ fill limit own last (width last) rest

/-- A line of more characters than columns without as much of the white space at its end. -/
def withoutExcess (limit : Nat) (line : List Char) : List Char :=
  let blanks := line.length - (Text.trimEnd Text.isSpace line).length
  line.take (line.length - min blanks (line.length - limit))

/-- The lines of a row. -/
def wrap (limit : Nat) (own : List Char → List (List Char)) (row : List Char) : List (List Char) :=
  let lines := if row.all Text.isSpace then [row] else fill limit own [] 0 (words row)
  lines.map (withoutExcess limit)

/-- Characters of which each surely takes one column. -/
def isNarrow (c : Char) : Bool :=
  let n := c.toNat
  0x20 ≤ n && n ≤ 0x6f || n = 0xa0 || n = 0x2ff || 0x370 ≤ n && n ≤ 0x482

/-- The beginning of a line that takes so many columns, found by halving what is left between two
lengths; a wide character that would stick out becomes a blank. -/
def search (columns : Nat) (line : List Char) (low high : Nat) : List Char :=
  let middle := (low + high) / 2
  let start := line.take (middle + 1)
  let taken := width start
  if taken = columns + 1 ∧ start.getLast?.map Text.width = some 2 then start.dropLast ++ [' ']
  else if taken = columns then start
  else if columns < taken then
    -- a line that is wider than so many columns has such a beginning, so that no search ends here
    if middle < high then search columns line low middle else line.take columns
  else if low < middle then search columns line middle high
  else line.take columns
termination_by high - low

def beginning (columns : Nat) (line : List Char) : List Char :=
  if columns = 0 then []
  else if line.all isNarrow then line.take columns
  else search columns line 0 line.length

/-- A line cut to a width. -/
def crop (limit : Nat) (line : List Char) : List Char :=
  if limit < width line then beginning limit line else line

/-- A line cut to a width, with dots for what is lost where there is a column for them. -/
def clip (limit : Nat) (line : List Char) : List Char :=
  if limit = 0 then []
  else if limit < width line then beginning (limit - 1) line ++ ['…']
  else line

/-- The lines that a text is shown in. -/
def lines (columns : Nat) (s : String) : List String :=
  let wrapped := (rows (content s)).flatMap (wrap columns (folded columns))
  ((wrapped.map (crop columns)).flatMap (split endsLine)).map String.ofList

/-- What is shown of a line of a cell, without the blanks around it. -/
def shownCell (limit : Nat) (line : List Char) : String :=
  String.ofList (Text.trim Text.isSpace (clip limit line))

/-- The lines of a cell of a width. No word of it is folded, and a cell without a column has a
single empty line. -/
def cellLines (limit : Nat) (content : List Char) : List String :=
  if limit = 0 then [""]
  else ((rows content).flatMap (wrap limit fun word => [word])).map (shownCell limit)

/-- The widths that the columns of a table ask for. -/
def columnWidths (header : List String) (cells : List (List String)) : List Nat :=
  let widths (row : List String) := row.map fun cell => contentWidth (content cell)
  cells.foldl (fun ws row => List.zipWith max ws (widths row)) (widths header)

/-- The lines of a row of cells, in which a cell with fewer lines is empty at the bottom. -/
def stack (cells : List (List String)) : List (List String) :=
  let height := (cells.map List.length).foldl max 0
  (List.range height).map fun i => cells.map fun cell => cell[i]?.getD ""

structure Table where
  title : String
  rows : List (List String)
  deriving DecidableEq

/-- A table with a header and rows of cells, on a console. -/
def table (console : Console) (title : String) (header : List String)
    (cells : List (List String)) : Table :=
  let limits := console.share (columnWidths header cells)
  let row (texts : List String) := stack (List.zipWith cellLines limits (texts.map content))
  ⟨title, (header :: cells).flatMap row⟩

end RelativeTime.CommandLine.Terminal
