import RelativeTime.Code
import RelativeTime.Token.Basic

/-!
Cutting a text into tokens. An operator is a token by itself; otherwise a token is a longest run
of characters of one class, and its kind follows from what it reads. Nothing is skipped: the
runs put together are the text (`flatten_runs`).
-/
namespace RelativeTime.Token

/-- Characters of one class, operators apart, run together into one token. -/
inductive CharClass
  | operator | digit | letter | other
  deriving DecidableEq

def operatorKind? : Char → Option Kind
  | '+' => some .plus
  | '-' => some .minus
  | '/' => some .slash
  | '@' => some .atSign
  | _ => none

/-- Digits and letters are those of ASCII. -/
def classOf (c : Char) : CharClass :=
  if (operatorKind? c).isSome then .operator
  else if c.isDigit then .digit
  else if c.isAlpha then .letter
  else .other

/-- A run of letters is the word for now, one of the codes, or illegal. -/
def wordKind (word : String) : Kind :=
  if word = "now" then .now
  else if (Boundary.ofCode? word).isSome then .modifier
  else .illegal

/-- The kind of a run, which depends on nothing but the run. -/
def kindOf : List Char → Kind
  | [] => .finish
  | c :: cs =>
    match classOf c with
    | .operator => (operatorKind? c).getD .illegal
    | .digit => .number
    | .letter => wordKind (String.ofList (c :: cs))
    | .other => .illegal

def ofRun (run : List Char) : Token :=
  ⟨kindOf run, String.ofList run⟩

/-- The first run of a text and what follows it. -/
def firstRun : List Char → List Char × List Char
  | [] => ([], [])
  | c :: cs =>
    if classOf c = .operator then ([c], cs)
    else (c :: cs.takeWhile (classOf · = classOf c), cs.dropWhile (classOf · = classOf c))

theorem firstRun_append (cs : List Char) : (firstRun cs).1 ++ (firstRun cs).2 = cs := by
  cases cs with
  | nil => rfl
  | cons c cs =>
    simp only [firstRun]
    split
    · rfl
    · simp

theorem firstRun_ne_nil (c : Char) (cs : List Char) : (firstRun (c :: cs)).1 ≠ [] := by
  simp only [firstRun]
  split <;> simp

theorem length_firstRun_lt (c : Char) (cs : List Char) :
    (firstRun (c :: cs)).2.length < (c :: cs).length := by
  have ha := congrArg List.length (firstRun_append (c :: cs))
  have hp := List.length_pos_iff.mpr (firstRun_ne_nil c cs)
  simp only [List.length_append] at ha
  omega

/-- The runs of a text in order. -/
def runs : List Char → List (List Char)
  | [] => []
  | c :: cs => (firstRun (c :: cs)).1 :: runs (firstRun (c :: cs)).2
termination_by cs => cs.length
decreasing_by exact length_firstRun_lt c cs

@[simp] theorem runs_nil : runs [] = [] := by
  rw [runs]

theorem runs_cons (c : Char) (cs : List Char) :
    runs (c :: cs) = (firstRun (c :: cs)).1 :: runs (firstRun (c :: cs)).2 := by
  rw [runs]

theorem flatten_runs (cs : List Char) : (runs cs).flatten = cs := by
  induction h : cs.length using Nat.strongRecOn generalizing cs with
  | ind n ih =>
    cases cs with
    | nil => simp [runs_nil]
    | cons c cs =>
      have hl := length_firstRun_lt c cs
      rw [runs_cons, List.flatten_cons, ih _ (by omega) _ rfl, firstRun_append]

/-- The tokens of a text, the finishing one left out. -/
def ofChars (cs : List Char) : List Token :=
  (runs cs).map ofRun

@[simp] theorem ofChars_nil : ofChars [] = [] := by
  rw [ofChars, runs_nil, List.map_nil]

end RelativeTime.Token

namespace RelativeTime

/-- A text that is read token by token, with what is still unread of it. -/
structure Scanner where
  text : String
  unread : List Char

namespace Scanner

/-- A scanner at the start of a text; no text counts as the empty one. -/
def ofText (text : Option String) : Scanner :=
  ⟨text.getD "", (text.getD "").toList⟩

/-- There was nothing to read in the first place. -/
def isInvalid (s : Scanner) : Bool :=
  s.text.isEmpty

/-- The next token, and the scanner behind it. At the end of the text it is the finishing token,
again and again. -/
def next (s : Scanner) : Token × Scanner :=
  let run := Token.firstRun s.unread
  (Token.ofRun run.1, { s with unread := run.2 })

/-- All tokens still unread, the finishing one last. -/
def rest (s : Scanner) : List Token :=
  Token.ofChars s.unread ++ [Token.finish]

/-- The scanner with everything read. -/
def drained (s : Scanner) : Scanner :=
  { s with unread := [] }

/-- The scanner after a number of tokens. -/
def skip : Nat → Scanner → Scanner
  | 0, s => s
  | n + 1, s => skip n s.next.2

end Scanner

end RelativeTime
