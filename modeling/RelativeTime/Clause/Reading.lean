import RelativeTime.Clause.Basic
import RelativeTime.Token.Scanner

/-!
Reading clauses from tokens. Each operator opens a clause; a clause that breaks off is left
behind and reading goes on behind it, so one pass finds every node and every error. Numbers and
codes outside a clause are passed over in silence.
-/
namespace RelativeTime

/-- Why a text is no expression: it is empty, or a token stands where it cannot. -/
inductive ReadError
  | invalid
  | illegal (literal : String)
  deriving DecidableEq

def ReadError.message : ReadError → String
  | invalid => "Invalid token"
  | illegal literal => "Illegal operator: \"" ++ literal ++ "\""

/-- What is read at one place: a node or an error. -/
inductive Finding
  | node (n : Node)
  | error (e : ReadError)
  deriving DecidableEq

namespace Finding

def node? : Finding → Option Node
  | node n => some n
  | error _ => none

def error? : Finding → Option ReadError
  | node _ => none
  | error e => some e

/-- The amount that a number stands for, if it is short enough and at least one. -/
def amount? (literal : String) : Option Amount :=
  if literal.length ≤ Amount.maxDigits then Amount.ofNat? (Nat.ofDigitChars 10 literal.toList 0)
  else none

/-- The end of a shift, from its unit on. -/
def unitStep (sign : Sign) (opener : Token) (amount : Amount) :
    List Token → Option Finding × List Token
  | ⟨.modifier, code⟩ :: rest =>
    match TimeUnit.ofCode? code with
    | some u => (some (node (.shift ⟨sign, amount, u⟩ (some opener))), rest)
    | none => (some (error (.illegal code)), rest)
  | ts => (none, ts)

/-- What follows a number that is no amount: a code right behind it belongs to it. -/
def skipModifier : List Token → List Token
  | ⟨.modifier, _⟩ :: rest => rest
  | ts => ts

/-- The rest of a shift behind its sign: an amount, one if left out, and a unit. -/
def shiftStep (sign : Sign) (opener : Token) : List Token → Option Finding × List Token
  | ⟨.number, literal⟩ :: rest =>
    match amount? literal with
    | some n => unitStep sign opener n rest
    | none => (some (error (.illegal literal)), skipModifier rest)
  | ts => unitStep sign opener .one ts

/-- The rest of a snap behind its operator. -/
def snapStep (edge : Edge) (opener : Token) : List Token → Option Finding × List Token
  | ⟨.modifier, code⟩ :: rest =>
    match Boundary.ofCode? code with
    | some b => (some (node (.snap ⟨edge, b⟩ (some opener))), rest)
    | none => (some (error (.illegal code)), rest)
  | ts => (none, ts)

/-- What a token opens, and the tokens behind that. -/
def step (t : Token) (ts : List Token) : Option Finding × List Token :=
  match t.kind with
  | .plus => shiftStep .plus t ts
  | .minus => shiftStep .minus t ts
  | .slash => snapStep .start t ts
  | .atSign => snapStep .finish t ts
  | .number | .modifier | .finish => (none, ts)
  | .now | .illegal => (some (error (.illegal t.literal)), ts)

theorem unitStep_of_kind {sign : Sign} {t : Token} {n : Amount} {ts : List Token}
    (h : ∀ u ∈ ts.head?, u.kind ≠ .modifier) : unitStep sign t n ts = (none, ts) := by
  unfold unitStep
  split
  · exact absurd rfl (h _ rfl)
  · rfl

theorem skipModifier_of_kind {ts : List Token} (h : ∀ u ∈ ts.head?, u.kind ≠ .modifier) :
    skipModifier ts = ts := by
  unfold skipModifier
  split
  · exact absurd rfl (h _ rfl)
  · rfl

theorem shiftStep_of_kind {sign : Sign} {t : Token} {ts : List Token}
    (h : ∀ u ∈ ts.head?, u.kind ≠ .number) : shiftStep sign t ts = unitStep sign t .one ts := by
  unfold shiftStep
  split
  · exact absurd rfl (h _ rfl)
  · rfl

theorem snapStep_of_kind {edge : Edge} {t : Token} {ts : List Token}
    (h : ∀ u ∈ ts.head?, u.kind ≠ .modifier) : snapStep edge t ts = (none, ts) := by
  unfold snapStep
  split
  · exact absurd rfl (h _ rfl)
  · rfl

theorem length_unitStep_le (sign : Sign) (t : Token) (n : Amount) (ts : List Token) :
    (unitStep sign t n ts).2.length ≤ ts.length := by
  unfold unitStep
  split
  · split <;> simp
  · simp

theorem length_skipModifier_le (ts : List Token) : (skipModifier ts).length ≤ ts.length := by
  unfold skipModifier
  split <;> simp

theorem length_shiftStep_le (sign : Sign) (t : Token) (ts : List Token) :
    (shiftStep sign t ts).2.length ≤ ts.length := by
  unfold shiftStep
  split
  · rename_i rest
    split
    · exact Nat.le_succ_of_le (length_unitStep_le sign t _ rest)
    · exact Nat.le_succ_of_le (length_skipModifier_le rest)
  · exact length_unitStep_le sign t _ _

theorem length_snapStep_le (edge : Edge) (t : Token) (ts : List Token) :
    (snapStep edge t ts).2.length ≤ ts.length := by
  unfold snapStep
  split
  · split <;> simp
  · simp

theorem length_step_le (t : Token) (ts : List Token) : (step t ts).2.length ≤ ts.length := by
  unfold step
  split
  · exact length_shiftStep_le .plus t ts
  · exact length_shiftStep_le .minus t ts
  · exact length_snapStep_le .start t ts
  · exact length_snapStep_le .finish t ts
  all_goals exact Nat.le_refl _

/-- Everything read from a list of tokens, in order. -/
def ofTokens : List Token → List Finding
  | [] => []
  | t :: ts => (step t ts).1.toList ++ ofTokens (step t ts).2
termination_by ts => ts.length
decreasing_by exact Nat.lt_succ_of_le (length_step_le t ts)

end Finding

/-- The nodes and the errors of a text, each in the order they were met. -/
structure Reading where
  nodes : List Node
  errors : List ReadError
  deriving DecidableEq

namespace Reading

def ofFindings (fs : List Finding) : Reading :=
  ⟨fs.filterMap Finding.node?, fs.filterMap Finding.error?⟩

theorem ofFindings_append (fs gs : List Finding) :
    ofFindings (fs ++ gs) =
      ⟨(ofFindings fs).nodes ++ (ofFindings gs).nodes,
        (ofFindings fs).errors ++ (ofFindings gs).errors⟩ := by
  simp only [ofFindings, List.filterMap_append]

theorem ofFindings_toList (f : Option Finding) :
    ofFindings f.toList = ⟨(f.bind Finding.node?).toList, (f.bind Finding.error?).toList⟩ := by
  cases f with
  | none => rfl
  | some f => cases f <;> rfl

/-- Only the first token may be the word for now. -/
def findings : List Token → List Finding
  | ⟨.now, literal⟩ :: ts => .node (.now ⟨.now, literal⟩) :: Finding.ofTokens ts
  | ts => Finding.ofTokens ts

theorem findings_of_kind {ts : List Token} (h : ∀ t ∈ ts.head?, t.kind ≠ .now) :
    findings ts = Finding.ofTokens ts := by
  unfold findings
  split
  · exact absurd rfl (h _ rfl)
  · rfl

def ofTokens (ts : List Token) : Reading :=
  ofFindings (findings ts)

/-- What a scanner has still to read. An empty text is itself the error. -/
def ofScanner (s : Scanner) : Reading :=
  if s.isInvalid then ⟨[], [.invalid]⟩ else ofTokens (Token.ofChars s.unread)

def ofText (text : Option String) : Reading :=
  ofScanner (Scanner.ofText text)

theorem ofText_of_ne_empty {text : String} (h : text ≠ "") :
    ofText (some text) = ofTokens (Token.ofChars text.toList) := by
  have hne : text.isEmpty = false := by simpa using h
  simp [ofText, ofScanner, Scanner.ofText, Scanner.isInvalid, hne]

end Reading

/-- What a session answers: a list that is handed out, a token, or that lists have been cleared. -/
inductive ReadingAnswer
  | nodes (ns : List Node)
  | errors (es : List ReadError)
  | token (t : Token)
  | cleared
  deriving DecidableEq

namespace ReadingAnswer

/-- A list that was handed out, when it has been cleared. -/
def emptied : ReadingAnswer → ReadingAnswer
  | nodes _ => nodes []
  | errors _ => errors []
  | a => a

@[simp] theorem emptied_emptied (a : ReadingAnswer) : a.emptied.emptied = a.emptied := by
  cases a <;> rfl

end ReadingAnswer

/-- A scanner shared with a reader that reads at most once, and the lists that were handed out.
These are copies of what the reader keeps. -/
structure ReadingSession where
  scanner : Scanner
  reading : Option Reading
  handed : List ReadingAnswer

namespace ReadingSession

def start (s : Scanner) : ReadingSession :=
  ⟨s, none, []⟩

/-- The nodes, read now if they have not been before. -/
def nodes (s : ReadingSession) : List Node × ReadingSession :=
  match s.reading with
  | some r => (r.nodes, s)
  | none =>
    let r := Reading.ofScanner s.scanner
    (r.nodes, { s with scanner := s.scanner.drained, reading := some r })

/-- The errors met so far. -/
def errors (s : ReadingSession) : List ReadError :=
  match s.reading with
  | some r => r.errors
  | none => []

/-- A token taken from the scanner past the reader. -/
def next (s : ReadingSession) : Token × ReadingSession :=
  (s.scanner.next.1, { s with scanner := s.scanner.next.2 })

/-- An answer that is a list, in the hands of whoever asked. -/
def handOut (s : ReadingSession) (list : ReadingAnswer) : ReadingAnswer × ReadingSession :=
  (list, { s with handed := s.handed ++ [list] })

/-- What may be asked of a session. Clearing empties all lists that were handed out. -/
inductive Step
  | nodes | errors | next | clear
  deriving DecidableEq

def step (s : ReadingSession) : Step → ReadingAnswer × ReadingSession
  | .nodes => s.nodes.2.handOut (.nodes s.nodes.1)
  | .errors => s.handOut (.errors s.errors)
  | .next => (.token s.next.1, s.next.2)
  | .clear => (.cleared, { s with handed := s.handed.map ReadingAnswer.emptied })

/-- The answers to a list of steps, and the session after them. -/
def run (s : ReadingSession) : List Step → List ReadingAnswer × ReadingSession
  | [] => ([], s)
  | x :: xs =>
    let (answer, s) := s.step x
    let (answers, s) := s.run xs
    (answer :: answers, s)

end ReadingSession

end RelativeTime
