import RelativeTime.Clause.Reading

/-!
What stands at one place in a list of tokens, told from the tokens next to it alone: a node from
a place and the two behind it, an error from a place and the two before it. Amounts and codes are
told here by their digits and by two tables.
-/
namespace RelativeTime.Window

def isSign (t : Token) : Bool :=
  t.kind = .plus || t.kind = .minus

/-- The value of digits in base ten. -/
def decimal (digits : List Char) : Nat :=
  digits.foldl (fun n c => 10 * n + (c.toNat - '0'.toNat)) 0

/-- The amount of a good number: at most 4300 characters, with a value of at least one. -/
def amountOf? (t : Token) : Option Amount :=
  if t.kind = .number ∧ t.literal.length ≤ 4300 then
    if h : 1 ≤ decimal t.literal.toList then some ⟨decimal t.literal.toList, h⟩ else none
  else none

/-- What may be added or subtracted. -/
def unitCodes : List (String × TimeUnit) :=
  [("s", .second), ("m", .minute), ("h", .hour), ("d", .day), ("w", .week), ("M", .month)]

/-- What may be rounded to. -/
def boundaryCodes : List (String × Boundary) :=
  [("s", .unit .second), ("m", .unit .minute), ("h", .unit .hour), ("d", .unit .day),
    ("w", .unit .week), ("bw", .businessWeek), ("M", .unit .month), ("mon", .weekday .monday),
    ("tue", .weekday .tuesday), ("wed", .weekday .wednesday), ("thu", .weekday .thursday),
    ("fri", .weekday .friday), ("sat", .weekday .saturday), ("sun", .weekday .sunday)]

def unitOf? (t : Token) : Option TimeUnit :=
  if t.kind = .modifier then unitCodes.lookup t.literal else none

def boundaryOf? (t : Token) : Option Boundary :=
  if t.kind = .modifier then boundaryCodes.lookup t.literal else none

/-- The shift that a sign opens: its unit is right behind it, or behind a good number. -/
def shiftAt (sign : Sign) (ts : List Token) (i : Nat) : Option Shift :=
  match ts[i + 1]?.bind amountOf? with
  | some n => (ts[i + 2]?.bind unitOf?).map fun u => ⟨sign, n, u⟩
  | none => (ts[i + 1]?.bind unitOf?).map fun u => ⟨sign, .one, u⟩

def snapAt (edge : Edge) (ts : List Token) (i : Nat) : Option Snap :=
  (ts[i + 1]?.bind boundaryOf?).map fun b => ⟨edge, b⟩

/-- The node that opens at a place. -/
def nodeAt (ts : List Token) (i : Nat) : Option Node :=
  ts[i]?.bind fun t =>
    match t.kind with
    | .now => if i = 0 then some (.now t) else none
    | .plus => (shiftAt .plus ts i).map fun s => .shift s (some t)
    | .minus => (shiftAt .minus ts i).map fun s => .shift s (some t)
    | .slash => (snapAt .start ts i).map fun s => .snap s (some t)
    | .atSign => (snapAt .finish ts i).map fun s => .snap s (some t)
    | _ => none

/-- Whether a place lies right behind a sign. -/
def behindSign (ts : List Token) (i : Nat) : Bool :=
  0 < i && ts[i - 1]?.any isSign

/-- Whether a place lies right behind a good number that itself lies right behind a sign. -/
def behindAmount (ts : List Token) (i : Nat) : Bool :=
  1 < i && (ts[i - 1]?.bind amountOf?).isSome && behindSign ts (i - 1)

/-- Whether the token at a place is an error. -/
def isErrorAt (ts : List Token) (i : Nat) : Bool :=
  ts[i]?.any fun t =>
    match t.kind with
    | .illegal => true
    | .now => 0 < i
    | .number => (amountOf? t).isNone && behindSign ts i
    | .modifier => (unitOf? t).isNone && (behindSign ts i || behindAmount ts i)
    | _ => false

def errorAt (ts : List Token) (i : Nat) : Option ReadError :=
  if isErrorAt ts i then ts[i]?.map fun t => .illegal t.literal else none

/-- Every place looked at by itself. -/
def reading (ts : List Token) : Reading :=
  ⟨(List.range ts.length).filterMap (nodeAt ts), (List.range ts.length).filterMap (errorAt ts)⟩

end RelativeTime.Window
