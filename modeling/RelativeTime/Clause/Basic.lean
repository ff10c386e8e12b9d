import RelativeTime.Token.Basic

/-!
Clauses of an expression: the reference itself, a shift by a number of units, or a snap to a
boundary. A node is a clause with the token it opened with. Both print to the one spelling of
the clause, in which the amount of a shift is always written.
-/
namespace RelativeTime

inductive Sign
  | plus | minus
  deriving DecidableEq

/-- The end of a boundary that a snap goes to. -/
inductive Edge
  | start | finish
  deriving DecidableEq

/-- A number of units, at least one. -/
structure Amount where
  count : Nat
  count_pos : 0 < count
  deriving DecidableEq

/-- Add or subtract a number of units. -/
structure Shift where
  sign : Sign
  amount : Amount
  unit : TimeUnit
  deriving DecidableEq

/-- Round down to the start of a boundary, or up to its end. -/
structure Snap where
  edge : Edge
  boundary : Boundary
  deriving DecidableEq

inductive Clause
  | now
  | shift (s : Shift)
  | snap (s : Snap)
  deriving DecidableEq

inductive Node
  | now (opener : Token)
  | shift (s : Shift) (opener : Option Token)
  | snap (s : Snap) (opener : Option Token)
  deriving DecidableEq

namespace Sign

def symbol : Sign → String
  | plus => "+"
  | minus => "-"

def ofSymbol? : String → Option Sign :=
  byKey? symbol [plus, minus]

/-- A number of units with the sign applied. -/
def apply : Sign → Nat → Int
  | plus, n => n
  | minus, n => -n

end Sign

namespace Amount

/-- The most digits that an amount is read or written with. -/
def maxDigits : Nat := 4300

def one : Amount := ⟨1, by decide⟩

def ofNat? (n : Nat) : Option Amount :=
  if h : 0 < n then some ⟨n, h⟩ else none

end Amount

namespace Edge

def symbol : Edge → String
  | start => "/"
  | finish => "@"

def ofSymbol? : String → Option Edge :=
  byKey? symbol [start, finish]

end Edge

namespace Clause

def text : Clause → String
  | now => "now"
  | shift s => s.sign.symbol ++ toString s.amount.count ++ s.unit.code
  | snap s => s.edge.symbol ++ s.boundary.code

/-- Whether the amount is short enough to be written. -/
def isWritable : Clause → Bool
  | shift s => s.amount.count < Nat.pow 10 Amount.maxDigits
  | _ => true

def isSnap : Clause → Bool
  | snap _ => true
  | _ => false

def isShift : Clause → Bool
  | shift _ => true
  | _ => false

end Clause

namespace Node

def clause : Node → Clause
  | now _ => .now
  | shift s _ => .shift s
  | snap s _ => .snap s

def opener? : Node → Option Token
  | now t => some t
  | shift _ t => t
  | snap _ t => t

/-- A node prints as its clause does, but a now node repeats the word it opened with. -/
def text : Node → String
  | now t => t.literal
  | shift s _ => (Clause.shift s).text
  | snap s _ => (Clause.snap s).text

/-- The name of the kind of clause. -/
def kindName (n : Node) : String :=
  match n.clause with
  | .now => "now"
  | .shift _ => "amount"
  | .snap _ => "snap"

end Node

end RelativeTime
