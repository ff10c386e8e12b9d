import RelativeTime.Clause.Record
import RelativeTime.Evaluation
import RelativeTime.Failure

/-!
An expression is a list of nodes, perhaps with a reference of its own. It is read from a text
only if the whole text reads without an error.
-/
namespace RelativeTime

structure Expression where
  nodes : List Node
  reference : Option Stamp
  deriving DecidableEq

namespace Expression

def ofText (text : Option String) (reference : Option Stamp) : Except Failure Expression :=
  let r := Reading.ofText text
  match r.errors with
  | [] => .ok ⟨r.nodes, reference⟩
  | e :: es => .error (Failure.ofReadErrors e es)

/-- An expression from structured data. -/
def ofData (items : Data) (reference : Option Stamp) : Except ItemsError Expression :=
  (Node.listOfData items).map fun nodes => ⟨nodes, reference⟩

/-- The written form of the nodes. -/
def toData (x : Expression) : Data :=
  .list (x.nodes.map Node.toData)

def clauses (x : Expression) : List Clause :=
  x.nodes.map Node.clause

def text (x : Expression) : String :=
  String.join (x.nodes.map Node.text)

/-- Why an expression has no text: an amount in it is too long to be written. -/
structure Unwritable where
  maxDigits : Nat
  deriving DecidableEq

def Unwritable.message (e : Unwritable) : String :=
  "Exceeds the limit (" ++ toString e.maxDigits ++ " digits) for integer string conversion; " ++
    "use sys.set_int_max_str_digits() to increase the limit"

/-- The text, if all amounts can be written. -/
def written (x : Expression) : Except Unwritable String :=
  if x.clauses.all Clause.isWritable then .ok x.text else .error ⟨Amount.maxDigits⟩

def isSnapped (x : Expression) : Bool :=
  x.clauses.any Clause.isSnap

def isModified (x : Expression) : Bool :=
  x.clauses.any Clause.isShift

/-- How a range fault is told: under the text of the expression, which may have none. -/
def failureOf (x : Expression) (f : RangeFault) : Failure :=
  match x.written with
  | .ok text => .range text f.message
  | .error e => .foreign ⟨e.message, true⟩

/-- The value at a reference, in a calendar. -/
def evaluate (x : Expression) (c : Calendar) (reference : Stamp) : Except Failure Stamp :=
  (Clause.evaluate c reference x.clauses).mapError x.failureOf

/-- The refusal to change a field of an expression. -/
def frozenMessage (field : String) : String :=
  "cannot assign to field '" ++ field ++ "'"

/-- The expression of the first so many nodes. -/
def take (x : Expression) (n : Nat) : Expression :=
  { x with nodes := x.nodes.take n }

theorem ofText_eq_ok {text : Option String} {ref : Option Stamp} {x : Expression} :
    ofText text ref = .ok x ↔
      (Reading.ofText text).errors = [] ∧ x = ⟨(Reading.ofText text).nodes, ref⟩ := by
  unfold ofText
  simp only []
  cases h : (Reading.ofText text).errors <;> simp [eq_comm]

section Values

variable {x y : Expression} {c : Calendar} {r v : Stamp} {f : Failure} {fault : RangeFault}

theorem written_eq_ok (h : ∀ k ∈ x.clauses, k.isWritable = true) : x.written = .ok x.text :=
  if_pos (List.all_eq_true.mpr h)

theorem written_eq_error (h : ∃ k ∈ x.clauses, k.isWritable = false) :
    x.written = .error ⟨Amount.maxDigits⟩ :=
  if_neg (by simpa using h)

theorem written_cases (x : Expression) :
    (∀ k ∈ x.clauses, k.isWritable = true) ∧ x.written = .ok x.text ∨
      (∃ k ∈ x.clauses, k.isWritable = false) ∧ x.written = .error ⟨Amount.maxDigits⟩ := by
  by_cases h : ∀ k ∈ x.clauses, k.isWritable = true
  · exact Or.inl ⟨h, written_eq_ok h⟩
  · have hlong : ∃ k ∈ x.clauses, k.isWritable = false := by simpa using h
    exact Or.inr ⟨hlong, written_eq_error hlong⟩

theorem isWritable_of_written (h : x.written = .ok x.text) :
    ∀ k ∈ x.clauses, k.isWritable = true := by
  rcases written_cases x with ⟨hall, -⟩ | ⟨-, he⟩
  · exact hall
  · exact absurd (he.symm.trans h) nofun

theorem failureOf_of_written {text : String} (h : x.written = .ok text) :
    x.failureOf fault = .range text fault.message := by
  rw [failureOf, h]

theorem failureOf_of_unwritable {e : Unwritable} (h : x.written = .error e) :
    x.failureOf fault = .foreign ⟨e.message, true⟩ := by
  rw [failureOf, h]

theorem failureOf_congr (h : y.written = x.written) : y.failureOf = x.failureOf := by
  funext fault
  rw [failureOf, failureOf, h]

/-- The value depends on the clauses, and its failures on the text as well. -/
theorem evaluate_congr (hc : y.clauses = x.clauses) (ht : y.text = x.text) :
    y.evaluate c r = x.evaluate c r := by
  have hw : y.written = x.written := by rw [written, written, hc, ht]
  rw [evaluate, evaluate, hc, failureOf_congr hw]

theorem evaluate_eq_ok : x.evaluate c r = .ok v ↔ Clause.evaluate c r x.clauses = .ok v := by
  unfold evaluate
  cases Clause.evaluate c r x.clauses with
  | error fault => exact iff_of_false nofun nofun
  | ok s =>
    show (Except.ok s : Except Failure Stamp) = .ok v ↔ _
    simp

theorem evaluate_eq_error :
    x.evaluate c r = .error f ↔
      ∃ fault, Clause.evaluate c r x.clauses = .error fault ∧ f = x.failureOf fault := by
  unfold evaluate
  cases Clause.evaluate c r x.clauses with
  | error fault =>
    show Except.error (x.failureOf fault) = .error f ↔ _
    simp [eq_comm]
  | ok s => exact iff_of_false nofun fun ⟨_, h, _⟩ => absurd h nofun

theorem evaluate_eq_range (h : x.written = .ok x.text) {reason : String} :
    x.evaluate c r = .error (.range x.text reason) ↔
      ∃ fault, Clause.evaluate c r x.clauses = .error fault ∧ reason = fault.message := by
  simp only [evaluate_eq_error, failureOf_of_written h, Failure.range.injEq, true_and]

end Values

end Expression

end RelativeTime
