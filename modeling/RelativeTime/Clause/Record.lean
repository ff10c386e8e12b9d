import RelativeTime.Clause.Basic
import RelativeTime.Data.Basic
import RelativeTime.Text.Blank

/-!
Nodes as structured data. A node has one written form, but is read leniently: an amount may be a
truth value, a number without a fraction or a text, and fields that mean nothing are ignored.
Reading finds everything that is wrong, each issue with the place it was found at.
-/
namespace RelativeTime

/-- A step on the way to the place of an issue. -/
inductive Place
  | index (n : Nat)
  | field (name : String)
  deriving DecidableEq

/-- What can be wrong with a value. -/
inductive Defect
  | noRecord
  | noTag
  | unknownTag (shown : String)
  | otherKind (expected : String)
  | missing
  | infinite
  | fractional
  | unreadableNumber
  | longNumber
  | noNumber
  | belowOne
  | noText
  | code (allowed : CodeSet)
  | sign
  | edge
  | tokenKind
  | noToken
  | frozen

/-- A list of quoted words in a sentence. -/
def Defect.alternatives (words : List String) : String :=
  let quotes := words.map fun w => "'" ++ w ++ "'"
  match quotes.getLast? with
  | none => ""
  | some last =>
    if quotes.length = 1 then last
    else String.intercalate ", " quotes.dropLast ++ " or " ++ last

def Defect.message : Defect → String
  | noRecord => "Input should be a valid dictionary or object to extract fields from"
  | noTag => "Unable to extract tag using discriminator 'type'"
  | unknownTag shown =>
    "Input tag '" ++ shown ++
      "' found using 'type' does not match any of the expected tags: 'now', 'amount', 'snap'"
  | otherKind expected => "Input should be '" ++ expected ++ "'"
  | missing => "Field required"
  | infinite => "Input should be a finite number"
  | fractional => "Input should be a valid integer, got a number with a fractional part"
  | unreadableNumber => "Input should be a valid integer, unable to parse string as an integer"
  | longNumber => "Unable to parse input string as an integer, exceeded maximum size"
  | noNumber => "Input should be a valid integer"
  | belowOne => "Input should be greater than or equal to 1"
  | noText => "Input should be a valid string"
  | code allowed => "Value error, modifier must be one of " ++ allowed.listing
  | sign => "Input should be " ++ alternatives [Sign.plus.symbol, Sign.minus.symbol]
  | edge => "Input should be " ++ alternatives [Edge.start.symbol, Edge.finish.symbol]
  | tokenKind => "Input should be " ++ alternatives (Token.Kind.all.map Token.Kind.value)
  | noToken => "Input should be a dictionary or an instance of Token"
  | frozen => "Instance is frozen"

structure Issue where
  place : List Place
  defect : Defect

/-- A value, or everything that keeps it from being one. -/
abbrev Checked (α : Type) := Except (List Issue) α

namespace Checked

def fail (d : Defect) : Checked α := .error [⟨[], d⟩]

/-- The issues of a part, seen from the whole. -/
def within (p : Place) (c : Checked α) : Checked α :=
  c.mapError fun issues => issues.map fun i => { i with place := p :: i.place }

/-- Two values together, with the issues of both. -/
def both : Checked α → Checked β → Checked (α × β)
  | .ok a, .ok b => .ok (a, b)
  | .ok _, .error es => .error es
  | .error es, .ok _ => .error es
  | .error es, .error fs => .error (es ++ fs)

/-- All values together, with the issues of all. -/
def all : List (Checked α) → Checked (List α)
  | [] => .ok []
  | c :: cs => (both c (all cs)).map fun (a, as) => a :: as

end Checked

namespace Node

/-- The written form of a node. The token it opened with is not written. -/
def toData (n : Node) : Data :=
  match n.clause with
  | .now => .record [("type", .text "now")]
  | .shift s => .record [("type", .text "amount"), ("amount", .integer s.amount.count),
      ("modifier", .text s.unit.code), ("operator", .text s.sign.symbol)]
  | .snap s => .record [("type", .text "snap"), ("modifier", .text s.boundary.code),
      ("operator", .text s.edge.symbol)]

/-- Digits from the first one that counts on. Underscores among leading zeros go with them, and the
last zero stays where no other digit follows. -/
def withoutZeros : List Char → Option (List Char)
  | '0' :: cs =>
    let skipped := cs.takeWhile fun c => c = '0' || c = '_'
    let last := skipped.getLast?.getD '0'
    match cs.drop skipped.length with
    | [] => some [last]
    | c :: rest =>
      if c.isDigit then some (c :: rest)
      else if c = '.' then some (last :: c :: rest)
      else none
  | c :: cs => if c.isDigit then some (c :: cs) else none
  | [] => none

/-- A number without a fraction of zeros. -/
def withoutFraction (cs : List Char) : List Char :=
  let whole := cs.takeWhile (· ≠ '.')
  let fraction := cs.drop (whole.length + 1)
  if !fraction.isEmpty && fraction.all (· = '0') then whole else cs

/-- A number without the underscores that group its digits: none at an end, and no two together. -/
def ungrouped (cs : List Char) : List Char :=
  let apart := (cs.zip cs.tail).all fun (c, d) => c ≠ '_' || d ≠ '_'
  if cs.head? ≠ some '_' ∧ cs.getLast? ≠ some '_' ∧ apart then cs.filter (· ≠ '_') else cs

/-- A whole number from its sign and what follows it. A minus sign counts as a digit when the
length is limited. -/
def readInteger (negative : Bool) (cs : List Char) : Checked Int :=
  match withoutZeros cs with
  | none => Checked.fail .unreadableNumber
  | some cs =>
    let cs := ungrouped (withoutFraction cs)
    let digits := cs.takeWhile Char.isDigit
    if Amount.maxDigits < digits.length + negative.toNat then Checked.fail .longNumber
    else if digits.length = cs.length then
      let n : Int := Nat.ofDigitChars 10 digits 0
      .ok (if negative then -n else n)
    else Checked.fail .unreadableNumber

/-- From here on a number written with a point or an exponent is too large. -/
def floatLimit : Nat := 9223372036854775808

/-- A value taken for a whole number. -/
def checkInteger : Data → Checked Int
  | .integer n => .ok n
  | .bool b => .ok b.toNat
  | .float x =>
    match Data.Binary.ofFloat? x with
    | none => Checked.fail .infinite
    | some b =>
      match b.whole? with
      | none => Checked.fail .fractional
      | some n => if n.natAbs < floatLimit then .ok n else Checked.fail .longNumber
  | .text s =>
    match Text.trim Text.isBlank s.toList with
    | '+' :: cs => readInteger false cs
    | '-' :: cs => readInteger true cs
    | cs => readInteger false cs
  | _ => Checked.fail .noNumber

def checkAmount (d : Data) : Checked Amount := do
  let n ← checkInteger d
  match Amount.ofNat? n.toNat with
  | some a => return a
  | none => Checked.fail .belowOne

def checkText : Data → Checked String
  | .text s => .ok s
  | _ => Checked.fail .noText

/-- A text that is one of some codes. -/
def checkCode (allowed : CodeSet) (ofCode? : String → Option α) (d : Data) : Checked α := do
  let s ← checkText d
  match ofCode? s with
  | some a => return a
  | none => Checked.fail (.code allowed)

/-- A text that is one of a few symbols; anything else is the same defect. -/
def checkSymbol (defect : Defect) (ofSymbol? : String → Option α) (d : Data) : Checked α :=
  match d with
  | .text s =>
    match ofSymbol? s with
    | some a => .ok a
    | none => Checked.fail defect
  | _ => Checked.fail defect

/-- A field checked in its place; a field that is not there is a defect unless it has a
default. -/
def checkField (fields : List (String × Data)) (name : String) (check : Data → Checked α)
    (default : Option α) : Checked α :=
  Checked.within (.field name) <|
    match Data.field? fields name with
    | some d => check d
    | none =>
      match default with
      | some a => .ok a
      | none => Checked.fail .missing

def checkToken : Data → Checked Token
  | .record fields =>
    (Checked.both
      (checkField fields "type" (checkSymbol .tokenKind Token.Kind.ofValue?) none)
      (checkField fields "literal" checkText none)).map fun (kind, literal) => ⟨kind, literal⟩
  | _ => Checked.fail .noToken

/-- A token that may be left out by writing null. -/
def checkOptionalToken : Data → Checked (Option Token)
  | .null => .ok none
  | d => (checkToken d).map some

inductive Form
  | now | shift | snap
  deriving DecidableEq

def Form.name : Form → String
  | now => "now"
  | shift => "amount"
  | snap => "snap"

def Form.ofName? : String → Option Form :=
  byKey? name [now, shift, snap]

/-- A node of a known form from its fields. -/
def ofFields (form : Form) (fields : List (String × Data)) : Checked Node :=
  match form with
  | .now => (checkField fields "token" checkToken (some Token.now)).map now
  | .shift =>
    (Checked.both (checkField fields "amount" checkAmount (some Amount.one))
      (Checked.both
        (checkField fields "modifier" (checkCode CodeSet.units TimeUnit.ofCode?) none)
        (Checked.both (checkField fields "operator" (checkSymbol .sign Sign.ofSymbol?) none)
          (checkField fields "token" checkOptionalToken (some none))))).map
      fun (amount, unit, sign, token) => shift ⟨sign, amount, unit⟩ token
  | .snap =>
    (Checked.both
      (checkField fields "modifier" (checkCode CodeSet.boundaries Boundary.ofCode?) none)
      (Checked.both (checkField fields "operator" (checkSymbol .edge Edge.ofSymbol?) none)
        (checkField fields "token" checkOptionalToken (some none)))).map
      fun (boundary, edge, token) => snap ⟨edge, boundary⟩ token

/-- A node of a given form, whose own name for its form has to agree if there is one. -/
def build (form : Form) (fields : List (String × Data)) : Checked Node :=
  let check : Data → Checked Unit
    | .text s => if s = form.name then .ok () else Checked.fail (.otherKind form.name)
    | _ => Checked.fail (.otherKind form.name)
  (Checked.both (checkField fields "type" check (some ())) (ofFields form fields)).map (·.2)

/-- A node from data that names its form. -/
def ofData : Data → Checked Node
  | .record fields =>
    match Data.field? fields "type" with
    | none => Checked.fail .noTag
    | some tag =>
      let form? := match tag with
        | .text s => Form.ofName? s
        | _ => none
      match form? with
      | some form => Checked.within (.field form.name) (ofFields form fields)
      | none => Checked.fail (.unknownTag tag.shown)
  | _ => Checked.fail .noRecord

/-- Nodes from a list of data, each issue under the index of its item. -/
def ofItems (items : List Data) : Checked (List Node) :=
  Checked.all (items.zipIdx.map fun (d, i) => Checked.within (.index i) (ofData d))

end Node

/-- Why data is no list of nodes. -/
inductive ItemsError
  | notIterable (kind : String)
  | issues (found : List Issue)

namespace ItemsError

def message : ItemsError → String
  | notIterable kind => "'" ++ kind ++ "' object is not iterable"
  | issues _ => "validation"

end ItemsError

/-- What data consists of: the items of a list, the characters of a text, the names of a
record. -/
def Data.items : Data → Except ItemsError (List Data)
  | .list items => .ok items
  | .text s => .ok (s.toList.map fun c => .text (String.singleton c))
  | .record fields => .ok (fields.map fun f => .text f.1)
  | .null => .error (.notIterable "NoneType")
  | .bool _ => .error (.notIterable "bool")
  | .integer _ => .error (.notIterable "int")
  | .float _ => .error (.notIterable "float")

/-- Nodes from any data. -/
def Node.listOfData (d : Data) : Except ItemsError (List Node) := do
  let items ← d.items
  (Node.ofItems items).mapError .issues

end RelativeTime
