import RelativeTime.Code
import RelativeTime.Text.Quoted

/-!
Tokens: a kind and the text it was read from. A text is a string of Unicode scalar values; half of a
surrogate pair, which a command line can hand on, has no place in one and is left out.
-/
namespace RelativeTime

/-- What a token is; `finish` stands after the last one. -/
inductive Token.Kind
  | now | plus | minus | slash | atSign | number | modifier | illegal | finish
  deriving DecidableEq

structure Token where
  kind : Token.Kind
  literal : String
  deriving DecidableEq

namespace Token

namespace Kind

def all : List Kind :=
  [now, plus, minus, slash, atSign, number, modifier, illegal, finish]

/-- The kinds that open a clause. -/
def operators : List Kind := [plus, minus, slash, atSign]

/-- The name of the kind in capitals. -/
def name : Kind → String
  | now => "NOW"
  | plus => "PLUS"
  | minus => "MINUS"
  | slash => "SLASH"
  | atSign => "AT"
  | number => "NUMBER"
  | modifier => "MODIFIER"
  | illegal => "ILLEGAL"
  | finish => "END"

/-- How structured data writes the kind: an operator as itself, the others by name. -/
def value : Kind → String
  | plus => "+"
  | minus => "-"
  | slash => "/"
  | atSign => "@"
  | k => k.name

def ofName? : String → Option Kind :=
  byKey? name all

def ofValue? : String → Option Kind :=
  byKey? value all

end Kind

/-- The token after the last one. -/
def finish : Token := ⟨.finish, ""⟩

/-- The token that a now clause opens with unless told otherwise. -/
def now : Token := ⟨.now, "now"⟩

/-- The kind with the quoted literal. -/
def describe (t : Token) : String :=
  t.kind.name ++ "(" ++ Text.quoted t.literal ++ ")"

end Token

end RelativeTime
