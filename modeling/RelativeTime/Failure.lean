import RelativeTime.Calendar.Basic
import RelativeTime.Clause.Reading

/-!
Failures as callers see them. Each has a text, most have a code, and the kinds form a tree with
the general failure at its root. An error that the library only passes on stands outside of the
tree.
-/
namespace RelativeTime

namespace Failure

inductive Kind
  | general | expression | range | configuration | setting | foreign
  deriving DecidableEq

/-- A kind and what it is a special case of, up to the general one. -/
def Kind.lineage : Kind → List Kind
  | general => [general]
  | expression => [expression, general]
  | range => [range, general]
  | configuration => [configuration, general]
  | setting => [setting, configuration, general]
  | foreign => [foreign]

end Failure

/-- An error of something that the library uses: its text, and whether the value that was handed
over is to blame. -/
structure ForeignError where
  text : String
  isValue : Bool
  deriving DecidableEq

inductive Failure
  | general (message : String) (code : Option String)
  | expression (message : String) (errors : List String)
  | range (spelling reason : String)
  | configuration (message : String) (code : Option String)
  | setting (field value reason : String)
  | foreign (e : ForeignError)
  deriving DecidableEq

namespace Failure

def kind : Failure → Kind
  | general .. => .general
  | expression .. => .expression
  | range .. => .range
  | configuration .. => .configuration
  | setting .. => .setting
  | foreign _ => .foreign

/-- A failure of the library's own. -/
def isOwn (f : Failure) : Bool :=
  f.kind.lineage.contains .general

/-- A failure for which a value is to blame that was handed to something the library uses. -/
def isValue : Failure → Bool
  | foreign e => e.isValue
  | _ => false

/-- The bare text. -/
def text : Failure → String
  | general message _ => message
  | expression message _ => message
  | range spelling reason =>
    "Expression '" ++ spelling ++ "' is out of the supported date range: " ++ reason
  | configuration message _ => message
  | setting field value reason =>
    "Invalid configuration for '" ++ field ++ "': " ++ value ++ ". " ++ reason
  | foreign e => e.text

def code : Failure → Option String
  | general _ code => code
  | expression .. => some "INVALID_TOKEN"
  | range .. => some "DATE_OUT_OF_RANGE"
  | configuration _ code => code
  | setting .. => some "CONFIG_INVALID"
  | foreign _ => none

/-- The text behind its code in brackets. A bad expression shows its text alone. -/
def message (f : Failure) : String :=
  match f with
  | expression message _ => message
  | _ =>
    match f.code with
    | none | some "" => f.text
    | some code => "[" ++ code ++ "] " ++ f.text

/-- A bad expression with a message of its own, which stands in for missing errors. -/
def badExpression (message : String) (errors : List String) : Failure :=
  expression message (if errors.isEmpty then [message] else errors)

/-- A bad expression, reported by its first error. -/
def ofReadErrors (first : ReadError) (others : List ReadError) : Failure :=
  expression first.message ((first :: others).map ReadError.message)

end Failure

end RelativeTime
