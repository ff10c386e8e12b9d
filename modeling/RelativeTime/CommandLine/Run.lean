import RelativeTime.CommandLine.Arguments
import RelativeTime.CommandLine.Terminal
import RelativeTime.Data.Printer
import RelativeTime.Iso.Printer
import RelativeTime.Settings.Store

/-!
The commands: resolve an expression, show its nodes and errors, show its tokens, or tell the
version. A run ends in a report, in a complaint about its usage, or in a failure that no command
catches. A result and the version are told in one line however long it is; tables and errors are put
into the columns of the console.
-/
namespace RelativeTime.CommandLine

/-- What a command shows: tables, then lines. -/
structure Report where
  status : Nat
  tables : List Terminal.Table
  lines : List String
  deriving DecidableEq

inductive Outcome
  | report (r : Report)
  | help
  | usage
  | escaped (f : Failure)
  deriving DecidableEq

def Outcome.status : Outcome → Nat
  | report r => r.status
  | help => 0
  | usage => 2
  | escaped _ => 1

inductive Command
  | resolve | parse | tokens | version
  deriving DecidableEq

/-- What a resolve command was asked. -/
structure ResolveRequest where
  expression : String
  reference : Option String
  asJson : Bool
  toSecond : Bool
  deriving DecidableEq

namespace Command

def name : Command → String
  | resolve => "resolve"
  | parse => "parse"
  | tokens => "tokens"
  | version => "version"

def ofName? : String → Option Command :=
  byKey? name [resolve, parse, tokens, version]

def helpOption : OptionSpec := ⟨"help", none, false⟩

def options : Command → List OptionSpec
  | resolve =>
    [⟨"at", some 'a', true⟩, ⟨"json", some 'j', false⟩, ⟨"seconds", some 's', false⟩, helpOption]
  | _ => [helpOption]

end Command

/-- The options that stand before a command. -/
def leadingOptions : List OptionSpec :=
  [⟨"verbose", some 'v', false⟩, Command.helpOption]

def errorLines (columns : Nat) (text : String) : List String :=
  Terminal.lines columns ("Error: " ++ text)

def succeed (lines : List String) : Outcome :=
  .report ⟨0, [], lines⟩

section Console

variable (console : Console)

def reject (text : String) : Outcome :=
  .report ⟨1, [], errorLines console.columns text⟩

def runTokens (expression : String) : Outcome :=
  let s := Scanner.ofText (some expression)
  if s.isInvalid then reject console ReadError.invalid.message
  else
    let row : Token × Nat → List String := fun (t, i) => [toString i, t.kind.name, t.literal]
    let table := Terminal.table console "Tokens" ["#", "Type", "Literal"] (s.rest.zipIdx.map row)
    .report ⟨0, [table], []⟩

/-- The nodes in a table, if there are any, and the errors. -/
def runParse (expression : String) : Outcome :=
  let r := Reading.ofText (some expression)
  let row : Node × Nat → List String := fun (n, i) => [toString i, n.kindName, n.text]
  let table := Terminal.table console "Nodes" ["#", "Type", "Canonical"] (r.nodes.zipIdx.map row)
  let lines := r.errors.flatMap fun e => errorLines console.columns e.message
  .report ⟨if r.errors.isEmpty then 0 else 1, if r.nodes.isEmpty then [] else [table], lines⟩

/-- The document that describes a resolved expression. -/
def resolvedData (source : String) (x : Expression) (result : String) : Data :=
  .record [("expression", .text source), ("canonical", .text x.text), ("nodes", x.toData),
    ("result", .text result)]

/-- The end of a resolve command that fails in the library. Its own failures are told. -/
def failResolve (f : Failure) : Outcome :=
  if f.isOwn then reject console f.text else .escaped f

/-- A resolve command. Around its reference it takes any refused value for one that is in the
reference, and lets every other failure escape, those of the library's own included. -/
def runResolve (q : ResolveRequest) (clock : Zone → Stamp) (store : SettingsStore) : Outcome :=
  let reference : Except ReferenceError (Option Stamp) × SettingsStore :=
    match q.reference with
    | none => (.ok none, store)
    | some value =>
      let (r, store) := store.readReference value
      (r.map some, store)
  let invalid := reject console ("Invalid reference instant: " ++ q.reference.getD "")
  match reference with
  | (.error .unreadable, _) => invalid
  | (.error (.failure f), _) => if f.isValue then invalid else .escaped f
  | (.ok reference, store) =>
    match store.readExpression (some q.expression) reference with
    | (.error f, _) => failResolve console f
    | (.ok x, store) =>
      match (store.evaluate x none none clock).1 with
      | .error f => failResolve console f
      | .ok s =>
        let result := if q.toSecond then Iso.stampToSecond s else Iso.stamp s
        if q.asJson then
          succeed (Terminal.plainLines ((resolvedData q.expression x result).document 0))
        else succeed [result]

def versionLine : String := "datemath version 0.1.0"

/-- A command with its own arguments. -/
def runCommand (c : Command) (a : Arguments) (clock : Zone → Stamp) (store : SettingsStore) :
    Outcome :=
  if a.has "help" then .help
  else
    match c, a.rest with
    | .version, [] => succeed [versionLine]
    | .tokens, [x] => runTokens console x
    | .parse, [x] => runParse console x
    | .resolve, [x] =>
      runResolve console ⟨x, a.last? "at", a.has "json", a.has "seconds"⟩ clock store
    | _, _ => .usage

/-- A whole command line. The log level is set before the arguments of the command are looked at,
and unless it is asked to be verbose the settings have to be read for it. -/
def run (args : List String) (clock : Zone → Stamp) (store : SettingsStore) : Outcome :=
  match Arguments.read leadingOptions false args with
  | none => .usage
  | some leading =>
    if leading.has "help" then .help
    else
      match leading.rest with
      | [] => .usage
      | name :: rest =>
        match Command.ofName? name with
        | none => .usage
        | some c =>
          -- a name that is no command is a complaint even when the settings are bad
          let ready := if leading.has "verbose" then (.ok (), store)
            else store.withSettings fun _ => .ok ()
          match ready with
          | (.error f, _) => .escaped f
          | (.ok (), store) =>
            match Arguments.read c.options true rest with
            | none => .usage
            | some a => runCommand console c a clock store

end Console

end RelativeTime.CommandLine
