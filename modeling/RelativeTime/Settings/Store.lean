import RelativeTime.Expression
import RelativeTime.Iso.Reader
import RelativeTime.Settings.Basic

/-!
A store keeps the settings that were read first, until it is reset. Everything that needs a
setting goes through it; only an explicit load looks at the environment again.
-/
namespace RelativeTime

structure SettingsStore where
  environment : Environment
  cached : Option Settings

/-- An action that may fail, on a store that it may fill. -/
abbrev Stored (ε α : Type) := SettingsStore → Except ε α × SettingsStore

/-- Why a text gives no reference: it is not one, or the settings it needs are bad. -/
inductive ReferenceError
  | unreadable
  | failure (f : Failure)
  deriving DecidableEq

namespace SettingsStore

def ofEnvironment (env : Environment) : SettingsStore :=
  ⟨env, none⟩

def reset (s : SettingsStore) : SettingsStore :=
  { s with cached := none }

/-- The settings in the store, loaded into it if it is empty. -/
def settings : Stored Failure Settings := fun s =>
  match s.cached with
  | some c => (.ok c, s)
  | none =>
    match Settings.load s.environment with
    | .ok c => (.ok c, { s with cached := some c })
    | .error f => (.error f, s)

/-- A result that depends on the settings in the store. -/
def withSettings (use : Settings → Except Failure α) : Stored Failure α := fun s =>
  let (c, s) := s.settings
  (c >>= use, s)

/-- An expression read from a text. The settings are read first, for every text. -/
def readExpression (text : Option String) (reference : Option Stamp) : Stored Failure Expression :=
  withSettings fun _ => Expression.ofText text reference

/-- The reference of an evaluation: the one given, else that of the expression, else what a clock
shows in the time zone of the settings. -/
def referenceFor (x : Expression) (given : Option Stamp) (clock : Zone → Stamp) :
    Stored Failure Stamp := fun s =>
  match given.or x.reference with
  | some r => (.ok r, s)
  | none => s.withSettings fun c => .ok (clock c.timezone.zone)

/-- The calendar of an evaluation: the one given, else that of the settings. -/
def calendarFor (given : Option Calendar) : Stored Failure Calendar := fun s =>
  match given with
  | some c => (.ok c, s)
  | none => s.withSettings fun c => .ok c.calendar

/-- The value of an expression. -/
def evaluate (x : Expression) (given : Option Stamp) (calendar : Option Calendar)
    (clock : Zone → Stamp) : Stored Failure Stamp := fun s =>
  match s.referenceFor x given clock with
  | (.error f, s) => (.error f, s)
  | (.ok reference, s) =>
    match s.calendarFor calendar with
    | (.error f, s) => (.error f, s)
    | (.ok c, s) => (x.evaluate c reference, s)

/-- The value of a text, read and evaluated. -/
def resolve (text : Option String) (reference : Option Stamp) (clock : Zone → Stamp) :
    Stored Failure Stamp := fun s =>
  match s.readExpression text reference with
  | (.error f, s) => (.error f, s)
  | (.ok x, s) => s.evaluate x none none clock

/-- A reference read from a text. One without an offset is in the time zone of the settings,
which are read for it alone. -/
def readReference (value : String) : Stored ReferenceError Stamp := fun s =>
  match Iso.readStamp? value with
  | none => (.error .unreadable, s)
  | some stamp =>
    match stamp.zone with
    | .floating =>
      let (r, s) := s.withSettings fun c => .ok { stamp with zone := c.timezone.zone }
      (r.mapError .failure, s)
    | _ => (.ok stamp, s)

/-- What a session may ask of a store. -/
inductive Step
  | assign (name value : String)
  | unassign (name : String)
  | reset
  | load
  | get
  | isShared
  | telemetry
  | resolve (text : Option String) (at_ : Option Stamp)
  | reference (value : String)

/-- What a store answers. -/
inductive Answer
  | done
  | settings (c : Settings)
  | truth (b : Bool)
  | stamp (s : Stamp)
  | failure (e : ReferenceError)
  deriving DecidableEq

namespace Answer

def ofResult (encode : α → Answer) (r : Except Failure α × SettingsStore) :
    Answer × SettingsStore :=
  match r with
  | (.ok a, s) => (encode a, s)
  | (.error f, s) => (failure (.failure f), s)

end Answer

/-- Whether two reads of the settings, one right after the other, find the same. -/
def readTwice : Stored Failure Bool := fun s =>
  match s.settings with
  | (.error f, s) => (.error f, s)
  | (.ok first, s) =>
    match s.settings with
    | (.error f, s) => (.error f, s)
    | (.ok second, s) => (.ok (first = second), s)

/-- One step. -/
def step (clock : Zone → Stamp) (s : SettingsStore) : Step → Answer × SettingsStore
  | .assign name value => (.done, { s with environment := s.environment.assign name value })
  | .unassign name => (.done, { s with environment := s.environment.unassign name })
  | .reset => (.done, s.reset)
  | .load => Answer.ofResult .settings (Settings.load s.environment, s)
  | .get => Answer.ofResult .settings s.settings
  | .isShared => Answer.ofResult .truth s.readTwice
  | .telemetry => Answer.ofResult (fun c => .truth c.telemetry) s.settings
  | .resolve text reference => Answer.ofResult .stamp (s.resolve text reference clock)
  | .reference value =>
    match s.readReference value with
    | (.ok stamp, s) => (.stamp stamp, s)
    | (.error e, s) => (.failure e, s)

/-- The answers to a list of steps, and the store after them. -/
def run (clock : Zone → Stamp) : SettingsStore → List Step → List Answer × SettingsStore
  | s, [] => ([], s)
  | s, x :: xs =>
    let (answer, s) := s.step clock x
    let (answers, s) := s.run clock xs
    (answer :: answers, s)

end SettingsStore

end RelativeTime
