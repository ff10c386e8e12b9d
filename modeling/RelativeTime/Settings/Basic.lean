import RelativeTime.Failure
import RelativeTime.Text.Small

/-!
Settings and how they are found in the environment. A variable is looked for by name without
regard to case; a variable that is not set leaves its setting at the default, and of several bad
values the first in the order of the fields is reported.

How a file sets variables and how a zone is found are not told here. Both may fail, and then so does
the reading of the settings: what is in the file, and the clocks of all zones, come with the
environment.
-/
namespace RelativeTime

/-- The levels that a setting may name. -/
inductive LogLevel
  | debug | info | warning | error | critical
  deriving DecidableEq

namespace LogLevel

def all : List LogLevel := [debug, info, warning, error, critical]

def name : LogLevel → String
  | debug => "DEBUG"
  | info => "INFO"
  | warning => "WARNING"
  | error => "ERROR"
  | critical => "CRITICAL"

def ofName? : String → Option LogLevel :=
  byKey? name all

def rank : LogLevel → Nat
  | debug => 10
  | info => 20
  | warning => 30
  | error => 40
  | critical => 50

end LogLevel

/-- The time zone of the settings: universal time, or one that was found by its name. -/
inductive Timezone
  | universal
  | named (z : NamedZone)
  deriving DecidableEq

namespace Timezone

def name : Timezone → String
  | universal => "UTC"
  | named z => z.name

def zone : Timezone → Zone
  | universal => .fixed .zero
  | named z => .named z

end Timezone

structure Settings where
  timezone : Timezone
  weekStart : Weekday
  logLevel : LogLevel
  telemetry : Bool
  deriving DecidableEq

/-- How a zone is looked up: its clock, none where there is no such zone, or an error. -/
abbrev ZoneTable := String → Except ForeignError (Option ClockHistory)

/-- Variables with their values, in the order they came to be set. -/
abbrev Variables := List (String × String)

/-- What the settings are found in: the variables that are set, those that a file sets beside them,
and the zones. -/
structure Environment where
  vars : Variables
  file : Except ForeignError Variables
  zones : ZoneTable

namespace Environment

/-- Variables without a file, and zones that are all found or not there. -/
def ofVars (vars : Variables) (zones : String → Option ClockHistory) : Environment :=
  ⟨vars, .ok [], fun name => .ok (zones name)⟩

/-- A variable set to a value, in its old place if it had one. -/
def assign (env : Environment) (name value : String) : Environment :=
  { env with vars :=
      if env.vars.any (·.1 == name) then
        env.vars.map fun v => if v.1 == name then (name, value) else v
      else env.vars ++ [(name, value)] }

def unassign (env : Environment) (name : String) : Environment :=
  { env with vars := env.vars.filter (·.1 != name) }

/-- The value of the last of some variables whose name, in small letters, is the one given. -/
def lookup? (vars : Variables) (name : String) : Option String :=
  (vars.reverse.find? fun v => Text.inSmall v.1 == name).map (·.2)

/-- The errors of the file and of the zones that are no complaint about the name of a zone. -/
inductive Raises (env : Environment) : ForeignError → Prop
  | file {e : ForeignError} (h : env.file = .error e) : env.Raises e
  | zone {name : String} {e : ForeignError} (h : env.zones name = .error e)
      (hvalue : e.isValue = false) : env.Raises e

/-- The file can be read if there is one, and a zone is either found or complained about. -/
def IsSound (env : Environment) : Prop :=
  ∀ e, ¬ env.Raises e

end Environment

namespace Settings

def default : Settings := ⟨.universal, .sunday, .warning, false⟩

def calendar (s : Settings) : Calendar := ⟨s.weekStart⟩

/-- What the names of the variables begin with, in small letters. -/
def variableStem : String := "datemath_"

/-- A truth value spelled in one of six ways, whatever the case of its letters. -/
def truth? (s : String) : Option Bool :=
  if ["1", "true", "t", "yes", "y", "on"].contains s.toLower then some true
  else if ["0", "false", "f", "no", "n", "off"].contains s.toLower then some false
  else none

/-- A time zone by its name. Universal time is not looked up, and a name that is complained about
counts as unknown. -/
def timezone? (zones : ZoneTable) (name : String) : Except ForeignError (Option Timezone) :=
  if name = Timezone.universal.name then .ok (some .universal)
  else
    match zones name with
    | .ok clock => .ok (clock.map fun history => .named ⟨name, history⟩)
    | .error e => if e.isValue then .ok none else .error e

/-- One setting: its default where the variable is not set, and a failure where the value does
not read. An error met in reading it is passed on. -/
def field (vars : Variables) (name : String) (default : α)
    (read : String → Except ForeignError (Option α)) (reason : String → String) :
    Except Failure α :=
  match Environment.lookup? vars (variableStem ++ name) with
  | none => .ok default
  | some value =>
    match read value with
    | .ok (some a) => .ok a
    | .ok none => .error (.setting name value (reason value))
    | .error e => .error (.foreign e)

/-- The settings that an environment asks for. A variable that is set goes before one of the file,
which stands in front of them here. -/
def load (env : Environment) : Except Failure Settings := do
  let file ← env.file.mapError .foreign
  let vars := file ++ env.vars
  let timezone ← field vars "timezone" default.timezone (timezone? env.zones)
    fun value => "Value error, unknown time zone: " ++ value
  let weekStart ← field vars "week_starts_on" default.weekStart (.ok ∘ Weekday.ofCode?)
    fun _ => "Input should be 'sun', 'mon', 'tue', 'wed', 'thu', 'fri' or 'sat'"
  let logLevel ← field vars "log_level" default.logLevel (.ok ∘ LogLevel.ofName?)
    fun _ => "Input should be 'DEBUG', 'INFO', 'WARNING', 'ERROR' or 'CRITICAL'"
  let telemetry ← field vars "telemetry_enabled" default.telemetry (.ok ∘ truth?)
    fun _ => "Input should be a valid boolean, unable to interpret input"
  return ⟨timezone, weekStart, logLevel, telemetry⟩

end Settings

end RelativeTime
