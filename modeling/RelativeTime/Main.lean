import RelativeTime.CommandLine.Run
import RelativeTime.Zone.Known
import Std.Time.DateTime.Timestamp

/-!
The program: takes arguments, the variables that are set, the clock of the machine and the width of
its console, and shows the outcome of a run. It reads no file of variables, and knows the zones of
`ClockHistory.ofName?` alone.
-/

namespace RelativeTime.CommandLine

/-- The day number of the first of January 1970. -/
def epochDay : Int := CivilDate.toDay ⟨1970, 1, 1⟩

def usageText : String :=
  "Usage: [--verbose] (resolve EXPR [--at ISO] [--json] [--seconds] | parse EXPR | " ++
    "tokens EXPR | version)"

/-- The clock of the machine, as it stands in any zone. -/
def readClock : IO (Zone → Stamp) := do
  let now ← Std.Time.Timestamp.now
  let micros := now.toNanosecondsSinceUnixEpoch.val / 1000
  return fun z => Stamp.ofMoment z (epochDay * Timeline.day + micros)

/-- The variables that settings are found in. -/
def readVariables : IO Variables := do
  let names := ["TIMEZONE", "WEEK_STARTS_ON", "LOG_LEVEL", "TELEMETRY_ENABLED"].map
    fun n => Settings.variableStem.toUpper ++ n
  let found ← names.mapM fun n => do return (n, ← IO.getEnv n)
  return found.filterMap fun (n, v) => v.map fun value => (n, value)

/-- The width that a variable asks for, and else a usual one. -/
def readConsole : IO Console := do
  let asked := (← IO.getEnv "COLUMNS").bind String.toNat?
  return .ofColumns (asked.getD 80)

def showTable (t : Terminal.Table) : IO Unit := do
  IO.println t.title
  for row in t.rows do
    IO.println (String.intercalate "  " row)

def showOutcome : Outcome → IO Unit
  | .report r => do
    r.tables.forM showTable
    r.lines.forM fun l => IO.println l
  | .help => IO.println usageText
  | .usage => IO.eprintln usageText
  | .escaped f => IO.eprintln f.message

end RelativeTime.CommandLine

open RelativeTime RelativeTime.CommandLine in
def main (args : List String) : IO UInt32 := do
  let env := Environment.ofVars (← readVariables) ClockHistory.ofName?
  let outcome := run (← readConsole) args (← readClock) (.ofEnvironment env)
  showOutcome outcome
  return outcome.status.toUInt32
