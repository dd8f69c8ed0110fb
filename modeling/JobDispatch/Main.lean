import JobDispatch.Program.Run
import Std.Time.DateTime.Timestamp

/-!
The command line. It reads the folder `config`, the file `.env` and the environment, and runs the
program over an empty store in memory until its instance leads.
-/

namespace JobDispatch.Program

/-- The fields of the configuration, each with its section. -/
def fieldNames : List String :=
  [ "SHUTDOWN_TIMEOUT_SECS", "DATABASE__URL", "DATABASE__MAX_CONNECTIONS",
    "DATABASE__MIN_CONNECTIONS", "DATABASE__CONNECT_TIMEOUT_SECS", "DATABASE__IDLE_TIMEOUT_SECS",
    "LOGGING__LEVEL", "LOGGING__FORMAT", "ELECTION__INSTANCE_ID",
    "ELECTION__RENEWAL_INTERVAL_SECS", "ELECTION__LEASE_DURATION_SECS",
    "SCHEDULER__INTERVAL_SECS", "SCHEDULER__TIME_ZONE", "SCHEDULER__SAFETY_MARGIN_SECS",
    "WORKER__IDLE_INTERVAL_MS", "WORKER__LOCK_TIMEOUT_MS", "RESULTS__RETENTION_DAYS",
    "RESULTS__PURGE_SCHEDULE" ]

/-- The variables of the environment that the program looks at. -/
def variableNames : List String := "HOSTNAME" :: "RUST_LOG" :: fieldNames.map ("JC__" ++ ·)

/-- The names of the files of the folder `config`. -/
def fileNames : List String := ["default.toml", "default.json", "local.toml", "local.json"]

/-- The names that have a text, with their texts. -/
def collect (names : List String) (text? : String → IO (Option String)) : IO Config.Texts :=
  names.filterMapM fun name => do return (← text? name).map fun text => (name, text)

/-- The text of a file, if there is one. -/
def fileText? (path : String) : IO (Option String) := do
  try return some (← IO.FS.readFile path)
  catch _ => return none

/-- Twelve hexadecimal digits drawn at random. -/
def randomSuffix : IO String := do
  let digits ← (List.range 12).mapM fun _ => do return Nat.digitChar (← IO.rand 0 15)
  return String.ofList digits

/-- The present instant. -/
def present : IO Instant := do
  let t ← Std.Time.Timestamp.now
  return (Instant.ofSecs 0).advance t.toNanosecondsSinceUnixEpoch.val

end JobDispatch.Program

open JobDispatch in
/-- Runs the program and prints its log. -/
def main : IO UInt32 := do
  let start ← Program.present
  let outcome := Program.run {
    zones := Zone.known
    files := ← Program.collect Program.fileNames fun name => Program.fileText? ("config/" ++ name)
    variableFile := ← Program.fileText? ".env"
    env := ← Program.collect Program.variableNames fun name => IO.getEnv name
    suffix := ← Program.randomSuffix
    connect := fun _ => .ok .new
    clock := fun n => start.advance (n * 1000000)
    signal := .terminate
    signalled := fun s => s.store.tables.lease.isSome }
  for setup in outcome.log do
    for n in outcome.printed do
      IO.println (setup.format.render n)
  IO.eprint outcome.errorText
  return outcome.exitCode.toUInt32
