import JobDispatch.Config.Load
import JobDispatch.Config.VariableFile
import JobDispatch.Coordinator.Loops
import JobDispatch.Log.Setup

/-!
The program as a whole.

`Program.run` reads the configuration, sets up the log, connects to the store, registers the job
that deletes old results, and runs an instance until a signal arrives. Before its log is set up the
program prints nothing.
-/

namespace JobDispatch.Program

/-- What the program meets when it starts: the time zones that there are, its files and variables, a
suffix for a generated identity, the stores that it can reach, the clock, and a signal that arrives
once a condition holds. -/
structure Surroundings where
  zones : List Zone
  files : Config.Texts
  variableFile : Option String
  env : Config.Texts
  suffix : String
  connect : String → Except StoreError Store
  clock : Nat → Instant
  signal : Signal
  signalled : Session → Bool

/-- Why the program fails. -/
inductive Failure where
  | loading (fault : Config.LoadError)
  | logFilter
  | configuration (fault : ConfigFault)
  | connection (fault : StoreError)
  | registration (fault : RegistryError)
  | settings (fault : SettingsError)

/-- The report of a failure. A log without a filter, and an interval too long to be doubled, break
the program off without a report. -/
def Failure.report? : Failure → Option Report
  | .loading fault => fault.message?.map fun message => ⟨message, []⟩
  | .logFilter => none
  | .configuration fault => fault.message?.map fun message => ⟨message, []⟩
  | .connection fault => some fault.report
  | .registration fault => some (OperationError.registry fault).report
  | .settings fault => fault.message?.map fun message =>
    (OperationError.configuration message).report

/-- How a run of the program ends: whether it failed, how it kept its log and what it reported
there, and the store, if it got that far. -/
structure Outcome where
  failure : Option Failure
  log : Option LogSetup
  notices : List Notice
  store : Option Store

namespace Outcome

/-- The log lines that are printed. -/
def printed (o : Outcome) : List Notice :=
  match o.log with
  | some setup => setup.filter.apply o.notices
  | none => []

/-- The exit code: `1` for a failure with a report, and `101` for one without. -/
def exitCode (o : Outcome) : UInt8 :=
  match o.failure.map Failure.report? with
  | none => 0
  | some (some _) => 1
  | some none => 101

/-- What is printed about a failure. -/
def errorText (o : Outcome) : String :=
  match o.failure.bind Failure.report? with
  | some report => "Error: " ++ report.text ++ "\n"
  | none => ""

end Outcome

/-- More turns of the loops than a signal takes to arrive. -/
abbrev patience : Nat := 2000

/-- The log lines from the start of the program until its store is ready. -/
def openingNotices : List Notice := [.programStarting, .migrationsRunning, .migrationsCompleted]

/-- The log lines of registering the job that deletes old results, if it has a schedule. -/
def registrationNotices (c : Config) : List Notice :=
  if c.results.purgeSchedule.isEmpty then [] else [.jobRegistered]

/-- The registry that the program starts with. -/
def registryOf (c : Config) : Except Failure (Registry Body) :=
  (Registry.withBuiltin .empty c.results.retentionDays.toNat c.results.purgeSchedule).mapError
    .registration

/-- The instance that a configuration describes. -/
def instanceOf (zones : List Zone) (c : Config) (host : Option String) (suffix : String) :
    Except Failure Instance := do
  let registry ← registryOf c
  let settings ← (c.settings zones host suffix).mapError .configuration
  (Instance.create settings registry).mapError .settings

/-- Runs the instance over a store until the signal arrives. -/
def serve (w : Surroundings) (c : Config) (i : Instance) (store : Store) : Session :=
  let s : Session := { Session.new w.clock with store }
  let s := s.loggedAll (openingNotices ++ registrationNotices c ++ [.instanceIdentity])
  let timeout := Duration.ofSecs c.shutdownTimeoutSecs.toNat
  let (_, s) := i.live 1 0 patience w.signalled timeout [.signalReceived w.signal] s
  s.logged .programStopped

/-- Runs the program once it has read its configuration and set up its log. -/
def start (w : Surroundings) (c : Config) (env : Config.Texts) (log : LogSetup) : Outcome :=
  match w.connect c.database.url with
  | .error fault => ⟨some (.connection fault), some log, [.programStarting], none⟩
  | .ok store =>
    match instanceOf w.zones c (env.lookup "HOSTNAME") w.suffix with
    | .error fault => ⟨some fault, some log, openingNotices ++ registrationNotices c, some store⟩
    | .ok i =>
      let s := serve w c i store
      ⟨none, some log, s.journal.notices, some s.store⟩

/-- Runs the program. -/
def run (w : Surroundings) : Outcome :=
  let env := match w.variableFile with
    | some text => Config.VariableFile.load w.env text
    | none => w.env
  match Config.load w.zones w.files env with
  | .error fault => ⟨some (.loading fault), none, [], none⟩
  | .ok c =>
    match LogSetup.ofConfig? c.logging.level c.logging.format (env.lookup "RUST_LOG") with
    | none => ⟨some .logFilter, none, [], none⟩
    | some log => start w c env log

end JobDispatch.Program
