import JobDispatch.Config.Basic
import JobDispatch.Config.Tree
import JobDispatch.Number.Shortest
import JobDispatch.Text.Quoted

/-!
Typed reading of configuration values.

Numbers and texts may be written as each other. A section is written as a table, whose unknown keys
are ignored, or as an array of its fields in order; a field that is absent has its standard value,
except for the address of the store.

* `LoadError` lists what can go wrong and `LoadError.message?` words it.
* `Tree.asUInt64`, `Tree.asUInt32` and `Tree.asText` read the simple types.
* `Config.ofTree` reads a whole configuration.
-/

namespace JobDispatch.Config

/-- What stands where something else is expected. -/
inductive Found where
  | scalar (value : Scalar)
  | natural (value : Nat)
  | sequence
  | map
  deriving DecidableEq, Repr

/-- Why a configuration cannot be had. -/
inductive LoadError where
  | fileMissing (name : String)
  | unreadable (path : String)
  | mistyped (found : Found) (expected key : String) (origin : Option Origin)
  | noSection (found : Scalar) (record : String)
  | tooShort (length : Nat) (record : String) (fields : Nat)
  | missing (field : String)
  | refused (fault : ConfigFault)
  deriving DecidableEq, Repr

/-! ### Wording -/

/-- A floating number with a point. -/
def pointedText (x : Binary64) : String :=
  match x with
  | .finite _ _ _ => if x.positional.contains '.' then x.positional else x.positional ++ ".0"
  | _ => x.positional

/-- What a value is called; `integer` is the name of integers. -/
def Scalar.describe (integer : String) : Scalar → String
  | .null => "unit value"
  | .bool b => s!"boolean `{b}`"
  | .int n => s!"{integer} `{n}`"
  | .float x => s!"floating point `{pointedText x}`"
  | .string s => s!"string {Text.quoted s}"

/-- What is called by its type when it does not fit. -/
def Found.describe : Found → String
  | .scalar value => value.describe "64-bit integer"
  | .natural n => s!"64-bit unsigned integer `{n}`"
  | .sequence => "sequence"
  | .map => "map"

/-- The wording of each error that has one. -/
def LoadError.message? : LoadError → Option String
  | .fileMissing name => some s!"configuration file {Text.quoted name} not found"
  | .unreadable path => some s!"syntax error in {path}"
  | .mistyped found expected key origin =>
    let place := match origin with
      | some origin => " in " ++ origin.text
      | none => ""
    some s!"invalid type: {found.describe}, expected {expected} for key `{key}`{place}"
  | .noSection found record =>
    let name := found.describe "integer"
    some s!"invalid type: {name}, expected struct {record}"
  | .tooShort length record fields =>
    some s!"invalid length {length}, expected struct {record} with {fields} elements"
  | .missing field => some s!"missing field `{field}`"
  | .refused fault => fault.message?

/-! ### Simple types -/

/-- The words for one and for zero. -/
def wordValue? (word : String) : Option UInt64 :=
  if ["true", "on", "yes"].contains word then some 1
  else if ["false", "off", "no"].contains word then some 0
  else none

/-- Reads a text as a natural number of 64 bits: digits with an optional plus sign. -/
def numeral? (s : List Char) : Option UInt64 :=
  let digits := match s with
    | '+' :: rest => rest
    | _ => s
  let n := digits.foldl (fun n c => 10 * n + (c.toNat - '0'.toNat)) 0
  if digits.isEmpty || !digits.all Char.isDigit || UInt64.size ≤ n then none else some (.ofNat n)

/-- The integer of 64 bits without sign that is nearest to a number; not-a-number counts as zero. -/
def nearestUInt64 (x : Binary64) : UInt64 :=
  match x, x.nearestInteger? with
  | .infinite false, _ => .ofNat (UInt64.size - 1)
  | _, some n => .ofNat (min n.toNat (UInt64.size - 1))
  | _, none => 0

namespace Tree

/-- Reads an integer of 64 bits without sign, set under the given key. -/
def asUInt64 (key : String) : Tree → Except LoadError UInt64
  | leaf origin value =>
    let refuse (expected : String) : Except LoadError UInt64 :=
      .error (.mistyped (.scalar value) expected key origin)
    match value with
    | .null => refuse "an integer"
    | .bool b => .ok (if b then 1 else 0)
    | .int n =>
      if n < 0 then refuse "an unsigned 64 bit or less integer" else .ok (.ofNat n.toNat)
    | .float x => .ok (nearestUInt64 x)
    | .string s =>
      match (wordValue? (lowerCase s)).or (numeral? s.toList) with
      | some n => .ok n
      | none => refuse "an integer"
  | array origin _ => .error (.mistyped .sequence "an integer" key origin)
  | table origin _ => .error (.mistyped .map "an integer" key origin)

/-- Reads an integer of 32 bits without sign, set under the given key. -/
def asUInt32 (key : String) (t : Tree) : Except LoadError UInt32 := do
  let n ← t.asUInt64 key
  if n.toNat < UInt32.size then .ok n.toUInt32
  else .error (.mistyped (.natural n.toNat) "an unsigned 32 bit integer" key none)

/-- Reads a text, set under the given key. -/
def asText (key : String) : Tree → Except LoadError String
  | leaf origin value =>
    match value with
    | .null => .error (.mistyped (.scalar value) "a string" key origin)
    | .bool b => .ok (toString b)
    | .int n => .ok (toString n)
    | .float x => .ok x.positional
    | .string s => .ok s
  | array origin _ => .error (.mistyped .sequence "a string" key origin)
  | table origin _ => .error (.mistyped .map "a string" key origin)

end Tree

/-! ### Sections -/

/-- A section that has been found. Its parts are named, or have only their places. -/
inductive Section where
  | named (name : String) (members : List (String × Tree))
  | placed (name : String) (items : List Tree)

namespace Section

/-- Opens a value as a section; `record` is the name of its type in messages. -/
def ofTree (name record : String) : Tree → Except LoadError Section
  | .leaf _ value => .error (.noSection value record)
  | .array _ items => .ok (placed name items)
  | .table _ members => .ok (named name members)

/-- Reads the field with the given name, at the given place, if it is present. -/
def field? {α : Type} (s : Section) (place : Nat) (name : String)
    (read : String → Tree → Except LoadError α) : Except LoadError (Option α) :=
  match s with
  | named title members =>
    match members.lookup name with
    | some t => some <$> read (title ++ "." ++ name) t
    | none => .ok none
  | placed title items =>
    match items[place]? with
    | some t => some <$> read (title ++ "[" ++ toString place ++ "]") t
    | none => .ok none

/-- Reads an integer of 64 bits. -/
def uint64 (s : Section) (place : Nat) (name : String) (standard : UInt64) :
    Except LoadError UInt64 := do
  .ok ((← s.field? place name Tree.asUInt64).getD standard)

/-- Reads an integer of 32 bits. -/
def uint32 (s : Section) (place : Nat) (name : String) (standard : UInt32) :
    Except LoadError UInt32 := do
  .ok ((← s.field? place name Tree.asUInt32).getD standard)

/-- Reads a text. -/
def text (s : Section) (place : Nat) (name standard : String) : Except LoadError String := do
  .ok ((← s.field? place name Tree.asText).getD standard)

/-- The error of a field without a standard value that is absent: an array is too short. -/
def absent (s : Section) (name record : String) (fields : Nat) : LoadError :=
  match s with
  | named _ _ => .missing name
  | placed _ items => .tooShort items.length record fields

/-- Reads the section on the store. -/
def database (s : Section) : Except LoadError DatabaseConfig := do
  let url ← s.field? 0 "url" Tree.asText
  let maxConnections ← s.uint32 1 "max_connections" 10
  let minConnections ← s.uint32 2 "min_connections" 1
  let connectTimeoutSecs ← s.uint64 3 "connect_timeout_secs" 10
  let idleTimeoutSecs ← s.uint64 4 "idle_timeout_secs" 600
  match url with
  | some url =>
    .ok { url, maxConnections, minConnections, connectTimeoutSecs, idleTimeoutSecs }
  | none => .error (s.absent "url" "DatabaseConfig" 5)

/-- Reads the section on the log. -/
def logging (s : Section) : Except LoadError LoggingConfig := do
  .ok { level := ← s.text 0 "level" "info", format := ← s.text 1 "format" "json" }

/-- Reads the section on the lead. -/
def election (s : Section) : Except LoadError ElectionConfig := do
  .ok {
    instanceId := ← s.text 0 "instance_id" ""
    renewalIntervalSecs := ← s.uint64 1 "renewal_interval_secs" 10
    leaseDurationSecs := ← s.uint64 2 "lease_duration_secs" 30 }

/-- Reads the section on periodic jobs. -/
def scheduler (s : Section) : Except LoadError SchedulerConfig := do
  .ok {
    intervalSecs := ← s.uint64 0 "interval_secs" 30
    timeZone := ← s.text 1 "time_zone" "UTC"
    safetyMarginSecs := ← s.uint64 2 "safety_margin_secs" 300 }

/-- Reads the section on due entries. -/
def worker (s : Section) : Except LoadError WorkerConfig := do
  .ok {
    idleIntervalMs := ← s.uint64 0 "idle_interval_ms" 1000
    lockTimeoutMs := ← s.uint64 1 "lock_timeout_ms" 5000 }

/-- Reads the section on results. -/
def results (s : Section) : Except LoadError ResultsConfig := do
  .ok {
    retentionDays := ← s.uint32 0 "retention_days" 30
    purgeSchedule := ← s.text 1 "purge_schedule" "" }

end Section

/-! ### The whole configuration -/

/-- Reads a section if it is present. -/
def section? {α : Type} (t : Tree) (name record : String) (read : Section → Except LoadError α) :
    Except LoadError (Option α) :=
  match t.get? name with
  | some value => do some <$> read (← Section.ofTree name record value)
  | none => .ok none

/-- A section that has to be present. -/
def required {α : Type} (name : String) : Option α → Except LoadError α
  | some value => .ok value
  | none => .error (.missing name)

/-- Results are kept for thirty days and nothing deletes them, unless a section says otherwise. -/
def standardResults : ResultsConfig := ⟨30, ""⟩

/-- Reads a configuration. All that is present is read before anything is found missing. -/
def ofTree (t : Tree) : Except LoadError Config := do
  let database ← section? t "database" "DatabaseConfig" Section.database
  let logging ← section? t "logging" "LoggingConfig" Section.logging
  let election ← section? t "election" "ElectionConfig" Section.election
  let scheduler ← section? t "scheduler" "SchedulerConfig" Section.scheduler
  let worker ← section? t "worker" "WorkerConfig" Section.worker
  let results ← section? t "results" "ResultsConfig" Section.results
  let shutdown ← match t.get? "shutdown_timeout_secs" with
    | some value => value.asUInt64 "shutdown_timeout_secs"
    | none => .ok 30
  .ok {
    database := ← required "database" database
    logging := ← required "logging" logging
    election := ← required "election" election
    scheduler := ← required "scheduler" scheduler
    worker := ← required "worker" worker
    results := results.getD standardResults
    shutdownTimeoutSecs := shutdown }

end JobDispatch.Config
