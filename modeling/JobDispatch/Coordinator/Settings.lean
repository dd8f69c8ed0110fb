import JobDispatch.Job.Error
import JobDispatch.Time.Duration
import JobDispatch.Zone.Table

/-!
The settings of one running instance.

`Settings.validate` accepts settings whose identity is not empty, whose loops pause between rounds,
and whose lease outlasts two renewals; `SettingsError` lists the refusals in the order in which they
are looked for.
-/

namespace JobDispatch

/-- The settings of one running instance. -/
structure Settings where
  instanceId : String
  renewalInterval : Duration
  leaseDuration : Duration
  scheduleInterval : Duration
  timeZone : Zone
  safetyMargin : Duration
  idleInterval : Duration
  lockTimeout : Duration
  deriving DecidableEq, Repr

/-- Why settings are refused. -/
inductive SettingsError where
  | emptyInstanceId
  | zeroInterval
  | intervalTooLong
  | shortLease (lease renewal : Duration)
  deriving DecidableEq, Repr

/-- The wording of each refusal. Twice the interval being too long for a duration has none. -/
def SettingsError.message? : SettingsError → Option String
  | .emptyInstanceId => some "instance_id cannot be empty"
  | .zeroInterval => some "loop intervals must be non-zero"
  | .intervalTooLong => none
  | .shortLease lease renewal =>
    let lease := lease.text
    let renewal := renewal.text
    some s!"lease_duration ({lease}) must exceed twice renewal_interval ({renewal})"

namespace Settings

/-- The settings used unless others are given. -/
def standard (instanceId : String) : Settings where
  instanceId := instanceId
  renewalInterval := .ofSecs 10
  leaseDuration := .ofSecs 30
  scheduleInterval := .ofSecs 30
  timeZone := Zone.utc
  safetyMargin := .ofSecs 300
  idleInterval := .ofSecs 1
  lockTimeout := .ofSecs 5

/-- Accepts settings that an instance can run with. -/
def validate (s : Settings) : Except SettingsError Unit :=
  if s.instanceId.isEmpty then .error .emptyInstanceId
  else if s.renewalInterval = ⟨0⟩ ∨ s.scheduleInterval = ⟨0⟩ ∨ s.idleInterval = ⟨0⟩ then
    .error .zeroInterval
  else
    match s.renewalInterval.twice? with
    | none => .error .intervalTooLong
    | some twice =>
      if s.leaseDuration ≤ twice then .error (.shortLease s.leaseDuration s.renewalInterval)
      else .ok ⟨⟩

end Settings

end JobDispatch
