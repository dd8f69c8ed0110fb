import JobDispatch.Program.Run
import JobDispatch.Proofs.Config.Lease

/-!
How the program starts with an accepted configuration.

A configuration is checked when it is loaded. Its settings are checked once more when the instance
is made, over durations instead of words, and the schedule for deleting results is read once more
when the job is registered.

* `Config.Describes`: the settings say what the configuration says.
* `ResultsConfig.Schedules`: the registry has the job that deletes old results, or no job if there
  is no schedule for it.
* `Config.startup_of_validate`: an accepted configuration gets through all later checks.
-/

namespace JobDispatch

namespace Config

variable {zones : List Zone}

/-- The settings say what the configuration says: every length of time is the configured number of
its unit, and the identity is the configured one if there is one. -/
structure Describes (zones : List Zone) (c : Config) (s : Settings) : Prop where
  renewalInterval : s.renewalInterval = .ofSecs c.election.renewalIntervalSecs.toNat
  leaseDuration : s.leaseDuration = .ofSecs c.election.leaseDurationSecs.toNat
  scheduleInterval : s.scheduleInterval = .ofSecs c.scheduler.intervalSecs.toNat
  timeZone : s.timeZone ∈ zones ∧ s.timeZone.name = c.scheduler.timeZone
  safetyMargin : s.safetyMargin = .ofSecs c.scheduler.safetyMarginSecs.toNat
  idleInterval : s.idleInterval = .ofMillis c.worker.idleIntervalMs.toNat
  lockTimeout : s.lockTimeout = .ofMillis c.worker.lockTimeoutMs.toNat
  configured : c.election.instanceId ≠ "" → s.instanceId = c.election.instanceId
  generated : s.instanceId ≠ ""

lemma find?_of_zone {c : SchedulerConfig} {z : Zone} (h : c.zone zones = .ok z) :
    z ∈ zones ∧ z.name = c.timeZone := by
  have hfind : Zone.find? zones c.timeZone = some z := by
    rw [SchedulerConfig.zone] at h
    cases hz : Zone.find? zones c.timeZone with
    | none => rw [hz] at h; cases h
    | some z' => rw [hz] at h; cases h; rfl
  refine ⟨List.mem_of_find?_eq_some hfind, ?_⟩
  simpa using List.find?_some hfind

/-- Settings that can be made say what the configuration says. -/
lemma describes_of_settings {c : Config} {host : Option String} {suffix : String} {s : Settings}
    (h : c.settings zones host suffix = .ok s) : c.Describes zones s := by
  rw [settings] at h
  cases hz : c.scheduler.zone zones with
  | error fault => rw [hz] at h; cases h
  | ok z =>
      rw [hz] at h
      obtain rfl := Except.ok.inj h
      refine ⟨rfl, rfl, rfl, find?_of_zone hz, rfl, rfl, rfl, fun hgiven => ?_, ?_⟩
      · exact if_neg fun hempty => hgiven (String.isEmpty_iff.mp hempty)
      · dsimp only
        split_ifs with hempty
        · exact generatedId_ne_empty host suffix
        · exact fun heq => hempty (String.isEmpty_iff.mpr heq)

end Config

/-! ### The first registration -/

/-- The registry has exactly the job that deletes old results, with the schedule that the configured
text is read as; it has no job if the text is empty. -/
def ResultsConfig.Schedules (c : ResultsConfig) (g : Registry Body) : Prop :=
  if c.purgeSchedule = "" then g.jobs = []
  else ∃ schedule, Schedule.parse c.purgeSchedule = .ok schedule ∧
    g.jobs = [⟨Purge.jobName, some schedule, .store, Purge.body c.retentionDays.toNat⟩]

/-- A job whose name fits can be added to the registry without jobs. -/
lemma Registry.add_empty {r : Registration Body} (h : Registration.NameFits r.name) :
    Registry.empty.add r = .ok ⟨[r]⟩ := by
  rw [add, if_neg (not_not_intro h)]
  rfl

/-- What passes the check of the configuration can be registered. -/
lemma ResultsConfig.withBuiltin_empty {c : ResultsConfig}
    (h : Config.validatePurgeSchedule c.purgeSchedule = .ok ⟨⟩) :
    ∃ g, Registry.empty.withBuiltin c.retentionDays.toNat c.purgeSchedule = .ok g ∧
      c.Schedules g := by
  by_cases hempty : c.purgeSchedule = ""
  · refine ⟨.empty, by rw [hempty]; rfl, ?_⟩
    rw [Schedules, if_pos hempty]
    rfl
  · obtain ⟨schedule, hparse⟩ :=
      ((Config.validatePurgeSchedule_eq_ok_iff _).mp h).resolve_left hempty
    have hfits : Registration.NameFits Purge.jobName := by decide
    rw [Registry.withBuiltin, if_neg (mt String.isEmpty_iff.mp hempty), Registry.register, hparse]
    refine ⟨_, Registry.add_empty hfits, ?_⟩
    rw [Schedules, if_neg hempty]
    exact ⟨schedule, hparse, rfl⟩

namespace Config

/-- **Startup**.  A configuration that is accepted, whatever zones there are, gives settings that
say the same and are accepted as well, whatever the host is called. The schedule for deleting
results can be registered as it was checked. So there is an instance to start. -/
theorem startup_of_validate {zones : List Zone} {c : Config} (h : c.validate zones = .ok ⟨⟩)
    (host : Option String) (suffix : String) :
    ∃ s g, c.settings zones host suffix = .ok s ∧ c.Describes zones s ∧ s.validate = .ok ⟨⟩ ∧
      Registry.empty.withBuiltin c.results.retentionDays.toNat c.results.purgeSchedule = .ok g ∧
      c.results.Schedules g ∧ (∀ registry, Instance.create s registry = .ok ⟨s, registry⟩) ∧
      Program.instanceOf zones c host suffix = .ok ⟨s, g⟩ := by
  obtain ⟨hsound, -⟩ := c.validate_eq_ok_iff.mp h
  obtain ⟨s, hsettings, haccepted⟩ := settings_of_validate h host suffix
  have hcreate (registry : Registry Body) : Instance.create s registry = .ok ⟨s, registry⟩ := by
    rw [Instance.create, haccepted]
  obtain ⟨g, hbuiltin, hschedules⟩ := ResultsConfig.withBuiltin_empty
    ((validatePurgeSchedule_eq_ok_iff _).mpr hsound.purgeSchedule)
  refine ⟨s, g, hsettings, describes_of_settings hsettings, haccepted, hbuiltin, hschedules,
    hcreate, ?_⟩
  rw [Program.instanceOf, Program.registryOf, hbuiltin, hsettings]
  show (Instance.create s g).mapError _ = _
  rw [hcreate]
  rfl

/-- The usual configuration gives an instance with a generated identity and one job. -/
theorem startup_of_validate_standard : ∃ i,
    Program.instanceOf Zone.known (withLease 10 30) none "0123456789ab" = .ok i ∧
    i.settings.renewalInterval = .ofSecs 10 ∧ i.settings.instanceId ≠ "" ∧
    ∃ schedule, Schedule.parse "0 4 * * *" = .ok schedule ∧
      i.registry.jobs = [⟨"purge_job_results", some schedule, .store, Purge.body 30⟩] := by
  have hvalid : (withLease 10 30).validate Zone.known = .ok ⟨⟩ := by decide +kernel
  obtain ⟨s, g, -, hdescribes, -, -, hschedules, -, hinstance⟩ :=
    startup_of_validate hvalid none "0123456789ab"
  exact ⟨⟨s, g⟩, hinstance, hdescribes.renewalInterval, hdescribes.generated, hschedules⟩

end Config

end JobDispatch
