import JobDispatch.Config.Basic
import Mathlib.Tactic.Common

/-!
Which configurations and which settings are accepted.

A lease must outlast two renewals. A configuration has both in whole seconds of 64 bits, where twice
an interval may not fit; settings have durations, and twice an interval may exceed the longest one.
Everything else that is looked at is decided as it is said, whatever zones there are.

* `Config.Sound`, `Settings.Sound`: everything is as it must be, but for the lease.
* `ElectionConfig.Outlasts`: the lease is longer than two renewals.
* `Config.validate_iff_unless_overflows`: configurations and settings are accepted exactly by the
  rule, and the check breaks off exactly if it gets to an interval that cannot be doubled.
* `Config.settings_of_validate`: an accepted configuration gives settings, which are accepted as
  well.
-/

namespace JobDispatch

/-- A check that has failed ends a chain of checks. -/
lemma ite_error_eq_ok {ε α : Type} {p : Prop} [Decidable p] {e : ε} {x : Except ε α} {a : α} :
    (if p then .error e else x) = .ok a ↔ ¬ p ∧ x = .ok a := by
  split_ifs with h
  · exact iff_of_false nofun (fun hboth => hboth.1 h)
  · exact (and_iff_right h).symm

/-- A chain of checks gives an error of another kind only behind a check that has passed. -/
lemma ite_error_eq_error {ε α : Type} {p : Prop} [Decidable p] {e e' : ε} {x : Except ε α}
    (hother : ¬ e = e') : (if p then .error e else x) = .error e' ↔ ¬ p ∧ x = .error e' := by
  split_ifs with h
  · exact iff_of_false (fun heq => hother (Except.error.inj heq)) (fun hboth => hboth.1 h)
  · exact (and_iff_right h).symm

namespace Duration

lemma ofSecs_ne_zero {secs : UInt64} (h : secs ≠ 0) : ofSecs secs.toNat ≠ ⟨0⟩ := by
  intro hzero
  have hnanos : secs.toNat * nanosPerSec = 0 := congrArg nanos hzero
  exact Nat.mul_ne_zero (fun hsecs => h (UInt64.toNat_inj.mp hsecs)) (by decide) hnanos

lemma ofMillis_ne_zero {millis : UInt64} (h : millis ≠ 0) :
    ofMillis millis.toNat ≠ ⟨0⟩ := by
  intro hzero
  have hnanos : millis.toNat * 1000000 = 0 := congrArg nanos hzero
  exact Nat.mul_ne_zero (fun hsecs => h (UInt64.toNat_inj.mp hsecs)) (by decide) hnanos

lemma twice_ofSecs (secs : Nat) : 2 * (ofSecs secs).nanos = 2 * secs * nanosPerSec :=
  (Nat.mul_assoc ..).symm

end Duration

/-! ### Configurations -/

namespace ElectionConfig

/-- The lease lasts for more than two renewals. -/
def Outlasts (e : ElectionConfig) : Prop :=
  2 * e.renewalIntervalSecs.toNat < e.leaseDurationSecs.toNat

lemma Outlasts.twice_lt_size {e : ElectionConfig} (h : e.Outlasts) :
    2 * e.renewalIntervalSecs.toNat < UInt64.size :=
  Nat.lt_trans h e.leaseDurationSecs.toNat_lt

/-- Where twice the interval fits in 64 bits, the check of the lease is the rule. -/
lemma not_lease_le_twice_iff {e : ElectionConfig}
    (hfits : 2 * e.renewalIntervalSecs.toNat < UInt64.size) :
    ¬ e.leaseDurationSecs ≤ 2 * e.renewalIntervalSecs ↔ e.Outlasts := by
  have htwice : (2 * e.renewalIntervalSecs).toNat = 2 * e.renewalIntervalSecs.toNat := by
    rw [UInt64.toNat_mul]
    exact Nat.mod_eq_of_lt hfits
  rw [UInt64.le_iff_toNat_le, htwice, Nat.not_le]
  rfl

/-- Both checks pass exactly if the lease outlasts two renewals. -/
lemma fits_and_not_le_iff (e : ElectionConfig) :
    ¬ UInt64.size ≤ 2 * e.renewalIntervalSecs.toNat ∧
      ¬ e.leaseDurationSecs ≤ 2 * e.renewalIntervalSecs ↔ e.Outlasts := by
  constructor
  · rintro ⟨hfits, hle⟩
    exact (not_lease_le_twice_iff (Nat.lt_of_not_le hfits)).mp hle
  · intro h
    exact ⟨Nat.not_le_of_lt h.twice_lt_size, (not_lease_le_twice_iff h.twice_lt_size).mpr h⟩

end ElectionConfig

namespace Config

variable {zones : List Zone}

/-- Everything but the lease is as it must be. -/
structure Sound (zones : List Zone) (c : Config) : Prop where
  url : c.database.url ≠ ""
  connections : c.database.minConnections ≤ c.database.maxConnections
  renewal : c.election.renewalIntervalSecs ≠ 0
  scheduling : c.scheduler.intervalSecs ≠ 0
  idle : c.worker.idleIntervalMs ≠ 0
  retention : 1 ≤ c.results.retentionDays ∧ c.results.retentionDays ≤ longestRetentionDays
  timeZone : ∃ z ∈ zones, z.name = c.scheduler.timeZone
  purgeSchedule : c.results.purgeSchedule = "" ∨
    ∃ s, Schedule.parse c.results.purgeSchedule = .ok s

/-- The checks in their order. -/
lemma validate_eq (zones : List Zone) (c : Config) : c.validate zones =
    if c.database.url.isEmpty then .error .missingUrl
    else if c.database.maxConnections < c.database.minConnections then .error .minAboveMax
    else if c.election.renewalIntervalSecs = 0 then .error .zeroRenewal
    else if UInt64.size ≤ 2 * c.election.renewalIntervalSecs.toNat then .error .intervalTooLong
    else if c.election.leaseDurationSecs ≤ 2 * c.election.renewalIntervalSecs then
      .error (.shortLease c.election.leaseDurationSecs c.election.renewalIntervalSecs)
    else if c.scheduler.intervalSecs = 0 then .error .zeroScheduling
    else if c.worker.idleIntervalMs = 0 then .error .zeroIdle
    else if c.results.retentionDays = 0 ∨ longestRetentionDays < c.results.retentionDays then
      .error .retention
    else (c.scheduler.zone zones).bind fun _ => validatePurgeSchedule c.results.purgeSchedule :=
  rfl

lemma retention_iff (days : UInt32) : ¬ (days = 0 ∨ longestRetentionDays < days) ↔
    1 ≤ days ∧ days ≤ longestRetentionDays := by
  have hzero : days ≠ 0 ↔ 1 ≤ days := by
    rw [UInt32.le_iff_toNat_le, ne_eq, ← UInt32.toNat_inj]
    exact Nat.one_le_iff_ne_zero.symm
  rw [not_or, UInt32.not_lt]
  exact and_congr_left' hzero

lemma exists_zone_iff (c : SchedulerConfig) :
    (∃ z, c.zone zones = .ok z) ↔ ∃ z ∈ zones, z.name = c.timeZone := by
  have hfind : (∃ z, c.zone zones = .ok z) ↔ (Zone.find? zones c.timeZone).isSome := by
    rw [SchedulerConfig.zone]
    cases Zone.find? zones c.timeZone with
    | some z => exact iff_of_true ⟨z, rfl⟩ rfl
    | none => exact iff_of_false (fun ⟨_, hz⟩ => nomatch hz) nofun
  rw [hfind, Zone.find?, List.find?_isSome]
  simp

lemma validatePurgeSchedule_eq_ok_iff (text : String) :
    validatePurgeSchedule text = .ok ⟨⟩ ↔ text = "" ∨ ∃ s, Schedule.parse text = .ok s := by
  rw [validatePurgeSchedule]
  split_ifs with hempty
  · exact iff_of_true rfl (.inl (String.isEmpty_iff.mp hempty))
  · rw [or_iff_right (fun h => hempty (String.isEmpty_iff.mpr h))]
    cases Schedule.parse text with
    | ok s => exact iff_of_true rfl ⟨s, rfl⟩
    | error fault => exact iff_of_false nofun (fun ⟨_, hs⟩ => nomatch hs)

lemma zone_bind_eq_ok_iff {c : SchedulerConfig} {x : Except ConfigFault Unit} :
    ((c.zone zones).bind fun _ => x) = .ok ⟨⟩ ↔
      (∃ z ∈ zones, z.name = c.timeZone) ∧ x = .ok ⟨⟩ := by
  rw [← exists_zone_iff]
  cases c.zone zones with
  | ok z => exact (and_iff_right ⟨z, rfl⟩).symm
  | error fault => exact iff_of_false nofun (fun ⟨⟨_, hz⟩, _⟩ => nomatch hz)

/-- The last two checks do not double anything. -/
lemma zone_bind_ne_intervalTooLong (c : SchedulerConfig) (text : String) :
    ((c.zone zones).bind fun _ => validatePurgeSchedule text) ≠ .error .intervalTooLong := by
  rw [SchedulerConfig.zone]
  cases Zone.find? zones c.timeZone with
  | none => exact nofun
  | some z =>
      show validatePurgeSchedule text ≠ _
      rw [validatePurgeSchedule]
      split_ifs
      · exact nofun
      · cases Schedule.parse text <;> exact nofun

/-- A configuration is accepted if it is sound and its lease outlasts two renewals. -/
lemma validate_eq_ok_iff (c : Config) :
    c.validate zones = .ok ⟨⟩ ↔ c.Sound zones ∧ c.election.Outlasts := by
  rw [validate_eq]
  simp only [ite_error_eq_ok, retention_iff, zone_bind_eq_ok_iff, validatePurgeSchedule_eq_ok_iff,
    String.isEmpty_iff, UInt32.not_lt]
  rw [← ElectionConfig.fits_and_not_le_iff]
  constructor
  · rintro ⟨hurl, hconnections, hrenewal, hfits, hlease, hscheduling, hidle, hretention, hzone,
      hpurge⟩
    exact ⟨⟨hurl, hconnections, hrenewal, hscheduling, hidle, hretention, hzone, hpurge⟩, hfits,
      hlease⟩
  · rintro ⟨h, hfits, hlease⟩
    exact ⟨h.url, h.connections, h.renewal, hfits, hlease, h.scheduling, h.idle, h.retention,
      h.timeZone, h.purgeSchedule⟩

/-- The check breaks off if it gets to an interval that cannot be doubled. -/
lemma validate_eq_intervalTooLong_iff (c : Config) :
    c.validate zones = .error .intervalTooLong ↔
      c.database.url ≠ "" ∧ c.database.minConnections ≤ c.database.maxConnections ∧
      c.election.renewalIntervalSecs ≠ 0 ∧
      UInt64.size ≤ 2 * c.election.renewalIntervalSecs.toNat := by
  rw [validate_eq]
  simp only [ite_error_eq_error, reduceCtorEq, not_false_eq_true, String.isEmpty_iff,
    UInt32.not_lt]
  refine and_congr_right fun _ => and_congr_right fun _ => and_congr_right fun _ => ?_
  by_cases hlong : UInt64.size ≤ 2 * c.election.renewalIntervalSecs.toNat
  · exact iff_of_true (if_pos hlong) hlong
  · rw [if_neg hlong]
    simp only [ite_error_eq_error, reduceCtorEq, not_false_eq_true]
    exact iff_of_false (fun h => zone_bind_ne_intervalTooLong _ _ h.2.2.2.2) hlong

end Config

/-! ### Settings -/

namespace Settings

/-- Everything but the lease is as it must be. -/
structure Sound (s : Settings) : Prop where
  instanceId : s.instanceId ≠ ""
  renewal : s.renewalInterval ≠ ⟨0⟩
  scheduling : s.scheduleInterval ≠ ⟨0⟩
  idle : s.idleInterval ≠ ⟨0⟩

lemma sound_iff (s : Settings) : s.Sound ↔ ¬ s.instanceId.isEmpty ∧
    ¬ (s.renewalInterval = ⟨0⟩ ∨ s.scheduleInterval = ⟨0⟩ ∨ s.idleInterval = ⟨0⟩) := by
  rw [String.isEmpty_iff, not_or, not_or]
  exact ⟨fun h => ⟨h.instanceId, h.renewal, h.scheduling, h.idle⟩,
    fun ⟨hid, hrenewal, hscheduling, hidle⟩ => ⟨hid, hrenewal, hscheduling, hidle⟩⟩

/-- Settings that are not sound are refused for what they lack. -/
lemma validate_of_not_sound {s : Settings} (h : ¬ s.Sound) :
    s.validate = .error .emptyInstanceId ∨ s.validate = .error .zeroInterval := by
  rw [validate]
  split_ifs with hempty hzero
  · exact .inl rfl
  · exact .inr rfl
  · exact absurd ((sound_iff s).mpr ⟨hempty, hzero⟩) h

/-- Of sound settings only the lease is looked at. -/
lemma Sound.validate_eq {s : Settings} (h : s.Sound) : s.validate =
    if 2 * s.renewalInterval.nanos < Duration.secsBound * nanosPerSec then
      if s.leaseDuration.nanos ≤ 2 * s.renewalInterval.nanos then
        .error (.shortLease s.leaseDuration s.renewalInterval)
      else .ok ⟨⟩
    else .error .intervalTooLong := by
  obtain ⟨hid, hintervals⟩ := (sound_iff s).mp h
  rw [validate, if_neg hid, if_neg hintervals, Duration.twice?]
  split_ifs with hfits hshort
  · exact if_pos hshort
  · exact if_neg hshort
  · rfl

lemma sound_of_validate {s : Settings} (h : s.validate = .ok ⟨⟩) : s.Sound := by
  by_contra hsound
  obtain hfault | hfault := validate_of_not_sound hsound <;> (rw [hfault] at h; cases h)

/-- The lease of valid settings lasts for more than two renewal intervals. -/
lemma twice_lt_of_validate {s : Settings} (h : s.validate = .ok ⟨⟩) :
    2 * s.renewalInterval.nanos < s.leaseDuration.nanos := by
  rw [(sound_of_validate h).validate_eq] at h
  split_ifs at h with hfits hshort
  exact Nat.lt_of_not_le hshort

/-- Settings are accepted if they are sound and the lease outlasts two renewals. -/
lemma validate_eq_ok_iff {s : Settings}
    (hlease : s.leaseDuration.nanos < Duration.secsBound * nanosPerSec) :
    s.validate = .ok ⟨⟩ ↔ s.Sound ∧ 2 * s.renewalInterval.nanos < s.leaseDuration.nanos := by
  constructor
  · intro hok
    exact ⟨sound_of_validate hok, twice_lt_of_validate hok⟩
  · rintro ⟨hsound, hlonger⟩
    rw [hsound.validate_eq, if_pos (Nat.lt_trans hlonger hlease),
      if_neg (Nat.not_le_of_lt hlonger)]

/-- The interval cannot be doubled if twice of it exceeds the longest duration. -/
lemma validate_eq_intervalTooLong_iff (s : Settings) :
    s.validate = .error .intervalTooLong ↔
      s.Sound ∧ Duration.secsBound * nanosPerSec ≤ 2 * s.renewalInterval.nanos := by
  by_cases hsound : s.Sound
  · rw [and_iff_right hsound, hsound.validate_eq]
    split_ifs with hfits hshort
    · exact iff_of_false nofun (Nat.not_le_of_lt hfits)
    · exact iff_of_false nofun (Nat.not_le_of_lt hfits)
    · exact iff_of_true rfl (Nat.le_of_not_lt hfits)
  · refine iff_of_false (fun hlong => ?_) (fun h => hsound h.1)
    rcases validate_of_not_sound hsound with hfault | hfault <;>
      (rw [hfault] at hlong; cases hlong)

end Settings

/-! ### Both -/

namespace Config

/-- **What is decided about a lease.** Whatever zones there are, a configuration is accepted exactly
if it is sound and its lease outlasts two renewals. Nothing is decided about one whose address,
connections and interval are good and whose interval cannot be doubled in 64 bits. Settings whose
lease is a duration are accepted exactly if they should be, and nothing is decided about those whose
interval is too long to be doubled. -/
theorem validate_iff_unless_overflows (zones : List Zone) (c : Config) {s : Settings}
    (hlease : s.leaseDuration.nanos < Duration.secsBound * nanosPerSec) :
    (c.validate zones = .ok ⟨⟩ ↔ c.Sound zones ∧ c.election.Outlasts) ∧
    (c.validate zones = .error .intervalTooLong ↔
      c.database.url ≠ "" ∧ c.database.minConnections ≤ c.database.maxConnections ∧
      c.election.renewalIntervalSecs ≠ 0 ∧
      UInt64.size ≤ 2 * c.election.renewalIntervalSecs.toNat) ∧
    (s.validate = .ok ⟨⟩ ↔ s.Sound ∧ 2 * s.renewalInterval.nanos < s.leaseDuration.nanos) ∧
    (s.validate = .error .intervalTooLong ↔
      s.Sound ∧ Duration.secsBound * nanosPerSec ≤ 2 * s.renewalInterval.nanos) :=
  ⟨c.validate_eq_ok_iff, c.validate_eq_intervalTooLong_iff, Settings.validate_eq_ok_iff hlease,
    s.validate_eq_intervalTooLong_iff⟩

/-- A configuration with this interval and this lease, in seconds, that is sound if the interval is
not zero. -/
def withLease (renewal lease : UInt64) : Config where
  database := ⟨"postgres://localhost/jobs", 10, 1, 10, 600⟩
  logging := ⟨"info", "json"⟩
  election := ⟨"", renewal, lease⟩
  scheduler := ⟨30, "UTC", 300⟩
  worker := ⟨1000, 5000⟩
  results := ⟨30, "0 4 * * *"⟩
  shutdownTimeoutSecs := 30

/-- The usual interval and lease are accepted, as they are in the settings used unless others are
given; a lease of two intervals is not. -/
theorem validate_iff_unless_overflows_standard :
    ((withLease 10 30).Sound Zone.known ∧ (withLease 10 30).election.Outlasts) ∧
    (withLease 10 20).validate Zone.known ≠ .ok ⟨⟩ ∧
    (Settings.standard "a").validate = .ok ⟨⟩ := by
  have hlease : (Settings.standard "a").leaseDuration.nanos < Duration.secsBound * nanosPerSec := by
    decide
  obtain ⟨haccepted, -, hsettings, -⟩ :=
    validate_iff_unless_overflows Zone.known (withLease 10 30) hlease
  obtain ⟨hshort, -⟩ := validate_iff_unless_overflows Zone.known (withLease 10 20) hlease
  refine ⟨haccepted.mp (by decide +kernel), fun hok => ?_, hsettings.mpr ⟨?_, by decide⟩⟩
  · exact Nat.lt_irrefl 20 (hshort.mp hok).2
  · exact ⟨by decide, by decide, by decide, by decide⟩

/-- With an interval of `2 ^ 63` seconds nothing is decided about a lease of one second, neither in
a configuration nor in settings, and there are no words for it. -/
theorem validate_overflows :
    (withLease 9223372036854775808 1).validate Zone.known = .error .intervalTooLong ∧
    ConfigFault.intervalTooLong.message? = none ∧
    Settings.validate { Settings.standard "a" with
      renewalInterval := .ofSecs 9223372036854775808 } = .error .intervalTooLong ∧
    SettingsError.intervalTooLong.message? = none :=
  ⟨by decide +kernel, rfl, by decide +kernel, rfl⟩

/-- A generated identity is not empty. -/
lemma generatedId_ne_empty (host : Option String) (suffix : String) :
    generatedId host suffix ≠ "" := by
  intro hempty
  have hlength := congrArg String.length hempty
  rw [generatedId, String.length_append, String.length_append] at hlength
  have hdash : "-".length = 1 := rfl
  have hnone : "".length = 0 := rfl
  omega

/-- The settings of a sound configuration are sound, with its interval and its lease. -/
lemma Sound.exists_settings {zones : List Zone} {c : Config} (h : c.Sound zones)
    (host : Option String) (suffix : String) :
    ∃ s, c.settings zones host suffix = .ok s ∧ s.Sound ∧
      s.renewalInterval = .ofSecs c.election.renewalIntervalSecs.toNat ∧
      s.leaseDuration = .ofSecs c.election.leaseDurationSecs.toNat := by
  obtain ⟨z, hz⟩ := (exists_zone_iff c.scheduler).mpr h.timeZone
  rw [settings, hz]
  refine ⟨_, rfl, ⟨?_, Duration.ofSecs_ne_zero h.renewal,
    Duration.ofSecs_ne_zero h.scheduling, Duration.ofMillis_ne_zero h.idle⟩, rfl, rfl⟩
  dsimp only
  split_ifs with hempty
  · exact generatedId_ne_empty host suffix
  · exact fun heq => hempty (String.isEmpty_iff.mpr heq)

/-- An accepted configuration gives settings, and they are accepted too. -/
theorem settings_of_validate {zones : List Zone} {c : Config} (h : c.validate zones = .ok ⟨⟩)
    (host : Option String) (suffix : String) :
    ∃ s, c.settings zones host suffix = .ok s ∧ s.validate = .ok ⟨⟩ := by
  obtain ⟨hsound, houtlasts⟩ := c.validate_eq_ok_iff.mp h
  obtain ⟨s, hsettings, hsettled, hrenewal, hduration⟩ := hsound.exists_settings host suffix
  have hfits : s.leaseDuration.nanos < Duration.secsBound * nanosPerSec := by
    rw [hduration]
    exact Nat.mul_lt_mul_of_pos_right c.election.leaseDurationSecs.toNat_lt (by decide)
  refine ⟨s, hsettings, (Settings.validate_eq_ok_iff hfits).mpr ⟨hsettled, ?_⟩⟩
  rw [hrenewal, hduration, Duration.twice_ofSecs]
  exact Nat.mul_lt_mul_of_pos_right houtlasts (by decide)

end Config

end JobDispatch
