import JobDispatch.Proofs.Cron.Answer
import JobDispatch.Proofs.Job.Roster
import JobDispatch.Proofs.Upkeep.Upsert

/-!
Cycles that do not come to their end.

A cycle computes the next time of a job before it begins the transaction whose errors it counts. If
there is no answer for the schedule of one job, the whole cycle halts there, and the jobs after that
one are not reached. Until the calendar ends this comes from days that the zone has skipped. In the
zones of the table there has been one such day since 2005.

* `Schedule.MeetsSkippedDay`: the search for the next time comes upon that day.
* `Schedule.stuck_iff_meetsSkippedDay`: since 2005, nothing else keeps a schedule from an answer in
  a zone like one of the table.
* `Upkeep.goThrough_reaches`: jobs with answers are all counted.
* `Upkeep.runOnce_halts`: what a cycle has done when it halts.
* `Upkeep.reaches_all_unless_stuck`: a cycle reaches every periodic job unless the search for the
  next time of one of them meets a skipped day.
-/

namespace JobDispatch

open Cron (CalendarTime Fields)

/-! ### The skipped day -/

namespace Schedule

/-- The schedule tries a time of 30 December 2011, from the onset on and before any mark. The
weekday makes no difference. -/
def MeetsSkippedDay (s : Schedule) (z : Zone) (now : Instant) : Prop :=
  ∃ b ∈ s.onset z now, ∃ c, c.date = ⟨2011, 12, 30⟩ ∧ s.fields.Tries c ∧
    b.toSecs ≤ c.toSecs ∧ ∀ u, s.Awaits z now u → c.toSecs ≤ z.localAt u

variable {text : String} {s : Schedule} {z : Zone} {now : Instant}

/-- The skipped day by its count and by its date. -/
lemma toDays_eq_skippedDay_iff {d : Date} (h : d.Valid) :
    d.toDays = Zone.skippedDay ↔ d = ⟨2011, 12, 30⟩ := by
  have hday : (⟨2011, 12, 30⟩ : Date).toDays = Zone.skippedDay := by decide
  constructor
  · intro heq
    exact h.eq_of_toDays (by decide) (heq.trans hday.symm)
  · rintro rfl
    exact hday

/-- From 3 January 2005 on all readings that the search takes into account are of recent days. -/
lemma firstDay_le_of_onset (hf : s.fields.Proper) (hz : z.Lawful)
    (hrecent : Zone.firstSec + 2 * secsPerDay ≤ now.secs) {b c : CalendarTime}
    (hb : b ∈ s.onset z now) (hc : c.Valid) (hle : b.toSecs ≤ c.toSecs) :
    Zone.firstDay ≤ c.date.toDays := by
  have honset := (Fields.le_onset hf (CalendarTime.valid_ofSecs _) hb).2
  rw [CalendarTime.toSecs_ofSecs] at honset
  have hshown := (hz.localAt_bounds (now.secs + 1)).1
  have hhour : c.hour < 24 := hc.hour
  have hminute : c.minute < 60 := hc.minute
  have hsecond : c.second < 60 := hc.second
  simp only [CalendarTime.toSecs, Zone.firstSec, Zone.firstDay, secsPerDay] at *
  omega

/-- Since 2005, in a zone like one of the table, a schedule is stuck only at the skipped day. -/
lemma stuck_iff_meetsSkippedDay (hf : s.fields.Proper) (hz : z.Lawful) {z₀ : Zone}
    (hknown : z₀ ∈ Zone.known) (hlike : z.RunsLike z₀)
    (hrecent : Zone.firstSec + 2 * secsPerDay ≤ now.secs) :
    s.Stuck z now ↔ z₀ = .pacificApia ∧ s.MeetsSkippedDay z now := by
  constructor
  · rintro ⟨b, hb, c, htries, hmissing, hle, hfirst⟩
    have hday := firstDay_le_of_onset hf hz hrecent hb htries.valid hle
    obtain ⟨hzone, hskipped⟩ := (Zone.hasDay_eq_false_iff hz hknown hlike hday).mp hmissing
    have hdate := (toDays_eq_skippedDay_iff htries.valid.date).mp hskipped
    exact ⟨hzone, b, hb, c, hdate, htries, hle, hfirst⟩
  · rintro ⟨hzone, b, hb, c, hdate, htries, hle, hfirst⟩
    have hday := firstDay_le_of_onset hf hz hrecent hb htries.valid hle
    have hskipped := (toDays_eq_skippedDay_iff htries.valid.date).mpr hdate
    exact ⟨b, hb, c, htries,
      (Zone.hasDay_eq_false_iff hz hknown hlike hday).mpr ⟨hzone, hskipped⟩, hle, hfirst⟩

/-- Until the calendar ends there is an answer unless the schedule is stuck. -/
lemma nextAfter_eq_outOfCalendar_iff_stuck (hparse : parse text = .ok s) (hz : z.Lawful)
    (hnow : 0 ≤ now.secs) (hend : now.secs < Instant.lastSec) :
    s.nextAfter now z = .outOfCalendar ↔ s.Stuck z now := by
  rw [nextAfter_eq_outOfCalendar_iff hparse hz hnow]
  exact or_iff_right (Int.not_le.mpr hend)

end Schedule

/-! ### Reports -/

/-- How many jobs a report counts. -/
def CycleReport.total (r : CycleReport) : Nat :=
  r.inserted + r.rescheduled + r.unchanged + r.failed

@[simp] lemma CycleReport.total_count (r : CycleReport) (outcome : Except StoreError Plan) :
    (r.count outcome).total = r.total + 1 := by
  rcases outcome with fault | ⟨next⟩ | ⟨id, current, next⟩ | _ <;>
    simp only [count, total] <;> omega

/-! ### Cycles -/

namespace Upkeep

variable {Body : Type} {u : Upkeep} {now : Instant} {r : Registration Body} {s : Session}

/-- There is no answer to when the job fires next. -/
def Halts (u : Upkeep) (now : Instant) (r : Registration Body) : Prop :=
  ∃ schedule, r.schedule = some schedule ∧ schedule.nextAfter now u.zone = .outOfCalendar

instance (u : Upkeep) (now : Instant) (r : Registration Body) : Decidable (u.Halts now r) :=
  decidable_of_iff
    (r.schedule.any fun schedule => schedule.nextAfter now u.zone = .outOfCalendar) (by
      simp [Halts, Option.any_eq_true])

lemma run_upsert_of_halts (h : u.Halts now r) :
    (u.upsert r now).run s = (.error .outOfCalendar, s) := by
  obtain ⟨schedule, hschedule, hnext⟩ := h
  rw [upsert, hschedule]
  dsimp only
  rw [hnext]
  rfl

/-- An upsert that has an answer and computes no next time keeps everything. -/
lemma upsert_keeps_idle (hnone : ∀ next, ¬ u.Computes r now next) (h : ¬ u.Halts now r)
    (hsaved : s.store.saved = none) :
    (u.upsert r now).Ends s fun outcome s' =>
      outcome = .ok .keep ∧ s.Leaves s' s.store.tables := by
  have hself := Session.leaves_self hsaved
  rw [upsert]
  cases hschedule : r.schedule with
  | none => exact (Script.ends_pure _).mpr ⟨rfl, hself⟩
  | some schedule =>
      dsimp only
      cases hnext : schedule.nextAfter now u.zone with
      | never =>
          exact (Script.ends_bind _ _).mpr ((Script.ends_log _).mpr
            ((Script.ends_pure _).mpr ⟨rfl, hself.logged _⟩))
      | outOfCalendar => exact absurd ⟨schedule, hschedule, hnext⟩ h
      | «at» next => exact absurd ⟨schedule, hschedule, hnext⟩ (hnone next)

/-- An upsert that has an answer ends, and leaves no transaction open. -/
lemma upsert_closes (h : ¬ u.Halts now r) (hsaved : s.store.saved = none) :
    (u.upsert r now).Ends s fun _ s' => s'.store.saved = none := by
  by_cases hnext : ∃ next, u.Computes r now next
  · obtain ⟨next, hnext⟩ := hnext
    refine (upsert_ends hnext hsaved).mono fun outcome s' h => ?_
    cases outcome with
    | error fault => exact h.2.saved
    | ok plan =>
        obtain ⟨-, d, -, -, hleaves⟩ := h
        exact hleaves.saved
  · exact (upsert_keeps_idle (fun next hc => hnext ⟨next, hc⟩) h hsaved).mono
      fun _ _ h => h.2.saved

variable {jobs : List (Registration Body)} {report : CycleReport}

/-- A cycle goes on with the next job, whatever the log says about the one before. -/
lemma goThrough_cons_ends {post : CycleReport → Session → Prop}
    (h : (u.upsert r now).Ends s fun outcome s' => ∀ s'', s''.store = s'.store →
      s''.clock = s'.clock → (u.goThrough now (report.count outcome) jobs).Ends s'' post) :
    (u.goThrough now report (r :: jobs)).Ends s post := by
  rw [goThrough]
  refine (Script.ends_bind _ _).mpr (h.mono fun outcome s' hrest => ?_)
  dsimp only
  cases notice? outcome with
  | none => exact hrest _ rfl rfl
  | some n => exact (Script.ends_bind _ _).mpr ((Script.ends_log _).mpr (hrest _ rfl rfl))

/-- Jobs with answers are all counted. -/
lemma goThrough_reaches (hjobs : ∀ r ∈ jobs, ¬ u.Halts now r) (hsaved : s.store.saved = none) :
    (u.goThrough now report jobs).Ends s fun report' s' =>
      report'.total = report.total + jobs.length ∧ s'.store.saved = none := by
  induction jobs generalizing report s with
  | nil => exact (Script.ends_pure _).mpr ⟨rfl, hsaved⟩
  | cons r rest ih =>
      obtain ⟨hr, hrest⟩ := List.forall_mem_cons.mp hjobs
      refine goThrough_cons_ends ((upsert_closes hr hsaved).mono
        fun outcome s' hclosed s'' hstore _ => ?_)
      refine (ih hrest (hstore ▸ hclosed)).mono fun report' s₃ h => ⟨?_, h.2⟩
      rw [h.1, CycleReport.total_count, List.length_cons, Nat.add_assoc, Nat.add_comm 1]

/-- A cycle goes through the jobs one part after the other. -/
lemma goThrough_append (before after : List (Registration Body)) :
    u.goThrough now report (before ++ after) =
      u.goThrough now report before >>= fun report' => u.goThrough now report' after := by
  induction before generalizing report with
  | nil => rfl
  | cons r rest ih =>
      rw [List.cons_append, goThrough, goThrough, bind_assoc]
      refine congrArg _ (funext fun outcome => ?_)
      dsimp only
      cases notice? outcome with
      | none => exact ih
      | some n =>
          rw [bind_assoc]
          exact congrArg (Script.log n >>= ·) (funext fun _ => ih)

/-- A cycle halts at the first job without an answer. What it has done by then stays. -/
lemma runOnce_halts {g : Registry Body} {before after : List (Registration Body)}
    (hjobs : g.periodic = before ++ r :: after) (hbefore : ∀ r' ∈ before, ¬ u.Halts now r')
    (hr : u.Halts now r) (hsaved : s.store.saved = none) :
    ∃ report s', (u.goThrough now .empty before).run s = (.ok report, s') ∧
      report.total = before.length ∧ (u.runOnce g now).run s = (.error .outOfCalendar, s') := by
  obtain ⟨report, s', hrun, htotal, -⟩ := goThrough_reaches hbefore hsaved
  refine ⟨report, s', hrun, htotal.trans (Nat.zero_add _), ?_⟩
  rw [runOnce, hjobs, goThrough_append, Script.run_bind, Script.run_bind, hrun]
  dsimp only
  rw [goThrough, Script.run_bind, run_upsert_of_halts hr]

/-- With a first job without an answer a cycle does nothing. -/
lemma runOnce_halts_at_once {g : Registry Body} {after : List (Registration Body)}
    (hjobs : g.periodic = r :: after) (hr : u.Halts now r) (s : Session) :
    (u.runOnce g now).run s = (.error .outOfCalendar, s) := by
  rw [runOnce, hjobs, Script.run_bind, goThrough, Script.run_bind, run_upsert_of_halts hr]

/-- A cycle ends when it has gone through its jobs, and measures what it reports. -/
lemma runOnce_ends {g : Registry Body} (post : CycleReport → Store → Prop)
    (h : (u.goThrough now .empty g.periodic).Ends s fun report s' => post report s'.store) :
    (u.runOnce g now).Ends s fun report s' => post report s'.store := by
  rw [runOnce]
  exact (Script.ends_bind _ _).mpr (h.mono fun report s' h => ⟨report, _, rfl, h⟩)

/-- A cycle whose jobs all have answers comes to its end and counts each of them. -/
lemma runOnce_reaches {g : Registry Body} (hjobs : ∀ r ∈ g.periodic, ¬ u.Halts now r)
    (hsaved : s.store.saved = none) :
    (u.runOnce g now).Ends s fun report _ => report.total = g.periodic.length :=
  runOnce_ends (fun report _ => report.total = g.periodic.length)
    ((goThrough_reaches hjobs hsaved).mono fun _ _ h => h.1.trans (Nat.zero_add _))

/-! ### Cycles and skipped days -/

/-- The search for the next time of the job meets a day that the zone lacks. -/
def Stuck (u : Upkeep) (now : Instant) (r : Registration Body) : Prop :=
  ∃ schedule, r.schedule = some schedule ∧ schedule.Stuck u.zone now

/-- The jobs of a registry have answers unless their schedules are stuck. -/
lemma halts_iff_stuck {g : Registry Body} (hg : g.Enrolled) (hz : u.zone.Lawful)
    (hnow : 0 ≤ now.secs) (hend : now.secs < Instant.lastSec) (hr : r ∈ g.periodic) :
    u.Halts now r ↔ u.Stuck now r := by
  refine exists_congr fun schedule => and_congr_right fun hschedule => ?_
  obtain ⟨text, hparse⟩ := hg.parsed r (List.mem_of_mem_filter hr) schedule hschedule
  exact Schedule.nextAfter_eq_outOfCalendar_iff_stuck hparse hz hnow hend

/-- **Every job is reached unless one meets a skipped day.** In any lawful zone, from 1970 until the
calendar ends: a schedule has an answer exactly if it is not stuck at a day that the zone lacks. In
a zone whose clock has run like one of the table since 2005, and from 3 January 2005 on, the only
such day is 30 December 2011, in the one zone that lacks it. A cycle none of whose periodic jobs is
stuck returns a report that counts each of them, whatever faults there are. A cycle with such a job
halts at the first one, with the jobs before it dealt with, and reaches none after it. -/
theorem reaches_all_unless_stuck {g : Registry Body} (hg : g.Enrolled) (hz : u.zone.Lawful)
    (hnow : 0 ≤ now.secs) (hend : now.secs < Instant.lastSec) (hsaved : s.store.saved = none) :
    (∀ text schedule, Schedule.parse text = .ok schedule →
      (schedule.nextAfter now u.zone = .outOfCalendar ↔ schedule.Stuck u.zone now) ∧
      ∀ z ∈ Zone.known, u.zone.RunsLike z → Zone.firstSec + 2 * secsPerDay ≤ now.secs →
        (schedule.Stuck u.zone now ↔
          z = .pacificApia ∧ schedule.MeetsSkippedDay u.zone now)) ∧
    ((∀ r ∈ g.periodic, ¬ u.Stuck now r) →
      (u.runOnce g now).Ends s fun report _ => report.total = g.periodic.length) ∧
    ∀ before r after, g.periodic = before ++ r :: after →
      (∀ r' ∈ before, ¬ u.Stuck now r') → u.Stuck now r →
      ∃ report s', (u.goThrough now .empty before).run s = (.ok report, s') ∧
        report.total = before.length ∧
        (u.runOnce g now).run s = (.error .outOfCalendar, s') := by
  have hiff {r : Registration Body} (hr : r ∈ g.periodic) := halts_iff_stuck hg hz hnow hend hr
  refine ⟨fun text schedule hparse => ⟨?_, fun z hknown hlike hrecent => ?_⟩, fun hnone => ?_, ?_⟩
  · exact Schedule.nextAfter_eq_outOfCalendar_iff_stuck hparse hz hnow hend
  · exact Schedule.stuck_iff_meetsSkippedDay (Schedule.proper_of_parse hparse) hz hknown hlike
      hrecent
  · exact runOnce_reaches (fun r hr hhalts => hnone r hr ((hiff hr).mp hhalts)) hsaved
  · intro before r after hjobs hbefore hr
    have hmem : r ∈ g.periodic := hjobs ▸ List.mem_append_right _ List.mem_cons_self
    refine runOnce_halts hjobs (fun r' hr' hhalts => ?_) ((hiff hmem).mpr hr) hsaved
    exact hbefore r' hr' ((hiff (hjobs ▸ List.mem_append_left _ hr')).mp hhalts)

/-! ### Noon in Apia -/

/-- Cycles in the zone without 30 December 2011. -/
def inApia : Upkeep := ⟨.pacificApia, defaultMargin, .ofSecs 5⟩

/-- A job at noon on the 31st. -/
def lastNoon (name : String) : Registration Unit :=
  ⟨name, some ⟨"0 12 31 * *", { Fields.daily with hours := [12], days := [31] }⟩, .none, ()⟩

/-- A job at noon. -/
def noon : Registration Unit :=
  ⟨"noon", some ⟨"0 12 * * *", { Fields.daily with hours := [12] }⟩, .none, ()⟩

lemma parse_noon : Schedule.parse "0 12 * * *" =
    .ok ⟨"0 12 * * *", { Fields.daily with hours := [12] }⟩ := by
  decide +kernel

lemma enrolled_noons : (⟨[lastNoon "first", noon, lastNoon "other"]⟩ : Registry Unit).Enrolled := by
  have hparse : Schedule.parse "0 12 31 * *" =
      .ok ⟨"0 12 31 * *", { Fields.daily with hours := [12], days := [31] }⟩ := by
    decide +kernel
  refine ⟨by decide +kernel, by decide +kernel, ?_⟩
  simp only [List.forall_mem_cons, lastNoon, noon, Option.some.injEq, forall_eq']
  exact ⟨⟨_, hparse⟩, ⟨_, parse_noon⟩, ⟨_, hparse⟩, nofun⟩

/-- At seven in the evening of 29 December, the job of the 31st is dealt with, and the one of every
day, which meets the skipped day, halts the cycle. -/
theorem reaches_all_unless_stuck_apia :
    (∃ schedule, noon.schedule = some schedule ∧
      schedule.MeetsSkippedDay .pacificApia ⟨1325221200, 0⟩) ∧
    ∃ report s', (inApia.goThrough ⟨1325221200, 0⟩ .empty [lastNoon "first"]).run
        (.new fun _ => ⟨0, 0⟩) = (.ok report, s') ∧ report.total = 1 ∧
      (inApia.runOnce ⟨[lastNoon "first", noon, lastNoon "other"]⟩ ⟨1325221200, 0⟩).run
        (.new fun _ => ⟨0, 0⟩) = (.error .outOfCalendar, s') := by
  have hknown : Zone.pacificApia ∈ Zone.known := by decide +kernel
  have hz : inApia.zone.Lawful := Zone.lawful_of_mem_known hknown
  have hend : (⟨1325221200, 0⟩ : Instant).secs < Instant.lastSec := by decide
  obtain ⟨hanswers, -, hhalts⟩ := reaches_all_unless_stuck (s := .new fun _ => ⟨0, 0⟩)
    enrolled_noons hz (by decide) hend rfl
  obtain ⟨hiff, hmeets⟩ := hanswers _ _ parse_noon
  have hstuck := hiff.mp (by decide +kernel)
  refine ⟨⟨_, rfl, ((hmeets _ hknown (.refl _) (by decide)).mp hstuck).2⟩,
    hhalts [lastNoon "first"] noon [lastNoon "other"] rfl (fun r hr => ?_) ⟨_, rfl, hstuck⟩⟩
  rw [List.mem_singleton.mp hr, ← halts_iff_stuck enrolled_noons hz (by decide) (by decide)
    List.mem_cons_self]
  decide +kernel

/-- At the same time, by itself: there is no next noon, and the cycle does not come to its end. -/
theorem noon_halts : ∃ schedule, Schedule.parse "0 12 * * *" = .ok schedule ∧
    Zone.pacificApia ∈ Zone.known ∧
    schedule.nextAfter ⟨1325221200, 0⟩ .pacificApia = .outOfCalendar ∧
    ∀ s : Session, (inApia.runOnce ⟨[⟨"noon", some schedule, .none, ()⟩]⟩ ⟨1325221200, 0⟩).run s =
      (.error .outOfCalendar, s) := by
  have hnext : Schedule.nextAfter ⟨"0 12 * * *", { Fields.daily with hours := [12] }⟩
      ⟨1325221200, 0⟩ .pacificApia = .outOfCalendar := by
    decide +kernel
  exact ⟨_, parse_noon, by decide +kernel, hnext,
    runOnce_halts_at_once (r := noon) rfl ⟨_, rfl, hnext⟩⟩

end Upkeep

end JobDispatch
