import JobDispatch.Proofs.Cron.Answer

/-!
Schedules whose years are restricted.

The first year of a schedule that is not over is searched from the month, the day and the time of
day of the instant asked from, whatever that year is. If it is a later year, the times of the
schedule before that are passed over, and a schedule of that year alone may never fire.

* `Schedule.PassesOver`: a time of the schedule that is passed over.
* `Schedule.not_passesOver_of_mem`: a schedule of the year asked in passes nothing over.
* `Schedule.nextAfter_utc_answers_iff`: the next time is the first time of the schedule exactly if
  nothing is passed over.
-/

namespace JobDispatch

open Cron (CalendarTime Fields Upcoming)

namespace Zone

/-- The clock of UTC shows the seconds as they are. -/
@[simp] lemma localAt_utc (t : Int) : utc.localAt t = t := by
  show t + 0 * secsPerMinute = t
  omega

lemma once_utc (t : Int) : utc.Once t := by
  intro v hv
  rwa [localAt_utc, localAt_utc] at hv

lemma lawful_utc : utc.Lawful := ⟨.nil, .nil, by decide, nofun⟩

lemma hasDay_utc (day : Int) : utc.hasDay day = true :=
  lawful_utc.hasDay_iff.mpr ⟨_, .inl (localAt_utc _)⟩

end Zone

namespace Schedule

/-- The second, later than the instant asked from, is a time of the schedule in UTC, but before the
reading from which on the schedule takes readings into account. -/
structure PassesOver (s : Schedule) (now : Instant) (u : Int) : Prop where
  later : now < Instant.ofSecs u
  admits : s.fields.Admits (CalendarTime.ofSecs u)
  early : ∀ b ∈ s.onset .utc now, u < b.toSecs

variable {text : String} {s : Schedule} {now : Instant}

/-- In a year of its own a schedule passes nothing over. -/
theorem not_passesOver_of_mem (hf : s.fields.Proper)
    (hown : ∃ y ∈ s.fields.years, (CalendarTime.ofSecs (now.secs + 1)).date.year = (y : Int))
    (u : Int) : ¬ s.PassesOver now u := by
  intro h
  have honset : s.onset .utc now = some (CalendarTime.ofSecs (now.secs + 1)) := by
    rw [onset, Zone.localAt_utc]
    exact Fields.onset_of_mem hf (CalendarTime.valid_ofSecs _) hown
  have hearly := h.early _ honset
  rw [CalendarTime.toSecs_ofSecs] at hearly
  exact absurd (now.succ_le_of_lt_ofSecs h.later) (Int.not_le.mpr hearly)

/-- In UTC no schedule meets a day that is not there. -/
lemma not_stuck_utc : ¬ s.Stuck .utc now := by
  rintro ⟨b, -, c, -, hday, -⟩
  rw [Zone.hasDay_utc] at hday
  cases hday

/-- In UTC a schedule awaits its later times, unless it passes them over. -/
lemma awaits_utc_iff (hf : s.fields.Proper) (u : Int) :
    s.Awaits .utc now u ↔ (now < Instant.ofSecs u ∧ s.fields.Admits (CalendarTime.ofSecs u)) ∧
      ¬ s.PassesOver now u := by
  constructor
  · intro h
    have hadmits := h.marks.admits
    obtain ⟨b, hb, hle⟩ := h.late
    rw [Zone.localAt_utc] at hadmits hle
    exact ⟨⟨h.lt hf Zone.lawful_utc, hadmits⟩, fun hpass =>
      absurd (hpass.early b hb) (Int.not_lt.mpr hle)⟩
  · rintro ⟨⟨hlater, hadmits⟩, hkept⟩
    refine ⟨⟨by rwa [Zone.localAt_utc], Zone.once_utc u⟩, ?_⟩
    by_contra hearly
    refine hkept ⟨hlater, hadmits, fun b hb => Int.not_le.mp fun hle => hearly ⟨b, hb, ?_⟩⟩
    rwa [Zone.localAt_utc]

/-- **Restricted years**. In UTC, from 1970 until the calendar ends, the next time of a schedule is
the first one that it awaits. This is its first time after the instant asked from exactly if it
passes no time over. -/
theorem nextAfter_utc_answers_iff (hparse : parse text = .ok s) (hnow : 0 ≤ now.secs) :
    (now.secs < Instant.lastSec → (s.nextAfter now .utc).Answers (s.Awaits .utc now)) ∧
    ((s.nextAfter now .utc).Answers
        (fun u => now < Instant.ofSecs u ∧ s.fields.Admits (CalendarTime.ofSecs u)) ↔
      now.secs < Instant.lastSec ∧ ∀ u, ¬ s.PassesOver now u) := by
  have hawaited (hend : now.secs < Instant.lastSec) :
      (s.nextAfter now .utc).Answers (s.Awaits .utc now) :=
    nextAfter_answers hparse Zone.lawful_utc hnow hend not_stuck_utc
  refine ⟨hawaited, fun hfirst => ?_, ?_⟩
  · have hend : now.secs < Instant.lastSec := by
      by_contra hover
      rw [(nextAfter_eq_outOfCalendar_iff hparse Zone.lawful_utc hnow).mpr
        (.inl (Int.not_lt.mp hover))] at hfirst
      exact hfirst
    refine ⟨hend, fun u hpass => ?_⟩
    replace hawaited := hawaited hend
    generalize s.nextAfter now .utc = answer at hfirst hawaited
    cases answer with
    | outOfCalendar => exact hfirst
    | never => exact hfirst u ⟨hpass.later, hpass.admits⟩
    | «at» t =>
        -- the time passed over would be earlier than the onset, and not earlier than the next time
        obtain ⟨secs, rfl, -, hleast⟩ := hfirst
        obtain ⟨secs', hsame, hawaits, -⟩ := hawaited
        obtain rfl : secs = secs' := (Instant.mk.inj hsame).1
        obtain ⟨b, hb, hle⟩ := hawaits.late
        rw [Zone.localAt_utc] at hle
        apply Int.lt_irrefl u
        calc u < b.toSecs := hpass.early b hb
          _ ≤ secs := hle
          _ ≤ u := hleast u ⟨hpass.later, hpass.admits⟩
  · rintro ⟨hend, hnone⟩
    have hsame : s.Awaits .utc now =
        fun u => now < Instant.ofSecs u ∧ s.fields.Admits (CalendarTime.ofSecs u) :=
      funext fun u => propext ((awaits_utc_iff (proper_of_parse hparse) u).trans
        (and_iff_left (hnone u)))
    exact hsame ▸ hawaited hend

/-- Noon on the last day of 2030, asked at the beginning of 2026: in time. -/
theorem nextAfter_utc_answers_iff_last_day : ∃ s, parse "0 0 12 31 12 ? 2030" = .ok s ∧
    s.nextAfter ⟨1767225600, 0⟩ .utc = .at (.ofSecs 1924948800) ∧
    (s.nextAfter ⟨1767225600, 0⟩ .utc).Answers (s.Awaits .utc ⟨1767225600, 0⟩) ∧
    ((s.nextAfter ⟨1767225600, 0⟩ .utc).Answers (fun u =>
        (⟨1767225600, 0⟩ : Instant) < Instant.ofSecs u ∧
          s.fields.Admits (CalendarTime.ofSecs u)) ↔
      (1767225600 : Int) < Instant.lastSec ∧ ∀ u, ¬ s.PassesOver ⟨1767225600, 0⟩ u) := by
  have hparse : parse "0 0 12 31 12 ? 2030" = .ok ⟨"0 0 12 31 12 ? 2030", { Fields.daily with
      hours := [12], days := [31], months := [12], years := [2030] }⟩ := by
    decide +kernel
  obtain ⟨hawaited, hiff⟩ :=
    @nextAfter_utc_answers_iff _ _ ⟨1767225600, 0⟩ hparse (by decide)
  exact ⟨_, hparse, by decide +kernel, hawaited (by decide), hiff⟩

/-- New Year 2030, asked in the middle of 2026: never. -/
theorem never_though_admitted : ∃ s, parse "0 0 0 1 1 ? 2030" = .ok s ∧
    s.fields.everyYear = false ∧ s.nextAfter ⟨1782864000, 0⟩ .utc = .never ∧
    (⟨1782864000, 0⟩ : Instant) < .ofSecs 1893456000 ∧
    s.fields.Admits (CalendarTime.ofSecs 1893456000) := by
  have hparse : parse "0 0 0 1 1 ? 2030" = .ok ⟨"0 0 0 1 1 ? 2030", { Fields.daily with
      hours := [0], days := [1], months := [1], years := [2030] }⟩ := by
    decide +kernel
  exact ⟨_, hparse, by decide, by decide +kernel, by decide, by decide +kernel⟩

end Schedule

end JobDispatch
