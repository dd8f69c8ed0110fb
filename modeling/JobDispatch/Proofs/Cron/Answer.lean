import JobDispatch.Proofs.Cron.Soundness
import JobDispatch.Proofs.Zone.Gaps

/-!
What the answer to when a schedule fires next is.

A second is a mark of a schedule if the local clock shows a time of the schedule there and nowhere
else. Asked at an instant, a schedule awaits its marks from the onset on, and the next time is the
first of them. There is no answer if the zone lacks a day before that mark on which the search would
try a time.

* `Upcoming.Answers`: the next time is the least of some seconds, and there is one if there are any.
* `Schedule.Marks`, `Schedule.Awaits` and `Schedule.Stuck` say what the next time depends on.
* `Schedule.nextAfter_eq_outOfCalendar_iff`: when there is no answer.
* `Schedule.nextAfter_answers`: otherwise the next time is the first mark that is awaited.
-/

namespace JobDispatch

open Cron (CalendarTime Fields Upcoming Verdict)

/-- The answer names the least of the seconds, or says that there is none. -/
def Cron.Upcoming.Answers (p : Int → Prop) : Upcoming → Prop
  | .at t => ∃ secs, t = Instant.ofSecs secs ∧ p secs ∧ ∀ u, p u → secs ≤ u
  | .never => ∀ u, ¬ p u
  | .outOfCalendar => False

instance (f : Fields) (c : CalendarTime) : Decidable (f.Admits c) := by
  unfold Cron.Fields.Admits
  infer_instance

/-- The years of the fields begin with 1970. -/
lemma Cron.Fields.Tries.recent {f : Fields} {c : CalendarTime} (hf : f.Proper) (h : f.Tries c) :
    c.Recent := by
  obtain ⟨y, hy, heq⟩ := h.year
  have hlow : 1970 ≤ y := (hf.years.2 y hy).1
  exact ⟨h.valid, by omega⟩

namespace Schedule

/-- The local clock shows a time of the schedule at the second, and shows it at no other. -/
structure Marks (s : Schedule) (z : Zone) (u : Int) : Prop where
  admits : s.fields.Admits (CalendarTime.ofSecs (z.localAt u))
  once : z.Once u

/-- The reading from which on a schedule takes readings into account, asked at an instant. -/
def onset (s : Schedule) (z : Zone) (now : Instant) : Option CalendarTime :=
  s.fields.onset (CalendarTime.ofSecs (z.localAt (now.secs + 1)))

/-- The second is a mark of the schedule, and its reading is not before the onset. -/
structure Awaits (s : Schedule) (z : Zone) (now : Instant) (u : Int) : Prop where
  marks : s.Marks z u
  late : ∃ b ∈ s.onset z now, b.toSecs ≤ z.localAt u

/-- On a day that the zone lacks there is a reading that the search tries before any mark. -/
def Stuck (s : Schedule) (z : Zone) (now : Instant) : Prop :=
  ∃ b ∈ s.onset z now, ∃ c, s.fields.Tries c ∧ z.hasDay c.date.toDays = false ∧
    b.toSecs ≤ c.toSecs ∧ ∀ u, s.Awaits z now u → c.toSecs ≤ z.localAt u

variable {text : String} {s : Schedule} {z : Zone} {now t : Instant}

/-- The reading asked from lies in a year from 0 on. -/
lemma year_start_nonneg (hz : z.Lawful) (hnow : 0 ≤ now.secs) :
    0 ≤ (CalendarTime.ofSecs (z.localAt (now.secs + 1))).date.year := by
  have hshown := (hz.localAt_bounds (now.secs + 1)).1
  refine (Date.le_year_ofDays_iff 0 _).mpr ?_
  have hfirst : (⟨0, 1, 1⟩ : Date).toDays = -719528 := by decide +kernel
  rw [hfirst]
  simp only [secsPerDay] at hshown
  omega

/-- What is awaited is later than the instant asked from. -/
lemma Awaits.lt (hf : s.fields.Proper) (hz : z.Lawful) {u : Int} (h : s.Awaits z now u) :
    now < Instant.ofSecs u := by
  obtain ⟨b, hb, hle⟩ := h.late
  have hstart := (Fields.le_onset hf (CalendarTime.valid_ofSecs _) hb).2
  rw [CalendarTime.toSecs_ofSecs] at hstart
  exact .inl (Int.lt_of_add_one_le (hz.le_of_localAt_le h.marks.once (Int.le_trans hstart hle)))

/-- A mark that is awaited stops the search. -/
lemma Awaits.eligible (hf : s.fields.Proper) (hz : z.Lawful) {b : CalendarTime} {u : Int}
    (hb : s.onset z now = some b) (h : s.Awaits z now u) :
    s.fields.Eligible z b CalendarTime.Recent true (CalendarTime.ofSecs (z.localAt u)) := by
  obtain ⟨b', hb', hle⟩ := h.late
  obtain rfl : b = b' := Option.some.inj (hb.symm.trans hb')
  have hfires : s.fields.Fires z (CalendarTime.ofSecs (z.localAt u)) := by
    refine ⟨CalendarTime.valid_ofSecs _, h.marks.admits, u, ?_⟩
    rw [CalendarTime.toSecs_ofSecs]
    exact hz.instantsOf_eq h.marks.once
  refine ⟨hfires.stops.tries.recent hf, hfires.stops, fun _ => ?_⟩
  rw [CalendarTime.toSecs_ofSecs]
  exact hle

/-- A reading on a day that the zone lacks stops the search. -/
lemma eligible_of_missing (hf : s.fields.Proper) {b c : CalendarTime} (htries : s.fields.Tries c)
    (hday : z.hasDay c.date.toDays = false) (hle : b.toSecs ≤ c.toSecs) :
    s.fields.Eligible z b CalendarTime.Recent true c :=
  ⟨htries.recent hf, ⟨htries, .inr hday⟩, fun _ => hle⟩

/-- A schedule that is stuck stops the search on a day that the zone lacks. -/
lemma Stuck.exists_eligible (hf : s.fields.Proper) {b : CalendarTime} (hb : s.onset z now = some b)
    (h : s.Stuck z now) : ∃ c, s.fields.Eligible z b CalendarTime.Recent true c ∧
      z.hasDay c.date.toDays = false ∧ ∀ u, s.Awaits z now u → c.toSecs ≤ z.localAt u := by
  obtain ⟨b', hb', c, htries, hday, hle, hfirst⟩ := h
  obtain rfl : b = b' := Option.some.inj (hb.symm.trans hb')
  exact ⟨c, eligible_of_missing hf htries hday hle, hday, hfirst⟩

/-- A search from the onset that ends on a day that the zone lacks. -/
lemma stuck_of_settles (hf : s.fields.Proper) (hz : z.Lawful) {b : CalendarTime}
    (hb : s.onset z now = some b)
    (h : Verdict.noSuchDay.Settles s.fields z b CalendarTime.Recent true) : s.Stuck z now := by
  obtain ⟨first, ⟨⟨-, hstops, hlate⟩, hleast⟩, hday⟩ := h
  refine ⟨b, hb, first, hstops.tries, hday, hlate rfl, fun u hu => ?_⟩
  have hle := hleast _ (hu.eligible hf hz hb)
  rwa [CalendarTime.toSecs_ofSecs] at hle

/-- A search from the onset that fires does so at the first mark that is awaited. -/
lemma awaits_of_settles (hf : s.fields.Proper) (hz : z.Lawful) {b : CalendarTime} {secs : Int}
    (hb : s.onset z now = some b)
    (h : (Verdict.fires secs).Settles s.fields z b CalendarTime.Recent true) :
    s.Awaits z now secs ∧ (∀ u, s.Awaits z now u → secs ≤ u) ∧ ¬ s.Stuck z now := by
  obtain ⟨first, ⟨hfires, hday, heligible⟩, hinstants, hleast⟩ := h
  obtain ⟨hshown, honce⟩ := hz.of_instantsOf_eq hinstants
  have hawaits : s.Awaits z now secs := by
    refine ⟨⟨?_, honce⟩, b, hb, ?_⟩
    · rw [hshown, hfires.valid.ofSecs_toSecs]
      exact hfires.admits
    · rw [hshown]
      exact heligible.late rfl
  refine ⟨hawaits, fun u hu => ?_, fun hstuck => ?_⟩
  · have hle := hleast _ (hu.eligible hf hz hb)
    rw [CalendarTime.toSecs_ofSecs, ← hshown] at hle
    exact hz.le_of_localAt_le hu.marks.once hle
  · -- the mark is not before the reading on the missing day, which is not before the mark
    obtain ⟨c, hc, hmissing, hfirst⟩ := hstuck.exists_eligible hf hb
    have hbefore := hfirst secs hawaits
    have hafter := hleast c hc
    have hsame : first = c := hfires.valid.eq_of_toSecs hc.stops.tries.valid (by omega)
    rw [← hsame, hday] at hmissing
    cases hmissing

/-- What the search from the next second finds: nothing, and there is nothing; a day that the zone
lacks; or the first mark that is awaited. -/
lemma search_cases (hf : s.fields.Proper) (hz : z.Lawful) (hnow : 0 ≤ now.secs)
    {found : Verdict}
    (hfound : s.fields.search z (CalendarTime.ofSecs (z.localAt (now.secs + 1))) = found) :
    (found = .nothing ∧ (∀ u, ¬ s.Awaits z now u) ∧ ¬ s.Stuck z now) ∨
      (found = .noSuchDay ∧ s.Stuck z now) ∨
      ∃ secs, found = .fires secs ∧ s.Awaits z now secs ∧ (∀ u, s.Awaits z now u → secs ≤ u) ∧
        ¬ s.Stuck z now := by
  cases hb : s.onset z now with
  | none =>
      refine .inl ⟨hfound.symm.trans (Fields.search_of_onset_eq_none z hb), fun u hu => ?_, ?_⟩
      · obtain ⟨b, hmem, -⟩ := hu.late
        rw [hb] at hmem
        cases hmem
      · rintro ⟨b, hmem, -⟩
        rw [hb] at hmem
        cases hmem
  | some b =>
      have hvalid := CalendarTime.valid_ofSecs (z.localAt (now.secs + 1))
      have hsettles :=
        Fields.search_settles_onset hf hvalid (year_start_nonneg hz hnow) hb (z := z)
      rw [hfound] at hsettles
      cases found with
      | leaveDay => exact absurd hfound (Fields.search_ne_leaveDay _ _ _)
      | nothing =>
          refine .inl ⟨rfl, fun u hu => hsettles _ (hu.eligible hf hz hb), fun hstuck => ?_⟩
          obtain ⟨c, hc, -⟩ := hstuck.exists_eligible hf hb
          exact hsettles c hc
      | noSuchDay => exact .inr (.inl ⟨rfl, stuck_of_settles hf hz hb hsettles⟩)
      | fires secs => exact .inr (.inr ⟨secs, rfl, awaits_of_settles hf hz hb hsettles⟩)

/-! ### The answer -/

/-- **No answer**. In a lawful zone, from 1970 on, a schedule has no answer exactly if the calendar
is at its end or the search meets a day that the zone lacks. -/
theorem nextAfter_eq_outOfCalendar_iff (hparse : parse text = .ok s) (hz : z.Lawful)
    (hnow : 0 ≤ now.secs) :
    s.nextAfter now z = .outOfCalendar ↔ Instant.lastSec ≤ now.secs ∨ s.Stuck z now := by
  rw [nextAfter, Fields.nextAfter]
  by_cases hend : Instant.lastSec < now.secs + 1
  · exact iff_of_true (if_pos hend) (.inl (by omega))
  · rw [if_neg hend]
    obtain ⟨hfound, -, hfree⟩ | ⟨hfound, hstuck⟩ | ⟨secs, hfound, -, -, hfree⟩ :=
      search_cases (proper_of_parse hparse) hz hnow rfl
    · rw [hfound]
      exact iff_of_false (by simp) (not_or.mpr ⟨by omega, hfree⟩)
    · rw [hfound]
      exact iff_of_true rfl (.inr hstuck)
    · rw [hfound]
      exact iff_of_false (by simp) (not_or.mpr ⟨by omega, hfree⟩)

/-- **First mark**. Otherwise the next time is the first mark that is awaited. -/
theorem nextAfter_answers (hparse : parse text = .ok s) (hz : z.Lawful)
    (hnow : 0 ≤ now.secs) (hend : now.secs < Instant.lastSec) (hfree : ¬ s.Stuck z now) :
    (s.nextAfter now z).Answers (s.Awaits z now) := by
  rw [nextAfter, Fields.nextAfter, if_neg (by omega)]
  obtain ⟨hfound, hnone, -⟩ | ⟨hfound, hstuck⟩ | ⟨secs, hfound, hawaits, hleast, -⟩ :=
    search_cases (proper_of_parse hparse) hz hnow rfl
  · rw [hfound]
    exact hnone
  · exact absurd hstuck hfree
  · rw [hfound]
    exact ⟨secs, rfl, hawaits, hleast⟩

/-- A next time is awaited, and nothing before it is. -/
lemma awaits_of_nextAfter (hparse : parse text = .ok s) (hz : z.Lawful) (hnow : 0 ≤ now.secs)
    (hnext : s.nextAfter now z = .at t) :
    ∃ secs, t = Instant.ofSecs secs ∧ s.Awaits z now secs ∧ ∀ u, s.Awaits z now u → secs ≤ u := by
  have hanswer : ¬ (Instant.lastSec ≤ now.secs ∨ s.Stuck z now) := by
    rw [← nextAfter_eq_outOfCalendar_iff hparse hz hnow, hnext]
    exact nofun
  obtain ⟨hend, hfree⟩ := not_or.mp hanswer
  have hanswers := nextAfter_answers hparse hz hnow (Int.not_le.mp hend) hfree
  rwa [hnext] at hanswers

end Schedule

end JobDispatch
