import JobDispatch.Proofs.Cron.Answer

/-!
Local times that occur twice.

When a clock is set back it shows some local times twice. A schedule fires at neither of the two
instants, so that unless it fires at another time before the second one, it fires after both.

* `Schedule.Marks.awaits`: once the local clock has come to 1970, a schedule without a restriction
  on years awaits all its later marks.
* `Schedule.nextAfter_le_overlap_iff`: when the next time comes by the second instant.
-/

namespace JobDispatch

open Cron (CalendarTime Fields)

namespace Schedule

variable {text : String} {s : Schedule} {z : Zone} {now t : Instant}

/-- Once the local clock has come to 1970, a schedule without a restriction on years awaits all its
later marks. -/
lemma Marks.awaits (hf : s.fields.Proper) (hall : s.fields.everyYear = true) (hz : z.Lawful)
    (hlow : 1970 ≤ (CalendarTime.ofSecs (z.localAt (now.secs + 1))).date.year) {u : Int}
    (h : s.Marks z u) (hlater : now < Instant.ofSecs u) : s.Awaits z now u := by
  have hshown := hz.localAt_le (now.succ_le_of_lt_ofSecs hlater) h.once
  obtain ⟨year, hmem, hyear⟩ := h.admits.2.2.2.2.2.2
  have hhigh : (CalendarTime.ofSecs (z.localAt (now.secs + 1))).date.year ≤ year :=
    Int.le_trans (Date.year_ofDays_mono (by omega)) (Int.le_of_eq hyear)
  -- the year asked in is one of the schedule's, so that nothing is passed over
  have hown : ∃ y ∈ s.fields.years,
      (CalendarTime.ofSecs (z.localAt (now.secs + 1))).date.year = (y : Int) := by
    have hlast := ((Fields.mem_years hall).mp hmem).2
    exact ⟨_, (Fields.mem_years hall).mpr (by omega), (Int.toNat_of_nonneg (by omega)).symm⟩
  refine ⟨h, _, Fields.onset_of_mem hf (CalendarTime.valid_ofSecs _) hown, ?_⟩
  rwa [CalendarTime.toSecs_ofSecs]

/-- **Overlaps**. A schedule without a restriction on years, in a lawful zone, asked from 1970 on:
for two instants at which the local clock shows the same, the next time is neither of them. It
comes by the second one exactly if the schedule awaits another time before that one. If the local
clock has come to 1970 as well, that is any later time before that one which the clock shows only
once. -/
theorem nextAfter_le_overlap_iff (hparse : parse text = .ok s) (hall : s.fields.everyYear = true)
    (hz : z.Lawful) (hnow : 0 ≤ now.secs) (hnext : s.nextAfter now z = .at t)
    {first second : Int} (hlt : first < second) (hsame : z.localAt first = z.localAt second) :
    t ≠ Instant.ofSecs first ∧ t ≠ Instant.ofSecs second ∧
      (t ≤ Instant.ofSecs second ↔ ∃ u, u < second ∧ s.Awaits z now u) ∧
      (1970 ≤ (CalendarTime.ofSecs (z.localAt (now.secs + 1))).date.year →
        (t ≤ Instant.ofSecs second ↔
          ∃ u, now < Instant.ofSecs u ∧ u < second ∧ s.Marks z u)) := by
  have hf := proper_of_parse hparse
  obtain ⟨secs, rfl, hawaits, hleast⟩ := awaits_of_nextAfter hparse hz hnow hnext
  have hfirst : secs ≠ first := by
    rintro rfl
    have hother := hawaits.marks.once second hsame.symm
    omega
  have hsecond : secs ≠ second := by
    rintro rfl
    have hother := hawaits.marks.once first hsame
    omega
  have hiff : Instant.ofSecs secs ≤ Instant.ofSecs second ↔
      ∃ u, u < second ∧ s.Awaits z now u := by
    rw [Instant.ofSecs_le_ofSecs]
    constructor
    · exact fun h => ⟨secs, by omega, hawaits⟩
    · rintro ⟨u, hbefore, hu⟩
      exact Int.le_of_lt (Int.lt_of_le_of_lt (hleast u hu) hbefore)
  refine ⟨fun h => hfirst (Instant.mk.inj h).1, fun h => hsecond (Instant.mk.inj h).1, hiff,
    fun hlow => hiff.trans (exists_congr fun u => ?_)⟩
  constructor
  · exact fun ⟨hbefore, hu⟩ => ⟨hu.lt hf hz, hbefore, hu.marks⟩
  · exact fun ⟨hlater, hbefore, hmarks⟩ => ⟨hbefore, hmarks.awaits hf hall hz hlow hlater⟩

/-- At half past one and half past two in Prague, asked on the day before 27 October 2024, when the
clock shows half past two twice: half past one comes first. -/
theorem nextAfter_le_overlap_iff_hourly : ∃ s, parse "30 1,2 * * *" = .ok s ∧
    s.nextAfter ⟨1729944000, 0⟩ .europePrague = .at (.ofSecs 1729985400) ∧
    Zone.europePrague.localAt 1729989000 = Zone.europePrague.localAt 1729992600 ∧
    ∃ u, (⟨1729944000, 0⟩ : Instant) < Instant.ofSecs u ∧ u < 1729992600 ∧
      s.Marks .europePrague u := by
  have hparse : parse "30 1,2 * * *" = .ok ⟨"30 1,2 * * *", { Fields.daily with
      minutes := [30], hours := [1, 2] }⟩ := by
    decide +kernel
  have hnext : nextAfter ⟨"30 1,2 * * *", { Fields.daily with minutes := [30], hours := [1, 2] }⟩
      ⟨1729944000, 0⟩ .europePrague = .at (.ofSecs 1729985400) := by
    decide +kernel
  have hsame : Zone.europePrague.localAt 1729989000 = Zone.europePrague.localAt 1729992600 := by
    decide +kernel
  have hlawful : Zone.europePrague.Lawful := Zone.lawful_of_mem_known (by decide +kernel)
  obtain ⟨-, -, -, hiff⟩ := nextAfter_le_overlap_iff hparse (by decide) hlawful (by decide) hnext
    (by decide) hsame
  exact ⟨_, hparse, hnext, hsame, (hiff (by decide +kernel)).mp (by decide)⟩

/-- At half past two in Prague, asked on the day before 27 October 2024, when the clock shows that
time twice: the next time is on the day after. -/
theorem neither_occurrence_fires : ∃ s, parse "30 2 * * *" = .ok s ∧ s.fields.everyYear = true ∧
    Zone.europePrague ∈ Zone.known ∧
    Zone.europePrague.localAt 1729989000 = Zone.europePrague.localAt 1729992600 ∧
    s.fields.Admits (CalendarTime.ofSecs (Zone.europePrague.localAt 1729989000)) ∧
    (⟨1729944000, 0⟩ : Instant) < .ofSecs 1729989000 ∧
    s.nextAfter ⟨1729944000, 0⟩ .europePrague = .at (.ofSecs 1730079000) ∧
    ¬ Instant.ofSecs 1730079000 ≤ Instant.ofSecs 1729992600 := by
  have hparse : parse "30 2 * * *" =
      .ok ⟨"30 2 * * *", { Fields.daily with minutes := [30], hours := [2] }⟩ := by
    decide +kernel
  exact ⟨_, hparse, by decide, by decide +kernel, by decide +kernel, by decide +kernel, by decide,
    by decide +kernel, by decide⟩

end Schedule

end JobDispatch
