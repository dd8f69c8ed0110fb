import JobDispatch.Proofs.Cron.Onset
import JobDispatch.Proofs.Time.Order
import JobDispatch.Proofs.Zone.Order

/-!
The next time of a schedule is a time of the schedule.

* `Fields.exists_of_search`: the search fires only at readings that are not before the start.
* `Schedule.nextAfter_admits`: the next time is later than the instant asked from, and the clock
  shows there, and only there, a time of the schedule.
-/

namespace JobDispatch

open Cron (CalendarTime Fields)

namespace Cron

/-! ### Readings and seconds -/

/-- Two readings at the same seconds are the same. -/
lemma CalendarTime.Valid.eq_of_toSecs {c c' : CalendarTime} (h : c.Valid) (h' : c'.Valid)
    (heq : c.toSecs = c'.toSecs) : c = c' := by
  obtain ⟨date, hour, minute, second⟩ := c
  obtain ⟨date', hour', minute', second'⟩ := c'
  have hhour : hour < 24 := h.hour
  have hminute : minute < 60 := h.minute
  have hsecond : second < 60 := h.second
  have hhour' : hour' < 24 := h'.hour
  have hminute' : minute' < 60 := h'.minute
  have hsecond' : second' < 60 := h'.second
  simp only [toSecs] at heq
  have hdays : date.toDays = date'.toDays := by omega
  obtain rfl : date = date' := h.date.eq_of_toDays h'.date hdays
  obtain ⟨rfl, rfl, rfl⟩ : hour = hour' ∧ minute = minute' ∧ second = second' := by omega
  rfl

/-- A reading is the one at its own seconds. -/
lemma CalendarTime.Valid.ofSecs_toSecs {c : CalendarTime} (h : c.Valid) : ofSecs c.toSecs = c :=
  (valid_ofSecs _).eq_of_toSecs h (toSecs_ofSecs _)

/-! ### What a search fires at -/

/-- The search fires at a reading that is not before the start. -/
lemma Fields.exists_of_search {f : Fields} {z : Zone} {start : CalendarTime} {secs : Int}
    (hf : f.Proper) (hstart : start.Valid) (h : f.search z start = .fires secs) :
    ∃ c, f.Fires z c ∧ z.instantsOf c.toSecs = [secs] ∧ start.toSecs ≤ c.toSecs := by
  have hpast : 0 ≤ start.date.year := by
    by_contra hneg
    rw [search, if_pos (Int.not_le.mp hneg)] at h
    cases h
  cases hb : f.onset start with
  | none =>
      rw [search_of_onset_eq_none z hb] at h
      cases h
  | some b =>
      have hsettles := search_settles_onset hf hstart hpast hb (z := z)
      rw [h] at hsettles
      obtain ⟨c, ⟨hfires, -, hc⟩, honce, -⟩ := hsettles
      exact ⟨c, hfires, honce, Int.le_trans (le_onset hf hstart hb).2 (hc.late rfl)⟩

end Cron

namespace Schedule

variable {s : Schedule} {z : Zone}

/-- The next time is one at which the search fires. The clock shows it once, after the instant asked
from. -/
lemma exists_shown_of_nextAfter {text : String} (hparse : parse text = .ok s) (hz : z.Lawful)
    {now t : Instant} (hnext : s.nextAfter now z = .at t) :
    ∃ secs c, t = .ofSecs secs ∧ now < .ofSecs secs ∧ z.Once secs ∧ z.localAt secs = c.toSecs ∧
      s.fields.Fires z c := by
  obtain ⟨secs, rfl, hsearch⟩ := Fields.search_eq_fires hnext
  obtain ⟨c, hfires, hinstants, hle⟩ := Fields.exists_of_search (proper_of_parse hparse)
    (CalendarTime.valid_ofSecs _) hsearch
  obtain ⟨hshown, honce⟩ := hz.of_instantsOf_eq hinstants
  rw [CalendarTime.toSecs_ofSecs, ← hshown] at hle
  have hlate := hz.le_of_localAt_le honce hle
  exact ⟨secs, c, rfl, .inl (Int.lt_of_add_one_le hlate), honce, hshown, hfires⟩

lemma lt_of_nextAfter {text : String} (hparse : parse text = .ok s) (hz : z.Lawful)
    {now t : Instant} (hnext : s.nextAfter now z = .at t) : now < t := by
  obtain ⟨secs, c, rfl, hlater, -⟩ := exists_shown_of_nextAfter hparse hz hnext
  exact hlater

/-- **Sound next time**. The next time of a schedule in a known zone is a whole second after the
instant asked from. The local clock shows it at no other second, and what it shows lies in all
fields of the schedule. -/
theorem nextAfter_admits {text : String} (hparse : parse text = .ok s) (hz : z ∈ Zone.known)
    {now t : Instant} (hnext : s.nextAfter now z = .at t) :
    now < t ∧ t.nanos = 0 ∧ z.Once t.secs ∧
      s.fields.Admits (CalendarTime.ofSecs (z.localAt t.secs)) := by
  obtain ⟨secs, c, rfl, hlater, honce, hshown, hfires⟩ :=
    exists_shown_of_nextAfter hparse (Zone.lawful_of_mem_known hz) hnext
  refine ⟨hlater, rfl, honce, ?_⟩
  show s.fields.Admits (CalendarTime.ofSecs (z.localAt secs))
  rw [hshown, hfires.valid.ofSecs_toSecs]
  exact hfires.admits

/-- At half past two in Prague, asked at a leap second of the first half past two on 27 October
2024: the clock shows that time twice, so that the next one is that of the next day. -/
theorem nextAfter_admits_overlap : ∃ s, parse "30 2 * * *" = .ok s ∧
    s.nextAfter ⟨1729988999, 1500000000⟩ .europePrague = .at (.ofSecs 1730079000) ∧
    (⟨1729988999, 1500000000⟩ : Instant) < .ofSecs 1730079000 ∧
    Zone.europePrague.Once 1730079000 ∧
    s.fields.Admits (CalendarTime.ofSecs (Zone.europePrague.localAt 1730079000)) := by
  have hparse : parse "30 2 * * *" =
      .ok ⟨"30 2 * * *", { Fields.daily with minutes := [30], hours := [2] }⟩ := by
    decide +kernel
  have hknown : Zone.europePrague ∈ Zone.known := by decide +kernel
  have hnext : nextAfter ⟨"30 2 * * *", { Fields.daily with minutes := [30], hours := [2] }⟩
      ⟨1729988999, 1500000000⟩ .europePrague = .at (.ofSecs 1730079000) := by
    decide +kernel
  obtain ⟨hlater, -, honce, hadmits⟩ := nextAfter_admits hparse hknown hnext
  exact ⟨_, hparse, hnext, hlater, honce, hadmits⟩

end Schedule

end JobDispatch
