import JobDispatch.Proofs.Cron.Levels
import JobDispatch.Proofs.Time.Order
import JobDispatch.Proofs.Zone.Order

/-!
The next time of a schedule is the earliest one.

* `Schedule.FiresAt`: the local clock shows a time of the schedule, and shows it only once.
* `Schedule.nextAfter_earliest`: no such second lies between an instant and the next time after it,
  and none lies after an instant that no next time follows.
-/

namespace JobDispatch

open Cron (CalendarTime Fields)

namespace Cron

/-! ### Readings of a schedule -/

/-- Every part of the reading but the year lies in its field. -/
def Fields.Matches (f : Fields) (c : CalendarTime) : Prop :=
  c.second ∈ f.seconds ∧ c.minute ∈ f.minutes ∧ c.hour ∈ f.hours ∧ c.date.day ∈ f.days ∧
    c.date.month ∈ f.months ∧ c.weekday ∈ f.weekdays

lemma Fields.Matches.admits {f : Fields} (hall : f.everyYear = true) {c : CalendarTime}
    (hc : f.Matches c) (hlow : 1970 ≤ c.date.year) (hhigh : c.date.year ≤ 2100) : f.Admits c := by
  obtain ⟨hsecond, hminute, hhour, hday, hmonth, hweekday⟩ := hc
  refine ⟨hsecond, hminute, hhour, hday, hmonth, hweekday, c.date.year.toNat, ?_, by omega⟩
  rw [mem_years hall]
  omega

/-- Local times from 1970 on have readings of those years. -/
lemma CalendarTime.recent_ofSecs {shown : Int} (h : 0 ≤ shown) : (ofSecs shown).Recent :=
  ⟨valid_ofSecs shown, Date.le_year_ofDays.mpr (by omega)⟩

end Cron

namespace Schedule

/-- The local clock shows a time of the schedule up to the year 2100 at the second, and shows it at
no other. -/
structure FiresAt (s : Schedule) (z : Zone) (u : Int) : Prop where
  fields : s.fields.Matches (CalendarTime.ofSecs (z.localAt u))
  once : z.Once u
  year : (CalendarTime.ofSecs (z.localAt u)).date.year ≤ 2100

variable {s : Schedule} {z : Zone}

/-- What a schedule fires at from a second on, the search from that second takes into account. -/
lemma FiresAt.eligible (hall : s.fields.everyYear = true) (hz : z.Lawful) {start u : Int}
    (hstart : 0 ≤ z.localAt start) (hle : start ≤ u) (hu : s.FiresAt z u) :
    s.fields.Eligible z (CalendarTime.ofSecs (z.localAt start)) CalendarTime.Recent true
      (CalendarTime.ofSecs (z.localAt u)) := by
  have hshown := hz.localAt_le hle hu.once
  have hrecent := CalendarTime.recent_ofSecs (Int.le_trans hstart hshown)
  have hfires : s.fields.Fires z (CalendarTime.ofSecs (z.localAt u)) := by
    refine ⟨hrecent.1, hu.fields.admits hall hrecent.2 hu.year, u, ?_⟩
    rw [CalendarTime.toSecs_ofSecs]
    exact hz.instantsOf_eq hu.once
  refine ⟨hrecent, hfires.stops, fun _ => ?_⟩
  · rw [CalendarTime.toSecs_ofSecs, CalendarTime.toSecs_ofSecs]
    exact hshown

/-! ### The earliest time -/

/-- **Earliest next time**. A schedule without a restriction on years, in a known zone, asked from
1970 on: at no second between the instant asked from and the next time does the local clock show a
time of the schedule that it shows only once; and if there is no next time, at no second later
on. -/
theorem nextAfter_earliest {text : String} (hparse : parse text = .ok s)
    (hall : s.fields.everyYear = true) (hz : z ∈ Zone.known) {now : Instant}
    (hnow : 1970 ≤ (CalendarTime.ofSecs (z.localAt now.secs)).date.year) :
    (∀ t, s.nextAfter now z = .at t →
      ∀ u : Int, now < Instant.ofSecs u → Instant.ofSecs u < t → ¬ s.FiresAt z u) ∧
    (s.nextAfter now z = .never → ∀ u : Int, now < Instant.ofSecs u → ¬ s.FiresAt z u) := by
  have hlawful := Zone.lawful_of_mem_known hz
  have hstart : 0 ≤ z.localAt (now.secs + 1) := by
    have hdays : 0 ≤ z.localAt now.secs / 86400 := Date.le_year_ofDays.mp hnow
    exact Zone.localAt_succ_nonneg_of_mem_known hz (by omega)
  have hrecent := CalendarTime.recent_ofSecs hstart
  have hsettles := Fields.search_settles (proper_of_parse hparse) hall hrecent.1 hrecent.2 (z := z)
  have heligible {u : Int} (hu : now < Instant.ofSecs u) (hfires : s.FiresAt z u) :=
    hfires.eligible hall hlawful hstart (now.succ_le_of_lt_ofSecs hu)
  constructor
  · intro t ht u hu hlt hfires
    obtain ⟨secs, rfl, hsearch⟩ := Fields.search_eq_fires ht
    rw [hsearch] at hsettles
    obtain ⟨first, -, honce, hmin⟩ := hsettles
    obtain ⟨hshown, hsecs⟩ := hlawful.of_instantsOf_eq honce
    -- an earlier second that fires would be shown before the first reading that fires
    apply Int.lt_irrefl (z.localAt u)
    calc z.localAt u
        < z.localAt secs := hlawful.localAt_lt (Instant.ofSecs_lt_ofSecs.mp hlt) hsecs
      _ = first.toSecs := hshown
      _ ≤ (CalendarTime.ofSecs (z.localAt u)).toSecs := hmin _ (heligible hu hfires)
      _ = z.localAt u := CalendarTime.toSecs_ofSecs _
  · intro hnever u hu hfires
    rw [Fields.search_eq_nothing hnever] at hsettles
    exact hsettles _ (heligible hu hfires)

/-- At half past two in Prague: the clock skips that time on 31 March 2024. On 30 February: at no
time after 1970. -/
theorem nextAfter_earliest_prague :
    (∃ s, parse "30 2 * * *" = .ok s ∧
      s.nextAfter ⟨1711764000, 0⟩ .europePrague = .at (.ofSecs 1711931400) ∧
      ∀ u : Int, ⟨1711764000, 0⟩ < Instant.ofSecs u → Instant.ofSecs u < .ofSecs 1711931400 →
        ¬ s.FiresAt .europePrague u) ∧
    ∃ s, parse "30 2 30 2 *" = .ok s ∧ s.nextAfter ⟨0, 0⟩ .europePrague = .never ∧
      ∀ u : Int, ⟨0, 0⟩ < Instant.ofSecs u → ¬ s.FiresAt .europePrague u := by
  have hdaily : parse "30 2 * * *" =
      .ok ⟨"30 2 * * *", { Fields.daily with minutes := [30], hours := [2] }⟩ := by
    decide +kernel
  have hyearly : parse "30 2 30 2 *" = .ok ⟨"30 2 30 2 *",
      { Fields.daily with minutes := [30], hours := [2], days := [30], months := [2] }⟩ := by
    decide +kernel
  have hknown : Zone.europePrague ∈ Zone.known := by decide +kernel
  refine ⟨⟨_, hdaily, ?_⟩, ⟨_, hyearly, ?_⟩⟩
  · have hnext : nextAfter ⟨"30 2 * * *", { Fields.daily with minutes := [30], hours := [2] }⟩
        ⟨1711764000, 0⟩ .europePrague = .at (.ofSecs 1711931400) := by
      decide +kernel
    exact ⟨hnext, (nextAfter_earliest hdaily (by decide) hknown (by decide +kernel)).1 _ hnext⟩
  · have hnever : nextAfter ⟨"30 2 30 2 *",
        { Fields.daily with minutes := [30], hours := [2], days := [30], months := [2] }⟩
        ⟨0, 0⟩ .europePrague = .never := by
      decide +kernel
    exact ⟨hnever, (nextAfter_earliest hyearly (by decide) hknown (by decide +kernel)).2 hnever⟩

end Schedule

end JobDispatch
