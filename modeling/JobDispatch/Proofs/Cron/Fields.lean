import JobDispatch.Cron.Schedule
import Mathlib.Tactic.Lemma

/-!
The fields of an expression that has been read.

* `CalendarUnit.Takes`: values of a unit, in ascending order.
* `Schedule.proper_of_parse`: all fields of a schedule that was read are of this kind.
-/

namespace JobDispatch

namespace Cron

/-- Values of the unit, in ascending order. -/
def CalendarUnit.Takes (u : CalendarUnit) (values : List Nat) : Prop :=
  values.Pairwise (· < ·) ∧ ∀ v ∈ values, u.Has v

instance (u : CalendarUnit) (values : List Nat) : Decidable (u.Takes values) := by
  unfold CalendarUnit.Takes
  infer_instance

/-- The unit takes its own values. -/
lemma CalendarUnit.takes_values (u : CalendarUnit) : u.Takes u.values := by
  refine ⟨List.pairwise_lt_range', fun v hv => ?_⟩
  rw [values, between, List.mem_range'_1] at hv
  exact ⟨hv.1, by omega⟩

/-- Fields without a restriction on years have the years from 1970 to 2100. -/
lemma Fields.mem_years {f : Fields} (hall : f.everyYear = true) {v : Nat} :
    v ∈ f.years ↔ 1970 ≤ v ∧ v ≤ 2100 := by
  rw [everyYear] at hall
  rw [eq_of_beq hall]
  exact ⟨CalendarUnit.year.takes_values.2 v, fun h => List.mem_range'_1.mpr
    ⟨h.1, Nat.lt_succ_of_le h.2⟩⟩

/-- A field that has been read holds values of its unit. -/
lemma fieldValues?_takes {u : CalendarUnit} {items : List Item} {values : List Nat}
    (h : fieldValues? u items = some values) : u.Takes values := by
  obtain ⟨sets, -, hvalues⟩ := Option.bind_eq_some_iff.mp h
  rw [← Option.some.inj hvalues]
  exact ⟨u.takes_values.1.filter _, fun v hv => u.takes_values.2 v (List.mem_filter.mp hv).1⟩

lemma field?_takes {u : CalendarUnit} {s rest : List Char} {values : List Nat}
    (h : field? u s = some (values, rest)) : u.Takes values := by
  obtain ⟨⟨item, s'⟩, -, h⟩ := Option.bind_eq_some_iff.mp h
  obtain ⟨found, hfound, h⟩ := Option.bind_eq_some_iff.mp h
  obtain ⟨rfl, -⟩ := Prod.mk.inj (Option.some.inj h)
  exact fieldValues?_takes hfound

/-- Every field holds values of its unit, in ascending order. -/
structure Fields.Proper (f : Fields) : Prop where
  seconds : CalendarUnit.second.Takes f.seconds
  minutes : CalendarUnit.minute.Takes f.minutes
  hours : CalendarUnit.hour.Takes f.hours
  days : CalendarUnit.day.Takes f.days
  months : CalendarUnit.month.Takes f.months
  weekdays : CalendarUnit.weekday.Takes f.weekdays
  years : CalendarUnit.year.Takes f.years

lemma columns?_proper {s : List Char} {f : Fields} (h : columns? s = some f) : f.Proper := by
  obtain ⟨⟨seconds, s₁⟩, hseconds, h⟩ := Option.bind_eq_some_iff.mp h
  obtain ⟨⟨minutes, s₂⟩, hminutes, h⟩ := Option.bind_eq_some_iff.mp h
  obtain ⟨⟨hours, s₃⟩, hhours, h⟩ := Option.bind_eq_some_iff.mp h
  obtain ⟨⟨days, s₄⟩, hdays, h⟩ := Option.bind_eq_some_iff.mp h
  obtain ⟨⟨months, s₅⟩, hmonths, h⟩ := Option.bind_eq_some_iff.mp h
  obtain ⟨⟨weekdays, s₆⟩, hweekdays, h⟩ := Option.bind_eq_some_iff.mp h
  have hyears : CalendarUnit.year.Takes
      ((field? .year s₆).getD (CalendarUnit.year.values, s₆)).1 := by
    cases hyear : field? .year s₆ with
    | none => exact CalendarUnit.year.takes_values
    | some read => exact field?_takes hyear
  dsimp only at h
  split at h
  · rw [← Option.some.inj h]
    exact ⟨field?_takes hseconds, field?_takes hminutes, field?_takes hhours, field?_takes hdays,
      field?_takes hmonths, field?_takes hweekdays, hyears⟩
  · cases h

lemma Fields.proper_daily : Fields.daily.Proper where
  seconds := by decide
  minutes := by decide
  hours := by decide
  days := CalendarUnit.day.takes_values
  months := CalendarUnit.month.takes_values
  weekdays := CalendarUnit.weekday.takes_values
  years := CalendarUnit.year.takes_values

/-- The keywords stand for proper fields. -/
lemma proper_of_keyword {name : String} {f : Fields} (h : (name, f) ∈ keywords) : f.Proper := by
  have hdaily := Fields.proper_daily
  simp only [keywords, List.mem_cons, Prod.mk.injEq, List.not_mem_nil, or_false] at h
  obtain ⟨-, rfl⟩ | ⟨-, rfl⟩ | ⟨-, rfl⟩ | ⟨-, rfl⟩ | ⟨-, rfl⟩ := h
  · exact { hdaily with days := by decide, months := by decide }
  · exact { hdaily with days := by decide }
  · exact { hdaily with weekdays := by decide }
  · exact hdaily
  · exact { hdaily with hours := CalendarUnit.hour.takes_values }

lemma expression?_proper {s : List Char} {f : Fields} (h : expression? s = some f) :
    f.Proper := by
  rw [expression?] at h
  split at h
  · next k hk =>
      rw [← Option.some.inj h]
      exact proper_of_keyword (List.mem_of_find?_eq_some hk)
  · exact columns?_proper h

end Cron

/-- The fields of a schedule that was read are proper. -/
lemma Schedule.proper_of_parse {text : String} {s : Schedule} (h : parse text = .ok s) :
    s.fields.Proper := by
  rw [parse] at h
  split at h
  · cases h
  · split at h
    · next fields hfields =>
        rw [← Except.ok.inj h]
        exact Cron.expression?_proper hfields
    · cases h

end JobDispatch
