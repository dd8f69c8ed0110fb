import JobDispatch.Proofs.Cron.Fields
import JobDispatch.Proofs.Time.Calendar

/-!
A level of the search finds the first reading at which the search stops.

A part of the search is responsible for the readings of a branch, such as one hour of one day. On
the tight branch, which follows the local clock, only the readings from the start on count. The
search stops where it fires, and on a day that the zone does not have.

* `Fields.Fires`: the reading lies in all fields, and the zone shows it once.
* `Fields.Tries`: the reading lies in all fields but that of the weekday. A day that the zone does
  not have stops the search at the first such reading, whatever the weekday.
* `Verdict.Settles`: the verdict on a branch is right about its first reading that stops the search.
* `firstVerdict_settles` and `levelFrom_settles`: a level of the search settles a branch if it
  settles the parts into which the values of its unit divide the branch.
-/

namespace JobDispatch.Cron

/-! ### Readings -/

namespace CalendarTime

/-- The reading exists in the calendar and on a clock. -/
structure Valid (c : CalendarTime) : Prop where
  date : c.date.Valid
  hour : c.hour < 24
  minute : c.minute < 60
  second : c.second < 60

@[simp] lemma toSecs_ofSecs (shown : Int) : (ofSecs shown).toSecs = shown := by
  rw [toSecs, ofSecs]
  simp only [Date.toDays_ofDays]
  omega

lemma valid_ofSecs (shown : Int) : (ofSecs shown).Valid := by
  refine ⟨Date.valid_ofDays _, ?_, ?_, ?_⟩ <;> simp only [ofSecs] <;> omega

/-- Readings are in the order of their dates. -/
lemma toSecs_lt_of_date {c c' : CalendarTime} (h : c.Valid) (h' : c'.Valid)
    (hlt : c.date.year < c'.date.year ∨ c.date.year = c'.date.year ∧
      (c.date.month < c'.date.month ∨ c.date.month = c'.date.month ∧ c.date.day < c'.date.day)) :
    c.toSecs < c'.toSecs := by
  have hdays := Date.toDays_lt_toDays h.date h'.date hlt
  have hhour := h.hour
  have hminute := h.minute
  have hsecond := h.second
  rw [toSecs, toSecs]
  omega

end CalendarTime

/-! ### Verdicts on branches -/

/-- The reading exists, lies in all fields, and the zone shows it once. -/
structure Fields.Fires (f : Fields) (z : Zone) (c : CalendarTime) : Prop where
  valid : c.Valid
  admits : f.Admits c
  once : ∃ u, z.instantsOf c.toSecs = [u]

/-- The reading exists and lies in all fields but, perhaps, that of the weekday. -/
structure Fields.Tries (f : Fields) (c : CalendarTime) : Prop where
  valid : c.Valid
  second : c.second ∈ f.seconds
  minute : c.minute ∈ f.minutes
  hour : c.hour ∈ f.hours
  day : c.date.day ∈ f.days
  month : c.date.month ∈ f.months
  year : ∃ y ∈ f.years, c.date.year = (y : Int)

/-- The search goes no further than the reading: it fires there, or the zone has no such day. -/
structure Fields.Stops (f : Fields) (z : Zone) (c : CalendarTime) : Prop where
  tries : f.Tries c
  halts : f.Fires z c ∨ z.hasDay c.date.toDays = false

lemma Fields.Fires.stops {f : Fields} {z : Zone} {c : CalendarTime} (h : f.Fires z c) :
    f.Stops z c := by
  obtain ⟨hsecond, hminute, hhour, hday, hmonth, -, hyear⟩ := h.admits
  exact ⟨⟨h.valid, hsecond, hminute, hhour, hday, hmonth, hyear⟩, .inl h⟩

section Verdicts

variable (f : Fields) (z : Zone) (start : CalendarTime)

/-- The search stops at the reading, which belongs to the branch; on the tight branch it is not
before the start. -/
structure Fields.Eligible (branch : CalendarTime → Prop) (tight : Bool) (c : CalendarTime) :
    Prop where
  mem : branch c
  stops : f.Stops z c
  late : tight = true → start.toSecs ≤ c.toSecs

/-- The reading is eligible, and no other before it is. -/
structure Fields.First (branch : CalendarTime → Prop) (tight : Bool) (first : CalendarTime) :
    Prop where
  eligible : f.Eligible z start branch tight first
  least : ∀ c, f.Eligible z start branch tight c → first.toSecs ≤ c.toSecs

/-- The verdict on a branch is right: it names the instant of the first eligible reading, or there
is none, or the zone has no such day as that of the first one. A day is left for its weekday. -/
def Verdict.Settles (branch : CalendarTime → Prop) (tight : Bool) : Verdict → Prop
  | .nothing => ∀ c, ¬ f.Eligible z start branch tight c
  | .leaveDay => ∃ c, branch c ∧ z.hasDay c.date.toDays = true ∧ c.weekday ∉ f.weekdays
  | .noSuchDay => ∃ first, f.First z start branch tight first ∧
      z.hasDay first.date.toDays = false
  | .fires secs => ∃ first, (f.Fires z first ∧ z.hasDay first.date.toDays = true ∧
        f.Eligible z start branch tight first) ∧
      z.instantsOf first.toSecs = [secs] ∧
      ∀ c, f.Eligible z start branch tight c → first.toSecs ≤ c.toSecs

variable {f z start}

lemma Verdict.Settles.congr {branch branch' : CalendarTime → Prop} {tight : Bool}
    {verdict : Verdict} (h : verdict.Settles f z start branch tight)
    (hbranch : ∀ c, branch c ↔ branch' c) : verdict.Settles f z start branch' tight := by
  obtain rfl : branch = branch' := funext fun c => propext (hbranch c)
  exact h

end Verdicts

/-! ### Levels -/

/-- Each value is visited in turn until a verdict is reached; only the first value is visited with
the flag. -/
lemma firstVerdict_cases {visit : Bool → Nat → Verdict} {values : List Nat} (flag : Bool)
    (hsorted : values.Pairwise (· < ·)) :
    (firstVerdict visit flag values = .nothing ∧
      ∀ v ∈ values, visit (flag && values.head? == some v) v = .nothing) ∨
    ∃ v ∈ values, firstVerdict visit flag values = visit (flag && values.head? == some v) v ∧
      firstVerdict visit flag values ≠ .nothing ∧
      ∀ w ∈ values, w < v → visit (flag && values.head? == some w) w = .nothing := by
  induction values generalizing flag with
  | nil => exact .inl ⟨rfl, fun v hv => by cases hv⟩
  | cons v later ih =>
      obtain ⟨hfirst, hlater⟩ := List.pairwise_cons.mp hsorted
      have hown : (flag && (v :: later).head? == some v) = flag := by simp
      have hother {w : Nat} (hw : w ∈ later) : (flag && (v :: later).head? == some w) = false := by
        have hne : v ≠ w := Nat.ne_of_lt (hfirst w hw)
        simp [hne]
      by_cases hv : visit flag v = .nothing
      · have hrest : firstVerdict visit flag (v :: later) = firstVerdict visit false later := by
          rw [firstVerdict, hv]
        rw [hrest]
        obtain ⟨hnothing, hall⟩ | ⟨w, hw, hverdict, hfound, hall⟩ := ih false hlater
        · refine .inl ⟨hnothing, fun w hw => ?_⟩
          rcases List.mem_cons.mp hw with rfl | hw
          · rw [hown, hv]
          · rw [hother hw]
            exact hall w hw
        · refine .inr ⟨w, List.mem_cons_of_mem v hw, ?_, hfound, fun x hx hlt => ?_⟩
          · rw [hverdict, hother hw]
            rfl
          · rcases List.mem_cons.mp hx with rfl | hx
            · rw [hown, hv]
            · rw [hother hx]
              exact hall x hx hlt
      · have hstop : firstVerdict visit flag (v :: later) = visit flag v := by
          rw [firstVerdict]
          split
          · next h => exact absurd h hv
          · rfl
        refine .inr ⟨v, List.mem_cons_self, ?_, ?_, fun w hw hlt => ?_⟩
        · rw [hown, hstop]
        · rw [hstop]
          exact hv
        · rcases List.mem_cons.mp hw with rfl | hw
          · exact absurd hlt (Nat.lt_irrefl w)
          · exact absurd (hfirst w hw) (Nat.lt_asymm hlt)

/-- A level leaves a day only if one of its visits does. -/
lemma firstVerdict_ne_leaveDay {visit : Bool → Nat → Verdict} {flag : Bool} {values : List Nat}
    (h : ∀ t v, visit t v ≠ .leaveDay) : firstVerdict visit flag values ≠ .leaveDay := by
  induction values generalizing flag with
  | nil => exact nofun
  | cons v later ih =>
      rw [firstVerdict]
      split
      · exact ih
      · exact h flag v

/-- The least of ascending values comes first. -/
lemma head?_eq_least {values : List Nat} (hsorted : values.Pairwise (· < ·)) {least : Nat}
    (hmem : least ∈ values) (hle : ∀ v ∈ values, least ≤ v) : values.head? = some least := by
  cases values with
  | nil => cases hmem
  | cons v later =>
      rcases List.mem_cons.mp hmem with rfl | hlater
      · rfl
      · have hlt := (List.pairwise_cons.mp hsorted).1 least hlater
        exact absurd (hle v List.mem_cons_self) (by omega)

section Levels

variable {f : Fields} {z : Zone} {start : CalendarTime} {branch : CalendarTime → Prop}
  {tight flag : Bool} {values : List Nat} {visit : Bool → Nat → Verdict}
  (unit : CalendarTime → Nat)

/-- On a part of the tight branch with a greater value than the start, all readings are late. -/
lemma Fields.Eligible.of_part {v : Nat}
    (horder : ∀ c c', branch c → branch c' → unit c < unit c' → c.toSecs < c'.toSecs)
    (htight : tight = true → branch start ∧ unit start ≤ v) {c : CalendarTime}
    (hc : f.Eligible z start (fun c => branch c ∧ unit c = v) (tight && v == unit start) c) :
    f.Eligible z start branch tight c := by
  obtain ⟨⟨hmem, hv⟩, hstops, hlate⟩ := hc
  refine ⟨hmem, hstops, ?_⟩
  intro h
  obtain ⟨hstart, hle⟩ := htight h
  by_cases heq : v = unit start
  · exact hlate (by simp [h, heq])
  · exact Int.le_of_lt (horder start c hstart hmem (by omega))

/-- A level settles a branch if it settles the parts into which its values divide the branch. -/
lemma firstVerdict_settles (hsorted : values.Pairwise (· < ·))
    (horder : ∀ c c', branch c → branch c' → unit c < unit c' → c.toSecs < c'.toSecs)
    (htight : tight = true → branch start ∧ ∀ v ∈ values, unit start ≤ v)
    (hflag : ∀ v ∈ values, flag = (tight && values.contains (unit start)))
    (hcover : ∀ c, f.Eligible z start branch tight c → unit c ∈ values)
    (hvisit : ∀ v ∈ values, ∀ t, (t = true → branch start ∧ unit start = v) →
      (visit t v).Settles f z start (fun c => branch c ∧ unit c = v) t) :
    (firstVerdict visit flag values).Settles f z start branch tight := by
  have hkeeps {v : Nat} (hv : v ∈ values) :
      (flag && values.head? == some v) = (tight && v == unit start) := by
    rw [hflag v hv]
    cases tight with
    | false => rfl
    | true =>
        by_cases hmem : unit start ∈ values
        · rw [head?_eq_least hsorted hmem (htight rfl).2]
          simp [hmem, @BEq.comm _ _ _ v]
        · have hne : v ≠ unit start := fun h => hmem (h ▸ hv)
          simp [hmem, hne]
  have hpart {v : Nat} (hv : v ∈ values) : (visit (flag && values.head? == some v) v).Settles f z
      start (fun c => branch c ∧ unit c = v) (tight && v == unit start) := by
    rw [hkeeps hv]
    refine hvisit v hv _ fun h => ?_
    simp only [Bool.and_eq_true, beq_iff_eq] at h
    exact ⟨(htight h.1).1, h.2.symm⟩
  have hnone {c : CalendarTime} (hc : f.Eligible z start branch tight c)
      (hnothing : visit (flag && values.head? == some (unit c)) (unit c) = .nothing) : False := by
    have hsettles := hpart (hcover c hc)
    rw [hnothing] at hsettles
    exact hsettles c ⟨⟨hc.mem, rfl⟩, hc.stops, fun h => hc.late (Bool.and_eq_true_iff.mp h).1⟩
  obtain ⟨hnothing, hall⟩ | ⟨v, hv, hverdict, hfound, hall⟩ :=
    @firstVerdict_cases visit values flag hsorted
  · rw [hnothing]
    exact fun c hc => hnone hc (hall _ (hcover c hc))
  · have hsettles := hpart hv
    rw [← hverdict] at hsettles
    generalize firstVerdict visit flag values = verdict at hsettles hfound
    -- nothing is eligible in the parts before, and the parts after come later
    have hwhole {first : CalendarTime} (hfirst : f.First z start (fun c => branch c ∧ unit c = v)
        (tight && v == unit start) first) : f.First z start branch tight first := by
      have heligible := Fields.Eligible.of_part unit horder
        (fun h => ⟨(htight h).1, (htight h).2 v hv⟩) hfirst.eligible
      refine ⟨heligible, fun c hc => ?_⟩
      rcases Nat.lt_trichotomy (unit c) v with hlt | heq | hgt
      · exact (hnone hc (hall _ (hcover c hc) hlt)).elim
      · exact hfirst.least c
          ⟨⟨hc.mem, heq⟩, hc.stops, fun h => hc.late (Bool.and_eq_true_iff.mp h).1⟩
      · refine Int.le_of_lt (horder first c heligible.mem hc.mem ?_)
        rw [hfirst.eligible.mem.2]
        exact hgt
    cases verdict with
    | nothing => exact absurd rfl hfound
    | leaveDay =>
        obtain ⟨c, ⟨hc, -⟩, hweekday⟩ := hsettles
        exact ⟨c, hc, hweekday⟩
    | noSuchDay =>
        obtain ⟨first, hfirst, hday⟩ := hsettles
        exact ⟨first, hwhole hfirst, hday⟩
    | fires secs =>
        obtain ⟨first, ⟨hfires, hday, hfirst⟩, hsecs, hmin⟩ := hsettles
        have hleast := hwhole ⟨hfirst, hmin⟩
        exact ⟨first, ⟨hfires, hday, hleast.eligible⟩, hsecs, hleast.least⟩

/-- Readings that are not before the start have no lower value than the start. -/
lemma Fields.Eligible.le_unit
    (horder : ∀ c c', branch c → branch c' → unit c < unit c' → c.toSecs < c'.toSecs)
    (htight : tight = true → branch start) {c : CalendarTime}
    (hc : f.Eligible z start branch tight c) (h : tight = true) : unit start ≤ unit c := by
  by_cases hlt : unit c < unit start
  · have hbefore := horder c start hc.mem (htight h) hlt
    exact absurd (hc.late h) (Int.not_le.mpr hbefore)
  · exact Nat.le_of_not_lt hlt

/-- A level that starts at the shown value, or at the least one, settles its branch likewise. -/
lemma levelFrom_settles {low : Nat} (hsorted : values.Pairwise (· < ·))
    (hlow : ∀ v ∈ values, low ≤ v)
    (horder : ∀ c c', branch c → branch c' → unit c < unit c' → c.toSecs < c'.toSecs)
    (htight : tight = true → branch start)
    (hcover : ∀ c, f.Eligible z start branch tight c → unit c ∈ values)
    (hvisit : ∀ v ∈ values, ∀ t, (t = true → branch start ∧ unit start = v) →
      (visit t v).Settles f z start (fun c => branch c ∧ unit c = v) t) :
    (levelFrom tight (unit start) low values visit).Settles f z start branch tight := by
  have hfilter {bound v : Nat} : v ∈ values.filter (bound ≤ ·) ↔ v ∈ values ∧ bound ≤ v := by
    simp
  refine firstVerdict_settles unit (hsorted.filter _) horder
    (fun h => ⟨htight h, fun v hv => ?_⟩) (fun v hv => ?_) (fun c hc => ?_)
    (fun v hv => hvisit v (hfilter.mp hv).1)
  · rw [if_pos h] at hv
    exact (hfilter.mp hv).2
  · cases tight with
    | false => rfl
    | true => simp
  · refine hfilter.mpr ⟨hcover c hc, ?_⟩
    cases tight with
    | false => exact hlow _ (hcover c hc)
    | true => exact hc.le_unit unit horder htight rfl

end Levels

end JobDispatch.Cron
