import JobDispatch.Proofs.Cron.Fields
import JobDispatch.Proofs.Cron.Search

/-!
The search for the next time finds the first reading that fires.

* `CalendarTime.InMinute`, …, `CalendarTime.InYear`: the branches of the levels.
* `Fields.search_settles_of_mem`: from a reading in one of the years the whole search is right.
* `Fields.search_ne_leaveDay`: a day that the fields rule out ends nothing but the day.
* `Fields.search_eq_fires` and `Fields.search_eq_nothing`: what the next time says of the search.
-/

namespace JobDispatch.Cron

/-! ### Branches -/

namespace CalendarTime

/-- The reading is one of the years from 1970 on. -/
def Recent (c : CalendarTime) : Prop := c.Valid ∧ 1970 ≤ c.date.year

/-- The reading is one of the year. -/
def InYear (year : Nat) (c : CalendarTime) : Prop := c.Valid ∧ c.date.year = year

/-- The reading is one of the month. -/
def InMonth (year month : Nat) (c : CalendarTime) : Prop :=
  c.InYear year ∧ c.date.month = month

/-- The reading is one of the day. -/
def OnDay (date : Date) (c : CalendarTime) : Prop := c.Valid ∧ c.date = date

/-- The reading is one of the hour. -/
def InHour (date : Date) (hour : Nat) (c : CalendarTime) : Prop := c.OnDay date ∧ c.hour = hour

/-- The reading is one of the minute. -/
def InMinute (date : Date) (hour minute : Nat) (c : CalendarTime) : Prop :=
  c.InHour date hour ∧ c.minute = minute

lemma inYear_iff {year : Nat} (hyear : 1970 ≤ year) (c : CalendarTime) :
    c.Recent ∧ c.date.year.toNat = year ↔ c.InYear year := by
  constructor
  · rintro ⟨⟨hvalid, hrecent⟩, rfl⟩
    exact ⟨hvalid, by omega⟩
  · rintro ⟨hvalid, heq⟩
    exact ⟨⟨hvalid, by omega⟩, by omega⟩

lemma onDay_iff {year month day : Nat} (c : CalendarTime) :
    c.InMonth year month ∧ c.date.day = day ↔ c.OnDay ⟨year, month, day⟩ := by
  constructor
  · rintro ⟨⟨⟨hvalid, hyear⟩, rfl⟩, rfl⟩
    exact ⟨hvalid, by rw [← hyear]⟩
  · rintro ⟨hvalid, hdate⟩
    rw [hdate]
    exact ⟨⟨⟨hvalid, by rw [hdate]⟩, by rw [hdate]⟩, rfl⟩

lemma eq_of_inMinute {date : Date} {hour minute second : Nat} {c : CalendarTime}
    (hc : c.InMinute date hour minute ∧ c.second = second) : c = ⟨date, hour, minute, second⟩ := by
  obtain ⟨⟨⟨⟨-, rfl⟩, rfl⟩, rfl⟩, rfl⟩ := hc
  rfl

end CalendarTime

/-! ### Within a day -/

namespace Fields

variable {f : Fields} {z : Zone} {start : CalendarTime} {tight : Bool}

/-- The date exists and lies in the fields of its units. -/
structure Offers (f : Fields) (date : Date) : Prop where
  valid : date.Valid
  day : date.day ∈ f.days
  month : date.month ∈ f.months
  year : ∃ y ∈ f.years, date.year = (y : Int)

lemma verdictAt_settles (hf : f.Proper) {date : Date} (hdate : f.Offers date)
    {hour minute second : Nat} (hhour : hour ∈ f.hours) (hminute : minute ∈ f.minutes)
    (hsecond : second ∈ f.seconds)
    (htight : tight = true → start.InMinute date hour minute ∧ start.second = second) :
    (f.verdictAt z ⟨date, hour, minute, second⟩).Settles f z start
      (fun c => c.InMinute date hour minute ∧ c.second = second) tight := by
  have hvalid : CalendarTime.Valid ⟨date, hour, minute, second⟩ :=
    ⟨hdate.valid, Nat.lt_succ_of_le (hf.hours.2 hour hhour).2,
      Nat.lt_succ_of_le (hf.minutes.2 minute hminute).2,
      Nat.lt_succ_of_le (hf.seconds.2 second hsecond).2⟩
  have hown : CalendarTime.InMinute date hour minute ⟨date, hour, minute, second⟩ :=
    ⟨⟨⟨hvalid, rfl⟩, rfl⟩, rfl⟩
  have hfirst (hstops : f.Stops z ⟨date, hour, minute, second⟩) : f.First z start
      (fun c => c.InMinute date hour minute ∧ c.second = second) tight
      ⟨date, hour, minute, second⟩ := by
    refine ⟨⟨⟨hown, rfl⟩, hstops, fun h => ?_⟩, fun c hc => ?_⟩
    · have heq := CalendarTime.eq_of_inMinute (htight h)
      exact Int.le_of_eq (congrArg CalendarTime.toSecs heq)
    · have heq := CalendarTime.eq_of_inMinute hc.mem
      exact Int.le_of_eq (congrArg CalendarTime.toSecs heq.symm)
  rw [verdictAt]
  split
  · next hday =>
      split
      · next secs honce =>
          split
          · next hweekday =>
              have hfires : f.Fires z ⟨date, hour, minute, second⟩ :=
                ⟨hvalid, ⟨hsecond, hminute, hhour, hdate.day, hdate.month,
                  List.contains_iff_mem.mp hweekday, hdate.year⟩, secs, honce⟩
              have hleast := hfirst hfires.stops
              exact ⟨_, ⟨hfires, hday, hleast.eligible⟩, honce, hleast.least⟩
          · next hweekday =>
              exact ⟨_, ⟨hown, rfl⟩, hday, fun hmem => hweekday (List.contains_iff_mem.mpr hmem)⟩
      · next hmany =>
          intro c hc
          obtain ⟨-, hfires | hmissing⟩ := hc.stops
          · obtain ⟨u, hu⟩ := hfires.once
            rw [CalendarTime.eq_of_inMinute hc.mem] at hu
            exact hmany u hu
          · rw [CalendarTime.eq_of_inMinute hc.mem, hday] at hmissing
            cases hmissing
  · next hday =>
      have hmissing : z.hasDay date.toDays = false := Bool.eq_false_iff.mpr hday
      have hstops : f.Stops z ⟨date, hour, minute, second⟩ :=
        ⟨⟨hvalid, hsecond, hminute, hhour, hdate.day, hdate.month, hdate.year⟩, .inr hmissing⟩
      exact ⟨_, hfirst hstops, hmissing⟩

lemma inMinute_settles (hf : f.Proper) {date : Date} (hdate : f.Offers date) {hour minute : Nat}
    (hhour : hour ∈ f.hours) (hminute : minute ∈ f.minutes)
    (htight : tight = true → start.InMinute date hour minute) :
    (f.inMinute z start date hour minute tight).Settles f z start
      (CalendarTime.InMinute date hour minute) tight := by
  refine levelFrom_settles CalendarTime.second hf.seconds.1 (fun v hv => (hf.seconds.2 v hv).1)
    (fun c c' hc hc' hlt => ?_) htight (fun c hc => hc.stops.tries.second)
    fun second hsecond t ht => verdictAt_settles hf hdate hhour hminute hsecond ht
  obtain ⟨⟨⟨-, hcdate⟩, hchour⟩, hcminute⟩ := hc
  obtain ⟨⟨⟨-, hcdate'⟩, hchour'⟩, hcminute'⟩ := hc'
  rw [CalendarTime.toSecs, CalendarTime.toSecs, hcdate, hcdate']
  omega

lemma inHour_settles (hf : f.Proper) {date : Date} (hdate : f.Offers date) {hour : Nat}
    (hhour : hour ∈ f.hours) (htight : tight = true → start.InHour date hour) :
    (f.inHour z start date hour tight).Settles f z start (CalendarTime.InHour date hour) tight := by
  refine levelFrom_settles CalendarTime.minute hf.minutes.1 (fun v hv => (hf.minutes.2 v hv).1)
    (fun c c' hc hc' hlt => ?_) htight (fun c hc => hc.stops.tries.minute)
    fun minute hminute t ht => inMinute_settles hf hdate hhour hminute ht
  obtain ⟨⟨hvalid, hcdate⟩, hchour⟩ := hc
  obtain ⟨⟨-, hcdate'⟩, hchour'⟩ := hc'
  have hsecond := hvalid.second
  rw [CalendarTime.toSecs, CalendarTime.toSecs, hcdate, hcdate']
  omega

lemma inDay_settles (hf : f.Proper) {date : Date} (hdate : f.Offers date)
    (htight : tight = true → start.OnDay date) :
    (f.inDay z start date tight).Settles f z start (CalendarTime.OnDay date) tight := by
  have hlevel : (levelFrom tight start.hour CalendarUnit.hour.low f.hours fun tight hour =>
      f.inHour z start date hour tight).Settles f z start (CalendarTime.OnDay date) tight := by
    refine levelFrom_settles CalendarTime.hour hf.hours.1 (fun v hv => (hf.hours.2 v hv).1)
      (fun c c' hc hc' hlt => ?_) htight (fun c hc => hc.stops.tries.hour)
      fun hour hhour t ht => inHour_settles hf hdate hhour ht
    have hminute := hc.1.minute
    have hsecond := hc.1.second
    rw [CalendarTime.toSecs, CalendarTime.toSecs, hc.2, hc'.2]
    omega
  rw [inDay]
  revert hlevel
  generalize levelFrom tight start.hour CalendarUnit.hour.low f.hours _ = verdict
  intro hlevel
  cases verdict with
  | leaveDay =>
      -- the weekday is that of all readings of the day
      obtain ⟨c, hc, hday, hweekday⟩ := hlevel
      intro c' hc'
      obtain ⟨-, hfires | hmissing⟩ := hc'.stops
      · refine hweekday ?_
        have hadmits := hfires.admits.2.2.2.2.2.1
        rw [CalendarTime.weekday, hc'.mem.2, ← hc.2] at hadmits
        exact hadmits
      · rw [hc'.mem.2, ← hc.2, hday] at hmissing
        cases hmissing
  | nothing | noSuchDay | fires => exact hlevel

/-! ### From days to years -/

lemma inMonth_settles (hf : f.Proper) {year month : Nat} (hyear : year ∈ f.years)
    (hmonth : month ∈ f.months)
    (htight : tight = true → start.InMonth year month) :
    (f.inMonth z start year month tight).Settles f z start
      (CalendarTime.InMonth year month) tight := by
  have horder : ∀ c c' : CalendarTime, c.InMonth year month → c'.InMonth year month →
      c.date.day < c'.date.day → c.toSecs < c'.toSecs := by
    rintro c c' ⟨⟨hvalid, hcyear⟩, hcmonth⟩ ⟨⟨hvalid', hcyear'⟩, hcmonth'⟩ hlt
    exact CalendarTime.toSecs_lt_of_date hvalid hvalid'
      (.inr ⟨hcyear.trans hcyear'.symm, .inr ⟨hcmonth.trans hcmonth'.symm, hlt⟩⟩)
  have hlast {c : CalendarTime} (hc : c.InMonth year month) :
      c.date.day ≤ daysInMonth year month := by
    obtain ⟨⟨hvalid, hcyear⟩, rfl⟩ := hc
    rw [← hcyear]
    exact hvalid.date.2.2.2
  have hfilter {bound last v : Nat} :
      v ∈ f.days.filter (fun day => min bound last ≤ day && day ≤ last) ↔
        v ∈ f.days ∧ min bound last ≤ v ∧ v ≤ last := by
    simp
  refine firstVerdict_settles (fun c => c.date.day) (hf.days.1.filter _) horder
    (fun h => ⟨htight h, fun v hv => ?_⟩) (fun v hv => ?_) (fun c hc => ?_) fun day hday t ht => ?_
  · rw [if_pos h] at hv
    have hle := hlast (htight h)
    have hlow := (hfilter.mp hv).2.1
    show start.date.day ≤ v
    omega
  · cases tight with
    | false => rfl
    | true =>
        have hle := hlast (htight rfl)
        simp [hle]
  · have hday := hc.stops.tries.day
    refine hfilter.mpr ⟨hday, ?_, hlast hc.mem⟩
    cases tight with
    | false => exact Nat.le_trans (Nat.min_le_left _ _) (hf.days.2 _ hday).1
    | true =>
        exact Nat.le_trans (Nat.min_le_left _ _)
          (hc.le_unit (fun c => c.date.day) horder htight rfl)
  · obtain ⟨hmem, -, hle⟩ := hfilter.mp hday
    have hvalid : (⟨year, month, day⟩ : Date).Valid :=
      ⟨(hf.months.2 month hmonth).1, (hf.months.2 month hmonth).2, (hf.days.2 day hmem).1, hle⟩
    exact (inDay_settles hf ⟨hvalid, hmem, hmonth, year, hyear, rfl⟩
      fun h => (start.onDay_iff).mp (ht h)).congr fun c => c.onDay_iff.symm

lemma inYear_settles (hf : f.Proper) {year : Nat} (hyear : year ∈ f.years)
    (htight : tight = true → start.InYear year) :
    (f.inYear z start year tight).Settles f z start (CalendarTime.InYear year) tight := by
  refine levelFrom_settles (fun c => c.date.month) hf.months.1 (fun v hv => (hf.months.2 v hv).1)
    ?_ htight (fun c hc => hc.stops.tries.month)
    fun month hmonth t ht => inMonth_settles hf hyear hmonth ht
  rintro c c' ⟨hvalid, hcyear⟩ ⟨hvalid', hcyear'⟩ hlt
  exact CalendarTime.toSecs_lt_of_date hvalid hvalid'
    (.inr ⟨hcyear.trans hcyear'.symm, .inl hlt⟩)

/-- **Right search**. The search from a reading in one of the years finds the first reading from
then on at which it stops. -/
theorem search_settles_of_mem (hf : f.Proper) (hstart : start.Valid)
    (hown : ∃ y ∈ f.years, start.date.year = (y : Int)) :
    (f.search z start).Settles f z start CalendarTime.Recent true := by
  have hlow {v : Nat} (hv : v ∈ f.years) : 1970 ≤ v := (hf.years.2 v hv).1
  have hrecent : 1970 ≤ start.date.year := by
    obtain ⟨y, hy, heq⟩ := hown
    have := hlow hy
    omega
  have hfilter {v : Nat} : v ∈ f.years.filter (fun year : Nat => start.date.year ≤ (year : Int)) ↔
      v ∈ f.years ∧ start.date.year ≤ (v : Int) := by
    simp
  have horder : ∀ c c' : CalendarTime, c.Recent → c'.Recent →
      c.date.year.toNat < c'.date.year.toNat → c.toSecs < c'.toSecs := by
    rintro c c' ⟨hvalid, -⟩ ⟨hvalid', -⟩ hlt
    exact CalendarTime.toSecs_lt_of_date hvalid hvalid' (.inl (by omega))
  rw [search, if_neg (by omega)]
  refine firstVerdict_settles (fun c => c.date.year.toNat) (hf.years.1.filter _) horder
    (fun h => ⟨⟨hstart, hrecent⟩, fun v hv => ?_⟩) (fun v hv => ?_) (fun c hc => ?_)
    fun year hyear t ht => ?_
  · have hle := (hfilter.mp hv).2
    show start.date.year.toNat ≤ v
    omega
  · obtain ⟨y, hy, heq⟩ := hown
    have hvalue : start.date.year.toNat = y := by omega
    rw [hvalue]
    exact (List.contains_iff_mem.mpr (hfilter.mpr ⟨hy, Int.le_of_eq heq⟩)).symm
  · obtain ⟨y, hy, heq⟩ := hc.stops.tries.year
    have hle := hc.le_unit (fun c => c.date.year.toNat) horder (fun h => ⟨hstart, hrecent⟩) rfl
    have hvalue : c.date.year.toNat = y := by omega
    rw [hvalue] at hle ⊢
    exact hfilter.mpr ⟨hy, by omega⟩
  · obtain ⟨hin, -⟩ := hfilter.mp hyear
    exact (inYear_settles hf hin
      fun h => (CalendarTime.inYear_iff (hlow hin) start).mp (ht h)).congr
      fun c => (CalendarTime.inYear_iff (hlow hin) c).symm

/-- When no year is ruled out, the search from a reading in 1970 or later is right. -/
theorem search_settles (hf : f.Proper) (hall : f.everyYear = true) (hstart : start.Valid)
    (hrecent : 1970 ≤ start.date.year) :
    (f.search z start).Settles f z start CalendarTime.Recent true := by
  by_cases hhigh : start.date.year ≤ 2100
  · exact search_settles_of_mem hf hstart
      ⟨start.date.year.toNat, (mem_years hall).mpr (by omega), by omega⟩
  · -- all years are over
    have hnone : f.years.filter (fun year : Nat => start.date.year ≤ (year : Int)) = [] := by
      refine List.filter_eq_nil_iff.mpr fun v hv => ?_
      have := ((mem_years hall).mp hv).2
      simp only [decide_eq_true_eq]
      omega
    rw [search, if_neg (by omega), hnone]
    intro c hc
    obtain ⟨y, hy, heq⟩ := hc.stops.tries.year
    have hyear := ((mem_years hall).mp hy).2
    have hlt := CalendarTime.toSecs_lt_of_date hc.mem.1 hstart (.inl (by omega))
    exact absurd (hc.late rfl) (Int.not_le.mpr hlt)

/-! ### Days that are left -/

variable (f z start tight)

lemma inDay_ne_leaveDay (date : Date) : f.inDay z start date tight ≠ .leaveDay := by
  rw [inDay]
  generalize levelFrom tight start.hour CalendarUnit.hour.low f.hours _ = verdict
  cases verdict <;> exact nofun

lemma inMonth_ne_leaveDay (year month : Nat) : f.inMonth z start year month tight ≠ .leaveDay := by
  rw [inMonth]
  exact firstVerdict_ne_leaveDay fun t day => f.inDay_ne_leaveDay z start t _

lemma inYear_ne_leaveDay (year : Nat) : f.inYear z start year tight ≠ .leaveDay := by
  rw [inYear, levelFrom]
  exact firstVerdict_ne_leaveDay fun t month => f.inMonth_ne_leaveDay z start t year month

lemma search_ne_leaveDay : f.search z start ≠ .leaveDay := by
  rw [search]
  split
  · exact nofun
  · exact firstVerdict_ne_leaveDay fun t year => f.inYear_ne_leaveDay z start t year

/-! ### The next time -/

variable {f z} {now : Instant}

/-- The next time is the one that the search from the next second finds. -/
lemma search_eq_fires {t : Instant} (h : f.nextAfter z now = .at t) : ∃ secs, t = .ofSecs secs ∧
    f.search z (CalendarTime.ofSecs (z.localAt (now.secs + 1))) = .fires secs := by
  rw [nextAfter] at h
  split at h
  · cases h
  · split at h
    · next secs hsearch => exact ⟨secs, (Upcoming.at.inj h).symm, hsearch⟩
    · cases h
    · cases h
    · cases h

lemma search_eq_nothing (h : f.nextAfter z now = .never) :
    f.search z (CalendarTime.ofSecs (z.localAt (now.secs + 1))) = .nothing := by
  rw [nextAfter] at h
  split at h
  · cases h
  · split at h
    · cases h
    · cases h
    · next hsearch => exact hsearch
    · next hsearch => exact absurd hsearch (search_ne_leaveDay f z _)

end Fields

end JobDispatch.Cron
