import JobDispatch.Proofs.Cron.Levels

/-!
Where the search takes up the calendar.

The first year that the search goes through is searched from the month, the day and the time of day
of the start, even if it is a later year than that of the start. Whatever lies earlier in that year
the search passes over. All in all it comes to the same as the search from the reading at which it
enters that year, and that search is right.

* `Fields.entry`: the reading at which the search enters a year.
* `Fields.onset`: the reading at which it enters the first year that it goes through.
* `Fields.search_onset`: the search comes to the same as the search from the onset.
* `Fields.search_settles_onset`: the search finds the first reading from the onset on at which it
  stops.
-/

namespace JobDispatch.Cron

/-! ### Searches that differ in their start only -/

section Levels

variable {visit visit' : Bool → Nat → Verdict} {values : List Nat} {shown low : Nat}

/-- Two levels come to the same if their first visits do, and all visits without the flag. -/
lemma firstVerdict_congr {flag flag' : Bool}
    (hfirst : ∀ v, values.head? = some v → visit flag v = visit' flag' v)
    (hlater : ∀ v, visit false v = visit' false v) :
    firstVerdict visit flag values = firstVerdict visit' flag' values := by
  induction values generalizing flag flag' with
  | nil => rfl
  | cons v later ih =>
      rw [firstVerdict, firstVerdict, hfirst v rfl, ih fun w _ => hlater w]

lemma levelFrom_true : levelFrom true shown low values visit =
    firstVerdict visit (values.contains shown) (values.filter (shown ≤ ·)) := rfl

lemma levelFrom_false : levelFrom false shown low values visit =
    firstVerdict visit false (values.filter (low ≤ ·)) := rfl

/-- Off the tight branch it makes no difference what the clock shows. -/
lemma levelFrom_loose (shown shown' : Nat) (h : ∀ v, visit false v = visit' false v) :
    levelFrom false shown low values visit = levelFrom false shown' low values visit' :=
  firstVerdict_congr (fun v _ => h v) h

/-- If the clock shows the least value, the tight branch is like the others. -/
lemma levelFrom_low (h : ∀ v, visit true v = visit false v) :
    levelFrom true low low values visit = levelFrom false shown low values visit := by
  rw [levelFrom_true, levelFrom_false]
  refine firstVerdict_congr (fun v _ => ?_) fun _ => rfl
  cases values.contains low with
  | false => rfl
  | true => exact h v

/-- On the tight branch the shown value is visited with the flag and all others without it. -/
lemma levelFrom_tight (hsorted : values.Pairwise (· < ·))
    (hfirst : visit true shown = visit' true shown)
    (hlater : ∀ v, visit false v = visit' false v) :
    levelFrom true shown low values visit = levelFrom true shown low values visit' := by
  rw [levelFrom_true, levelFrom_true]
  refine firstVerdict_congr (fun v hv => ?_) hlater
  cases hmem : values.contains shown with
  | false => exact hlater v
  | true =>
      have hhead : (values.filter (shown ≤ ·)).head? = some shown :=
        head?_eq_least (hsorted.filter _) (by simpa using hmem) (by simp)
      rw [hhead] at hv
      rw [← Option.some.inj hv]
      exact hfirst

end Levels

namespace Fields

section Starts

variable (f : Fields) (z : Zone) (start start' : CalendarTime) (date : Date) (year month : Nat)

/-- Off the tight branch it makes no difference where the search starts. -/
lemma inDay_loose : f.inDay z start date false = f.inDay z start' date false :=
  congrArg Verdict.untilNextDay <| levelFrom_loose _ _ fun _ => levelFrom_loose _ _ fun _ =>
    levelFrom_loose _ _ fun _ => rfl

lemma inMonth_loose : f.inMonth z start year month false = f.inMonth z start' year month false :=
  firstVerdict_congr (fun _ _ => inDay_loose f z start start' _)
    fun _ => inDay_loose f z start start' _

lemma inYear_loose : f.inYear z start year false = f.inYear z start' year false :=
  levelFrom_loose _ _ fun _ => inMonth_loose f z start start' year _

/-- At midnight the tight branch of a day is like the others. -/
lemma inDay_midnight :
    f.inDay z ⟨date, 0, 0, 0⟩ date true = f.inDay z ⟨date, 0, 0, 0⟩ date false :=
  congrArg Verdict.untilNextDay <| levelFrom_low fun _ => levelFrom_low fun _ =>
    levelFrom_low fun _ => rfl

end Starts

/-! ### Entering a year -/

variable {f : Fields} {z : Zone} {start : CalendarTime} {year : Nat}

/-- The reading at which the search enters a year: that of the start, in the year. Where the month
is too short for it, which is 29 February in a common year, the search enters at its last day, at
the time of the start if its day is one of the fields', and at midnight otherwise. -/
def entry (f : Fields) (start : CalendarTime) (year : Nat) : CalendarTime :=
  let month := start.date.month
  if start.date.day ≤ daysInMonth year month then
    { start with date := ⟨year, month, start.date.day⟩ }
  else if start.date.day ∈ f.days then
    { start with date := ⟨year, month, daysInMonth year month⟩ }
  else ⟨⟨year, month, daysInMonth year month⟩, 0, 0, 0⟩

/-- The reading from which on the search takes readings into account, if any year is left. -/
def onset (f : Fields) (start : CalendarTime) : Option CalendarTime :=
  (f.years.find? fun year : Nat => start.date.year ≤ (year : Int)).map (f.entry start)

lemma year_entry (f : Fields) (start : CalendarTime) (year : Nat) :
    (f.entry start year).date.year = year := by
  rw [entry]
  split
  · rfl
  · split <;> rfl

lemma month_entry (f : Fields) (start : CalendarTime) (year : Nat) :
    (f.entry start year).date.month = start.date.month := by
  rw [entry]
  split
  · rfl
  · split <;> rfl

/-- Every month has a day. -/
lemma daysInMonth_pos (year : Int) {month : Nat} (hlow : 1 ≤ month) (hhigh : month ≤ 12) :
    1 ≤ daysInMonth year month := by
  have hcases : month = 1 ∨ month = 2 ∨ month = 3 ∨ month = 4 ∨ month = 5 ∨ month = 6 ∨ month = 7 ∨
      month = 8 ∨ month = 9 ∨ month = 10 ∨ month = 11 ∨ month = 12 := by omega
  rcases hcases with rfl | rfl | rfl | rfl | rfl | rfl | rfl | rfl | rfl | rfl | rfl | rfl
  case inr.inl =>
    rw [daysInMonth]
    split <;> decide
  all_goals exact Nat.le_of_ble_eq_true rfl

lemma valid_entry (f : Fields) (h : start.Valid) (year : Nat) : (f.entry start year).Valid := by
  obtain ⟨hlow, hhigh, hfirst, -⟩ := h.date
  have hlast := daysInMonth_pos year hlow hhigh
  rw [entry]
  split
  · next hday => exact ⟨⟨hlow, hhigh, hfirst, hday⟩, h.hour, h.minute, h.second⟩
  · split
    · exact ⟨⟨hlow, hhigh, hlast, Nat.le_refl _⟩, h.hour, h.minute, h.second⟩
    · exact ⟨⟨hlow, hhigh, hlast, Nat.le_refl _⟩, Nat.succ_pos _, Nat.succ_pos _, Nat.succ_pos _⟩

/-- In its own year the search enters at the start. -/
lemma entry_self (f : Fields) (h : start.Valid) (hyear : start.date.year = year) :
    f.entry start year = start := by
  obtain ⟨date, hour, minute, second⟩ := start
  obtain ⟨y, month, day⟩ := date
  obtain rfl : y = year := hyear
  exact if_pos h.date.2.2.2

/-- The search through a month on the tight branch. -/
lemma inMonth_true (start : CalendarTime) (year month : Nat) : f.inMonth z start year month true =
    firstVerdict (fun tight day => f.inDay z start ⟨year, month, day⟩ tight)
      (f.days.contains start.date.day)
      (f.days.filter fun day => min start.date.day (daysInMonth year month) ≤ day &&
        day ≤ daysInMonth year month) := rfl

/-- Where the month is too short for the start, only its last day can be visited. -/
lemma eq_last {days : List Nat} {last v : Nat}
    (h : (days.filter fun day => last ≤ day && day ≤ last).head? = some v) :
    v = last ∧ days.contains v = true := by
  have hmem := List.mem_filter.mp (List.mem_of_head? h)
  simp only [Bool.and_eq_true, decide_eq_true_eq] at hmem
  exact ⟨Nat.le_antisymm hmem.2.2 hmem.2.1, List.contains_iff_mem.mpr hmem.1⟩

/-- The month of the start is searched from the entry on. -/
lemma inMonth_entry (f : Fields) (z : Zone) (start : CalendarTime) (year : Nat) :
    f.inMonth z start year start.date.month true =
      f.inMonth z (f.entry start year) year start.date.month true := by
  by_cases hday : start.date.day ≤ daysInMonth year start.date.month
  · rw [entry, if_pos hday]
    rfl
  have hmin := Nat.min_eq_right (Nat.le_of_not_le hday)
  rw [entry, if_neg hday, inMonth_true, inMonth_true, hmin]
  by_cases hmem : start.date.day ∈ f.days
  · rw [if_pos hmem, Nat.min_self, List.contains_iff_mem.mpr hmem]
    refine firstVerdict_congr (fun v hv => ?_) fun v => f.inDay_loose z _ _ _
    obtain ⟨rfl, hcontains⟩ := eq_last hv
    rw [hcontains]
    rfl
  · have hfree : f.days.contains start.date.day = false :=
      Bool.eq_false_iff.mpr fun h => hmem (List.contains_iff_mem.mp h)
    rw [if_neg hmem, Nat.min_self, hfree]
    refine firstVerdict_congr (fun v hv => ?_) fun v => f.inDay_loose z _ _ _
    obtain ⟨rfl, hcontains⟩ := eq_last hv
    rw [hcontains]
    exact (f.inDay_loose z _ _ _).trans (f.inDay_midnight z _).symm

/-- The year that the search enters is searched from the entry on. -/
lemma inYear_entry (hf : f.Proper) (z : Zone) (start : CalendarTime) (year : Nat) :
    f.inYear z start year true = f.inYear z (f.entry start year) year true := by
  rw [inYear, inYear, month_entry]
  exact levelFrom_tight hf.months.1 (inMonth_entry f z start year)
    fun month => inMonth_loose f z _ _ year month

/-! ### The onset -/

/-- The onset lies in the first of the years that are not over. -/
lemma onset_eq_some {b : CalendarTime} (hf : f.Proper) (h : f.onset start = some b) :
    ∃ year ∈ f.years, b = f.entry start year ∧ start.date.year ≤ year ∧
      ∀ y ∈ f.years, start.date.year ≤ (y : Int) ↔ year ≤ y := by
  obtain ⟨year, hfind, rfl⟩ := Option.map_eq_some_iff.mp h
  obtain ⟨hyear, before, after, hsplit, hbefore⟩ := List.find?_eq_some_iff_append.mp hfind
  have hsorted := hf.years.1
  rw [hsplit] at hsorted ⊢
  obtain ⟨-, hafter, hcross⟩ := List.pairwise_append.mp hsorted
  refine ⟨year, List.mem_append_right _ List.mem_cons_self, rfl, of_decide_eq_true hyear,
    fun y hy => ⟨fun hle => ?_, fun hle => ?_⟩⟩
  · rcases List.mem_append.mp hy with hy | hy
    · have hover := hbefore y hy
      simp only [Bool.not_eq_true', decide_eq_false_iff_not] at hover
      exact absurd hle hover
    · rcases List.mem_cons.mp hy with rfl | hy
      · exact Nat.le_refl _
      · exact Nat.le_of_lt ((List.pairwise_cons.mp hafter).1 y hy)
  · have hlow := of_decide_eq_true hyear
    omega

/-- Without an onset all years are over. -/
lemma onset_eq_none (h : f.onset start = none) : ∀ y ∈ f.years, (y : Int) < start.date.year := by
  intro y hy
  have hover := List.find?_eq_none.mp (Option.map_eq_none_iff.mp h) y hy
  simp only [decide_eq_true_eq] at hover
  omega

/-- The search comes to the same as the search from the onset. -/
theorem search_onset (hf : f.Proper) (z : Zone) (hpast : 0 ≤ start.date.year) {b : CalendarTime}
    (hb : f.onset start = some b) : f.search z start = f.search z b := by
  obtain ⟨year, hmem, rfl, hle, hiff⟩ := onset_eq_some hf hb
  have hsame : f.years.filter (fun y : Nat => start.date.year ≤ (y : Int)) =
      f.years.filter fun y : Nat => (f.entry start year).date.year ≤ (y : Int) := by
    refine List.filter_congr fun y hy => decide_eq_decide.mpr ?_
    rw [year_entry, hiff y hy]
    omega
  have hhead {v : Nat} (hv : (f.years.filter fun y : Nat =>
      start.date.year ≤ (y : Int)).head? = some v) : v = year := by
    have hleast := head?_eq_least (hf.years.1.filter fun y : Nat => start.date.year ≤ (y : Int))
      (List.mem_filter.mpr ⟨hmem, decide_eq_true hle⟩) fun v hv =>
        (hiff v (List.mem_filter.mp hv).1).mp (of_decide_eq_true (List.mem_filter.mp hv).2)
    exact Option.some.inj (hv.symm.trans hleast)
  rw [search, search, if_neg (by omega), if_neg (by rw [year_entry]; omega), ← hsame]
  refine firstVerdict_congr (fun v hv => ?_) fun v => f.inYear_loose z _ _ v
  rw [hhead hv]
  exact inYear_entry hf z start year

/-- **Right search**. The search finds the first reading from the onset on at which it stops. -/
theorem search_settles_onset (hf : f.Proper) (hstart : start.Valid) (hpast : 0 ≤ start.date.year)
    {b : CalendarTime} (hb : f.onset start = some b) :
    (f.search z start).Settles f z b CalendarTime.Recent true := by
  obtain ⟨year, hmem, rfl, -⟩ := onset_eq_some hf hb
  rw [search_onset hf z hpast hb]
  exact search_settles_of_mem hf (valid_entry f hstart year) ⟨year, hmem, year_entry f start year⟩

/-- Without an onset the search finds nothing. -/
lemma search_of_onset_eq_none (z : Zone) (hb : f.onset start = none) :
    f.search z start = .nothing := by
  have hover : f.years.filter (fun y : Nat => start.date.year ≤ (y : Int)) = [] :=
    List.filter_eq_nil_iff.mpr fun y hy => by
      have := onset_eq_none hb y hy
      simp only [decide_eq_true_eq]
      omega
  rw [search, hover]
  split <;> rfl

/-- The onset is not before the start. -/
lemma le_onset (hf : f.Proper) (hstart : start.Valid) {b : CalendarTime}
    (hb : f.onset start = some b) : b.Valid ∧ start.toSecs ≤ b.toSecs := by
  obtain ⟨year, hmem, rfl, hle, -⟩ := onset_eq_some hf hb
  refine ⟨valid_entry f hstart year, ?_⟩
  by_cases hown : start.date.year = year
  · exact Int.le_of_eq (by rw [entry_self f hstart hown])
  · refine Int.le_of_lt
      (CalendarTime.toSecs_lt_of_date hstart (valid_entry f hstart year) (.inl ?_))
    rw [year_entry]
    omega

/-- In a year of the fields the search takes up the calendar at the start. -/
lemma onset_of_mem (hf : f.Proper) (hstart : start.Valid)
    (hown : ∃ y ∈ f.years, start.date.year = (y : Int)) : f.onset start = some start := by
  obtain ⟨y, hy, heq⟩ := hown
  cases hb : f.onset start with
  | none =>
      have hover := onset_eq_none hb y hy
      omega
  | some b =>
      obtain ⟨year, hmem, rfl, hle, hiff⟩ := onset_eq_some hf hb
      have hle' := (hiff y hy).mp (Int.le_of_eq heq)
      rw [entry_self f hstart (by omega)]

end Fields

end JobDispatch.Cron
