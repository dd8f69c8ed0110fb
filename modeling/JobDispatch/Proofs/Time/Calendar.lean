import JobDispatch.Time.Calendar
import Mathlib.Tactic.Lemma

/-!
The count of days and the calendar agree.

* `Date.toDays_ofDays` and `Date.valid_ofDays`: the date of a day is a date of the calendar, and it
  is the date of that day alone.
* `Date.toDays_lt_toDays`: dates are ordered as their days are.
* `Date.le_year_ofDays`: the days from 1970-01-01 on are those of the years from 1970 on.
-/

namespace JobDispatch

lemma isLeapYear_iff (year : Int) :
    isLeapYear year = true ↔ year % 4 = 0 ∧ (year % 100 ≠ 0 ∨ year % 400 = 0) := by
  simp [isLeapYear]

namespace Date

/-! ### Years that begin in March -/

/-- The first day of March of the given year. -/
def marchStart (year : Int) : Int := 365 * year + year / 4 - year / 100 + year / 400 - 719468

/-- The first day of a month, counted from March, within a year that begins in March. -/
def monthStart (month : Int) : Int := (153 * month + 2) / 5

/-- The date of the given day of a year that begins in March. -/
def ofMarch (year day : Int) : Date :=
  let month := (5 * day + 2) / 153
  { year := if month < 10 then year else year + 1
    month := (if month < 10 then month + 3 else month - 9).toNat
    day := (day - monthStart month + 1).toNat }

lemma toDays_eq (d : Date) : d.toDays =
    marchStart (if d.month ≤ 2 then d.year - 1 else d.year) +
      monthStart (if d.month ≤ 2 then d.month + 9 else d.month - 3) + (d.day - 1) := by
  simp only [toDays, marchStart, monthStart]
  generalize (if d.month ≤ 2 then d.year - 1 else d.year) = year
  generalize (153 * (if d.month ≤ 2 then (d.month : Int) + 9 else d.month - 3) + 2) / 5 = days
  omega

/-- The count of a day of a year that begins in March. -/
lemma toDays_ofMarch {year day : Int} (hlow : 0 ≤ day) (hhigh : day ≤ 365) :
    (ofMarch year day).toDays = marchStart year + day := by
  obtain ⟨month, hmonth⟩ : ∃ month, month = (5 * day + 2) / 153 := ⟨_, rfl⟩
  have hday : 0 ≤ day - monthStart month := by rw [monthStart]; omega
  rw [toDays_eq, ofMarch]
  dsimp only
  rw [← hmonth]
  by_cases hlate : month < 10
  · have hshown : ¬ (month + 3).toNat ≤ 2 := by omega
    have hback : ((month + 3).toNat : Int) - 3 = month := by omega
    rw [if_pos hlate, if_pos hlate, if_neg hshown, if_neg hshown, hback]
    omega
  · have hshown : (month - 9).toNat ≤ 2 := by omega
    have hback : ((month - 9).toNat : Int) + 9 = month := by omega
    have hyear : year + 1 - 1 = year := by omega
    rw [if_neg hlate, if_neg hlate, if_pos hshown, if_pos hshown, hback, hyear]
    omega

/-- The number of days of a month counted from March. Only the last month, February, depends on the
year. -/
lemma daysInMonth_march (year : Int) {month : Int} (hlow : 0 ≤ month) (hhigh : month ≤ 11) :
    (daysInMonth year (if month < 10 then month + 3 else month - 9).toNat : Int) =
      if month = 11 then (if isLeapYear year then 29 else 28)
      else monthStart (month + 1) - monthStart month := by
  have hcases : month = 0 ∨ month = 1 ∨ month = 2 ∨ month = 3 ∨ month = 4 ∨ month = 5 ∨
      month = 6 ∨ month = 7 ∨ month = 8 ∨ month = 9 ∨ month = 10 ∨ month = 11 := by omega
  rcases hcases with rfl | rfl | rfl | rfl | rfl | rfl | rfl | rfl | rfl | rfl | rfl | rfl
  case inr.inr.inr.inr.inr.inr.inr.inr.inr.inr.inr =>
    show ((if isLeapYear year then 29 else 28 : Nat) : Int) = if isLeapYear year then 29 else 28
    split <;> rfl
  all_goals rfl

/-- The days of a year that begins in March have dates; the last one has one only if its February
has 29 days. -/
lemma valid_ofMarch {year day : Int} (hlow : 0 ≤ day) (hhigh : day ≤ 365)
    (hleap : day = 365 → isLeapYear (year + 1) = true) : (ofMarch year day).Valid := by
  obtain ⟨month, hmonth⟩ : ∃ month, month = (5 * day + 2) / 153 := ⟨_, rfl⟩
  rw [ofMarch, ← hmonth]
  have hlowest : 0 ≤ month := by omega
  have hhighest : month ≤ 11 := by omega
  have hdays := daysInMonth_march (if month < 10 then year else year + 1) hlowest hhighest
  refine ⟨?_, ?_, ?_, ?_⟩
  · show 1 ≤ (if month < 10 then month + 3 else month - 9).toNat
    split <;> omega
  · show (if month < 10 then month + 3 else month - 9).toNat ≤ 12
    split <;> omega
  · show 1 ≤ (day - monthStart month + 1).toNat
    rw [monthStart]
    omega
  · rw [← Int.ofNat_le]
    refine Int.le_trans ?_ (Int.le_of_eq hdays.symm)
    show ((day - monthStart month + 1).toNat : Int) ≤ _
    by_cases hlast : month = 11
    · have hyear : (if month < 10 then year else year + 1) = year + 1 := if_neg (by omega)
      rw [if_pos hlast, hyear, monthStart]
      by_cases hday : day = 365
      · rw [if_pos (hleap hday)]
        omega
      · split <;> omega
    · rw [if_neg hlast, monthStart, monthStart]
      omega

/-! ### Years within an era -/

/-- The year, counted from 0, to which a day of an era of 400 years belongs. -/
def yearOfEra (day : Int) : Int := (day - day / 1460 + day / 36524 - day / 146096) / 365

section Era

variable {day : Int} (hlow : 0 ≤ day) (hhigh : day ≤ 146096)
include hlow hhigh

/-- An era has four centuries, and the last of them has the last day. -/
lemma century_cases : day / 36524 = 0 ∨ day / 36524 = 1 ∨ day / 36524 = 2 ∨ day / 36524 = 3 ∨
    day / 36524 = 4 := by omega

lemma yearOfEra_bounds : 0 ≤ yearOfEra day ∧ yearOfEra day ≤ 399 := by
  rw [yearOfEra]
  omega

lemma yearOfEra_century : yearOfEra day / 100 = day / 36524 - day / 146096 := by
  rw [yearOfEra]
  rcases century_cases hlow hhigh with h | h | h | h | h <;> rw [h] <;> omega

lemma yearOfEra_quarter :
    yearOfEra day / 4 ≤ day / 1460 ∧ day / 1460 ≤ yearOfEra day / 4 + 1 := by
  rw [yearOfEra]
  rcases century_cases hlow hhigh with h | h | h | h | h <;> rw [h] <;> omega

/-- The day lies in its year. -/
lemma yearOfEra_le :
    365 * yearOfEra day + yearOfEra day / 4 - yearOfEra day / 100 ≤ day ∧
      day ≤ 365 * yearOfEra day + yearOfEra day / 4 - yearOfEra day / 100 + 365 := by
  have hcentury := yearOfEra_century hlow hhigh
  have hquarter := yearOfEra_quarter hlow hhigh
  rw [yearOfEra] at *
  omega

/-- A year with 366 days ends with a leap day. -/
lemma isLeapYear_yearOfEra
    (hlast : day = 365 * yearOfEra day + yearOfEra day / 4 - yearOfEra day / 100 + 365) :
    isLeapYear (yearOfEra day + 1) = true := by
  have hbounds := yearOfEra_bounds hlow hhigh
  have hcentury := yearOfEra_century hlow hhigh
  have hquarter := yearOfEra_quarter hlow hhigh
  have hquot : yearOfEra day = (day - day / 1460 + day / 36524 - day / 146096) / 365 := rfl
  have hfourth : yearOfEra day - 4 * (yearOfEra day / 4) = 3 := by omega
  have hturn : yearOfEra day / 100 = 3 ∨ yearOfEra day - 100 * (yearOfEra day / 100) ≠ 99 := by
    rcases century_cases hlow hhigh with h | h | h | h | h <;> rw [h] at hcentury <;> omega
  rw [isLeapYear_iff]
  exact ⟨by omega, by omega⟩

end Era

/-! ### Dates of days -/

/-- Every era has the same number of days. -/
lemma marchStart_era (year era : Int) :
    marchStart (year + era * 400) = marchStart year + era * 146097 := by
  have hfourth : (year + era * 400) / 4 = year / 4 + era * 100 := by omega
  have hcentury : (year + era * 400) / 100 = year / 100 + era * 4 := by omega
  have hera : (year + era * 400) / 400 = year / 400 + era := by omega
  rw [marchStart, marchStart, hfourth, hcentury, hera]
  omega

/-- The calendar year of a month counted from March. -/
lemma shown_year (year : Int) {month : Int} (hlow : 0 ≤ month) (hhigh : month ≤ 11) :
    (if (if month < 10 then month + 3 else month - 9) ≤ 2 then year + 1 else year) =
      if month < 10 then year else year + 1 := by
  by_cases hlate : month < 10
  · rw [if_pos hlate, if_pos hlate, if_neg (by omega)]
  · rw [if_neg hlate, if_neg hlate, if_pos (by omega)]

/-- Every day is a day of a year that begins in March. -/
lemma ofDays_eq_ofMarch (days : Int) : ∃ year day, ofDays days = ofMarch year day ∧
    days = marchStart year + day ∧ 0 ≤ day ∧ day ≤ 365 ∧
    (day = 365 → isLeapYear (year + 1) = true) := by
  obtain ⟨era, hera⟩ : ∃ era, era = (days + 719468) / 146097 := ⟨_, rfl⟩
  obtain ⟨rest, hrest⟩ : ∃ rest, rest = days + 719468 - era * 146097 := ⟨_, rfl⟩
  have hlow : 0 ≤ rest := by omega
  have hhigh : rest ≤ 146096 := by omega
  have hbounds := yearOfEra_bounds hlow hhigh
  have hle := yearOfEra_le hlow hhigh
  obtain ⟨day, hday⟩ : ∃ day, day =
      rest - (365 * yearOfEra rest + yearOfEra rest / 4 - yearOfEra rest / 100) := ⟨_, rfl⟩
  refine ⟨yearOfEra rest + era * 400, day, ?_, ?_, by omega, by omega, fun hlast => ?_⟩
  · have hlowest : 0 ≤ (5 * day + 2) / 153 := by omega
    have hhighest : (5 * day + 2) / 153 ≤ 11 := by omega
    have hmonth := shown_year (yearOfEra rest + era * 400) hlowest hhighest
    subst hday hrest hera
    exact congrArg (fun year => (⟨year, _, _⟩ : Date)) hmonth
  · rw [marchStart_era, marchStart]
    omega
  · have hleap := isLeapYear_yearOfEra hlow hhigh (by omega)
    rw [isLeapYear_iff] at hleap ⊢
    omega

/-- The date of a day is the date of that day. -/
@[simp] lemma toDays_ofDays (days : Int) : (ofDays days).toDays = days := by
  obtain ⟨year, day, hdate, hdays, hlow, hhigh, -⟩ := ofDays_eq_ofMarch days
  rw [hdate, toDays_ofMarch hlow hhigh, hdays]

/-- The date of a day is a date of the calendar. -/
lemma valid_ofDays (days : Int) : (ofDays days).Valid := by
  obtain ⟨year, day, hdate, -, hlow, hhigh, hleap⟩ := ofDays_eq_ofMarch days
  rw [hdate]
  exact valid_ofMarch hlow hhigh hleap

/-! ### The order of dates -/

/-- The days of a month follow the first one. -/
lemma toDays_eq_first (d : Date) :
    d.toDays = (⟨d.year, d.month, 1⟩ : Date).toDays + (d.day - 1) := by
  rw [toDays_eq, toDays_eq ⟨d.year, d.month, 1⟩]
  dsimp only
  omega

/-- A year that begins in March has 366 days if it ends with a leap day. -/
lemma marchStart_succ (year : Int) :
    marchStart year = marchStart (year - 1) + if isLeapYear year then 366 else 365 := by
  have hfourth : (year - 1) / 4 = year / 4 - if year % 4 = 0 then 1 else 0 := by
    split <;> omega
  have hcentury : (year - 1) / 100 = year / 100 - if year % 100 = 0 then 1 else 0 := by
    split <;> omega
  have hera : (year - 1) / 400 = year / 400 - if year % 400 = 0 then 1 else 0 := by
    split <;> omega
  rw [marchStart, marchStart, hfourth, hcentury, hera]
  by_cases hleap : isLeapYear year = true
  · rw [if_pos hleap]
    rw [isLeapYear_iff] at hleap
    split <;> split <;> split <;> omega
  · rw [if_neg hleap]
    rw [isLeapYear_iff] at hleap
    split <;> split <;> split <;> omega

/-- A month begins when the month before it is over. -/
lemma toDays_month_succ (year : Int) (month : Nat) (hlow : 1 ≤ month) (hhigh : month < 12) :
    (⟨year, month + 1, 1⟩ : Date).toDays =
      (⟨year, month, 1⟩ : Date).toDays + daysInMonth year month := by
  rw [toDays_eq, toDays_eq]
  have hcases : month = 2 ∨ month = 1 ∨ month = 3 ∨ month = 4 ∨ month = 5 ∨ month = 6 ∨
      month = 7 ∨ month = 8 ∨ month = 9 ∨ month = 10 ∨ month = 11 := by omega
  rcases hcases with rfl | rfl | rfl | rfl | rfl | rfl | rfl | rfl | rfl | rfl | rfl
  case inl =>
    have hstart := marchStart_succ year
    by_cases hleap : isLeapYear year = true
    · rw [if_pos hleap] at hstart
      simp [monthStart, daysInMonth, hleap, hstart]
      omega
    · rw [if_neg hleap] at hstart
      simp [monthStart, daysInMonth, hleap, hstart]
      omega
  all_goals simp [monthStart, daysInMonth] <;> omega

/-- A later month of the year begins when the month is over. -/
lemma toDays_month_le (year : Int) {month later : Nat} (hlow : 1 ≤ month) (hlt : month < later)
    (hhigh : later ≤ 12) :
    (⟨year, month, 1⟩ : Date).toDays + daysInMonth year month ≤
      (⟨year, later, 1⟩ : Date).toDays := by
  induction later with
  | zero => omega
  | succ n ih =>
      have hsucc := toDays_month_succ year n
      by_cases hn : month = n
      · subst hn
        exact Int.le_of_eq (hsucc hlow (by omega)).symm
      · have hle := ih (by omega) (by omega)
        rw [hsucc (by omega) (by omega)]
        omega

/-- A later year begins when the year is over. -/
lemma toDays_year_le {year later : Int} (hlt : year < later) :
    (⟨year, 12, 1⟩ : Date).toDays + 31 ≤ (⟨later, 1, 1⟩ : Date).toDays := by
  rw [toDays_eq, toDays_eq]
  simp [monthStart, marchStart]
  omega

/-- A date of the calendar lies in its year. -/
lemma Valid.toDays_le {d : Date} (h : d.Valid) :
    (⟨d.year, 1, 1⟩ : Date).toDays ≤ d.toDays ∧
      d.toDays ≤ (⟨d.year, 12, 1⟩ : Date).toDays + 30 := by
  obtain ⟨hlow, hhigh, hfirst, hlast⟩ := h
  rw [toDays_eq_first d]
  refine ⟨?_, ?_⟩
  · by_cases hmonth : d.month = 1
    · rw [hmonth]
      omega
    · have hle := toDays_month_le d.year (Nat.le_refl 1) (show 1 < d.month by omega) hhigh
      omega
  · by_cases hmonth : d.month = 12
    · rw [hmonth] at hlast ⊢
      simp [daysInMonth] at hlast
      omega
    · have hle := toDays_month_le d.year hlow (show d.month < 12 by omega) (Nat.le_refl 12)
      omega

/-- Dates of the calendar are ordered as their days are. -/
theorem toDays_lt_toDays {d d' : Date} (h : d.Valid) (h' : d'.Valid)
    (hlt : d.year < d'.year ∨ d.year = d'.year ∧
      (d.month < d'.month ∨ d.month = d'.month ∧ d.day < d'.day)) :
    d.toDays < d'.toDays := by
  rcases hlt with hyear | ⟨hyear, hmonth | ⟨hmonth, hday⟩⟩
  · have hle := toDays_year_le hyear
    have hd := h.toDays_le.2
    have hd' := h'.toDays_le.1
    omega
  · have hle := toDays_month_le d.year h.1 hmonth h'.2.1
    have hlast := h.2.2.2
    have hfirst := h'.2.2.1
    rw [toDays_eq_first d, toDays_eq_first d', ← hyear]
    omega
  · rw [toDays_eq_first d, toDays_eq_first d', ← hyear, ← hmonth]
    omega

/-- The days from the first of a year on are those of the years from that year on. -/
lemma le_year_ofDays_iff (year days : Int) :
    year ≤ (ofDays days).year ↔ (⟨year, 1, 1⟩ : Date).toDays ≤ days := by
  have hvalid := valid_ofDays days
  have hfirst : (⟨year, 1, 1⟩ : Date).Valid :=
    ⟨Nat.le_refl 1, Nat.le_add_left 1 11, Nat.le_refl 1, Nat.le_add_left 1 30⟩
  constructor
  · intro hyear
    by_cases heq : (ofDays days).year = year
    · have hle := hvalid.toDays_le.1
      rw [heq, toDays_ofDays] at hle
      exact hle
    · have hlt : (⟨year, 1, 1⟩ : Date).toDays < (ofDays days).toDays :=
        toDays_lt_toDays hfirst hvalid (.inl (by show year < _; omega))
      rw [toDays_ofDays] at hlt
      omega
  · intro hdays
    by_cases hyear : year ≤ (ofDays days).year
    · exact hyear
    · have hlt : (ofDays days).toDays < (⟨year, 1, 1⟩ : Date).toDays :=
        toDays_lt_toDays hvalid hfirst (.inl (by show _ < year; omega))
      rw [toDays_ofDays] at hlt
      omega

/-- Later days lie in later years or in the same. -/
lemma year_ofDays_mono {days days' : Int} (h : days ≤ days') :
    (ofDays days).year ≤ (ofDays days').year :=
  (le_year_ofDays_iff _ _).mpr (Int.le_trans ((le_year_ofDays_iff _ _).mp (Int.le_refl _)) h)

/-- The days from 1970-01-01 on are those of the years from 1970 on. -/
lemma le_year_ofDays {days : Int} : 1970 ≤ (ofDays days).year ↔ 0 ≤ days :=
  le_year_ofDays_iff 1970 days

/-- Dates of the calendar on the same day are the same. -/
lemma Valid.eq_of_toDays {d d' : Date} (h : d.Valid) (h' : d'.Valid)
    (heq : d.toDays = d'.toDays) : d = d' := by
  obtain ⟨year, month, day⟩ := d
  obtain ⟨year', month', day'⟩ := d'
  have hbefore : ¬ (year < year' ∨ year = year' ∧ (month < month' ∨ month = month' ∧ day < day')) :=
    fun hlt => Int.ne_of_lt (toDays_lt_toDays h h' hlt) heq
  have hafter : ¬ (year' < year ∨ year' = year ∧ (month' < month ∨ month' = month ∧ day' < day)) :=
    fun hlt => Int.ne_of_gt (toDays_lt_toDays h' h hlt) heq
  obtain ⟨rfl, rfl, rfl⟩ : year = year' ∧ month = month' ∧ day = day' := by omega
  rfl

end Date

end JobDispatch
