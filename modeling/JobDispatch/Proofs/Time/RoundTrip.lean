import JobDispatch.Proofs.Time.Calendar
import JobDispatch.Time.Timestamp
import Mathlib.Tactic.Common

/-!
Instants that are written can be read back.

A text is read part by part, and no number in it stands before a digit. So a run of digits is read
to its end, however wide the place that is kept for it, and what is left is the text behind it.

* `Timestamp.Stops`: a text that does not go on with a number that stands before it.
* `Timestamp.number_zeroPadded`: the number that is read is the one that was written.
* `Timestamp.year_yearText`, `Timestamp.fraction_fractionText`: the same of a year, with a sign or
  without, and of the decimals of a second, however many of them are written.
* `Instant.parse_text`: every instant that a clock can show is read back from its text.
-/

namespace JobDispatch

/-! ### Digits -/

lemma isDigit_of_mem_zeroPadded {width n : Nat} {c : Char} (h : c ∈ zeroPadded width n) :
    c.isDigit = true := by
  obtain hfill | hdigit := List.mem_append.mp h
  · rw [List.eq_of_mem_replicate hfill]
    rfl
  · exact Nat.isDigit_of_mem_toDigits (by decide) (by decide) hdigit

/-- A written number begins with a digit. -/
lemma exists_cons_zeroPadded (width n : Nat) :
    ∃ c digits, zeroPadded width n = c :: digits ∧ c.isDigit = true := by
  cases htext : zeroPadded width n with
  | nil => exact absurd htext (List.append_ne_nil_of_right_ne_nil _ Nat.toDigits_ne_nil)
  | cons c digits =>
      exact ⟨c, digits, rfl, isDigit_of_mem_zeroPadded (htext ▸ List.mem_cons_self)⟩

/-- A number that is not too large fills its place exactly. -/
lemma length_zeroPadded {width n : Nat} (hwidth : 0 < width) (hn : n < tenTo width) :
    (zeroPadded width n).length = width := by
  have hdigits : (Nat.toDigits 10 n).length ≤ width :=
    (Nat.length_toDigits_le_iff (by decide) hwidth).mpr hn
  rw [zeroPadded, List.length_append, List.length_replicate]
  omega

namespace Timestamp

/-- Zeros in front do not change a number. -/
lemma digitsValue_zeroPadded (width n : Nat) : digitsValue (zeroPadded width n) = n := by
  show Nat.ofDigitChars 10 (zeroPadded width n) 0 = n
  rw [zeroPadded, Nat.ofDigitChars_append, Nat.ofDigitChars_replicate_zero, Nat.mul_zero,
    Nat.ofDigitChars_ten_toDigits]

/-- A number that stands before this text ends where the text begins. -/
def Stops (rest : List Char) : Prop := ∀ c ∈ rest.head?, c.isDigit = false

namespace Stops

variable {rest : List Char}

lemma cons {c : Char} (h : c.isDigit = false) : Stops (c :: rest) := by
  intro d hd
  rw [List.head?_cons, Option.mem_some_iff] at hd
  rw [← hd, h]

lemma take (h : Stops rest) (n : Nat) : Stops (rest.take n) := by
  intro c hc
  rw [List.head?_take] at hc
  split_ifs at hc
  · cases hc
  · exact h c hc

/-- No digit is left to be passed over. -/
lemma dropWhile_eq (h : Stops rest) : rest.dropWhile Char.isDigit = rest := by
  cases rest with
  | nil => rfl
  | cons c rest => rw [List.dropWhile_cons, h c rfl, if_neg Bool.false_ne_true]

lemma takeWhile_append (h : Stops rest) {digits : List Char}
    (hdigits : ∀ c ∈ digits, c.isDigit = true) :
    (digits ++ rest).takeWhile Char.isDigit = digits := by
  have hnone : rest.takeWhile Char.isDigit = [] := by
    cases rest with
    | nil => rfl
    | cons c rest => rw [List.takeWhile_cons, h c rfl, if_neg Bool.false_ne_true]
  rw [List.takeWhile_append_of_pos hdigits, hnone, List.append_nil]

end Stops

/-- What was written as a number is read as that number, and the text behind it is left. -/
lemma number_zeroPadded {width place n : Nat} {rest : List Char}
    (hplace : (zeroPadded place n).length ≤ width) (hn : (n : Int) < int64Bound)
    (hrest : Stops rest) : number width (zeroPadded place n ++ rest) = .ok (n, rest) := by
  have hrun : ((zeroPadded place n ++ rest).take width).takeWhile Char.isDigit =
      zeroPadded place n := by
    rw [List.take_append, List.take_of_length_le hplace]
    exact (hrest.take _).takeWhile_append fun c => isDigit_of_mem_zeroPadded
  have hvalue := digitsValue_zeroPadded place n
  obtain ⟨c, digits, htext, hdigit⟩ := exists_cons_zeroPadded place n
  rw [htext] at hrun hvalue ⊢
  rw [List.cons_append] at hrun ⊢
  rw [number]
  dsimp only
  rw [if_pos hdigit, hrun, hvalue, if_pos hn, ← List.cons_append, List.drop_left]

/-! ### Parts of a text -/

lemma ok_bind {ε α β : Type} (a : α) (f : α → Except ε β) : (Except.ok a >>= f) = f a := rfl

lemma isBlank_of_isDigit {c : Char} (h : c.isDigit = true) : Text.isBlank c = false := by
  simp only [Char.isDigit, Bool.and_eq_true, decide_eq_true_eq, ge_iff_le,
    UInt32.le_iff_toNat_le] at h
  have hlow : 48 ≤ c.toNat := h.1
  have hhigh : c.toNat ≤ 57 := h.2
  simp [Text.isBlank]
  omega

lemma dropBlanks_zeroPadded (place n : Nat) (rest : List Char) :
    Text.dropBlanks (zeroPadded place n ++ rest) = zeroPadded place n ++ rest := by
  obtain ⟨c, digits, htext, hdigit⟩ := exists_cons_zeroPadded place n
  rw [htext]
  exact Text.dropBlanks_cons _ (isBlank_of_isDigit hdigit)

/-- A field is read, if it lies within its bounds. -/
lemma field_zeroPadded {low high n : Nat} {rest : List Char} (hlow : low ≤ n) (hhigh : n ≤ high)
    (hn : n < tenTo 2) (hrest : Stops rest) :
    field low high (zeroPadded 2 n ++ rest) = .ok (n, rest) := by
  have hplace : (zeroPadded 2 n).length ≤ 2 := Nat.le_of_eq (length_zeroPadded (by decide) hn)
  have hfits : (n : Int) < int64Bound := by
    have htwo : tenTo 2 = 100 := rfl
    unfold int64Bound
    omega
  rw [field, dropBlanks_zeroPadded, number_zeroPadded hplace hfits hrest]
  exact if_pos ⟨hlow, hhigh⟩

lemma mark_cons {c : Char} {rest : List Char} (h : Text.isBlank c = false) :
    mark c (c :: rest) = .ok rest := by
  rw [mark, Text.dropBlanks_cons rest h]
  exact if_pos rfl

/-- A mark is passed over, and the field behind it is read. -/
lemma mark_bind_field {α : Type} {c : Char} {low high n : Nat} {rest : List Char}
    {k : Nat × List Char → Except TimestampError α} (hc : Text.isBlank c = false) (hlow : low ≤ n)
    (hhigh : n ≤ high) (hn : n < tenTo 2) (hrest : Stops rest) :
    (mark c (c :: (zeroPadded 2 n ++ rest)) >>= fun s => field low high s >>= k) = k (n, rest) := by
  rw [mark_cons hc, ok_bind, field_zeroPadded hlow hhigh hn hrest, ok_bind]

/-- A signed year may have any number of digits: all that is left of the text is its place. -/
lemma number_signed {n : Nat} {rest : List Char} (hn : (n : Int) < int64Bound)
    (hrest : Stops rest) :
    number (zeroPadded 4 n ++ rest).length (zeroPadded 4 n ++ rest) = .ok (n, rest) :=
  number_zeroPadded (by rw [List.length_append]; omega) hn hrest

lemma year_yearText {y : Int} {rest : List Char} (hlow : -int32Bound ≤ y) (hhigh : y < int32Bound)
    (hrest : Stops rest) : year (Instant.yearText y ++ rest) = .ok (y, rest) := by
  have hbounds : -int32Bound ≤ y ∧ y < int32Bound := ⟨hlow, hhigh⟩
  have hfits : (y.natAbs : Int) < int64Bound := by
    unfold int32Bound at hlow hhigh
    unfold int64Bound
    omega
  rw [Instant.yearText]
  split_ifs with hplain hneg
  · have hplace : (zeroPadded 4 y.toNat).length ≤ 4 :=
      Nat.le_of_eq (length_zeroPadded (by decide) (show y.toNat < 10000 by omega))
    have hnumber : number 4 (zeroPadded 4 y.toNat ++ rest) = .ok (y.toNat, rest) :=
      number_zeroPadded hplace (by omega) hrest
    have hback : (y.toNat : Int) = y := by omega
    -- Neither sign is a digit, so that the year is read as one without a sign.
    have hsign {c : Char} {s : List Char} (heq : zeroPadded 4 y.toNat ++ rest = c :: s) :
        c.isDigit = true := by
      obtain ⟨d, digits, htext, hdigit⟩ := exists_cons_zeroPadded 4 y.toNat
      rw [htext] at heq
      obtain ⟨rfl, -⟩ := List.cons.inj heq
      exact hdigit
    rw [year, dropBlanks_zeroPadded]
    split
    · next heq => exact absurd (hsign heq) (by decide)
    · next heq => exact absurd (hsign heq) (by decide)
    · simp only [hnumber, ok_bind, hback, if_pos hbounds]
  · have hback : -(y.natAbs : Int) = y := by omega
    rw [List.cons_append, year, Text.dropBlanks_cons _ (by decide)]
    simp only [number_signed hfits hrest, ok_bind, hback, if_pos hbounds]
  · have hback : (y.natAbs : Int) = y := by omega
    rw [List.cons_append, year, Text.dropBlanks_cons _ (by decide)]
    simp only [number_signed hfits hrest, ok_bind, hback, if_pos hbounds]

/-- Decimals count from the point on, wherever they end. -/
lemma fraction_decimals {places n : Nat} {rest : List Char} (hpos : 0 < places) (hnine : places ≤ 9)
    (hn : n < tenTo places) (hfits : (n : Int) < int64Bound) (hrest : Stops rest) :
    fraction ('.' :: zeroPadded places n ++ rest) = .ok (n * tenTo (9 - places), rest) := by
  have hlength := length_zeroPadded hpos hn
  have hread : (zeroPadded places n ++ rest).length - rest.length = places := by
    rw [List.length_append, hlength, Nat.add_sub_cancel]
  rw [List.cons_append, fraction, number_zeroPadded (by rw [hlength]; exact hnine) hfits hrest,
    ok_bind]
  dsimp only
  rw [hread, hrest.dropWhile_eq]

lemma fraction_fractionText {nanos : Nat} {rest : List Char} (hnanos : nanos < nanosPerSec) :
    fraction (Instant.fractionText nanos ++ 'Z' :: rest) = .ok (nanos, 'Z' :: rest) := by
  have hrest : Stops ('Z' :: rest) := .cons rfl
  unfold nanosPerSec at hnanos
  rw [Instant.fractionText]
  split_ifs with hnone hmillis hmicros
  · rw [hnone]
    rfl
  · have hback : nanos / 1000000 * tenTo (9 - 3) = nanos := by
      show nanos / 1000000 * 1000000 = nanos
      omega
    rw [fraction_decimals (by decide) (by decide) (show _ < 1000 by omega)
      (show _ < 9223372036854775808 by omega) hrest, hback]
  · have hback : nanos / 1000 * tenTo (9 - 6) = nanos := by
      show nanos / 1000 * 1000 = nanos
      omega
    rw [fraction_decimals (by decide) (by decide) (show _ < 1000000 by omega)
      (show _ < 9223372036854775808 by omega) hrest, hback]
  · have hback : nanos * tenTo (9 - 9) = nanos := Nat.mul_one nanos
    rw [fraction_decimals (by decide) (by decide) (show _ < 1000000000 by omega)
      (show _ < 9223372036854775808 by omega) hrest, hback]

/-- Decimals, or what stands after a second without any, are no digits of that second. -/
lemma stops_fractionText (nanos : Nat) (rest : List Char) :
    Stops (Instant.fractionText nanos ++ 'Z' :: rest) := by
  rw [Instant.fractionText]
  split_ifs
  all_goals exact .cons rfl

/-! ### Whole texts -/

lemma daysInMonth_le (year : Int) (month : Nat) : daysInMonth year month ≤ 31 := by
  have hfebruary : (if isLeapYear year then 29 else 28) ≤ 31 := by split <;> omega
  unfold daysInMonth
  split <;> omega

/-- The years that a clock can show. -/
lemma year_bounds {t : Instant} (h : t.Representable) :
    -262143 ≤ (Date.ofDays (t.secs / secsPerDay)).year ∧
      (Date.ofDays (t.secs / secsPerDay)).year ≤ 262142 := by
  obtain ⟨hfirst, hlast, -⟩ := h
  unfold Instant.firstSec at hfirst
  unfold Instant.lastSec at hlast
  have hlow : (⟨-262143, 1, 1⟩ : Date).toDays = -96465292 := by decide
  have hhigh : (⟨262143, 1, 1⟩ : Date).toDays = 95026237 := by decide
  have hlater := Date.le_year_ofDays_iff 262143 (t.secs / secsPerDay)
  rw [hhigh] at hlater
  unfold secsPerDay at *
  constructor
  · rw [Date.le_year_ofDays_iff, hlow]
    omega
  · by_contra hyear
    have hdays := hlater.mp (by omega)
    omega

/-- The parts of an instant as they are written. -/
def partsOf (t : Instant) : Fields where
  date := Date.ofDays (t.secs / secsPerDay)
  hour := (t.secs % secsPerDay).toNat / 3600
  minute := (t.secs % secsPerDay).toNat / 60 % 60
  second := (t.secs % secsPerDay).toNat % 60 + t.nanos / nanosPerSec
  nanos := t.nanos % nanosPerSec
  offset := 0

/-- A leap second is the sixtieth of its minute, and there is no later one. -/
lemma second_le {t : Instant} (h : t.Representable) :
    (t.secs % secsPerDay).toNat % 60 + t.nanos / nanosPerSec ≤ 60 := by
  obtain ⟨-, -, hnanos⟩ := h
  unfold secsPerDay nanosPerSec at *
  omega

/-- The parts are read as they were written, and nothing is left. -/
lemma fields_chars {t : Instant} (h : t.Representable) : fields t.chars = .ok (partsOf t) := by
  have hyear := year_bounds h
  have hvalid := Date.valid_ofDays (t.secs / secsPerDay)
  have hday := Nat.le_trans hvalid.2.2.2 (daysInMonth_le _ _)
  have hclock : (t.secs % secsPerDay).toNat < 86400 := by unfold secsPerDay; omega
  have hsecond := second_le h
  have htwo : tenTo 2 = 100 := rfl
  have hnanos : t.nanos % nanosPerSec < nanosPerSec := Nat.mod_lt _ (by decide)
  have hend : offset ['Z'] = .ok (0, []) := rfl
  have hseparator (rest : List Char) : separator ('T' :: rest) = .ok rest := rfl
  obtain ⟨hmonth, hmonth', hfirst, -⟩ := hvalid
  rw [Instant.chars, fields]
  simp only [List.append_assoc, List.cons_append]
  rw [year_yearText (by unfold int32Bound; omega) (by unfold int32Bound; omega) (.cons rfl),
    ok_bind]
  dsimp only
  rw [mark_bind_field (by decide) hmonth hmonth' (by omega) (.cons rfl)]
  dsimp only
  rw [mark_bind_field (by decide) hfirst hday (by omega) (.cons rfl)]
  dsimp only
  rw [hseparator, ok_bind, field_zeroPadded (Nat.zero_le _) (by omega) (by omega) (.cons rfl),
    ok_bind]
  dsimp only
  rw [mark_bind_field (by decide) (Nat.zero_le _) (by omega) (by omega) (.cons rfl)]
  dsimp only
  rw [mark_bind_field (by decide) (Nat.zero_le _) hsecond (by omega) (stops_fractionText _ _)]
  dsimp only
  rw [fraction_fractionText hnanos, ok_bind]
  dsimp only
  rw [Text.dropBlanks_cons _ (by decide), hend, ok_bind]
  rfl

/-- The clock's parts add up to the second of the day, of which a leap second is not one. -/
lemma clock_partsOf {t : Instant} (h : t.Representable) :
    ((partsOf t).hour * 3600 + (partsOf t).minute * 60 +
        (if (partsOf t).second = 60 then 59 else (partsOf t).second : Nat) : Int) =
      t.secs % secsPerDay ∧
    (partsOf t).nanos + (if (partsOf t).second = 60 then nanosPerSec else 0) = t.nanos := by
  obtain ⟨-, -, hnanos⟩ := h
  show (((t.secs % secsPerDay).toNat / 3600 : Nat) * 3600 +
        ((t.secs % secsPerDay).toNat / 60 % 60 : Nat) * 60 +
        (if (t.secs % secsPerDay).toNat % 60 + t.nanos / nanosPerSec = 60 then 59
          else (t.secs % secsPerDay).toNat % 60 + t.nanos / nanosPerSec : Nat) : Int) =
      t.secs % secsPerDay ∧
    t.nanos % nanosPerSec +
      (if (t.secs % secsPerDay).toNat % 60 + t.nanos / nanosPerSec = 60 then nanosPerSec else 0) =
      t.nanos
  unfold secsPerDay nanosPerSec at *
  split_ifs <;> omega

/-- The parts of an instant make that instant. -/
lemma toInstant_partsOf {t : Instant} (h : t.Representable) : (partsOf t).toInstant = .ok t := by
  obtain ⟨hlow, hhigh⟩ := year_bounds h
  obtain ⟨hclock, hnanos⟩ := clock_partsOf h
  have hdate : ¬ (¬ (partsOf t).date.Valid ∨ (partsOf t).date.year < -262143 ∨
      262142 < (partsOf t).date.year) := by
    rintro (hdate | hyear | hyear)
    · exact hdate (Date.valid_ofDays _)
    · exact Int.not_le.mpr hyear hlow
    · exact Int.not_le.mpr hyear hhigh
  have hoffset : ¬ 86400 ≤ (partsOf t).offset.natAbs := of_decide_eq_false rfl
  have hdays : (partsOf t).date.toDays = t.secs / secsPerDay := Date.toDays_ofDays _
  have hsecs : t.secs / secsPerDay * secsPerDay + t.secs % secsPerDay - (partsOf t).offset =
      t.secs := by
    rw [show (partsOf t).offset = 0 from rfl, Int.sub_zero]
    exact Int.ediv_mul_add_emod t.secs secsPerDay
  rw [Fields.toInstant, if_neg hdate, if_neg hoffset]
  dsimp only
  rw [hclock, hnanos, hdays, hsecs, if_pos ⟨h.1, h.2.1⟩]

end Timestamp

/-- **Reading undoes writing**: every instant that a clock can show is read back from its text. -/
lemma Instant.parse_text {t : Instant} (h : t.Representable) : parse t.text = .ok t := by
  rw [parse, text, String.toList_ofList, Timestamp.fields_chars h]
  exact Timestamp.toInstant_partsOf h

end JobDispatch
