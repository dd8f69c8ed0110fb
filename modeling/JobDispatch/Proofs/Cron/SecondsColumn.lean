import JobDispatch.Proofs.Cron.Soundness
import Mathlib.Data.List.DropRight

/-!
Expressions without a column for the seconds.

A text of five pieces gets a `0` and a blank put before it. Blanks may stand around the numbers of a
column and none are needed between columns, so that a text may go on with the column that the `0`
begins: `/5 ** * * *` is read like `0/5 * * * * *`.

* `Cron.field?_congr`: a column that starts with a number is read the same for the same number with
  the same text behind it.
* `Cron.field?_of_not_goesOn`: the number is the whole column, unless the text behind it goes on
  with a hyphen, a slash or a comma.
* `Cron.Prolongs`: a text that makes more of the `0` than the second 0.
* `Schedule.on_minute_unless_prolonged`: a text of five pieces fires on the minute, exactly unless
  it prolongs the `0`.
-/

namespace JobDispatch

open Cron (CalendarTime Fields)

namespace Cron

/-! ### Blanks -/

/-- The character that a text starts with stays when others are dropped at its end. -/
lemma head?_reverse_dropWhile_reverse {p : Char → Bool} {c : Char} {s : List Char}
    (h : p c = false) : ((c :: s).reverse.dropWhile p).reverse.head? = some c := by
  cases hkept : (c :: s).rdropWhile p with
  | nil =>
      have hall := List.rdropWhile_eq_nil_iff.mp hkept c List.mem_cons_self
      rw [h] at hall
      cases hall
  | cons d rest =>
      obtain ⟨dropped, happend⟩ := List.rdropWhile_prefix p (l := c :: s)
      rw [hkept] at happend
      obtain ⟨rfl, -⟩ := List.cons.inj happend
      exact congrArg List.head? hkept

lemma isGap_eq_false {c : Char} (h : ¬ (c = ' ' ∨ c = '\t' ∨ c = '\r' ∨ c = '\n')) :
    isGap c = false := by
  simp only [isGap, Bool.or_eq_false_iff, beq_eq_false_iff_ne]
  tauto

lemma dropGap_cons {c : Char} (s : List Char) (h : isGap c = false) :
    dropGap (c :: s) = c :: s := by
  simp [dropGap, h]

/-- Trimmed texts do not start with a blank. -/
lemma dropGap_trim (s : List Char) : dropGap (Text.trim s) = Text.trim s := by
  cases hkept : Text.dropBlanks s with
  | nil => rw [Text.trim, hkept]; rfl
  | cons c rest =>
      have hblank := Text.isBlank_head_dropBlanks hkept
      have hhead : (Text.trim s).head? = some c := by
        rw [Text.trim, hkept]
        exact head?_reverse_dropWhile_reverse hblank
      obtain ⟨rest', htrim⟩ := List.head?_eq_some_iff.mp hhead
      rw [htrim, dropGap_cons _ (isGap_eq_false fun hgap => by
        obtain rfl | rfl | rfl | rfl := hgap <;> cases hblank)]

/-! ### Columns that start with a number -/

section

variable {u : CalendarUnit} {c c' : Char} {s s' rest : List Char} {n : Nat}

lemma mark?_eq_none (h : s.head? ≠ some c) : mark? c s = none := by
  cases s with
  | nil => rfl
  | cons d rest => exact if_neg fun heq => h (congrArg some heq)

lemma isGap_of_isDigit (h : c.isDigit = true) : isGap c = false :=
  isGap_eq_false fun hgap => by obtain rfl | rfl | rfl | rfl := hgap <;> cases h

/-- The letters come after the digits. -/
lemma isAlpha_of_isDigit (h : c.isDigit = true) : c.isAlpha = false := by
  have hnine : c.val ≤ '9'.val := by
    simp only [Char.isDigit, Bool.and_eq_true, decide_eq_true_eq] at h
    exact h.2
  have hupper : c.isUpper = false := decide_eq_false fun hletter =>
    absurd (UInt32.le_trans hletter.1 hnine) (by decide)
  have hlower : c.isLower = false := Bool.and_eq_false_iff.mpr (.inl (decide_eq_false fun hletter =>
    absurd (UInt32.le_trans hletter hnine) (by decide)))
  exact Bool.or_eq_false_iff.mpr ⟨hupper, hlower⟩

/-- Where a digit stands there is no name. -/
lemma name?_cons_of_isDigit (h : c.isDigit = true) : name? (c :: s) = none := by
  simp [name?, dropGap_cons s (isGap_of_isDigit h), isAlpha_of_isDigit h]

/-- Where a digit stands the set is a range or one value. -/
lemma values?_cons_of_isDigit (h : c.isDigit = true) : values? u (c :: s) =
    (range? (c :: s) <|> (ordinal? (c :: s)).map fun (value, rest) => (.one value, rest)) := by
  have hstar : mark? '*' (c :: s) = none := if_neg (by rintro rfl; cases h)
  have hany : mark? '?' (c :: s) = none := if_neg (by rintro rfl; cases h)
  simp [values?, any?, every?, namedRange?, hstar, hany, name?_cons_of_isDigit h]

/-- A column is read by the number it starts with and the text behind that. -/
lemma field?_congr (h : c.isDigit = true) (h' : c'.isDigit = true)
    (hsame : ordinal? (c :: s) = ordinal? (c' :: s')) :
    field? u (c :: s) = field? u (c' :: s') := by
  have hrange : range? (c :: s) = range? (c' :: s') := by rw [range?, range?, hsame]
  have hvalues : values? u (c :: s) = values? u (c' :: s') := by
    rw [values?_cons_of_isDigit h, values?_cons_of_isDigit h', hrange, hsame]
  have hitem : item? u (c :: s) = item? u (c' :: s') := by
    rw [item?, item?, stepped?, stepped?, hvalues, name?_cons_of_isDigit h,
      name?_cons_of_isDigit h']
  rw [field?, field?, dropGap_cons s (isGap_of_isDigit h),
    dropGap_cons s' (isGap_of_isDigit h'), hitem]

/-- The text begins with a character that a column goes on with behind a number. -/
def GoesOn (s : List Char) : Prop := s.head? = some '-' ∨ s.head? = some '/' ∨ s.head? = some ','

instance (s : List Char) : Decidable (GoesOn s) := by unfold GoesOn; infer_instance

lemma moreItems_of_not_comma (room : Nat) (h : s.head? ≠ some ',') :
    moreItems u room s = ([], s) := by
  cases room with
  | zero => rfl
  | succ room => rw [moreItems, mark?_eq_none h]; rfl

/-- A number is a column of its own if the text behind it does not go on. -/
lemma field?_of_not_goesOn (h : c.isDigit = true) (hnum : ordinal? (c :: s) = some (n, rest))
    (hends : ¬ GoesOn rest) : field? u (c :: s) =
      (fieldValues? u [.plain (.one n)]).map fun values => (values, dropGap rest) := by
  obtain ⟨hhyphen, hslash, hcomma⟩ : rest.head? ≠ some '-' ∧ rest.head? ≠ some '/' ∧
      rest.head? ≠ some ',' := by simpa only [GoesOn, not_or] using hends
  have hrange : range? (c :: s) = none := by simp [range?, hnum, mark?_eq_none hhyphen]
  have hvalues : values? u (c :: s) = some (.one n, rest) := by
    rw [values?_cons_of_isDigit h, hrange, hnum]; rfl
  have hstepped : stepped? u (c :: s) = none := by simp [stepped?, hvalues, mark?_eq_none hslash]
  have hitem : item? u (c :: s) = some (.plain (.one n), rest) := by
    rw [item?, hstepped, hvalues]; rfl
  rw [field?, dropGap_cons s (isGap_of_isDigit h), hitem]
  simp only [Option.bind_eq_bind, Option.bind_some, moreItems_of_not_comma _ hcomma]
  exact Option.map_eq_bind.symm

end

/-! ### The column put before a text -/

/-- The `0` is a number of its own if no digit follows. -/
lemma ordinal?_zero {s : List Char} (h : s.takeWhile Char.isDigit = []) :
    ordinal? ('0' :: s) = some (0, dropGap s) := by
  simp [ordinal?, dropGap_cons s (c := '0') rfl, h]

/-- The text goes on with the column that a `0` begins, and this column does not stand for the
second 0 alone. -/
def Prolongs (s : List Char) : Prop :=
  GoesOn s ∧ (field? .second ('0' :: s)).map Prod.fst ≠ some [0]

instance (s : List Char) : Decidable (Prolongs s) := by unfold Prolongs; infer_instance

/-- A step of more than a minute goes on with the column, which still stands for the second 0. -/
example : GoesOn "/60 ** * * *".toList ∧ ¬ Prolongs "/60 ** * * *".toList := by decide +kernel

/-- The seconds are 0 alone, unless the text prolongs the `0` put before it. -/
lemma seconds_eq_zero_iff {s : List Char} (hblanks : dropGap s = s) :
    (field? .second ('0' :: ' ' :: s)).map Prod.fst = some [0] ↔ ¬ Prolongs s := by
  have hblank : ordinal? ('0' :: ' ' :: s) = some (0, s) := by
    rw [ordinal?_zero rfl]
    exact congrArg (fun rest => some (0, rest)) hblanks
  by_cases hgoes : GoesOn s
  · have hdigit : s.takeWhile Char.isDigit = [] := by
      obtain hhead | hhead | hhead := hgoes <;>
        obtain ⟨rest, rfl⟩ := List.head?_eq_some_iff.mp hhead <;> rfl
    have hsame : ordinal? ('0' :: ' ' :: s) = ordinal? ('0' :: s) := by
      rw [hblank, ordinal?_zero hdigit, hblanks]
    rw [field?_congr rfl rfl hsame, Prolongs, not_and_not_right]
    exact (imp_iff_right hgoes).symm
  · rw [field?_of_not_goesOn rfl hblank hgoes]
    exact iff_of_true rfl fun h => hgoes h.1

lemma head?_of_mem_keywords : ∀ k ∈ keywords, k.1.toList.head? = some '@' := by
  decide

/-- Texts that start with another character than `@` are read column by column. -/
lemma expression?_of_head {c : Char} {s : List Char} (hgap : isGap c = false) (hat : c ≠ '@') :
    expression? (c :: s) = columns? (c :: s) := by
  have hhead : (trimGap (c :: s)).head? = some c := by
    rw [trimGap, dropGap_cons s hgap]
    exact head?_reverse_dropWhile_reverse hgap
  have hnone : keywords.find? (fun k => k.1.toList == trimGap (c :: s)) = none := by
    rw [List.find?_eq_none]
    intro k hk heq
    have hstarts := head?_of_mem_keywords k hk
    rw [eq_of_beq heq, hhead] at hstarts
    exact hat (Option.some.inj hstarts)
  rw [expression?, hnone]

/-- The first column is that of the seconds. -/
lemma seconds_of_columns? {s : List Char} {f : Fields} (h : columns? s = some f) :
    (field? .second s).map Prod.fst = some f.seconds := by
  obtain ⟨⟨seconds, s₁⟩, hseconds, h⟩ := Option.bind_eq_some_iff.mp h
  obtain ⟨_, -, h⟩ := Option.bind_eq_some_iff.mp h
  obtain ⟨_, -, h⟩ := Option.bind_eq_some_iff.mp h
  obtain ⟨_, -, h⟩ := Option.bind_eq_some_iff.mp h
  obtain ⟨_, -, h⟩ := Option.bind_eq_some_iff.mp h
  obtain ⟨_, -, h⟩ := Option.bind_eq_some_iff.mp h
  dsimp only at h
  split at h
  · rw [hseconds, ← Option.some.inj h]
    rfl
  · cases h

/-! ### Clocks on the minute -/

/-- As offsets are whole minutes, all clocks show the second 0 at once. -/
lemma second_ofSecs_localAt {z : Zone} {c : CalendarTime} {secs : Int}
    (hshown : z.localAt secs = c.toSecs) (hsecond : c.second = 0) (z' : Zone) :
    (CalendarTime.ofSecs (z'.localAt secs)).second = 0 := by
  have hminute : secs % 60 = 0 := by
    simp only [Zone.localAt, Zone.secsPerMinute, CalendarTime.toSecs, hsecond] at hshown
    omega
  simp only [CalendarTime.ofSecs, Zone.localAt, Zone.secsPerMinute]
  omega

end Cron

namespace Schedule

/-- The text between its blanks is no keyword and has five pieces. -/
def FivePieces (text : String) : Prop :=
  (Text.trim text.toList).head? ≠ some '@' ∧ (Text.pieces (Text.trim text.toList)).length = 5

instance (text : String) : Decidable (FivePieces text) := by unfold FivePieces; infer_instance

variable {text : String} {s : Schedule}

/-- The seconds of a text of five pieces are those of the column that is put before it. -/
lemma seconds_of_parse (hparse : parse text = .ok s) (hfive : FivePieces text) :
    (Cron.field? .second ('0' :: ' ' :: Text.trim text.toList)).map Prod.fst =
      some s.fields.seconds := by
  rw [parse] at hparse
  split at hparse
  · cases hparse
  · have hzero : withSeconds (Text.trim text.toList) = '0' :: ' ' :: Text.trim text.toList :=
      if_pos hfive
    rw [hzero, Cron.expression?_of_head rfl (by decide)] at hparse
    split at hparse
    · next fields hfields =>
        rw [Cron.seconds_of_columns? hfields, ← Except.ok.inj hparse]
    · cases hparse

/-- **On the minute**. The seconds of a schedule that was read from five pieces are 0 alone, exactly
unless the text prolongs the `0` put before it. Unless it does, whatever known zone the schedule is
asked in, its next time is one at which the clocks of all zones show the second 0. -/
theorem on_minute_unless_prolonged (hparse : parse text = .ok s) (hfive : FivePieces text) :
    (s.fields.seconds = [0] ↔ ¬ Cron.Prolongs (Text.trim text.toList)) ∧
    (¬ Cron.Prolongs (Text.trim text.toList) →
      ∀ z ∈ Zone.known, ∀ now t, s.nextAfter now z = .at t →
        t.nanos = 0 ∧ ∀ shown : Zone, (CalendarTime.ofSecs (shown.localAt t.secs)).second = 0) := by
  have hiff : s.fields.seconds = [0] ↔ ¬ Cron.Prolongs (Text.trim text.toList) := by
    rw [← Cron.seconds_eq_zero_iff (Cron.dropGap_trim _), seconds_of_parse hparse hfive,
      Option.some_inj]
  refine ⟨hiff, fun hkept z hz now t hnext => ?_⟩
  obtain ⟨secs, c, rfl, -, -, hshown, hfires⟩ :=
    exists_shown_of_nextAfter hparse (Zone.lawful_of_mem_known hz) hnext
  have hsecond : c.second = 0 := by
    have hmem := hfires.admits.1
    rwa [hiff.mpr hkept, List.mem_singleton] at hmem
  exact ⟨rfl, Cron.second_ofSecs_localAt hshown hsecond⟩

/-- At half past two every day: behind the `0` that is put before it, the number 30 is a column of
its own. -/
theorem on_minute_unless_prolonged_daily : ∃ s, parse "30 2 * * *" = .ok s ∧
    FivePieces "30 2 * * *" ∧ s.fields.seconds = [0] ∧
    s.nextAfter ⟨1729988999, 1500000000⟩ .europePrague = .at (.ofSecs 1730079000) ∧
    (CalendarTime.ofSecs (Zone.europePrague.localAt 1730079000)).second = 0 := by
  have hparse : parse "30 2 * * *" =
      .ok ⟨"30 2 * * *", { Fields.daily with minutes := [30], hours := [2] }⟩ := by
    decide +kernel
  have hfive : FivePieces "30 2 * * *" := by decide +kernel
  have hkept : ¬ Cron.Prolongs (Text.trim "30 2 * * *".toList) := by decide +kernel
  have hknown : Zone.europePrague ∈ Zone.known := by decide +kernel
  have hnext : nextAfter ⟨"30 2 * * *", { Fields.daily with minutes := [30], hours := [2] }⟩
      ⟨1729988999, 1500000000⟩ .europePrague = .at (.ofSecs 1730079000) := by
    decide +kernel
  obtain ⟨hseconds, hminute⟩ := on_minute_unless_prolonged hparse hfive
  exact ⟨_, hparse, hfive, hseconds.mpr hkept, hnext, (hminute hkept _ hknown _ _ hnext).2 _⟩

/-- Five pieces that are read like `0/5 * * * * *`, the minute written in one piece with the hour:
asked at half past twelve on 1 March 2026, the next time is five seconds later. -/
theorem off_the_minute : ∃ s, parse "/5 ** * * *" = .ok s ∧ FivePieces "/5 ** * * *" ∧
    s.fields.seconds ≠ [0] ∧ s.nextAfter ⟨1772368200, 0⟩ .utc = .at ⟨1772368205, 0⟩ ∧
    (CalendarTime.ofSecs (Zone.utc.localAt 1772368205)).second = 5 := by
  have hparse : parse "/5 ** * * *" = .ok ⟨"/5 ** * * *",
      { seconds := [0, 5, 10, 15, 20, 25, 30, 35, 40, 45, 50, 55]
        minutes := Cron.CalendarUnit.minute.values
        hours := Cron.CalendarUnit.hour.values
        days := Cron.CalendarUnit.day.values
        months := Cron.CalendarUnit.month.values
        weekdays := Cron.CalendarUnit.weekday.values
        years := Cron.CalendarUnit.year.values }⟩ := by
    decide +kernel
  exact ⟨_, hparse, by decide +kernel, by decide, by decide +kernel, by decide +kernel⟩

end Schedule

end JobDispatch
