import JobDispatch.Number.Power
import JobDispatch.Text.Blank
import JobDispatch.Time.Instant

/-!
Instants as text: `2026-03-01T12:30:15.5Z`.

* `Instant.text` writes an instant in UTC with the shortest of zero, three, six or nine decimals
  that is exact, with a sign on years outside 0 to 9999, and with `:60` for a leap second.
* `Instant.parse` reads a relaxed form of it: blanks around the parts, one-digit fields, a signed
  year, `T` or a blank before the time, any number of decimals, and an offset `Z`, `UTC`, `+02:00`
  or `+0200`. `TimestampError` lists what can be wrong with a text; the first fault met counts.
-/

namespace JobDispatch

/-! ### Writing -/

/-- The decimal digits of `n`, filled up with zeros to `width` characters. -/
def zeroPadded (width n : Nat) : List Char :=
  let digits := Nat.toDigits 10 n
  List.replicate (width - digits.length) '0' ++ digits

namespace Instant

/-- A year: four digits, or a sign and at least four digits. -/
def yearText (year : Int) : List Char :=
  if 0 ≤ year ∧ year ≤ 9999 then zeroPadded 4 year.toNat
  else (if year < 0 then '-' else '+') :: zeroPadded 4 year.natAbs

/-- The decimals of a second: none, or the shortest exact of three, six and nine. -/
def fractionText (nanos : Nat) : List Char :=
  if nanos = 0 then []
  else if nanos % 1000000 = 0 then '.' :: zeroPadded 3 (nanos / 1000000)
  else if nanos % 1000 = 0 then '.' :: zeroPadded 6 (nanos / 1000)
  else '.' :: zeroPadded 9 nanos

/-- The instant in UTC, character by character. -/
def chars (t : Instant) : List Char :=
  let date := Date.ofDays (t.secs / secsPerDay)
  let clock := (t.secs % secsPerDay).toNat
  let leap := t.nanos / nanosPerSec
  yearText date.year ++ '-' :: zeroPadded 2 date.month ++ '-' :: zeroPadded 2 date.day ++
    'T' :: zeroPadded 2 (clock / 3600) ++ ':' :: zeroPadded 2 (clock / 60 % 60) ++
    ':' :: zeroPadded 2 (clock % 60 + leap) ++ fractionText (t.nanos % nanosPerSec) ++ ['Z']

/-- The instant in UTC. -/
def text (t : Instant) : String := String.ofList t.chars

end Instant

/-! ### Reading -/

/-- What can be wrong with the text of an instant. -/
inductive TimestampError where
  | tooShort
  | invalid
  | tooLong
  | outOfRange
  | impossible
  deriving DecidableEq, Repr

/-- The wording of each fault. -/
def TimestampError.message : TimestampError → String
  | .tooShort => "premature end of input"
  | .invalid => "input contains invalid characters"
  | .tooLong => "trailing input"
  | .outOfRange => "input is out of range"
  | .impossible => "no possible date and time matching input"

namespace Timestamp

/-- The number written by a run of decimal digits. -/
def digitsValue (digits : List Char) : Nat :=
  digits.foldl (fun n c => 10 * n + (c.toNat - '0'.toNat)) 0

/-- Reads one to `width` decimal digits; the number must fit 63 bits. -/
def number (width : Nat) (s : List Char) : Except TimestampError (Nat × List Char) :=
  match s with
  | [] => .error .tooShort
  | c :: _ =>
    if c.isDigit then
      let digits := (s.take width).takeWhile Char.isDigit
      let value := digitsValue digits
      if value < int64Bound then .ok (value, s.drop digits.length) else .error .outOfRange
    else .error .invalid

/-- Reads a number of at most two digits, blanks before it allowed, within bounds. -/
def field (low high : Nat) (s : List Char) : Except TimestampError (Nat × List Char) := do
  let (value, rest) ← number 2 (Text.dropBlanks s)
  if low ≤ value ∧ value ≤ high then .ok (value, rest) else .error .outOfRange

/-- Reads one given character, blanks before it allowed. -/
def mark (c : Char) (s : List Char) : Except TimestampError (List Char) :=
  match Text.dropBlanks s with
  | [] => .error .tooShort
  | d :: rest => if d = c then .ok rest else .error .invalid

/-- Reads a year: a sign and any number of digits, or at most four digits. -/
def year (s : List Char) : Except TimestampError (Int × List Char) := do
  let (value, rest) ← (match Text.dropBlanks s with
    | '-' :: digits => do
      let (n, rest) ← number digits.length digits
      .ok (-(n : Int), rest)
    | '+' :: digits => do
      let (n, rest) ← number digits.length digits
      .ok ((n : Int), rest)
    | digits => do
      let (n, rest) ← number 4 digits
      .ok ((n : Int), rest) : Except TimestampError (Int × List Char))
  if -int32Bound ≤ value ∧ value < int32Bound then .ok (value, rest) else .error .outOfRange

/-- Reads what stands between the date and the time. -/
def separator (s : List Char) : Except TimestampError (List Char) :=
  match s with
  | [] => .error .tooShort
  | c :: rest => if c = 'T' ∨ c = 't' ∨ Text.isBlank c then .ok rest else .error .invalid

/-- Reads the decimals of a second as nanoseconds; decimals after the ninth are dropped. -/
def fraction (s : List Char) : Except TimestampError (Nat × List Char) :=
  match s with
  | '.' :: digits => do
    let (value, rest) ← number 9 digits
    .ok (value * tenTo (9 - (digits.length - rest.length)), rest.dropWhile Char.isDigit)
  | _ => .ok (0, s)

/-- Reads two decimal digits. Texts are measured in bytes: one character of several bytes is long
enough to be wrong. -/
def twoDigits (s : List Char) : Except TimestampError (Nat × List Char) :=
  match s with
  | a :: b :: rest =>
    if a.isDigit && b.isDigit then .ok (digitsValue [a, b], rest) else .error .invalid
  | [a] => .error (if a.utf8Size = 1 then .tooShort else .invalid)
  | [] => .error .tooShort

/-- Reads the hours and minutes of a signed offset, in seconds. -/
def offsetDigits (s : List Char) : Except TimestampError (Nat × List Char) := do
  let (hours, s) ← twoDigits s
  let (minutes, s) ← twoDigits (s.dropWhile fun c => c = ':' || Text.isBlank c)
  if minutes < 60 then .ok (hours * 3600 + minutes * 60, s) else .error .outOfRange

/-- Reads an offset from UTC, in seconds. -/
def offset (s : List Char) : Except TimestampError (Int × List Char) :=
  match s with
  | [] => .error .tooShort
  | c :: rest =>
    if s.length ≥ 3 ∧ (s.take 3).map Char.toUpper = ['U', 'T', 'C'] then .ok (0, s.drop 3)
    else if c = 'Z' ∨ c = 'z' then .ok (0, rest)
    else if c = '+' then do
      let (secs, rest) ← offsetDigits rest
      .ok ((secs : Int), rest)
    else if c = '-' ∨ c = '−' then do
      let (secs, rest) ← offsetDigits rest
      .ok (-(secs : Int), rest)
    else .error .invalid

/-- The fields of a text, as read and not yet put together. -/
structure Fields where
  date : Date
  hour : Nat
  minute : Nat
  second : Nat
  nanos : Nat
  offset : Int
  deriving DecidableEq, Repr

/-- Reads the fields, to the end of the text. -/
def fields (s : List Char) : Except TimestampError Fields := do
  let (year, s) ← year s
  let (month, s) ← field 1 12 (← mark '-' s)
  let (day, s) ← field 1 31 (← mark '-' s)
  let s ← separator s
  let (hour, s) ← field 0 23 s
  let (minute, s) ← field 0 59 (← mark ':' s)
  let (second, s) ← field 0 60 (← mark ':' s)
  let (nanos, s) ← fraction s
  let (offset, s) ← offset (Text.dropBlanks s)
  if (Text.dropBlanks s).isEmpty then
    .ok { date := ⟨year, month, day⟩, hour, minute, second, nanos, offset }
  else .error .tooLong

/-- The instant that the fields name. -/
def Fields.toInstant (f : Fields) : Except TimestampError Instant :=
  if ¬ f.date.Valid ∨ f.date.year < -262143 ∨ 262142 < f.date.year then .error .outOfRange
  else if 86400 ≤ f.offset.natAbs then .error .outOfRange
  else
    let second := if f.second = 60 then 59 else f.second
    let leap := if f.second = 60 then nanosPerSec else 0
    let clock : Int := f.hour * 3600 + f.minute * 60 + second
    let secs := f.date.toDays * secsPerDay + clock - f.offset
    if Instant.firstSec ≤ secs ∧ secs ≤ Instant.lastSec then .ok ⟨secs, f.nanos + leap⟩
    else .error .impossible

end Timestamp

/-- The instant that a text names. -/
def Instant.parse (s : String) : Except TimestampError Instant := do
  (← Timestamp.fields s.toList).toInstant

end JobDispatch
