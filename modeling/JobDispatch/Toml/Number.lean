import JobDispatch.Number.Power
import JobDispatch.Time.Calendar
import JobDispatch.Toml.Text

/-!
Numbers, dates and times in TOML documents.

* `Toml.number?` reads an integer of 64 bits or a floating number.
* `Toml.dateTime?` reads a date, a time of day, or both, perhaps with an offset, and gives their
  normal text: a `T` between date and time, at most nine decimals and no trailing zeros.
-/

namespace JobDispatch.Toml

/-- The digits that a text starts with, at least one; underscores between two of them drop out. -/
def digitRun? (isDigit : Char → Bool) : List Char → Option (List Char × List Char)
  | [] => none
  | c :: rest =>
    if isDigit c then
      match rest with
      | '_' :: rest => do
        let (run, rest) ← digitRun? isDigit rest
        some (c :: run, rest)
      | d :: rest =>
        if isDigit d then do
          let (run, rest) ← digitRun? isDigit (d :: rest)
          some (c :: run, rest)
        else some ([c], d :: rest)
      | [] => some ([c], [])
    else none

/-- The number that digits write in a base. -/
def inBase (base : Nat) (run : List Char) : Nat :=
  run.foldl (fun n c => base * n + (Json.Reader.hexDigit? c).getD 0) 0

/-- An integer of 64 bits. -/
def int64? (n : Int) : Option Json :=
  if -int64Bound ≤ n ∧ n < int64Bound then some (.int n) else none

/-- Reads digits in a base, after its mark. -/
def baseInteger? (base : Nat) (s : List Char) : Option (Json × List Char) := do
  let (run, rest) ← digitRun? (fun c => (Json.Reader.hexDigit? c).any (· < base)) s
  some (← int64? (inBase base run), rest)

/-- Reads a sign; no sign is positive. -/
def sign (s : List Char) : Bool × List Char :=
  match s with
  | '-' :: rest => (true, rest)
  | '+' :: rest => (false, rest)
  | _ => (false, s)

/-- Reads the digits before a point: a zero is not followed by further ones. -/
def wholeRun? (s : List Char) : Option (List Char × List Char) :=
  match s with
  | '0' :: rest => some (['0'], rest)
  | _ => digitRun? Char.isDigit s

/-- Reads the digits after a point; none without a point. -/
def decimalRun? (s : List Char) : Option (Option (List Char) × List Char) :=
  match s with
  | '.' :: rest => do
    let (run, rest) ← digitRun? Char.isDigit rest
    some (some run, rest)
  | _ => some (none, s)

/-- Reads an exponent; none without its mark. -/
def exponent? (s : List Char) : Option (Option Int × List Char) :=
  match s with
  | [] => some (none, s)
  | c :: rest =>
    if c = 'e' ∨ c = 'E' then do
      let (negative, rest) := sign rest
      let (run, rest) ← digitRun? Char.isDigit rest
      let size : Int := inBase 10 run
      some (some (if negative then -size else size), rest)
    else some (none, s)

/-- A power of ten beyond this, in either direction, makes no difference to a number that has fewer
digits. -/
abbrev exponentBound : Int := 400

/-- The floating number from its digits; nothing when it is positive and too large. -/
def float? (negative : Bool) (whole decimals : List Char) (exponent : Int) : Option Json :=
  let digits := whole ++ decimals
  let reach : Int := exponentBound + digits.length
  let exponent := max (-reach) (min reach (exponent - decimals.length))
  let x := Binary64.ofDecimal negative (inBase 10 digits) exponent
  if x = .infinite false then none else some (.float x)

/-- Reads a number that has no base mark, after its sign. -/
def decimal? (negative : Bool) (s : List Char) : Option (Json × List Char) := do
  let (whole, s) ← wholeRun? s
  let (decimals, s) ← decimalRun? s
  let (exponent, s) ← exponent? s
  if decimals.isNone ∧ exponent.isNone then
    let size : Int := inBase 10 whole
    some (← int64? (if negative then -size else size), s)
  else some (← float? negative whole (decimals.getD []) (exponent.getD 0), s)

/-- Reads `inf` or `nan`, after the sign. -/
def special? (negative : Bool) : List Char → Option (Json × List Char)
  | 'i' :: 'n' :: 'f' :: rest => some (.float (.infinite negative), rest)
  | 'n' :: 'a' :: 'n' :: rest => some (.float .nan, rest)
  | _ => none

/-- Reads a number. -/
def number? (s : List Char) : Option (Json × List Char) :=
  match s with
  | '0' :: 'x' :: rest => baseInteger? 16 rest
  | '0' :: 'o' :: rest => baseInteger? 8 rest
  | '0' :: 'b' :: rest => baseInteger? 2 rest
  | _ =>
    let (negative, rest) := sign s
    (special? negative rest).or (decimal? negative rest)

/-! ### Dates and times -/

/-- Reads exactly the given count of digits. -/
def digits? (count : Nat) (s : List Char) : Option (Nat × List Char) :=
  let run := s.take count
  if run.length = count ∧ run.all Char.isDigit then some (inBase 10 run, s.drop count) else none

/-- Reads one given character. -/
def mark? (c : Char) : List Char → Option (List Char)
  | d :: rest => if c = d then some rest else none
  | [] => none

/-- The number with zeros before it, up to the given count of digits. -/
def padded (count n : Nat) : List Char :=
  let digits := Nat.toDigits 10 n
  List.replicate (count - digits.length) '0' ++ digits

/-- Reads a date. -/
def date? (s : List Char) : Option (List Char × List Char) := do
  let (year, s) ← digits? 4 s
  let (month, s) ← digits? 2 (← mark? '-' s)
  let (day, s) ← digits? 2 (← mark? '-' s)
  if 1 ≤ month ∧ month ≤ 12 ∧ 1 ≤ day ∧ day ≤ daysInMonth year month then
    some (padded 4 year ++ '-' :: padded 2 month ++ '-' :: padded 2 day, s)
  else none

/-- Reads the decimals of a second; none without a point. -/
def secondDecimals? (s : List Char) : Option (List Char × List Char) :=
  match s with
  | '.' :: rest =>
    let run := rest.takeWhile Char.isDigit
    let kept := ((run.take 9).reverse.dropWhile (· = '0')).reverse
    if run.isEmpty then none
    else some (if kept.isEmpty then [] else '.' :: kept, rest.drop run.length)
  | _ => some ([], s)

/-- Reads a time of day. -/
def time? (s : List Char) : Option (List Char × List Char) := do
  let (hour, s) ← digits? 2 s
  let (minute, s) ← digits? 2 (← mark? ':' s)
  let (second, s) ← digits? 2 (← mark? ':' s)
  let (decimals, s) ← secondDecimals? s
  if hour ≤ 23 ∧ minute ≤ 59 ∧ second ≤ 60 then
    some (padded 2 hour ++ ':' :: padded 2 minute ++ ':' :: padded 2 second ++ decimals, s)
  else none

/-- Reads an offset; none without its mark. -/
def offset? (s : List Char) : Option (List Char × List Char) :=
  match s with
  | 'Z' :: rest | 'z' :: rest => some (['Z'], rest)
  | '+' :: _ | '-' :: _ => do
    let (negative, s) := sign s
    let (hours, s) ← digits? 2 s
    let (minutes, s) ← digits? 2 (← mark? ':' s)
    let mark := if negative ∧ (hours, minutes) ≠ (0, 0) then '-' else '+'
    if hours ≤ 23 ∧ minutes ≤ 59 then
      some (mark :: padded 2 hours ++ ':' :: padded 2 minutes, s)
    else none
  | _ => some ([], s)

/-- The text starts with two digits and the given mark after `skip` further characters. -/
def looksLike (skip : Nat) (mark : Char) (s : List Char) : Bool :=
  (s.take (skip + 2)).all Char.isDigit && s[skip + 2]? == some mark

/-- Reads a time of day after a date, if there is one. -/
def timeAfterDate? (s : List Char) : Option (List Char × List Char) :=
  match s with
  | [] => some ([], s)
  | c :: rest =>
    if (c = 'T' ∨ c = 't' ∨ c = ' ') ∧ looksLike 0 ':' rest then do
      let (time, rest) ← time? rest
      let (offset, rest) ← offset? rest
      some ('T' :: time ++ offset, rest)
    else some ([], s)

/-- Reads a date, a time of day, or both. -/
def dateTime? (s : List Char) : Option (Json × List Char) :=
  if looksLike 2 '-' s then do
    let (date, s) ← date? s
    let (time, s) ← timeAfterDate? s
    some (.string (String.ofList (date ++ time)), s)
  else do
    let (time, s) ← time? s
    some (.string (String.ofList time), s)

/-- The text starts with a date or a time of day. -/
def startsDateTime (s : List Char) : Bool := looksLike 2 '-' s || looksLike 0 ':' s

end JobDispatch.Toml
