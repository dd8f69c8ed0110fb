import JobDispatch.Number.Binary64

/-!
Double-precision numbers as decimal text.

Both forms write the fewest digits that read back as the same number, and among those the decimal
nearest to it (`Binary64.shortest`).

* `Binary64.compact` is the form of JSON: positional from `1e-5` up to sixteen digits before the
  point, with `.0` on whole numbers, and with an exponent otherwise.
* `Binary64.positional` never has an exponent and no `.0`.
-/

namespace JobDispatch.Binary64

/-- A decimal `digits * 10 ^ exponent`. -/
structure Decimal where
  digits : Nat
  exponent : Int
  deriving DecidableEq, Repr

/-- Four times a number and the two borders of the numbers that round to it, over a common
denominator: the number, the lower border, the upper border, the denominator. -/
def borders (mantissa : Nat) (exponent : Int) : Nat × Nat × Nat × Nat :=
  let scale := twoTo exponent.toNat
  let below := if mantissa = mantissaBound / 2 ∧ exponent ≠ leastExponent then 1 else 2
  (4 * mantissa * scale, (4 * mantissa - below) * scale, (4 * mantissa + 2) * scale,
    4 * twoTo (-exponent).toNat)

/-- The decimal lies between the borders; a border itself counts when `even`. -/
def within (even : Bool) (low high den : Nat) (d : Decimal) : Bool :=
  let num := d.digits * tenTo d.exponent.toNat * den
  let scale := tenTo (-d.exponent).toNat
  if even then low * scale ≤ num && num ≤ high * scale
  else low * scale < num && num < high * scale

/-- The decimals with exponent `power` next to a quotient, the nearer first; at equal distance the
one with even digits. -/
def neighbours (num den : Nat) (power : Int) : List Decimal :=
  let num := num * tenTo (-power).toNat
  let den := den * tenTo power.toNat
  let nearest := roundedQuotient num den
  let other := if num ≤ nearest * den then nearest - 1 else nearest + 1
  [⟨nearest, power⟩, ⟨other, power⟩]

/-- The decimal without trailing zeros in its digits; `room` bounds their number. -/
def Decimal.stripped : Nat → Decimal → Decimal
  | 0, d => d
  | room + 1, d =>
    if d.digits % 10 = 0 ∧ d.digits ≠ 0 then stripped room ⟨d.digits / 10, d.exponent + 1⟩ else d

/-- The power of ten just below a quotient, found upward from `power`. -/
def log10From (num den : Nat) (power : Int) : Nat → Int
  | 0 => power
  | room + 1 =>
    let next := power + 1
    if den * tenTo next.toNat ≤ num * tenTo (-next).toNat then log10From num den next room
    else power

/-- The power of ten just below a quotient of positive numbers. -/
def log10Ratio (num den : Nat) : Int :=
  let guess := log2Ratio num den * 30103 / 100000 - 2
  log10From num den guess 5

/-- The shortest decimal, nearest to the number, among those that round to it. -/
def shortest (mantissa : Nat) (exponent : Int) : Decimal :=
  if mantissa = 0 then ⟨0, 0⟩
  else
    let (num, low, high, den) := borders mantissa exponent
    let top := log10Ratio num den
    let candidates := (List.range 17).flatMap fun (places : Nat) =>
      neighbours num den (top - (places : Int))
    let found := candidates.find? (within (mantissa % 2 = 0) low high den)
    (found.getD ⟨0, 0⟩).stripped 17

/-- The digits with a point after the first `whole` of them, zeros filled in. -/
def withPoint (digits : List Char) (whole : Int) : List Char × List Char :=
  if whole ≤ 0 then (['0'], List.replicate whole.natAbs '0' ++ digits)
  else
    let size := whole.toNat
    (digits.take size ++ List.replicate (size - digits.length) '0', digits.drop size)

/-- The sign of a number. -/
def signText (negative : Bool) : String := if negative then "-" else ""

/-- The positional form, without a point in whole numbers. -/
def positional : Binary64 → String
  | nan => "NaN"
  | infinite negative => signText negative ++ "inf"
  | finite negative mantissa exponent =>
    let d := shortest mantissa exponent
    let digits := Nat.toDigits 10 d.digits
    let (whole, decimals) := withPoint digits (digits.length + d.exponent)
    let text := if d.digits = 0 ∨ decimals.isEmpty then whole else whole ++ '.' :: decimals
    signText negative ++ String.ofList text

/-- The form of JSON; infinities and not-a-number have none. -/
def compact : Binary64 → String
  | nan | infinite _ => "null"
  | finite negative mantissa exponent =>
    let d := shortest mantissa exponent
    let digits := Nat.toDigits 10 d.digits
    let whole := digits.length + d.exponent
    let text :=
      if d.digits = 0 then ['0', '.', '0']
      else if -5 < whole ∧ whole ≤ 16 then
        let (before, after) := withPoint digits whole
        before ++ '.' :: (if after.isEmpty then ['0'] else after)
      else
        let first := digits.take 1
        let later := digits.drop 1
        (if later.isEmpty then first else first ++ '.' :: later) ++
          'e' :: (toString (whole - 1)).toList
    signText negative ++ String.ofList text

end JobDispatch.Binary64
