import JobDispatch.Number.Power

/-!
Binary floating-point numbers of double precision.

A finite number is `mantissa * 2 ^ exponent` with a sign, in the one form that `Binary64.Canonical`
describes. Every operation rounds the exact result to the nearest number, a tie to the even
mantissa: that is `Binary64.ofRatio`, on which multiplication and division rest.

* `Binary64.ofRatio` rounds a quotient of natural numbers.
* `Binary64.ofDecimal` rounds `significand * 10 ^ exponent` once.
* `Binary64.scaled` instead rounds the significand, and then once more for a power of ten.
* `Binary64.nearestInteger` rounds to an integer, a half away from zero.
-/

namespace JobDispatch

/-- A double-precision number. -/
inductive Binary64 where
  | finite (negative : Bool) (mantissa : Nat) (exponent : Int)
  | infinite (negative : Bool)
  | nan
  deriving DecidableEq, Repr

namespace Binary64

/-- The exponent of the least positive number. -/
abbrev leastExponent : Int := -1074

/-- The greatest exponent of a finite number. -/
abbrev greatestExponent : Int := 971

/-- The bound on mantissas, `2 ^ 53`. -/
abbrev mantissaBound : Nat := 9007199254740992

/-- The form of a finite number: the mantissa has 53 bits, or fewer at the least exponent. -/
def Canonical : Binary64 → Prop
  | finite _ mantissa exponent =>
    mantissa < mantissaBound ∧ leastExponent ≤ exponent ∧ exponent ≤ greatestExponent ∧
      (mantissaBound / 2 ≤ mantissa ∨ exponent = leastExponent)
  | infinite _ | nan => True

/-- Positive zero. -/
def zero : Binary64 := finite false 0 leastExponent

/-- The number is zero, with either sign. -/
def isZero : Binary64 → Bool
  | finite _ mantissa _ => mantissa == 0
  | _ => false

/-- The number is infinite. -/
def isInfinite : Binary64 → Bool
  | infinite _ => true
  | _ => false

/-- The number with the opposite sign. -/
def neg : Binary64 → Binary64
  | finite negative mantissa exponent => finite (!negative) mantissa exponent
  | infinite negative => infinite (!negative)
  | nan => nan

/-- The quotient rounded to the nearest natural number, a tie to the even one. -/
def roundedQuotient (num den : Nat) : Nat :=
  let quotient := num / den
  let twice := 2 * (num % den)
  if twice < den then quotient
  else if den < twice then quotient + 1
  else if quotient % 2 = 0 then quotient
  else quotient + 1

/-- The power of two just below a quotient of positive numbers. -/
def log2Ratio (num den : Nat) : Int :=
  let guess : Int := (num.log2 : Int) - den.log2
  if num * twoTo (-guess).toNat < den * twoTo guess.toNat then guess - 1 else guess

/-- The number nearest to a quotient, with the given sign. -/
def ofRatio (negative : Bool) (num den : Nat) : Binary64 :=
  if num = 0 then finite negative 0 leastExponent
  else
    let exponent := max (log2Ratio num den - 52) leastExponent
    let mantissa := roundedQuotient (num * twoTo (-exponent).toNat) (den * twoTo exponent.toNat)
    let (mantissa, exponent) :=
      if mantissa = mantissaBound then (mantissaBound / 2, exponent + 1) else (mantissa, exponent)
    if greatestExponent < exponent then infinite negative else finite negative mantissa exponent

/-- The number nearest to a natural number. -/
def ofNat (n : Nat) : Binary64 := ofRatio false n 1

/-- The number nearest to an integer. -/
def ofInt (n : Int) : Binary64 := ofRatio (n < 0) n.natAbs 1

/-- The number nearest to `significand * 10 ^ exponent`. -/
def ofDecimal (negative : Bool) (significand : Nat) (exponent : Int) : Binary64 :=
  ofRatio negative (significand * tenTo exponent.toNat) (tenTo (-exponent).toNat)

/-- The absolute value of a finite number as a quotient. -/
def ratio (mantissa : Nat) (exponent : Int) : Nat × Nat :=
  (mantissa * twoTo exponent.toNat, twoTo (-exponent).toNat)

/-- The product of a finite number and a power of ten, each rounded. -/
def timesPower (x : Binary64) (power : Nat) : Binary64 :=
  match x, ofNat (tenTo power) with
  | finite negative m e, finite _ m' e' =>
    let (num, den) := ratio m e
    let (num', den') := ratio m' e'
    ofRatio negative (num * num') (den * den')
  | x, _ => x

/-- The quotient of a finite number by a power of ten, each rounded. -/
def overPower (x : Binary64) (power : Nat) : Binary64 :=
  match x, ofNat (tenTo power) with
  | finite negative m e, finite _ m' e' =>
    let (num, den) := ratio m e
    let (num', den') := ratio m' e'
    ofRatio negative (num * den') (den * num')
  | x, _ => x

/-- The greatest power of ten that is a finite number. -/
abbrev greatestPower : Nat := 308

/-- The number divided by `10 ^ power`, in steps of at most `greatestPower`. -/
def scaledDown (x : Binary64) (power : Nat) : Binary64 :=
  if _h : power ≤ greatestPower then x.overPower power
  else if x.isZero then x
  else scaledDown (x.overPower greatestPower) (power - greatestPower)
  termination_by power
  decreasing_by simp only [greatestPower] at *; omega

/-- The number multiplied by `10 ^ exponent`; nothing when that is too large. -/
def scaled? (x : Binary64) (exponent : Int) : Option Binary64 :=
  if exponent < 0 then some (x.scaledDown exponent.natAbs)
  else if exponent.toNat ≤ greatestPower then
    let product := x.timesPower exponent.toNat
    if product.isInfinite then none else some product
  else if x.isZero then some x
  else none

/-- The nearest integer, a half away from zero; nothing for infinities and not-a-number. -/
def nearestInteger? : Binary64 → Option Int
  | finite negative mantissa exponent =>
    let (num, den) := ratio mantissa exponent
    let size := (2 * num + den) / (2 * den)
    some (if negative then -(size : Int) else size)
  | _ => none

end Binary64

end JobDispatch
