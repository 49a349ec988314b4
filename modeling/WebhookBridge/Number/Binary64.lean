/-!
# Binary floating-point numbers

Numbers of the form `m · 2 ^ e` with at most 53 binary digits, infinities, and the value that is no number. All
arithmetic is exact arithmetic on naturals followed by one rounding: to nearest, a tie to the even neighbour.

## Contents

* `Binary64`: the values; finite ones in the one form that the format stores;
* `Binary64.ofRatio`, `Binary64.ofDecimal`: rounding an exact positive value;
* `Binary64.lt`, `Binary64.le`: the order as a comparison, which the value that is no number fails.
-/

namespace WebhookBridge

/-- A binary floating-point number. A finite number is `significand · 2 ^ exponent` with a sign; the significand has
    53 binary digits unless the exponent is the least one, so that each value has one form. -/
inductive Binary64 where
  | nan
  | infinite (negative : Bool)
  | finite (negative : Bool) (significand : Nat) (exponent : Int)
  deriving DecidableEq, Repr

namespace Binary64

/-- The exponent of the numbers closest to zero. -/
def minExponent : Int := -1074

/-- The exponent of the greatest finite numbers. -/
def maxExponent : Int := 971

/-- Zero, with a sign. -/
def zero (negative : Bool) : Binary64 := .finite negative 0 minExponent

/-- The number with the other sign. -/
def neg : Binary64 → Binary64
  | .nan => .nan
  | .infinite negative => .infinite (!negative)
  | .finite negative m e => .finite (!negative) m e

/-- Whether the value is a number and no infinity. -/
def isFinite : Binary64 → Bool
  | .finite .. => true
  | _ => false

/-! ## Rounding -/

/-- The quotient rounded to the nearest natural number, a tie to the even one. -/
def roundedQuotient (num den : Nat) : Nat :=
  if 2 * (num % den) < den then num / den
  else if den < 2 * (num % den) then num / den + 1
  else if num / den % 2 = 0 then num / den
  else num / den + 1

/-- Numerator and denominator of a ratio divided by `2 ^ e`. -/
def scaled (num den : Nat) (e : Int) : Nat × Nat := (num * Nat.pow 2 (-e).toNat, den * Nat.pow 2 e.toNat)

/-- The exponent at which a positive ratio has 53 binary digits before the point, or the least one if that is
    greater. -/
def exponentOf (num den : Nat) : Int :=
  let guess : Int := (num.log2 : Int) - den.log2 - 53
  let (n, d) := scaled num den guess
  max minExponent (if Nat.pow 2 53 ≤ n / d then guess + 1 else guess)

/-- The number with a rounded significand, which may have reached 54 digits. -/
def ofSignificand (negative : Bool) (m : Nat) (e : Int) : Binary64 :=
  let (m, e) := if m = Nat.pow 2 53 then (Nat.pow 2 52, e + 1) else (m, e)
  if maxExponent < e then .infinite negative else .finite negative m e

/-- The number nearest to `num / den`, with a sign. -/
def ofRatio (negative : Bool) (num den : Nat) : Binary64 :=
  if num = 0 then zero negative
  else
    let e := exponentOf num den
    let (n, d) := scaled num den e
    ofSignificand negative (roundedQuotient n d) e

/-- The number nearest to an integer. -/
def ofInt (n : Int) : Binary64 := ofRatio (n < 0) n.natAbs 1

/-- A power of ten beyond which every number with one digit overflows, and below whose inverse all vanish. -/
def decimalBound : Int := 400

/-- The number nearest to `digits · 10 ^ exponent`. Where powers of ten below and above the digits decide, the power is not
    computed. -/
def ofDecimal (negative : Bool) (digits : Nat) (exponent : Int) : Binary64 :=
  if digits = 0 then zero negative
  else
    let length : Int := digits.log2
    -- `10 ^ (length / 4) ≤ digits < 10 ^ (length / 3 + 1)`
    if decimalBound < exponent + length / 4 then .infinite negative
    else if exponent + length / 3 < -decimalBound then zero negative
    else ofRatio negative (digits * Nat.pow 10 exponent.toNat) (Nat.pow 10 (-exponent).toNat)

/-! ## Order -/

/-- Numerator and denominator of the magnitude of a finite number. -/
def ratio (m : Nat) (e : Int) : Nat × Nat := (m * Nat.pow 2 e.toNat, Nat.pow 2 (-e).toNat)

/-- A finite number as an integer multiple of the number closest to zero. -/
def units (negative : Bool) (m : Nat) (e : Int) : Int :=
  let magnitude : Int := (m * Nat.pow 2 (e - minExponent).toNat : Nat)
  if negative then -magnitude else magnitude

/-- Whether the first number is less than the second. -/
def lt : Binary64 → Binary64 → Bool
  | .nan, _ => false
  | _, .nan => false
  | .infinite a, .infinite b => a && !b
  | .infinite a, .finite .. => a
  | .finite .., .infinite b => !b
  | .finite a m e, .finite b m' e' => units a m e < units b m' e'

/-- Whether the first number is at most the second. -/
def le : Binary64 → Binary64 → Bool
  | .nan, _ => false
  | _, .nan => false
  | .infinite a, .infinite b => a || !b
  | .infinite a, .finite .. => a
  | .finite .., .infinite b => !b
  | .finite a m e, .finite b m' e' => units a m e ≤ units b m' e'

end Binary64

end WebhookBridge
