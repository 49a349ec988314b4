import WebhookBridge.Number.Binary64
import WebhookBridge.Text.Basic

/-!
# Decimal texts of floating-point numbers

Two texts of a number: the shortest one that reads back as the same number, and one of six significant digits.
Both are written positionally where the point stands near the digits, and with an exponent of at least two digits
elsewhere.

## Contents

* `Decimal`: digits and a power of ten;
* `Binary64.shortest`: the fewest digits that read back;
* `Binary64.rounded`: a fixed number of significant digits;
* `Binary64.text`, `Binary64.brief`: the two layouts.
-/

namespace WebhookBridge

/-- The number `digits · 10 ^ exponent`. -/
structure Decimal where
  digits : Nat
  exponent : Int
  deriving DecidableEq, Repr

namespace Decimal

/-- The decimal without zeros at the end of its digits. -/
def strip (fuel : Nat) (d : Decimal) : Decimal :=
  match fuel with
  | 0 => d
  | fuel + 1 =>
    if d.digits ≠ 0 ∧ d.digits % 10 = 0 then strip fuel ⟨d.digits / 10, d.exponent + 1⟩ else d

/-- The number nearest to a decimal, with a sign. -/
def toBinary64 (negative : Bool) (d : Decimal) : Binary64 := Binary64.ofDecimal negative d.digits d.exponent

end Decimal

namespace Binary64

/-! ## Scale -/

/-- The least `k` from `guess` on, among `fuel` candidates, with `num / den < 10 ^ k`. -/
def decimalScaleFrom (num den : Nat) (guess : Int) : Nat → Int
  | 0 => guess
  | fuel + 1 =>
    if num * Nat.pow 10 (-guess).toNat < den * Nat.pow 10 guess.toNat then guess
    else decimalScaleFrom num den (guess + 1) fuel

/-- The number `k` with `10 ^ (k - 1) ≤ num / den < 10 ^ k`, for a positive ratio. -/
def decimalScale (num den : Nat) : Int :=
  let binary : Int := (num.log2 : Int) - den.log2
  decimalScaleFrom num den (binary * 30103 / 100000 - 1) 5

/-- Numerator and denominator of a ratio divided by a power of ten. -/
def decimalScaled (num den : Nat) (exponent : Int) : Nat × Nat :=
  (num * Nat.pow 10 (-exponent).toNat, den * Nat.pow 10 exponent.toNat)

/-! ## Shortest digits -/

/-- The decimals with the given exponent on both sides of a ratio, the nearer one first; of two equally near ones
    that with an even last digit. -/
def neighbours (num den : Nat) (exponent : Int) : List Decimal :=
  let (n, d) := decimalScaled num den exponent
  let below := n / d
  if roundedQuotient n d = below then [⟨below, exponent⟩, ⟨below + 1, exponent⟩]
  else [⟨below + 1, exponent⟩, ⟨below, exponent⟩]

/-- The exact decimal of a finite magnitude. -/
def exactDecimal (m : Nat) (e : Int) : Decimal := ⟨m * Nat.pow 2 e.toNat * Nat.pow 5 (-e).toNat, min e 0⟩

/-- The first decimal of at least `17 - fuel` digits and at most sixteen that reads back as the magnitude. -/
def shortestFrom (m : Nat) (e : Int) (num den : Nat) (scale : Int) : Nat → Option Decimal
  | 0 => none
  | fuel + 1 =>
    let count : Int := 17 - fuel
    match (neighbours num den (scale - count)).find? fun d => d.toBinary64 false == .finite false m e with
    | some d => some d
    | none => shortestFrom m e num den scale fuel

/-- The decimal with the fewest digits that reads back as the positive magnitude `m · 2 ^ e`. -/
def shortest (m : Nat) (e : Int) : Decimal :=
  let (num, den) := ratio m e
  ((shortestFrom m e num den (decimalScale num den) 17).getD (exactDecimal m e)).strip 400

/-! ## Six significant digits -/

/-- The positive magnitude `m · 2 ^ e` rounded to `count` digits, a tie to the even digit. -/
def rounded (count : Nat) (m : Nat) (e : Int) : Decimal :=
  let (num, den) := ratio m e
  let exponent := decimalScale num den - count
  let (n, d) := decimalScaled num den exponent
  ⟨roundedQuotient n d, exponent⟩

/-! ## Layout -/

/-- The layout of a decimal: from which and to which exponent of the leading digit it is positional, and whether a
    whole number has a point and a zero. -/
structure Layout where
  plainFrom : Int
  plainBelow : Int
  pointZero : Bool

/-- The exponent part of a text. -/
def exponentText (exponent : Int) : Text :=
  let digits := Text.ofNat exponent.natAbs
  ("e" : Text) ++ (if exponent < 0 then "-" else "+" : Text) ++
    List.replicate (2 - digits.length) (CodePoint.ofChar '0') ++ digits

/-- A decimal without trailing zeros, laid out. -/
def Layout.write (layout : Layout) (d : Decimal) : Text :=
  let digits := Text.ofNat d.digits
  let leading : Int := d.exponent + digits.length - 1
  if layout.plainFrom ≤ leading ∧ leading < layout.plainBelow then
    if 0 ≤ d.exponent then
      digits ++ List.replicate d.exponent.toNat (CodePoint.ofChar '0') ++
        (if layout.pointZero then ".0" else "" : Text)
    else if 0 ≤ leading then
      digits.take (leading.toNat + 1) ++ "." ++ digits.drop (leading.toNat + 1)
    else ("0." : Text) ++ List.replicate (-leading - 1).toNat (CodePoint.ofChar '0') ++ digits
  else
    digits.take 1 ++ (if digits.length = 1 then "" else "." : Text) ++ digits.drop 1 ++ exponentText leading

/-- The sign of a text. -/
def signText (negative : Bool) : Text := if negative then "-" else ""

/-- The layout of the shortest text: positional for leading exponents from -4 to 15, with `.0` after a whole
    number. -/
def shortestLayout : Layout := ⟨-4, 16, true⟩

/-- The layout of the brief text: positional for leading exponents from -4 to 5. -/
def briefLayout : Layout := ⟨-4, 6, false⟩

/-- The shortest text that reads back as the number. -/
def text : Binary64 → Text
  | .nan => "nan"
  | .infinite negative => signText negative ++ "inf"
  | .finite negative m e => signText negative ++ (if m = 0 then ("0.0" : Text) else shortestLayout.write (shortest m e))

/-- The text of the number to six significant digits. -/
def brief : Binary64 → Text
  | .nan => "nan"
  | .infinite negative => signText negative ++ "inf"
  | .finite negative m e =>
    signText negative ++ (if m = 0 then ("0" : Text) else briefLayout.write ((rounded 6 m e).strip 400))

end Binary64

end WebhookBridge
