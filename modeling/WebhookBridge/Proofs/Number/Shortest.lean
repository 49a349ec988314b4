import WebhookBridge.Number.Shortest
import WebhookBridge.Proofs.Number.Rounding

/-!
# The shortest digits read back

The digits that a number is written with are looked for among those that read back as the number, from one digit to sixteen.
If there are none the number is written exactly, which reads back as well. Zeros at the end of the digits are left out, which
does not change their value.

## Contents

* `Decimal.toBinary64_strip`: zeros at the end;
* `Binary64.ofDecimal_true`: signs;
* `Binary64.toBinary64_shortest`: the shortest digits read back.
-/

namespace WebhookBridge

/-! ## Zeros at the end -/

/-- Zeros at the end of the digits do not change what a decimal is rounded to. -/
theorem Decimal.toBinary64_strip (negative : Bool) (fuel : Nat) : ∀ {d : Decimal}, d.digits ≠ 0 →
    (d.strip fuel).digits ≠ 0 ∧ (d.strip fuel).toBinary64 negative = d.toBinary64 negative := by
  induction fuel with
  | zero => exact fun hd => ⟨hd, rfl⟩
  | succ fuel ih =>
      intro d hd
      rw [strip]
      split
      · rename_i hzero
        obtain ⟨k, hk⟩ : ∃ k, d.digits = k * 10 := ⟨d.digits / 10, by omega⟩
        have hdiv : d.digits / 10 = k := by omega
        have hne : k ≠ 0 := by omega
        obtain ⟨hdigits, hvalue⟩ := ih (d := ⟨d.digits / 10, d.exponent + 1⟩) (by dsimp only; omega)
        refine ⟨hdigits, hvalue.trans ?_⟩
        rw [toBinary64, toBinary64, hdiv, hk]
        refine Binary64.ofDecimal_congr negative hne (by omega) ?_
        have hexp : (d.exponent + 1).toNat + (-d.exponent).toNat = 1 + d.exponent.toNat + (-(d.exponent + 1)).toNat := by
          omega
        calc k * 10 ^ (d.exponent + 1).toNat * 10 ^ (-d.exponent).toNat
            = k * 10 ^ ((d.exponent + 1).toNat + (-d.exponent).toNat) := by ring
          _ = k * 10 * 10 ^ d.exponent.toNat * 10 ^ (-(d.exponent + 1)).toNat := by rw [hexp]; ring
      · exact ⟨hd, rfl⟩

namespace Binary64

/-! ## Signs -/

theorem ofSignificand_true (m : Nat) (e : Int) : ofSignificand true m e = (ofSignificand false m e).neg := by
  have hsign : ∀ p : Nat × Int, (if maxExponent < p.2 then infinite true else finite true p.1 p.2) =
      (if maxExponent < p.2 then infinite false else finite false p.1 p.2).neg := by
    intro p
    split <;> rfl
  exact hsign (if m = Nat.pow 2 53 then (Nat.pow 2 52, e + 1) else (m, e))

theorem ofRatio_true (num den : Nat) : ofRatio true num den = (ofRatio false num den).neg := by
  by_cases hnum : num = 0
  · rw [ofRatio, ofRatio, if_pos hnum, if_pos hnum]
    rfl
  · rw [ofRatio_eq true hnum, ofRatio_eq false hnum, ofSignificand_true]

/-- A sign does not change what a decimal is rounded to. -/
theorem ofDecimal_true (digits : Nat) (x : Int) : ofDecimal true digits x = (ofDecimal false digits x).neg := by
  by_cases hdigits : digits = 0
  · rw [ofDecimal, ofDecimal, if_pos hdigits, if_pos hdigits]
    rfl
  · rw [ofDecimal_eq_ofRatio true hdigits, ofDecimal_eq_ofRatio false hdigits, ofRatio_true]

theorem ofDecimal_finite {digits m : Nat} {x e : Int} (h : ofDecimal false digits x = finite false m e) (negative : Bool) :
    ofDecimal negative digits x = finite negative m e := by
  cases negative with
  | false => exact h
  | true =>
      rw [ofDecimal_true, h]
      rfl

/-! ## The digits -/

variable {m : Nat} {e : Int}

/-- The exact decimal of a number of the format reads back. -/
theorem toBinary64_exactDecimal (hm : m ≠ 0) (h : (finite false m e).IsStored) :
    (exactDecimal m e).toBinary64 false = finite false m e := by
  have hdigits : m * 2 ^ e.toNat * 5 ^ (-e).toNat ≠ 0 :=
    Nat.mul_ne_zero (Nat.mul_ne_zero hm (Nat.pow_pos (by decide)).ne') (Nat.pow_pos (by decide)).ne'
  have hpos : (min e 0).toNat = 0 := by omega
  have hneg : (-min e 0).toNat = (-e).toNat := by omega
  show ofDecimal false (m * 2 ^ e.toNat * 5 ^ (-e).toNat) (min e 0) = _
  rw [ofDecimal_eq_ofRatio false hdigits, hpos, hneg, pow_zero, Nat.mul_one, ← ofRatio_ratio hm h]
  refine ofRatio_congr false (Nat.pow_pos (by decide)) (Nat.pow_pos (by decide)) ?_
  show m * 2 ^ e.toNat * 5 ^ (-e).toNat * 2 ^ (-e).toNat = m * 2 ^ e.toNat * 10 ^ (-e).toNat
  rw [Nat.mul_assoc, ← Nat.mul_pow]

/-- What is found among fewer digits reads back. -/
theorem toBinary64_shortestFrom {num den : Nat} {scale : Int} {d : Decimal} {fuel : Nat}
    (h : shortestFrom m e num den scale fuel = some d) : d.toBinary64 false = finite false m e := by
  induction fuel with
  | zero => cases h
  | succ fuel ih =>
      rw [shortestFrom] at h
      split at h
      · rename_i found hfind
        cases h
        have hbeq := List.find?_some (p := fun d : Decimal => d.toBinary64 false == finite false m e) hfind
        exact eq_of_beq hbeq
      · exact ih h

/-- **The shortest digits read back**, with any sign. -/
theorem toBinary64_shortest {negative : Bool} (hm : m ≠ 0) (h : (finite negative m e).IsStored) :
    (shortest m e).digits ≠ 0 ∧ (shortest m e).toBinary64 negative = finite negative m e := by
  have hstored : (finite false m e).IsStored := h
  obtain ⟨d, hd⟩ : ∃ d, d = (shortestFrom m e (ratio m e).1 (ratio m e).2 (decimalScale (ratio m e).1 (ratio m e).2) 17).getD
      (exactDecimal m e) := ⟨_, rfl⟩
  have hread : d.toBinary64 false = finite false m e := by
    rw [hd]
    generalize hfound : shortestFrom m e _ _ _ 17 = found
    cases found with
    | none => exact toBinary64_exactDecimal hm hstored
    | some found => exact toBinary64_shortestFrom hfound
  have hstrip : shortest m e = d.strip 400 := by
    rw [hd]
    rfl
  -- no digits would read back as zero
  have hdigits : d.digits ≠ 0 := by
    intro hzero
    rw [Decimal.toBinary64, ofDecimal, if_pos hzero] at hread
    cases hread
    exact hm rfl
  obtain ⟨hne, hvalue⟩ := Decimal.toBinary64_strip negative 400 hdigits
  rw [hstrip]
  exact ⟨hne, hvalue.trans (ofDecimal_finite hread negative)⟩

end Binary64

end WebhookBridge
