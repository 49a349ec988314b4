import Mathlib.Tactic.Ring
import WebhookBridge.Number.Binary64

/-!
# Rounding to binary floating-point numbers

What a ratio is rounded to depends on its value alone, not on how it is written as a fraction, and a number that the format
stores is rounded to itself. So does a decimal: the powers of ten that are not computed decide as they would if they were.

## Contents

* `Binary64.IsStored`: the numbers of the format;
* `Binary64.InBinade`, `inBinade_binadeOf`, `InBinade.unique`: the exponent at which a ratio has 53 binary digits;
* `Binary64.ofRatio_congr`: equal ratios are rounded alike;
* `Binary64.ofRatio_ratio`, `isStored_ofRatio`: numbers of the format are rounded to themselves, and to nothing else;
* `Binary64.ofDecimal_eq_ofRatio`: decimals are rounded as ratios.
-/

namespace WebhookBridge.Binary64

/-! ## The format -/

/-- The form in which the format stores a number: 53 binary digits unless the exponent is the least one. -/
def IsStored : Binary64 → Prop
  | .finite _ m e => m < 2 ^ 53 ∧ minExponent ≤ e ∧ e ≤ maxExponent ∧ (e = minExponent ∨ 2 ^ 52 ≤ m)
  | _ => True

/-! ## Powers of two -/

theorem scaled_eq (num den : Nat) (e : Int) : scaled num den e = (num * 2 ^ (-e).toNat, den * 2 ^ e.toNat) := rfl

/-- A ratio divided by a greater power of two is smaller by as much. -/
theorem scaled_shift (num den : Nat) (e : Int) (k : Nat) :
    (scaled num den e).1 * (scaled num den (e + k)).2 = (scaled num den (e + k)).1 * (scaled num den e).2 * 2 ^ k := by
  have hexp : (-e).toNat + (e + k).toNat = (-(e + k)).toNat + e.toNat + k := by omega
  have hpow : 2 ^ (-e).toNat * 2 ^ (e + k).toNat = 2 ^ (-(e + k)).toNat * 2 ^ e.toNat * 2 ^ k := by
    rw [← pow_add, ← pow_add, ← pow_add, hexp]
  calc num * 2 ^ (-e).toNat * (den * 2 ^ (e + k).toNat) = num * den * (2 ^ (-e).toNat * 2 ^ (e + k).toNat) := by ring
    _ = num * den * (2 ^ (-(e + k)).toNat * 2 ^ e.toNat * 2 ^ k) := by rw [hpow]
    _ = num * 2 ^ (-(e + k)).toNat * (den * 2 ^ e.toNat) * 2 ^ k := by ring

/-- Equal ratios stay equal when they are divided by a power of two. -/
theorem scaled_congr {num den num' den' : Nat} (h : num * den' = num' * den) (e : Int) :
    (scaled num den e).1 * (scaled num' den' e).2 = (scaled num' den' e).1 * (scaled num den e).2 := by
  calc num * 2 ^ (-e).toNat * (den' * 2 ^ e.toNat) = num * den' * (2 ^ (-e).toNat * 2 ^ e.toNat) := by ring
    _ = num' * den * (2 ^ (-e).toNat * 2 ^ e.toNat) := by rw [h]
    _ = num' * 2 ^ (-e).toNat * (den * 2 ^ e.toNat) := by ring

theorem scaled_pos {den : Nat} (hden : 0 < den) (num : Nat) (e : Int) : 0 < (scaled num den e).2 :=
  Nat.mul_pos hden (Nat.pow_pos (by decide))

/-- Divided by a greater power of two, a ratio below some number is below it by as much. -/
theorem scaled_lt_add {num den : Nat} (hden : 0 < den) {e : Int} {m : Nat}
    (h : (scaled num den e).1 < m * (scaled num den e).2) (k : Nat) :
    (scaled num den (e + k)).1 * 2 ^ k < m * (scaled num den (e + k)).2 := by
  have hpos := scaled_pos hden num (e + k)
  have hshift := scaled_shift num den e k
  refine Nat.lt_of_mul_lt_mul_right (a := (scaled num den e).2) ?_
  calc (scaled num den (e + k)).1 * 2 ^ k * (scaled num den e).2
      = (scaled num den e).1 * (scaled num den (e + k)).2 := by rw [hshift]; ring
    _ < m * (scaled num den e).2 * (scaled num den (e + k)).2 := Nat.mul_lt_mul_of_pos_right h hpos
    _ = m * (scaled num den (e + k)).2 * (scaled num den e).2 := by ring

/-! ## The exponent -/

/-- Divided by `2 ^ e`, a ratio has 53 binary digits before the point. -/
def InBinade (num den : Nat) (e : Int) : Prop :=
  2 ^ 52 * (scaled num den e).2 ≤ (scaled num den e).1 ∧ (scaled num den e).1 < 2 ^ 53 * (scaled num den e).2

/-- The exponent at which a positive ratio has 53 binary digits before the point. -/
def binadeOf (num den : Nat) : Int :=
  let guess : Int := (num.log2 : Int) - den.log2 - 53
  if 2 ^ 53 ≤ (scaled num den guess).1 / (scaled num den guess).2 then guess + 1 else guess

theorem exponentOf_eq (num den : Nat) : exponentOf num den = max minExponent (binadeOf num den) := rfl

variable {num den num' den' : Nat} {e e' : Int}

/-- **The exponent** is found, one of two that the numbers of digits leave. -/
theorem inBinade_binadeOf (hnum : num ≠ 0) (hden : 0 < den) : InBinade num den (binadeOf num den) := by
  have hnum₁ := Nat.log2_self_le hnum
  have hnum₂ := @Nat.lt_log2_self num
  have hden₁ := Nat.log2_self_le hden.ne'
  have hden₂ := @Nat.lt_log2_self den
  obtain ⟨g, hg⟩ : ∃ g : Int, g = (num.log2 : Int) - den.log2 - 53 := ⟨_, rfl⟩
  have hexp : num.log2 + (-g).toNat = den.log2 + 53 + g.toNat := by omega
  -- at the guess there are 53 or 54 digits
  have hlow : 2 ^ 52 * (scaled num den g).2 ≤ (scaled num den g).1 := by
    calc 2 ^ 52 * (den * 2 ^ g.toNat) ≤ 2 ^ 52 * (2 ^ (den.log2 + 1) * 2 ^ g.toNat) :=
          Nat.mul_le_mul_left _ (Nat.mul_le_mul_right _ hden₂.le)
      _ = 2 ^ (num.log2 + (-g).toNat) := by rw [hexp]; ring
      _ = 2 ^ num.log2 * 2 ^ (-g).toNat := pow_add ..
      _ ≤ num * 2 ^ (-g).toNat := Nat.mul_le_mul_right _ hnum₁
  have hhigh : (scaled num den g).1 < 2 ^ 54 * (scaled num den g).2 := by
    calc num * 2 ^ (-g).toNat < 2 ^ (num.log2 + 1) * 2 ^ (-g).toNat :=
          Nat.mul_lt_mul_of_pos_right hnum₂ (Nat.pow_pos (by decide))
      _ = 2 ^ (num.log2 + (-g).toNat) * 2 := by ring
      _ = 2 ^ 54 * (2 ^ den.log2 * 2 ^ g.toNat) := by rw [hexp]; ring
      _ ≤ 2 ^ 54 * (den * 2 ^ g.toNat) := Nat.mul_le_mul_left _ (Nat.mul_le_mul_right _ hden₁)
  have hpos := scaled_pos hden num g
  have hbinade : binadeOf num den = if 2 ^ 53 ≤ (scaled num den g).1 / (scaled num den g).2 then g + 1 else g := by
    rw [hg]
    rfl
  rw [hbinade]
  split
  · rename_i hmore
    have hmore := (Nat.le_div_iff_mul_le hpos).1 hmore
    have hshift := scaled_shift num den g 1
    have hpos' := scaled_pos hden num (g + 1)
    simp only [Nat.cast_one, pow_one] at hshift
    constructor
    · refine Nat.le_of_mul_le_mul_right (c := (scaled num den g).2 * 2) ?_ (by omega)
      calc 2 ^ 52 * (scaled num den (g + 1)).2 * ((scaled num den g).2 * 2)
          = 2 ^ 53 * (scaled num den g).2 * (scaled num den (g + 1)).2 := by ring
        _ ≤ (scaled num den g).1 * (scaled num den (g + 1)).2 := Nat.mul_le_mul_right _ hmore
        _ = (scaled num den (g + 1)).1 * ((scaled num den g).2 * 2) := by rw [hshift]; ring
    · refine Nat.lt_of_mul_lt_mul_right (a := (scaled num den g).2 * 2) ?_
      calc (scaled num den (g + 1)).1 * ((scaled num den g).2 * 2)
          = (scaled num den g).1 * (scaled num den (g + 1)).2 := by rw [hshift]; ring
        _ < 2 ^ 54 * (scaled num den g).2 * (scaled num den (g + 1)).2 := Nat.mul_lt_mul_of_pos_right hhigh hpos'
        _ = 2 ^ 53 * (scaled num den (g + 1)).2 * ((scaled num den g).2 * 2) := by ring
  · rename_i hless
    exact ⟨hlow, by rw [Nat.le_div_iff_mul_le hpos] at hless; omega⟩

/-- At a greater exponent a ratio has fewer digits. -/
theorem InBinade.not_lt (hden : 0 < den) (h : InBinade num den e)
    (hdigits : 2 ^ 52 * (scaled num den e').2 ≤ (scaled num den e').1) : ¬ e < e' := by
  intro hlt
  obtain ⟨k, rfl⟩ : ∃ k : Nat, e' = e + (k + 1 : Nat) := ⟨(e' - e - 1).toNat, by omega⟩
  have hless := scaled_lt_add hden h.2 (k + 1)
  generalize scaled num den (e + (k + 1 : Nat)) = q at hdigits hless
  have hpow : 1 ≤ 2 ^ k := Nat.one_le_two_pow
  have hmore : 2 ^ 53 * q.2 ≤ q.1 * 2 ^ (k + 1) := by
    calc 2 ^ 53 * q.2 = 2 ^ 52 * q.2 * (2 * 1) := by ring
      _ ≤ q.1 * (2 * 2 ^ k) := Nat.mul_le_mul hdigits (Nat.mul_le_mul_left _ hpow)
      _ = q.1 * 2 ^ (k + 1) := by ring
  omega

/-- There is one such exponent. -/
theorem InBinade.unique (hden : 0 < den) (h : InBinade num den e) (h' : InBinade num den e') : e = e' :=
  Int.le_antisymm (Int.not_lt.1 (h'.not_lt hden h.1)) (Int.not_lt.1 (h.not_lt hden h'.1))

theorem InBinade.congr (hden : 0 < den) (hden' : 0 < den') (hratio : num * den' = num' * den) (h : InBinade num den e) :
    InBinade num' den' e := by
  have hcross := scaled_congr hratio e
  have hpos := scaled_pos hden num e
  have hpos' := scaled_pos hden' num' e
  unfold InBinade
  generalize scaled num' den' e = q at hcross hpos' ⊢
  constructor
  · refine Nat.le_of_mul_le_mul_right (c := (scaled num den e).2) ?_ hpos
    calc 2 ^ 52 * q.2 * (scaled num den e).2 = 2 ^ 52 * (scaled num den e).2 * q.2 := by ring
      _ ≤ (scaled num den e).1 * q.2 := Nat.mul_le_mul_right _ h.1
      _ = q.1 * (scaled num den e).2 := hcross
  · refine Nat.lt_of_mul_lt_mul_right (a := (scaled num den e).2) ?_
    calc q.1 * (scaled num den e).2 = (scaled num den e).1 * q.2 := hcross.symm
      _ < 2 ^ 53 * (scaled num den e).2 * q.2 := Nat.mul_lt_mul_of_pos_right h.2 hpos'
      _ = 2 ^ 53 * q.2 * (scaled num den e).2 := by ring

/-! ## The significand -/

theorem roundedQuotient_mul {d c : Nat} (hc : 0 < c) (n : Nat) :
    roundedQuotient (n * c) (d * c) = roundedQuotient n d := by
  have hmod : n * c % (d * c) = n % d * c := Nat.mul_mod_mul_right ..
  have hdiv : n * c / (d * c) = n / d := Nat.mul_div_mul_right _ _ hc
  have hlt : ∀ a b : Nat, a * c < b * c ↔ a < b := fun a b => Nat.mul_lt_mul_right hc
  simp only [roundedQuotient, hmod, hdiv, ← Nat.mul_assoc, hlt]

/-- Equal quotients are rounded alike. -/
theorem roundedQuotient_congr {n d n' d' : Nat} (hd : 0 < d) (hd' : 0 < d') (h : n * d' = n' * d) :
    roundedQuotient n d = roundedQuotient n' d' := by
  rw [← roundedQuotient_mul hd' n, ← roundedQuotient_mul hd n', h, Nat.mul_comm d]

theorem roundedQuotient_exact {d : Nat} (hd : 0 < d) (m : Nat) : roundedQuotient (m * d) d = m := by
  simp [roundedQuotient, Nat.mul_div_cancel _ hd, hd]

theorem roundedQuotient_le {n d m : Nat} (h : n < m * d) : roundedQuotient n d ≤ m := by
  have hdiv : n / d < m := Nat.div_lt_of_lt_mul (by rwa [Nat.mul_comm])
  unfold roundedQuotient
  repeat' split
  all_goals omega

theorem le_roundedQuotient {n d m : Nat} (hd : 0 < d) (h : m * d ≤ n) : m ≤ roundedQuotient n d := by
  have hdiv : m ≤ n / d := (Nat.le_div_iff_mul_le hd).2 h
  unfold roundedQuotient
  repeat' split
  all_goals omega

/-! ## Ratios -/

theorem ofRatio_eq (negative : Bool) (hnum : num ≠ 0) :
    ofRatio negative num den = ofSignificand negative
      (roundedQuotient (scaled num den (exponentOf num den)).1 (scaled num den (exponentOf num den)).2)
      (exponentOf num den) := by
  rw [ofRatio, if_neg hnum]

/-- **Equal ratios** are rounded alike. -/
theorem ofRatio_congr (negative : Bool) (hden : 0 < den) (hden' : 0 < den') (h : num * den' = num' * den) :
    ofRatio negative num den = ofRatio negative num' den' := by
  by_cases hnum : num = 0
  · have hnum' : num' = 0 := by
      rw [hnum, Nat.zero_mul] at h
      exact (Nat.mul_eq_zero.1 h.symm).resolve_right hden.ne'
    rw [hnum, hnum', ofRatio, ofRatio, if_pos rfl, if_pos rfl]
  · have hnum' : num' ≠ 0 := by
      rintro rfl
      rw [Nat.zero_mul] at h
      exact hnum ((Nat.mul_eq_zero.1 h).resolve_right hden'.ne')
    have hbinade : binadeOf num den = binadeOf num' den' :=
      ((inBinade_binadeOf hnum hden).congr hden hden' h).unique hden' (inBinade_binadeOf hnum' hden')
    have hexp : exponentOf num den = exponentOf num' den' := by rw [exponentOf_eq, exponentOf_eq, hbinade]
    rw [ofRatio_eq negative hnum, ofRatio_eq negative hnum', hexp]
    congr 1
    exact roundedQuotient_congr (scaled_pos hden _ _) (scaled_pos hden' _ _) (scaled_congr h _)

/-- **A number of the format** is what its own ratio is rounded to. -/
theorem ofRatio_ratio {negative : Bool} {m : Nat} (hm : m ≠ 0) (h : (finite negative m e).IsStored) :
    ofRatio negative (ratio m e).1 (ratio m e).2 = finite negative m e := by
  obtain ⟨hlt, hmin, hmax, hform⟩ := h
  have hnum : (ratio m e).1 ≠ 0 := Nat.mul_ne_zero hm (Nat.pow_pos (by decide)).ne'
  have hden : 0 < (ratio m e).2 := Nat.pow_pos (by decide)
  -- divided by the power of two of the number, the ratio is its significand
  have hexact : (scaled (ratio m e).1 (ratio m e).2 e).1 = m * (scaled (ratio m e).1 (ratio m e).2 e).2 := by
    show m * 2 ^ e.toNat * 2 ^ (-e).toNat = m * (2 ^ (-e).toNat * 2 ^ e.toNat)
    ring
  have hpos := scaled_pos hden (ratio m e).1 e
  have hbinade := inBinade_binadeOf hnum hden
  have hexp : exponentOf (ratio m e).1 (ratio m e).2 = e := by
    rw [exponentOf_eq]
    rcases Nat.lt_or_ge m (2 ^ 52) with hsmall | hlarge
    · -- with fewer digits the exponent of the ratio is less than the least one
      have heq : e = minExponent := hform.resolve_right (by omega)
      refine (Int.max_eq_left ?_).trans heq.symm
      refine Int.not_lt.1 fun hgt => ?_
      obtain ⟨k, hk⟩ : ∃ k : Nat, binadeOf (ratio m e).1 (ratio m e).2 = e + k :=
        ⟨(binadeOf (ratio m e).1 (ratio m e).2 - e).toNat, by omega⟩
      have hless : (scaled (ratio m e).1 (ratio m e).2 e).1 < 2 ^ 52 * (scaled (ratio m e).1 (ratio m e).2 e).2 := by
        rw [hexact]
        exact Nat.mul_lt_mul_of_pos_right hsmall hpos
      have hadd := scaled_lt_add hden hless k
      rw [← hk] at hadd
      exact Nat.not_lt.2 hbinade.1 (Nat.lt_of_le_of_lt (Nat.le_mul_of_pos_right _ Nat.one_le_two_pow) hadd)
    · have he : InBinade (ratio m e).1 (ratio m e).2 e := by
        rw [InBinade, hexact]
        exact ⟨Nat.mul_le_mul_right _ hlarge, Nat.mul_lt_mul_of_pos_right hlt hpos⟩
      rw [hbinade.unique hden he]
      exact Int.max_eq_right hmin
  have hne : m ≠ Nat.pow 2 53 := by
    have hlt : m < Nat.pow 2 53 := hlt
    omega
  rw [ofRatio_eq negative hnum, hexp, hexact, roundedQuotient_exact hpos, ofSignificand]
  simp only [hne, if_false, if_neg (Int.not_lt.2 hmax)]

/-- **What a ratio is rounded to** is a number of the format. -/
theorem isStored_ofRatio (negative : Bool) (hden : 0 < den) : (ofRatio negative num den).IsStored := by
  by_cases hnum : num = 0
  · rw [ofRatio, if_pos hnum]
    exact ⟨by decide, Int.le_refl _, by decide, Or.inl rfl⟩
  · have hbinade := inBinade_binadeOf hnum hden
    have hle : binadeOf num den ≤ exponentOf num den := Int.le_max_right ..
    have hmin : minExponent ≤ exponentOf num den := Int.le_max_left ..
    have hpos := scaled_pos hden num (exponentOf num den)
    -- at most 53 digits, and no fewer unless the exponent is the least one
    have hless : (scaled num den (exponentOf num den)).1 < 2 ^ 53 * (scaled num den (exponentOf num den)).2 := by
      obtain ⟨k, hk⟩ : ∃ k : Nat, exponentOf num den = binadeOf num den + k :=
        ⟨(exponentOf num den - binadeOf num den).toNat, by omega⟩
      have hadd := scaled_lt_add hden hbinade.2 k
      rw [← hk] at hadd
      exact Nat.lt_of_le_of_lt (Nat.le_mul_of_pos_right _ Nat.one_le_two_pow) hadd
    have hform : exponentOf num den = minExponent ∨
        2 ^ 52 * (scaled num den (exponentOf num den)).2 ≤ (scaled num den (exponentOf num den)).1 := by
      rw [exponentOf_eq] at hmin ⊢
      rcases Int.le_total (binadeOf num den) minExponent with hlow | hhigh
      · exact Or.inl (Int.max_eq_left hlow)
      · rw [Int.max_eq_right hhigh]
        exact Or.inr hbinade.1
    have hround := roundedQuotient_le hless
    rw [ofRatio_eq negative hnum]
    generalize hm : roundedQuotient _ _ = m at hround
    rw [ofSignificand]
    by_cases htop : m = Nat.pow 2 53
    · simp only [htop, if_true]
      split
      · trivial
      · exact ⟨by decide, by omega, by omega, Or.inr (Nat.le_refl _)⟩
    · simp only [htop, if_false]
      split
      · trivial
      · have hlt : m < 2 ^ 53 := Nat.lt_of_le_of_ne hround htop
        refine ⟨hlt, hmin, by omega, hform.imp_right fun hdigits => ?_⟩
        rw [← hm]
        exact le_roundedQuotient hpos hdigits

/-! ## Decimals -/

/-- A ratio with more digits than the greatest exponent leaves is rounded to infinity. -/
theorem ofRatio_infinite (negative : Bool) (hnum : num ≠ 0) (hden : 0 < den)
    (h : 2 ^ 53 * (scaled num den maxExponent).2 ≤ (scaled num den maxExponent).1) :
    ofRatio negative num den = .infinite negative := by
  have hlt : maxExponent < binadeOf num den := by
    refine Int.not_le.1 fun hle => ?_
    obtain ⟨k, hk⟩ : ∃ k : Nat, maxExponent = binadeOf num den + k := ⟨(maxExponent - binadeOf num den).toNat, by omega⟩
    have hadd := scaled_lt_add hden (inBinade_binadeOf hnum hden).2 k
    rw [← hk] at hadd
    exact Nat.not_lt.2 h (Nat.lt_of_le_of_lt (Nat.le_mul_of_pos_right _ Nat.one_le_two_pow) hadd)
  have hexp : maxExponent < exponentOf num den := Int.lt_of_lt_of_le hlt (Int.le_max_right ..)
  rw [ofRatio_eq negative hnum]
  generalize roundedQuotient _ _ = m
  rw [ofSignificand]
  by_cases htop : m = Nat.pow 2 53
  · simp only [htop, if_true]
    exact if_pos (by omega)
  · simp only [htop, if_false]
    exact if_pos hexp

/-- A ratio of less than half of the least number is rounded to zero. -/
theorem ofRatio_zero (negative : Bool) (hnum : num ≠ 0) (hden : 0 < den)
    (h : 2 * (scaled num den minExponent).1 < (scaled num den minExponent).2) :
    ofRatio negative num den = zero negative := by
  have hle : binadeOf num den ≤ minExponent := by
    refine Int.not_lt.1 fun hlt => ?_
    obtain ⟨k, hk⟩ : ∃ k : Nat, binadeOf num den = minExponent + k := ⟨(binadeOf num den - minExponent).toNat, by omega⟩
    have hless : (scaled num den minExponent).1 < 2 ^ 52 * (scaled num den minExponent).2 := by omega
    have hadd := scaled_lt_add hden hless k
    rw [← hk] at hadd
    exact Nat.not_lt.2 (inBinade_binadeOf hnum hden).1
      (Nat.lt_of_le_of_lt (Nat.le_mul_of_pos_right _ Nat.one_le_two_pow) hadd)
  have hexp : exponentOf num den = minExponent := by rw [exponentOf_eq, Int.max_eq_left hle]
  have hround : roundedQuotient (scaled num den minExponent).1 (scaled num den minExponent).2 = 0 := by
    have hdiv := Nat.div_eq_of_lt (show (scaled num den minExponent).1 < (scaled num den minExponent).2 by omega)
    have hmod := Nat.mod_eq_of_lt (show (scaled num den minExponent).1 < (scaled num den minExponent).2 by omega)
    rw [roundedQuotient, hmod, hdiv, if_pos h]
  rw [ofRatio_eq negative hnum, hexp, hround]
  rfl

theorem pow_ten_le (k : Nat) : 10 ^ k ≤ 2 ^ (4 * k) := by
  rw [pow_mul]
  exact Nat.pow_le_pow_left (by decide) k

theorem le_pow_ten (k : Nat) : 2 ^ (3 * k) ≤ 10 ^ k := by
  rw [pow_mul]
  exact Nat.pow_le_pow_left (by decide) k

/-- **Decimals** are rounded as the ratios that they are. -/
theorem ofDecimal_eq_ofRatio (negative : Bool) {digits : Nat} (hdigits : digits ≠ 0) (x : Int) :
    ofDecimal negative digits x = ofRatio negative (digits * 10 ^ x.toNat) (10 ^ (-x).toNat) := by
  have hnum : digits * 10 ^ x.toNat ≠ 0 := Nat.mul_ne_zero hdigits (Nat.pow_pos (by decide)).ne'
  have hden : 0 < 10 ^ (-x).toNat := Nat.pow_pos (by decide)
  have hlow := Nat.log2_self_le hdigits
  have hhigh := @Nat.lt_log2_self digits
  have hbound : decimalBound = 400 := rfl
  have hmax : maxExponent = 971 := rfl
  have hmin : minExponent = -1074 := rfl
  rw [ofDecimal, if_neg hdigits]
  dsimp only
  split
  · rename_i hlarge
    have hexp : 53 + (4 * (-x).toNat + maxExponent.toNat) ≤ digits.log2 + 3 * x.toNat + (-maxExponent).toNat := by omega
    refine (ofRatio_infinite negative hnum hden ?_).symm
    simp only [scaled_eq]
    calc 2 ^ 53 * (10 ^ (-x).toNat * 2 ^ maxExponent.toNat)
        ≤ 2 ^ 53 * (2 ^ (4 * (-x).toNat) * 2 ^ maxExponent.toNat) :=
          Nat.mul_le_mul_left _ (Nat.mul_le_mul_right _ (pow_ten_le _))
      _ = 2 ^ (53 + (4 * (-x).toNat + maxExponent.toNat)) := by rw [pow_add, pow_add]
      _ ≤ 2 ^ (digits.log2 + 3 * x.toNat + (-maxExponent).toNat) := Nat.pow_le_pow_right (by decide) hexp
      _ = 2 ^ digits.log2 * 2 ^ (3 * x.toNat) * 2 ^ (-maxExponent).toNat := by rw [pow_add, pow_add]
      _ ≤ digits * 10 ^ x.toNat * 2 ^ (-maxExponent).toNat :=
          Nat.mul_le_mul_right _ (Nat.mul_le_mul hlow (le_pow_ten _))
  · split
    · rename_i hsmall
      have hexp : 1 + (digits.log2 + 1 + 4 * x.toNat + (-minExponent).toNat) ≤ 3 * (-x).toNat + minExponent.toNat := by omega
      refine (ofRatio_zero negative hnum hden ?_).symm
      simp only [scaled_eq]
      calc 2 * (digits * 10 ^ x.toNat * 2 ^ (-minExponent).toNat)
          < 2 * (2 ^ (digits.log2 + 1) * 2 ^ (4 * x.toNat) * 2 ^ (-minExponent).toNat) := by
            refine Nat.mul_lt_mul_of_pos_left (Nat.mul_lt_mul_of_pos_right ?_ (Nat.pow_pos (by decide))) (by decide)
            exact Nat.mul_lt_mul_of_lt_of_le hhigh (pow_ten_le _) (Nat.pow_pos (by decide))
        _ = 2 ^ (1 + (digits.log2 + 1 + 4 * x.toNat + (-minExponent).toNat)) := by ring
        _ ≤ 2 ^ (3 * (-x).toNat + minExponent.toNat) := Nat.pow_le_pow_right (by decide) hexp
        _ = 2 ^ (3 * (-x).toNat) * 2 ^ minExponent.toNat := pow_add ..
        _ ≤ 10 ^ (-x).toNat * 2 ^ minExponent.toNat := Nat.mul_le_mul_right _ (le_pow_ten _)
    · rfl

/-- **Decimals of equal value** are rounded alike. -/
theorem ofDecimal_congr (negative : Bool) {digits digits' : Nat} {x x' : Int} (hdigits : digits ≠ 0)
    (hdigits' : digits' ≠ 0)
    (h : digits * 10 ^ x.toNat * 10 ^ (-x').toNat = digits' * 10 ^ x'.toNat * 10 ^ (-x).toNat) :
    ofDecimal negative digits x = ofDecimal negative digits' x' := by
  rw [ofDecimal_eq_ofRatio negative hdigits, ofDecimal_eq_ofRatio negative hdigits']
  exact ofRatio_congr negative (Nat.pow_pos (by decide)) (Nat.pow_pos (by decide)) h

theorem isStored_ofDecimal (negative : Bool) (digits : Nat) (x : Int) : (ofDecimal negative digits x).IsStored := by
  by_cases hdigits : digits = 0
  · rw [ofDecimal, if_pos hdigits]
    exact ⟨by decide, Int.le_refl _, by decide, Or.inl rfl⟩
  · rw [ofDecimal_eq_ofRatio negative hdigits]
    exact isStored_ofRatio negative (Nat.pow_pos (by decide))

end WebhookBridge.Binary64
