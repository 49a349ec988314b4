import Mathlib.Algebra.Group.Nat.Defs
import WebhookBridge.Number.Decimal
import WebhookBridge.Number.Whole

/-!
# Decimal digits

The text of a natural number is its digits, most significant first. The digits make the number again, and a reader that takes
digits off the front of a text finds them as long as no digit comes after.

## Contents

* `Text.digitsOf`, `Text.ofNat_eq`: the digits of a number and its text;
* `Text.ofDigits_digitsOf`, `Text.length_digitsOf_le`, `Text.head_digitsOf`: what the digits make, and how many there are;
* `Numeral.spanDigits_of_head`, `Numeral.spanDigits_map`: reading digits.
-/

namespace WebhookBridge

/-! ## Numbers of digits -/

namespace Whole

theorem foldl_digits (es : List Nat) : ∀ n, es.foldl (fun n d => n * 10 + d) n = n * 10 ^ es.length + ofDigits es := by
  induction es with
  | nil => simp [ofDigits]
  | cons d es ih =>
      intro n
      have hcons : ofDigits (d :: es) = (0 * 10 + d) * 10 ^ es.length + ofDigits es := ih (0 * 10 + d)
      rw [List.foldl_cons, ih, hcons, List.length_cons, Nat.pow_succ, Nat.add_mul, Nat.zero_mul, Nat.zero_add, Nat.add_assoc,
        Nat.mul_assoc, Nat.mul_comm 10]

theorem ofDigits_append (ds es : List Nat) : ofDigits (ds ++ es) = ofDigits ds * 10 ^ es.length + ofDigits es := by
  rw [ofDigits, List.foldl_append, foldl_digits]
  rfl

theorem ofDigits_replicate_zero (k : Nat) : ofDigits (List.replicate k 0) = 0 := by
  induction k with
  | zero => rfl
  | succ k ih => exact ih

end Whole

namespace Text

/-- The decimal digits of a natural number, most significant first. -/
def digitsOf (n : Nat) : List Nat := if n < 10 then [n] else digitsOf (n / 10) ++ [n % 10]
termination_by n
decreasing_by omega

theorem digitsOf_of_lt {n : Nat} (h : n < 10) : digitsOf n = [n] := by rw [digitsOf, if_pos h]

theorem digitsOf_of_le {n : Nat} (h : 10 ≤ n) : digitsOf n = digitsOf (n / 10) ++ [n % 10] := by
  rw [digitsOf, if_neg (Nat.not_lt.2 h)]

theorem ofDigit_mod (n : Nat) : CodePoint.ofDigit (n % 10) = CodePoint.ofDigit n := by
  simp [CodePoint.ofDigit]

/-- **The text of a natural number** is its digits. -/
theorem ofNat_eq (n : Nat) : ofNat n = (digitsOf n).map CodePoint.ofDigit := by
  have honto : ∀ n rest, decimalOnto n rest = (digitsOf n).map CodePoint.ofDigit ++ rest := by
    intro n
    induction n using Nat.strongRecOn with
    | ind n ih =>
        intro rest
        rw [decimalOnto]
        split
        · rename_i hlt
          rw [digitsOf_of_lt hlt]
          rfl
        · rename_i hge
          have hge : 10 ≤ n := Nat.not_lt.1 hge
          rw [ih (n / 10) (by omega), digitsOf_of_le hge, List.map_append, List.append_assoc, List.map_singleton, ofDigit_mod]
          rfl
  rw [ofNat, honto, List.append_nil]

/-- Zeros that fill a numeral up are digits. -/
theorem zeros_lt (k : Nat) : ∀ d ∈ List.replicate k 0, d < 10 := by
  intro d hd
  rw [List.eq_of_mem_replicate hd]
  decide

theorem digitsOf_lt (n : Nat) : ∀ d ∈ digitsOf n, d < 10 := by
  induction n using Nat.strongRecOn with
  | ind n ih =>
      by_cases hlt : n < 10
      · simpa [digitsOf_of_lt hlt] using hlt
      · rw [digitsOf_of_le (by omega), List.forall_mem_append]
        exact ⟨ih (n / 10) (by omega), by simpa using Nat.mod_lt n (by decide)⟩

theorem digitsOf_ne_nil (n : Nat) : digitsOf n ≠ [] := by
  rw [digitsOf]
  split <;> simp

/-- **The digits of a number** make the number. -/
theorem ofDigits_digitsOf (n : Nat) : Whole.ofDigits (digitsOf n) = n := by
  induction n using Nat.strongRecOn with
  | ind n ih =>
      by_cases hlt : n < 10
      · rw [digitsOf_of_lt hlt]
        exact Nat.zero_add n
      · have hlast : Whole.ofDigits [n % 10] = n % 10 := Nat.zero_add _
        rw [digitsOf_of_le (by omega), Whole.ofDigits_append, ih (n / 10) (by omega), hlast, List.length_singleton]
        omega

/-- The first digit is no zero, unless the number is. -/
theorem head_digitsOf {n : Nat} (h : n ≠ 0) : ∃ d ds, digitsOf n = d :: ds ∧ d ≠ 0 := by
  induction n using Nat.strongRecOn with
  | ind n ih =>
      by_cases hlt : n < 10
      · exact ⟨n, [], digitsOf_of_lt hlt, h⟩
      · obtain ⟨d, ds, hds, hd⟩ := ih (n / 10) (by omega) (by omega)
        exact ⟨d, ds ++ [n % 10], by rw [digitsOf_of_le (by omega), hds, List.cons_append], hd⟩

/-- The digits of a number below a power of ten. -/
theorem length_digitsOf_le {m : Nat} (hm : m ≠ 0) : ∀ {n : Nat}, n < 10 ^ m → (digitsOf n).length ≤ m := by
  induction m with
  | zero => exact absurd rfl hm
  | succ m ih =>
      intro n hn
      by_cases hlt : n < 10
      · rw [digitsOf_of_lt hlt]
        exact Nat.succ_le_succ (Nat.zero_le m)
      · rw [digitsOf_of_le (by omega), List.length_append, List.length_singleton]
        have hm : m ≠ 0 := by
          rintro rfl
          exact hlt hn
        exact Nat.succ_le_succ (ih hm (by rw [Nat.pow_succ] at hn; omega))

end Text

/-! ## Reading digits -/

theorem CodePoint.val_ofDigit {d : Nat} (h : d < 10) : (ofDigit d).val = 0x30 + d := by
  show 0x30 + d % 10 = 0x30 + d
  rw [Nat.mod_eq_of_lt h]

theorem CodePoint.isAsciiDigit_ofDigit {d : Nat} (h : d < 10) : (ofDigit d).isAsciiDigit = true := by
  simp only [isAsciiDigit, Bool.and_eq_true, decide_eq_true_eq, val_ofDigit h]
  omega

theorem Numeral.asciiDigit?_ofDigit {d : Nat} (h : d < 10) : asciiDigit? (CodePoint.ofDigit d) = some d := by
  rw [asciiDigit?, if_pos (CodePoint.isAsciiDigit_ofDigit h), CodePoint.val_ofDigit h]
  simp

/-- No digit stands at the front of the empty text. -/
theorem Text.isAsciiDigit_head_nil : ∀ c, ([] : Text).head? = some c → c.isAsciiDigit = false := by simp

/-- No digits are read where none stands at the front. -/
theorem Numeral.spanDigits_of_head {t : Text} (h : ∀ c, t.head? = some c → c.isAsciiDigit = false) :
    spanDigits t = ([], t) := by
  cases t with
  | nil => rfl
  | cons c t => simp [spanDigits, asciiDigit?, h c rfl]

/-- **Digits are read** where no digit comes after them. -/
theorem Numeral.spanDigits_map {ds : List Nat} (h : ∀ d ∈ ds, d < 10) {rest : Text}
    (hrest : ∀ c, rest.head? = some c → c.isAsciiDigit = false) :
    spanDigits (ds.map CodePoint.ofDigit ++ rest) = (ds, rest) := by
  induction ds with
  | nil => exact spanDigits_of_head hrest
  | cons d ds ih =>
      obtain ⟨hd, hds⟩ := List.forall_mem_cons.1 h
      simp only [List.map_cons, List.cons_append, spanDigits, asciiDigit?_ofDigit hd, ih hds]

end WebhookBridge
