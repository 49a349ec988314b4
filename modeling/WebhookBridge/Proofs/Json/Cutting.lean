import WebhookBridge.Proofs.Json.Following
import WebhookBridge.Proofs.Number.Digits

/-!
# What a value takes off a text

The strict reader takes a piece off the front of a text, and looks at no more than one code point after it. So it finds the
same in the piece by itself, and in the piece before anything that begins with the same code point, or with which no numeral
goes on.

## Contents

* `Follows`: what may come after a piece in place of the rest;
* `Cuts`: a relation that takes pieces off texts;
* `Strict.content_cuts`, `cuts_readNumber`, `cuts_scalar`: strings, numerals and scalars are such pieces.
-/

namespace WebhookBridge.Json

open Lenient (skipBlanks isBlank Stops goesOn)

/-! ## What may come after a piece -/

/-- A text may come after a piece in place of the rest: it begins with the same code point, or no numeral goes on with it. -/
def Follows (rest more : Text) : Prop := Stops more ∨ ∃ c, rest.head? = some c ∧ more.head? = some c

theorem Follows.cons (c : CodePoint) (rest more : Text) : Follows (c :: rest) (c :: more) := .inr ⟨c, rfl, rfl⟩

theorem Follows.append {rest more : Text} (h : Follows rest more) (piece : Text) : Follows (piece ++ rest) (piece ++ more) := by
  cases piece with
  | nil => exact h
  | cons c piece => exact .cons c _ _

/-- A code point with which no numeral would go on does not come in place of the rest if the rest does not begin with it. -/
theorem Follows.head {p : CodePoint → Bool} (hp : ∀ c, goesOn c = false → p c = false) {rest more : Text}
    (h : Follows rest more) (hrest : ∀ c, rest.head? = some c → p c = false) :
    ∀ c, more.head? = some c → p c = false := by
  intro c hc
  rcases h with hstops | ⟨d, hd, hmore⟩
  · obtain ⟨t, rfl⟩ := List.head?_eq_some_iff.1 hc
    exact hp c hstops.not_goesOn
  · rw [hmore] at hc
    cases hc
    exact hrest _ hd

/-- What is found at the front of a text is a piece of it, and is found there whatever comes after the piece. -/
def Cuts {α : Type} (R : Text → α → Text → Prop) : Prop :=
  ∀ t a rest, R t a rest → ∃ piece, t = piece ++ rest ∧ ∀ more, Follows rest more → R (piece ++ more) a more

/-! ## Numerals -/

namespace Strict

theorem goesOn_digit (c : CodePoint) (h : goesOn c = false) : c.isAsciiDigit = false := by
  simp only [goesOn, Bool.or_eq_false_iff] at h
  exact h.1.1.1.1

theorem goesOn_point (c : CodePoint) (h : goesOn c = false) : decide (c = CodePoint.ofChar '.') = false := by
  simp only [goesOn, Bool.or_eq_false_iff] at h
  exact h.1.1.1.2

theorem goesOn_exponent (c : CodePoint) (h : goesOn c = false) : decide (c.toAsciiLower = CodePoint.ofChar 'e') = false := by
  simp only [goesOn, Bool.or_eq_false_iff] at h
  exact h.1.1.2

theorem cuts_spanDigits : Cuts fun t ds rest => Numeral.spanDigits t = (ds, rest) := by
  intro t
  induction t with
  | nil =>
      rintro _ _ ⟨⟩
      exact ⟨[], rfl, fun more hmore => Numeral.spanDigits_of_head (hmore.head goesOn_digit (by simp))⟩
  | cons c t ih =>
      intro ds rest h
      by_cases hc : c.isAsciiDigit = true
      · simp only [Numeral.spanDigits, Numeral.asciiDigit?, hc, if_true] at h
        cases h
        obtain ⟨piece, hpiece, hmore⟩ := ih _ _ rfl
        refine ⟨c :: piece, congrArg (c :: ·) hpiece, fun more hm => ?_⟩
        simp [Numeral.spanDigits, Numeral.asciiDigit?, hc, hmore more hm]
      · rw [Bool.not_eq_true] at hc
        have hspan : Numeral.spanDigits (c :: t) = ([], c :: t) := Numeral.spanDigits_of_head (by simpa using hc)
        rw [hspan] at h
        cases h
        exact ⟨[], rfl, fun more hmore => Numeral.spanDigits_of_head (hmore.head goesOn_digit (by simpa using hc))⟩

theorem readDigits_of_span {t : Text} {ds : List Nat} {rest : Text} (h : Numeral.spanDigits t = (ds, rest)) (hne : ds ≠ []) :
    readDigits t = .ok (ds, rest) := by
  obtain ⟨d, ds, rfl⟩ := List.exists_cons_of_ne_nil hne
  simp [readDigits, h]

/-- Digits take up some of the text. -/
theorem readDigits_cuts {t : Text} {ds : List Nat} {rest : Text} (h : readDigits t = .ok (ds, rest)) :
    ∃ d piece, t = d :: piece ++ rest ∧ ∀ more, Follows rest more → readDigits (d :: piece ++ more) = .ok (ds, more) := by
  obtain ⟨hspan, hne⟩ := readDigits_ok h
  obtain ⟨piece, rfl, hmore⟩ := cuts_spanDigits _ _ _ hspan
  cases piece with
  | nil =>
      have hlength := Lenient.length_spanDigits ([] ++ rest)
      rw [hspan, List.nil_append] at hlength
      exact absurd (List.length_eq_zero_iff.1 (Nat.add_eq_right.1 hlength)) hne
  | cons d piece => exact ⟨d, piece, rfl, fun more hm => readDigits_of_span (hmore more hm) hne⟩

theorem cuts_readWholeDigits (written : Nat) : Cuts fun t ds rest => readWholeDigits written t = .ok (ds, rest) := by
  intro t ds rest h
  cases t with
  | nil => cases h
  | cons c t =>
      by_cases hzero : c = CodePoint.ofChar '0'
      · subst hzero
        obtain ⟨hhead, rfl, rfl⟩ := readWholeDigits_zero_iff.1 h
        refine ⟨[CodePoint.ofChar '0'], rfl, fun more hmore => ?_⟩
        exact readWholeDigits_zero_iff.2 ⟨hmore.head goesOn_digit hhead, rfl, rfl⟩
      · obtain ⟨hdigits, hlen⟩ := (readWholeDigits_cons_iff hzero).1 h
        obtain ⟨d, piece, hpiece, hmore⟩ := readDigits_cuts hdigits
        cases hpiece
        exact ⟨c :: piece, rfl, fun more hm => (readWholeDigits_cons_iff hzero).2 ⟨hmore more hm, hlen⟩⟩

theorem cuts_readFraction : Cuts fun t fraction rest => readFraction t = .ok (fraction, rest) := by
  intro t fraction rest h
  have hnone : ∀ {t : Text}, (∀ c, t.head? = some c → decide (c = CodePoint.ofChar '.') = false) →
      readFraction t = .ok (none, t) := by
    intro t ht
    cases t with
    | nil => rfl
    | cons c t => simp [readFraction, of_decide_eq_false (ht c rfl)]
  by_cases hpoint : t.head? = some (CodePoint.ofChar '.')
  · obtain ⟨t, rfl⟩ := List.head?_eq_some_iff.1 hpoint
    simp only [readFraction, if_true] at h
    obtain ⟨⟨ds, rest'⟩, hdigits, he⟩ := map_eq_ok_iff.1 h
    cases he
    obtain ⟨d, piece, rfl, hmore⟩ := readDigits_cuts hdigits
    refine ⟨CodePoint.ofChar '.' :: d :: piece, rfl, fun more hm => ?_⟩
    have hread := hmore more hm
    simp only [List.cons_append] at hread ⊢
    simp [readFraction, hread, Except.map]
  · have hhead : ∀ c, t.head? = some c → decide (c = CodePoint.ofChar '.') = false := by
      intro c hc
      rw [decide_eq_false_iff_not]
      rintro rfl
      exact hpoint hc
    rw [hnone hhead] at h
    cases h
    exact ⟨[], rfl, fun more hmore => hnone (hmore.head goesOn_point hhead)⟩

/-- The digits after a sign are a piece of the text, and so are digits without one. -/
theorem signedDigits_cuts {t : Text} {ds : List Nat} {rest : Text}
    (h : readDigits (Lenient.signedDigits t).2 = .ok (ds, rest)) :
    ∃ piece, t = piece ++ rest ∧ ∀ more, Follows rest more →
      (Lenient.signedDigits (piece ++ more)).1 = (Lenient.signedDigits t).1 ∧
      readDigits (Lenient.signedDigits (piece ++ more)).2 = .ok (ds, more) := by
  cases t with
  | nil =>
      obtain ⟨d, piece, hpiece, -⟩ := readDigits_cuts h
      cases hpiece
  | cons s t =>
      by_cases hsign : s = CodePoint.ofChar '-' ∨ s = CodePoint.ofChar '+'
      · have hsigned : ∀ t, (Lenient.signedDigits (s :: t)).2 = t ∧
            (Lenient.signedDigits (s :: t)).1 = decide (s = CodePoint.ofChar '-') := by
          rcases hsign with rfl | rfl
          · exact fun t => ⟨rfl, rfl⟩
          · exact fun t => ⟨rfl, rfl⟩
        rw [(hsigned t).1] at h
        obtain ⟨d, piece, rfl, hmore⟩ := readDigits_cuts h
        refine ⟨s :: d :: piece, rfl, fun more hm => ?_⟩
        simp only [List.cons_append, hsigned]
        exact ⟨trivial, hmore more hm⟩
      · rw [not_or] at hsign
        have hsigned : ∀ t, Lenient.signedDigits (s :: t) = (false, s :: t) := by
          intro t
          simp [Lenient.signedDigits, hsign.1, hsign.2]
        rw [hsigned] at h
        obtain ⟨d, piece, hpiece, hmore⟩ := readDigits_cuts h
        cases hpiece
        refine ⟨s :: piece, rfl, fun more hm => ?_⟩
        rw [List.cons_append, hsigned, hsigned]
        exact ⟨rfl, hmore more hm⟩

theorem cuts_readExponent : Cuts fun t power rest => readExponent t = .ok (power, rest) := by
  intro t power rest h
  have hnone : ∀ {t : Text}, (∀ c, t.head? = some c → decide (c.toAsciiLower = CodePoint.ofChar 'e') = false) →
      readExponent t = .ok (none, t) := by
    intro t ht
    cases t with
    | nil => rfl
    | cons c t => rw [readExponent_cons, if_neg (of_decide_eq_false (ht c rfl))]
  by_cases hletter : ∃ c, t.head? = some c ∧ c.toAsciiLower = CodePoint.ofChar 'e'
  · obtain ⟨c, hc, hlower⟩ := hletter
    obtain ⟨t, rfl⟩ := List.head?_eq_some_iff.1 hc
    rw [readExponent_cons, if_pos hlower] at h
    obtain ⟨⟨ds, rest'⟩, hdigits, he⟩ := map_eq_ok_iff.1 h
    cases he
    obtain ⟨piece, hpiece, hmore⟩ := signedDigits_cuts hdigits
    refine ⟨c :: piece, congrArg (c :: ·) hpiece, fun more hm => ?_⟩
    obtain ⟨hsign, hread⟩ := hmore more hm
    rw [List.cons_append, readExponent_cons, if_pos hlower, hread, hsign]
    rfl
  · have hhead : ∀ c, t.head? = some c → decide (c.toAsciiLower = CodePoint.ofChar 'e') = false := by
      intro c hc
      rw [decide_eq_false_iff_not]
      exact fun hlower => hletter ⟨c, hc, hlower⟩
    rw [hnone hhead] at h
    cases h
    exact ⟨[], rfl, fun more hmore => hnone (hmore.head goesOn_exponent hhead)⟩

/-- **A numeral is a piece of the text.** -/
theorem cuts_readNumber (negative : Bool) : Cuts fun t v rest => readNumber negative t = .ok (v, rest) := by
  intro t v rest h
  obtain ⟨ds, rest₁, fraction, rest₂, power, hwhole, hfraction, hpower, rfl⟩ := readNumber_ok_iff.1 h
  obtain ⟨digits, rfl, hdigits⟩ := cuts_readWholeDigits _ _ _ _ hwhole
  obtain ⟨point, rfl, hpoint⟩ := cuts_readFraction _ _ _ hfraction
  obtain ⟨letter, rfl, hletter⟩ := cuts_readExponent _ _ _ hpower
  refine ⟨digits ++ (point ++ letter), by simp, fun more hmore => ?_⟩
  -- each part goes before what is left of the others
  have hread₁ := hdigits (point ++ (letter ++ more)) ((hmore.append letter).append point)
  have hread₂ := hpoint (letter ++ more) (hmore.append letter)
  have hread₃ := hletter more hmore
  rw [List.append_assoc, List.append_assoc]
  exact readNumber_ok_iff.2 ⟨ds, _, fraction, _, power, hread₁, hread₂, hread₃, rfl⟩

/-! ## Strings and scalars -/

theorem readHex4_digits {x y z w : CodePoint} {n : Nat} (h : Lenient.hex4? x y z w = some n) (t : Text) :
    readHex4 (x :: y :: z :: w :: t) = .ok (n, w :: t, t) := by
  simp only [Lenient.hex4?, Option.bind_eq_bind, Option.bind_eq_some_iff, Option.pure_def, Option.some.injEq] at h
  obtain ⟨a, ha, b, hb, c, hc, d, hd, rfl⟩ := h
  have hsize : ¬ Utf8.size (x :: y :: z :: w :: t) < 4 := by
    simp only [Utf8.size, List.map_cons, List.foldr_cons, sizeOne_of_hexValue? ha, sizeOne_of_hexValue? hb,
      sizeOne_of_hexValue? hc, sizeOne_of_hexValue? hd]
    omega
  have hdigits : [x, y, z, w].findIdx? (·.hexValue?.isNone) = none := by
    simp [List.findIdx?_eq_none_iff, ha, hb, hc, hd]
  simp [readHex4, hsize, hdigits, ha, hb, hc, hd]

theorem cuts_readUnicodeEscape {t : Text} {d : CodePoint} {rest : Text} (h : readUnicodeEscape t = .ok (d, rest)) :
    ∃ piece, t = piece ++ rest ∧ ∀ more, readUnicodeEscape (piece ++ more) = .ok (d, more) := by
  rcases readUnicodeEscape_ok h with ⟨x, y, z, w, n, rfl, hn, hlow, hhigh, rfl⟩ |
    ⟨x, y, z, w, x', y', z', w', n, low, rfl, hn, hhigh, hm, hlow, rfl⟩
  · refine ⟨[x, y, z, w], rfl, fun more => ?_⟩
    simp [readUnicodeEscape, readHex4_digits hn, hlow, hhigh, bind, Except.bind]
  · refine ⟨[x, y, z, w, CodePoint.ofChar '\\', CodePoint.ofChar 'u', x', y', z', w'], rfl, fun more => ?_⟩
    have hnotLow : Lenient.isLow n = false := by
      simp only [Lenient.isLow, Lenient.isHigh, Bool.and_eq_true, decide_eq_true_eq, Bool.and_eq_false_iff,
        decide_eq_false_iff_not] at hhigh ⊢
      omega
    simp [readUnicodeEscape, readHex4_digits hn, readHex4_digits hm, hnotLow, hhigh, hlow, bind, Except.bind]

/-- **A string is a piece of the text**, and whatever comes after its closing quote does not matter. -/
theorem content_cuts {t s rest : Text} (h : Content t s rest) :
    ∃ piece, t = piece ++ rest ∧ ∀ more, Content (piece ++ more) s more := by
  induction h with
  | close rest => exact ⟨[CodePoint.ofChar '"'], rfl, fun more => .close more⟩
  | @plain c _ _ _ hquote hslash hcontrol _ ih =>
      obtain ⟨piece, rfl, hmore⟩ := ih
      exact ⟨c :: piece, rfl, fun more => .plain hquote hslash hcontrol (hmore more)⟩
  | @letter e _ _ _ _ he _ ih =>
      obtain ⟨piece, rfl, hmore⟩ := ih
      exact ⟨CodePoint.ofChar '\\' :: e :: piece, rfl, fun more => .letter he (hmore more)⟩
  | escape hd _ ih =>
      obtain ⟨piece, rfl, hmore⟩ := ih
      obtain ⟨digits, rfl, hdigits⟩ := cuts_readUnicodeEscape hd
      refine ⟨CodePoint.ofChar '\\' :: CodePoint.ofChar 'u' :: (digits ++ piece), by simp, fun more => ?_⟩
      simp only [List.cons_append, List.append_assoc]
      exact .escape (hdigits _) (hmore more)

theorem cuts_scalar : Cuts Scalar := by
  intro t v rest h
  cases h with
  | str h =>
      obtain ⟨piece, rfl, hmore⟩ := content_cuts h
      exact ⟨CodePoint.ofChar '"' :: piece, rfl, fun more _ => .str (hmore more)⟩
  | @word w _ hword rest => exact ⟨w, rfl, fun more _ => .word hword more⟩
  | numeral h =>
      obtain ⟨piece, hpiece, hmore⟩ := cuts_readNumber false _ _ _ h
      exact ⟨piece, hpiece, fun more hm => .numeral (hmore more hm)⟩
  | negative h =>
      obtain ⟨piece, rfl, hmore⟩ := cuts_readNumber true _ _ _ h
      exact ⟨CodePoint.ofChar '-' :: piece, rfl, fun more hm => .negative (hmore more hm)⟩

end Strict

end WebhookBridge.Json
