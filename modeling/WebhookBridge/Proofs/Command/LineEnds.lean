import WebhookBridge.Command.Single
import WebhookBridge.Proofs.Json.Following
import WebhookBridge.Proofs.Number.Digits
import WebhookBridge.Proofs.Relay.Bodies

/-!
# Ends of lines

The strict reader takes line feeds and carriage returns for blanks and nowhere else. So it reads texts alike that differ in
nothing but the ends of their lines, such as a text and the same text with every end of a line written as a line feed.

## Contents

* `Text.Alike`: texts that differ in the ends of their lines; `alike_withLineFeeds`;
* `Text.Respects`: what stands at the front of both of two such texts;
* `Json.Strict.respects_content`, `respects_readNumber`, `respects_atFront`: strings, numerals and values;
* `decodeBatch_withLineFeeds`: batches.
-/

namespace WebhookBridge

namespace Text

/-! ## Texts -/

/-- A line feed or a carriage return. -/
def IsBreak (c : CodePoint) : Prop := c = CodePoint.ofChar '\r' ∨ c = CodePoint.ofChar '\n'

instance (c : CodePoint) : Decidable (IsBreak c) := inferInstanceAs (Decidable (_ ∨ _))

/-- **Texts that differ in the ends of their lines**: where some stand in one text, some stand in the other. -/
inductive Alike : Text → Text → Prop
  | nil : Alike [] []
  | same {c : CodePoint} {t t' : Text} (hc : ¬ IsBreak c) (h : Alike t t') : Alike (c :: t) (c :: t')
  | breaks {b b' t t' : Text} (hne : b ≠ []) (hne' : b' ≠ []) (hb : ∀ c ∈ b, IsBreak c) (hb' : ∀ c ∈ b', IsBreak c)
      (h : Alike t t') : Alike (b ++ t) (b' ++ t')

namespace Alike

variable {t t' : Text}

theorem symm (h : Alike t t') : Alike t' t := by
  induction h with
  | nil => exact .nil
  | same hc _ ih => exact .same hc ih
  | breaks hne hne' hb hb' _ ih => exact .breaks hne' hne hb' hb ih

/-- A single end of a line on both sides. -/
theorem break_cons {c c' : CodePoint} (hc : IsBreak c) (hc' : IsBreak c') (h : Alike t t') : Alike (c :: t) (c' :: t') :=
  .breaks (List.cons_ne_nil c []) (List.cons_ne_nil c' []) (List.forall_mem_singleton.2 hc) (List.forall_mem_singleton.2 hc') h

/-- What is no end of a line stands at the front of both texts or of none. -/
theorem cons {c : CodePoint} (h : Alike (c :: t) t') (hc : ¬ IsBreak c) : ∃ r', t' = c :: r' ∧ Alike t r' := by
  generalize hs : c :: t = s at h
  cases h with
  | nil => cases hs
  | same _ h =>
      cases hs
      exact ⟨_, rfl, h⟩
  | @breaks b _ _ _ hne _ hb _ _ =>
      obtain ⟨d, b, rfl⟩ := List.exists_cons_of_ne_nil hne
      cases hs
      exact absurd (hb _ (List.mem_cons_self ..)) hc

theorem of_nil (h : Alike [] t') : t' = [] := by
  generalize hs : ([] : Text) = s at h
  cases h with
  | nil => rfl
  | same _ _ => cases hs
  | @breaks b _ _ _ hne _ _ _ _ =>
      obtain ⟨d, b, rfl⟩ := List.exists_cons_of_ne_nil hne
      cases hs

/-- Letters at the front of one text stand at the front of the other. -/
theorem append {w rest : Text} (hw : ∀ c ∈ w, ¬ IsBreak c) (h : Alike (w ++ rest) t') : ∃ rest', t' = w ++ rest' ∧ Alike rest rest' := by
  induction w generalizing t' with
  | nil => exact ⟨t', rfl, h⟩
  | cons c w ih =>
      obtain ⟨hc, hw⟩ := List.forall_mem_cons.1 hw
      obtain ⟨r', rfl, htail⟩ := h.cons hc
      obtain ⟨rest', rfl, hrest⟩ := ih hw htail
      exact ⟨rest', rfl, hrest⟩

/-- What holds of no end of a line and not of the first code point of one text does not hold of that of the other. -/
theorem head_false {p : CodePoint → Bool} (hp : ∀ c, IsBreak c → p c = false) (h : Alike t t')
    (ht : ∀ c, t.head? = some c → p c = false) : ∀ c, t'.head? = some c → p c = false := by
  intro c hc
  obtain ⟨r', rfl⟩ := List.head?_eq_some_iff.1 hc
  by_cases hbreak : IsBreak c
  · exact hp c hbreak
  · obtain ⟨r, rfl, -⟩ := h.symm.cons hbreak
    exact ht c rfl

theorem hasSurrogate (h : Alike t t') : t.hasSurrogate = t'.hasSurrogate := by
  have hbreaks : ∀ b : Text, (∀ c ∈ b, IsBreak c) → b.hasSurrogate = false := by
    intro b hb
    rw [Text.hasSurrogate, List.any_eq_false]
    intro c hc
    rcases hb c hc with rfl | rfl <;> decide
  induction h with
  | nil => rfl
  | same _ _ ih => rw [hasSurrogate_cons, hasSurrogate_cons, ih]
  | breaks _ _ hb hb' _ ih => rw [hasSurrogate_append, hasSurrogate_append, hbreaks _ hb, hbreaks _ hb', ih]

end Alike

/-- Every end of a line may be written as a line feed. -/
theorem alike_withLineFeeds (t : Text) : Alike t (withLineFeeds t) := by
  have hcr : IsBreak (CodePoint.ofChar '\r') := .inl rfl
  have hlf : IsBreak (CodePoint.ofChar '\n') := .inr rfl
  induction t using withLineFeeds.induct_unfolding with
  | case1 => exact .nil
  | case2 more ih =>
      -- the two together are one end of a line
      have hboth : ∀ c ∈ [CodePoint.ofChar '\r', CodePoint.ofChar '\n'], IsBreak c :=
        List.forall_mem_cons.2 ⟨hcr, List.forall_mem_singleton.2 hlf⟩
      exact .breaks (List.cons_ne_nil _ _) (List.cons_ne_nil _ []) hboth (List.forall_mem_singleton.2 hlf) ih
  | case3 d more _ ih => exact .break_cons hcr hlf ih
  | case4 => exact .break_cons hcr hlf .nil
  | case5 c rest hc ih =>
      by_cases hbreak : IsBreak c
      · exact .break_cons hbreak hbreak ih
      · exact .same hbreak ih

/-! ## What stands at the front -/

/-- What stands at the front of a text stands at the front of any text that differs in the ends of its lines, and so does what
    comes after it. -/
def Respects {α : Type} (item : Text → α → Text → Prop) : Prop :=
  ∀ ⦃t t' a rest⦄, Alike t t' → item t a rest → ∃ rest', item t' a rest' ∧ Alike rest rest'

end Text

open Text (Alike IsBreak Respects)

namespace Json

open Lenient (skipBlanks isBlank)

theorem isBlank_of_isBreak {c : CodePoint} (h : IsBreak c) : isBlank c = true := by
  rcases h with rfl | rfl <;> decide

theorem not_isBreak_of_hexValue? {c : CodePoint} {n : Nat} (h : c.hexValue? = some n) : ¬ IsBreak c := by
  rintro (rfl | rfl) <;> revert h <;> decide +revert

variable {t t' : Text}

theorem alike_skipBlanks (h : Alike t t') : Alike (skipBlanks t) (skipBlanks t') := by
  induction h with
  | nil => exact .nil
  | @same c t t' hc h ih =>
      cases hblank : isBlank c with
      | true =>
          rw [skipBlanks, skipBlanks, List.dropWhile_cons_of_pos hblank, List.dropWhile_cons_of_pos hblank]
          exact ih
      | false =>
          rw [Lenient.skipBlanks_cons hblank, Lenient.skipBlanks_cons hblank]
          exact .same hc h
  | breaks _ _ hb hb' _ ih =>
      rw [Lenient.skipBlanks_append fun c hc => isBlank_of_isBreak (hb c hc),
        Lenient.skipBlanks_append fun c hc => isBlank_of_isBreak (hb' c hc)]
      exact ih

theorem exists_skipBlanks_eq {c : CodePoint} {after : Text} (h : Alike t t') (hskip : skipBlanks t = c :: after)
    (hc : ¬ IsBreak c) : ∃ after', skipBlanks t' = c :: after' ∧ Alike after after' := by
  have halike := alike_skipBlanks h
  rw [hskip] at halike
  exact halike.cons hc

theorem skipBlanks_eq_nil (h : Alike t t') (hskip : skipBlanks t = []) : skipBlanks t' = [] := by
  have halike := alike_skipBlanks h
  rw [hskip] at halike
  exact halike.of_nil

namespace Strict

/-! ## Strings -/

theorem readHex4_cons {x y z w : CodePoint} {n : Nat} (h : Lenient.hex4? x y z w = some n) (rest : Text) :
    readHex4 (x :: y :: z :: w :: rest) = .ok (n, w :: rest, rest) := by
  simp only [Lenient.hex4?, Option.bind_eq_bind, Option.bind_eq_some_iff, Option.pure_def, Option.some.injEq] at h
  obtain ⟨a, ha, b, hb, c, hc, d, hd, rfl⟩ := h
  have hsize : ¬ Utf8.size (x :: y :: z :: w :: rest) < 4 := by
    simp only [Utf8.size, List.map_cons, List.foldr_cons, sizeOne_of_hexValue? ha, sizeOne_of_hexValue? hb,
      sizeOne_of_hexValue? hc, sizeOne_of_hexValue? hd]
    omega
  rw [readHex4, if_neg hsize]
  simp [List.findIdx?_cons, ha, hb, hc, hd]

theorem respects_readUnicodeEscape : Respects fun t d rest => readUnicodeEscape t = .ok (d, rest) := by
  have hexBreak : ∀ {x y z w : CodePoint} {n : Nat}, Lenient.hex4? x y z w = some n → ∀ c ∈ [x, y, z, w], ¬ IsBreak c := by
    intro x y z w n h
    simp only [Lenient.hex4?, Option.bind_eq_bind, Option.bind_eq_some_iff] at h
    obtain ⟨a, ha, b, hb, c, hc, d, hd, -⟩ := h
    simp [not_isBreak_of_hexValue? ha, not_isBreak_of_hexValue? hb, not_isBreak_of_hexValue? hc, not_isBreak_of_hexValue? hd]
  intro t t' d rest halike h
  rcases readUnicodeEscape_ok h with ⟨x, y, z, w, n, rfl, hn, hlow, hhigh, rfl⟩ |
    ⟨x, y, z, w, x', y', z', w', n, low, rfl, hn, hhigh, hm, hlow, rfl⟩
  · obtain ⟨rest', rfl, hrest⟩ := Alike.append (w := [x, y, z, w]) (hexBreak hn) halike
    refine ⟨rest', ?_, hrest⟩
    show readUnicodeEscape (x :: y :: z :: w :: rest') = _
    simp [readUnicodeEscape, readHex4_cons hn, hlow, hhigh, bind, Except.bind]
  · have hbreak : ∀ c ∈ [x, y, z, w, CodePoint.ofChar '\\', CodePoint.ofChar 'u', x', y', z', w'], ¬ IsBreak c := by
      have hslash : ∀ c ∈ [CodePoint.ofChar '\\', CodePoint.ofChar 'u'], ¬ IsBreak c :=
        List.forall_mem_cons.2 ⟨by decide, List.forall_mem_singleton.2 (by decide)⟩
      intro c hc
      rcases List.mem_append.1 (show c ∈ [x, y, z, w] ++ ([CodePoint.ofChar '\\', CodePoint.ofChar 'u'] ++ [x', y', z', w']) from hc)
        with hc | hc
      · exact hexBreak hn c hc
      · exact (List.mem_append.1 hc).elim (hslash c) (hexBreak hm c)
    obtain ⟨rest', rfl, hrest⟩ := Alike.append hbreak halike
    refine ⟨rest', ?_, hrest⟩
    have hnot : Lenient.isLow n = false := by
      simp only [Lenient.isHigh, Lenient.isLow, Bool.and_eq_true, Bool.and_eq_false_iff, decide_eq_true_eq,
        decide_eq_false_iff_not] at hhigh ⊢
      omega
    show readUnicodeEscape (x :: y :: z :: w :: CodePoint.ofChar '\\' :: CodePoint.ofChar 'u' :: x' :: y' :: z' :: w' :: rest') = _
    simp [readUnicodeEscape, readHex4_cons hn, readHex4_cons hm, hnot, hhigh, hlow, bind, Except.bind]

/-- **Strings** hold no end of a line. -/
theorem respects_content : Respects Content := by
  intro t t' s rest halike h
  induction h generalizing t' with
  | close rest =>
      obtain ⟨rest', rfl, hrest⟩ := halike.cons (by decide)
      exact ⟨rest', .close rest', hrest⟩
  | @plain c t s rest hquote hslash hcontrol _ ih =>
      have hbreak : ¬ IsBreak c := by
        rintro (rfl | rfl)
        · exact hcontrol (by decide)
        · exact hcontrol (by decide)
      obtain ⟨r', rfl, htail⟩ := halike.cons hbreak
      obtain ⟨rest', h, hrest⟩ := ih htail
      exact ⟨rest', .plain hquote hslash hcontrol h, hrest⟩
  | @letter e d t s rest he _ ih =>
      have hbreak : ¬ IsBreak e := by
        rintro (rfl | rfl) <;> revert he <;> simp +decide [Lenient.unescape?]
      obtain ⟨r', rfl, hafter⟩ := halike.cons (by decide)
      obtain ⟨r', rfl, htail⟩ := hafter.cons hbreak
      obtain ⟨rest', h, hrest⟩ := ih htail
      exact ⟨rest', .letter he h, hrest⟩
  | escape hd _ ih =>
      obtain ⟨r', rfl, hletter⟩ := halike.cons (by decide)
      obtain ⟨r', rfl, htail⟩ := hletter.cons (by decide)
      obtain ⟨after', hd', hafter⟩ := respects_readUnicodeEscape htail hd
      obtain ⟨rest', h, hrest⟩ := ih hafter
      exact ⟨rest', .escape hd' h, hrest⟩

/-! ## Numerals -/

theorem isAsciiDigit_of_isBreak {c : CodePoint} (h : IsBreak c) : c.isAsciiDigit = false := by
  rcases h with rfl | rfl <;> decide

theorem alike_spanDigits (h : Alike t t') :
    (Numeral.spanDigits t).1 = (Numeral.spanDigits t').1 ∧ Alike (Numeral.spanDigits t).2 (Numeral.spanDigits t').2 := by
  have hhead : ∀ {b : Text}, b ≠ [] → (∀ c ∈ b, IsBreak c) → ∀ (t : Text) c, (b ++ t).head? = some c → c.isAsciiDigit = false := by
    intro b hne hb t c hc
    obtain ⟨d, b, rfl⟩ := List.exists_cons_of_ne_nil hne
    rw [← Option.some.inj hc]
    exact isAsciiDigit_of_isBreak (hb d (List.mem_cons_self ..))
  induction h with
  | nil => exact ⟨rfl, .nil⟩
  | @same c t t' hc h ih =>
      simp only [Numeral.spanDigits]
      cases Numeral.asciiDigit? c with
      | none => exact ⟨rfl, .same hc h⟩
      | some d => exact ⟨congrArg (d :: ·) ih.1, ih.2⟩
  | breaks hne hne' hb hb' h _ =>
      rw [Numeral.spanDigits_of_head (hhead hne hb _), Numeral.spanDigits_of_head (hhead hne' hb' _)]
      exact ⟨rfl, .breaks hne hne' hb hb' h⟩

theorem respects_readDigits : Respects fun t ds rest => readDigits t = .ok (ds, rest) := by
  intro t t' ds rest halike h
  obtain ⟨hspan, hne⟩ := readDigits_ok h
  obtain ⟨hds, hrest⟩ := alike_spanDigits halike
  obtain ⟨ds', rest', hspan'⟩ : ∃ ds' rest', Numeral.spanDigits t' = (ds', rest') := ⟨_, _, rfl⟩
  rw [hspan, hspan'] at hds hrest
  dsimp only at hds hrest
  obtain ⟨d, ds, rfl⟩ := List.exists_cons_of_ne_nil hne
  refine ⟨rest', ?_, hrest⟩
  show readDigits t' = _
  unfold readDigits
  rw [hspan', ← hds]

theorem respects_readFraction : Respects fun t fraction rest => readFraction t = .ok (fraction, rest) := by
  intro t t' fraction rest halike h
  by_cases hpoint : t.head? = some (CodePoint.ofChar '.')
  · obtain ⟨t, rfl⟩ := List.head?_eq_some_iff.1 hpoint
    obtain ⟨t', rfl, htail⟩ := halike.cons (by decide)
    simp only [readFraction, if_true] at h ⊢
    obtain ⟨⟨ds, after⟩, hdigits, he⟩ := map_eq_ok_iff.1 h
    cases he
    obtain ⟨rest', hdigits', hrest⟩ := respects_readDigits htail hdigits
    exact ⟨rest', by rw [hdigits']; rfl, hrest⟩
  · -- no point stands at the front of the other text either
    have hnone : ∀ {t : Text}, t.head? ≠ some (CodePoint.ofChar '.') → readFraction t = .ok (none, t) := by
      intro t ht
      cases t with
      | nil => rfl
      | cons c t => rw [readFraction, if_neg (by simpa using ht)]
    have hpoint' : t'.head? ≠ some (CodePoint.ofChar '.') := by
      intro hpoint'
      obtain ⟨r', rfl⟩ := List.head?_eq_some_iff.1 hpoint'
      obtain ⟨r, rfl, -⟩ := halike.symm.cons (by decide)
      exact hpoint rfl
    rw [hnone hpoint] at h
    cases h
    exact ⟨t', hnone hpoint', halike⟩

theorem alike_signedDigits (h : Alike t t') :
    (Lenient.signedDigits t).1 = (Lenient.signedDigits t').1 ∧ Alike (Lenient.signedDigits t).2 (Lenient.signedDigits t').2 := by
  have hhead : ∀ {b : Text}, b ≠ [] → (∀ c ∈ b, IsBreak c) → ∀ t : Text, Lenient.signedDigits (b ++ t) = (false, b ++ t) := by
    intro b hne hb t
    obtain ⟨d, b, rfl⟩ := List.exists_cons_of_ne_nil hne
    rcases hb d (List.mem_cons_self ..) with rfl | rfl
    · rfl
    · rfl
  cases h with
  | nil => exact ⟨rfl, .nil⟩
  | @same c t t' hc h =>
      simp only [Lenient.signedDigits]
      split
      · exact ⟨rfl, h⟩
      · split
        · exact ⟨rfl, h⟩
        · exact ⟨rfl, .same hc h⟩
  | breaks hne hne' hb hb' h =>
      rw [hhead hne hb, hhead hne' hb']
      exact ⟨rfl, .breaks hne hne' hb hb' h⟩

theorem respects_readExponent : Respects fun t power rest => readExponent t = .ok (power, rest) := by
  intro t t' power rest halike h
  by_cases hletter : ∃ c, t.head? = some c ∧ c.toAsciiLower = CodePoint.ofChar 'e'
  · obtain ⟨c, hc, he⟩ := hletter
    obtain ⟨t, rfl⟩ := List.head?_eq_some_iff.1 hc
    have hbreak : ¬ IsBreak c := by
      rintro (rfl | rfl) <;> revert he <;> decide
    obtain ⟨t', rfl, htail⟩ := halike.cons hbreak
    obtain ⟨hsign, hdigits⟩ := alike_signedDigits htail
    rw [readExponent_cons, if_pos he] at h
    obtain ⟨⟨ds, after⟩, hread, heq⟩ := map_eq_ok_iff.1 h
    cases heq
    obtain ⟨rest', hread', hrest⟩ := respects_readDigits hdigits hread
    refine ⟨rest', ?_, hrest⟩
    show readExponent (c :: t') = _
    rw [readExponent_cons, if_pos he, hread', ← hsign]
    rfl
  · have hnone : ∀ {t : Text}, (¬ ∃ c, t.head? = some c ∧ c.toAsciiLower = CodePoint.ofChar 'e') →
        readExponent t = .ok (none, t) := by
      intro t ht
      cases t with
      | nil => rfl
      | cons c t => rw [readExponent_cons, if_neg fun he => ht ⟨c, rfl, he⟩]
    have hletter' : ¬ ∃ c, t'.head? = some c ∧ c.toAsciiLower = CodePoint.ofChar 'e' := by
      rintro ⟨c, hc, he⟩
      have hfalse := Alike.head_false (p := fun c => decide (c.toAsciiLower = CodePoint.ofChar 'e'))
        (fun c hc => by rcases hc with rfl | rfl <;> decide) halike
        (fun c hc => decide_eq_false fun he => hletter ⟨c, hc, he⟩) c hc
      exact of_decide_eq_false hfalse he
    rw [hnone hletter] at h
    cases h
    exact ⟨t', hnone hletter', halike⟩

theorem respects_readWholeDigits (written : Nat) : Respects fun t ds rest => readWholeDigits written t = .ok (ds, rest) := by
  intro t t' ds rest halike h
  have hdigits := readWholeDigits_ok h
  cases t with
  | nil => cases h
  | cons c t =>
      by_cases hzero : c = CodePoint.ofChar '0'
      · rw [hzero] at halike h
        obtain ⟨t', rfl, htail⟩ := halike.cons (by decide)
        -- no digit may come after the zero, in either text
        obtain ⟨hhead, rfl, rfl⟩ := readWholeDigits_zero_iff.1 h
        have hhead' := Alike.head_false (p := CodePoint.isAsciiDigit) (fun c hc => isAsciiDigit_of_isBreak hc) htail hhead
        exact ⟨t', readWholeDigits_zero_iff.2 ⟨hhead', rfl, rfl⟩, htail⟩
      · have hbreak : ¬ IsBreak c := by
          intro hbreak
          have hspan := hdigits.1
          rw [Lenient.wholeDigits, if_neg hzero, Numeral.spanDigits_of_head (by simpa using isAsciiDigit_of_isBreak hbreak)] at hspan
          cases hspan
          exact hdigits.2.1 rfl
        obtain ⟨t', rfl, htail⟩ := halike.cons hbreak
        obtain ⟨hread, hlen⟩ := (readWholeDigits_cons_iff hzero).1 h
        obtain ⟨rest', hread', hrest⟩ := respects_readDigits halike hread
        exact ⟨rest', (readWholeDigits_cons_iff hzero).2 ⟨hread', hlen⟩, hrest⟩

/-- **Numerals** hold no end of a line, and go on with none. -/
theorem respects_readNumber (negative : Bool) : Respects fun t v rest => readNumber negative t = .ok (v, rest) := by
  intro t t' v rest halike h
  obtain ⟨ds, rest₁, fraction, rest₂, power, hwhole, hfraction, hpower, rfl⟩ := readNumber_ok_iff.1 h
  obtain ⟨rest₁', hwhole', halike₁⟩ := respects_readWholeDigits _ halike hwhole
  obtain ⟨rest₂', hfraction', halike₂⟩ := respects_readFraction halike₁ hfraction
  obtain ⟨rest₃', hpower', halike₃⟩ := respects_readExponent halike₂ hpower
  exact ⟨rest₃', readNumber_ok_iff.2 ⟨ds, rest₁', fraction, rest₂', power, hwhole', hfraction', hpower', rfl⟩, halike₃⟩

/-! ## Values -/

theorem respects_scalar : Respects Scalar := by
  intro t t' v rest halike h
  cases h with
  | str h =>
      obtain ⟨r', rfl, htail⟩ := halike.cons (by decide)
      obtain ⟨rest', h, hrest⟩ := respects_content htail h
      exact ⟨rest', .str h, hrest⟩
  | word hword rest =>
      have hwords : ∀ w ∈ Lenient.words, (w.1.all fun c => !decide (IsBreak c)) = true := by decide
      have hletters := List.all_eq_true.1 (hwords _ hword)
      obtain ⟨rest', rfl, hrest⟩ := halike.append fun c hc => by simpa using hletters c hc
      exact ⟨rest', .word hword rest', hrest⟩
  | numeral h =>
      obtain ⟨rest', h, hrest⟩ := respects_readNumber false halike h
      exact ⟨rest', .numeral h, hrest⟩
  | negative h =>
      obtain ⟨r', rfl, htail⟩ := halike.cons (by decide)
      obtain ⟨rest', h, hrest⟩ := respects_readNumber true htail h
      exact ⟨rest', .negative h, hrest⟩

theorem respects_sequence {α : Type} {item : Text → α → Text → Prop} {close : CodePoint} (hclose : ¬ IsBreak close)
    (hitem : Respects item) : Respects (Sequence item close) := by
  intro t t' as rest halike h
  induction h generalizing t' with
  | last h hskip =>
      obtain ⟨rest', h, hrest⟩ := hitem halike h
      obtain ⟨after', hskip', hafter⟩ := exists_skipBlanks_eq hrest hskip hclose
      exact ⟨after', .last h hskip', hafter⟩
  | more h hskip _ ih =>
      obtain ⟨rest', h, hrest⟩ := hitem halike h
      obtain ⟨next', hskip', hnext⟩ := exists_skipBlanks_eq hrest hskip (by decide)
      obtain ⟨after', hmore, hafter⟩ := ih (alike_skipBlanks hnext)
      exact ⟨after', .more h hskip' hmore, hafter⟩

theorem respects_member {inner : Text → Json → Text → Prop} (hinner : Respects inner) : Respects (grammar.Member inner) := by
  intro t t' m rest halike h
  cases h with
  | intro hkey hcolon hvalue =>
      obtain ⟨r', rfl, htail⟩ := halike.cons (by decide)
      obtain ⟨after', hkey', hafter⟩ := respects_content htail hkey
      obtain ⟨next', hcolon', hnext⟩ := exists_skipBlanks_eq hafter hcolon (by decide)
      obtain ⟨rest', hvalue', hrest⟩ := hinner (alike_skipBlanks hnext) hvalue
      exact ⟨rest', .intro hkey' hcolon' hvalue', hrest⟩

/-- **Values** stand at the front of both texts. -/
theorem respects_atFront : ∀ levels, Respects (grammar.AtFront levels)
  | 0 => fun _ _ _ _ _ h => h.elim
  | levels + 1 => by
    have hinner := respects_atFront levels
    intro t t' v rest halike h
    cases h with
    | scalar h =>
        obtain ⟨rest', h, hrest⟩ := respects_scalar halike h
        exact ⟨rest', .scalar h, hrest⟩
    | emptyArray h =>
        obtain ⟨r', rfl, htail⟩ := halike.cons (by decide)
        obtain ⟨rest', h, hrest⟩ := exists_skipBlanks_eq htail h (by decide)
        exact ⟨rest', .emptyArray h, hrest⟩
    | array h =>
        obtain ⟨r', rfl, htail⟩ := halike.cons (by decide)
        obtain ⟨rest', h, hrest⟩ := respects_sequence (by decide) hinner (alike_skipBlanks htail) h
        exact ⟨rest', .array h, hrest⟩
    | emptyObject h =>
        obtain ⟨r', rfl, htail⟩ := halike.cons (by decide)
        obtain ⟨rest', h, hrest⟩ := exists_skipBlanks_eq htail h (by decide)
        exact ⟨rest', .emptyObject h, hrest⟩
    | object h =>
        obtain ⟨r', rfl, htail⟩ := halike.cons (by decide)
        obtain ⟨rest', h, hrest⟩ := respects_sequence (by decide) (respects_member hinner) (alike_skipBlanks htail) h
        exact ⟨rest', .object h, hrest⟩

/-- Texts that differ in the ends of their lines denote the same. -/
theorem read_of_alike (halike : Alike t t') {v : Json} (h : read t = .ok v) : read t' = .ok v := by
  obtain ⟨rest, hread, hrest⟩ := exists_readValue_of_read h
  obtain ⟨rest', hread', halike'⟩ := respects_atFront _ (alike_skipBlanks halike) (readValue_ok_iff.1 hread)
  simp [read, readValue_ok_iff.2 hread', skipBlanks_eq_nil halike' hrest, bind, Except.bind]

end Strict

end Json

/-! ## Batches -/

theorem decodeJson_of_alike {t t' : Text} (halike : Alike t t') {v : Json} (h : decodeJson t = .ok v) :
    decodeJson t' = .ok v := by
  rw [decodeJson_ok_iff] at h ⊢
  exact ⟨halike.hasSurrogate ▸ h.1, Json.Strict.read_of_alike halike h.2⟩

theorem decodeBatch_of_alike {t t' : Text} (halike : Alike t t') {requests : List RelayRequest}
    (h : decodeBatch t = .ok requests) : decodeBatch t' = .ok requests := by
  obtain ⟨v, hv, hrequests⟩ := Json.bind_eq_ok.1 h
  exact Json.bind_eq_ok.2 ⟨v, decodeJson_of_alike halike hv, hrequests⟩

/-- **A batch is decoded** the same with every end of a line written as a line feed. -/
theorem decodeBatch_withLineFeeds {t : Text} {requests : List RelayRequest} :
    decodeBatch (withLineFeeds t) = .ok requests ↔ decodeBatch t = .ok requests :=
  ⟨decodeBatch_of_alike (Text.alike_withLineFeeds t).symm, decodeBatch_of_alike (Text.alike_withLineFeeds t)⟩

end WebhookBridge
