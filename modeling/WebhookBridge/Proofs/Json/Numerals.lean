import WebhookBridge.Proofs.Json.Strings

/-!
# Numerals in JSON texts

A numeral is scanned in one go: digits before the point, digits after it, an exponent. Both readers make the same number
of what is scanned; the strict reader refuses some numerals that the lenient one takes, or of which it takes a part. What
comes after a numeral does not matter unless it goes on with it.

## Contents

* `Lenient.scanNumeral`, `Lenient.ScannedNumeral.value`, `Lenient.readUnsigned?_eq`: what is scanned, and the number of it;
* `Lenient.Stops`, `Lenient.scanNumeral_append`: what may come after a numeral;
* `Strict.readNumber_ok_iff`, `Strict.readNumber_ok`: the strict reader.
-/

namespace WebhookBridge.Json

namespace Lenient

/-! ## Scanning -/

/-- A scanned numeral: the digits before the point, those after it, the exponent, and what follows. -/
structure ScannedNumeral where
  whole : List Nat
  fraction : Option (List Nat)
  power : Option Int
  rest : Text

/-- The numeral at the front of a text, after its sign. -/
def scanNumeral (t : Text) : ScannedNumeral :=
  let (ds, rest) := wholeDigits t
  let fraction := fractionDigits? rest
  let rest := (fraction.map (·.2)).getD rest
  let power := exponentPart? rest
  ⟨ds, fraction.map (·.1), power.map (·.1), (power.map (·.2)).getD rest⟩

/-- Whether a numeral stands for an integer: it has no point and no exponent. -/
def ScannedNumeral.isWhole (n : ScannedNumeral) : Bool := n.fraction.isNone && n.power.isNone

/-- A natural number with a sign. -/
def withSign (negative : Bool) (n : Nat) : Int := if negative then -n else n

/-- The number that a numeral writes, with a sign. -/
def ScannedNumeral.value (negative : Bool) (n : ScannedNumeral) : Json :=
  if n.isWhole then .int (withSign negative (Whole.ofDigits n.whole))
  else
    let fs := n.fraction.getD []
    .float (Numeral.toBinary64 negative ⟨n.whole ++ fs, fs.length, n.power.getD 0⟩)

/-- **The lenient reader of numerals** scans one, of which an integer may not have too many digits. -/
theorem readUnsigned?_eq (negative : Bool) (t : Text) :
    readUnsigned? negative t =
      if (scanNumeral t).whole = [] then none
      else if (scanNumeral t).isWhole = true ∧ Whole.maxDigits < (scanNumeral t).whole.length then
        some (.error (.integerTooLong (scanNumeral t).whole.length))
      else some (.ok ((scanNumeral t).value negative, (scanNumeral t).rest)) := by
  unfold readUnsigned? scanNumeral
  match wholeDigits t with
  | ([], rest) => rfl
  | (d :: ds, rest) =>
      cases hfraction : fractionDigits? rest with
      | none =>
          cases hpower : exponentPart? rest with
          | none =>
              simp [hfraction, hpower, ScannedNumeral.isWhole, ScannedNumeral.value, withSign]
          | some power => simp [hfraction, hpower, ScannedNumeral.isWhole, ScannedNumeral.value]
      | some found =>
          cases hpower : exponentPart? found.2 with
          | none => simp [hfraction, hpower, ScannedNumeral.isWhole, ScannedNumeral.value]
          | some power => simp [hfraction, hpower, ScannedNumeral.isWhole, ScannedNumeral.value]

/-! ## What comes after -/

/-- A text with which no numeral goes on: it is empty, or begins with a blank or with what follows a value in an array or an
    object. -/
def Stops (t : Text) : Prop :=
  ∀ c, t.head? = some c → isBlank c = true ∨ c = CodePoint.ofChar ',' ∨ c = CodePoint.ofChar ']' ∨ c = CodePoint.ofChar '}'

/-- Whether a code point may go on with a numeral. -/
def goesOn (c : CodePoint) : Bool :=
  c.isAsciiDigit || c = CodePoint.ofChar '.' || c.toAsciiLower = CodePoint.ofChar 'e' || c = CodePoint.ofChar '-' ||
    c = CodePoint.ofChar '+'

theorem Stops.not_goesOn {c : CodePoint} {t : Text} (h : Stops (c :: t)) : goesOn c = false := by
  rcases h c rfl with hblank | rfl | rfl | rfl
  · simp only [isBlank, Bool.or_eq_true, decide_eq_true_eq] at hblank
    rcases hblank with ((hc | hc) | hc) | hc
    · obtain rfl : c = CodePoint.ofNat 0x20 := Fin.ext hc
      decide
    · obtain rfl : c = CodePoint.ofNat 0x09 := Fin.ext hc
      decide
    · obtain rfl : c = CodePoint.ofNat 0x0A := Fin.ext hc
      decide
    · obtain rfl : c = CodePoint.ofNat 0x0D := Fin.ext hc
      decide
  · decide
  · decide
  · decide

variable {t more : Text}

theorem spanDigits_append (h : Stops more) :
    Numeral.spanDigits (t ++ more) = ((Numeral.spanDigits t).1, (Numeral.spanDigits t).2 ++ more) := by
  induction t with
  | nil =>
      cases more with
      | nil => rfl
      | cons c more =>
          have hc := h.not_goesOn
          simp only [goesOn, Bool.or_eq_false_iff] at hc
          simp [Numeral.spanDigits, Numeral.asciiDigit?, hc.1.1.1.1]
  | cons c t ih =>
      simp only [List.cons_append, Numeral.spanDigits]
      cases Numeral.asciiDigit? c with
      | none => rfl
      | some d => simp only [ih]

theorem wholeDigits_append (h : Stops more) :
    wholeDigits (t ++ more) = ((wholeDigits t).1, (wholeDigits t).2 ++ more) := by
  cases t with
  | nil =>
      cases more with
      | nil => rfl
      | cons c more =>
          have hc := h.not_goesOn
          have hzero : c ≠ CodePoint.ofChar '0' := by
            rintro rfl
            revert hc
            decide
          have hspan := spanDigits_append (t := []) h
          simpa [wholeDigits, hzero, Numeral.spanDigits] using hspan
  | cons c t =>
      simp only [List.cons_append, wholeDigits]
      split
      · rfl
      · exact spanDigits_append (t := c :: t) h

theorem fractionDigits?_append (h : Stops more) :
    fractionDigits? (t ++ more) = (fractionDigits? t).map fun (ds, rest) => (ds, rest ++ more) := by
  cases t with
  | nil =>
      cases more with
      | nil => rfl
      | cons c more =>
          have hpoint : c ≠ CodePoint.ofChar '.' := by
            rintro rfl
            have hc := h.not_goesOn
            revert hc
            decide
          simp [fractionDigits?, hpoint]
  | cons c t =>
      simp only [List.cons_append, fractionDigits?]
      split
      · rw [spanDigits_append h]
        match Numeral.spanDigits t with
        | ([], rest) => rfl
        | (d :: ds, rest) => rfl
      · rfl

/-- The digits of an exponent, after an optional sign. -/
def signedDigits (t : Text) : Bool × Text :=
  match t with
  | s :: rest =>
    if s = CodePoint.ofChar '-' then (true, rest) else if s = CodePoint.ofChar '+' then (false, rest) else (false, t)
  | [] => (false, t)

theorem exponentPart?_cons (c : CodePoint) (t : Text) :
    exponentPart? (c :: t) =
      if c.toAsciiLower = CodePoint.ofChar 'e' then
        match Numeral.spanDigits (signedDigits t).2 with
        | ([], _) => none
        | (ds, rest) => some (withSign (signedDigits t).1 (Whole.ofDigits ds), rest)
      else none := rfl

theorem signedDigits_append (h : Stops more) :
    signedDigits (t ++ more) = ((signedDigits t).1, (signedDigits t).2 ++ more) := by
  cases t with
  | nil =>
      cases more with
      | nil => rfl
      | cons c more =>
          have hc := h.not_goesOn
          simp only [goesOn, Bool.or_eq_false_iff, decide_eq_false_iff_not] at hc
          simp [signedDigits, hc.1.2, hc.2]
  | cons c t =>
      simp only [List.cons_append, signedDigits]
      repeat' split
      all_goals rfl

theorem exponentPart?_append (h : Stops more) :
    exponentPart? (t ++ more) = (exponentPart? t).map fun (e, rest) => (e, rest ++ more) := by
  cases t with
  | nil =>
      cases more with
      | nil => rfl
      | cons c more =>
          have hc := h.not_goesOn
          simp only [goesOn, Bool.or_eq_false_iff, decide_eq_false_iff_not] at hc
          simp [exponentPart?, hc.1.1.2]
  | cons c t =>
      rw [List.cons_append, exponentPart?_cons, exponentPart?_cons, signedDigits_append h]
      split
      · dsimp only
        rw [spanDigits_append h]
        match Numeral.spanDigits (signedDigits t).2 with
        | ([], rest) => rfl
        | (d :: ds, rest) => rfl
      · rfl

/-- **What comes after a numeral** does not matter where the numeral cannot go on. -/
theorem scanNumeral_append (h : Stops more) :
    scanNumeral (t ++ more) = { scanNumeral t with rest := (scanNumeral t).rest ++ more } := by
  unfold scanNumeral
  rw [wholeDigits_append h]
  match wholeDigits t with
  | (ds, rest) =>
      dsimp only
      rw [fractionDigits?_append h]
      cases fractionDigits? rest with
      | none =>
          simp only [Option.map_none, Option.getD_none]
          rw [exponentPart?_append h]
          cases exponentPart? rest with
          | none => rfl
          | some power => rfl
      | some found =>
          simp only [Option.map_some, Option.getD_some]
          rw [exponentPart?_append h]
          cases exponentPart? found.2 with
          | none => rfl
          | some power => rfl

/-! ## What is left of the text -/

theorem length_spanDigits (t : Text) : (Numeral.spanDigits t).1.length + (Numeral.spanDigits t).2.length = t.length := by
  induction t with
  | nil => rfl
  | cons c t ih =>
      simp only [Numeral.spanDigits]
      cases Numeral.asciiDigit? c with
      | none => simp
      | some d =>
          simp only [List.length_cons]
          omega

theorem suffix_spanDigits (t : Text) : (Numeral.spanDigits t).2 <:+ t := by
  induction t with
  | nil => exact List.suffix_refl _
  | cons c t ih =>
      simp only [Numeral.spanDigits]
      cases Numeral.asciiDigit? c with
      | none => exact List.suffix_refl _
      | some d => exact ih.trans (List.suffix_cons c t)

theorem suffix_wholeDigits (t : Text) : (wholeDigits t).2 <:+ t := by
  cases t with
  | nil => exact List.suffix_refl _
  | cons c t =>
      simp only [wholeDigits]
      split
      · exact List.suffix_cons c t
      · exact suffix_spanDigits (c :: t)

theorem suffix_fractionDigits? {ds : List Nat} {rest : Text} (h : fractionDigits? t = some (ds, rest)) : rest <:+ t := by
  cases t with
  | nil => cases h
  | cons c t =>
      simp only [fractionDigits?] at h
      split at h
      · have hspan := suffix_spanDigits t
        split at h
        · cases h
        · rename_i found _
          rw [Option.some.inj h] at hspan
          exact hspan.trans (List.suffix_cons c t)
      · cases h

theorem suffix_exponentPart? {e : Int} {rest : Text} (h : exponentPart? t = some (e, rest)) : rest <:+ t := by
  cases t with
  | nil => cases h
  | cons c t =>
      have hsigned : (signedDigits t).2 <:+ t := by
        cases t with
        | nil => exact List.suffix_refl _
        | cons s t =>
            simp only [signedDigits]
            split
            · exact List.suffix_cons s t
            · split
              · exact List.suffix_cons s t
              · exact List.suffix_refl _
      rw [exponentPart?_cons] at h
      split at h
      · have hspan := suffix_spanDigits (signedDigits t).2
        split at h
        · cases h
        · rename_i ds rest' _ heq
          rw [heq] at hspan
          cases h
          exact (hspan.trans hsigned).trans (List.suffix_cons c t)
      · cases h

theorem suffix_scanNumeral (t : Text) : (scanNumeral t).rest <:+ (wholeDigits t).2 := by
  unfold scanNumeral
  match wholeDigits t with
  | (ds, rest) =>
      dsimp only
      have hfraction : ((fractionDigits? rest).map (·.2)).getD rest <:+ rest := by
        cases hf : fractionDigits? rest with
        | none => exact List.suffix_refl _
        | some found => exact suffix_fractionDigits? hf
      refine List.IsSuffix.trans ?_ hfraction
      cases hp : exponentPart? (((fractionDigits? rest).map (·.2)).getD rest) with
      | none => exact List.suffix_refl _
      | some found => exact suffix_exponentPart? hp

/-- A numeral takes up its digits. -/
theorem length_scanNumeral (h : (scanNumeral t).whole ≠ []) : (scanNumeral t).rest.length < t.length := by
  refine Nat.lt_of_le_of_lt (suffix_scanNumeral t).length_le ?_
  have hwhole : (scanNumeral t).whole = (wholeDigits t).1 := rfl
  rw [hwhole] at h
  cases t with
  | nil => exact absurd rfl h
  | cons c t =>
      simp only [wholeDigits] at h ⊢
      split
      · exact Nat.lt_succ_self _
      · rename_i hzero
        rw [if_neg hzero] at h
        have hlen := length_spanDigits (c :: t)
        have hpos := List.length_pos_iff.2 h
        omega

end Lenient

/-! ## The strict reader -/

namespace Strict

open Lenient (scanNumeral signedDigits withSign ScannedNumeral)

variable {t : Text}

theorem readDigits_ok {ds : List Nat} {rest : Text} (h : readDigits t = .ok (ds, rest)) :
    Numeral.spanDigits t = (ds, rest) ∧ ds ≠ [] := by
  unfold readDigits at h
  split at h
  · cases h
  · cases h
  · rename_i _ hne
    have hspan := Except.ok.inj h
    refine ⟨hspan, fun hnil => ?_⟩
    rw [hnil] at hspan
    exact hne rest hspan

/-- A zero by itself, where no digit comes after it. -/
theorem readWholeDigits_zero_iff {written : Nat} {ds : List Nat} {rest : Text} :
    readWholeDigits written (CodePoint.ofChar '0' :: t) = .ok (ds, rest) ↔
      (∀ d, t.head? = some d → d.isAsciiDigit = false) ∧ ds = [0] ∧ rest = t := by
  rw [readWholeDigits.eq_def]
  dsimp only
  rw [if_pos rfl]
  cases t with
  | nil =>
      constructor
      · intro h
        cases h
        exact ⟨by simp, rfl, rfl⟩
      · rintro ⟨-, rfl, rfl⟩
        rfl
  | cons d t =>
      dsimp only
      split
      · rename_i hd
        simp [fail, hd]
      · rename_i hd
        constructor
        · intro h
          cases h
          exact ⟨by simpa using hd, rfl, rfl⟩
        · rintro ⟨-, rfl, rfl⟩
          rfl

/-- Digits that start with another one, if they are few enough. -/
theorem readWholeDigits_cons_iff {written : Nat} {c : CodePoint} (hc : c ≠ CodePoint.ofChar '0') {ds : List Nat} {rest : Text} :
    readWholeDigits written (c :: t) = .ok (ds, rest) ↔
      readDigits (c :: t) = .ok (ds, rest) ∧ written + ds.length ≤ Whole.maxDigits := by
  rw [readWholeDigits.eq_def]
  dsimp only
  rw [if_neg hc]
  constructor
  · intro h
    obtain ⟨⟨ds', rest'⟩, hdigits, h⟩ := bind_eq_ok.1 h
    dsimp only at h
    split at h
    · cases h
    · rename_i hlen
      cases h
      exact ⟨hdigits, Nat.not_lt.1 hlen⟩
  · rintro ⟨hdigits, hlen⟩
    simp [hdigits, Nat.not_lt.2 hlen, bind, Except.bind]

theorem readWholeDigits_ok {written : Nat} {ds : List Nat} {rest : Text} (h : readWholeDigits written t = .ok (ds, rest)) :
    Lenient.wholeDigits t = (ds, rest) ∧ ds ≠ [] ∧ (written ≤ 1 → ds.length ≤ Whole.maxDigits) := by
  cases t with
  | nil => cases h
  | cons c t =>
      by_cases hzero : c = CodePoint.ofChar '0'
      · rw [hzero] at h ⊢
        obtain ⟨-, rfl, rfl⟩ := readWholeDigits_zero_iff.1 h
        have hone : 1 ≤ Whole.maxDigits := by decide
        exact ⟨rfl, List.cons_ne_nil _ _, fun _ => hone⟩
      · obtain ⟨hdigits, hlen⟩ := (readWholeDigits_cons_iff hzero).1 h
        obtain ⟨hspan, hne⟩ := readDigits_ok hdigits
        rw [Lenient.wholeDigits, if_neg hzero]
        exact ⟨hspan, hne, fun _ => by omega⟩

theorem readFraction_ok {fraction : Option (List Nat)} {rest : Text} (h : readFraction t = .ok (fraction, rest)) :
    (Lenient.fractionDigits? t).map (·.1) = fraction ∧ ((Lenient.fractionDigits? t).map (·.2)).getD t = rest := by
  unfold readFraction at h
  split at h
  · rename_i c more
    unfold Lenient.fractionDigits?
    split at h
    · rename_i hpoint
      obtain ⟨⟨ds, rest'⟩, hdigits, he⟩ := map_eq_ok_iff.1 h
      obtain ⟨hspan, hne⟩ := readDigits_ok hdigits
      obtain ⟨d, ds, rfl⟩ := List.exists_cons_of_ne_nil hne
      cases he
      simp [hpoint, hspan]
    · rename_i hpoint
      cases h
      simp [hpoint]
  · cases h
    exact ⟨rfl, rfl⟩

theorem readExponent_cons (c : CodePoint) (t : Text) : readExponent (c :: t) =
    if c.toAsciiLower = CodePoint.ofChar 'e' then (readDigits (Lenient.signedDigits t).2).map fun (ds, rest) =>
      (some (Lenient.withSign (Lenient.signedDigits t).1 (Whole.ofDigits ds)), rest)
    else .ok (none, c :: t) := rfl

theorem readExponent_ok {power : Option Int} {rest : Text} (h : readExponent t = .ok (power, rest)) :
    (Lenient.exponentPart? t).map (·.1) = power ∧ ((Lenient.exponentPart? t).map (·.2)).getD t = rest := by
  cases t with
  | nil =>
      cases h
      exact ⟨rfl, rfl⟩
  | cons c t =>
      rw [readExponent_cons] at h
      rw [Lenient.exponentPart?_cons]
      split at h
      · rename_i he
        obtain ⟨⟨ds, rest'⟩, hdigits, heq⟩ := map_eq_ok_iff.1 h
        obtain ⟨hspan, hne⟩ := readDigits_ok hdigits
        obtain ⟨d, ds, rfl⟩ := List.exists_cons_of_ne_nil hne
        cases heq
        simp [he, hspan]
      · rename_i he
        cases h
        simp [he]

/-- What is read as a numeral: its digits, its fraction and its exponent, one after the other. -/
theorem readNumber_ok_iff {negative : Bool} {t : Text} {v : Json} {rest : Text} :
    readNumber negative t = .ok (v, rest) ↔ ∃ ds rest₁ fraction rest₂ power,
      readWholeDigits (if negative then 1 else 0) t = .ok (ds, rest₁) ∧ readFraction rest₁ = .ok (fraction, rest₂) ∧
      readExponent rest₂ = .ok (power, rest) ∧ v = (⟨ds, fraction, power, rest⟩ : Lenient.ScannedNumeral).value negative := by
  constructor
  · intro h
    obtain ⟨⟨ds, rest₁⟩, hwhole, hvalue⟩ := bind_eq_ok.1 h
    obtain ⟨⟨fraction, rest₂⟩, hfraction, hvalue'⟩ := bind_eq_ok.1 hvalue
    obtain ⟨⟨power, rest₃⟩, hpower, hv⟩ := bind_eq_ok.1 hvalue'
    clear h hvalue hvalue'
    cases fraction with
    | none => cases power <;> cases hv <;> exact ⟨_, _, _, _, _, hwhole, hfraction, hpower, rfl⟩
    | some fs => cases hv; exact ⟨_, _, _, _, _, hwhole, hfraction, hpower, rfl⟩
  · rintro ⟨ds, rest₁, fraction, rest₂, power, hwhole, hfraction, hpower, rfl⟩
    refine bind_eq_ok.2 ⟨_, hwhole, bind_eq_ok.2 ⟨_, hfraction, bind_eq_ok.2 ⟨_, hpower, ?_⟩⟩⟩
    cases fraction with
    | none => cases power <;> rfl
    | some fs => rfl

/-- **The strict reader of numerals** finds what is scanned, and its integers have few enough digits. -/
theorem readNumber_ok {negative : Bool} {v : Json} {rest : Text} (h : readNumber negative t = .ok (v, rest)) :
    (scanNumeral t).whole ≠ [] ∧ (scanNumeral t).whole.length ≤ Whole.maxDigits ∧
      v = (scanNumeral t).value negative ∧ rest = (scanNumeral t).rest := by
  obtain ⟨ds, rest₁, fraction, rest₂, power, hwhole, hfraction, hpower, rfl⟩ := readNumber_ok_iff.1 h
  obtain ⟨hwhole, hne, hlen⟩ := readWholeDigits_ok hwhole
  obtain ⟨hfraction, hrest₂⟩ := readFraction_ok hfraction
  obtain ⟨hpower, hrest₃⟩ := readExponent_ok hpower
  have hscan : scanNumeral t = ⟨ds, fraction, power, rest⟩ := by
    simp only [scanNumeral, hwhole, hfraction, hrest₂, hpower, hrest₃]
  rw [hscan]
  exact ⟨hne, hlen (by split <;> omega), rfl, rfl⟩

end Strict

end WebhookBridge.Json
