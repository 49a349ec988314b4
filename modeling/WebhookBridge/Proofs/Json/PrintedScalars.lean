import WebhookBridge.Proofs.Json.Scalars
import WebhookBridge.Proofs.Number.Digits
import WebhookBridge.Proofs.Number.Shortest

/-!
# Printed scalars read back

What is printed of a string, an integer or a floating-point number is one scalar, and it is the same one: escapes stand for
the code points that they were made of, digits for their number, and the shortest digits of a floating-point number for that
number, with a point or an exponent that tells it from an integer.

## Contents

* `Lenient.content_escaped`, `Lenient.scalar_printString`: strings;
* `Lenient.scalar_of_printInt`: integers;
* `Lenient.Writes`, `Lenient.writes_write`, `Lenient.scalar_text`: floating-point numbers.
-/

namespace WebhookBridge.Json.Lenient

/-! ## Strings -/

theorem hexValue?_ofHexDigit (d : Nat) : (CodePoint.ofHexDigit d).hexValue? = some (d % 16) := by
  have hall : ∀ k < 16, (CodePoint.ofHexDigit k).hexValue? = some k := by decide
  have hmod : CodePoint.ofHexDigit d = CodePoint.ofHexDigit (d % 16) := by simp [CodePoint.ofHexDigit]
  rw [hmod]
  exact hall (d % 16) (Nat.mod_lt d (by decide))

/-- Four hexadecimal digits stand for the unit that they were made of. -/
theorem hex4?_hex {n : Nat} (h : n < 0x10000) : ∃ x y z w, Text.hex 4 n = [x, y, z, w] ∧ hex4? x y z w = some n := by
  refine ⟨CodePoint.ofHexDigit (n / 16 / 16 / 16), CodePoint.ofHexDigit (n / 16 / 16), CodePoint.ofHexDigit (n / 16),
    CodePoint.ofHexDigit n, rfl, ?_⟩
  simp only [hex4?, hexValue?_ofHexDigit, Option.bind_eq_bind, Option.bind_some, Option.pure_def, Option.some.injEq]
  omega

theorem ofNat_val (c : CodePoint) : CodePoint.ofNat c.val = c := Fin.ext (Nat.mod_eq_of_lt c.isLt)

/-- The ways in which a code point is written: with a letter after a backslash, as itself, as one unit, or as two. -/
inductive Written (c : CodePoint) : Text → Prop
  | letter (e : CodePoint) (he : unescape? e = some c) : Written c [CodePoint.ofChar '\\', e]
  | plain (hquote : c ≠ CodePoint.ofChar '"') (hslash : c ≠ CodePoint.ofChar '\\') (hcontrol : ¬ c.val ≤ 0x1F) : Written c [c]
  | unit (hlt : c.val < 0x10000) : Written c (unitEscape c.val)
  | pair (hge : 0x10000 ≤ c.val) :
      Written c (unitEscape (0xD800 + (c.val - 0x10000) / 0x400) ++ unitEscape (0xDC00 + (c.val - 0x10000) % 0x400))

theorem written_escaped (c : CodePoint) : Written c (escaped c) := by
  unfold escaped
  split
  · rename_i hc
    exact .letter (CodePoint.ofChar '"') (by rw [hc]; decide)
  · rename_i hquote
    split
    · rename_i hc
      exact .letter (CodePoint.ofChar '\\') (by rw [hc]; decide)
    · rename_i hslash
      -- the other letters, then what stands for itself, then units
      repeat' split
      · rename_i hc
        exact .letter (CodePoint.ofChar 'n') (by rw [hc]; decide)
      · rename_i hc
        exact .letter (CodePoint.ofChar 'r') (by rw [hc]; decide)
      · rename_i hc
        exact .letter (CodePoint.ofChar 't') (by rw [hc]; decide)
      · rename_i hc
        obtain rfl : c = CodePoint.ofNat 0x08 := Fin.ext hc
        exact .letter (CodePoint.ofChar 'b') (by decide)
      · rename_i hc
        obtain rfl : c = CodePoint.ofNat 0x0C := Fin.ext hc
        exact .letter (CodePoint.ofChar 'f') (by decide)
      · rename_i hplain
        exact .plain hquote hslash (by omega)
      · rename_i hlt
        exact .unit hlt
      · rename_i hge
        exact .pair (Nat.not_lt.1 hge)

/-- **An escaped code point** stands for itself in the content of a string. -/
theorem content_escaped {c : CodePoint} (hc : c.isSurrogate = false) {t s rest : Text} (h : Content t s rest) :
    Content (escaped c ++ t) (c :: s) rest := by
  simp only [CodePoint.isSurrogate, Bool.and_eq_false_iff, decide_eq_false_iff_not] at hc
  have hlt := c.isLt
  have hwritten := written_escaped c
  generalize escaped c = written at hwritten ⊢
  cases hwritten with
  | letter e he => exact .letter he h
  | plain hquote hslash hcontrol => exact .plain hquote hslash hcontrol h
  | unit hunit =>
      obtain ⟨x, y, z, w, hhex, hn⟩ := hex4?_hex hunit
      have hhigh : isHigh c.val = false := by
        simp only [isHigh, Bool.and_eq_false_iff, decide_eq_false_iff_not]
        omega
      have hcontent := Content.unit hn (by simp [hhigh]) h
      rw [ofNat_val] at hcontent
      rw [unitEscape, hhex]
      exact hcontent
  | pair hpair =>
      obtain ⟨x, y, z, w, hhex, hn⟩ := hex4?_hex (n := 0xD800 + (c.val - 0x10000) / 0x400) (by omega)
      obtain ⟨x', y', z', w', hhex', hm⟩ := hex4?_hex (n := 0xDC00 + (c.val - 0x10000) % 0x400) (by omega)
      have hhigh : isHigh (0xD800 + (c.val - 0x10000) / 0x400) = true := by
        simp only [isHigh, Bool.and_eq_true, decide_eq_true_eq]
        omega
      have hlow : isLow (0xDC00 + (c.val - 0x10000) % 0x400) = true := by
        simp only [isLow, Bool.and_eq_true, decide_eq_true_eq]
        omega
      have hjoin : joinPair (0xD800 + (c.val - 0x10000) / 0x400) (0xDC00 + (c.val - 0x10000) % 0x400) = c := by
        have hval : 0x10000 + (0xD800 + (c.val - 0x10000) / 0x400 - 0xD800) * 0x400 +
            (0xDC00 + (c.val - 0x10000) % 0x400 - 0xDC00) = c.val := by omega
        rw [joinPair, hval, ofNat_val]
      have hcontent := Content.pair hn hhigh hm hlow h
      rw [hjoin] at hcontent
      rw [unitEscape, unitEscape, hhex, hhex']
      exact hcontent

theorem content_flatMap_escaped {s : Text} (hs : s.hasSurrogate = false) :
    Content (s.flatMap escaped ++ [CodePoint.ofChar '"']) s [] := by
  induction s with
  | nil => exact .close []
  | cons c s ih =>
      rw [Text.hasSurrogate_cons, Bool.or_eq_false_iff] at hs
      rw [List.flatMap_cons, List.append_assoc]
      exact content_escaped hs.1 (ih hs.2)

/-- **A printed string** is that string. -/
theorem scalar_printString {s : Text} (hs : s.hasSurrogate = false) : Scalar (printString s) (.str s) [] :=
  .str (content_flatMap_escaped hs)

/-! ## Integers -/

/-- Digits that begin with no zero are the digits before a point. -/
theorem wholeDigits_map {d : Nat} {ds : List Nat} (hd : d ≠ 0) (h : ∀ e ∈ d :: ds, e < 10) {rest : Text}
    (hrest : ∀ c, rest.head? = some c → c.isAsciiDigit = false) :
    wholeDigits ((d :: ds).map CodePoint.ofDigit ++ rest) = (d :: ds, rest) := by
  have hzero : CodePoint.ofDigit d ≠ CodePoint.ofChar '0' := by
    have hall : ∀ k < 10, k ≠ 0 → CodePoint.ofDigit k ≠ CodePoint.ofChar '0' := by decide
    exact hall d (h d (List.mem_cons_self ..)) hd
  have hspan := Numeral.spanDigits_map h hrest
  rw [List.map_cons, List.cons_append] at hspan ⊢
  rw [wholeDigits, if_neg hzero, hspan]

theorem wholeDigits_ofNat (n : Nat) : wholeDigits (Text.ofNat n) = (Text.digitsOf n, []) := by
  by_cases hn : n = 0
  · rw [hn, Text.ofNat_eq, Text.digitsOf_of_lt (by decide)]
    rfl
  · obtain ⟨d, ds, hds, hd⟩ := Text.head_digitsOf hn
    have hlt := Text.digitsOf_lt n
    rw [hds] at hlt
    have hwhole := wholeDigits_map hd hlt Text.isAsciiDigit_head_nil
    rwa [List.append_nil, ← hds, ← Text.ofNat_eq] at hwhole

/-- The text of a natural number is a numeral without point and exponent. -/
theorem scan_ofNat (n : Nat) : scanNumeral (Text.ofNat n) = ⟨Text.digitsOf n, none, none, []⟩ := by
  rw [scanNumeral, wholeDigits_ofNat]
  rfl

/-- An integer of few enough digits. -/
theorem scalar_ofInt {n : Int} {m : Nat} (hm : m ≠ 0) (hle : m ≤ Whole.maxDigits) (hn : n.natAbs < Nat.pow 10 m) :
    Scalar (Text.ofInt n) (.int n) [] := by
  have hscan : ∀ k negative, k < 10 ^ m →
      (scanNumeral (Text.ofNat k)).whole ≠ [] ∧ (scanNumeral (Text.ofNat k)).whole.length ≤ Whole.maxDigits ∧
        (scanNumeral (Text.ofNat k)).value negative = .int (withSign negative k) ∧ (scanNumeral (Text.ofNat k)).rest = [] := by
    intro k negative hk
    rw [scan_ofNat]
    refine ⟨Text.digitsOf_ne_nil k, Nat.le_trans (Text.length_digitsOf_le hm hk) hle, ?_, rfl⟩
    simp [ScannedNumeral.value, ScannedNumeral.isWhole, Text.ofDigits_digitsOf]
  cases n with
  | ofNat k =>
      obtain ⟨hwhole, hlen, hvalue, hrest⟩ := hscan k false hn
      have hscalar := Scalar.numeral hwhole fun _ => hlen
      rwa [hvalue, hrest] at hscalar
  | negSucc k =>
      obtain ⟨hwhole, hlen, hvalue, hrest⟩ := hscan (k + 1) true hn
      have hscalar := Scalar.negative hwhole fun _ => hlen
      rwa [hvalue, hrest] at hscalar

/-- **A printed integer** is that integer. -/
theorem scalar_of_printInt {n : Int} {t : Text} (h : printInt n = .ok t) : Scalar t (.int n) [] := by
  rw [printInt] at h
  by_cases hn : n.natAbs < Nat.pow 10 Whole.maxDigits
  · rw [if_pos hn] at h
    cases h
    exact scalar_ofInt (by decide) (Nat.le_refl _) hn
  · rw [if_neg hn] at h
    cases h

/-! ## Floating-point numbers -/

/-- Digits that may stand before a point: a zero by itself, or digits that begin with another one. -/
def LeadsWell (ds : List Nat) : Prop := ds = [0] ∨ ∃ d es, ds = d :: es ∧ d ≠ 0

theorem LeadsWell.append {ds : List Nat} (h : ∃ d es, ds = d :: es ∧ d ≠ 0) (more : List Nat) : LeadsWell (ds ++ more) := by
  obtain ⟨d, es, rfl, hd⟩ := h
  exact .inr ⟨d, es ++ more, rfl, hd⟩

theorem wholeDigits_of_leadsWell {ds : List Nat} (hds : LeadsWell ds) (h : ∀ d ∈ ds, d < 10) {rest : Text}
    (hrest : ∀ c, rest.head? = some c → c.isAsciiDigit = false) : wholeDigits (ds.map CodePoint.ofDigit ++ rest) = (ds, rest) := by
  rcases hds with rfl | ⟨d, es, rfl, hd⟩
  · rfl
  · exact wholeDigits_map hd h hrest

/-- Digits before a point, digits after it, and an exponent or nothing. -/
theorem scan_point {ds fs : List Nat} (hds : LeadsWell ds) (hlt : ∀ d ∈ ds, d < 10) (hfs : fs ≠ []) (hlt' : ∀ d ∈ fs, d < 10)
    {tail : Text} (htail : ∀ c, tail.head? = some c → c.isAsciiDigit = false) :
    scanNumeral (ds.map CodePoint.ofDigit ++ (CodePoint.ofChar '.' :: (fs.map CodePoint.ofDigit ++ tail))) =
      ⟨ds, some fs, (exponentPart? tail).map (·.1), ((exponentPart? tail).map (·.2)).getD tail⟩ := by
  have hpoint : ∀ c, (CodePoint.ofChar '.' :: (fs.map CodePoint.ofDigit ++ tail)).head? = some c → c.isAsciiDigit = false := by
    simp +decide
  have hwhole := wholeDigits_of_leadsWell hds hlt hpoint
  obtain ⟨f, fs, rfl⟩ := List.exists_cons_of_ne_nil hfs
  have hspan := Numeral.spanDigits_map hlt' htail
  simp only [scanNumeral, hwhole, fractionDigits?, if_true, hspan, Option.map_some, Option.getD_some]

/-- Digits and an exponent. -/
theorem scan_power {ds : List Nat} (hds : LeadsWell ds) (hlt : ∀ d ∈ ds, d < 10) {tail : Text}
    (htail : ∀ c, tail.head? = some c → c.isAsciiDigit = false ∧ c ≠ CodePoint.ofChar '.') :
    scanNumeral (ds.map CodePoint.ofDigit ++ tail) =
      ⟨ds, none, (exponentPart? tail).map (·.1), ((exponentPart? tail).map (·.2)).getD tail⟩ := by
  have hwhole := wholeDigits_of_leadsWell hds hlt fun c hc => (htail c hc).1
  have hfraction : fractionDigits? tail = none := by
    cases tail with
    | nil => rfl
    | cons c tail => rw [fractionDigits?, if_neg (htail c rfl).2]
  simp only [scanNumeral, hwhole, hfraction, Option.map_none, Option.getD_none]

theorem exponentText_eq (x : Int) : ∃ k s, Binary64.exponentText x = CodePoint.ofChar 'e' :: s ::
    (List.replicate k 0 ++ Text.digitsOf x.natAbs).map CodePoint.ofDigit ∧
    s = CodePoint.ofChar (if x < 0 then '-' else '+') := by
  refine ⟨2 - (Text.ofNat x.natAbs).length, _, ?_, rfl⟩
  have hzeros : ∀ k, List.replicate k (CodePoint.ofChar '0') = (List.replicate k 0).map CodePoint.ofDigit := by
    intro k
    rw [List.map_replicate]
    rfl
  rw [Binary64.exponentText, List.map_append, ← Text.ofNat_eq, ← hzeros]
  split <;> rfl

/-- The exponent of a text is read back. -/
theorem exponentPart?_exponentText (x : Int) : exponentPart? (Binary64.exponentText x) = some (x, []) := by
  obtain ⟨k, s, htext, hs⟩ := exponentText_eq x
  have hlt : ∀ d ∈ List.replicate k 0 ++ Text.digitsOf x.natAbs, d < 10 := by
    rw [List.forall_mem_append]
    exact ⟨Text.zeros_lt k, Text.digitsOf_lt _⟩
  have hspan := Numeral.spanDigits_map hlt Text.isAsciiDigit_head_nil
  have hdigits : Whole.ofDigits (List.replicate k 0 ++ Text.digitsOf x.natAbs) = x.natAbs := by
    rw [Whole.ofDigits_append, Whole.ofDigits_replicate_zero, Nat.zero_mul, Nat.zero_add, Text.ofDigits_digitsOf]
  have hne : List.replicate k 0 ++ Text.digitsOf x.natAbs ≠ [] := by simp [Text.digitsOf_ne_nil]
  have hsigned : ∀ t, signedDigits (s :: t) = (decide (x < 0), t) := by
    intro t
    rw [hs, signedDigits]
    split <;> simp +decide [*]
  rw [htext, exponentPart?_cons, if_pos (by decide), hsigned]
  rw [List.append_nil] at hspan
  obtain ⟨d, ds, hds⟩ := List.exists_cons_of_ne_nil hne
  rw [hds] at hspan hdigits ⊢
  have hvalue : withSign (decide (x < 0)) x.natAbs = x := by
    simp only [withSign, decide_eq_true_eq]
    split <;> omega
  simp only [hspan, hdigits, hvalue]

/-- A text writes a decimal: it is one numeral with a point or an exponent, of the number that the decimal is rounded to. -/
structure Writes (t : Text) (d : Decimal) : Prop where
  whole : (scanNumeral t).whole ≠ []
  isWhole : (scanNumeral t).isWhole = false
  value : ∀ negative, (scanNumeral t).value negative = .float (d.toBinary64 negative)
  rest : (scanNumeral t).rest = []

theorem writes_of_scan {t : Text} {ds : List Nat} {fs : Option (List Nat)} {power : Option Int} {d : Decimal}
    (hscan : scanNumeral t = ⟨ds, fs, power, []⟩) (hds : ds ≠ []) (hpoint : (fs.isNone && power.isNone) = false)
    (hvalue : ∀ negative, Binary64.ofDecimal negative (Whole.ofDigits (ds ++ fs.getD [])) (power.getD 0 - (fs.getD []).length) =
      d.toBinary64 negative) : Writes t d := by
  have hwhole : (scanNumeral t).isWhole = false := by rw [hscan]; exact hpoint
  refine ⟨by rwa [hscan], hwhole, fun negative => ?_, by rw [hscan]⟩
  rw [ScannedNumeral.value, if_neg (by simp [hwhole]), hscan]
  exact congrArg Json.float (hvalue negative)

theorem Writes.scalar {t : Text} {d : Decimal} (h : Writes t d) (negative : Bool) :
    Scalar (Binary64.signText negative ++ t) (.float (d.toBinary64 negative)) [] := by
  have hlen : (scanNumeral t).isWhole = true → (scanNumeral t).whole.length ≤ Whole.maxDigits := by
    rw [h.isWhole]
    exact fun hfalse => by cases hfalse
  cases negative with
  | false =>
      have hscalar := Scalar.numeral h.whole hlen
      rwa [h.value, h.rest] at hscalar
  | true =>
      have hscalar := Scalar.negative h.whole hlen
      rwa [h.value, h.rest] at hscalar

section Layouts

variable {d : Decimal}

/-- A whole number, with a point and a zero after it. -/
theorem writes_whole (hd : d.digits ≠ 0) (hx : 0 ≤ d.exponent) :
    Writes (Text.ofNat d.digits ++ List.replicate d.exponent.toNat (CodePoint.ofChar '0') ++ (".0" : Text)) d := by
  have htext : Text.ofNat d.digits ++ List.replicate d.exponent.toNat (CodePoint.ofChar '0') ++ (".0" : Text) =
      (Text.digitsOf d.digits ++ List.replicate d.exponent.toNat 0).map CodePoint.ofDigit ++
        (CodePoint.ofChar '.' :: ([0].map CodePoint.ofDigit ++ [])) := by
    rw [List.map_append, List.map_replicate, Text.ofNat_eq]
    rfl
  have hlt : ∀ e ∈ Text.digitsOf d.digits ++ List.replicate d.exponent.toNat 0, e < 10 := by
    rw [List.forall_mem_append]
    exact ⟨Text.digitsOf_lt _, Text.zeros_lt _⟩
  have hscan := scan_point (LeadsWell.append (Text.head_digitsOf hd) _) hlt (List.cons_ne_nil 0 []) (by simp)
    Text.isAsciiDigit_head_nil
  rw [← htext] at hscan
  refine writes_of_scan hscan (by simp [Text.digitsOf_ne_nil]) rfl fun negative => ?_
  have hdigits : Whole.ofDigits (Text.digitsOf d.digits ++ List.replicate d.exponent.toNat 0 ++ [0]) =
      d.digits * 10 ^ (d.exponent.toNat + 1) := by
    rw [List.append_assoc, ← List.replicate_succ', Whole.ofDigits_append, Whole.ofDigits_replicate_zero,
      Text.ofDigits_digitsOf, List.length_replicate, Nat.add_zero]
  have hpow : 10 ^ (d.exponent.toNat + 1) ≠ 0 := (Nat.pow_pos (by decide)).ne'
  rw [Option.getD_some, hdigits]
  refine Binary64.ofDecimal_congr negative (Nat.mul_ne_zero hd hpow) hd ?_
  have hneg : (-d.exponent).toNat = 0 := by omega
  show d.digits * 10 ^ (d.exponent.toNat + 1) * 10 ^ 0 * 10 ^ (-d.exponent).toNat = d.digits * 10 ^ d.exponent.toNat * 10 ^ 1
  rw [hneg, Nat.pow_succ]
  simp [Nat.mul_assoc]

/-- A point among the digits. -/
theorem writes_split (hd : d.digits ≠ 0) (hx : d.exponent < 0) {k : Nat} (hk : k ≠ 0)
    (hlen : (k : Int) = d.exponent + (Text.ofNat d.digits).length) :
    Writes ((Text.ofNat d.digits).take k ++ ("." : Text) ++ (Text.ofNat d.digits).drop k) d := by
  have hmap : (Text.ofNat d.digits).length = (Text.digitsOf d.digits).length := by rw [Text.ofNat_eq, List.length_map]
  have htext : (Text.ofNat d.digits).take k ++ ("." : Text) ++ (Text.ofNat d.digits).drop k =
      ((Text.digitsOf d.digits).take k).map CodePoint.ofDigit ++
        (CodePoint.ofChar '.' :: (((Text.digitsOf d.digits).drop k).map CodePoint.ofDigit ++ [])) := by
    rw [Text.ofNat_eq, List.map_take, List.map_drop, List.append_nil, List.append_assoc]
    rfl
  obtain ⟨e, es, hes, he⟩ := Text.head_digitsOf hd
  obtain ⟨k, rfl⟩ := Nat.exists_eq_succ_of_ne_zero hk
  have hleads : LeadsWell ((Text.digitsOf d.digits).take (k + 1)) := .inr ⟨e, es.take k, by rw [hes, List.take_succ_cons], he⟩
  have hdrop : ((Text.digitsOf d.digits).drop (k + 1)).length = (-d.exponent).toNat := by
    rw [List.length_drop]
    omega
  have hne : (Text.digitsOf d.digits).drop (k + 1) ≠ [] := by
    intro hnil
    rw [hnil, List.length_nil] at hdrop
    omega
  have hlt := Text.digitsOf_lt d.digits
  have hscan := scan_point hleads (fun f hf => hlt f (List.mem_of_mem_take hf)) hne (fun f hf => hlt f (List.mem_of_mem_drop hf))
    Text.isAsciiDigit_head_nil
  rw [← htext] at hscan
  refine writes_of_scan hscan (by simp [hes]) rfl fun negative => ?_
  have hexp : (0 : Int) - ((-d.exponent).toNat : Int) = d.exponent := by omega
  rw [Option.getD_some, List.take_append_drop, Text.ofDigits_digitsOf, hdrop]
  show Binary64.ofDecimal negative d.digits (0 - ((-d.exponent).toNat : Int)) = _
  rw [hexp]
  rfl

/-- Zeros between the point and the digits. -/
theorem writes_small {k : Nat} (hlen : (k : Int) + (Text.ofNat d.digits).length = -d.exponent) :
    Writes (("0." : Text) ++ List.replicate k (CodePoint.ofChar '0') ++ Text.ofNat d.digits) d := by
  have hmap : (Text.ofNat d.digits).length = (Text.digitsOf d.digits).length := by rw [Text.ofNat_eq, List.length_map]
  have htext : ("0." : Text) ++ List.replicate k (CodePoint.ofChar '0') ++ Text.ofNat d.digits =
      [0].map CodePoint.ofDigit ++
        (CodePoint.ofChar '.' :: ((List.replicate k 0 ++ Text.digitsOf d.digits).map CodePoint.ofDigit ++ [])) := by
    rw [List.map_append, List.map_replicate, Text.ofNat_eq, List.append_nil, List.append_assoc]
    rfl
  have hlt : ∀ e ∈ List.replicate k 0 ++ Text.digitsOf d.digits, e < 10 := by
    rw [List.forall_mem_append]
    exact ⟨Text.zeros_lt k, Text.digitsOf_lt _⟩
  have hscan := scan_point (.inl rfl) (by simp) (by simp [Text.digitsOf_ne_nil]) hlt Text.isAsciiDigit_head_nil
  rw [← htext] at hscan
  refine writes_of_scan hscan (List.cons_ne_nil _ _) rfl fun negative => ?_
  have hdigits : Whole.ofDigits ([0] ++ (List.replicate k 0 ++ Text.digitsOf d.digits)) = d.digits := by
    rw [← List.append_assoc, List.singleton_append, ← List.replicate_succ, Whole.ofDigits_append, Whole.ofDigits_replicate_zero,
      Nat.zero_mul, Nat.zero_add, Text.ofDigits_digitsOf]
  have hexp : (0 : Int) - ((k + (Text.digitsOf d.digits).length : Nat) : Int) = d.exponent := by omega
  rw [Option.getD_some, hdigits, List.length_append, List.length_replicate]
  show Binary64.ofDecimal negative d.digits (0 - ((k + (Text.digitsOf d.digits).length : Nat) : Int)) = _
  rw [hexp]
  rfl

/-- One digit before the point, and an exponent. -/
theorem writes_power (hd : d.digits ≠ 0) {x : Int} (hx : x = d.exponent + (Text.ofNat d.digits).length - 1) :
    Writes ((Text.ofNat d.digits).take 1 ++ (if (Text.ofNat d.digits).length = 1 then "" else "." : Text) ++
      (Text.ofNat d.digits).drop 1 ++ Binary64.exponentText x) d := by
  obtain ⟨e, es, hes, he⟩ := Text.head_digitsOf hd
  have hleads : LeadsWell [e] := .inr ⟨e, [], rfl, he⟩
  have hdigits : Whole.ofDigits ([e] ++ es) = d.digits := by rw [List.singleton_append, ← hes, Text.ofDigits_digitsOf]
  have hlt := Text.digitsOf_lt d.digits
  rw [hes, List.forall_mem_cons] at hlt
  have hnat : Text.ofNat d.digits = CodePoint.ofDigit e :: es.map CodePoint.ofDigit := by rw [Text.ofNat_eq, hes, List.map_cons]
  have htail : ∀ c, (Binary64.exponentText x).head? = some c → c.isAsciiDigit = false ∧ c ≠ CodePoint.ofChar '.' := by
    intro c hc
    obtain ⟨k, s, htext, -⟩ := exponentText_eq x
    rw [htext] at hc
    rw [← Option.some.inj hc]
    decide
  have hpower := exponentPart?_exponentText x
  rw [hnat, List.length_cons, List.length_map] at hx ⊢
  cases es with
  | nil =>
      have hscan := scan_power hleads (by simpa using hlt.1) htail
      rw [hpower] at hscan
      refine writes_of_scan hscan (List.cons_ne_nil e []) rfl fun negative => ?_
      have hexp : x - (0 : Nat) = d.exponent := by
        simp only [List.length_nil] at hx
        omega
      show Binary64.ofDecimal negative (Whole.ofDigits ([e] ++ [])) (x - (0 : Nat)) = _
      rw [hdigits, hexp]
      rfl
  | cons f fs =>
      have hscan := scan_point hleads (by simpa using hlt.1) (List.cons_ne_nil f fs) hlt.2 fun c hc => (htail c hc).1
      rw [hpower] at hscan
      have htext : (CodePoint.ofDigit e :: (f :: fs).map CodePoint.ofDigit).take 1 ++
          (if (f :: fs).length + 1 = 1 then "" else "." : Text) ++
          (CodePoint.ofDigit e :: (f :: fs).map CodePoint.ofDigit).drop 1 ++ Binary64.exponentText x =
          [e].map CodePoint.ofDigit ++
            (CodePoint.ofChar '.' :: ((f :: fs).map CodePoint.ofDigit ++ Binary64.exponentText x)) := by
        rw [if_neg (by simp)]
        simp only [List.append_assoc]
        rfl
      rw [htext]
      refine writes_of_scan hscan (List.cons_ne_nil e []) rfl fun negative => ?_
      have hexp : x - ((f :: fs).length : Nat) = d.exponent := by omega
      show Binary64.ofDecimal negative (Whole.ofDigits ([e] ++ (f :: fs))) (x - ((f :: fs).length : Nat)) = _
      rw [hdigits, hexp]
      rfl

/-- **The layout of the shortest text** writes the decimal. -/
theorem writes_write (hd : d.digits ≠ 0) : Writes (Binary64.shortestLayout.write d) d := by
  have hpos : (Text.ofNat d.digits).length ≠ 0 := by simp [Text.ofNat_eq, Text.digitsOf_ne_nil]
  rw [Binary64.Layout.write]
  split
  · split
    · rename_i hx
      exact writes_whole hd hx
    · rename_i hx
      split
      · exact writes_split hd (by omega) (Nat.succ_ne_zero _) (by omega)
      · exact writes_small (by omega)
  · exact writes_power hd rfl

end Layouts

/-- **The text of a floating-point number** is that number. -/
theorem scalar_text {x : Binary64} (hx : x.isFinite = true) (hstored : x.IsStored) : Scalar x.text (.float x) [] := by
  cases x with
  | nan => cases hx
  | infinite negative => cases hx
  | finite negative m e =>
      rw [Binary64.text]
      split
      · rename_i hm
        have hwrites : Writes ("0.0" : Text) ⟨0, 0⟩ := writes_of_scan rfl (List.cons_ne_nil 0 []) rfl fun negative => rfl
        -- the only stored zero is the one with the least exponent
        have hexp : e = Binary64.minExponent := by
          rcases hstored.2.2.2 with hexp | hlarge
          · exact hexp
          · rw [hm] at hlarge
            cases hlarge
        rw [hm, hexp]
        exact hwrites.scalar negative
      · rename_i hm
        obtain ⟨hdigits, hvalue⟩ := Binary64.toBinary64_shortest hm hstored
        have hscalar := (writes_write hdigits).scalar negative
        rwa [hvalue] at hscalar

end WebhookBridge.Json.Lenient
