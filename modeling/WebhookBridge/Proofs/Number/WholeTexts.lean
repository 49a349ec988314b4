import Mathlib.Data.Nat.Digits.Defs
import WebhookBridge.Proofs.Number.Digits
import WebhookBridge.Proofs.Text.Trimming

/-!
# The texts of whole numbers

A text is read as a whole number if it is one with white space around it: an optional sign, and decimal digits of any script with
single underscores between them, few enough of them. The digits stand for the number that has them as its digits to the base
ten, leading zeros or not.

## Contents

* `Whole.Digits`, `Whole.Natural`, `Whole.Signed`, `Whole.Written`: the grammar, and what a text of it stands for;
* `Whole.read?_eq_some_iff`: what is read is what is written;
* `Whole.AsciiDigits`, `Whole.written_of_ascii_iff`, `Whole.written_ofNat`: texts of ASCII digits only.
-/

namespace WebhookBridge

/-! ## Kinds of code points -/

namespace CodePoint

variable {c : CodePoint} {d : Nat}

/-- The digits of all scripts stand apart from white space. -/
theorem not_isWhiteSpace_of_digit (h : c.digitValue? = some d) : c.isWhiteSpace = false := by
  have hapart : ∀ first ∈ digitZeros, ∀ r ∈ whiteSpaceRanges, first + 9 < r.1 ∨ r.2 < first := by decide
  obtain ⟨first, hfound, -⟩ := Option.map_eq_some_iff.1 h
  have hmem := List.mem_of_find?_eq_some hfound
  have hrun := List.find?_some hfound
  simp only [Bool.and_eq_true, decide_eq_true_eq] at hrun
  rw [Bool.eq_false_iff]
  intro hspace
  obtain ⟨r, hr, hfrom, hto⟩ := inRanges_iff.1 hspace
  have hdisjoint := hapart first hmem r hr
  omega

theorem ne_of_digit {e : CodePoint} (h : c.digitValue? = some d) (he : e.digitValue? = none) : c ≠ e := by
  rintro rfl
  rw [he] at h
  cases h

/-- The ASCII digits are decimal digits. -/
theorem digitValue?_of_isAsciiDigit (h : c.isAsciiDigit = true) : c.digitValue? = some (c.val - 0x30) := by
  have hbounds : 0x30 ≤ c.val ∧ c.val ≤ 0x30 + 9 := by simpa [isAsciiDigit] using h
  simp [digitValue?, digitZeros, hbounds]

end CodePoint

namespace Whole

variable {t : Text} {ds : List Nat} {n : Int} {k : Nat} {c : CodePoint}

/-! ## The grammar -/

/-- **Decimal digits** of any script, with single underscores between them, and their values. -/
inductive Digits : Text → List Nat → Prop
  | last {c : CodePoint} {d : Nat} (h : c.digitValue? = some d) : Digits [c] [d]
  | digit {c : CodePoint} {d : Nat} {t : Text} {ds : List Nat} (h : c.digitValue? = some d) (hrest : Digits t ds) :
      Digits (c :: t) (d :: ds)
  | underscore {c : CodePoint} {d : Nat} {t : Text} {ds : List Nat} (h : c.digitValue? = some d) (hrest : Digits t ds) :
      Digits (c :: CodePoint.ofChar '_' :: t) (d :: ds)

/-- Digits that are few enough, and the number that they make, the last of them being the units. -/
structure NaturalOf (t : Text) (ds : List Nat) (n : Nat) : Prop where
  digits : Digits t ds
  few : ds.length ≤ maxDigits
  value : Nat.ofDigits 10 ds.reverse = n

/-- The texts of a natural number. -/
def Natural (t : Text) (n : Nat) : Prop := ∃ ds, NaturalOf t ds n

/-- The texts of a whole number without white space: an optional sign, and a natural number. -/
inductive Signed : Text → Int → Prop
  | plain {t : Text} {n : Nat} (h : Natural t n) : Signed t n
  | plus {t : Text} {n : Nat} (h : Natural t n) : Signed (CodePoint.ofChar '+' :: t) n
  | minus {t : Text} {n : Nat} (h : Natural t n) : Signed (CodePoint.ofChar '-' :: t) (-n)

/-- **The texts of a whole number**: white space may stand around it. -/
inductive Written : Text → Int → Prop
  | mk {before signed after : Text} {n : Int} (hbefore : ∀ c ∈ before, c.isWhiteSpace = true) (hsigned : Signed signed n)
      (hafter : ∀ c ∈ after, c.isWhiteSpace = true) : Written (before ++ signed ++ after) n

/-! ## Reading digits -/

/-- What is read as digits is made of them. Behind a digit the rest may be empty or begin with an underscore. -/
theorem digits_of_digits? {afterDigit : Bool} (h : digits? afterDigit t = some ds) :
    (afterDigit = false → Digits t ds) ∧
      (afterDigit = true → ∀ c d, CodePoint.digitValue? c = some d → Digits (c :: t) (d :: ds)) := by
  induction t generalizing afterDigit ds with
  | nil =>
      cases afterDigit with
      | false => cases h
      | true =>
          cases h
          exact ⟨nofun, fun _ c d hc => .last hc⟩
  | cons e t ih =>
      rw [digits?] at h
      split at h
      · rename_i he
        cases afterDigit with
        | false => cases h
        | true =>
            rw [he]
            exact ⟨nofun, fun _ c d hc => .underscore hc ((ih h).1 rfl)⟩
      · split at h
        · rename_i d hd
          obtain ⟨es, hes, rfl⟩ := Option.map_eq_some_iff.1 h
          have hdigits := (ih hes).2 rfl e d hd
          exact ⟨fun _ => hdigits, fun _ c d hc => .digit hc hdigits⟩
        · cases h

theorem digits?_of_digits (h : Digits t ds) : ∀ afterDigit, digits? afterDigit t = some ds := by
  have hplain : ∀ {c d}, CodePoint.digitValue? c = some d → c ≠ CodePoint.ofChar '_' :=
    fun hc => CodePoint.ne_of_digit hc (by decide)
  induction h with
  | last hc =>
      intro afterDigit
      rw [digits?, if_neg (hplain hc), hc]
      rfl
  | digit hc _ ih =>
      intro afterDigit
      rw [digits?, if_neg (hplain hc), hc]
      simp only [ih true, Option.map_some]
  | underscore hc _ ih =>
      intro afterDigit
      rw [digits?, if_neg (hplain hc), hc]
      simp only [digits?, if_true, ih false, Option.map_some]

/-- **Digits are read** exactly from the texts that are made of them. -/
theorem digits?_eq_some_iff : digits? false t = some ds ↔ Digits t ds :=
  ⟨fun h => (digits_of_digits? h).1 rfl, fun h => digits?_of_digits h false⟩

/-- What digits make is the number whose digits they are. -/
theorem ofDigits_eq (ds : List Nat) : ofDigits ds = Nat.ofDigits 10 ds.reverse := by
  rw [ofDigits, Nat.ofDigits_eq_foldr, List.foldr_reverse]
  congr 1
  funext m d
  exact (Nat.add_comm _ _).trans (congrArg (d + ·) (Nat.mul_comm m 10))

theorem readNat?_eq_some_iff : readNat? t = some k ↔ Natural t k := by
  unfold readNat?
  constructor
  · intro h
    split at h
    · rename_i ds hds
      split at h
      · rename_i hfew
        cases h
        exact ⟨ds, digits?_eq_some_iff.1 hds, hfew, (ofDigits_eq ds).symm⟩
      · cases h
    · cases h
  · rintro ⟨ds, hdigits, hfew, rfl⟩
    simp only [digits?_eq_some_iff.2 hdigits, if_pos hfew, ofDigits_eq]

/-! ## Reading numbers -/

theorem Digits.mem (h : Digits t ds) (hc : c ∈ t) : (∃ d, c.digitValue? = some d) ∨ c = CodePoint.ofChar '_' := by
  induction h with
  | last hd => exact .inl ⟨_, List.mem_singleton.1 hc ▸ hd⟩
  | digit hd _ ih =>
      rcases List.mem_cons.1 hc with rfl | hc
      · exact .inl ⟨_, hd⟩
      · exact ih hc
  | underscore hd _ ih =>
      rcases List.mem_cons.1 hc with rfl | hc
      · exact .inl ⟨_, hd⟩
      · rcases List.mem_cons.1 hc with rfl | hc
        · exact .inr rfl
        · exact ih hc

/-- The code points that a whole number is written with. -/
theorem Signed.mem (h : Signed t n) (hc : c ∈ t) :
    (∃ d, c.digitValue? = some d) ∨ c ∈ ("_+-" : Text) := by
  have hnatural : ∀ {t n}, Natural t n → c ∈ t → (∃ d, c.digitValue? = some d) ∨ c ∈ ("_+-" : Text) := by
    rintro t n ⟨ds, hds, -, -⟩ hc
    rcases hds.mem hc with hdigit | rfl
    · exact .inl hdigit
    · exact .inr (by decide)
  cases h with
  | plain h => exact hnatural h hc
  | plus h =>
      rcases List.mem_cons.1 hc with rfl | hc
      · exact .inr (by decide)
      · exact hnatural h hc
  | minus h =>
      rcases List.mem_cons.1 hc with rfl | hc
      · exact .inr (by decide)
      · exact hnatural h hc

theorem Signed.not_isWhiteSpace (h : Signed t n) (hc : c ∈ t) : c.isWhiteSpace = false := by
  have hmarks : ("_+-" : Text).all (fun c => !c.isWhiteSpace) = true := by decide
  rcases h.mem hc with ⟨d, hd⟩ | hmark
  · exact CodePoint.not_isWhiteSpace_of_digit hd
  · simpa using List.all_eq_true.1 hmarks c hmark

theorem Signed.trimmed (h : Signed t n) : Text.Trimmed CodePoint.isWhiteSpace t where
  first := fun _ hc => h.not_isWhiteSpace (List.mem_of_head? hc)
  last := fun _ hc => h.not_isWhiteSpace (List.mem_of_getLast? hc)

/-- A natural number begins with a digit, and so with no sign. -/
theorem Natural.head (h : Natural t k) :
    ∃ c rest, t = c :: rest ∧ c ≠ CodePoint.ofChar '-' ∧ c ≠ CodePoint.ofChar '+' := by
  have hsigns : ∀ {c d}, CodePoint.digitValue? c = some d → c ≠ CodePoint.ofChar '-' ∧ c ≠ CodePoint.ofChar '+' :=
    fun hd => ⟨CodePoint.ne_of_digit hd (by decide), CodePoint.ne_of_digit hd (by decide)⟩
  obtain ⟨ds, hds, -, -⟩ := h
  cases hds with
  | last hd => exact ⟨_, _, rfl, hsigns hd⟩
  | digit hd _ => exact ⟨_, _, rfl, hsigns hd⟩
  | underscore hd _ => exact ⟨_, _, rfl, hsigns hd⟩

/-- **A whole number is read** exactly from its texts. -/
theorem read?_eq_some_iff : read? t = some n ↔ Written t n := by
  constructor
  · intro h
    obtain ⟨before, after, ht, hbefore, hafter, -⟩ := Text.exists_trim_eq CodePoint.isWhiteSpace t
    rw [ht]
    refine .mk hbefore ?_ hafter
    unfold read? at h
    split at h
    · cases h
    · rename_i c rest hm
      rw [hm]
      split at h
      · rename_i hc
        obtain ⟨m, hread, rfl⟩ := Option.map_eq_some_iff.1 h
        obtain ⟨k, hk, hm⟩ := Option.bind_eq_some_iff.1 hread
        cases hm
        exact hc ▸ .minus (readNat?_eq_some_iff.1 hk)
      · split at h
        · rename_i hc
          obtain ⟨k, hk, rfl⟩ := Option.map_eq_some_iff.1 h
          exact hc ▸ .plus (readNat?_eq_some_iff.1 hk)
        · obtain ⟨k, hk, rfl⟩ := Option.map_eq_some_iff.1 h
          exact .plain (readNat?_eq_some_iff.1 hk)
  · rintro ⟨hbefore, hsigned, hafter⟩
    rw [read?, Text.trim_append hbefore hafter hsigned.trimmed]
    cases hsigned with
    | plain h =>
        obtain ⟨c, rest, rfl, hminus, hplus⟩ := h.head
        simp only [if_neg hminus, if_neg hplus, readNat?_eq_some_iff.2 h, Option.map_some]
        rfl
    | plus h =>
        have hminus : CodePoint.ofChar '+' ≠ CodePoint.ofChar '-' := by decide
        simp only [if_neg hminus, if_true, readNat?_eq_some_iff.2 h, Option.map_some]
        rfl
    | minus h =>
        simp only [if_true, readNat?_eq_some_iff.2 h]
        rfl

-- white space, a sign and an underscore, and digits of another script
example : read? "\t+8_0 " = some 80 ∧ read? "８０" = some 80 ∧ read? "8__0" = none := by decide

theorem read?_eq_none_iff : read? t = none ↔ ∀ n, ¬ Written t n := by
  rw [Option.eq_none_iff_forall_not_mem]
  exact forall_congr' fun n => not_congr read?_eq_some_iff

/-- A whole number is written without colons. -/
theorem Written.colon_not_mem (h : Written t n) : CodePoint.ofChar ':' ∉ t := by
  have hspace : (CodePoint.ofChar ':').isWhiteSpace = false := by decide
  have hdigit : (CodePoint.ofChar ':').digitValue? = none := by decide
  have hmark : CodePoint.ofChar ':' ∉ ("_+-" : Text) := by decide
  obtain ⟨hbefore, hsigned, hafter⟩ := h
  simp only [List.mem_append, not_or]
  refine ⟨⟨fun hc => ?_, fun hc => ?_⟩, fun hc => ?_⟩
  · exact absurd (hbefore _ hc) (by simp [hspace])
  · rcases hsigned.mem hc with ⟨d, hd⟩ | hc
    · exact CodePoint.ne_of_digit hd hdigit rfl
    · exact hmark hc
  · exact absurd (hafter _ hc) (by simp [hspace])

/-! ## ASCII digits -/

/-- One or more ASCII digits, and the number that they make. -/
structure AsciiDigits (t : Text) (n : Nat) : Prop where
  ne_nil : t ≠ []
  ascii : ∀ c ∈ t, c.isAsciiDigit = true
  value : Nat.ofDigits 10 (t.map fun c => c.val - 0x30).reverse = n

theorem AsciiDigits.digits (h : AsciiDigits t k) : Digits t (t.map fun c => c.val - 0x30) := by
  obtain ⟨hne, hascii, -⟩ := h
  induction t with
  | nil => exact absurd rfl hne
  | cons c t ih =>
      obtain ⟨hc, ht⟩ := List.forall_mem_cons.1 hascii
      have hd := CodePoint.digitValue?_of_isAsciiDigit hc
      by_cases hrest : t = []
      · subst hrest
        exact .last hd
      · exact .digit hd (ih hrest ht)

/-- Nothing but the digits counts where there is nothing else. -/
theorem AsciiDigits.read? (h : AsciiDigits t k) : read? t = (readNat? t).map Int.ofNat := by
  have hplain : ∀ c ∈ t, c.isWhiteSpace = false := fun c hc =>
    CodePoint.not_isWhiteSpace_of_digit (CodePoint.digitValue?_of_isAsciiDigit (h.ascii c hc))
  have htrim : t.trim CodePoint.isWhiteSpace = t := Text.trim_eq_iff.2
    ⟨⟨fun c hc => hplain c (List.mem_of_head? hc), fun c hc => hplain c (List.mem_of_getLast? hc)⟩, [], [], by simp, nofun, nofun⟩
  obtain ⟨hne, hascii, -⟩ := h
  rw [Whole.read?, htrim]
  cases t with
  | nil => exact absurd rfl hne
  | cons c t =>
      have hc := hascii c (List.mem_cons_self ..)
      have hminus : c ≠ CodePoint.ofChar '-' := by
        rintro rfl
        exact absurd hc (by decide)
      have hplus : c ≠ CodePoint.ofChar '+' := by
        rintro rfl
        exact absurd hc (by decide)
      simp only [if_neg hminus, if_neg hplus]

/-- **ASCII digits** are the text of a whole number exactly if they are few enough, and then of the one that they make. -/
theorem written_of_ascii_iff (h : AsciiDigits t k) : Written t n ↔ n = k ∧ t.length ≤ maxDigits := by
  have hnat : readNat? t = if t.length ≤ maxDigits then some k else none := by
    simp only [readNat?, digits?_eq_some_iff.2 h.digits, List.length_map, ofDigits_eq, h.value]
  rw [← read?_eq_some_iff, h.read?, hnat]
  split
  · rename_i hfew
    simp [hfew, eq_comm]
  · rename_i hmany
    simp [hmany]

/-- The text of a natural number is made of ASCII digits. -/
theorem asciiDigits_ofNat (k : Nat) : AsciiDigits (Text.ofNat k) k := by
  have hlt := Text.digitsOf_lt k
  have hvalues : ((Text.digitsOf k).map CodePoint.ofDigit).map (fun c => c.val - 0x30) = Text.digitsOf k := by
    rw [List.map_map]
    refine (List.map_congr_left fun d hd => ?_).trans (List.map_id _)
    simp [CodePoint.val_ofDigit (hlt d hd)]
  rw [Text.ofNat_eq]
  refine ⟨by simp [Text.digitsOf_ne_nil], fun c hc => ?_, ?_⟩
  · obtain ⟨d, hd, rfl⟩ := List.mem_map.1 hc
    exact CodePoint.isAsciiDigit_ofDigit (hlt d hd)
  · rw [hvalues, ← ofDigits_eq, Text.ofDigits_digitsOf]

/-- **The text of a natural number** that is not too great. -/
theorem written_ofNat {m : Nat} (hm : m ≠ 0) (hle : m ≤ maxDigits) (h : k < 10 ^ m) : Written (Text.ofNat k) k := by
  refine (written_of_ascii_iff (asciiDigits_ofNat k)).2 ⟨rfl, ?_⟩
  rw [Text.ofNat_eq, List.length_map]
  exact Nat.le_trans (Text.length_digitsOf_le hm h) hle

end Whole

end WebhookBridge
