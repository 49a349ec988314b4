import WebhookBridge.Proofs.Json.Numerals

/-!
# Scalars

The values of JSON texts that are no arrays and no objects: strings, words and numerals. Both readers are told by what
they take for one. What the strict reader takes, the lenient one takes as well.

## Contents

* `Lenient.Scalar`, `Lenient.readScalar_ok_iff`: the scalars of the lenient reader;
* `Lenient.Scalar.suffix`, `Lenient.Scalar.append`: a scalar takes up some of the text, whatever comes after it;
* `Strict.Scalar`, `Strict.readWith_ok_iff`: the scalars of the strict reader;
* `Strict.Scalar.lenient`: they are scalars of the lenient reader.
-/

namespace WebhookBridge.Json

/-! ## The lenient reader -/

/-- A text that opens no array and no object. -/
def OpensNothing (t : Text) : Prop := t.head? ≠ some (CodePoint.ofChar '[') ∧ t.head? ≠ some (CodePoint.ofChar '{')

namespace Lenient

variable {t rest : Text} {v : Json}

/-- **The scalars** of the lenient reader: strings, words and numerals. -/
inductive Scalar : Text → Json → Text → Prop
  | str {t s rest : Text} (h : Content t s rest) : Scalar (CodePoint.ofChar '"' :: t) (.str s) rest
  | word {w : Text} {v : Json} (hword : (w, v) ∈ words) (rest : Text) : Scalar (w ++ rest) v rest
  | numeral {t : Text} (hwhole : (scanNumeral t).whole ≠ [])
      (hlen : (scanNumeral t).isWhole = true → (scanNumeral t).whole.length ≤ Whole.maxDigits) :
      Scalar t ((scanNumeral t).value false) (scanNumeral t).rest
  | negative {t : Text} (hwhole : (scanNumeral t).whole ≠ [])
      (hlen : (scanNumeral t).isWhole = true → (scanNumeral t).whole.length ≤ Whole.maxDigits) :
      Scalar (CodePoint.ofChar '-' :: t) ((scanNumeral t).value true) (scanNumeral t).rest

theorem readUnsigned?_ok_iff {negative : Bool} :
    readUnsigned? negative t = some (.ok (v, rest)) ↔ (scanNumeral t).whole ≠ [] ∧
      ((scanNumeral t).isWhole = true → (scanNumeral t).whole.length ≤ Whole.maxDigits) ∧
      v = (scanNumeral t).value negative ∧ rest = (scanNumeral t).rest := by
  rw [readUnsigned?_eq]
  split
  · rename_i hnil
    simp [hnil]
  · rename_i hwhole
    split
    · rename_i hlong
      simp only [Option.some.injEq, reduceCtorEq, false_iff]
      rintro ⟨-, hlen, -⟩
      exact Nat.not_lt.2 (hlen hlong.1) hlong.2
    · rename_i hshort
      simp only [Option.some.injEq, Except.ok.injEq, Prod.mk.injEq]
      constructor
      · rintro ⟨rfl, rfl⟩
        exact ⟨hwhole, fun his => Nat.le_of_not_lt fun hlong => hshort ⟨his, hlong⟩, rfl, rfl⟩
      · rintro ⟨-, -, rfl, rfl⟩
        exact ⟨rfl, rfl⟩

theorem readUnsigned?_ok (negative : Bool) (hwhole : (scanNumeral t).whole ≠ [])
    (hlen : (scanNumeral t).isWhole = true → (scanNumeral t).whole.length ≤ Whole.maxDigits) :
    readUnsigned? negative t = some (.ok ((scanNumeral t).value negative, (scanNumeral t).rest)) :=
  readUnsigned?_ok_iff.2 ⟨hwhole, hlen, rfl, rfl⟩

/-- A numeral, where a text without one is at fault. -/
theorem readUnsigned?_getD_ok {negative : Bool} {fault : Fault}
    (h : (readUnsigned? negative t).getD (.error fault) = .ok (v, rest)) :
    (scanNumeral t).whole ≠ [] ∧ ((scanNumeral t).isWhole = true → (scanNumeral t).whole.length ≤ Whole.maxDigits) ∧
      v = (scanNumeral t).value negative ∧ rest = (scanNumeral t).rest := by
  refine readUnsigned?_ok_iff.1 ?_
  cases hread : readUnsigned? negative t with
  | none =>
      rw [hread] at h
      cases h
  | some found =>
      rw [hread, Option.getD_some] at h
      rw [h]

/-- A numeral begins with a digit. -/
theorem exists_digit_of_whole (h : (scanNumeral t).whole ≠ []) : ∃ c more, t = c :: more ∧ c.isAsciiDigit = true := by
  have hwhole : (scanNumeral t).whole = (wholeDigits t).1 := rfl
  rw [hwhole] at h
  cases t with
  | nil => exact absurd rfl h
  | cons c more =>
      refine ⟨c, more, rfl, ?_⟩
      rw [wholeDigits] at h
      split at h
      · rename_i hzero
        rw [hzero]
        decide
      · rw [Numeral.spanDigits, Numeral.asciiDigit?] at h
        refine Classical.byContradiction fun hdigit => ?_
        rw [if_neg hdigit] at h
        exact h rfl

/-- No word begins like a numeral, with or without a sign. -/
theorem find?_words_eq_none {c : CodePoint} {more : Text} (hdigit : c.isAsciiDigit = true)
    (ht : t = c :: more ∨ t = CodePoint.ofChar '-' :: c :: more) :
    (words.find? fun (word, _) => word.isPrefixOf t) = none := by
  -- neither its first code point is a digit, nor the one after a minus sign
  have hfirst : ∀ w ∈ words, w.1.head?.any fun d => !d.isAsciiDigit := by decide
  have hsecond : ∀ w ∈ words, w.1.head? = some (CodePoint.ofChar '-') → w.1.tail.head?.any fun d => !d.isAsciiDigit := by
    decide
  rw [List.find?_eq_none]
  rintro ⟨w, v⟩ hw hprefix
  obtain ⟨rest, heq⟩ := List.isPrefixOf_iff_prefix.1 hprefix
  have h₁ := hfirst _ hw
  have h₂ := hsecond _ hw
  dsimp only at h₁ h₂
  rcases ht with rfl | rfl
  · cases w with
    | nil => cases h₁
    | cons d w =>
        obtain ⟨rfl, -⟩ := List.cons.inj heq
        simp [hdigit] at h₁
  · cases w with
    | nil => cases h₁
    | cons d w =>
        obtain ⟨rfl, hmore⟩ := List.cons.inj heq
        cases w with
        | nil => simp at h₂
        | cons e w =>
            obtain ⟨rfl, -⟩ := List.cons.inj hmore
            simp [hdigit] at h₂

theorem readScalar_word {w : Text} {v : Json} (hword : (w, v) ∈ words) (rest : Text) :
    readScalar (w ++ rest) = .ok (v, rest) := by
  simp only [words, List.mem_cons, Prod.mk.injEq, List.not_mem_nil, or_false] at hword
  rcases hword with ⟨rfl, rfl⟩ | ⟨rfl, rfl⟩ | ⟨rfl, rfl⟩ | ⟨rfl, rfl⟩ | ⟨rfl, rfl⟩ | ⟨rfl, rfl⟩
  · rfl
  · rfl
  · rfl
  · rfl
  · rfl
  · rfl

theorem digit_ne {c : CodePoint} (hdigit : c.isAsciiDigit = true) :
    c ≠ CodePoint.ofChar '"' ∧ c ≠ CodePoint.ofChar '-' ∧ c ≠ CodePoint.ofChar '[' ∧ c ≠ CodePoint.ofChar '{' := by
  refine ⟨?_, ?_, ?_, ?_⟩
  all_goals
    rintro rfl
    revert hdigit
    decide

/-- **The lenient reader of scalars** finds them. -/
theorem readScalar_ok_iff : readScalar t = .ok (v, rest) ↔ Scalar t v rest := by
  constructor
  · intro h
    unfold readScalar at h
    split at h
    · cases h
    · rename_i c more
      split at h
      · rename_i hquote
        obtain ⟨⟨s, rest'⟩, hs, he⟩ := map_eq_ok_iff.1 h
        cases he
        rw [hquote]
        exact .str (content_of_readString hs)
      · split at h
        · rename_i w v' hfind
          have hprefix : List.isPrefixOf w (c :: more) = true :=
            List.find?_some (p := fun x : Text × Json => x.1.isPrefixOf (c :: more)) hfind
          obtain ⟨rest', heq⟩ := List.isPrefixOf_iff_prefix.1 hprefix
          rw [← heq, List.drop_left] at h
          cases h
          rw [← heq]
          exact .word (List.mem_of_find?_eq_some hfind) _
        · dsimp only at h
          split at h
          · rename_i hminus
            obtain ⟨hwhole, hlen, rfl, rfl⟩ := readUnsigned?_getD_ok h
            rw [hminus]
            exact .negative hwhole hlen
          · obtain ⟨hwhole, hlen, rfl, rfl⟩ := readUnsigned?_getD_ok h
            exact .numeral hwhole hlen
  · intro h
    cases h with
    | str h => simp [readScalar, readString_of_content h, Except.map]
    | word hword rest => exact readScalar_word hword rest
    | numeral hwhole hlen =>
        have hread := readUnsigned?_ok false hwhole hlen
        obtain ⟨c, more, rfl, hdigit⟩ := exists_digit_of_whole hwhole
        obtain ⟨hquote, hminus, -⟩ := digit_ne hdigit
        simp only [readScalar, if_neg hquote, find?_words_eq_none hdigit (Or.inl rfl), if_neg hminus]
        rw [hread]
        rfl
    | @negative t hwhole hlen =>
        have hread := readUnsigned?_ok true hwhole hlen
        obtain ⟨c, more, rfl, hdigit⟩ := exists_digit_of_whole hwhole
        have hquote : CodePoint.ofChar '-' ≠ CodePoint.ofChar '"' := by decide
        simp only [readScalar, if_neg hquote, find?_words_eq_none hdigit (Or.inr rfl), if_true]
        rw [hread]
        rfl

theorem Scalar.suffix (h : Scalar t v rest) : rest <:+ t ∧ rest.length < t.length := by
  cases h with
  | str h => exact ⟨h.suffix.trans (List.suffix_cons _ _), Nat.lt_succ_of_lt h.length_lt⟩
  | @word w _ hword rest =>
      have hne : ∀ w ∈ words, 0 < w.1.length := by decide
      have hpos := hne _ hword
      refine ⟨List.suffix_append w rest, ?_⟩
      rw [List.length_append]
      exact Nat.lt_add_of_pos_left hpos
  | numeral hwhole _ =>
      exact ⟨(suffix_scanNumeral t).trans (suffix_wholeDigits t), length_scanNumeral hwhole⟩
  | negative hwhole _ =>
      exact ⟨((suffix_scanNumeral _).trans (suffix_wholeDigits _)).trans (List.suffix_cons _ _),
        Nat.lt_succ_of_lt (length_scanNumeral hwhole)⟩

theorem Scalar.opensNothing (h : Scalar t v rest) : OpensNothing t := by
  cases h with
  | str h => exact ⟨by simp +decide, by simp +decide⟩
  | @word w _ hword rest =>
      have hhead : ∀ w ∈ words, w.1.head?.any fun d => d ≠ CodePoint.ofChar '[' && d ≠ CodePoint.ofChar '{' := by decide
      have hw := hhead _ hword
      cases w with
      | nil => cases hw
      | cons d w =>
          simp only [List.head?_cons, Option.any_some, Bool.and_eq_true, decide_eq_true_eq] at hw
          exact ⟨by simp [hw.1], by simp [hw.2]⟩
  | numeral hwhole _ =>
      obtain ⟨c, more, rfl, hdigit⟩ := exists_digit_of_whole hwhole
      obtain ⟨-, -, harray, hobject⟩ := digit_ne hdigit
      exact ⟨by simp [harray], by simp [hobject]⟩
  | negative _ _ => exact ⟨by simp +decide, by simp +decide⟩

/-- No scalar begins with a closing bracket. -/
theorem Scalar.not_closing (h : Scalar t v rest) : t.head? ≠ some (CodePoint.ofChar ']') := by
  intro hhead
  obtain ⟨more, rfl⟩ := List.head?_eq_some_iff.1 hhead
  cases readScalar_ok_iff.2 h

/-- **What comes after a scalar** does not matter where no numeral goes on with it. -/
theorem Scalar.append {more : Text} (hmore : Stops more) (h : Scalar t v rest) : Scalar (t ++ more) v (rest ++ more) := by
  cases h with
  | str h => exact .str (h.append more)
  | word hword rest =>
      rw [List.append_assoc]
      exact .word hword (rest ++ more)
  | numeral hwhole hlen =>
      have hscan := scanNumeral_append (t := t) hmore
      have h := Scalar.numeral (t := t ++ more) (by rwa [hscan]) (by rwa [hscan])
      rwa [hscan] at h
  | @negative t hwhole hlen =>
      have hscan := scanNumeral_append (t := t) hmore
      have h := Scalar.negative (t := t ++ more) (by rwa [hscan]) (by rwa [hscan])
      rwa [hscan] at h

end Lenient

/-! ## The strict reader -/

namespace Strict

variable {t rest : Text} {v : Json}

/-- **The scalars** of the strict reader. -/
inductive Scalar : Text → Json → Text → Prop
  | str {t s rest : Text} (h : Content t s rest) : Scalar (CodePoint.ofChar '"' :: t) (.str s) rest
  | word {w : Text} {v : Json} (hword : (w, v) ∈ Lenient.words) (rest : Text) : Scalar (w ++ rest) v rest
  | numeral {t : Text} {v : Json} {rest : Text} (h : readNumber false t = .ok (v, rest)) : Scalar t v rest
  | negative {t : Text} {v : Json} {rest : Text} (h : readNumber true t = .ok (v, rest)) :
      Scalar (CodePoint.ofChar '-' :: t) v rest

/-- **What the strict reader takes**, the lenient one takes as well. -/
theorem Scalar.lenient (h : Scalar t v rest) : Lenient.Scalar t v rest := by
  cases h with
  | str h => exact .str h.lenient
  | word hword rest => exact .word hword rest
  | numeral h =>
      obtain ⟨hwhole, hlen, rfl, rfl⟩ := readNumber_ok h
      exact .numeral hwhole fun _ => hlen
  | negative h =>
      obtain ⟨hwhole, hlen, rfl, rfl⟩ := readNumber_ok h
      exact .negative hwhole fun _ => hlen

theorem readWord_ok_iff {w : Text} {v' : Json} : readWord v w t = .ok (v', rest) ↔ t = w ++ rest ∧ v' = v := by
  induction w generalizing t with
  | nil =>
      simp only [readWord, Except.ok.injEq, Prod.mk.injEq, List.nil_append]
      exact ⟨fun ⟨hv, ht⟩ => ⟨ht, hv.symm⟩, fun ⟨ht, hv⟩ => ⟨hv.symm, ht⟩⟩
  | cons d w ih =>
      cases t with
      | nil => simp [readWord, fail]
      | cons c t =>
          rw [readWord]
          split
          · rename_i heq
            simp [ih, heq]
          · rename_i hne
            simp [fail, Ne.symm hne]

/-- The words by their first letters are the words. -/
theorem mem_words {c : CodePoint} {w : Text} {v : Json} (h : (c, w, v) ∈ words) : (c :: w, v) ∈ Lenient.words := by
  simp only [words, List.mem_cons, Prod.mk.injEq, List.not_mem_nil, or_false] at h
  rcases h with ⟨rfl, rfl, rfl⟩ | ⟨rfl, rfl, rfl⟩ | ⟨rfl, rfl, rfl⟩ | ⟨rfl, rfl, rfl⟩ | ⟨rfl, rfl, rfl⟩
  · exact .head _
  · exact .tail _ (.head _)
  · exact .tail _ (.tail _ (.head _))
  · exact .tail _ (.tail _ (.tail _ (.head _)))
  · exact .tail _ (.tail _ (.tail _ (.tail _ (.head _))))

theorem readWith_word {inner : Reader Json} {w : Text} {v : Json} (hword : (w, v) ∈ Lenient.words) (rest : Text) :
    readWith inner (w ++ rest) = .ok (v, rest) := by
  simp only [Lenient.words, List.mem_cons, Prod.mk.injEq, List.not_mem_nil, or_false] at hword
  rcases hword with ⟨rfl, rfl⟩ | ⟨rfl, rfl⟩ | ⟨rfl, rfl⟩ | ⟨rfl, rfl⟩ | ⟨rfl, rfl⟩ | ⟨rfl, rfl⟩
  · rfl
  · rfl
  · rfl
  · rfl
  · rfl
  · rfl

/-- **The strict reader of values** finds them, whatever reads the parts of arrays and objects. -/
theorem readWith_ok_iff {inner : Reader Json} (ht : OpensNothing t) :
    readWith inner t = .ok (v, rest) ↔ Scalar t v rest := by
  constructor
  · intro h
    match t, ht, h with
    | [], _, h => cases h
    | c :: more, ht, h =>
        unfold readWith at h
        dsimp only at h
        rw [if_neg (by simpa using ht.1), if_neg (by simpa using ht.2)] at h
        split at h
        · rename_i hquote
          obtain ⟨⟨s, rest'⟩, hs, he⟩ := map_eq_ok_iff.1 h
          cases he
          rw [hquote]
          exact .str (content_of_readString hs)
        · split at h
          · exact .numeral h
          · split at h
            · rename_i hminus
              rw [hminus]
              split at h
              · rename_i d after
                split at h
                · rename_i hword
                  obtain ⟨rfl, rfl⟩ := readWord_ok_iff.1 h
                  rw [hword]
                  exact .word (w := "-Infinity") (by simp [Lenient.words]) rest
                · split at h
                  · exact .negative h
                  · cases h
              · cases h
            · split at h
              · rename_i c' w v' hfind
                obtain ⟨rfl, rfl⟩ := readWord_ok_iff.1 h
                have hc : c' = c := by simpa using List.find?_some hfind
                rw [← hc]
                exact .word (mem_words (List.mem_of_find?_eq_some hfind)) rest
              · cases h
  · intro h
    cases h with
    | @str t s rest h =>
        have hread := readString_of_content h (Nat.le_succ t.length)
        have harray : CodePoint.ofChar '"' ≠ CodePoint.ofChar '[' := by decide
        have hobject : CodePoint.ofChar '"' ≠ CodePoint.ofChar '{' := by decide
        simp [readWith, harray, hobject, hread, Except.map]
    | word hword rest => exact readWith_word hword rest
    | numeral h =>
        obtain ⟨c, more, rfl, hdigit⟩ := Lenient.exists_digit_of_whole (readNumber_ok h).1
        obtain ⟨hquote, -, harray, hobject⟩ := Lenient.digit_ne hdigit
        simp only [readWith, if_neg harray, if_neg hobject, if_neg hquote, hdigit, if_true, h]
    | @negative t _ _ h =>
        obtain ⟨c, more, rfl, hdigit⟩ := Lenient.exists_digit_of_whole (readNumber_ok h).1
        have hword : c ≠ CodePoint.ofChar 'I' := by
          rintro rfl
          revert hdigit
          decide
        have harray : CodePoint.ofChar '-' ≠ CodePoint.ofChar '[' := by decide
        have hobject : CodePoint.ofChar '-' ≠ CodePoint.ofChar '{' := by decide
        have hquote : CodePoint.ofChar '-' ≠ CodePoint.ofChar '"' := by decide
        have hdash : (CodePoint.ofChar '-').isAsciiDigit = false := by decide
        simp only [readWith, if_neg harray, if_neg hobject, if_neg hquote, hdash, Bool.false_eq_true, if_false, if_true,
          if_neg hword, hdigit, h]

end Strict

end WebhookBridge.Json
