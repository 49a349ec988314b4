import WebhookBridge.Proofs.Json.Reading

/-!
# What comes after a value

A value that stands at the front of a text still stands there when more comes after the text, as long as no numeral goes on
with it. So a text that is one value can be put into an array or an object.

## Contents

* `Lenient.skipBlanks_append`, `skipBlanks_append_of_cons`: blanks, and what comes after them;
* `Lenient.skipBlanks_of_atFront`: no value begins with a blank;
* `Lenient.AtFront.append`: more after a value;
* `Lenient.readAll_of_atFront`: a text that is one value.
-/

namespace WebhookBridge.Json

open Lenient (skipBlanks isBlank)

namespace Lenient

/-! ## Blanks -/

/-- Blanks in front of a text are skipped. -/
theorem skipBlanks_append {blanks : Text} (h : ∀ c ∈ blanks, isBlank c = true) (t : Text) :
    skipBlanks (blanks ++ t) = skipBlanks t := by
  induction blanks with
  | nil => rfl
  | cons c blanks ih =>
      obtain ⟨hc, hblanks⟩ := List.forall_mem_cons.1 h
      rw [List.cons_append, skipBlanks, List.dropWhile_cons_of_pos hc]
      exact ih hblanks

/-- A text that begins with no blank. -/
theorem skipBlanks_cons {c : CodePoint} (h : isBlank c = false) (t : Text) : skipBlanks (c :: t) = c :: t :=
  List.dropWhile_cons_of_neg (by simp [h])

/-- What comes after a text is not looked at for blanks if the text is not all blanks. -/
theorem skipBlanks_append_of_ne_nil {t : Text} (h : skipBlanks t ≠ []) (more : Text) :
    skipBlanks (t ++ more) = skipBlanks t ++ more := by
  induction t with
  | nil => exact absurd rfl h
  | cons c t ih =>
      cases hc : isBlank c with
      | true =>
          rw [skipBlanks, List.dropWhile_cons_of_pos hc] at h
          rw [List.cons_append, skipBlanks, skipBlanks, List.dropWhile_cons_of_pos hc, List.dropWhile_cons_of_pos hc]
          exact ih h
      | false => rw [List.cons_append, skipBlanks_cons hc, skipBlanks_cons hc, List.cons_append]

theorem skipBlanks_append_of_cons {t rest : Text} {c : CodePoint} (h : skipBlanks t = c :: rest) (more : Text) :
    skipBlanks (t ++ more) = c :: (rest ++ more) := by
  rw [skipBlanks_append_of_ne_nil (by simp [h]), h, List.cons_append]

/-! ## Values -/

variable {t rest more : Text} {v : Json}

theorem Scalar.skipBlanks (h : Scalar t v rest) : skipBlanks t = t := by
  have hdigit : ∀ {c : CodePoint}, c.isAsciiDigit = true → isBlank c = false := by
    intro c hc
    simp only [CodePoint.isAsciiDigit, Bool.and_eq_true, decide_eq_true_eq] at hc
    simp only [isBlank, Bool.or_eq_false_iff, decide_eq_false_iff_not]
    omega
  cases h with
  | str _ => exact skipBlanks_cons (by decide) _
  | @word w _ hword rest =>
      have hwords : ∀ w ∈ words, w.1.head?.any fun c => !isBlank c := by decide
      have hfirst := hwords _ hword
      cases w with
      | nil => cases hfirst
      | cons c w =>
          simp only [List.head?_cons, Option.any_some, Bool.not_eq_true'] at hfirst
          exact skipBlanks_cons hfirst _
  | numeral hwhole _ =>
      obtain ⟨c, more, rfl, hc⟩ := exists_digit_of_whole hwhole
      exact skipBlanks_cons (hdigit hc) _
  | negative _ _ => exact skipBlanks_cons (by decide) _

/-- No value begins with a blank. -/
theorem skipBlanks_of_atFront {levels : Nat} (h : grammar.AtFront levels t v rest) : skipBlanks t = t := by
  cases levels with
  | zero => exact Scalar.skipBlanks h
  | succ levels =>
      cases h with
      | scalar h => exact Scalar.skipBlanks h
      | emptyArray _ => exact skipBlanks_cons (by decide) _
      | array _ => exact skipBlanks_cons (by decide) _
      | emptyObject _ => exact skipBlanks_cons (by decide) _
      | object _ => exact skipBlanks_cons (by decide) _

end Lenient

open Lenient (Stops skipBlanks_append_of_ne_nil skipBlanks_append_of_cons)

/-- More may come after items if it may come after each of them. -/
theorem Sequence.append {α : Type} {item : Text → α → Text → Prop} {close : CodePoint} {more : Text}
    (hitems : ∀ t a rest, item t a rest → item (t ++ more) a (rest ++ more))
    (hshort : ∀ t a rest, item t a rest → rest.length < t.length) {t : Text} {as : List α} {rest : Text}
    (h : Sequence item close t as rest) : Sequence item close (t ++ more) as (rest ++ more) := by
  have hne : ∀ {t as rest}, Sequence item close t as rest → t ≠ [] := by
    rintro t as rest h rfl
    exact absurd (h.first (P := fun t => 0 < t.length) fun _ _ _ hitem => Nat.zero_lt_of_lt (hshort _ _ _ hitem))
      (Nat.lt_irrefl 0)
  induction h with
  | last hitem hclose => exact .last (hitems _ _ _ hitem) (skipBlanks_append_of_cons hclose more)
  | more hitem hcomma hmore ih =>
      refine .more (hitems _ _ _ hitem) (skipBlanks_append_of_cons hcomma more) ?_
      rw [skipBlanks_append_of_ne_nil (hne hmore)]
      exact ih

namespace Lenient

variable {t rest more : Text} {v : Json}

/-- **More may come after a value** where no numeral goes on with it. -/
theorem AtFront.append (hmore : Stops more) : ∀ {levels : Nat} {t : Text} {v : Json} {rest : Text},
    grammar.AtFront levels t v rest → grammar.AtFront levels (t ++ more) v (rest ++ more)
  | 0, _, _, _, h => Scalar.append hmore h
  | levels + 1, t, v, rest, h => by
    have hinner : ∀ t v rest, grammar.AtFront levels t v rest → grammar.AtFront levels (t ++ more) v (rest ++ more) :=
      fun _ _ _ h => AtFront.append hmore h
    have hshort : ∀ t v rest, grammar.AtFront levels t v rest → rest <:+ t ∧ rest.length < t.length :=
      fun _ _ _ h => h.suffix shortens_grammar
    have hne : ∀ {t : Text} {v : Json} {rest : Text}, grammar.AtFront levels t v rest → t ≠ [] := by
      rintro t v rest h rfl
      exact absurd (hshort _ _ _ h).2 (Nat.not_lt_zero _)
    cases h with
    | scalar h => exact .scalar (Scalar.append hmore h)
    | emptyArray h => exact .emptyArray (skipBlanks_append_of_cons h more)
    | @array t vs _ h =>
        have hseq := h.append hinner fun _ _ _ h => (hshort _ _ _ h).2
        have hfirst : skipBlanks t ≠ [] := h.first (P := (· ≠ [])) fun _ _ _ => hne
        rw [← skipBlanks_append_of_ne_nil hfirst] at hseq
        exact .array hseq
    | emptyObject h => exact .emptyObject (skipBlanks_append_of_cons h more)
    | @object t ms _ h =>
        have hmember : ∀ t m rest, grammar.Member (grammar.AtFront levels) t m rest →
            grammar.Member (grammar.AtFront levels) (t ++ more) m (rest ++ more) := by
          intro t m rest hm
          cases hm with
          | intro hkey hcolon hvalue =>
              refine .intro (hkey.append more) (skipBlanks_append_of_cons hcolon more) ?_
              rw [skipBlanks_append_of_ne_nil (hne hvalue)]
              exact hinner _ _ _ hvalue
        have hseq := h.append hmember fun _ _ _ hm => (hm.suffix shortens_grammar fun _ _ _ h => (hshort _ _ _ h).1).2
        have hfirst : skipBlanks t ≠ [] := by
          refine h.first (P := (· ≠ [])) fun _ _ _ hm => ?_
          obtain ⟨body, hbody⟩ := hm.quote
          simp [hbody]
        rw [← skipBlanks_append_of_ne_nil hfirst] at hseq
        exact .object hseq

/-- **A text that is one value** is read as that value. -/
theorem readAll_of_atFront {levels : Nat} (h : grammar.AtFront levels t v []) : readAll levels t = .ok v := by
  have hskip : skipBlanks [] = [] := rfl
  simp [readAll, skipBlanks_of_atFront h, readValue_ok_iff.2 h, bind, Except.bind, hskip]

end Lenient

end WebhookBridge.Json
