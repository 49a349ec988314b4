import Mathlib.Data.List.DropRight
import WebhookBridge.Text.Basic

/-!
# The last separator, and what is trimmed

A text is cut at the last occurrence of a separator, so that none stands behind the cut. What trimming leaves is the only piece
that neither begins nor ends with what is trimmed, and that has nothing else before and after it.

## Contents

* `Text.splitLast?_eq_some_iff`, `Text.splitLast?_eq_none_iff`: cutting at the last occurrence;
* `Text.Trimmed`, `Text.trim_eq_iff`: trimming.
-/

namespace WebhookBridge.Text

/-! ## Cutting -/

variable {sep : CodePoint} {t before after : Text}

/-- A text without the separator is not cut. -/
theorem splitLast?_eq_none_iff : t.splitLast? sep = none ↔ sep ∉ t := by
  induction t with
  | nil => simp [splitLast?]
  | cons c t ih =>
      rw [List.mem_cons, not_or, ← ih, splitLast?]
      cases ht : splitLast? sep t with
      | some parts => simp
      | none =>
          by_cases hc : c = sep
          · simp [hc]
          · simp [hc, Ne.symm hc]

/-- What a text is cut into makes it up again, and the separator does not stand behind the cut. -/
theorem of_splitLast? (h : t.splitLast? sep = some (before, after)) : t = before ++ sep :: after ∧ sep ∉ after := by
  induction t generalizing before with
  | nil => cases h
  | cons c t ih =>
      rw [splitLast?] at h
      split at h
      · rename_i front back ht
        cases h
        obtain ⟨rfl, hafter⟩ := ih ht
        exact ⟨rfl, hafter⟩
      · rename_i ht
        split at h
        · rename_i hc
          cases h
          exact ⟨congrArg (List.cons · _) hc, splitLast?_eq_none_iff.1 ht⟩
        · cases h

theorem splitLast?_append (before : Text) (h : sep ∉ after) :
    splitLast? sep (before ++ sep :: after) = some (before, after) := by
  induction before with
  | nil => simp [splitLast?, splitLast?_eq_none_iff.2 h]
  | cons c before ih => simp [splitLast?, ih]

/-- **A text is cut at the last occurrence** of the separator. -/
theorem splitLast?_eq_some_iff : t.splitLast? sep = some (before, after) ↔ t = before ++ sep :: after ∧ sep ∉ after := by
  constructor
  · exact of_splitLast?
  · rintro ⟨rfl, h⟩
    exact splitLast?_append before h

/-! ## Trimming -/

variable {p : CodePoint → Bool} {m front back : Text}

/-- **A text that is trimmed** of a kind of code points: it neither begins nor ends with one. -/
structure Trimmed (p : CodePoint → Bool) (m : Text) : Prop where
  first : ∀ c, m.head? = some c → p c = false
  last : ∀ c, m.getLast? = some c → p c = false

/-- Nothing is taken off the front of a text that begins otherwise. -/
theorem dropWhile_of_head (h : ∀ c, m.head? = some c → p c = false) : m.dropWhile p = m := by
  cases m with
  | nil => rfl
  | cons c m => exact List.dropWhile_cons_of_neg (by simp [h c rfl])

theorem trimRight_append (hback : ∀ c ∈ back, p c = true) (h : ∀ c, m.getLast? = some c → p c = false) :
    trimRight p (m ++ back) = m := by
  have hhead : ∀ c, m.reverse.head? = some c → p c = false := by
    intro c hc
    exact h c (by rwa [List.head?_reverse] at hc)
  rw [trimRight, List.reverse_append, List.dropWhile_append_of_pos fun c hc => hback c (List.mem_reverse.1 hc),
    dropWhile_of_head hhead, List.reverse_reverse]

/-- What is trimmed away around a trimmed text. -/
theorem trim_append (hfront : ∀ c ∈ front, p c = true) (hback : ∀ c ∈ back, p c = true) (h : Trimmed p m) :
    (front ++ m ++ back).trim p = m := by
  rw [trim, List.append_assoc, List.dropWhile_append_of_pos hfront]
  cases m with
  | nil =>
      rw [List.nil_append, List.dropWhile_eq_nil_iff.2 hback]
      rfl
  | cons c m =>
      rw [List.cons_append, List.dropWhile_cons_of_neg (by simp [h.first c rfl]), ← List.cons_append]
      exact trimRight_append hback h.last

/-- Something trimmed is left of every text, and nothing else is lost than what is trimmed away. -/
theorem exists_trim_eq (p : CodePoint → Bool) (t : Text) : ∃ front back, t = front ++ t.trim p ++ back ∧
    (∀ c ∈ front, p c = true) ∧ (∀ c ∈ back, p c = true) ∧ Trimmed p (t.trim p) := by
  have hright : t.trim p = (t.dropWhile p).rdropWhile p := rfl
  refine ⟨t.takeWhile p, (t.dropWhile p).rtakeWhile p, ?_, fun c => List.mem_takeWhile_imp, fun c => List.mem_rtakeWhile_imp,
    ?_, ?_⟩
  · rw [hright, List.append_assoc, List.rdropWhile_append_rtakeWhile, List.takeWhile_append_dropWhile]
  · intro c hc
    obtain ⟨rest, hrest⟩ := List.rdropWhile_prefix p (t.dropWhile p)
    have hhead : (t.dropWhile p).head? = some c := by
      rw [← hrest, List.head?_append, ← hright, hc, Option.some_or]
    have hnot := List.head?_dropWhile_not p t
    rw [hhead] at hnot
    simpa using hnot
  · intro c hc
    rw [hright] at hc
    have hne : (t.dropWhile p).rdropWhile p ≠ [] := by
      intro hnil
      rw [hnil] at hc
      cases hc
    rw [List.getLast?_eq_some_getLast hne, Option.some.injEq] at hc
    rw [← hc]
    simpa using List.rdropWhile_last_not p (t.dropWhile p) hne

/-- **Trimming** leaves the piece that is trimmed and has only what is trimmed away before and after it. -/
theorem trim_eq_iff : t.trim p = m ↔ Trimmed p m ∧
    ∃ front back, t = front ++ m ++ back ∧ (∀ c ∈ front, p c = true) ∧ ∀ c ∈ back, p c = true := by
  constructor
  · rintro rfl
    obtain ⟨front, back, ht, hfront, hback, htrimmed⟩ := exists_trim_eq p t
    exact ⟨htrimmed, front, back, ht, hfront, hback⟩
  · rintro ⟨htrimmed, front, back, rfl, hfront, hback⟩
    exact trim_append hfront hback htrimmed

end WebhookBridge.Text
