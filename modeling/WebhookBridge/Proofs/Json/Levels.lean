import WebhookBridge.Json.Lenient

/-!
# Levels of nesting

The reader is given the number of arrays and objects that may stand inside one another. More levels never change what it
finds: they only let it go on where it gave up. So whether octets denote a value is a question without a number of levels,
and the reader answers it unless it gives up.

## Contents

* `Lenient.Extends`: a reader that finds the same unless the other gives up;
* `Lenient.readAll_extends`: more levels find the same;
* `Lenient.Denotes`, `Lenient.GivesUp`: whether octets denote a value, and whether they are nested too deeply to be read;
* `Lenient.readDocument_ok_iff`, `readDocument_tooDeep_iff`, `readDocument_malformed_iff`: the outcomes of reading.
-/

namespace WebhookBridge.Json.Lenient

@[simp] theorem mapError_ok {ε ε' α : Type} (f : ε → ε') (a : α) : (.ok a : Except ε α).mapError f = .ok a := rfl

@[simp] theorem mapError_error {ε ε' α : Type} (f : ε → ε') (e : ε) : (.error e : Except ε α).mapError f = .error (f e) :=
  rfl

/-- The second reader finds what the first finds, unless the first gives up. -/
def Extends {α : Type} (r r' : Text → Except Fault α) : Prop := ∀ t, r t ≠ .error .tooDeep → r' t = r t

/-- Two computations one after the other agree if both halves do. -/
theorem bind_eq_of_ne {α β : Type} {x x' : Except Fault α} {f f' : α → Except Fault β}
    (hx : x ≠ .error .tooDeep → x' = x) (hf : ∀ a, f a ≠ .error .tooDeep → f' a = f a)
    (h : (x >>= f) ≠ .error .tooDeep) : (x' >>= f') = (x >>= f) := by
  cases x with
  | error e =>
      have he : e ≠ .tooDeep := by
        intro he
        subst he
        exact h rfl
      rw [hx (by simpa using he)]
      rfl
  | ok a =>
      rw [hx (by simp)]
      exact hf a h

theorem map_eq_of_ne {α β : Type} {x x' : Except Fault α} {f : α → β}
    (hx : x ≠ .error .tooDeep → x' = x) (h : x.map f ≠ .error .tooDeep) : x'.map f = x.map f := by
  cases x with
  | error e => rw [hx fun he => h (by rw [he]; rfl)]
  | ok a => rw [hx (by simp)]

variable {value value' : Reader}

theorem readElements_extends (hv : Extends value value') (fuel : Nat) :
    Extends (readElements value fuel) (readElements value' fuel) := by
  induction fuel with
  | zero =>
      intro t _
      rfl
  | succ fuel ih =>
      intro t h
      unfold readElements at h ⊢
      refine bind_eq_of_ne (hv t) ?_ h
      rintro ⟨v, rest⟩ hne
      dsimp only at hne ⊢
      split
      · rfl
      · split
        · rfl
        · split
          · rename_i c after hrest _ hcomma
            simp only [hrest, hcomma, if_true] at hne
            exact bind_eq_of_ne (ih _) (fun _ _ => rfl) hne
          · rfl

theorem readMembers_extends (hv : Extends value value') (fuel : Nat) :
    Extends (readMembers value fuel) (readMembers value' fuel) := by
  induction fuel with
  | zero =>
      intro t _
      rfl
  | succ fuel ih =>
      intro t h
      unfold readMembers at h ⊢
      split
      · rfl
      · rename_i c rest
        dsimp only at h
        split
        · rfl
        · rename_i hquote
          rw [if_neg hquote] at h
          refine bind_eq_of_ne (fun _ => rfl) ?_ h
          rintro ⟨k, rest⟩ hne
          dsimp only at hne ⊢
          split
          · rfl
          · rename_i c after hrest
            rw [hrest] at hne
            dsimp only at hne
            split
            · rfl
            · rename_i hcolon
              rw [if_neg hcolon] at hne
              refine bind_eq_of_ne (hv _) ?_ hne
              rintro ⟨v, rest⟩ hne
              dsimp only at hne ⊢
              split
              · rfl
              · split
                · rfl
                · split
                  · rename_i c after hrest _ hcomma
                    simp only [hrest, hcomma, if_true] at hne
                    exact bind_eq_of_ne (ih _) (fun _ _ => rfl) hne
                  · rfl

theorem readArray_extends (hv : Extends value value') : Extends (readArray value) (readArray value') := by
  intro t h
  unfold readArray at h ⊢
  split
  · rfl
  · rename_i c rest hskip
    rw [hskip] at h
    dsimp only at h
    split
    · rfl
    · rename_i hclose
      rw [if_neg hclose] at h
      exact map_eq_of_ne (readElements_extends hv _ _) h

theorem readObject_extends (hv : Extends value value') : Extends (readObject value) (readObject value') := by
  intro t h
  unfold readObject at h ⊢
  split
  · rfl
  · rename_i c rest hskip
    rw [hskip] at h
    dsimp only at h
    split
    · rfl
    · rename_i hclose
      rw [if_neg hclose] at h
      exact map_eq_of_ne (readMembers_extends hv _ _) h

/-- **One level more** finds the same. -/
theorem readValue_succ_extends (levels : Nat) : Extends (readValue levels) (readValue (levels + 1)) := by
  induction levels with
  | zero =>
      intro t h
      cases t with
      | nil => rfl
      | cons c rest =>
          -- without a level left an array or an object is where the first reader gives up
          have hopen : ¬ (c = CodePoint.ofChar '[' ∨ c = CodePoint.ofChar '{') := by
            intro hopen
            exact h (if_pos hopen)
          rw [not_or] at hopen
          simp [readValue, hopen.1, hopen.2]
  | succ levels ih =>
      intro t h
      cases t with
      | nil => rfl
      | cons c rest =>
          rw [readValue] at h ⊢
          rw [readValue]
          split
          · rename_i harr
            rw [if_pos harr] at h
            exact readArray_extends ih rest h
          · rename_i harr
            rw [if_neg harr] at h
            split
            · rename_i hobj
              rw [if_pos hobj] at h
              exact readObject_extends ih rest h
            · rfl

/-- **More levels** find the same. -/
theorem readValue_extends {levels levels' : Nat} (hle : levels ≤ levels') :
    Extends (readValue levels) (readValue levels') := by
  -- one level more at a time
  induction hle with
  | refl => exact fun _ _ => rfl
  | step _ ih =>
      intro t h
      have hmid := ih t h
      rw [readValue_succ_extends _ t (by rw [hmid]; exact h), hmid]

theorem readAll_extends {levels levels' : Nat} (hle : levels ≤ levels') : Extends (readAll levels) (readAll levels') :=
  fun _ h => bind_eq_of_ne (readValue_extends hle _) (fun _ _ => rfl) h

/-! ## Documents -/

/-- Octets denote a value if their text is read as that value with some number of levels. -/
def Denotes (octets : Octets) (v : Json) : Prop :=
  ∃ t levels, decodeDocument octets = .ok t ∧ readAll levels t = .ok v

/-- The reader gives up on octets: their text is not read with the greatest number of levels, nor with fewer. -/
def GivesUp (octets : Octets) : Prop :=
  ∃ t, decodeDocument octets = .ok t ∧ ∀ levels ≤ maxNesting, readAll levels t = .error .tooDeep

/-- A text is read with every number of levels as it is read with the greatest, unless the reader gives up there. -/
theorem readAll_eq {t : Text} (h : readAll maxNesting t ≠ .error .tooDeep) {levels : Nat}
    (hl : readAll levels t ≠ .error .tooDeep) : readAll levels t = readAll maxNesting t := by
  rcases Nat.le_total levels maxNesting with hle | hle
  · exact (readAll_extends hle t hl).symm
  · exact readAll_extends hle t h

theorem givesUp_iff {octets : Octets} {t : Text} (ht : decodeDocument octets = .ok t) :
    GivesUp octets ↔ readAll maxNesting t = .error .tooDeep := by
  constructor
  · rintro ⟨t', ht', hall⟩
    rw [ht] at ht'
    cases ht'
    exact hall maxNesting (Nat.le_refl _)
  · intro h
    refine ⟨t, ht, fun levels hle => ?_⟩
    refine Classical.byContradiction fun hne => hne ?_
    rw [← readAll_extends hle t hne, h]

theorem not_givesUp {octets : Octets} {fault : DecodeFault} (ht : decodeDocument octets = .error fault) :
    ¬ GivesUp octets := by
  rintro ⟨t, ht', -⟩
  rw [ht] at ht'
  cases ht'

/-- The reader gives up exactly on what is nested too deeply. -/
theorem readDocument_tooDeep_iff {octets : Octets} :
    (∃ fault, readDocument octets = .error fault ∧ fault.isTooDeep = true) ↔ GivesUp octets := by
  cases ht : decodeDocument octets with
  | error fault =>
      simp only [readDocument, ht, not_givesUp ht, iff_false]
      rintro ⟨_, he, hdeep⟩
      cases he
      cases hdeep
  | ok t =>
      rw [givesUp_iff ht]
      simp only [readDocument, ht]
      cases hread : readAll maxNesting t with
      | ok v => simp
      | error fault => cases fault <;> simp [DocumentFault.isTooDeep]

/-- The reader finds the value that the octets denote, unless it gives up. -/
theorem readDocument_ok_iff {octets : Octets} {v : Json} :
    readDocument octets = .ok v ↔ Denotes octets v ∧ ¬ GivesUp octets := by
  cases ht : decodeDocument octets with
  | error fault =>
      simp only [readDocument, ht, reduceCtorEq, false_iff]
      rintro ⟨⟨t, levels, ht', -⟩, -⟩
      rw [ht] at ht'
      cases ht'
  | ok t =>
      rw [givesUp_iff ht]
      simp only [readDocument, ht]
      constructor
      · intro h
        cases hread : readAll maxNesting t with
        | error fault => simp [hread] at h
        | ok w =>
            rw [hread] at h
            cases h
            exact ⟨⟨t, maxNesting, ht, hread⟩, by simp⟩
      · rintro ⟨⟨t', levels, ht', hread⟩, hne⟩
        rw [ht] at ht'
        cases ht'
        rw [← readAll_eq hne (by rw [hread]; simp), hread]
        rfl

/-- The reader does not give up on what it reads. -/
theorem not_givesUp_of_isOk {octets : Octets} (h : (readDocument octets).isOk = true) : ¬ GivesUp octets := by
  cases hread : readDocument octets with
  | ok v => exact (readDocument_ok_iff.1 hread).2
  | error fault =>
      rw [hread] at h
      cases h

/-- The reader finds a fault of form in what denotes no value, unless it gives up. -/
theorem readDocument_malformed_iff {octets : Octets} :
    (∃ fault, readDocument octets = .error fault ∧ fault.isTooDeep = false) ↔
      (∀ v, ¬ Denotes octets v) ∧ ¬ GivesUp octets := by
  cases hread : readDocument octets with
  | ok v =>
      have hv := readDocument_ok_iff.1 hread
      simp only [reduceCtorEq, false_and, exists_false, false_iff]
      exact fun h => h.1 v hv.1
  | error fault =>
      have hup := @readDocument_tooDeep_iff octets
      -- a fault is no value, so that the octets denote none unless the reader gives up
      have hok : ∀ v, ¬ (Denotes octets v ∧ ¬ GivesUp octets) := by
        intro v hv
        rw [readDocument_ok_iff.2 hv] at hread
        cases hread
      rw [hread] at hup
      simp only [Except.error.injEq, exists_eq_left'] at hup ⊢
      rw [← hup, Bool.not_eq_true]
      constructor
      · intro hform
        refine ⟨fun v hv => hok v ⟨hv, ?_⟩, hform⟩
        rw [← hup, hform]
        decide
      · exact fun h => h.2

end WebhookBridge.Json.Lenient
