import WebhookBridge.Proofs.Json.Parts
import WebhookBridge.Proofs.Json.Reading
import WebhookBridge.Proofs.Number.Rounding

/-!
# The values that are read

What is true of every part of a value that stands at the front of a text. Its arrays and objects stand inside few enough
others, its integers have few enough digits, its floating-point numbers are numbers of the format, and none of its parts is
foreign. So whatever has been read can be written again, but for numbers that are not finite.

## Contents

* `Grammar.AtFront.forall_parts`: what holds of the parts of values, by the grammar;
* `Lenient.partFault?_of_readAll`: the lenient reader;
* `Strict.readAll_of_read`, `Strict.plain_of_read`: the strict reader.
-/

namespace WebhookBridge.Json

open Lenient (skipBlanks)

/-! ## Parts by the grammar -/

/-- What holds of every item, as long as something holds of the text that is kept by what is left of it. -/
theorem Sequence.forall_mem {α : Type} {item : Text → α → Text → Prop} {close : CodePoint} {T : Text → Prop}
    {Q : α → Prop} (hT : ∀ t rest, rest <:+ t → T t → T rest) (hsuffix : ∀ t a rest, item t a rest → rest <:+ t)
    (hitems : ∀ t a rest, T t → item t a rest → Q a) {t : Text} {as : List α} {rest : Text}
    (h : Sequence item close t as rest) (ht : T t) : ∀ a ∈ as, Q a := by
  induction h with
  | last hitem _ =>
      intro a ha
      rw [List.mem_singleton.1 ha]
      exact hitems _ _ _ ht hitem
  | @more _ _ _ next _ _ hitem hcomma _ ih =>
      intro a ha
      rcases List.mem_cons.1 ha with rfl | ha
      · exact hitems _ _ _ ht hitem
      · refine ih (hT _ _ ?_ ht) a ha
        exact ((suffix_skipBlanks next).trans (suffix_of_skipBlanks hcomma)).trans (hsuffix _ _ _ hitem)

namespace Grammar

/-- What holds of the parts of the values of a grammar, in texts of which something holds: the scalars are parts of which it
    holds, and so are arrays and objects inside fewer than `limit` others. -/
structure Yields (g : Grammar) (limit : Nat) (T : Text → Prop) (P : Nat × Json → Prop) : Prop where
  keeps : ∀ t rest, rest <:+ t → T t → T rest
  scalar : ∀ t v rest level, T t → g.scalar t v rest → ∀ part ∈ v.parts level, P part
  deepest : ∀ t v rest level, T t → g.deepest t v rest → ∀ part ∈ v.parts level, P part
  array : ∀ level vs, level < limit → P (level, .arr vs)
  object : ∀ level ms, level < limit → (Table.keys ms).Nodup →
    (∀ k ∈ Table.keys ms, ∃ t rest, T t ∧ g.key t k rest) → P (level, .obj ms)

variable {g : Grammar} {limit : Nat} {T : Text → Prop} {P : Nat × Json → Prop}

/-- **What holds of every part** of a value that stands at the front of a text. -/
theorem AtFront.forall_parts (hg : g.Shortens) (hy : g.Yields limit T P) : ∀ {levels level t v rest},
    g.AtFront levels t v rest → level + levels ≤ limit → T t → ∀ part ∈ v.parts level, P part
  | 0, level, t, v, rest, h, _, ht => hy.deepest t v rest level ht h
  | levels + 1, level, t, v, rest, h, hle, ht => by
    have hsuffix : ∀ t v rest, g.AtFront levels t v rest → rest <:+ t := fun _ _ _ h => (h.suffix hg).1
    have hinner : ∀ t v rest, T t → g.AtFront levels t v rest → ∀ part ∈ v.parts (level + 1), P part :=
      fun _ _ _ ht h => AtFront.forall_parts hg hy h (by omega) ht
    have hlt : level < limit := by omega
    cases h with
    | scalar h => exact hy.scalar t v rest level ht h
    | emptyArray _ => simpa [parts, elementParts] using hy.array level [] hlt
    | @array t vs rest h =>
        have hvs := h.forall_mem hy.keeps hsuffix hinner
          (hy.keeps _ _ ((suffix_skipBlanks t).trans (List.suffix_cons _ _)) ht)
        intro part hpart
        rcases List.mem_cons.1 hpart with rfl | hpart
        · exact hy.array level vs hlt
        · obtain ⟨v, hv, hpart⟩ := mem_elementParts.1 hpart
          exact hvs v hv part hpart
    | emptyObject _ => simpa [parts, memberParts] using hy.object level [] hlt List.nodup_nil (by simp [Table.keys])
    | @object t ms rest h =>
        have hmembers := h.forall_mem (Q := fun m => (∃ t rest, T t ∧ g.key t m.1 rest) ∧ ∀ part ∈ m.2.parts (level + 1), P part)
          hy.keeps (fun _ _ _ hm => (hm.suffix hg hsuffix).1) (fun t m rest ht hm => by
            cases hm with
            | @intro t k after next v rest hkey hcolon hvalue =>
                have hbody : T t := hy.keeps _ _ (List.suffix_cons _ _) ht
                refine ⟨⟨t, after, hbody, hkey⟩, hinner _ _ _ (hy.keeps _ _ ?_ hbody) hvalue⟩
                exact ((suffix_skipBlanks next).trans (suffix_of_skipBlanks hcolon)).trans (hg.key _ _ _ hkey))
          (hy.keeps _ _ ((suffix_skipBlanks t).trans (List.suffix_cons _ _)) ht)
        intro part hpart
        rcases List.mem_cons.1 hpart with rfl | hpart
        · refine hy.object level _ hlt (Table.nodup_keys_ofPairs ms) fun k hk => ?_
          obtain ⟨m, hm, rfl⟩ := List.mem_map.1 hk
          exact (hmembers m (Table.mem_ofPairs hm)).1
        · obtain ⟨m, hm, hpart⟩ := mem_memberParts.1 hpart
          exact (hmembers m (Table.mem_ofPairs hm)).2 part hpart

end Grammar

/-! ## The lenient reader -/

theorem ofDigits_lt {ds : List Nat} (h : ∀ d ∈ ds, d < 10) : Whole.ofDigits ds < 10 ^ ds.length := by
  have hfold : ∀ (ds : List Nat) (n : Nat), (∀ d ∈ ds, d < 10) →
      ds.foldl (fun n d => n * 10 + d) n < (n + 1) * 10 ^ ds.length := by
    intro ds
    induction ds with
    | nil => exact fun n _ => by simp
    | cons d ds ih =>
        intro n h
        have hd := h d (List.mem_cons_self ..)
        have hds := ih (n * 10 + d) fun e he => h e (List.mem_cons_of_mem _ he)
        have hle : (n * 10 + d + 1) * 10 ^ ds.length ≤ (n * 10 + 10) * 10 ^ ds.length :=
          Nat.mul_le_mul_right _ (by omega)
        calc ds.foldl (fun n d => n * 10 + d) (n * 10 + d)
            < (n * 10 + d + 1) * 10 ^ ds.length := hds
          _ ≤ (n * 10 + 10) * 10 ^ ds.length := hle
          _ = (n + 1) * 10 ^ (ds.length + 1) := by rw [Nat.pow_succ, Nat.mul_comm (10 ^ _), ← Nat.mul_assoc, Nat.add_mul n 1 10]
  simpa [Whole.ofDigits] using hfold ds 0 h

namespace Lenient

theorem spanDigits_lt (t : Text) : ∀ d ∈ (Numeral.spanDigits t).1, d < 10 := by
  induction t with
  | nil => simp [Numeral.spanDigits]
  | cons c t ih =>
      simp only [Numeral.spanDigits, Numeral.asciiDigit?]
      by_cases hc : c.isAsciiDigit = true
      · simp only [hc, if_true, List.mem_cons, forall_eq_or_imp]
        refine ⟨?_, ih⟩
        simp only [CodePoint.isAsciiDigit, Bool.and_eq_true, decide_eq_true_eq] at hc
        omega
      · simp [hc]

theorem wholeDigits_lt (t : Text) : ∀ d ∈ (wholeDigits t).1, d < 10 := by
  cases t with
  | nil => simp [wholeDigits]
  | cons c t =>
      rw [wholeDigits]
      split
      · simp
      · exact spanDigits_lt (c :: t)

/-- An integer of few enough digits. -/
theorem natAbs_withSign_lt (negative : Bool) {ds : List Nat} (h : ∀ d ∈ ds, d < 10) {m : Nat} (hlen : ds.length ≤ m) :
    (withSign negative (Whole.ofDigits ds)).natAbs < Nat.pow 10 m := by
  have habs : (withSign negative (Whole.ofDigits ds)).natAbs = Whole.ofDigits ds := by
    cases negative with
    | true => exact Int.natAbs_neg _
    | false => rfl
  rw [habs]
  exact Nat.lt_of_lt_of_le (ofDigits_lt h) (Nat.pow_le_pow_right (Nat.succ_pos 9) hlen)

/-- The parts of a scalar have no fault but that of being a number that is not finite. -/
theorem Scalar.partFault? {t rest : Text} {v : Json} (h : Scalar t v rest) (limit level : Nat) :
    ∀ part ∈ v.parts level, ∀ fault, partFault? limit part = some fault → fault = .notFinite := by
  have hvalue : ∀ (t : Text) (negative : Bool),
      ((scanNumeral t).isWhole = true → (scanNumeral t).whole.length ≤ Whole.maxDigits) →
      ∀ part ∈ ((scanNumeral t).value negative).parts level, ∀ fault, Json.partFault? limit part = some fault →
        fault = .notFinite := by
    intro t negative hlen part hpart fault hfault
    rw [ScannedNumeral.value] at hpart
    split at hpart
    · rename_i hwhole
      have hdigits : ∀ d ∈ (scanNumeral t).whole, d < 10 := wholeDigits_lt t
      have hlt := natAbs_withSign_lt negative hdigits (hlen hwhole)
      simp only [parts, List.mem_singleton] at hpart
      rw [hpart, Json.partFault?, if_pos hlt] at hfault
      cases hfault
    · simp only [parts, List.mem_singleton] at hpart
      rw [hpart, Json.partFault?] at hfault
      split at hfault
      · cases hfault
      · cases hfault
        rfl
  cases h with
  | str h =>
      intro part hpart fault hfault
      simp only [parts, List.mem_singleton] at hpart
      rw [hpart] at hfault
      cases hfault
  | @word w v hword rest =>
      intro part hpart fault hfault
      simp only [words, List.mem_cons, Prod.mk.injEq, List.not_mem_nil, or_false] at hword
      rcases hword with ⟨-, rfl⟩ | ⟨-, rfl⟩ | ⟨-, rfl⟩ | ⟨-, rfl⟩ | ⟨-, rfl⟩ | ⟨-, rfl⟩
      all_goals
        simp only [parts, List.mem_singleton] at hpart
        rw [hpart] at hfault
        first | (cases hfault; done) | (cases hfault; rfl)
  | numeral _ hlen => exact hvalue t false hlen
  | negative _ hlen => exact hvalue _ true hlen

theorem grammar_yields (limit : Nat) : grammar.Yields limit (fun _ => True)
    fun part => ∀ fault, Json.partFault? limit part = some fault → fault = .notFinite where
  keeps _ _ _ _ := trivial
  scalar _ _ _ level _ h := h.partFault? limit level
  deepest _ _ _ level _ h := Scalar.partFault? h limit level
  array level vs hlt fault hfault := by
    rw [Json.partFault?, if_neg (Nat.not_le.2 hlt)] at hfault
    cases hfault
  object level ms hlt _ _ fault hfault := by
    rw [Json.partFault?, if_neg (Nat.not_le.2 hlt)] at hfault
    cases hfault

/-- **The parts of what the lenient reader finds** have no fault but that of being a number that is not finite. -/
theorem partFault?_of_readValue {levels : Nat} {t : Text} {v : Json} {rest : Text}
    (h : readValue levels t = .ok (v, rest)) :
    ∀ part ∈ v.parts 0, ∀ fault, Json.partFault? levels part = some fault → fault = .notFinite :=
  Grammar.AtFront.forall_parts shortens_grammar (grammar_yields levels) (readValue_ok_iff.1 h) (Nat.le_of_eq (Nat.zero_add _))
    trivial

theorem exists_readValue_of_readAll {levels : Nat} {t : Text} {v : Json} (h : readAll levels t = .ok v) :
    ∃ rest, readValue levels (skipBlanks t) = .ok (v, rest) ∧ skipBlanks rest = [] := by
  obtain ⟨⟨w, rest⟩, hread, h⟩ := bind_eq_ok.1 h
  dsimp only at h
  split at h
  · rename_i hrest
    cases h
    exact ⟨rest, hread, hrest⟩
  · cases h

theorem partFault?_of_readAll {levels : Nat} {t : Text} {v : Json} (h : readAll levels t = .ok v) :
    ∀ part ∈ v.parts 0, ∀ fault, Json.partFault? levels part = some fault → fault = .notFinite := by
  obtain ⟨rest, hread, -⟩ := exists_readValue_of_readAll h
  exact partFault?_of_readValue hread

theorem readAll_of_read {levels : Nat} {t : Text} {v : Json} (h : read levels t = .ok v) : readAll levels t = .ok v := by
  unfold read at h
  split at h
  · cases h
  · exact h

end Lenient

/-! ## The strict reader -/

/-- A part as a text of characters gives it: a number of the format, a string of characters, or an object whose keys are
    different strings of characters. -/
def Plain : Nat × Json → Prop
  | (_, .float x) => x.IsStored
  | (_, .str s) => s.hasSurrogate = false
  | (_, .obj ms) => (Table.keys ms).Nodup ∧ ∀ k ∈ Table.keys ms, k.hasSurrogate = false
  | _ => True

theorem hasSurrogate_of_suffix {t rest : Text} (h : rest <:+ t) (ht : t.hasSurrogate = false) : rest.hasSurrogate = false := by
  obtain ⟨before, rfl⟩ := h
  rw [Text.hasSurrogate_append, Bool.or_eq_false_iff] at ht
  exact ht.2

namespace Strict

/-- The parts of a scalar are plain in a text of characters. -/
theorem Scalar.plain {t rest : Text} {v : Json} (h : Scalar t v rest) (ht : t.hasSurrogate = false) (level : Nat) :
    ∀ part ∈ v.parts level, Plain part := by
  have hvalue : ∀ (n : Lenient.ScannedNumeral) (negative : Bool), ∀ part ∈ (n.value negative).parts level, Plain part := by
    intro n negative part hpart
    rw [Lenient.ScannedNumeral.value] at hpart
    split at hpart
    · simp only [parts, List.mem_singleton] at hpart
      rw [hpart]
      trivial
    · simp only [parts, List.mem_singleton] at hpart
      rw [hpart]
      exact Binary64.isStored_ofDecimal negative _ _
  cases h with
  | str h =>
      intro part hpart
      simp only [parts, List.mem_singleton] at hpart
      rw [hpart]
      rw [Text.hasSurrogate_cons, Bool.or_eq_false_iff] at ht
      exact h.hasSurrogate ht.2
  | word hword rest =>
      intro part hpart
      simp only [Lenient.words, List.mem_cons, Prod.mk.injEq, List.not_mem_nil, or_false] at hword
      rcases hword with ⟨-, rfl⟩ | ⟨-, rfl⟩ | ⟨-, rfl⟩ | ⟨-, rfl⟩ | ⟨-, rfl⟩ | ⟨-, rfl⟩
      all_goals
        simp only [parts, List.mem_singleton] at hpart
        rw [hpart]
        trivial
  | numeral h =>
      obtain ⟨-, -, rfl, -⟩ := readNumber_ok h
      exact hvalue _ _
  | negative h =>
      obtain ⟨-, -, rfl, -⟩ := readNumber_ok h
      exact hvalue _ _

theorem grammar_yields (limit : Nat) : grammar.Yields limit (fun t => t.hasSurrogate = false) Plain where
  keeps _ _ := hasSurrogate_of_suffix
  scalar _ _ _ level ht h := h.plain ht level
  deepest _ _ _ _ _ h := h.elim
  array _ _ _ := trivial
  object _ _ _ hnodup hkeys := by
    refine ⟨hnodup, fun k hk => ?_⟩
    obtain ⟨t, rest, ht, hkey⟩ := hkeys k hk
    exact Content.hasSurrogate hkey ht

theorem exists_readValue_of_read {t : Text} {v : Json} (h : read t = .ok v) :
    ∃ rest, readValue maxNesting (skipBlanks t) = .ok (v, rest) ∧ skipBlanks rest = [] := by
  obtain ⟨⟨w, rest⟩, hread, h⟩ := bind_eq_ok.1 h
  dsimp only at h
  split at h
  · rename_i hrest
    cases h
    exact ⟨rest, hread, hrest⟩
  · cases h

/-- **What the strict reader finds**, the lenient one finds as well. -/
theorem readAll_of_read {t : Text} {v : Json} (h : read t = .ok v) : Lenient.readAll (maxNesting + 1) t = .ok v := by
  obtain ⟨rest, hread, hrest⟩ := exists_readValue_of_read h
  have hlenient := Lenient.readValue_ok_iff.2 (AtFront.lenient (readValue_ok_iff.1 hread))
  simp [Lenient.readAll, hlenient, hrest, bind, Except.bind]

/-- **The parts of what the strict reader finds** in a text of characters. -/
theorem plain_of_read {t : Text} {v : Json} (h : read t = .ok v) (ht : t.hasSurrogate = false) :
    ∀ part ∈ v.parts 0, Plain part := by
  obtain ⟨rest, hread, -⟩ := exists_readValue_of_read h
  exact Grammar.AtFront.forall_parts shortens_grammar (grammar_yields (maxNesting + 1)) (readValue_ok_iff.1 hread)
    (Nat.le_of_eq (Nat.zero_add _)) (hasSurrogate_of_suffix (suffix_skipBlanks t) ht)

end Strict

end WebhookBridge.Json
