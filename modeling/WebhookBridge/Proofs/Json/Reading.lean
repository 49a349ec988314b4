import WebhookBridge.Proofs.Json.Scalars

/-!
# What stands at the front of a text

Both readers, told without their fuel. A value stands at the front of a text, before the rest, if it is a scalar that
stands there, or an array or an object whose parts stand there one after the other. The readers differ in their scalars
and in the keys of objects alone. Each finds exactly the values that stand there, since whatever is read takes at least one
code point off the text.

## Contents

* `Sequence`: items one after the other up to a closing bracket;
* `Grammar`, `Grammar.Member`, `Grammar.ValueOver`, `Grammar.AtFront`: the values of a grammar at the front of a text;
* `Grammar.AtFront.suffix`: what stands at the front takes up some of the text;
* `Lenient.grammar`, `Lenient.readValue_ok_iff`: the lenient reader;
* `Strict.grammar`, `Strict.readValue_ok_iff`: the strict reader.
-/

namespace WebhookBridge.Json

open Lenient (skipBlanks)

/-! ## The relation -/

/-- Items one after the other, the last one before a closing bracket and the others before commas. -/
inductive Sequence {α : Type} (item : Text → α → Text → Prop) (close : CodePoint) : Text → List α → Text → Prop
  | last {t : Text} {a : α} {rest after : Text} (hitem : item t a rest) (hclose : skipBlanks rest = close :: after) :
      Sequence item close t [a] after
  | more {t : Text} {a : α} {rest next : Text} {others : List α} {after : Text} (hitem : item t a rest)
      (hcomma : skipBlanks rest = CodePoint.ofChar ',' :: next)
      (hmore : Sequence item close (skipBlanks next) others after) : Sequence item close t (a :: others) after

/-- What a reader takes for scalars, for the keys of objects after their opening quotes, and for values inside which nothing
    may stand any more. -/
structure Grammar where
  scalar : Text → Json → Text → Prop
  key : Text → Text → Text → Prop
  deepest : Text → Json → Text → Prop

namespace Grammar

variable {g g' : Grammar} {inner inner' : Text → Json → Text → Prop} {levels : Nat} {t rest : Text} {v : Json}

/-- A member of an object: its key between quotes, a colon, and its value. -/
inductive Member (g : Grammar) (inner : Text → Json → Text → Prop) : Text → Text × Json → Text → Prop
  | intro {t k after next : Text} {v : Json} {rest : Text} (hkey : g.key t k after)
      (hcolon : skipBlanks after = CodePoint.ofChar ':' :: next) (hvalue : inner (skipBlanks next) v rest) :
      Member g inner (CodePoint.ofChar '"' :: t) (k, v) rest

/-- A value whose elements and members stand where `inner` says. -/
inductive ValueOver (g : Grammar) (inner : Text → Json → Text → Prop) : Text → Json → Text → Prop
  | scalar {t : Text} {v : Json} {rest : Text} (h : g.scalar t v rest) : ValueOver g inner t v rest
  | emptyArray {t rest : Text} (h : skipBlanks t = CodePoint.ofChar ']' :: rest) :
      ValueOver g inner (CodePoint.ofChar '[' :: t) (.arr []) rest
  | array {t : Text} {vs : List Json} {rest : Text} (h : Sequence inner (CodePoint.ofChar ']') (skipBlanks t) vs rest) :
      ValueOver g inner (CodePoint.ofChar '[' :: t) (.arr vs) rest
  | emptyObject {t rest : Text} (h : skipBlanks t = CodePoint.ofChar '}' :: rest) :
      ValueOver g inner (CodePoint.ofChar '{' :: t) (.obj []) rest
  | object {t : Text} {ms : List (Text × Json)} {rest : Text}
      (h : Sequence (g.Member inner) (CodePoint.ofChar '}') (skipBlanks t) ms rest) :
      ValueOver g inner (CodePoint.ofChar '{' :: t) (.obj (Table.ofPairs ms)) rest

/-- **A value stands at the front of a text**, before the rest, where `levels` arrays and objects may stand around one
    another. -/
def AtFront (g : Grammar) : Nat → Text → Json → Text → Prop
  | 0 => g.deepest
  | levels + 1 => g.ValueOver (g.AtFront levels)

end Grammar

/-! ## Any grammar -/

theorem Sequence.mono {α : Type} {item item' : Text → α → Text → Prop} {close : CodePoint}
    (himp : ∀ t a rest, item t a rest → item' t a rest) {t : Text} {as : List α} {rest : Text}
    (h : Sequence item close t as rest) : Sequence item' close t as rest := by
  induction h with
  | last hitem hclose => exact .last (himp _ _ _ hitem) hclose
  | more hitem hcomma _ ih => exact .more (himp _ _ _ hitem) hcomma ih

/-- What holds of the text before every item holds of the whole. -/
theorem Sequence.first {α : Type} {item : Text → α → Text → Prop} {close : CodePoint} {P : Text → Prop}
    (hitems : ∀ t a rest, item t a rest → P t) {t : Text} {as : List α} {rest : Text}
    (h : Sequence item close t as rest) : P t := by
  cases h with
  | last hitem _ => exact hitems _ _ _ hitem
  | more hitem _ _ => exact hitems _ _ _ hitem

theorem suffix_skipBlanks (t : Text) : skipBlanks t <:+ t := List.dropWhile_suffix _

theorem suffix_of_skipBlanks {t rest : Text} {c : CodePoint} (h : skipBlanks t = c :: rest) : rest <:+ t :=
  (List.suffix_cons c rest).trans (h ▸ suffix_skipBlanks t)

/-- If every item takes up some of the text, what comes after them is what is left of it. -/
theorem Sequence.suffix {α : Type} {item : Text → α → Text → Prop} {close : CodePoint}
    (hitems : ∀ t a rest, item t a rest → rest <:+ t) {t : Text} {as : List α} {rest : Text}
    (h : Sequence item close t as rest) : rest <:+ t := by
  induction h with
  | last hitem hclose => exact (suffix_of_skipBlanks hclose).trans (hitems _ _ _ hitem)
  | @more _ _ _ next _ _ hitem hcomma _ ih =>
      exact ((ih.trans (suffix_skipBlanks next)).trans (suffix_of_skipBlanks hcomma)).trans (hitems _ _ _ hitem)

namespace Grammar

variable {g g' : Grammar} {inner inner' : Text → Json → Text → Prop} {levels : Nat} {t rest : Text} {v : Json}

/-- A grammar that takes at least the scalars and the keys that another one takes. -/
structure Includes (g' g : Grammar) : Prop where
  scalar : ∀ t v rest, g.scalar t v rest → g'.scalar t v rest
  key : ∀ t k rest, g.key t k rest → g'.key t k rest

theorem Member.mono (hg : g'.Includes g) (himp : ∀ t v rest, inner t v rest → inner' t v rest) {m : Text × Json}
    (h : g.Member inner t m rest) : g'.Member inner' t m rest := by
  cases h with
  | intro hkey hcolon hvalue => exact .intro (hg.key _ _ _ hkey) hcolon (himp _ _ _ hvalue)

theorem ValueOver.mono (hg : g'.Includes g) (himp : ∀ t v rest, inner t v rest → inner' t v rest)
    (h : g.ValueOver inner t v rest) : g'.ValueOver inner' t v rest := by
  cases h with
  | scalar h => exact .scalar (hg.scalar _ _ _ h)
  | emptyArray h => exact .emptyArray h
  | array h => exact .array (h.mono himp)
  | emptyObject h => exact .emptyObject h
  | object h => exact .object (h.mono fun _ _ _ hm => hm.mono hg himp)

/-- A grammar whose scalars, keys and innermost values take up some of the text. -/
structure Shortens (g : Grammar) : Prop where
  scalar : ∀ t v rest, g.scalar t v rest → rest <:+ t ∧ rest.length < t.length
  key : ∀ t k rest, g.key t k rest → rest <:+ t
  deepest : ∀ t v rest, g.deepest t v rest → rest <:+ t ∧ rest.length < t.length

theorem Member.suffix (hg : g.Shortens) (hinner : ∀ t v rest, inner t v rest → rest <:+ t) {m : Text × Json}
    (h : g.Member inner t m rest) : rest <:+ t ∧ rest.length < t.length := by
  cases h with
  | @intro _ _ _ next _ _ hkey hcolon hvalue =>
      have hvalue := (hinner _ _ _ hvalue).trans (suffix_skipBlanks next)
      have hsuffix := (hvalue.trans (suffix_of_skipBlanks hcolon)).trans (hg.key _ _ _ hkey)
      exact ⟨hsuffix.trans (List.suffix_cons _ _), Nat.lt_succ_of_le hsuffix.length_le⟩

theorem Member.quote {m : Text × Json} (h : g.Member inner t m rest) : ∃ more, t = CodePoint.ofChar '"' :: more := by
  cases h with
  | intro _ _ _ => exact ⟨_, rfl⟩

theorem ValueOver.suffix (hg : g.Shortens) (hinner : ∀ t v rest, inner t v rest → rest <:+ t)
    (h : g.ValueOver inner t v rest) : rest <:+ t ∧ rest.length < t.length := by
  -- an array or an object takes up its opening bracket at least
  have hbracket : ∀ {c : CodePoint} {t : Text}, rest <:+ t → rest <:+ c :: t ∧ rest.length < (c :: t).length :=
    fun hsuffix => ⟨hsuffix.trans (List.suffix_cons _ _), Nat.lt_succ_of_le hsuffix.length_le⟩
  cases h with
  | scalar h => exact hg.scalar _ _ _ h
  | emptyArray h => exact hbracket (suffix_of_skipBlanks h)
  | array h => exact hbracket ((h.suffix hinner).trans (suffix_skipBlanks _))
  | emptyObject h => exact hbracket (suffix_of_skipBlanks h)
  | object h => exact hbracket ((h.suffix fun _ _ _ hm => (hm.suffix hg hinner).1).trans (suffix_skipBlanks _))

/-- **What stands at the front of a text** takes up some of it, and the rest is what is left. -/
theorem AtFront.suffix (hg : g.Shortens) : ∀ {levels t v rest}, g.AtFront levels t v rest →
    rest <:+ t ∧ rest.length < t.length
  | 0, _, _, _, h => hg.deepest _ _ _ h
  | _ + 1, _, _, _, h => ValueOver.suffix hg (fun _ _ _ h => (AtFront.suffix hg h).1) h

end Grammar

/-! ## The lenient reader -/

theorem comma_ne : CodePoint.ofChar ',' ≠ CodePoint.ofChar ']' ∧ CodePoint.ofChar ',' ≠ CodePoint.ofChar '}' := by decide

/-- Fuel that covers a text covers what is left of it after an item and a comma. -/
theorem exists_fuel_of_comma {t rest next : Text} {fuel : Nat} (hitem : rest.length < t.length)
    (hcomma : skipBlanks rest = CodePoint.ofChar ',' :: next) (hfuel : t.length ≤ fuel) :
    ∃ n, fuel = n + 1 ∧ (skipBlanks next).length ≤ n := by
  have hnext := (suffix_of_skipBlanks hcomma).length_le
  have hskip := (suffix_skipBlanks next).length_le
  exact ⟨fuel - 1, by omega, by omega⟩

namespace Lenient

/-- What the lenient reader takes. -/
def grammar : Grammar := ⟨Scalar, Content, Scalar⟩

theorem shortens_grammar : grammar.Shortens :=
  ⟨fun _ _ _ h => h.suffix, fun _ _ _ h => h.suffix, fun _ _ _ h => h.suffix⟩

section Loops

variable {value : Reader} {inner : Text → Json → Text → Prop}

theorem sequence_of_readElements (hvalue : ∀ t v rest, value t = .ok (v, rest) → inner t v rest) {fuel : Nat} :
    ∀ {t vs rest}, readElements value fuel t = .ok (vs, rest) → Sequence inner (CodePoint.ofChar ']') t vs rest := by
  induction fuel with
  | zero => intro t vs rest h; cases h
  | succ fuel ih =>
      intro t vs rest h
      obtain ⟨⟨v, after⟩, hv, h⟩ := bind_eq_ok.1 h
      dsimp only at h
      split at h
      · cases h
      · rename_i c next hskip
        split at h
        · rename_i hclose
          cases h
          rw [hclose] at hskip
          exact .last (hvalue _ _ _ hv) hskip
        · split at h
          · rename_i hcomma
            obtain ⟨⟨others, rest'⟩, hothers, h⟩ := bind_eq_ok.1 h
            cases h
            rw [hcomma] at hskip
            exact .more (hvalue _ _ _ hv) hskip (ih hothers)
          · cases h

theorem sequence_of_readMembers (hvalue : ∀ t v rest, value t = .ok (v, rest) → inner t v rest) {fuel : Nat} :
    ∀ {t ms rest}, readMembers value fuel t = .ok (ms, rest) →
      Sequence (grammar.Member inner) (CodePoint.ofChar '}') t ms rest := by
  induction fuel with
  | zero => intro t ms rest h; cases h
  | succ fuel ih =>
      intro t ms rest h
      unfold readMembers at h
      split at h
      · cases h
      · rename_i c t
        split at h
        · cases h
        · rename_i hquote
          obtain ⟨⟨k, afterKey⟩, hk, h⟩ := bind_eq_ok.1 h
          dsimp only at h
          split at h
          · cases h
          · rename_i d afterColon hcolon
            split at h
            · cases h
            · rename_i hd
              obtain ⟨⟨v, afterValue⟩, hv, h⟩ := bind_eq_ok.1 h
              dsimp only at h
              rw [Decidable.not_not.1 hd] at hcolon
              have hmember : grammar.Member inner (CodePoint.ofChar '"' :: t) (k, v) afterValue :=
                .intro (content_of_readString hk) hcolon (hvalue _ _ _ hv)
              rw [Decidable.not_not.1 hquote]
              split at h
              · cases h
              · rename_i e next hskip
                split at h
                · rename_i hclose
                  cases h
                  rw [hclose] at hskip
                  exact .last hmember hskip
                · split at h
                  · rename_i hcomma
                    obtain ⟨⟨others, rest'⟩, hothers, h⟩ := bind_eq_ok.1 h
                    cases h
                    rw [hcomma] at hskip
                    exact .more hmember hskip (ih hothers)
                  · cases h

theorem readElements_of_sequence (hvalue : ∀ t v rest, inner t v rest → value t = .ok (v, rest))
    (hshort : ∀ t v rest, inner t v rest → rest.length < t.length) {t : Text} {vs : List Json} {rest : Text}
    (h : Sequence inner (CodePoint.ofChar ']') t vs rest) :
    ∀ {fuel}, t.length ≤ fuel → readElements value fuel t = .ok (vs, rest) := by
  induction h with
  | @last t _ _ _ hitem hclose =>
      intro fuel hfuel
      have hlt := hshort _ _ _ hitem
      obtain ⟨fuel, rfl⟩ : ∃ n, fuel = n + 1 := ⟨fuel - 1, by omega⟩
      simp [readElements, hvalue _ _ _ hitem, hclose, bind, Except.bind]
  | more hitem hcomma _ ih =>
      intro fuel hfuel
      obtain ⟨fuel, rfl, hle⟩ := exists_fuel_of_comma (hshort _ _ _ hitem) hcomma hfuel
      simp [readElements, hvalue _ _ _ hitem, hcomma, comma_ne.1, ih hle, bind, Except.bind]

theorem readMembers_of_sequence (hvalue : ∀ t v rest, inner t v rest → value t = .ok (v, rest))
    (hshort : ∀ t v rest, inner t v rest → rest <:+ t) {t : Text} {ms : List (Text × Json)} {rest : Text}
    (h : Sequence (grammar.Member inner) (CodePoint.ofChar '}') t ms rest) :
    ∀ {fuel}, t.length ≤ fuel → readMembers value fuel t = .ok (ms, rest) := by
  induction h with
  | last hitem hclose =>
      intro fuel hfuel
      cases hitem with
      | intro hkey hcolon hv =>
          obtain ⟨fuel, rfl, -⟩ := Strict.exists_fuel hfuel
          simp [readMembers, readString_of_content hkey, hcolon, hvalue _ _ _ hv, hclose, bind, Except.bind]
  | more hitem hcomma _ ih =>
      intro fuel hfuel
      obtain ⟨fuel, rfl, hle⟩ := exists_fuel_of_comma (hitem.suffix shortens_grammar hshort).2 hcomma hfuel
      cases hitem with
      | intro hkey hcolon hv =>
          simp [readMembers, readString_of_content hkey, hcolon, hvalue _ _ _ hv, hcomma, comma_ne.2, ih hle, bind,
            Except.bind]

end Loops

/-- No value begins with a closing bracket. -/
theorem not_closing {levels : Nat} {t : Text} {v : Json} {rest : Text} (h : grammar.AtFront levels t v rest) :
    t.head? ≠ some (CodePoint.ofChar ']') := by
  have hbracket : CodePoint.ofChar '[' ≠ CodePoint.ofChar ']' ∧ CodePoint.ofChar '{' ≠ CodePoint.ofChar ']' := by decide
  cases levels with
  | zero => exact Scalar.not_closing h
  | succ levels =>
      cases h with
      | scalar h => exact Scalar.not_closing h
      | emptyArray _ => simp [hbracket.1]
      | array _ => simp [hbracket.1]
      | emptyObject _ => simp [hbracket.2]
      | object _ => simp [hbracket.2]

variable {t rest : Text} {v : Json}

theorem valueOver_of_readArray {value : Reader} {inner : Text → Json → Text → Prop}
    (hvalue : ∀ t v rest, value t = .ok (v, rest) → inner t v rest) (h : readArray value t = .ok (v, rest)) :
    grammar.ValueOver inner (CodePoint.ofChar '[' :: t) v rest := by
  unfold readArray at h
  split at h
  · cases h
  · rename_i c more hskip
    split at h
    · rename_i hclose
      cases h
      rw [hclose] at hskip
      exact .emptyArray hskip
    · obtain ⟨⟨vs, rest'⟩, hvs, he⟩ := map_eq_ok_iff.1 h
      cases he
      rw [← hskip] at hvs
      exact .array (sequence_of_readElements hvalue hvs)

theorem valueOver_of_readObject {value : Reader} {inner : Text → Json → Text → Prop}
    (hvalue : ∀ t v rest, value t = .ok (v, rest) → inner t v rest) (h : readObject value t = .ok (v, rest)) :
    grammar.ValueOver inner (CodePoint.ofChar '{' :: t) v rest := by
  unfold readObject at h
  split at h
  · cases h
  · rename_i c more hskip
    split at h
    · rename_i hclose
      cases h
      rw [hclose] at hskip
      exact .emptyObject hskip
    · obtain ⟨⟨ms, rest'⟩, hms, he⟩ := map_eq_ok_iff.1 h
      cases he
      rw [← hskip] at hms
      exact .object (sequence_of_readMembers hvalue hms)

theorem readArray_of_sequence {levels : Nat} {vs : List Json}
    (hvalue : ∀ t v rest, grammar.AtFront levels t v rest → readValue levels t = .ok (v, rest))
    (h : Sequence (grammar.AtFront levels) (CodePoint.ofChar ']') (skipBlanks t) vs rest) :
    readArray (readValue levels) t = .ok (.arr vs, rest) := by
  have hread := readElements_of_sequence hvalue (fun _ _ _ h => (h.suffix shortens_grammar).2) h (Nat.le_refl _)
  have hhead := h.first fun _ _ _ hitem => not_closing hitem
  unfold readArray
  cases hskip : skipBlanks t with
  | nil =>
      rw [hskip] at hread
      cases hread
  | cons c more =>
      rw [hskip] at hread hhead
      rw [List.length_cons] at hread
      have hne : c ≠ CodePoint.ofChar ']' := by simpa using hhead
      simp only [if_neg hne, hread]
      rfl

theorem readObject_of_sequence {levels : Nat} {ms : List (Text × Json)}
    (hvalue : ∀ t v rest, grammar.AtFront levels t v rest → readValue levels t = .ok (v, rest))
    (h : Sequence (grammar.Member (grammar.AtFront levels)) (CodePoint.ofChar '}') (skipBlanks t) ms rest) :
    readObject (readValue levels) t = .ok (.obj (Table.ofPairs ms), rest) := by
  have hread := readMembers_of_sequence hvalue (fun _ _ _ h => (h.suffix shortens_grammar).1) h (Nat.le_refl _)
  have hhead : ∃ more, skipBlanks t = CodePoint.ofChar '"' :: more := h.first fun _ _ _ hitem => hitem.quote
  obtain ⟨more, hskip⟩ := hhead
  have hne : CodePoint.ofChar '"' ≠ CodePoint.ofChar '}' := by decide
  rw [hskip, List.length_cons] at hread
  simp only [readObject, hskip, if_neg hne, hread]
  rfl

/-- **The lenient reader of values** finds what stands at the front of a text. -/
theorem readValue_ok_iff {levels : Nat} :
    ∀ {t v rest}, readValue levels t = .ok (v, rest) ↔ grammar.AtFront levels t v rest := by
  induction levels with
  | zero =>
      intro t v rest
      have hscalar : readScalar t = .ok (v, rest) ↔ Scalar t v rest := readScalar_ok_iff
      cases t with
      | nil => exact hscalar
      | cons c more =>
          rw [readValue]
          split
          · rename_i hopen
            refine iff_of_false nofun fun h => ?_
            rcases hopen with rfl | rfl
            · exact (Scalar.opensNothing h).1 rfl
            · exact (Scalar.opensNothing h).2 rfl
          · exact hscalar
  | succ levels ih =>
      intro t v rest
      constructor
      · intro h
        cases t with
        | nil => exact .scalar (readScalar_ok_iff.1 h)
        | cons c more =>
            rw [readValue] at h
            split at h
            · rename_i harray
              rw [harray]
              exact valueOver_of_readArray (fun _ _ _ => ih.1) h
            · split at h
              · rename_i hobject
                rw [hobject]
                exact valueOver_of_readObject (fun _ _ _ => ih.1) h
              · exact .scalar (readScalar_ok_iff.1 h)
      · intro h
        have hne : CodePoint.ofChar '{' ≠ CodePoint.ofChar '[' := by decide
        cases h with
        | scalar h =>
            cases t with
            | nil => exact readScalar_ok_iff.2 h
            | cons c more =>
                obtain ⟨harray, hobject⟩ := Scalar.opensNothing h
                rw [readValue, if_neg (by simpa using harray), if_neg (by simpa using hobject)]
                exact readScalar_ok_iff.2 h
        | emptyArray h => simp [readValue, readArray, h]
        | array h =>
            rw [readValue, if_pos rfl]
            exact readArray_of_sequence (fun _ _ _ => ih.2) h
        | emptyObject h => simp [readValue, readObject, h, hne]
        | object h =>
            rw [readValue, if_neg hne, if_pos rfl]
            exact readObject_of_sequence (fun _ _ _ => ih.2) h

end Lenient

/-! ## The strict reader -/

namespace Strict

/-- What the strict reader takes. -/
def grammar : Grammar := ⟨Scalar, Content, fun _ _ _ => False⟩

theorem includes_lenient : Lenient.grammar.Includes grammar := ⟨fun _ _ _ h => h.lenient, fun _ _ _ h => h.lenient⟩

theorem shortens_grammar : grammar.Shortens :=
  ⟨fun _ _ _ h => h.lenient.suffix, fun _ _ _ h => h.lenient.suffix, fun _ _ _ h => h.elim⟩

/-- **What the strict reader takes** stands there for the lenient one as well. -/
theorem AtFront.lenient : ∀ {levels : Nat} {t : Text} {v : Json} {rest : Text},
    grammar.AtFront levels t v rest → Lenient.grammar.AtFront levels t v rest
  | 0, _, _, _, h => h.elim
  | _ + 1, _, _, _, h => Grammar.ValueOver.mono includes_lenient (fun _ _ _ => AtFront.lenient) h

section Loops

variable {value : Reader Json} {inner : Text → Json → Text → Prop}

theorem sequence_of_readElements (hvalue : ∀ t v rest, value t = .ok (v, rest) → inner t v rest) {fuel : Nat} :
    ∀ {t vs rest}, readElements value fuel t = .ok (vs, rest) → Sequence inner (CodePoint.ofChar ']') t vs rest := by
  induction fuel with
  | zero => intro t vs rest h; cases h
  | succ fuel ih =>
      intro t vs rest h
      obtain ⟨⟨v, after⟩, hv, h⟩ := bind_eq_ok.1 h
      dsimp only at h
      split at h
      · cases h
      · rename_i c next hskip
        split at h
        · rename_i hclose
          cases h
          rw [hclose] at hskip
          exact .last (hvalue _ _ _ hv) hskip
        · split at h
          · rename_i hcomma
            split at h
            · cases h
            · obtain ⟨⟨others, rest'⟩, hothers, h⟩ := bind_eq_ok.1 h
              cases h
              rw [hcomma] at hskip
              exact .more (hvalue _ _ _ hv) hskip (ih hothers)
          · cases h

theorem sequence_of_readMembers (hvalue : ∀ t v rest, value t = .ok (v, rest) → inner t v rest) {fuel : Nat} :
    ∀ {t ms rest}, readMembers value fuel (CodePoint.ofChar '"' :: t) = .ok (ms, rest) →
      Sequence (grammar.Member inner) (CodePoint.ofChar '}') (CodePoint.ofChar '"' :: t) ms rest := by
  induction fuel with
  | zero => intro t ms rest h; cases h
  | succ fuel ih =>
      intro t ms rest h
      obtain ⟨⟨k, afterKey⟩, hk, h⟩ := bind_eq_ok.1 h
      dsimp only at h
      split at h
      · cases h
      · rename_i d afterColon hcolon
        split at h
        · cases h
        · rename_i hd
          obtain ⟨⟨v, afterValue⟩, hv, h⟩ := bind_eq_ok.1 h
          dsimp only at h
          rw [Decidable.not_not.1 hd] at hcolon
          have hmember : grammar.Member inner (CodePoint.ofChar '"' :: t) (k, v) afterValue :=
            .intro (content_of_readString hk) hcolon (hvalue _ _ _ hv)
          split at h
          · cases h
          · rename_i e next hskip
            split at h
            · rename_i hclose
              cases h
              rw [hclose] at hskip
              exact .last hmember hskip
            · split at h
              · rename_i hcomma
                rw [hcomma] at hskip
                -- another key has to follow the comma
                split at h
                · cases h
                · rename_i q others hnext
                  split at h
                  · rename_i hquote
                    obtain ⟨⟨ms', rest'⟩, hothers, h⟩ := bind_eq_ok.1 h
                    cases h
                    rw [hnext, hquote] at hothers
                    refine .more hmember hskip ?_
                    rw [hnext, hquote]
                    exact ih hothers
                  · split at h
                    · cases h
                    · cases h
              · cases h

theorem readElements_of_sequence (hvalue : ∀ t v rest, inner t v rest → value t = .ok (v, rest))
    (hshort : ∀ t v rest, inner t v rest → rest.length < t.length)
    (hclosing : ∀ t v rest, inner t v rest → t.head? ≠ some (CodePoint.ofChar ']')) {t : Text} {vs : List Json}
    {rest : Text} (h : Sequence inner (CodePoint.ofChar ']') t vs rest) :
    ∀ {fuel}, t.length ≤ fuel → readElements value fuel t = .ok (vs, rest) := by
  induction h with
  | @last t _ _ _ hitem hclose =>
      intro fuel hfuel
      have hlt := hshort _ _ _ hitem
      obtain ⟨fuel, rfl⟩ : ∃ n, fuel = n + 1 := ⟨fuel - 1, by omega⟩
      simp [readElements, hvalue _ _ _ hitem, hclose, bind, Except.bind]
  | more hitem hcomma hmore ih =>
      intro fuel hfuel
      obtain ⟨fuel, rfl, hle⟩ := exists_fuel_of_comma (hshort _ _ _ hitem) hcomma hfuel
      have hhead := hmore.first hclosing
      simp [readElements, hvalue _ _ _ hitem, hcomma, comma_ne.1, hhead, ih hle, bind, Except.bind]

theorem readMembers_of_sequence (hvalue : ∀ t v rest, inner t v rest → value t = .ok (v, rest))
    (hshort : ∀ t v rest, inner t v rest → rest <:+ t) {t : Text} {ms : List (Text × Json)} {rest : Text}
    (h : Sequence (grammar.Member inner) (CodePoint.ofChar '}') t ms rest) :
    ∀ {fuel}, t.length ≤ fuel → readMembers value fuel t = .ok (ms, rest) := by
  induction h with
  | last hitem hclose =>
      intro fuel hfuel
      cases hitem with
      | @intro t _ _ _ _ _ hkey hcolon hv =>
          obtain ⟨fuel, rfl, -⟩ := exists_fuel hfuel
          have hread := readString_of_content hkey (Nat.le_succ t.length)
          simp [readMembers, hread, hcolon, hvalue _ _ _ hv, hclose, bind, Except.bind]
  | more hitem hcomma hmore ih =>
      intro fuel hfuel
      obtain ⟨fuel, rfl, hle⟩ := exists_fuel_of_comma (hitem.suffix shortens_grammar hshort).2 hcomma hfuel
      have hothers := ih hle
      obtain ⟨more, hnext⟩ := hmore.first fun _ _ _ hitem => hitem.quote
      rw [hnext] at hothers
      cases hitem with
      | @intro t _ _ _ _ _ hkey hcolon hv =>
          have hread := readString_of_content hkey (Nat.le_succ t.length)
          simp [readMembers, hread, hcolon, hvalue _ _ _ hv, hcomma, comma_ne.2, hnext, hothers, bind, Except.bind]

end Loops

variable {t rest : Text} {v : Json}

/-- What is read with the help of a reader of parts is a value over what that reader finds. -/
theorem valueOver_of_readWith {value : Reader Json} {inner : Text → Json → Text → Prop}
    (hvalue : ∀ t v rest, value t = .ok (v, rest) → inner t v rest) (h : readWith value t = .ok (v, rest)) :
    grammar.ValueOver inner t v rest := by
  by_cases hopens : OpensNothing t
  · exact .scalar ((readWith_ok_iff hopens).1 h)
  · match t, h, hopens with
    | [], h, _ => cases h
    | c :: t, h, hopens =>
        unfold readWith at h
        dsimp only at h
        split at h
        · rename_i harray
          rw [harray]
          unfold readArray at h
          dsimp only at h
          split at h
          · cases h
          · rename_i d more hskip
            split at h
            · rename_i hclose
              cases h
              rw [hclose] at hskip
              exact .emptyArray hskip
            · obtain ⟨⟨vs, rest'⟩, hvs, he⟩ := map_eq_ok_iff.1 h
              cases he
              exact .array (sequence_of_readElements hvalue hvs)
        · rename_i harray
          split at h
          · rename_i hobject
            rw [hobject]
            unfold readObject at h
            dsimp only at h
            split at h
            · cases h
            · rename_i d more hskip
              split at h
              · rename_i hclose
                cases h
                rw [hclose] at hskip
                exact .emptyObject hskip
              · split at h
                · rename_i hquote
                  obtain ⟨⟨ms, rest'⟩, hms, he⟩ := map_eq_ok_iff.1 h
                  cases he
                  have hms := sequence_of_readMembers hvalue (hquote ▸ hskip ▸ hms)
                  exact .object (by rwa [hskip, hquote])
                · cases h
          · rename_i hobject
            exact absurd ⟨by simpa using harray, by simpa using hobject⟩ hopens

theorem readWith_of_valueOver {value : Reader Json} {inner : Text → Json → Text → Prop}
    (hvalue : ∀ t v rest, inner t v rest → value t = .ok (v, rest))
    (hshort : ∀ t v rest, inner t v rest → rest <:+ t ∧ rest.length < t.length)
    (hclosing : ∀ t v rest, inner t v rest → t.head? ≠ some (CodePoint.ofChar ']'))
    (h : grammar.ValueOver inner t v rest) : readWith value t = .ok (v, rest) := by
  have hne : CodePoint.ofChar '{' ≠ CodePoint.ofChar '[' := by decide
  have hquote : CodePoint.ofChar '"' ≠ CodePoint.ofChar '}' := by decide
  cases h with
  | scalar h => exact (readWith_ok_iff h.lenient.opensNothing).2 h
  | emptyArray h => simp [readWith, readArray, h]
  | @array t vs _ h =>
      have hread := readElements_of_sequence hvalue (fun _ _ _ h => (hshort _ _ _ h).2) hclosing h (Nat.le_refl _)
      have hhead := h.first hclosing
      cases hskip : skipBlanks t with
      | nil =>
          rw [hskip] at hread
          cases hread
      | cons c more =>
          rw [hskip] at hread hhead
          have hc : c ≠ CodePoint.ofChar ']' := by simpa using hhead
          simp only [readWith, if_true, readArray, hskip, if_neg hc, hread]
          rfl
  | emptyObject h => simp [readWith, readObject, h, hne]
  | @object t ms _ h =>
      have hread := readMembers_of_sequence hvalue (fun _ _ _ h => (hshort _ _ _ h).1) h (Nat.le_refl _)
      obtain ⟨more, hskip⟩ := h.first fun _ _ _ hitem => hitem.quote
      rw [hskip] at hread
      simp only [readWith, if_neg hne, if_true, readObject, hskip, if_neg hquote, hread]
      rfl

/-- **The strict reader of values** finds what stands at the front of a text. -/
theorem readValue_ok_iff {levels : Nat} :
    ∀ {t v rest}, readValue levels t = .ok (v, rest) ↔ grammar.AtFront (levels + 1) t v rest := by
  have hclosing : ∀ levels t v rest, grammar.AtFront levels t v rest → t.head? ≠ some (CodePoint.ofChar ']') :=
    fun _ _ _ _ h => Lenient.not_closing (AtFront.lenient h)
  induction levels with
  | zero =>
      intro t v rest
      exact ⟨valueOver_of_readWith nofun, readWith_of_valueOver (fun _ _ _ h => h.elim)
        (fun _ _ _ h => Grammar.AtFront.suffix shortens_grammar h) (hclosing 0)⟩
  | succ levels ih =>
      intro t v rest
      exact ⟨valueOver_of_readWith fun _ _ _ => ih.1, readWith_of_valueOver (fun _ _ _ => ih.2)
        (fun _ _ _ h => Grammar.AtFront.suffix shortens_grammar h) (hclosing (levels + 1))⟩

end Strict

end WebhookBridge.Json
