import WebhookBridge.Json.Strict

/-!
# The contents of strings

What stands between the quotes of a string, as a relation with one rule for each way to write code points. The lenient
reader follows the rules, whatever comes after the string. The strict reader has fewer of them: what it finds is found by
the lenient reader as well, and holds no surrogate.

## Contents

* `Lenient.Content`: the rules;
* `Lenient.readString_ok_iff`: the lenient reader follows them;
* `Lenient.Content.append`: what comes after a string does not matter;
* `Strict.Content`, `Strict.readString_ok_iff`: the rules of the strict reader;
* `Strict.Content.lenient`, `Strict.Content.hasSurrogate`: its strings are lenient ones, and hold no surrogate.
-/

namespace WebhookBridge.Json

theorem bind_eq_ok {ε α β : Type} {x : Except ε α} {f : α → Except ε β} {b : β} :
    (x >>= f) = .ok b ↔ ∃ a, x = .ok a ∧ f a = .ok b := by
  cases x with
  | error e => simp [bind, Except.bind]
  | ok a => simp [bind, Except.bind]

theorem map_eq_ok_iff {ε α β : Type} {x : Except ε α} {f : α → β} {b : β} :
    x.map f = .ok b ↔ ∃ a, x = .ok a ∧ f a = b := by
  cases x with
  | error e => simp [Except.map]
  | ok a => simp [Except.map]

namespace Lenient

/-! ## The rules -/

/-- **The content of a string** up to its closing quote, and what follows the quote: code points that stand for themselves,
    letters after a backslash, and units in four hexadecimal digits, of which a first and a second half make a pair. -/
inductive Content : Text → Text → Text → Prop
  | close (rest : Text) : Content (CodePoint.ofChar '"' :: rest) [] rest
  | plain {c : CodePoint} {t s rest : Text} (hquote : c ≠ CodePoint.ofChar '"') (hslash : c ≠ CodePoint.ofChar '\\')
      (hcontrol : ¬ c.val ≤ 0x1F) (h : Content t s rest) : Content (c :: t) (c :: s) rest
  | letter {e d : CodePoint} {t s rest : Text} (he : unescape? e = some d) (h : Content t s rest) :
      Content (CodePoint.ofChar '\\' :: e :: t) (d :: s) rest
  | unit {x y z w : CodePoint} {n : Nat} {t s rest : Text} (hn : hex4? x y z w = some n)
      (hapart : isHigh n = true → afterHigh t = .apart) (h : Content t s rest) :
      Content (CodePoint.ofChar '\\' :: CodePoint.ofChar 'u' :: x :: y :: z :: w :: t) (CodePoint.ofNat n :: s) rest
  | pair {x y z w x' y' z' w' : CodePoint} {n low : Nat} {t s rest : Text} (hn : hex4? x y z w = some n)
      (hhigh : isHigh n = true) (hm : hex4? x' y' z' w' = some low) (hlow : isLow low = true) (h : Content t s rest) :
      Content (CodePoint.ofChar '\\' :: CodePoint.ofChar 'u' :: x :: y :: z :: w ::
        CodePoint.ofChar '\\' :: CodePoint.ofChar 'u' :: x' :: y' :: z' :: w' :: t) (joinPair n low :: s) rest

/-- A string takes up its closing quote at least. -/
theorem Content.length_lt {t s rest : Text} (h : Content t s rest) : rest.length < t.length := by
  induction h with
  | close rest => exact Nat.lt_succ_self _
  | plain _ _ _ _ ih => simp only [List.length_cons]; omega
  | letter _ _ ih => simp only [List.length_cons]; omega
  | unit _ _ _ ih => simp only [List.length_cons]; omega
  | pair _ _ _ _ _ ih => simp only [List.length_cons]; omega

theorem Content.suffix {t s rest : Text} (h : Content t s rest) : rest <:+ t := by
  induction h with
  | close rest => exact List.suffix_cons _ _
  | plain _ _ _ _ ih => exact ih.trans (List.suffix_cons _ _)
  | letter _ _ ih => exact ih.trans ⟨[_, _], rfl⟩
  | unit _ _ _ ih => exact ih.trans ⟨[_, _, _, _, _, _], rfl⟩
  | pair _ _ _ _ _ ih => exact ih.trans ⟨[_, _, _, _, _, _, _, _, _, _, _, _], rfl⟩

theorem Content.ne_nil {t s rest : Text} (h : Content t s rest) : t ≠ [] := by
  intro he
  have hlt := h.length_lt
  rw [he] at hlt
  exact Nat.not_lt_zero _ hlt

/-! ## What follows a first half -/

/-- What is joined with a first half is an escape of a second half, with something after it. -/
theorem afterHigh_eq_join {t : Text} {low : Nat} (h : afterHigh t = .join low) :
    ∃ x y z w next more, t = CodePoint.ofChar '\\' :: CodePoint.ofChar 'u' :: x :: y :: z :: w :: next :: more ∧
      hex4? x y z w = some low ∧ isLow low = true := by
  unfold afterHigh at h
  split at h
  · rename_i b u x y z w next more
    split at h
    · rename_i hescape
      obtain ⟨rfl, rfl⟩ := hescape
      split at h
      · rename_i m hm
        split at h
        · rename_i hlow
          cases h
          exact ⟨x, y, z, w, next, more, rfl, hm, hlow⟩
        · cases h
      · cases h
    · cases h
  · cases h

theorem afterHigh_join {x y z w next : CodePoint} {more : Text} {low : Nat} (hm : hex4? x y z w = some low)
    (hlow : isLow low = true) :
    afterHigh (CodePoint.ofChar '\\' :: CodePoint.ofChar 'u' :: x :: y :: z :: w :: next :: more) = .join low := by
  simp [afterHigh, hm, hlow]

/-- Nothing but an escape is looked at. -/
theorem afterHigh_of_ne {c : CodePoint} {t : Text} (h : ¬ (c = CodePoint.ofChar '\\' ∧ t.head? = some (CodePoint.ofChar 'u'))) :
    afterHigh (c :: t) = .apart := by
  unfold afterHigh
  split
  · rename_i b u x y z w next more heq
    cases heq
    rw [if_neg (by simpa using h)]
  · rfl

theorem ne_u_of_unescape? {e d : CodePoint} (h : unescape? e = some d) : e ≠ CodePoint.ofChar 'u' := by
  rintro rfl
  have hnone : unescape? (CodePoint.ofChar 'u') = none := by decide
  rw [hnone] at h
  cases h

/-- **What follows a first half** is looked at the same way, whatever comes after the string. -/
theorem Content.afterHigh_append {t s rest : Text} (h : Content t s rest) (more : Text) :
    afterHigh (t ++ more) = afterHigh t := by
  -- a string that is an escape of a unit goes on after it, and nothing else is looked at
  cases h with
  | close rest => rw [List.cons_append, afterHigh_of_ne (by simp +decide), afterHigh_of_ne (by simp +decide)]
  | plain _ hslash _ _ => rw [List.cons_append, afterHigh_of_ne (by simp [hslash]), afterHigh_of_ne (by simp [hslash])]
  | letter he _ =>
      have hu := ne_u_of_unescape? he
      rw [List.cons_append, List.cons_append, afterHigh_of_ne (by simp [hu]), afterHigh_of_ne (by simp [hu])]
  | unit _ _ h =>
      obtain ⟨next, more', rfl⟩ := List.exists_cons_of_ne_nil h.ne_nil
      rfl
  | pair _ _ _ _ _ => rfl

/-- **What comes after a string** does not matter. -/
theorem Content.append {t s rest : Text} (h : Content t s rest) (more : Text) : Content (t ++ more) s (rest ++ more) := by
  induction h with
  | close rest => exact .close _
  | plain hquote hslash hcontrol _ ih => exact .plain hquote hslash hcontrol ih
  | letter he _ ih => exact .letter he ih
  | unit hn hapart h ih => exact .unit hn (fun hhigh => (h.afterHigh_append more).trans (hapart hhigh)) ih
  | pair hn hhigh hm hlow _ ih => exact .pair hn hhigh hm hlow ih

/-! ## The lenient reader -/

theorem quote_ne_slash : CodePoint.ofChar '\\' ≠ CodePoint.ofChar '"' := by decide

theorem content_of_readString {start t : Text} :
    ∀ {s rest}, readString start t = .ok (s, rest) → Content t s rest := by
  fun_induction readString start t with
  | case1 => intro s rest h; cases h
  | case2 rest =>
      intro s rest h
      cases h
      exact .close _
  | case3 => intro s rest h; cases h
  | case4 => intro s rest h; cases h
  | case5 x y z w b n hn hhigh low u x' y' z' w' more _ hjoin ih =>
      intro s rest h
      obtain ⟨⟨s', t'⟩, hs, he⟩ := map_eq_ok_iff.1 h
      cases he
      obtain ⟨_, _, _, _, _, _, heq, hm, hlow⟩ := afterHigh_eq_join hjoin
      cases heq
      exact .pair hn hhigh hm hlow (ih hs)
  | case6 => intro s rest h; cases h
  | case7 => intro s rest h; cases h
  | case8 x y z w b more n hn hhigh hapart _ ih =>
      intro s rest h
      obtain ⟨⟨s', t'⟩, hs, he⟩ := map_eq_ok_iff.1 h
      cases he
      exact .unit hn (fun _ => hapart) (ih hs)
  | case9 x y z w b more n hn hhigh _ ih =>
      intro s rest h
      obtain ⟨⟨s', t'⟩, hs, he⟩ := map_eq_ok_iff.1 h
      cases he
      exact .unit hn (fun he => absurd he hhigh) (ih hs)
  | case10 => intro s rest h; cases h
  | case11 e rest he d hd _ ih =>
      intro s rest h
      obtain ⟨⟨s', t'⟩, hs, he⟩ := map_eq_ok_iff.1 h
      cases he
      exact .letter hd (ih hs)
  | case12 => intro s rest h; cases h
  | case13 => intro s rest h; cases h
  | case14 c rest hquote hslash hcontrol ih =>
      intro s rest h
      obtain ⟨⟨s', t'⟩, hs, he⟩ := map_eq_ok_iff.1 h
      cases he
      exact .plain hquote hslash hcontrol (ih hs)

theorem readString_of_content {t s rest : Text} (h : Content t s rest) (start : Text) :
    readString start t = .ok (s, rest) := by
  induction h with
  | close rest => simp [readString.eq_def start (_ :: _)]
  | plain hquote hslash hcontrol _ ih => simp [readString.eq_def start (_ :: _), hquote, hslash, hcontrol, ih, Except.map]
  | letter he _ ih =>
      simp [readString.eq_def start (_ :: _), quote_ne_slash, ne_u_of_unescape? he, he, ih, Except.map]
  | @unit x y z w n t s rest hn hapart h ih =>
      obtain ⟨next, more, rfl⟩ := List.exists_cons_of_ne_nil h.ne_nil
      by_cases hhigh : isHigh n = true
      · rw [readString.eq_def]
        simp [quote_ne_slash, hn, hhigh, hapart hhigh, ih, Except.map]
      · rw [readString.eq_def]
        simp [quote_ne_slash, hn, hhigh, ih, Except.map]
  | @pair x y z w x' y' z' w' n low t s rest hn hhigh hm hlow h ih =>
      obtain ⟨next, more, rfl⟩ := List.exists_cons_of_ne_nil h.ne_nil
      rw [readString.eq_def]
      simp [quote_ne_slash, hn, hhigh, afterHigh_join hm hlow, ih, Except.map]

/-- **The lenient reader** finds what the rules give. -/
theorem readString_ok_iff {start t s rest : Text} : readString start t = .ok (s, rest) ↔ Content t s rest :=
  ⟨content_of_readString, fun h => readString_of_content h start⟩

end Lenient

/-! ## The strict reader -/

namespace Strict

open Lenient (Content hex4? unescape? isHigh isLow joinPair)

theorem hexValue?_lt {c : CodePoint} {n : Nat} (h : c.hexValue? = some n) : n < 16 := by
  unfold CodePoint.hexValue? CodePoint.isAsciiDigit at h
  repeat' split at h
  all_goals simp at *
  all_goals omega

theorem hex4?_lt {x y z w : CodePoint} {n : Nat} (h : hex4? x y z w = some n) : n < 0x10000 := by
  simp only [hex4?, Option.bind_eq_bind, Option.bind_eq_some_iff, Option.pure_def, Option.some.injEq] at h
  obtain ⟨a, ha, b, hb, c, hc, d, hd, rfl⟩ := h
  have := hexValue?_lt ha
  have := hexValue?_lt hb
  have := hexValue?_lt hc
  have := hexValue?_lt hd
  omega

theorem sizeOne_of_hexValue? {c : CodePoint} {n : Nat} (h : c.hexValue? = some n) : Utf8.sizeOne c = 1 := by
  have hlt : c.val < 0x80 := by
    unfold CodePoint.hexValue? CodePoint.isAsciiDigit at h
    repeat' split at h
    all_goals simp at *
    all_goals omega
  rw [Utf8.sizeOne, if_pos hlt]

/-- Four digits are read where four digits stand. -/
theorem readHex4_ok {t : Text} {n : Nat} {last rest : Text} (h : readHex4 t = .ok (n, last, rest)) :
    ∃ x y z w, t = x :: y :: z :: w :: rest ∧ hex4? x y z w = some n := by
  unfold readHex4 at h
  split at h
  · cases h
  · rename_i hsize
    split at h
    · cases h
    · rename_i hdigits
      have hall : ∀ c ∈ t.take 4, ∃ d, c.hexValue? = some d := by
        intro c hc
        have hsome := List.findIdx?_eq_none_iff.1 hdigits c hc
        simpa [Option.isNone_eq_false_iff, Option.isSome_iff_exists] using hsome
      cases h
      -- digits take one octet each, so that fewer than four would take fewer than four octets
      match t with
      | [] => simp [Utf8.size] at hsize
      | [x] =>
          obtain ⟨a, ha⟩ := hall x (by simp)
          simp [Utf8.size, sizeOne_of_hexValue? ha] at hsize
      | [x, y] =>
          obtain ⟨a, ha⟩ := hall x (by simp)
          obtain ⟨b, hb⟩ := hall y (by simp)
          simp [Utf8.size, sizeOne_of_hexValue? ha, sizeOne_of_hexValue? hb] at hsize
      | [x, y, z] =>
          obtain ⟨a, ha⟩ := hall x (by simp)
          obtain ⟨b, hb⟩ := hall y (by simp)
          obtain ⟨c, hc⟩ := hall z (by simp)
          simp [Utf8.size, sizeOne_of_hexValue? ha, sizeOne_of_hexValue? hb, sizeOne_of_hexValue? hc] at hsize
      | x :: y :: z :: w :: rest =>
          obtain ⟨a, ha⟩ := hall x (by simp)
          obtain ⟨b, hb⟩ := hall y (by simp)
          obtain ⟨c, hc⟩ := hall z (by simp)
          obtain ⟨d, hd⟩ := hall w (by simp)
          exact ⟨x, y, z, w, rfl, by simp [hex4?, ha, hb, hc, hd]⟩

/-- **The two ways to write a code point in hexadecimal digits**: one unit that is no half of a pair, or both halves. -/
theorem readUnicodeEscape_ok {t : Text} {d : CodePoint} {rest : Text} (h : readUnicodeEscape t = .ok (d, rest)) :
    (∃ x y z w n, t = x :: y :: z :: w :: rest ∧ hex4? x y z w = some n ∧ isLow n = false ∧ isHigh n = false ∧
      d = CodePoint.ofNat n) ∨
    ∃ x y z w x' y' z' w' n low, t = x :: y :: z :: w :: CodePoint.ofChar '\\' :: CodePoint.ofChar 'u' :: x' :: y' :: z' :: w' :: rest ∧
      hex4? x y z w = some n ∧ isHigh n = true ∧ hex4? x' y' z' w' = some low ∧ isLow low = true ∧ d = joinPair n low := by
  rw [readUnicodeEscape, bind_eq_ok] at h
  obtain ⟨⟨n, last, after⟩, hhex, h⟩ := h
  obtain ⟨x, y, z, w, rfl, hn⟩ := readHex4_ok hhex
  dsimp only at h
  cases hlow : isLow n with
  | true =>
      rw [if_pos hlow] at h
      cases h
  | false =>
      rw [if_neg (by simp [hlow])] at h
      cases hhigh : isHigh n with
      | false =>
          rw [if_neg (by simp [hhigh])] at h
          cases h
          exact Or.inl ⟨x, y, z, w, n, rfl, hn, hlow, hhigh, rfl⟩
      | true =>
          rw [if_pos hhigh] at h
          match after, h with
          | [], h => cases h
          | b :: rest', h =>
              dsimp only at h
              split at h
              · cases h
              · rename_i hb
                match rest', h with
                | [], h => cases h
                | u :: after, h =>
                    dsimp only at h
                    split at h
                    · cases h
                    · rename_i hu
                      rw [bind_eq_ok] at h
                      obtain ⟨⟨low, last', rest''⟩, hhex', h⟩ := h
                      obtain ⟨x', y', z', w', rfl, hm⟩ := readHex4_ok hhex'
                      dsimp only at h
                      split at h
                      · rename_i hl
                        obtain ⟨hd, rfl⟩ := Prod.mk.inj (Except.ok.inj h)
                        rw [Decidable.not_not.1 hb, Decidable.not_not.1 hu]
                        exact Or.inr ⟨x, y, z, w, x', y', z', w', n, low, rfl, hn, hhigh, hm, hl, hd.symm⟩
                      · cases h

/-- An escape that is read gives a code point of its own, no half of a pair. -/
theorem isSurrogate_of_readUnicodeEscape {t : Text} {d : CodePoint} {rest : Text}
    (h : readUnicodeEscape t = .ok (d, rest)) : d.isSurrogate = false := by
  rcases readUnicodeEscape_ok h with ⟨x, y, z, w, n, -, hn, hlow, hhigh, rfl⟩ |
    ⟨x, y, z, w, x', y', z', w', n, low, -, -, hhigh, -, hlow, rfl⟩
  · have hlt := hex4?_lt hn
    simp only [isLow, isHigh, Bool.and_eq_false_iff, decide_eq_false_iff_not] at hlow hhigh
    simp only [CodePoint.isSurrogate, CodePoint.ofNat, Nat.mod_eq_of_lt (Nat.lt_trans hlt (by decide : 0x10000 < 0x110000)),
      Bool.and_eq_false_iff, decide_eq_false_iff_not]
    omega
  · simp only [isLow, isHigh, Bool.and_eq_true, decide_eq_true_eq] at hlow hhigh
    have hlt : 0x10000 + (n - 0xD800) * 0x400 + (low - 0xDC00) < 0x110000 := by omega
    simp only [CodePoint.isSurrogate, joinPair, CodePoint.ofNat, Nat.mod_eq_of_lt hlt, Bool.and_eq_false_iff,
      decide_eq_false_iff_not]
    omega

theorem isSurrogate_unescape? {e d : CodePoint} (h : unescape? e = some d) : d.isSurrogate = false := by
  unfold unescape? at h
  split at h
  · rename_i he
    cases h
    rcases he with rfl | rfl | rfl <;> decide
  · repeat' split at h
    all_goals cases h
    all_goals decide

/-- The content of a string up to its closing quote, and what follows the quote, without a half of a pair. -/
inductive Content : Text → Text → Text → Prop
  | close (rest : Text) : Content (CodePoint.ofChar '"' :: rest) [] rest
  | plain {c : CodePoint} {t s rest : Text} (hquote : c ≠ CodePoint.ofChar '"') (hslash : c ≠ CodePoint.ofChar '\\')
      (hcontrol : ¬ c.val ≤ 0x1F) (h : Content t s rest) : Content (c :: t) (c :: s) rest
  | letter {e d : CodePoint} {t s rest : Text} (he : unescape? e = some d) (h : Content t s rest) :
      Content (CodePoint.ofChar '\\' :: e :: t) (d :: s) rest
  | escape {t : Text} {d : CodePoint} {after s rest : Text} (hd : readUnicodeEscape t = .ok (d, after))
      (h : Content after s rest) : Content (CodePoint.ofChar '\\' :: CodePoint.ofChar 'u' :: t) (d :: s) rest

theorem suffix_readUnicodeEscape {t : Text} {d : CodePoint} {rest : Text} (h : readUnicodeEscape t = .ok (d, rest)) :
    rest <:+ t := by
  rcases readUnicodeEscape_ok h with ⟨x, y, z, w, _, rfl, -⟩ | ⟨x, y, z, w, x', y', z', w', _, _, rfl, -⟩
  · exact ⟨[x, y, z, w], rfl⟩
  · exact ⟨[x, y, z, w, CodePoint.ofChar '\\', CodePoint.ofChar 'u', x', y', z', w'], rfl⟩

theorem length_readUnicodeEscape {t : Text} {d : CodePoint} {rest : Text} (h : readUnicodeEscape t = .ok (d, rest)) :
    rest.length < t.length := by
  rcases readUnicodeEscape_ok h with ⟨_, _, _, _, _, rfl, -⟩ | ⟨_, _, _, _, _, _, _, _, _, _, rfl, -⟩
  · simp only [List.length_cons]
    omega
  · simp only [List.length_cons]
    omega

theorem content_of_readString {fuel : Nat} :
    ∀ {t s rest : Text}, readString fuel t = .ok (s, rest) → Content t s rest := by
  induction fuel with
  | zero => intro t s rest h; cases h
  | succ fuel ih =>
      intro t s rest h
      match t, h with
      | [], h => cases h
      | c :: more, h =>
          rw [readString.eq_def] at h
          dsimp only at h
          split at h
          · rename_i hc
            cases h
            rw [hc]
            exact .close _
          · rename_i hquote
            split at h
            · rename_i hslash
              rw [hslash]
              match more, h with
              | [], h => cases h
              | e :: after, h =>
                  dsimp only at h
                  split at h
                  · rename_i hu
                    rw [hu]
                    obtain ⟨⟨d, rest'⟩, hd, h⟩ := bind_eq_ok.1 h
                    obtain ⟨⟨s', rest''⟩, hs, h⟩ := bind_eq_ok.1 h
                    cases h
                    exact .escape hd (ih hs)
                  · split at h
                    · rename_i d he
                      obtain ⟨⟨d', rest'⟩, hd, h⟩ := bind_eq_ok.1 h
                      cases hd
                      obtain ⟨⟨s', rest''⟩, hs, h⟩ := bind_eq_ok.1 h
                      cases h
                      exact .letter he (ih hs)
                    · cases h
            · rename_i hslash
              split at h
              · cases h
              · rename_i hcontrol
                obtain ⟨⟨s', rest'⟩, hs, h⟩ := bind_eq_ok.1 h
                cases h
                exact .plain hquote hslash hcontrol (ih hs)

theorem exists_fuel {c : CodePoint} {t : Text} {fuel : Nat} (h : (c :: t).length ≤ fuel) :
    ∃ n, fuel = n + 1 ∧ t.length ≤ n := by
  rw [List.length_cons] at h
  exact ⟨fuel - 1, by omega, by omega⟩

theorem readString_of_content {t s rest : Text} (h : Content t s rest) :
    ∀ {fuel : Nat}, t.length ≤ fuel → readString fuel t = .ok (s, rest) := by
  induction h with
  | close rest =>
      intro fuel hfuel
      obtain ⟨fuel, rfl, -⟩ := exists_fuel hfuel
      simp [readString.eq_def (fuel + 1)]
  | plain hquote hslash hcontrol _ ih =>
      intro fuel hfuel
      obtain ⟨fuel, rfl, hlen⟩ := exists_fuel hfuel
      simp [readString.eq_def (fuel + 1), hquote, hslash, hcontrol, ih hlen, bind, Except.bind]
  | letter he _ ih =>
      intro fuel hfuel
      obtain ⟨fuel, rfl, hlen⟩ := exists_fuel hfuel
      rw [List.length_cons] at hlen
      simp [readString.eq_def (fuel + 1), Lenient.quote_ne_slash, Lenient.ne_u_of_unescape? he, he,
        ih (Nat.le_of_succ_le hlen), bind, Except.bind]
  | @escape t d after s rest hd _ ih =>
      intro fuel hfuel
      obtain ⟨fuel, rfl, hlen⟩ := exists_fuel hfuel
      have hafter := length_readUnicodeEscape hd
      have hle : after.length ≤ fuel := by
        rw [List.length_cons] at hlen
        omega
      simp [readString.eq_def (fuel + 1), Lenient.quote_ne_slash, hd, ih hle, bind, Except.bind]

/-- **The strict reader** finds what its rules give, if its fuel covers the text. -/
theorem readString_ok_iff {fuel : Nat} {t s rest : Text} (hfuel : t.length ≤ fuel) :
    readString fuel t = .ok (s, rest) ↔ Content t s rest :=
  ⟨content_of_readString, fun h => readString_of_content h hfuel⟩

/-- What the strict rules give, the lenient ones give. -/
theorem Content.lenient {t s rest : Text} (h : Content t s rest) : Lenient.Content t s rest := by
  induction h with
  | close rest => exact .close rest
  | plain hquote hslash hcontrol _ ih => exact .plain hquote hslash hcontrol ih
  | letter he _ ih => exact .letter he ih
  | escape hd _ ih =>
      rcases readUnicodeEscape_ok hd with ⟨x, y, z, w, n, rfl, hn, -, hhigh, rfl⟩ |
        ⟨x, y, z, w, x', y', z', w', n, low, rfl, hn, hhigh, hm, hlow, rfl⟩
      · exact .unit hn (by simp [hhigh]) ih
      · exact .pair hn hhigh hm hlow ih

/-- **Strict strings hold no surrogate** that is not in the text itself. -/
theorem Content.hasSurrogate {t s rest : Text} (h : Content t s rest) (ht : t.hasSurrogate = false) :
    s.hasSurrogate = false := by
  induction h with
  | close rest => rfl
  | plain _ _ _ _ ih =>
      simp only [Text.hasSurrogate_cons, Bool.or_eq_false_iff] at ht ⊢
      exact ⟨ht.1, ih ht.2⟩
  | letter he _ ih =>
      simp only [Text.hasSurrogate_cons, Bool.or_eq_false_iff] at ht ⊢
      exact ⟨isSurrogate_unescape? he, ih ht.2.2⟩
  | @escape t d after s rest hd _ ih =>
      have hafter : Text.hasSurrogate after = false := by
        obtain ⟨before, rfl⟩ := suffix_readUnicodeEscape hd
        simp only [Text.hasSurrogate_cons, Text.hasSurrogate_append, Bool.or_eq_false_iff] at ht
        exact ht.2.2.2
      simp only [Text.hasSurrogate_cons, Bool.or_eq_false_iff]
      exact ⟨isSurrogate_of_readUnicodeEscape hd, ih hafter⟩

end Strict

end WebhookBridge.Json
