import WebhookBridge.Json.Lenient
import WebhookBridge.Proofs.Json.Strings
import WebhookBridge.Proofs.Number.Digits

/-!
# ASCII documents

What is printed is ASCII without null characters. Octets of such a text are the numbers of its characters; no byte order mark
stands before them and no null octet among them, so that they are taken for UTF-8 and are the text again.

## Contents

* `Text.Ascii`: texts of ASCII;
* `Json.ascii_print`: printed texts;
* `Utf8.decode_encode_ascii`, `decodeDocument_encode_ascii`: their octets.
-/

namespace WebhookBridge

namespace Text

/-- A text of ASCII characters, none of them null. -/
def Ascii (t : Text) : Prop := ∀ c ∈ t, c.val ≠ 0 ∧ c.val < 0x80

instance (t : Text) : Decidable t.Ascii := List.decidableBAll _ t

@[simp] theorem ascii_nil : Ascii [] := fun _ h => nomatch h

@[simp] theorem ascii_cons {c : CodePoint} {t : Text} : Ascii (c :: t) ↔ (c.val ≠ 0 ∧ c.val < 0x80) ∧ t.Ascii :=
  List.forall_mem_cons

@[simp] theorem ascii_append {s t : Text} : Ascii (s ++ t) ↔ s.Ascii ∧ t.Ascii := List.forall_mem_append

theorem Ascii.take {t : Text} (h : t.Ascii) (n : Nat) : Ascii (t.take n) := fun c hc => h c (List.mem_of_mem_take hc)

theorem Ascii.drop {t : Text} (h : t.Ascii) (n : Nat) : Ascii (t.drop n) := fun c hc => h c (List.mem_of_mem_drop hc)

theorem ascii_replicate {c : CodePoint} (h : c.val ≠ 0 ∧ c.val < 0x80) (n : Nat) : Ascii (List.replicate n c) := by
  intro d hd
  rw [List.eq_of_mem_replicate hd]
  exact h

theorem ascii_join {sep : Text} (hsep : sep.Ascii) {parts : List Text} (h : ∀ t ∈ parts, t.Ascii) : (join sep parts).Ascii := by
  induction parts with
  | nil => exact ascii_nil
  | cons t parts ih =>
      obtain ⟨ht, hparts⟩ := List.forall_mem_cons.1 h
      cases parts with
      | nil => exact ht
      | cons t' parts => exact ascii_append.2 ⟨ascii_append.2 ⟨ht, hsep⟩, ih hparts⟩

theorem ascii_ofNat (n : Nat) : Ascii (ofNat n) := by
  rw [ofNat_eq]
  intro c hc
  obtain ⟨d, -, rfl⟩ := List.mem_map.1 hc
  constructor
  · exact Nat.ne_of_gt (Nat.lt_of_lt_of_le (by decide) (Nat.le_add_right 0x30 (d % 10)))
  · show 0x30 + d % 10 < 0x80
    omega

theorem ascii_ofInt (n : Int) : Ascii (ofInt n) := by
  cases n with
  | ofNat n => exact ascii_ofNat n
  | negSucc n => exact ascii_cons.2 ⟨by decide, ascii_ofNat (n + 1)⟩

theorem ascii_hex (width : Nat) : ∀ n, Ascii (hex width n) := by
  induction width with
  | zero => exact fun _ => ascii_nil
  | succ width ih =>
      intro n
      refine ascii_append.2 ⟨ih (n / 16), ascii_cons.2 ⟨?_, ascii_nil⟩⟩
      have hall : ∀ d < 16, (CodePoint.ofHexDigit d).val ≠ 0 ∧ (CodePoint.ofHexDigit d).val < 0x80 := by decide
      have hmod : CodePoint.ofHexDigit n = CodePoint.ofHexDigit (n % 16) := by simp [CodePoint.ofHexDigit]
      rw [hmod]
      exact hall _ (Nat.mod_lt n (by decide))

end Text

open Text (Ascii ascii_nil ascii_cons ascii_append ascii_ofNat ascii_replicate)

/-! ## Floating-point numbers -/

namespace Binary64

theorem ascii_exponentText (x : Int) : (exponentText x).Ascii := by
  rw [exponentText]
  refine ascii_append.2 ⟨ascii_append.2 ⟨ascii_append.2 ⟨by decide, ?_⟩, ascii_replicate (by decide) _⟩, ascii_ofNat _⟩
  split <;> decide

theorem ascii_write (layout : Layout) (d : Decimal) : (layout.write d).Ascii := by
  have hdigits := ascii_ofNat d.digits
  rw [Layout.write]
  split
  · split
    · refine ascii_append.2 ⟨ascii_append.2 ⟨hdigits, ascii_replicate (by decide) _⟩, ?_⟩
      split <;> decide
    · split
      · exact ascii_append.2 ⟨ascii_append.2 ⟨hdigits.take _, by decide⟩, hdigits.drop _⟩
      · exact ascii_append.2 ⟨ascii_append.2 ⟨by decide, ascii_replicate (by decide) _⟩, hdigits⟩
  · refine ascii_append.2 ⟨ascii_append.2 ⟨ascii_append.2 ⟨hdigits.take _, ?_⟩, hdigits.drop _⟩, ascii_exponentText _⟩
    split <;> decide

theorem ascii_text (x : Binary64) : x.text.Ascii := by
  have hsign : ∀ negative, (signText negative).Ascii := by decide
  cases x with
  | nan => decide
  | infinite negative => exact ascii_append.2 ⟨hsign negative, by decide⟩
  | finite negative m e =>
      refine ascii_append.2 ⟨hsign negative, ?_⟩
      split
      · decide
      · exact ascii_write _ _

end Binary64

/-! ## Printed texts -/

namespace Json

theorem ascii_unitEscape (n : Nat) : (unitEscape n).Ascii := ascii_append.2 ⟨by decide, Text.ascii_hex 4 n⟩

theorem ascii_escaped (c : CodePoint) : (escaped c).Ascii := by
  unfold escaped
  repeat' split
  · decide
  · decide
  · decide
  · decide
  · decide
  · decide
  · decide
  · exact ascii_cons.2 ⟨by omega, ascii_nil⟩
  · exact ascii_unitEscape _
  · exact ascii_append.2 ⟨ascii_unitEscape _, ascii_unitEscape _⟩

theorem ascii_printString (s : Text) : (printString s).Ascii := by
  refine ascii_append.2 ⟨ascii_append.2 ⟨by decide, ?_⟩, by decide⟩
  intro c hc
  obtain ⟨d, -, hd⟩ := List.mem_flatMap.1 hc
  exact ascii_escaped d c hd

theorem ascii_bracketed (style : Style) (level : Nat) {left right : Text} (hleft : left.Ascii) (hright : right.Ascii)
    {parts : List Text} (h : ∀ t ∈ parts, t.Ascii) : (style.bracketed level left right parts).Ascii := by
  have hnewline : ∀ n, Ascii (CodePoint.ofChar '\n' :: List.replicate n (CodePoint.ofChar ' ')) := fun n =>
    ascii_cons.2 ⟨by decide, ascii_replicate (by decide) n⟩
  have hopening : (style.opening level).Ascii := by
    cases style with
    | indented => exact hnewline _
    | inline => exact ascii_nil
    | compact => exact ascii_nil
  have hseparator : (style.separator level).Ascii := by
    cases style with
    | indented => exact ascii_cons.2 ⟨by decide, hnewline _⟩
    | inline => exact show Ascii ", " by decide
    | compact => exact show Ascii "," by decide
  have hclosing : (style.closing level).Ascii := by
    cases style with
    | indented => exact hnewline _
    | inline => exact ascii_nil
    | compact => exact ascii_nil
  rw [Style.bracketed]
  split
  · exact ascii_append.2 ⟨hleft, hright⟩
  · exact ascii_append.2 ⟨hleft, ascii_append.2 ⟨hopening, ascii_append.2 ⟨Text.ascii_join hseparator h,
      ascii_append.2 ⟨hclosing, hright⟩⟩⟩⟩

mutual

theorem ascii_printAt (style : Style) {limit level : Nat} : ∀ (v : Json) (t : Text),
    printAt style limit level v = .ok t → t.Ascii
  | .null => by
    intro t h
    cases h
    decide
  | .bool b => by
    intro t h
    cases h
    cases b <;> decide
  | .int n => by
    intro t h
    rw [printAt, printInt] at h
    by_cases hn : n.natAbs < Nat.pow 10 Whole.maxDigits
    · rw [if_pos hn] at h
      cases h
      exact Text.ascii_ofInt n
    · rw [if_neg hn] at h
      cases h
  | .float x => by
    intro t h
    rw [printAt] at h
    split at h
    · cases h
      exact x.ascii_text
    · cases h
  | .str s => by
    intro t h
    cases h
    exact ascii_printString s
  | .foreign _ => by
    intro t h
    cases h
  | .arr vs => by
    intro t h
    rw [printAt] at h
    split at h
    · cases h
    · obtain ⟨ts, hts, rfl⟩ := map_eq_ok_iff.1 h
      exact ascii_bracketed style level (by decide) (by decide) (ascii_printElements style vs ts hts)
  | .obj ms => by
    intro t h
    rw [printAt] at h
    split at h
    · cases h
    · obtain ⟨ts, hts, rfl⟩ := map_eq_ok_iff.1 h
      exact ascii_bracketed style level (by decide) (by decide) (ascii_printMembers style ms ts hts)

theorem ascii_printElements (style : Style) {limit level : Nat} : ∀ (vs : List Json) (ts : List Text),
    printElements style limit level vs = .ok ts → ∀ t ∈ ts, t.Ascii
  | [] => by
    intro ts h
    cases h
    simp
  | v :: rest => by
    intro ts h
    obtain ⟨first, hfirst, h⟩ := bind_eq_ok.1 h
    obtain ⟨others, hothers, h⟩ := bind_eq_ok.1 h
    cases h
    exact List.forall_mem_cons.2 ⟨ascii_printAt style v first hfirst, ascii_printElements style rest others hothers⟩

theorem ascii_printMembers (style : Style) {limit level : Nat} : ∀ (ms : List (Text × Json)) (ts : List Text),
    printMembers style limit level ms = .ok ts → ∀ t ∈ ts, t.Ascii
  | [] => by
    intro ts h
    cases h
    simp
  | (k, v) :: rest => by
    intro ts h
    obtain ⟨first, hfirst, h⟩ := bind_eq_ok.1 h
    obtain ⟨others, hothers, h⟩ := bind_eq_ok.1 h
    cases h
    have hcolon : style.colon.Ascii := by cases style <;> decide
    exact List.forall_mem_cons.2
      ⟨ascii_append.2 ⟨ascii_append.2 ⟨ascii_printString k, hcolon⟩, ascii_printAt style v first hfirst⟩,
        ascii_printMembers style rest others hothers⟩

end

/-- **Printed texts** are ASCII. -/
theorem ascii_print {style : Style} {v : Json} {t : Text} (h : print style v = .ok t) : t.Ascii := ascii_printAt style v t h

end Json

/-! ## Octets -/

/-- Octets of ASCII, none of them null. -/
def Octets.Ascii (octets : Octets) : Prop := ∀ b ∈ octets, b.val ≠ 0 ∧ b.val < 0x80

namespace Utf8

theorem encode_ascii {t : Text} (h : t.Ascii) : encode t = t.map fun c => Octet.ofNat c.val := by
  induction t with
  | nil => rfl
  | cons c t ih =>
      obtain ⟨hc, ht⟩ := ascii_cons.1 h
      rw [encode, List.flatMap_cons, encodeOne, if_pos hc.2, List.map_cons, List.singleton_append]
      exact congrArg _ (ih ht)

/-- **The octets of an ASCII text** are ASCII. -/
theorem ascii_encode {t : Text} (h : t.Ascii) : Octets.Ascii (encode t) := by
  rw [encode_ascii h]
  intro b hb
  obtain ⟨c, hc, rfl⟩ := List.mem_map.1 hb
  obtain ⟨hne, hlt⟩ := h c hc
  have hval : (Octet.ofNat c.val).val = c.val := Nat.mod_eq_of_lt (by omega)
  rw [hval]
  exact ⟨hne, hlt⟩

theorem decode_encode_ascii (surrogates : Bool) {t : Text} (h : t.Ascii) : decode surrogates (encode t) = .ok t := by
  rw [encode_ascii h]
  induction t with
  | nil => rw [List.map_nil, decode]
  | cons c t ih =>
      obtain ⟨⟨-, hlt⟩, ht⟩ := ascii_cons.1 h
      have hval : (Octet.ofNat c.val).val = c.val := Nat.mod_eq_of_lt (by omega)
      have hchar : CodePoint.ofNat c.val = c := Fin.ext (Nat.mod_eq_of_lt c.isLt)
      have htake : ∀ rest, takeOne (Octet.ofNat c.val) rest = .ok (c, rest) := by
        intro rest
        rw [takeOne.eq_def, hval, if_pos hlt, hchar]
      rw [List.map_cons, decode]
      split
      · rename_i c' rest' heq
        rw [htake] at heq
        obtain ⟨rfl, rfl⟩ := Prod.mk.inj (Except.ok.inj heq)
        rw [ih ht]
        rfl
      · rename_i fault heq
        rw [htake] at heq
        cases heq

end Utf8

/-- No byte order mark stands before ASCII, and its nulls show no other encoding. -/
theorem detect_ascii {octets : Octets} (h : octets.Ascii) : Encoding.detect octets = ([], .utf8) := by
  have hmarks : ∀ m ∈ byteOrderMarks, m.1.head?.any fun b => b.val = 0 ∨ 0x80 ≤ b.val := by decide
  have hnulls : Encoding.ofNulls octets = .utf8 := by
    rcases octets with - | ⟨a, - | ⟨b, - | ⟨c, - | ⟨d, rest⟩⟩⟩⟩
    · rfl
    · rfl
    · simp [Encoding.ofNulls, (h a (by simp)).1, (h b (by simp)).1]
    · rfl
    · simp [Encoding.ofNulls, (h a (by simp)).1, (h b (by simp)).1]
  rw [Encoding.detect]
  split
  · rename_i found hfind
    obtain ⟨mark, encoding⟩ := found
    have hprefix := List.find?_some hfind
    obtain ⟨rest, rfl⟩ := List.isPrefixOf_iff_prefix.1 hprefix
    have hfirst := hmarks _ (List.mem_of_find?_eq_some hfind)
    cases mark with
    | nil => cases hfirst
    | cons b mark =>
        simp only [List.head?_cons, Option.any_some, decide_eq_true_eq] at hfirst
        have hb := h b (List.mem_cons_self ..)
        omega
  · rw [hnulls]

/-- **The octets of an ASCII text** are a document of that text. -/
theorem decodeDocument_encode_ascii {t : Text} (h : t.Ascii) : decodeDocument (Utf8.encode t) = .ok t := by
  rw [decodeDocument, detect_ascii (Utf8.ascii_encode h)]
  simp only [List.length_nil, List.drop_zero]
  rw [Utf8.read, Utf8.decode_encode_ascii true h]

end WebhookBridge
