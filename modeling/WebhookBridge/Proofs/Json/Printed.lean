import WebhookBridge.Proofs.Json.Following
import WebhookBridge.Proofs.Json.PrintedScalars
import WebhookBridge.Proofs.Json.ReadValues

/-!
# Printed values read back

The text of a value is that value, in every layout: its scalars are, what a layout puts between brackets, parts and colons is
skipped, and the keys of an object stay in their order since they are different. What is printed is ASCII.

## Contents

* `Lenient.Placed`, `Lenient.sequence_join`: parts that are joined by commas;
* `Lenient.atFront_of_printAt`, `Lenient.readAll_of_print`: the text of a value is that value.
-/

namespace WebhookBridge.Json

open Lenient (skipBlanks isBlank Stops)

namespace Lenient

/-! ## Layouts -/

theorem blank_of_mem_newline {n : Nat} {c : CodePoint} (h : c ∈ CodePoint.ofChar '\n' :: List.replicate n (CodePoint.ofChar ' ')) :
    isBlank c = true := by
  rcases List.mem_cons.1 h with rfl | h
  · decide
  · rw [List.eq_of_mem_replicate h]
    decide

theorem blank_opening (style : Style) (level : Nat) : ∀ c ∈ style.opening level, isBlank c = true := by
  intro c hc
  cases style with
  | indented => exact blank_of_mem_newline hc
  | inline => cases hc
  | compact => cases hc

theorem blank_closing (style : Style) (level : Nat) : ∀ c ∈ style.closing level, isBlank c = true := by
  intro c hc
  cases style with
  | indented => exact blank_of_mem_newline hc
  | inline => cases hc
  | compact => cases hc

/-- A separator is a comma with blanks after it. -/
theorem separator_eq (style : Style) (level : Nat) :
    ∃ blanks, style.separator level = CodePoint.ofChar ',' :: blanks ∧ ∀ c ∈ blanks, isBlank c = true := by
  cases style with
  | inline => exact ⟨[CodePoint.ofChar ' '], rfl, List.forall_mem_singleton.2 (by decide)⟩
  | compact => exact ⟨[], rfl, by simp⟩
  | indented => exact ⟨Style.indented.opening level, rfl, blank_opening .indented level⟩

/-- What stands between a key and its value is a colon with blanks after it. -/
theorem colon_eq (style : Style) : ∃ blanks, style.colon = CodePoint.ofChar ':' :: blanks ∧ ∀ c ∈ blanks, isBlank c = true := by
  cases style with
  | inline => exact ⟨[CodePoint.ofChar ' '], rfl, List.forall_mem_singleton.2 (by decide)⟩
  | compact => exact ⟨[], rfl, by simp⟩
  | indented => exact ⟨[CodePoint.ofChar ' '], rfl, List.forall_mem_singleton.2 (by decide)⟩

/-- Blanks and a closing bracket. -/
theorem stops_of_blanks {blanks : Text} (h : ∀ c ∈ blanks, isBlank c = true) {close : CodePoint}
    (hclose : close = CodePoint.ofChar ']' ∨ close = CodePoint.ofChar '}') (rest : Text) :
    Stops (blanks ++ close :: rest) := by
  intro c hc
  cases blanks with
  | nil =>
      rw [← Option.some.inj hc]
      exact .inr (.inr hclose)
  | cons d blanks =>
      rw [← Option.some.inj hc]
      exact .inl (h d (List.mem_cons_self ..))

/-! ## Parts -/

/-- A text is an item, with blanks around it, wherever it stands before something with which no numeral goes on. -/
def Placed {α : Type} (item : Text → α → Text → Prop) (t : Text) (a : α) : Prop :=
  ∀ more, Stops more → ∃ blanks, (∀ c ∈ blanks, isBlank c = true) ∧ item (skipBlanks (t ++ more)) a (blanks ++ more)

/-- **Items that are joined by commas**, with blanks and a closing bracket after them, stand one after the other, whatever
    comes after the bracket. -/
theorem sequence_join {α : Type} {item : Text → α → Text → Prop} {close : CodePoint}
    (hclose : close = CodePoint.ofChar ']' ∨ close = CodePoint.ofChar '}') (style : Style) (level : Nat) {ts : List Text}
    {as : List α} (h : List.Forall₂ (Placed item) ts as) (hne : ts ≠ []) (rest : Text) :
    Sequence item close (skipBlanks (Text.join (style.separator level) ts ++ (style.closing level ++ close :: rest))) as rest := by
  obtain ⟨blanks, hseparator, hblanks⟩ := separator_eq style level
  have hend := stops_of_blanks (blank_closing style level) hclose rest
  have hskip : skipBlanks (style.closing level ++ close :: rest) = close :: rest := by
    rw [skipBlanks_append (blank_closing style level)]
    rcases hclose with rfl | rfl <;> rfl
  induction h with
  | nil => exact absurd rfl hne
  | @cons t a ts as hfirst hrest ih =>
      cases hrest with
      | nil =>
          obtain ⟨after, hafter, hitem⟩ := hfirst _ hend
          exact .last hitem ((skipBlanks_append hafter _).trans hskip)
      | @cons t' a' ts' as' _ _ =>
          have hmore := ih (List.cons_ne_nil _ _)
          generalize hothers : Text.join (style.separator level) (t' :: ts') ++ (style.closing level ++ close :: rest) = others at hmore
          have htext : Text.join (style.separator level) (t :: t' :: ts') ++ (style.closing level ++ close :: rest) =
              t ++ (CodePoint.ofChar ',' :: (blanks ++ others)) := by
            rw [← hothers, Text.join, hseparator]
            simp only [List.append_assoc, List.cons_append]
            simp
          have hcomma : Stops (CodePoint.ofChar ',' :: (blanks ++ others)) := fun c hc => .inr (.inl (Option.some.inj hc).symm)
          obtain ⟨after, hafter, hitem⟩ := hfirst _ hcomma
          rw [htext]
          refine .more hitem ((skipBlanks_append hafter _).trans (skipBlanks_cons (by decide) _)) ?_
          rw [skipBlanks_append hblanks]
          exact hmore

/-- Parts between brackets: nothing, or parts one after the other behind blanks. -/
theorem bracketed_eq (style : Style) (level : Nat) (left right : CodePoint) (ts : List Text) :
    (ts = [] ∧ style.bracketed level [left] [right] ts = [left, right]) ∨
      (ts ≠ [] ∧ style.bracketed level [left] [right] ts =
        left :: (style.opening level ++ (Text.join (style.separator level) ts ++ (style.closing level ++ [right])))) := by
  cases ts with
  | nil => exact .inl ⟨rfl, rfl⟩
  | cons t ts => exact .inr ⟨List.cons_ne_nil _ _, rfl⟩

variable {inner : Text → Json → Text → Prop}

/-- **An array of parts.** -/
theorem array_bracketed (style : Style) (level : Nat) {ts : List Text} {vs : List Json}
    (h : List.Forall₂ (Placed inner) ts vs) : grammar.ValueOver inner (style.bracketed level "[" "]" ts) (.arr vs) [] := by
  show grammar.ValueOver inner (style.bracketed level [CodePoint.ofChar '['] [CodePoint.ofChar ']'] ts) (.arr vs) []
  rcases bracketed_eq style level (CodePoint.ofChar '[') (CodePoint.ofChar ']') ts with ⟨rfl, htext⟩ | ⟨hne, htext⟩
  · cases h
    rw [htext]
    exact .emptyArray rfl
  · rw [htext]
    refine .array ?_
    rw [skipBlanks_append (blank_opening style level)]
    exact sequence_join (.inl rfl) style level h hne []

/-- **An object of parts**, with different keys. -/
theorem object_bracketed (style : Style) (level : Nat) {ts : List Text} {ms : List (Text × Json)}
    (h : List.Forall₂ (Placed (grammar.Member inner)) ts ms) (hkeys : (Table.keys ms).Nodup) :
    grammar.ValueOver inner (style.bracketed level "\x7b" "\x7d" ts) (.obj ms) [] := by
  show grammar.ValueOver inner (style.bracketed level [CodePoint.ofChar '{'] [CodePoint.ofChar '}'] ts) (.obj ms) []
  rcases bracketed_eq style level (CodePoint.ofChar '{') (CodePoint.ofChar '}') ts with ⟨rfl, htext⟩ | ⟨hne, htext⟩
  · cases h
    rw [htext]
    exact .emptyObject rfl
  · rw [htext, ← Table.ofPairs_of_nodup hkeys]
    refine .object ?_
    rw [skipBlanks_append (blank_opening style level)]
    exact sequence_join (.inr rfl) style level h hne []

/-! ## Values -/

theorem atFront_of_scalar {levels : Nat} {t rest : Text} {v : Json} (h : Scalar t v rest) : grammar.AtFront levels t v rest := by
  cases levels with
  | zero => exact h
  | succ levels => exact .scalar h

/-- A value with blanks around it. -/
theorem placed_of_atFront {levels : Nat} {t rest : Text} {v : Json} (h : grammar.AtFront levels (skipBlanks t) v rest)
    (hrest : ∀ c ∈ rest, isBlank c = true) : Placed (grammar.AtFront levels) t v := by
  intro more hmore
  have hne : skipBlanks t ≠ [] := List.ne_nil_of_length_pos (Nat.zero_lt_of_lt (h.suffix shortens_grammar).2)
  rw [skipBlanks_append_of_ne_nil hne]
  exact ⟨rest, hrest, AtFront.append hmore h⟩

/-- A value with nothing around it. -/
theorem placed_of_whole {levels : Nat} {t : Text} {v : Json} (h : grammar.AtFront levels t v []) :
    Placed (grammar.AtFront levels) t v :=
  placed_of_atFront ((skipBlanks_of_atFront h).symm ▸ h) (by simp)

/-- A key, a colon and a value. -/
theorem placed_member (style : Style) {k t : Text} {v : Json} (hk : k.hasSurrogate = false) (h : Placed inner t v) :
    Placed (grammar.Member inner) (printString k ++ style.colon ++ t) (k, v) := by
  intro more hmore
  obtain ⟨blanks, hcolon, hblanks⟩ := colon_eq style
  obtain ⟨after, hafter, hvalue⟩ := h more hmore
  have htext : printString k ++ style.colon ++ t ++ more = CodePoint.ofChar '"' ::
      (k.flatMap escaped ++ [CodePoint.ofChar '"'] ++ (CodePoint.ofChar ':' :: (blanks ++ (t ++ more)))) := by
    rw [printString, hcolon]
    simp only [List.append_assoc, List.cons_append]
    rfl
  rw [htext, skipBlanks_cons (by decide)]
  refine ⟨after, hafter, .intro ((content_flatMap_escaped hk).append _) (skipBlanks_cons (by decide) _) ?_⟩
  rw [skipBlanks_append hblanks]
  exact hvalue

mutual

/-- **The text of a value** is that value. -/
theorem atFront_of_printAt (style : Style) {limit level : Nat} : ∀ (v : Json) (t : Text),
    printAt style limit level v = .ok t → (∀ part ∈ v.parts level, Plain part) →
      grammar.AtFront (limit - level) t v []
  | .null => by
    intro t h _
    cases h
    exact atFront_of_scalar (.word (.head _) [])
  | .bool b => by
    intro t h _
    cases h
    cases b with
    | true => exact atFront_of_scalar (.word (.tail _ (.head _)) [])
    | false => exact atFront_of_scalar (.word (.tail _ (.tail _ (.head _))) [])
  | .int n => by
    intro t h _
    rw [printAt] at h
    exact atFront_of_scalar (scalar_of_printInt h)
  | .float x => by
    intro t h hplain
    rw [printAt] at h
    split at h
    · rename_i hx
      cases h
      exact atFront_of_scalar (scalar_text hx (hplain _ (List.mem_singleton_self _)))
    · cases h
  | .str s => by
    intro t h hplain
    cases h
    exact atFront_of_scalar (scalar_printString (hplain _ (List.mem_singleton_self _)))
  | .foreign _ => by
    intro t h _
    cases h
  | .arr vs => by
    intro t h hplain
    rw [printAt] at h
    split at h
    · cases h
    · rename_i hlevel
      obtain ⟨ts, hts, rfl⟩ := map_eq_ok_iff.1 h
      have hparts := placed_of_printElements style vs _ hts fun part hpart => hplain part (List.mem_cons_of_mem _ hpart)
      have hlevels : limit - level = limit - (level + 1) + 1 := by omega
      rw [hlevels]
      exact array_bracketed style level hparts
  | .obj ms => by
    intro t h hplain
    rw [printAt] at h
    split at h
    · cases h
    · rename_i hlevel
      obtain ⟨ts, hts, rfl⟩ := map_eq_ok_iff.1 h
      obtain ⟨hnodup, hkeys⟩ := hplain (level, .obj ms) (List.mem_cons_self ..)
      have hparts := placed_of_printMembers style ms _ hts hkeys fun part hpart => hplain part (List.mem_cons_of_mem _ hpart)
      have hlevels : limit - level = limit - (level + 1) + 1 := by omega
      rw [hlevels]
      exact object_bracketed style level hparts hnodup

theorem placed_of_printElements (style : Style) {limit level : Nat} : ∀ (vs : List Json) (ts : List Text),
    printElements style limit level vs = .ok ts → (∀ part ∈ elementParts level vs, Plain part) →
      List.Forall₂ (Placed (grammar.AtFront (limit - level))) ts vs
  | [] => by
    intro ts h _
    cases h
    exact .nil
  | v :: rest => by
    intro ts h hplain
    rw [elementParts, List.forall_mem_append] at hplain
    obtain ⟨first, hfirst, h⟩ := bind_eq_ok.1 h
    obtain ⟨others, hothers, h⟩ := bind_eq_ok.1 h
    cases h
    exact .cons (placed_of_whole (atFront_of_printAt style v _ hfirst hplain.1))
      (placed_of_printElements style rest _ hothers hplain.2)

theorem placed_of_printMembers (style : Style) {limit level : Nat} : ∀ (ms : List (Text × Json)) (ts : List Text),
    printMembers style limit level ms = .ok ts → (∀ k ∈ Table.keys ms, k.hasSurrogate = false) →
      (∀ part ∈ memberParts level ms, Plain part) →
      List.Forall₂ (Placed (grammar.Member (grammar.AtFront (limit - level)))) ts ms
  | [] => by
    intro ts h _ _
    cases h
    exact .nil
  | (k, v) :: rest => by
    intro ts h hkeys hplain
    rw [memberParts, List.forall_mem_append] at hplain
    obtain ⟨hk, hkeys⟩ := List.forall_mem_cons.1 hkeys
    obtain ⟨first, hfirst, h⟩ := bind_eq_ok.1 h
    obtain ⟨others, hothers, h⟩ := bind_eq_ok.1 h
    cases h
    exact .cons (placed_member style hk (placed_of_whole (atFront_of_printAt style v _ hfirst hplain.1)))
      (placed_of_printMembers style rest _ hothers hkeys hplain.2)

end

/-- **The text of a value** is read as that value. -/
theorem readAll_of_print (style : Style) {v : Json} {t : Text} (h : print style v = .ok t) (hplain : ∀ part ∈ v.parts 0, Plain part) :
    readAll maxNesting t = .ok v :=
  readAll_of_atFront (atFront_of_printAt style v t h hplain)

end Lenient

end WebhookBridge.Json
