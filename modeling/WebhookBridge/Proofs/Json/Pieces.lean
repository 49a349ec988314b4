import Mathlib.Data.List.Forall2
import Mathlib.Data.List.TakeWhile
import WebhookBridge.Proofs.Json.Cutting
import WebhookBridge.Proofs.Json.Printed

/-!
# Documents inside documents

An array is a list of documents between brackets, joined by commas, and an object is a list of members between braces, each a
document that is a string, a colon, and a document. So the strict reader's values are told in terms of whole texts: whatever
it reads as an array or an object is made up of texts that it reads by themselves, as the parts of that value; and where texts
that it reads are put together, what it reads is made up of their values.

## Contents

* `Pieces`, `sequence_iff_join`: parts one after the other are texts that are joined by commas;
* `Strict.pieces_atFront`: the values of the strict reader are pieces of texts;
* `Strict.read_ok_iff`: a document is a text that is a value wherever it stands;
* `Enclosed`, `Strict.ReadsMember`: texts between brackets, and the members of objects;
* `Strict.read_elements`, `exists_elements`, `read_members`, `exists_members`: arrays and objects as texts.
-/

namespace WebhookBridge.Json

open Lenient (skipBlanks isBlank Stops skipBlanks_append skipBlanks_cons Placed sequence_join)

/-! ## Blanks around texts -/

/-- A text of blanks. -/
def Blank (t : Text) : Prop := ∀ c ∈ t, isBlank c = true

theorem exists_blanks (t : Text) : ∃ blanks, Blank blanks ∧ t = blanks ++ skipBlanks t :=
  ⟨t.takeWhile isBlank, fun _ hc => List.mem_takeWhile_imp hc, List.takeWhile_append_dropWhile.symm⟩

theorem Blank.skip {blanks : Text} (h : Blank blanks) : skipBlanks blanks = [] := List.dropWhile_eq_nil_iff.2 h

theorem blank_of_skip {t : Text} (h : skipBlanks t = []) : Blank t := List.dropWhile_eq_nil_iff.1 h

theorem Follows.of_stops {more : Text} (h : Stops more) (rest : Text) : Follows rest (rest ++ more) := by
  have hfollows : Follows ([] : Text) more := .inl h
  simpa using hfollows.append rest

/-- Blanks may stand in place of the blanks and whatever comes after them. -/
theorem follows_blanks (blanks : Text) (c : CodePoint) (rest : Text) : Follows (blanks ++ c :: rest) blanks := by
  have hend : Follows (c :: rest) [] := .inl nofun
  simpa using hend.append blanks

/-! ## Items that are pieces of texts -/

/-- Items that are pieces of texts, none of which begins with a blank. -/
structure Pieces {α : Type} (item : Text → α → Text → Prop) : Prop where
  cuts : Cuts item
  front : ∀ t a rest, item t a rest → skipBlanks t = t

variable {α : Type} {item : Text → α → Text → Prop} {close : CodePoint} {t rest : Text} {a : α}

/-- An item with blanks around it. -/
theorem Pieces.placed (h : Pieces item) (hitem : item (skipBlanks t) a rest) (hrest : Blank rest) : Placed item t a := by
  intro more hmore
  obtain ⟨blanks, hblanks, ht⟩ := exists_blanks t
  obtain ⟨piece, hpiece, hcut⟩ := h.cuts _ _ _ hitem
  have hfound := hcut (rest ++ more) (.of_stops hmore rest)
  refine ⟨rest, hrest, ?_⟩
  rw [ht, hpiece, List.append_assoc, List.append_assoc, skipBlanks_append hblanks, h.front _ _ _ hfound]
  exact hfound

/-- An item and the blanks around it are cut off before what follows them. -/
theorem Pieces.cut_before (h : Pieces item) (hitem : item (skipBlanks t) a rest) {c : CodePoint} {after : Text}
    (hskip : skipBlanks rest = c :: after) : ∃ u, t = u ++ c :: after ∧ Placed item u a := by
  obtain ⟨before, hbefore, ht⟩ := exists_blanks t
  obtain ⟨blanks, hblanks, hrest⟩ := exists_blanks rest
  rw [hskip] at hrest
  obtain ⟨piece, hpiece, hcut⟩ := h.cuts _ _ _ hitem
  have hfound := hcut blanks (hrest ▸ follows_blanks blanks c after)
  refine ⟨before ++ (piece ++ blanks), ?_, ?_⟩
  · rw [ht, hpiece, hrest]
    simp only [List.append_assoc]
  · have hblank : item (skipBlanks (before ++ (piece ++ blanks))) a blanks := by
      rw [skipBlanks_append hbefore, h.front _ _ _ hfound]
      exact hfound
    exact h.placed hblank hblanks

theorem join_cons (sep : Text) (t : Text) {ts : List Text} (h : ts ≠ []) :
    Text.join sep (t :: ts) = t ++ (sep ++ Text.join sep ts) := by
  obtain ⟨t', ts, rfl⟩ := List.exists_cons_of_ne_nil h
  simp [Text.join]

theorem Sequence.split (hitem : Pieces item) {s : Text} {as : List α} (h : Sequence item close s as rest) :
    ∀ t, skipBlanks t = s →
      ∃ ts, ts ≠ [] ∧ List.Forall₂ (Placed item) ts as ∧ t = Text.join "," ts ++ close :: rest := by
  induction h with
  | last hfound hclose =>
      rintro t rfl
      obtain ⟨u, hu, hplaced⟩ := hitem.cut_before hfound hclose
      exact ⟨[u], List.cons_ne_nil _ _, .cons hplaced .nil, hu⟩
  | @more _ _ _ next _ _ hfound hcomma _ ih =>
      rintro t rfl
      obtain ⟨u, hu, hplaced⟩ := hitem.cut_before hfound hcomma
      obtain ⟨ts, hne, hts, hnext⟩ := ih next rfl
      refine ⟨u :: ts, List.cons_ne_nil _ _, .cons hplaced hts, ?_⟩
      rw [join_cons _ u hne, hu, hnext]
      simp only [List.append_assoc]
      rfl

/-- **Parts one after the other** are texts that are joined by commas. -/
theorem sequence_iff_join (hitem : Pieces item) (hclose : close = CodePoint.ofChar ']' ∨ close = CodePoint.ofChar '}')
    {as : List α} : Sequence item close (skipBlanks t) as rest ↔
      ∃ ts, ts ≠ [] ∧ List.Forall₂ (Placed item) ts as ∧ t = Text.join "," ts ++ close :: rest := by
  constructor
  · intro h
    exact h.split hitem t rfl
  · rintro ⟨ts, hne, hts, rfl⟩
    exact sequence_join hclose .compact 0 hts hne rest

/-! ## The values of the strict reader -/

namespace Strict

theorem pieces_member {inner : Text → Json → Text → Prop} (h : Pieces inner) : Pieces (grammar.Member inner) := by
  constructor
  · intro t m rest hmember
    cases hmember with
    | @intro t k after next v rest hkey hcolon hvalue =>
        obtain ⟨key, rfl, hcontent⟩ := content_cuts hkey
        obtain ⟨blanks, hblanks, hafter⟩ := exists_blanks after
        obtain ⟨blanks', hblanks', hnext⟩ := exists_blanks next
        obtain ⟨piece, hpiece, hcut⟩ := h.cuts _ _ _ hvalue
        rw [hcolon, hnext, hpiece] at hafter
        refine ⟨CodePoint.ofChar '"' :: (key ++ (blanks ++ CodePoint.ofChar ':' :: (blanks' ++ piece))), ?_, fun more hm => ?_⟩
        · rw [hafter]
          simp
        · have hfound := hcut more hm
          simp only [List.cons_append, List.append_assoc]
          refine .intro (hcontent _) ((skipBlanks_append hblanks _).trans (skipBlanks_cons (by decide) _)) ?_
          rw [skipBlanks_append hblanks', h.front _ _ _ hfound]
          exact hfound
  · intro t m rest hmember
    obtain ⟨more, rfl⟩ := hmember.quote
    exact skipBlanks_cons (by decide) more

/-- **What the strict reader finds** is a piece of the text. -/
theorem pieces_atFront (levels : Nat) : Pieces (grammar.AtFront levels) := by
  refine ⟨?_, fun t v rest h => Lenient.skipBlanks_of_atFront (AtFront.lenient h)⟩
  induction levels with
  | zero => exact fun t v rest h => h.elim
  | succ levels ih =>
      have hinner : Pieces (grammar.AtFront levels) :=
        ⟨ih, fun t v rest h => Lenient.skipBlanks_of_atFront (AtFront.lenient h)⟩
      intro t v rest h
      cases h with
      | scalar h =>
          obtain ⟨piece, hpiece, hcut⟩ := cuts_scalar _ _ _ h
          exact ⟨piece, hpiece, fun more hm => .scalar (hcut more hm)⟩
      | @emptyArray t _ hskip =>
          obtain ⟨blanks, hblanks, ht⟩ := exists_blanks t
          refine ⟨CodePoint.ofChar '[' :: (blanks ++ [CodePoint.ofChar ']']), by simp [← hskip, ← ht], fun more _ => ?_⟩
          simp only [List.cons_append, List.append_assoc]
          exact .emptyArray ((skipBlanks_append hblanks _).trans (skipBlanks_cons (by decide) _))
      | array h =>
          obtain ⟨ts, hne, hts, rfl⟩ := (sequence_iff_join hinner (.inl rfl)).1 h
          refine ⟨CodePoint.ofChar '[' :: (Text.join "," ts ++ [CodePoint.ofChar ']']), by simp, fun more _ => ?_⟩
          simp only [List.cons_append, List.append_assoc]
          exact .array ((sequence_iff_join hinner (.inl rfl)).2 ⟨ts, hne, hts, rfl⟩)
      | @emptyObject t _ hskip =>
          obtain ⟨blanks, hblanks, ht⟩ := exists_blanks t
          refine ⟨CodePoint.ofChar '{' :: (blanks ++ [CodePoint.ofChar '}']), by simp [← hskip, ← ht], fun more _ => ?_⟩
          simp only [List.cons_append, List.append_assoc]
          exact .emptyObject ((skipBlanks_append hblanks _).trans (skipBlanks_cons (by decide) _))
      | object h =>
          obtain ⟨ts, hne, hts, rfl⟩ := (sequence_iff_join (pieces_member hinner) (.inr rfl)).1 h
          refine ⟨CodePoint.ofChar '{' :: (Text.join "," ts ++ [CodePoint.ofChar '}']), by simp, fun more _ => ?_⟩
          simp only [List.cons_append, List.append_assoc]
          exact .object ((sequence_iff_join (pieces_member hinner) (.inr rfl)).2 ⟨ts, hne, hts, rfl⟩)

/-! ## Documents -/

theorem AtFront.mono {levels levels' : Nat} (hle : levels ≤ levels') {t : Text} {v : Json} {rest : Text}
    (h : grammar.AtFront levels t v rest) : grammar.AtFront levels' t v rest := by
  induction levels generalizing levels' t v rest with
  | zero => exact h.elim
  | succ levels ih =>
      obtain ⟨levels', rfl⟩ : ∃ n, levels' = n + 1 := ⟨levels' - 1, by omega⟩
      exact Grammar.ValueOver.mono ⟨fun _ _ _ h => h, fun _ _ _ h => h⟩ (fun _ _ _ h => ih (by omega) h) h

/-- One value stands at the front of a text at most, however many levels there are. -/
theorem AtFront.unique {levels levels' : Nat} {t : Text} {v v' : Json} {rest rest' : Text}
    (h : grammar.AtFront levels t v rest) (h' : grammar.AtFront levels' t v' rest') : v = v' ∧ rest = rest' := by
  have hmost : readValue (levels + levels') t = .ok (v, rest) := readValue_ok_iff.2 (AtFront.mono (by omega) h)
  have hmost' : readValue (levels + levels') t = .ok (v', rest') := readValue_ok_iff.2 (AtFront.mono (by omega) h')
  rw [hmost] at hmost'
  exact Prod.mk.inj (Except.ok.inj hmost')

theorem placed_mono {α : Type} {item item' : Text → α → Text → Prop} (himp : ∀ t a rest, item t a rest → item' t a rest)
    {t : Text} {a : α} (h : Placed item t a) : Placed item' t a := by
  intro more hmore
  obtain ⟨blanks, hblanks, hitem⟩ := h more hmore
  exact ⟨blanks, hblanks, himp _ _ _ hitem⟩

/-- What is placed stands in the text by itself. -/
theorem exists_of_placed {α : Type} {item : Text → α → Text → Prop} {t : Text} {a : α} (h : Placed item t a) :
    ∃ blanks, Blank blanks ∧ item (skipBlanks t) a blanks := by
  obtain ⟨blanks, hblanks, hitem⟩ := h [] nofun
  rw [List.append_nil, List.append_nil] at hitem
  exact ⟨blanks, hblanks, hitem⟩

/-- **A document** is a text that is a value wherever it stands. -/
theorem read_ok_iff {t : Text} {v : Json} : read t = .ok v ↔ Placed (grammar.AtFront (maxNesting + 1)) t v := by
  constructor
  · intro h
    obtain ⟨⟨w, rest⟩, hvalue, h⟩ := bind_eq_ok.1 h
    dsimp only at h
    split at h
    · rename_i hskip
      cases h
      exact (pieces_atFront _).placed (readValue_ok_iff.1 hvalue) (blank_of_skip hskip)
    · cases h
  · intro h
    obtain ⟨blanks, hblanks, hvalue⟩ := exists_of_placed h
    simp [read, readValue_ok_iff.2 hvalue, hblanks.skip, bind, Except.bind]

/-- A scalar is a string, or it holds nothing. -/
theorem Scalar.string_or {t : Text} {v : Json} {rest : Text} (h : Scalar t v rest) :
    (∃ s more, v = .str s ∧ t = CodePoint.ofChar '"' :: more ∧ Content more s rest) ∨
      v = .null ∨ (∃ b, v = .bool b) ∨ (∃ n, v = .int n) ∨ ∃ x, v = .float x := by
  have hnumeral : ∀ {negative : Bool} {t : Text} {v : Json}, readNumber negative t = .ok (v, rest) →
      (∃ n, v = .int n) ∨ ∃ x, v = .float x := by
    intro negative t v h
    obtain ⟨-, -, rfl, -⟩ := readNumber_ok h
    unfold Lenient.ScannedNumeral.value
    split
    · exact .inl ⟨_, rfl⟩
    · exact .inr ⟨_, rfl⟩
  cases h with
  | str h => exact .inl ⟨_, _, rfl, rfl, h⟩
  | word hword rest =>
      right
      simp only [Lenient.words, List.mem_cons, Prod.mk.injEq, List.not_mem_nil, or_false] at hword
      rcases hword with ⟨-, rfl⟩ | ⟨-, rfl⟩ | ⟨-, rfl⟩ | ⟨-, rfl⟩ | ⟨-, rfl⟩ | ⟨-, rfl⟩ <;> simp
  | numeral h => exact .inr (.inr (.inr (hnumeral h)))
  | negative h => exact .inr (.inr (.inr (hnumeral h)))

/-! ## Arrays and objects as texts -/

end Strict

/-- Texts that are joined by commas stand between an opening and a closing bracket, with blanks around the brackets and after
    the opening one. -/
def Enclosed (left right : CodePoint) (parts : List Text) (t : Text) : Prop :=
  ∃ before inside after, Blank before ∧ Blank inside ∧ Blank after ∧
    t = before ++ left :: (inside ++ (Text.join "," parts ++ right :: after))

/-- What stands between brackets, behind the blanks of the text. -/
theorem enclosed_iff {left right : CodePoint} (hleft : isBlank left = false) {parts : List Text} {t : Text} :
    Enclosed left right parts t ↔ ∃ inside after, Blank inside ∧ Blank after ∧
      skipBlanks t = left :: (inside ++ (Text.join "," parts ++ right :: after)) := by
  constructor
  · rintro ⟨before, inside, after, hbefore, hinside, hafter, rfl⟩
    exact ⟨inside, after, hinside, hafter, (skipBlanks_append hbefore _).trans (skipBlanks_cons hleft _)⟩
  · rintro ⟨inside, after, hinside, hafter, hskip⟩
    obtain ⟨before, hbefore, ht⟩ := exists_blanks t
    rw [hskip] at ht
    exact ⟨before, inside, after, hbefore, hinside, hafter, ht⟩

namespace Strict

/-- The text of a member: a text for its key, a colon, and a text for its value. -/
def memberText (m : Text × Text) : Text := m.1 ++ CodePoint.ofChar ':' :: m.2

/-- A text for a key and a text for a value are read as a key and a value. -/
def ReadsMember (m : Text × Text) (member : Text × Json) : Prop :=
  read m.1 = .ok (.str member.1) ∧ read m.2 = .ok member.2

/-- **A member as a text** is a text for its key, a colon, and a text for its value. -/
theorem placed_member_iff {levels : Nat} {u k : Text} {v : Json} :
    Placed (grammar.Member (grammar.AtFront levels)) u (k, v) ↔
      ∃ m, u = memberText m ∧ read m.1 = .ok (.str k) ∧ Placed (grammar.AtFront levels) m.2 v := by
  constructor
  · intro h
    obtain ⟨blanks, hblanks, hmember⟩ := exists_of_placed h
    generalize hskip : skipBlanks u = s at hmember
    cases hmember with
    | @intro t _ after next _ _ hkey hcolon hvalue =>
        have hstring : grammar.AtFront (maxNesting + 1) (skipBlanks u) (.str k) after := hskip ▸ .scalar (.str hkey)
        obtain ⟨key, hu, hplaced⟩ := (pieces_atFront _).cut_before hstring hcolon
        exact ⟨(key, next), hu, read_ok_iff.2 hplaced, (pieces_atFront _).placed hvalue hblanks⟩
  · rintro ⟨⟨key, value⟩, rfl, hkey, hvalue⟩ more hmore
    obtain ⟨blanks, hblanks, hstring⟩ := exists_of_placed (read_ok_iff.1 hkey)
    obtain ⟨after, hafter, hvalue⟩ := hvalue more hmore
    generalize hskip : skipBlanks key = s at hstring
    cases hstring with
    | scalar h =>
        rcases h.string_or with ⟨_, t, he, rfl, hcontent⟩ | h | ⟨_, h⟩ | ⟨_, h⟩ | ⟨_, h⟩
        · cases he
          obtain ⟨before, hbefore, hkeyText⟩ := exists_blanks key
          obtain ⟨piece, rfl, hpiece⟩ := content_cuts hcontent
          refine ⟨after, hafter, ?_⟩
          rw [memberText, hkeyText, hskip]
          simp only [List.append_assoc, List.cons_append]
          rw [skipBlanks_append hbefore, skipBlanks_cons (by decide)]
          exact .intro (hpiece _) ((skipBlanks_append hblanks _).trans (skipBlanks_cons (by decide) _)) hvalue
        all_goals cases h

/-- Texts of values between square brackets are an array of the values. -/
theorem atFront_of_elements {levels : Nat} {es : List Text} {vs : List Json} {t : Text}
    (hes : List.Forall₂ (Placed (grammar.AtFront levels)) es vs)
    (henclosed : Enclosed (CodePoint.ofChar '[') (CodePoint.ofChar ']') es t) :
    ∃ after, grammar.AtFront (levels + 1) (skipBlanks t) (.arr vs) after := by
  obtain ⟨inside, after, hinside, -, hskip⟩ := (enclosed_iff (by decide)).1 henclosed
  refine ⟨after, ?_⟩
  rw [hskip]
  cases hes with
  | nil => exact .emptyArray ((skipBlanks_append hinside _).trans (skipBlanks_cons (by decide) _))
  | cons hfirst hothers =>
      apply Grammar.ValueOver.array
      rw [skipBlanks_append hinside]
      exact (sequence_iff_join (pieces_atFront levels) (.inl rfl)).2 ⟨_, List.cons_ne_nil _ _, .cons hfirst hothers, rfl⟩

/-- Texts of members between curly brackets are an object of the members. -/
theorem atFront_of_members {levels : Nat} {us : List Text} {members : List (Text × Json)} {t : Text}
    (hus : List.Forall₂ (Placed (grammar.Member (grammar.AtFront levels))) us members)
    (henclosed : Enclosed (CodePoint.ofChar '{') (CodePoint.ofChar '}') us t) :
    ∃ after, grammar.AtFront (levels + 1) (skipBlanks t) (.obj (Table.ofPairs members)) after := by
  obtain ⟨inside, after, hinside, -, hskip⟩ := (enclosed_iff (by decide)).1 henclosed
  refine ⟨after, ?_⟩
  rw [hskip]
  cases hus with
  | nil => exact .emptyObject ((skipBlanks_append hinside _).trans (skipBlanks_cons (by decide) _))
  | cons hfirst hothers =>
      apply Grammar.ValueOver.object
      rw [skipBlanks_append hinside]
      exact (sequence_iff_join (pieces_member (pieces_atFront levels)) (.inr rfl)).2
        ⟨_, List.cons_ne_nil _ _, .cons hfirst hothers, rfl⟩

/-- What is read where a value stands in front is that value, even where the levels do not show it. -/
theorem read_unique {levels : Nat} {t : Text} {v w : Json} {after : Text} (h : read t = .ok w)
    (hfront : grammar.AtFront levels (skipBlanks t) v after) : w = v := by
  obtain ⟨blanks, -, hvalue⟩ := exists_of_placed (read_ok_iff.1 h)
  exact (AtFront.unique hvalue hfront).1

/-- **Texts that are read**, between square brackets, are read as the array of what they are read as by themselves. -/
theorem read_elements {es : List Text} {vs : List Json} {t : Text} {w : Json} (h : read t = .ok w)
    (henclosed : Enclosed (CodePoint.ofChar '[') (CodePoint.ofChar ']') es t)
    (hes : List.Forall₂ (fun e v => read e = .ok v) es vs) : w = .arr vs := by
  obtain ⟨after, hfront⟩ := atFront_of_elements (hes.imp fun _ _ => read_ok_iff.1) henclosed
  exact read_unique h hfront

/-- **Members that are read**, between curly brackets, are read as the object of what they are read as by themselves; of two
    members with the same key the later one counts. -/
theorem read_members {ms : List (Text × Text)} {members : List (Text × Json)} {t : Text} {w : Json} (h : read t = .ok w)
    (henclosed : Enclosed (CodePoint.ofChar '{') (CodePoint.ofChar '}') (ms.map memberText) t)
    (hms : List.Forall₂ ReadsMember ms members) : w = .obj (Table.ofPairs members) := by
  have hus : List.Forall₂ (Placed (grammar.Member (grammar.AtFront (maxNesting + 1)))) (ms.map memberText) members := by
    rw [List.forall₂_map_left_iff]
    exact hms.imp fun m _ hm => placed_member_iff.2 ⟨m, rfl, hm.1, read_ok_iff.1 hm.2⟩
  obtain ⟨after, hfront⟩ := atFront_of_members hus henclosed
  exact read_unique h hfront

/-- A value of fewer levels is read by itself. -/
theorem read_of_placed {e : Text} {v : Json} (h : Placed (grammar.AtFront maxNesting) e v) : read e = .ok v :=
  read_ok_iff.2 (placed_mono (fun _ _ _ => AtFront.mono (Nat.le_succ maxNesting)) h)

/-- **Whatever is read as an array** is made up of texts that are read as its elements. -/
theorem exists_elements {t : Text} {vs : List Json} (h : read t = .ok (.arr vs)) :
    ∃ es, Enclosed (CodePoint.ofChar '[') (CodePoint.ofChar ']') es t ∧ List.Forall₂ (fun e v => read e = .ok v) es vs := by
  obtain ⟨blanks, hblanks, hvalue⟩ := exists_of_placed (read_ok_iff.1 h)
  generalize hskip : skipBlanks t = s at hvalue
  cases hvalue with
  | scalar h => rcases h.string_or with ⟨_, _, h, -⟩ | h | ⟨_, h⟩ | ⟨_, h⟩ | ⟨_, h⟩ <;> cases h
  | @emptyArray body _ hclose =>
      obtain ⟨inside, hinside, hbody⟩ := exists_blanks body
      rw [hclose] at hbody
      refine ⟨[], (enclosed_iff (by decide)).2 ⟨inside, blanks, hinside, hblanks, ?_⟩, .nil⟩
      rw [hskip, hbody]
      rfl
  | array h =>
      obtain ⟨es, -, hes, rfl⟩ := (sequence_iff_join (pieces_atFront maxNesting) (.inl rfl)).1 h
      exact ⟨es, (enclosed_iff (by decide)).2 ⟨[], blanks, nofun, hblanks, hskip⟩, hes.imp fun _ _ => read_of_placed⟩

theorem exists_members_of_placed {us : List Text} {members : List (Text × Json)}
    (h : List.Forall₂ (Placed (grammar.Member (grammar.AtFront maxNesting))) us members) :
    ∃ ms : List (Text × Text), us = ms.map memberText ∧ List.Forall₂ ReadsMember ms members := by
  induction h with
  | nil => exact ⟨[], rfl, .nil⟩
  | cons hfirst _ ih =>
      obtain ⟨m, rfl, hkey, hvalue⟩ := placed_member_iff.1 hfirst
      obtain ⟨ms, rfl, hms⟩ := ih
      exact ⟨m :: ms, rfl, .cons ⟨hkey, read_of_placed hvalue⟩ hms⟩

/-- **Whatever is read as an object** is made up of texts that are read as its members. -/
theorem exists_members {t : Text} {table : List (Text × Json)} (h : read t = .ok (.obj table)) :
    ∃ (ms : List (Text × Text)) (members : List (Text × Json)),
      Enclosed (CodePoint.ofChar '{') (CodePoint.ofChar '}') (ms.map memberText) t ∧
      List.Forall₂ ReadsMember ms members ∧ table = Table.ofPairs members := by
  obtain ⟨blanks, hblanks, hvalue⟩ := exists_of_placed (read_ok_iff.1 h)
  generalize hskip : skipBlanks t = s at hvalue
  cases hvalue with
  | scalar h => rcases h.string_or with ⟨_, _, h, -⟩ | h | ⟨_, h⟩ | ⟨_, h⟩ | ⟨_, h⟩ <;> cases h
  | @emptyObject body _ hclose =>
      obtain ⟨inside, hinside, hbody⟩ := exists_blanks body
      rw [hclose] at hbody
      refine ⟨[], [], (enclosed_iff (by decide)).2 ⟨inside, blanks, hinside, hblanks, ?_⟩, .nil, rfl⟩
      rw [hskip, hbody]
      rfl
  | object h =>
      obtain ⟨us, -, hus, rfl⟩ := (sequence_iff_join (pieces_member (pieces_atFront maxNesting)) (.inr rfl)).1 h
      obtain ⟨ms, rfl, hms⟩ := exists_members_of_placed hus
      exact ⟨ms, _, (enclosed_iff (by decide)).2 ⟨[], blanks, nofun, hblanks, hskip⟩, hms, rfl⟩

end Strict

end WebhookBridge.Json
