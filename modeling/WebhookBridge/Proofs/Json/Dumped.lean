import WebhookBridge.Proofs.Json.Levels
import WebhookBridge.Proofs.Json.ReadValues
import WebhookBridge.Relay.Outcome

/-!
# Writing what was dumped

Dumping takes away what is not finite and refuses what is nested too deeply or foreign. So a dumped payload has a text in
every layout, unless one of its integers has too many digits.

## Contents

* `Json.IsShort`, `Json.Short`: parts that are no integers of too many digits, and values of such parts;
* `Json.Lenient.short_of_readDocument`: what is read is such a value;
* `Json.partFault?_of_dumpAt`: the parts of a dumped value can be written;
* `Payload.Short`, `Payload.print_dump`: dumped payloads have a text.
-/

namespace WebhookBridge

namespace Json

/-- A part that is no integer of too many digits. -/
def IsShort : Nat × Json → Prop
  | (_, .int n) => n.natAbs < Nat.pow 10 Whole.maxDigits
  | _ => True

/-- Whether all integers of a value have few enough digits. -/
def Short (v : Json) : Prop := ∀ part ∈ v.parts 0, IsShort part

/-- A part of which nothing but a number that is not finite can be the fault. -/
theorem isShort_of_partFault? {limit : Nat} {part : Nat × Json}
    (h : ∀ fault, partFault? limit part = some fault → fault = .notFinite) : IsShort part := by
  obtain ⟨level, v⟩ := part
  cases v with
  | int n =>
      by_cases hn : n.natAbs < Nat.pow 10 Whole.maxDigits
      · exact hn
      · cases h .integerTooLong (by rw [partFault?, if_neg hn])
  | null => trivial
  | bool _ => trivial
  | float _ => trivial
  | str _ => trivial
  | arr _ => trivial
  | obj _ => trivial
  | foreign _ => trivial

/-- **What a reader finds** has no integer of too many digits. -/
theorem Lenient.short_of_readAll {levels : Nat} {t : Text} {v : Json} (h : readAll levels t = .ok v) : v.Short :=
  fun part hpart => isShort_of_partFault? (partFault?_of_readAll h part hpart)

theorem Lenient.short_of_readDocument {octets : Octets} {v : Json} (h : readDocument octets = .ok v) : v.Short := by
  obtain ⟨⟨t, levels, -, hread⟩, -⟩ := readDocument_ok_iff.1 h
  exact short_of_readAll hread

theorem print_ok_of_parts (style : Style) {limit level : Nat} {v : Json}
    (h : ∀ part ∈ v.parts level, partFault? limit part = none) : ∃ t, printAt style limit level v = .ok t := by
  have hfault := fault_printAt style limit level v
  rw [List.findSome?_eq_none_iff.2 h] at hfault
  cases hprint : printAt style limit level v with
  | ok t => exact ⟨t, rfl⟩
  | error fault =>
      rw [hprint] at hfault
      cases hfault

mutual

/-- **The parts of a dumped value** can be written, if the integers of the value can. -/
theorem partFault?_of_dumpAt {limit depth level : Nat} (hle : level + maxDumpDepth ≤ limit + depth) : ∀ {v w : Json},
    dumpAt depth v = .ok w → (∀ part ∈ v.parts depth, IsShort part) → ∀ part ∈ w.parts level, partFault? limit part = none
  | .null, w, h, _ => by
    obtain ⟨-, h⟩ := (limit_eq_ok _ _ _).1 h
    cases h
    simp [parts, partFault?]
  | .bool _, w, h, _ => by
    obtain ⟨-, h⟩ := (limit_eq_ok _ _ _).1 h
    cases h
    simp [parts, partFault?]
  | .str _, w, h, _ => by
    obtain ⟨-, h⟩ := (limit_eq_ok _ _ _).1 h
    cases h
    simp [parts, partFault?]
  | .int n, w, h, hshort => by
    obtain ⟨-, h⟩ := (limit_eq_ok _ _ _).1 h
    cases h
    have hn : n.natAbs < Nat.pow 10 Whole.maxDigits := hshort (depth, .int n) (List.mem_singleton_self _)
    simp only [parts, List.mem_singleton, forall_eq, partFault?, if_pos hn]
  | .float x, w, h, _ => by
    obtain ⟨-, h⟩ := (limit_eq_ok _ _ _).1 h
    cases h
    -- what is not finite has become null
    by_cases hx : x.isFinite = true
    · simp [hx, parts, partFault?]
    · simp [hx, parts, partFault?]
  | .foreign _, w, h, _ => by cases h
  | .arr elements, w, h, hshort => by
    obtain ⟨hlt, h⟩ := (limit_eq_ok _ _ _).1 h
    cases hd : dumpElements (depth + 1) elements with
    | error fault =>
        rw [hd] at h
        cases h
    | ok ws =>
        rw [hd] at h
        cases h
        have hinner : level + 1 + maxDumpDepth ≤ limit + (depth + 1) := by omega
        have hrest := partFault?_of_dumpElements hinner hd fun part hpart => hshort part (List.mem_cons_of_mem _ hpart)
        have hlevel : ¬ limit ≤ level := by omega
        rw [parts, List.forall_mem_cons]
        exact ⟨by rw [partFault?, if_neg hlevel], hrest⟩
  | .obj members, w, h, hshort => by
    obtain ⟨hlt, h⟩ := (limit_eq_ok _ _ _).1 h
    cases hd : dumpMembers (depth + 1) members with
    | error fault =>
        rw [hd] at h
        cases h
    | ok ws =>
        rw [hd] at h
        cases h
        have hinner : level + 1 + maxDumpDepth ≤ limit + (depth + 1) := by omega
        have hrest := partFault?_of_dumpMembers hinner hd fun part hpart => hshort part (List.mem_cons_of_mem _ hpart)
        have hlevel : ¬ limit ≤ level := by omega
        rw [parts, List.forall_mem_cons]
        exact ⟨by rw [partFault?, if_neg hlevel], hrest⟩

theorem partFault?_of_dumpElements {limit depth level : Nat} (hle : level + maxDumpDepth ≤ limit + depth) :
    ∀ {elements ws : List Json}, dumpElements depth elements = .ok ws →
      (∀ part ∈ elementParts depth elements, IsShort part) → ∀ part ∈ elementParts level ws, partFault? limit part = none
  | [], ws, h, _ => by
    cases h
    simp [elementParts]
  | v :: rest, ws, h, hshort => by
    rw [elementParts, List.forall_mem_append] at hshort
    rw [dumpElements] at h
    cases hv : dumpAt depth v with
    | error fault =>
        rw [hv] at h
        cases h
    | ok first =>
        cases hrest : dumpElements depth rest with
        | error fault =>
            rw [hv, hrest] at h
            cases h
        | ok others =>
            rw [hv, hrest] at h
            cases h
            rw [elementParts, List.forall_mem_append]
            exact ⟨partFault?_of_dumpAt hle hv hshort.1, partFault?_of_dumpElements hle hrest hshort.2⟩

theorem partFault?_of_dumpMembers {limit depth level : Nat} (hle : level + maxDumpDepth ≤ limit + depth) :
    ∀ {members ws : List (Text × Json)}, dumpMembers depth members = .ok ws →
      (∀ part ∈ memberParts depth members, IsShort part) → ∀ part ∈ memberParts level ws, partFault? limit part = none
  | [], ws, h, _ => by
    cases h
    simp [memberParts]
  | (k, v) :: rest, ws, h, hshort => by
    rw [memberParts, List.forall_mem_append] at hshort
    rw [dumpMembers] at h
    cases hk : k.surrogateFault? with
    | some fault =>
        rw [hk] at h
        cases h
    | none =>
        rw [hk] at h
        dsimp only at h
        cases hv : dumpAt depth v with
        | error fault =>
            rw [hv] at h
            cases h
        | ok first =>
            cases hrest : dumpMembers depth rest with
            | error fault =>
                rw [hv, hrest] at h
                cases h
            | ok others =>
                rw [hv, hrest] at h
                cases h
                rw [memberParts, List.forall_mem_append]
                exact ⟨partFault?_of_dumpAt hle hv hshort.1, partFault?_of_dumpMembers hle hrest hshort.2⟩

end

end Json

/-! ## Payloads -/

open Json (partFault? parts elementParts memberParts)

/-- Whether all integers of a payload have few enough digits. -/
def Payload.Short : Payload → Prop
  | .success answer => answer.body.Short
  | .error _ => True
  | .batch b => ∀ entry ∈ b.successes, entry.2.body.Short
  | .other _ _ => False

/-- A dumped answer can be written where there is room for the greatest depth of its body. -/
theorem Answer.partFault?_of_dump {a : Answer} {w : Json} (h : a.dump = .ok w) (hshort : a.body.Short) {limit level : Nat}
    (hle : level + 1 + Json.maxDumpDepth ≤ limit) : ∀ part ∈ w.parts level, partFault? limit part = none := by
  have hlevel : ¬ limit ≤ level := by omega
  rw [Answer.dump] at h
  cases hbody : a.body.dump with
  | error fault =>
      rw [hbody] at h
      cases h
  | ok body =>
      rw [hbody] at h
      cases h
      have hinner : level + 1 + Json.maxDumpDepth ≤ limit + 0 := hle
      have hparts := Json.partFault?_of_dumpAt hinner hbody hshort
      simpa [parts, memberParts, partFault?, hlevel] using hparts

/-- A dumped error can be written. -/
theorem partFault?_dumpError (message : Text) {limit level : Nat} (hle : level < limit) :
    ∀ part ∈ (dumpError message).parts level, partFault? limit part = none := by
  simp [dumpError, parts, memberParts, partFault?, Nat.not_le.2 hle]

theorem BatchResult.mem_dumpEntries {α : Type} {f : α → Except Json.DumpFault Json} {t : Table α}
    {ws : List (Text × Json)} (h : dumpEntries f t = .ok ws) : ∀ m ∈ ws, ∃ entry ∈ t, f entry.2 = .ok m.2 := by
  induction t generalizing ws with
  | nil =>
      cases h
      simp
  | cons entry rest ih =>
      obtain ⟨url, v⟩ := entry
      obtain ⟨first, hv, h⟩ := Json.bind_eq_ok.1 h
      obtain ⟨others, hrest, h⟩ := Json.bind_eq_ok.1 h
      cases h
      intro m hm
      rcases List.mem_cons.1 hm with rfl | hm
      · exact ⟨(url, v), List.mem_cons_self .., hv⟩
      · obtain ⟨entry, hentry, he⟩ := ih hrest m hm
        exact ⟨entry, List.mem_cons_of_mem _ hentry, he⟩

theorem BatchResult.mem_dumpTable {α : Type} {f : α → Except Json.DumpFault Json} {t : Table α} {ws : Table Json}
    (h : dumpTable f t = .ok ws) : ∀ m ∈ ws, ∃ entry ∈ t, f entry.2 = .ok m.2 := by
  rw [dumpTable] at h
  cases hentries : dumpEntries f t with
  | error fault =>
      rw [hentries] at h
      cases h
  | ok dumped =>
      rw [hentries] at h
      cases h
      exact fun m hm => mem_dumpEntries hentries m (Table.mem_ofPairs hm)

/-- **A dumped payload has a text** in every layout, if its integers have. -/
theorem Payload.print_dump (style : Json.Style) {p : Payload} (hshort : p.Short) {w : Json} (h : p.dump = .ok w) :
    ∃ t, Json.print style w = .ok t := by
  apply Json.print_ok_of_parts
  cases p with
  | success answer => exact Answer.partFault?_of_dump h hshort (by decide)
  | error message =>
      cases h
      exact partFault?_dumpError message (by decide)
  | other kind dumped => exact hshort.elim
  | batch b =>
      rw [Payload.dump, BatchResult.dump] at h
      cases hs : BatchResult.dumpTable Answer.dump b.successes with
      | error fault =>
          rw [hs] at h
          cases h
      | ok successes =>
          cases he : BatchResult.dumpTable (fun m => .ok (dumpError m)) b.errors with
          | error fault =>
              rw [hs, he] at h
              cases h
          | ok errors =>
              rw [hs, he] at h
              cases h
              have hsuccesses : ∀ part ∈ memberParts 2 successes, partFault? Json.maxNesting part = none := by
                intro part hpart
                obtain ⟨m, hm, hpart⟩ := Json.mem_memberParts.1 hpart
                obtain ⟨entry, hentry, hdump⟩ := BatchResult.mem_dumpTable hs m hm
                exact Answer.partFault?_of_dump hdump (hshort entry hentry) (by decide) part hpart
              have herrors : ∀ part ∈ memberParts 2 errors, partFault? Json.maxNesting part = none := by
                intro part hpart
                obtain ⟨m, hm, hpart⟩ := Json.mem_memberParts.1 hpart
                obtain ⟨entry, -, hdump⟩ := BatchResult.mem_dumpTable he m hm
                rw [← Except.ok.inj hdump] at hpart
                exact partFault?_dumpError entry.2 (by decide) part hpart
              have hroom : ∀ level < 2, ∀ ms, partFault? Json.maxNesting (level, .obj ms) = none := by
                intro level hlevel ms
                have hle : ¬ Json.maxNesting ≤ level := by
                  have hmax : 2 ≤ Json.maxNesting := by decide
                  omega
                rw [partFault?, if_neg hle]
              rw [parts, memberParts, memberParts, memberParts, List.append_nil, parts, parts, List.forall_mem_cons,
                List.forall_mem_append, List.forall_mem_cons, List.forall_mem_cons]
              exact ⟨hroom 0 (by decide) _, ⟨hroom 1 (by decide) _, hsuccesses⟩, hroom 1 (by decide) _, herrors⟩

end WebhookBridge
