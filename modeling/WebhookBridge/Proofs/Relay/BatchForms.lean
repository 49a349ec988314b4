import WebhookBridge.Proofs.Json.Pieces
import WebhookBridge.Proofs.Relay.Bodies

/-!
# The forms of a batch

A batch is given as an array of requests, or as an object with such an array under `batch`. Both forms come to the same, and
to what the texts of the elements come to one by one. Nothing and null are the empty batch, and no other value is a batch.

## Contents

* `Json.IsArrayOf`, `Json.IsObjectOf`: texts made up of JSON texts;
* `requestsOfElements_ok_iff`: the requests of a list of values;
* `BatchForms`, `batchForms_of_decodeJson`: what a JSON text decodes to as a batch, whatever its form.
-/

namespace WebhookBridge

/-! ## Texts made up of JSON texts -/

namespace Json

/-- A text is an array of element texts, each of them a JSON text. -/
structure IsArrayOf (t : Text) (es : List Text) : Prop where
  enclosed : Enclosed (CodePoint.ofChar '[') (CodePoint.ofChar ']') es t
  elements : ∀ e ∈ es, ∃ v, decodeJson e = .ok v

/-- A text of a member is under a key: its first half is a JSON text for that key. -/
def IsUnder (m : Text × Text) (k : Text) : Prop := decodeJson m.1 = .ok (.str k)

/-- A text is an object of members, each a JSON text for its key and one for its value. -/
structure IsObjectOf (t : Text) (ms : List (Text × Text)) : Prop where
  enclosed : Enclosed (CodePoint.ofChar '{') (CodePoint.ofChar '}') (ms.map Strict.memberText) t
  keys : ∀ m ∈ ms, ∃ k, IsUnder m k
  values : ∀ m ∈ ms, ∃ v, decodeJson m.2 = .ok v

end Json

theorem exists_forall₂_iff {α β : Type} {R : α → β → Prop} {as : List α} :
    (∃ bs, List.Forall₂ R as bs) ↔ ∀ a ∈ as, ∃ b, R a b := by
  induction as with
  | nil => exact ⟨fun _ _ h => absurd h List.not_mem_nil, fun _ => ⟨[], .nil⟩⟩
  | cons a as ih =>
      rw [List.forall_mem_cons, ← ih]
      constructor
      · rintro ⟨_, _ | ⟨hfirst, hothers⟩⟩
        exact ⟨⟨_, hfirst⟩, _, hothers⟩
      · rintro ⟨⟨b, hb⟩, bs, hbs⟩
        exact ⟨b :: bs, .cons hb hbs⟩

theorem forall₂_append_left {α β : Type} {R : α → β → Prop} {as as' : List α} {bs : List β}
    (h : List.Forall₂ R (as ++ as') bs) :
    ∃ before after, bs = before ++ after ∧ List.Forall₂ R as before ∧ List.Forall₂ R as' after := by
  induction as generalizing bs with
  | nil => exact ⟨[], bs, rfl, .nil, h⟩
  | cons a as ih =>
      cases h with
      | cons hfirst hothers =>
          obtain ⟨before, after, rfl, hbefore, hafter⟩ := ih hothers
          exact ⟨_ :: before, after, rfl, .cons hfirst hbefore, hafter⟩

/-- A part of a text of characters is a text of characters. -/
theorem hasSurrogate_of_join {sep : Text} {parts : List Text} (h : (Text.join sep parts).hasSurrogate = false) :
    ∀ part ∈ parts, part.hasSurrogate = false := by
  induction parts with
  | nil => exact fun _ h => absurd h List.not_mem_nil
  | cons first parts ih =>
      cases parts with
      | nil => exact fun part hpart => List.mem_singleton.1 hpart ▸ h
      | cons second parts =>
          rw [Json.join_cons sep first (List.cons_ne_nil _ _), Text.hasSurrogate_append, Text.hasSurrogate_append,
            Bool.or_eq_false_iff, Bool.or_eq_false_iff] at h
          exact List.forall_mem_cons.2 ⟨h.1, ih h.2.2⟩

theorem hasSurrogate_of_enclosed {left right : CodePoint} {parts : List Text} {t : Text}
    (h : Json.Enclosed left right parts t) (ht : t.hasSurrogate = false) : ∀ part ∈ parts, part.hasSurrogate = false := by
  obtain ⟨before, inside, after, -, -, -, rfl⟩ := h
  simp only [Text.hasSurrogate_append, Text.hasSurrogate_cons, Bool.or_eq_false_iff] at ht
  exact hasSurrogate_of_join ht.2.2.2.1

namespace Json

variable {t : Text} {v : Json}

/-- An array of element texts decodes to the array of what they decode to. -/
theorem IsArrayOf.value {es : List Text} (h : IsArrayOf t es) (ht : decodeJson t = .ok v) :
    ∃ vs, v = .arr vs ∧ List.Forall₂ (fun e v => decodeJson e = .ok v) es vs := by
  obtain ⟨vs, hvs⟩ := exists_forall₂_iff.2 h.elements
  refine ⟨vs, ?_, hvs⟩
  exact Strict.read_elements (decodeJson_ok_iff.1 ht).2 h.enclosed (hvs.imp fun _ _ he => (decodeJson_ok_iff.1 he).2)

/-- Members decode to a key and a value each. -/
def DecodesMember (m : Text × Text) (member : Text × Json) : Prop := IsUnder m member.1 ∧ decodeJson m.2 = .ok member.2

/-- An object of member texts decodes to the object of what they decode to. -/
theorem IsObjectOf.value {ms : List (Text × Text)} (h : IsObjectOf t ms) (ht : decodeJson t = .ok v) :
    ∃ members, v = .obj (Table.ofPairs members) ∧ List.Forall₂ DecodesMember ms members := by
  have hdecodes : ∀ m ∈ ms, ∃ member, DecodesMember m member := by
    intro m hm
    obtain ⟨k, hk⟩ := h.keys m hm
    obtain ⟨w, hw⟩ := h.values m hm
    exact ⟨(k, w), hk, hw⟩
  obtain ⟨members, hmembers⟩ := exists_forall₂_iff.2 hdecodes
  refine ⟨members, ?_, hmembers⟩
  refine Strict.read_members (decodeJson_ok_iff.1 ht).2 h.enclosed (hmembers.imp fun m member hm => ?_)
  exact ⟨(decodeJson_ok_iff.1 hm.1).2, (decodeJson_ok_iff.1 hm.2).2⟩

/-- **The array texts** are those that decode to an array. -/
theorem exists_isArrayOf_iff (ht : decodeJson t = .ok v) : (∃ es, IsArrayOf t es) ↔ ∃ vs, v = .arr vs := by
  constructor
  · rintro ⟨es, h⟩
    obtain ⟨vs, hv, -⟩ := h.value ht
    exact ⟨vs, hv⟩
  · rintro ⟨vs, rfl⟩
    obtain ⟨hunicode, hread⟩ := decodeJson_ok_iff.1 ht
    obtain ⟨es, henclosed, hes⟩ := Strict.exists_elements hread
    refine ⟨es, henclosed, fun e he => ?_⟩
    obtain ⟨w, hw⟩ := exists_forall₂_iff.1 ⟨vs, hes⟩ e he
    exact ⟨w, decodeJson_ok_iff.2 ⟨hasSurrogate_of_enclosed henclosed hunicode e he, hw⟩⟩

/-- **The object texts** are those that decode to an object. -/
theorem exists_isObjectOf_iff (ht : decodeJson t = .ok v) : (∃ ms, IsObjectOf t ms) ↔ ∃ members, v = .obj members := by
  constructor
  · rintro ⟨ms, h⟩
    obtain ⟨members, hv, -⟩ := h.value ht
    exact ⟨_, hv⟩
  · rintro ⟨table, rfl⟩
    obtain ⟨hunicode, hread⟩ := decodeJson_ok_iff.1 ht
    obtain ⟨ms, members, henclosed, hms, -⟩ := Strict.exists_members hread
    have hparts : ∀ m ∈ ms, m.1.hasSurrogate = false ∧ m.2.hasSurrogate = false := by
      intro m hm
      have hm := hasSurrogate_of_enclosed henclosed hunicode _ (List.mem_map_of_mem hm)
      simp only [Strict.memberText, Text.hasSurrogate_append, Text.hasSurrogate_cons, Bool.or_eq_false_iff] at hm
      exact ⟨hm.1, hm.2.2⟩
    have hreads := exists_forall₂_iff.1 ⟨members, hms⟩
    refine ⟨ms, henclosed, fun m hm => ?_, fun m hm => ?_⟩
    · obtain ⟨member, hkey, -⟩ := hreads m hm
      exact ⟨member.1, decodeJson_ok_iff.2 ⟨(hparts m hm).1, hkey⟩⟩
    · obtain ⟨member, -, hvalue⟩ := hreads m hm
      exact ⟨member.2, decodeJson_ok_iff.2 ⟨(hparts m hm).2, hvalue⟩⟩

/-- Members that are not under a key decode to pairs under other keys. -/
theorem not_mem_keys {k : Text} {ms : List (Text × Text)} (hms : ∀ m ∈ ms, ¬ IsUnder m k) {members : List (Text × Json)}
    (h : List.Forall₂ DecodesMember ms members) : k ∉ Table.keys members := by
  induction h with
  | nil => exact List.not_mem_nil
  | @cons m member _ _ hfirst _ ih =>
      obtain ⟨hm, hothers⟩ := List.forall_mem_cons.1 hms
      intro hk
      rcases List.mem_cons.1 hk with rfl | hk
      · exact hm hfirst.1
      · exact ih hothers hk

/-- The value under a key is that of the last member under it. -/
theorem get?_of_last {k : Text} {before : List (Text × Text)} {m : Text × Text} {after : List (Text × Text)}
    (hm : IsUnder m k) (hafter : ∀ m' ∈ after, ¬ IsUnder m' k) {members : List (Text × Json)}
    (h : List.Forall₂ DecodesMember (before ++ m :: after) members) {w : Json} (hw : decodeJson m.2 = .ok w) :
    Table.get? k (Table.ofPairs members) = some w := by
  obtain ⟨first, others, rfl, -, hothers⟩ := forall₂_append_left h
  cases hothers with
  | @cons _ member _ others hmember hothers =>
      obtain ⟨k', w'⟩ := member
      have hk : k' = k := by
        have hkey := hmember.1.symm.trans hm
        cases hkey
        rfl
      have hvalue : w' = w := Except.ok.inj (hmember.2.symm.trans hw)
      subst hk hvalue
      exact Table.get?_ofPairs_last w' first (not_mem_keys hafter hothers)

end Json

/-! ## Requests of values -/

/-- The place of a value does not matter to whether it is a request, and to which one. -/
theorem RelayRequest.ofJson_ok_place (place place' : List Step) {v : Json} {r : RelayRequest} :
    ofJson place v = .ok r ↔ ofJson place' v = .ok r := by
  unfold ofJson
  cases v with
  | obj members =>
      cases hurl : Table.get? "url" members with
      | none => simp [hurl]
      | some w => cases w <;> simp [hurl]
  | _ => simp

/-- **A list of values** is a list of requests exactly if each value is a request, which it is in its place. -/
theorem requestsOfElements_ok_iff {index : Nat} {vs : List Json} {requests : List RelayRequest} :
    requestsOfElements index vs = .ok requests ↔ List.Forall₂ (fun v r => RelayRequest.ofJson [] v = .ok r) vs requests := by
  induction vs generalizing index requests with
  | nil =>
      rw [List.forall₂_nil_left_iff, requestsOfElements]
      exact ⟨fun h => (Except.ok.inj h).symm, fun h => h ▸ rfl⟩
  | cons v vs ih =>
      rw [requestsOfElements]
      constructor
      · intro h
        split at h
        · rename_i first others hfirst hothers
          cases h
          exact .cons ((RelayRequest.ofJson_ok_place _ []).1 hfirst) (ih.1 hothers)
        all_goals cases h
      · rintro (_ | ⟨hfirst, hothers⟩)
        have hplace := (RelayRequest.ofJson_ok_place [] [.key "batch", .index index]).1 hfirst
        have hrest : requestsOfElements (index + 1) vs = .ok _ := ih.2 hothers
        rw [hplace, hrest]

theorem RelayRequest.decode_eq {e : Text} {v : Json} (h : decodeJson e = .ok v) : decode e = ofJson [] v := by
  simp [decode, h, bind, Except.bind]

theorem decodeBatch_eq {t : Text} {v : Json} (h : decodeJson t = .ok v) : decodeBatch t = batchOfJson v := by
  simp [decodeBatch, h, bind, Except.bind]

/-- An array decodes to the requests that its element texts decode to. -/
theorem decodeBatch_elements {t : Text} {v : Json} (ht : decodeJson t = .ok v) {es : List Text} (h : Json.IsArrayOf t es)
    {requests : List RelayRequest} :
    decodeBatch t = .ok requests ↔ List.Forall₂ (fun e r => RelayRequest.decode e = .ok r) es requests := by
  obtain ⟨vs, rfl, hvs⟩ := h.value ht
  rw [decodeBatch_eq ht, batchOfJson, requestsOfElements_ok_iff]
  -- the texts and their values go together
  clear h ht
  induction hvs generalizing requests with
  | nil => rw [List.forall₂_nil_left_iff, List.forall₂_nil_left_iff]
  | cons hfirst _ ih =>
      cases requests with
      | nil => simp
      | cons r requests => rw [List.forall₂_cons, List.forall₂_cons, ih, RelayRequest.decode_eq hfirst]

/-! ## The forms -/

/-- What a JSON text of a value decodes to as a batch. -/
structure BatchForms (t : Text) (v : Json) : Prop where
  /-- The arrays and the objects are made up of JSON texts. -/
  arrays : (∃ es, Json.IsArrayOf t es) ↔ ∃ vs, v = .arr vs
  objects : (∃ ms, Json.IsObjectOf t ms) ↔ ∃ members, v = .obj members
  /-- An array decodes to what its elements decode to one by one, in their order. -/
  bare : ∀ es, Json.IsArrayOf t es → ∀ requests,
    decodeBatch t = .ok requests ↔ List.Forall₂ (fun e r => RelayRequest.decode e = .ok r) es requests
  /-- It decodes if each element does. -/
  accepted : ∀ es, Json.IsArrayOf t es →
    ((∃ requests, decodeBatch t = .ok requests) ↔ ∀ e ∈ es, ∃ r, RelayRequest.decode e = .ok r)
  /-- An object whose last member under `batch` is an array decodes as the array does, to the same requests or issues,
      whatever its other members are. -/
  wrapped : ∀ before m after es, Json.IsObjectOf t (before ++ m :: after) → Json.IsUnder m "batch" →
    (∀ m' ∈ after, ¬ Json.IsUnder m' "batch") → Json.IsArrayOf m.2 es → decodeBatch t = decodeBatch m.2
  /-- Null is the empty batch, and so is an object with null or nothing under `batch`. -/
  null : v = .null → decodeBatch t = .ok []
  nullWrapped : ∀ before m after, Json.IsObjectOf t (before ++ m :: after) → Json.IsUnder m "batch" →
    (∀ m' ∈ after, ¬ Json.IsUnder m' "batch") → decodeJson m.2 = .ok .null → decodeBatch t = .ok []
  missing : ∀ ms, Json.IsObjectOf t ms → (∀ m ∈ ms, ¬ Json.IsUnder m "batch") → decodeBatch t = .ok []
  /-- Anything else is no batch, by itself or under `batch`. -/
  other : v ≠ .null → (∀ vs, v ≠ .arr vs) → (∀ members, v ≠ .obj members) → ∃ issues, decodeBatch t = .error issues
  otherWrapped : ∀ before m after w, Json.IsObjectOf t (before ++ m :: after) → Json.IsUnder m "batch" →
    (∀ m' ∈ after, ¬ Json.IsUnder m' "batch") → decodeJson m.2 = .ok w → w ≠ .null → (∀ vs, w ≠ .arr vs) →
    ∃ issues, decodeBatch t = .error issues

/-- What an object decodes to is a matter of its last member under `batch`. -/
theorem decodeBatch_object {t : Text} {v : Json} (ht : decodeJson t = .ok v) {before : List (Text × Text)} {m : Text × Text}
    {after : List (Text × Text)} (h : Json.IsObjectOf t (before ++ m :: after)) (hm : Json.IsUnder m "batch")
    (hafter : ∀ m' ∈ after, ¬ Json.IsUnder m' "batch") {w : Json} (hw : decodeJson m.2 = .ok w) :
    ∃ members, decodeBatch t = batchOfJson (.obj members) ∧ Table.get? "batch" members = some w := by
  obtain ⟨members, rfl, hmembers⟩ := h.value ht
  exact ⟨_, decodeBatch_eq ht, Json.get?_of_last hm hafter hmembers hw⟩

/-- **The forms of a batch** agree: for every JSON text an array decodes to what its elements' texts decode to, an object with
    it under `batch` decodes to the same, null and nothing are the empty batch, and anything else is refused. -/
theorem batchForms_of_decodeJson {t : Text} {v : Json} (ht : decodeJson t = .ok v) : BatchForms t v where
  arrays := Json.exists_isArrayOf_iff ht
  objects := Json.exists_isObjectOf_iff ht
  bare := by
    intro es h requests
    exact decodeBatch_elements ht h
  accepted := by
    intro es h
    rw [← exists_forall₂_iff]
    exact exists_congr fun requests => decodeBatch_elements ht h
  wrapped := by
    intro before m after es h hm hafter hes
    obtain ⟨w, hw⟩ := h.values m (by simp)
    obtain ⟨vs, rfl, -⟩ := hes.value hw
    obtain ⟨members, hdecode, hget⟩ := decodeBatch_object ht h hm hafter hw
    rw [hdecode, decodeBatch_eq hw]
    simp [batchOfJson, hget]
  null := by
    rintro rfl
    exact decodeBatch_eq ht
  nullWrapped := by
    intro before m after h hm hafter hnull
    obtain ⟨members, hdecode, hget⟩ := decodeBatch_object ht h hm hafter hnull
    rw [hdecode]
    simp [batchOfJson, hget]
  missing := by
    intro ms h hms
    obtain ⟨members, rfl, hmembers⟩ := h.value ht
    have hget := Table.get?_ofPairs_of_not_mem (Json.not_mem_keys hms hmembers)
    rw [decodeBatch_eq ht]
    simp [batchOfJson, hget]
  other := by
    intro hnull harray hobject
    rw [decodeBatch_eq ht]
    cases v with
    | null => exact absurd rfl hnull
    | arr vs => exact absurd rfl (harray vs)
    | obj members => exact absurd rfl (hobject members)
    | _ => exact ⟨_, rfl⟩
  otherWrapped := by
    intro before m after w h hm hafter hw hnull harray
    obtain ⟨members, hdecode, hget⟩ := decodeBatch_object ht h hm hafter hw
    rw [hdecode, batchOfJson, hget]
    cases w with
    | null => exact absurd rfl hnull
    | arr vs => exact absurd rfl (harray vs)
    | _ => exact ⟨_, rfl⟩

/-- A batch of one request under `batch`, and another member. -/
def wrappedBatch : Text := "\x7b\"batch\": [\x7b\"url\": \"a\"\x7d], \"of\": 1\x7d"

/-- The texts of its members. -/
def wrappedMembers : List (Text × Text) := [("\"batch\"", " [\x7b\"url\": \"a\"\x7d]"), (" \"of\"", " 1")]

theorem isObjectOf_wrappedBatch : Json.IsObjectOf wrappedBatch wrappedMembers := by
  refine ⟨⟨[], [], [], nofun, nofun, nofun, rfl⟩, ?_, ?_⟩
  · simp only [wrappedMembers, List.forall_mem_cons, Json.IsUnder]
    exact ⟨⟨"batch", by cbv⟩, ⟨"of", by cbv⟩, nofun⟩
  · simp only [wrappedMembers, List.forall_mem_cons]
    exact ⟨⟨.arr [.obj [("url", .str "a")]], by cbv⟩, ⟨.int 1, by cbv⟩, nofun⟩

/-- The object is of these members, and it has the forms of a batch. -/
theorem batchForms_wrappedBatch : Json.IsObjectOf wrappedBatch wrappedMembers ∧
    decodeJson wrappedBatch = .ok (.obj [("batch", .arr [.obj [("url", .str "a")]]), ("of", .int 1)]) ∧
    BatchForms wrappedBatch (.obj [("batch", .arr [.obj [("url", .str "a")]]), ("of", .int 1)]) :=
  ⟨isObjectOf_wrappedBatch, by cbv, batchForms_of_decodeJson (by cbv)⟩

end WebhookBridge
