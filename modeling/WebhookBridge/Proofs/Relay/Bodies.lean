import WebhookBridge.Proofs.Json.Levels
import WebhookBridge.Proofs.Json.ReadValues
import WebhookBridge.Proofs.Relay.Containment
import WebhookBridge.Relay.Request

/-!
# The bodies of requests

The URL of a decoded request stands inside the value of its JSON text, and so does its body, unless it is null. So both are
made up of parts of that value: their strings hold no surrogates, the keys of their objects are different, and of their parts
only a number that is not finite cannot be written.

## Contents

* `RelayRequest.From`: requests from a value;
* `Json.Fair`: parts as they come from a JSON text;
* `RelayRequest.IsFair`, `isFair_of_decode`, `isFair_of_decodeBatch`: decoded requests have such parts;
* `RelayRequest.IsFair.not_nestsTooDeep`: their bodies do not nest too deeply.
-/

namespace WebhookBridge

/-! ## Requests from values -/

namespace RelayRequest

/-- A request is from a value that its URL stands in, and so does its body, unless it is null. -/
structure From (v : Json) (r : RelayRequest) : Prop where
  url : (Json.str r.url).Inside v
  body : r.body = .null ∨ r.body.Inside v

theorem From.inside {w v : Json} {r : RelayRequest} (h : From w r) (hw : w.Inside v) : From v r :=
  ⟨h.url.trans hw, h.body.imp_right (·.trans hw)⟩

theorem from_ofJson {place : List Step} {v : Json} {r : RelayRequest} (h : ofJson place v = .ok r) : From v r := by
  unfold ofJson at h
  split at h
  · rename_i members
    split at h
    · cases h
    · rename_i url hurl
      cases h
      refine ⟨.member (Table.mem_of_get? hurl), ?_⟩
      cases hbody : Table.get? "body" members with
      | none => exact .inl rfl
      | some body => exact .inr (.member (Table.mem_of_get? hbody))
    · cases h
  · cases h

theorem from_requestsOfElements (elements : List Json) : ∀ (index : Nat) (requests : List RelayRequest),
    requestsOfElements index elements = .ok requests → ∀ r ∈ requests, From (.arr elements) r := by
  -- every request is from an element
  have hfrom : ∀ (elements : List Json) (index : Nat) (requests : List RelayRequest),
      requestsOfElements index elements = .ok requests → ∀ r ∈ requests, ∃ v ∈ elements, From v r := by
    intro elements
    induction elements with
    | nil =>
        intro index requests h
        cases h
        simp
    | cons v rest ih =>
        intro index requests h
        rw [requestsOfElements] at h
        split at h
        · rename_i first others hfirst hothers
          cases h
          intro r hr
          rcases List.mem_cons.1 hr with rfl | hr
          · exact ⟨v, List.mem_cons_self .., from_ofJson hfirst⟩
          · obtain ⟨w, hw, hr⟩ := ih _ _ hothers r hr
            exact ⟨w, List.mem_cons_of_mem _ hw, hr⟩
        · cases h
        · cases h
        · cases h
  intro index requests h r hr
  obtain ⟨v, hv, hr⟩ := hfrom elements index requests h r hr
  exact hr.inside (.element hv)

theorem from_batchOfJson {v : Json} {requests : List RelayRequest} (h : batchOfJson v = .ok requests) :
    ∀ r ∈ requests, From v r := by
  unfold batchOfJson at h
  split at h
  · cases h
    simp
  · exact from_requestsOfElements _ _ _ h
  · rename_i members
    split at h
    · cases h
      simp
    · cases h
      simp
    · rename_i elements hget
      intro r hr
      exact (from_requestsOfElements _ _ _ h r hr).inside (.member (Table.mem_of_get? hget))
    · cases h
  · cases h

end RelayRequest

/-! ## Parts of JSON texts -/

namespace Json

/-- A part as it comes from a JSON text of characters: without surrogates, with different keys, and only a number that is not
    finite cannot be written. -/
def Fair (part : Nat × Json) : Prop :=
  Plain part ∧ ∀ fault, partFault? maxNesting part = some fault → fault = .notFinite

/-- Less deep a part stays as it is, and has less that keeps it from being written. -/
theorem Fair.raise (level k : Nat) (v : Json) (h : Fair (level + k, v)) : Fair (level, v) := by
  obtain ⟨hplain, hfault⟩ := h
  have hraise : partFault? maxNesting (level, v) = partFault? maxNesting (level + k, v) ∨
      partFault? maxNesting (level, v) = none := by
    cases v with
    | arr vs =>
        by_cases hle : maxNesting ≤ level
        · exact .inl (by rw [partFault?, partFault?, if_pos hle, if_pos (by omega)])
        · exact .inr (if_neg hle)
    | obj ms =>
        by_cases hle : maxNesting ≤ level
        · exact .inl (by rw [partFault?, partFault?, if_pos hle, if_pos (by omega)])
        · exact .inr (if_neg hle)
    | null => exact .inl rfl
    | bool _ => exact .inl rfl
    | int _ => exact .inl rfl
    | float _ => exact .inl rfl
    | str _ => exact .inl rfl
    | foreign _ => exact .inl rfl
  refine ⟨?_, fun fault h => ?_⟩
  · cases v <;> exact hplain
  · rcases hraise with hraise | hraise
    · exact hfault fault (hraise ▸ h)
    · rw [hraise] at h
      cases h

/-- The parts of what a text of characters denotes. -/
theorem Strict.fair_of_read {t : Text} {v : Json} (h : Strict.read t = .ok v) (ht : t.hasSurrogate = false) :
    ∀ part ∈ v.parts 0, Fair part := by
  have hlenient : Lenient.readAll Json.maxNesting t = .ok v := by
    have hread := Strict.readAll_of_read h
    have hmore : Strict.maxNesting + 1 ≤ Json.maxNesting := by decide
    rw [← hread]
    exact Lenient.readAll_extends hmore t (by rw [hread]; simp)
  exact fun part hpart => ⟨Strict.plain_of_read h ht part hpart, Lenient.partFault?_of_readAll hlenient part hpart⟩

end Json

theorem decodeJson_ok_iff {t : Text} {v : Json} :
    decodeJson t = .ok v ↔ t.hasSurrogate = false ∧ Json.Strict.read t = .ok v := by
  unfold decodeJson
  cases ht : t.hasSurrogate with
  | true => simp
  | false =>
      cases Json.Strict.read t with
      | ok w => simp
      | error fault => simp

/-! ## Decoded requests -/

/-- The URL and the body of a request come from a JSON text. -/
structure RelayRequest.IsFair (r : RelayRequest) : Prop where
  url : r.url.hasSurrogate = false
  body : ∀ part ∈ r.body.parts 0, Json.Fair part

namespace RelayRequest

theorem From.isFair {t : Text} {v : Json} (hv : decodeJson t = .ok v) {r : RelayRequest} (h : From v r) : r.IsFair := by
  obtain ⟨ht, hread⟩ := decodeJson_ok_iff.1 hv
  have hfair := Json.Strict.fair_of_read hread ht
  refine ⟨(h.url.forall_parts Json.Fair.raise hfair _ (List.mem_singleton_self _)).1, ?_⟩
  rcases h.body with hbody | hbody
  · rw [hbody]
    simp [Json.parts, Json.Fair, Json.Plain, Json.partFault?]
  · exact hbody.forall_parts Json.Fair.raise hfair

/-- **The request of a JSON text.** -/
theorem isFair_of_decode {t : Text} {r : RelayRequest} (h : decode t = .ok r) : r.IsFair := by
  obtain ⟨v, hv, hr⟩ := Json.bind_eq_ok.1 h
  exact (from_ofJson hr).isFair hv

/-- **The requests of a JSON text.** -/
theorem isFair_of_decodeBatch {t : Text} {requests : List RelayRequest} (h : decodeBatch t = .ok requests) :
    ∀ r ∈ requests, r.IsFair := by
  obtain ⟨v, hv, hrequests⟩ := Json.bind_eq_ok.1 h
  exact fun r hr => (from_batchOfJson hrequests r hr).isFair hv

end RelayRequest

/-- What has only numbers that are not finite to keep it from being written does not nest too deeply. -/
theorem Json.not_nestsTooDeep {v : Json}
    (h : ∀ part ∈ v.parts 0, ∀ fault, Json.partFault? Json.maxNesting part = some fault → fault = .notFinite) :
    ¬ v.NestsTooDeep := by
  intro hdeep
  obtain ⟨part, hpart, hfault⟩ := List.exists_of_findSome?_eq_some hdeep
  cases h part hpart _ hfault

theorem RelayRequest.IsFair.not_nestsTooDeep {r : RelayRequest} (h : r.IsFair) : ¬ r.body.NestsTooDeep :=
  Json.not_nestsTooDeep fun part hpart => (h.body part hpart).2

end WebhookBridge
