import WebhookBridge.Dispatch.Batch

/-!
# What a batch shows of a call

Recording a call gives its URL one entry, in one of the two tables, and leaves the entries of all other URLs as they
were. Only a call that met a defect is not recorded.

## Contents

* `CallResult.IsRelayed`: what the relay answers for;
* `BatchResult.Shows`: the entry that a URL has after a call, `BatchResult.Keyed`: no key occurs twice;
* `BatchRun.finish_relayed`: what the end of a call does to a batch.
-/

namespace WebhookBridge

/-- What a relay answers for: an answer or an error. -/
def CallResult.IsRelayed : CallResult → Prop
  | .answered _ _ => True
  | .failed _ => True
  | .met _ => False

namespace BatchResult

/-- The entry of a URL is what a call came to: the answer among the successes, or the text of the error among the errors,
    and nothing in the other table. Without a call there is no entry. -/
def Shows (b : BatchResult) (url : Text) : Option CallResult → Prop
  | none => b.successes.get? url = none ∧ b.errors.get? url = none
  | some (.answered status body) =>
    b.successes.get? url = some ⟨Text.ofInt status, body⟩ ∧ b.errors.get? url = none
  | some (.failed e) => b.successes.get? url = none ∧ b.errors.get? url = some e.message
  | some (.met _) => False

/-- Neither table holds a key twice. -/
structure Keyed (b : BatchResult) : Prop where
  successes : b.successes.keys.Nodup
  errors : b.errors.keys.Nodup

theorem keyed_empty : empty.Keyed := ⟨List.nodup_nil, List.nodup_nil⟩

theorem shows_empty (url : Text) : empty.Shows url none := ⟨rfl, rfl⟩

/-- What is shown of a URL depends on the two look-ups alone. -/
theorem Shows.congr {b c : BatchResult} {url : Text} {last : Option CallResult} (h : b.Shows url last)
    (hs : c.successes.get? url = b.successes.get? url) (he : c.errors.get? url = b.errors.get? url) :
    c.Shows url last := by
  rcases last with _ | (⟨status, body⟩ | e | d)
  · exact ⟨hs.trans h.1, he.trans h.2⟩
  · exact ⟨hs.trans h.1, he.trans h.2⟩
  · exact ⟨hs.trans h.1, he.trans h.2⟩
  · exact h

/-- What is shown determines both look-ups. -/
theorem Shows.unique {b c : BatchResult} {url : Text} {last : Option CallResult} (hb : b.Shows url last)
    (hc : c.Shows url last) :
    b.successes.get? url = c.successes.get? url ∧ b.errors.get? url = c.errors.get? url := by
  rcases last with _ | (⟨status, body⟩ | e | d)
  · exact ⟨hb.1.trans hc.1.symm, hb.2.trans hc.2.symm⟩
  · exact ⟨hb.1.trans hc.1.symm, hb.2.trans hc.2.symm⟩
  · exact ⟨hb.1.trans hc.1.symm, hb.2.trans hc.2.symm⟩
  · exact absurd hb id

/-- A URL has an entry exactly if a call is shown, -/
theorem Shows.mem_iff {b : BatchResult} {url : Text} {last : Option CallResult} (h : b.Shows url last) :
    (url ∈ b.successes.keys ∨ url ∈ b.errors.keys) ↔ last ≠ none := by
  rw [Table.mem_keys_iff, Table.mem_keys_iff]
  rcases last with _ | (⟨status, body⟩ | e | d)
  · simp [h.1, h.2]
  · simp [h.1]
  · simp [h.2]
  · exact absurd h id

/-- and then in one table only. -/
theorem Shows.not_both {b : BatchResult} {url : Text} {last : Option CallResult} (h : b.Shows url last) :
    ¬ (url ∈ b.successes.keys ∧ url ∈ b.errors.keys) := by
  rw [Table.mem_keys_iff, Table.mem_keys_iff]
  rcases last with _ | (⟨status, body⟩ | e | d)
  · simp [h.1]
  · simp [h.2]
  · simp [h.1]
  · exact absurd h id

/-! ## Recording -/

/-- **Recording what the relay answers for**: the URL shows it, all other URLs keep their entries, and no key comes to be
    there twice. -/
theorem record_relayed (url : Text) {result : CallResult} (hr : result.IsRelayed) (b : BatchResult) :
    ∃ o, (settleCall url result).1 = .ok o ∧
      (b.record o).Shows url (some result) ∧ (b.Keyed → (b.record o).Keyed) ∧
      ∀ other ≠ url, (b.record o).successes.get? other = b.successes.get? other ∧
        (b.record o).errors.get? other = b.errors.get? other := by
  -- what is written into one table is erased from the other
  cases result with
  | answered status body =>
      refine ⟨_, rfl, ⟨Table.get?_put_self _ _ _, Table.get?_erase_self _ _⟩,
        fun h => ⟨Table.nodup_keys_put h.successes, Table.nodup_keys_erase h.errors⟩, ?_⟩
      intro other hne
      exact ⟨Table.get?_put_ne hne _ _, Table.get?_erase_ne hne _⟩
  | failed e =>
      refine ⟨_, rfl, ⟨Table.get?_erase_self _ _, Table.get?_put_self _ _ _⟩,
        fun h => ⟨Table.nodup_keys_erase h.successes, Table.nodup_keys_put h.errors⟩, ?_⟩
      intro other hne
      exact ⟨Table.get?_erase_ne hne _, Table.get?_put_ne hne _ _⟩
  | met d => exact absurd hr id

end BatchResult

/-- **The end of a call that the relay answers for**: the call is recorded, its URL shows what it came to, and nothing
    else changes. -/
theorem BatchRun.finish_relayed {b : BatchRun} {i : Nat} {request : RelayRequest} {result : CallResult}
    (hreq : b.requests[i]? = some request) (hcall : b.calls[i]? = some .running) (hr : result.IsRelayed) :
    ∃ entries, (b.finish i result).1 = { b with calls := b.calls.set i .recorded, result := entries } ∧
      entries.Shows request.url (some result) ∧ (b.result.Keyed → entries.Keyed) ∧
      ∀ other ≠ request.url, entries.successes.get? other = b.result.successes.get? other ∧
        entries.errors.get? other = b.result.errors.get? other := by
  obtain ⟨o, hsettle, hshows, hkeyed, hothers⟩ := BatchResult.record_relayed request.url hr b.result
  refine ⟨b.result.record o, ?_, hshows, hkeyed, hothers⟩
  simp only [finish, hreq, hcall, hsettle]

end WebhookBridge
