import WebhookBridge.Relay.Outcome

/-!
# What recording does to a batch, whatever the outcome

Recording takes the outcome's URL out of the other table and puts the new entry into its own. An entry takes any text, so
that recording always succeeds: no URL is ever in both tables, and none that has an entry is ever without one.

## Contents

* `BatchResult.Recorded`: an outcome is recorded;
* `BatchResult.Apart`, `BatchResult.KeepsUrls`: no URL is in both tables, none is lost;
* `BatchResult.recorded_record`: one recording, and what it keeps;
* `BatchResult.record_atomic`: recording after any course of recordings.
-/

namespace WebhookBridge.BatchResult

/-- There is an entry for a URL. -/
def Has (b : BatchResult) (url : Text) : Prop := url ∈ b.successes.keys ∨ url ∈ b.errors.keys

/-- No URL is in both tables. -/
def Apart (b : BatchResult) : Prop := ∀ url, ¬ (url ∈ b.successes.keys ∧ url ∈ b.errors.keys)

/-- An outcome was recorded: its URL is in the table it belongs to, with the new entry, and not in the other; the
    entries of all other URLs are what they were, in their order. -/
structure Recorded (b after : BatchResult) (o : Outcome) : Prop where
  answered : ∀ answer, o.result = .ok answer →
    after.successes.get? o.url = some answer ∧ o.url ∉ after.errors.keys
  failed : ∀ e, o.result = .error e →
    after.errors.get? o.url = some e.message ∧ o.url ∉ after.successes.keys
  successes : after.successes.erase o.url = b.successes.erase o.url
  errors : after.errors.erase o.url = b.errors.erase o.url

/-- The batch after outcomes were recorded in turn. -/
def recordAll (b : BatchResult) (outcomes : List Outcome) : BatchResult := outcomes.foldl (fun b o => b.record o) b

/-- While outcomes are recorded in turn, no URL that has an entry is without one afterwards. -/
def KeepsUrls (outcomes : List Outcome) : Prop :=
  ∀ earlier later : List Outcome, earlier <+: later → later <+: outcomes →
    ∀ url, (empty.recordAll earlier).Has url → (empty.recordAll later).Has url

variable {b after : BatchResult} {o : Outcome} {url : Text}

theorem recordAll_append (b : BatchResult) (before after : List Outcome) :
    b.recordAll (before ++ after) = (b.recordAll before).recordAll after :=
  List.foldl_append ..

/-! ## One recording -/

/-- **One recording**, by the kind of the outcome: what is put into one table is erased from the other. -/
theorem recorded_record (b : BatchResult) (o : Outcome) : Recorded b (b.record o) o := by
  obtain ⟨url, e | answer⟩ := o
  · refine ⟨?_, ?_, Table.erase_erase_self .., Table.erase_put_self ..⟩
    · intro answer hr
      cases hr
    · intro e' hr
      cases hr
      exact ⟨Table.get?_put_self .., Table.not_mem_keys_erase _ _⟩
  · refine ⟨?_, ?_, Table.erase_put_self .., Table.erase_erase_self ..⟩
    · intro answer' hr
      cases hr
      exact ⟨Table.get?_put_self .., Table.not_mem_keys_erase _ _⟩
    · intro e hr
      cases hr

theorem mem_keys_of_erase {α : Type} {t t' : Table α} {k : Text} (h : t'.erase k = t.erase k) (hne : url ≠ k) :
    url ∈ t'.keys ↔ url ∈ t.keys := by
  rw [Table.mem_keys_iff, Table.mem_keys_iff, ← Table.get?_erase_ne hne t', h, Table.get?_erase_ne hne t]

/-- A recorded outcome's URL is in one table, -/
theorem Recorded.has (h : Recorded b after o) : after.Has o.url := by
  cases hr : o.result with
  | ok answer =>
      have hget := (h.answered answer hr).1
      exact Or.inl (Table.mem_keys_iff.2 (by simp [hget]))
  | error e =>
      have hget := (h.failed e hr).1
      exact Or.inr (Table.mem_keys_iff.2 (by simp [hget]))

/-- and in no other. -/
theorem Recorded.not_both (h : Recorded b after o) : ¬ (o.url ∈ after.successes.keys ∧ o.url ∈ after.errors.keys) := by
  intro hboth
  cases hr : o.result with
  | ok answer => exact (h.answered answer hr).2 hboth.2
  | error e => exact (h.failed e hr).2 hboth.1

/-- Recording keeps the tables apart, -/
theorem Recorded.apart (h : Recorded b after o) (hb : b.Apart) : after.Apart := by
  intro url hboth
  by_cases hurl : url = o.url
  · subst hurl
    exact h.not_both hboth
  · rw [mem_keys_of_erase h.successes hurl, mem_keys_of_erase h.errors hurl] at hboth
    exact hb url hboth

/-- and leaves every URL with an entry that had one. -/
theorem Recorded.keeps (h : Recorded b after o) (hurl : b.Has url) : after.Has url := by
  by_cases hne : url = o.url
  · subst hne
    exact h.has
  · rw [Has, mem_keys_of_erase h.successes hne, mem_keys_of_erase h.errors hne]
    exact hurl

/-! ## A course of recordings -/

theorem apart_empty : empty.Apart := fun _ h => List.not_mem_nil h.1

theorem Apart.recordAll (hb : b.Apart) (outcomes : List Outcome) : (b.recordAll outcomes).Apart := by
  induction outcomes generalizing b with
  | nil => exact hb
  | cons o outcomes ih => exact ih ((recorded_record b o).apart hb)

/-- A URL that has an entry has one after any further recordings. -/
theorem Has.recordAll (hurl : b.Has url) (outcomes : List Outcome) : (b.recordAll outcomes).Has url := by
  induction outcomes generalizing b with
  | nil => exact hurl
  | cons o outcomes ih => exact ih ((recorded_record b o).keeps hurl)

/-- **Recording is atomic.** After any recordings, recording any outcome succeeds: it leaves the outcome's URL in the table
    that the outcome belongs to, with the new entry and in no other, and leaves all other entries as they are. So no URL is
    ever in both tables, and no URL that was recorded is ever lost. -/
theorem record_atomic (outcomes : List Outcome) :
    (∀ o, Recorded (empty.recordAll outcomes) ((empty.recordAll outcomes).record o) o) ∧
    (empty.recordAll outcomes).Apart ∧ KeepsUrls outcomes := by
  refine ⟨recorded_record _, apart_empty.recordAll outcomes, ?_⟩
  rintro earlier _ ⟨between, rfl⟩ - url hurl
  rw [recordAll_append]
  exact hurl.recordAll between

/-- An error of a URL, with a text that is a lone surrogate, takes the place of the URL's answer. -/
example : (empty.recordAll [⟨"http://a", .ok ⟨"200", .null⟩⟩, ⟨"http://b", .ok ⟨"200", .null⟩⟩,
    ⟨"http://a", .error ⟨.general, [0xD800]⟩⟩]).errors.get? "http://a" = some [0xD800] := rfl

end WebhookBridge.BatchResult
