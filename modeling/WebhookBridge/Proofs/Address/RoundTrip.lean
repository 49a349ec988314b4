import WebhookBridge.Proofs.Address.Grammar

/-!
# Addresses read back

An address is written with brackets around its host if that has colons, so that the last colon is always the one before the port.
What is written of an address is read as that address, unless its host is empty or has a bracket at one of its ends; and no
address that is read has such a host.

## Contents

* `Address.written_format`: what is written of an address is a text of it;
* `Address.Written.readable`: the addresses that are read;
* `Address.parse_format_roundTrip`: both directions, and what becomes of every other text.
-/

namespace WebhookBridge.Address

variable {text host : Text} {a : Address}

/-- **An address that can be read back**: its host is there and has no bracket at its ends, and its port is one. -/
structure Readable (a : Address) : Prop where
  host_ne_nil : a.host ≠ []
  trimmed : Text.Trimmed isBracket a.host
  port_le : a.port ≤ maxPort

theorem hostMeant_of_ne_nil (h : host ≠ []) : hostMeant host = host := if_neg h

/-- The text of an address has its host between brackets, or by itself, before the colon and the port. -/
theorem format_eq (a : Address) : ∃ front back, (∀ c ∈ front, isBracket c = true) ∧ (∀ c ∈ back, isBracket c = true) ∧
    a.format = front ++ a.host ++ back ++ colon :: Text.ofNat a.port := by
  unfold format formatHostPort
  split
  · refine ⟨[opening], [closing], isBracket_opening, isBracket_closing, ?_⟩
    have hclose : ("]:" : Text) = [closing] ++ [colon] := by decide
    rw [hclose]
    simp only [List.append_assoc]
    rfl
  · refine ⟨[], [], nofun, nofun, ?_⟩
    simp only [List.nil_append, List.append_nil, List.append_assoc]
    rfl

/-- **What is written of an address** that can be read back is a text of it. -/
theorem written_format (h : Readable a) : Written a.format a := by
  obtain ⟨front, back, hfront, hback, hformat⟩ := format_eq a
  have hport : Whole.Written (Text.ofNat a.port) a.port := by
    have hlt : a.port < 10 ^ 5 := Nat.lt_of_le_of_lt h.port_le (by decide)
    exact Whole.written_ofNat (by decide) (by decide) hlt
  have hwritten := Written.mk hfront h.trimmed hback hport h.port_le
  rwa [hostMeant_of_ne_nil h.host_ne_nil, ← hformat] at hwritten

/-- **An address that is written somewhere** can be read back. -/
theorem Written.readable (h : Written text a) : Readable a := by
  obtain ⟨-, hhost, -, -, hn⟩ := h
  have hevery : everyInterface ≠ [] := by decide
  have htrimmed : Text.Trimmed isBracket everyInterface := trimmed_of_no_bracket (by decide) (by decide)
  unfold hostMeant
  split
  · exact ⟨hevery, htrimmed, hn⟩
  · rename_i hne
    exact ⟨hne, hhost, hn⟩

/-- **Addresses read back.** -/
theorem parse_format_roundTrip :
    (∀ host port, host ≠ [] → Text.Trimmed isBracket host → port ≤ maxPort →
      parse (format ⟨host, port⟩) = .ok ⟨host, port⟩) ∧
    (∀ text a, parse text = .ok a → a.host ≠ [] ∧ a.port ≤ maxPort ∧ parse a.format = .ok a) ∧
    ∀ text, (∀ a, parse text ≠ .ok a) → ∃ e, parse text = .error e ∧ Refuses text e := by
  refine ⟨?_, ?_, ?_⟩
  · intro host port hne htrimmed hport
    exact (written_format ⟨hne, htrimmed, hport⟩).parse
  · intro text a h
    have hreadable := (parse_ok_iff.1 h).readable
    exact ⟨hreadable.host_ne_nil, hreadable.port_le, (written_format hreadable).parse⟩
  · intro text hno
    rcases written_or_refuses text with ⟨a, ha⟩ | ⟨e, he⟩
    · exact absurd ha.parse (hno a)
    · exact ⟨e, he.parse, he⟩

theorem parse_format_roundTrip_odd :
    (("fe80::1" : Text) ≠ [] ∧ Text.Trimmed isBracket "fe80::1" ∧ 8080 ≤ maxPort ∧
      parse (format ⟨"fe80::1", 8080⟩) = .ok ⟨"fe80::1", 8080⟩) ∧
    (parse "][a]b::+9" = .ok ⟨"a]b:", 9⟩ ∧ parse (format ⟨"a]b:", 9⟩) = .ok ⟨"a]b:", 9⟩) ∧
    ((∀ a, parse "a:b" ≠ .ok a) ∧ ∃ e, parse "a:b" = .error e ∧ Refuses "a:b" e) := by
  have htrimmed : Text.Trimmed isBracket "fe80::1" := trimmed_of_no_bracket (by decide) (by decide)
  have hread : parse "][a]b::+9" = .ok ⟨"a]b:", 9⟩ := by decide
  have hno : ∀ a, parse "a:b" ≠ .ok a := by
    intro a ha
    have hrefused : parse "a:b" = .error (.invalidPort "a:b") := by decide
    rw [hrefused] at ha
    cases ha
  refine ⟨⟨by decide, htrimmed, by decide, ?_⟩, ⟨hread, ?_⟩, hno, ?_⟩
  · exact parse_format_roundTrip.1 "fe80::1" 8080 (by decide) htrimmed (by decide)
  · exact (parse_format_roundTrip.2.1 _ _ hread).2.2
  · exact parse_format_roundTrip.2.2 _ hno

end WebhookBridge.Address
