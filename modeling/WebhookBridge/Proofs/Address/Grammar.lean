import WebhookBridge.Address
import WebhookBridge.Proofs.Number.WholeTexts

/-!
# Which texts are addresses

A text is read as an address if a whole number from zero to the greatest port stands behind its last colon. Anything may stand
before it: the brackets at both ends are dropped, matched or not, and what is left is the host, or every interface where nothing
is left. So more texts are read than those of the form host and port, where a host with colons stands in one pair of brackets and
a port is made of ASCII digits. A text of that form is read as it says, unless its port has too many digits.

## Contents

* `Address.Written`, `Address.parse_ok_iff`: the texts of an address;
* `Address.Refuses`, `Address.parse_error_iff`: the texts that are refused, and why;
* `Address.HostPort`, `Address.parse_plain_iff`: the form of host and port;
* `Address.parse_lenient`: all of it together.
-/

namespace WebhookBridge.Address

variable {text host before front back written port : Text} {a : Address} {e : AddressError} {n : Nat}

/-- The colon before a port. -/
def colon : CodePoint := CodePoint.ofChar ':'

/-- The bracket that opens. -/
def opening : CodePoint := CodePoint.ofChar '['

/-- The bracket that closes. -/
def closing : CodePoint := CodePoint.ofChar ']'

theorem isBracket_iff {c : CodePoint} : isBracket c = true ↔ c = opening ∨ c = closing := by
  simp [isBracket, opening, closing]

theorem isBracket_opening : ∀ c ∈ [opening], isBracket c = true := by simp [isBracket_iff]

theorem isBracket_closing : ∀ c ∈ [closing], isBracket c = true := by simp [isBracket_iff]

/-! ## The grammar -/

/-- The host that is meant by a text without brackets around it: every interface where nothing is written. -/
def hostMeant (host : Text) : Text := if host = [] then everyInterface else host

/-- **The texts of an address**: its host, with any brackets before and after it, a colon, and the port as a whole number. -/
inductive Written : Text → Address → Prop
  | mk {front host back port : Text} {n : Nat} (hfront : ∀ c ∈ front, isBracket c = true)
      (hhost : Text.Trimmed isBracket host) (hback : ∀ c ∈ back, isBracket c = true) (hport : Whole.Written port n)
      (hn : n ≤ maxPort) : Written (front ++ host ++ back ++ colon :: port) ⟨hostMeant host, n⟩

/-- **Why a text is refused**: it has no colon, no whole number stands behind the last one, or the number is no port. -/
inductive Refuses (text : Text) : AddressError → Prop
  | noPort (h : colon ∉ text) : Refuses text (.noPort text)
  | invalidPort {before port : Text} (htext : text = before ++ colon :: port) (hlast : colon ∉ port)
      (hport : ∀ n, ¬ Whole.Written port n) : Refuses text (.invalidPort text)
  | portOutOfRange {before port : Text} {n : Int} (htext : text = before ++ colon :: port) (hport : Whole.Written port n)
      (hn : n < 0 ∨ maxPort < n) : Refuses text (.portOutOfRange n)

theorem hostOf_eq (written : Text) : hostOf written = hostMeant (written.trim isBracket) := by
  unfold hostOf hostMeant
  cases written.trim isBracket with
  | nil => rfl
  | cons c rest => rfl

/-- A text with a colon is read by what stands behind the last one. -/
theorem parse_of_cut (hlast : colon ∉ port) : parse (before ++ colon :: port) = match Whole.read? port with
    | none => .error (.invalidPort (before ++ colon :: port))
    | some n => if 0 ≤ n ∧ n ≤ maxPort then .ok ⟨hostOf before, n.toNat⟩ else .error (.portOutOfRange n) := by
  have hcut : Text.splitLast? (CodePoint.ofChar ':') (before ++ colon :: port) = some (before, port) :=
    Text.splitLast?_append before hlast
  unfold parse
  rewrite [hcut]
  rfl

/-- A text of an address is read as that address. -/
theorem Written.parse (h : Written text a) : parse text = .ok a := by
  obtain ⟨hfront, hhost, hback, hport, hn⟩ := h
  rw [parse_of_cut hport.colon_not_mem, Whole.read?_eq_some_iff.2 hport, hostOf_eq, Text.trim_append hfront hback hhost]
  exact if_pos ⟨Int.natCast_nonneg _, Int.ofNat_le.2 hn⟩

/-- A text that is refused for a reason is refused for that reason. -/
theorem Refuses.parse (h : Refuses text e) : parse text = .error e := by
  cases h with
  | noPort hcolon =>
      have hnone : text.splitLast? (CodePoint.ofChar ':') = none := Text.splitLast?_eq_none_iff.2 hcolon
      rw [Address.parse, hnone]
  | invalidPort htext hlast hport => rw [htext, parse_of_cut hlast, Whole.read?_eq_none_iff.2 hport]
  | portOutOfRange htext hport hn =>
      rw [htext, parse_of_cut hport.colon_not_mem, Whole.read?_eq_some_iff.2 hport]
      exact if_neg (by omega)

/-- Every text is that of an address, or there is a reason to refuse it. -/
theorem written_or_refuses (text : Text) : (∃ a, Written text a) ∨ ∃ e, Refuses text e := by
  by_cases hcolon : colon ∈ text
  · obtain ⟨⟨before, port⟩, hcut⟩ := Option.ne_none_iff_exists'.1 (mt Text.splitLast?_eq_none_iff.1 (not_not_intro hcolon))
    obtain ⟨htext, hlast⟩ := Text.splitLast?_eq_some_iff.1 hcut
    cases hread : Whole.read? port with
    | none => exact .inr ⟨_, .invalidPort htext hlast (Whole.read?_eq_none_iff.1 hread)⟩
    | some n =>
        have hport := Whole.read?_eq_some_iff.1 hread
        by_cases hn : 0 ≤ n ∧ n ≤ maxPort
        · obtain ⟨k, rfl⟩ := Int.eq_ofNat_of_zero_le hn.1
          obtain ⟨front, back, hbefore, hfront, hback, hhost⟩ := Text.exists_trim_eq isBracket before
          have hwritten := Written.mk hfront hhost hback hport (Int.ofNat_le.1 hn.2)
          rw [← hbefore, ← htext] at hwritten
          exact .inl ⟨_, hwritten⟩
        · exact .inr ⟨_, .portOutOfRange htext hport (by omega)⟩
  · exact .inr ⟨_, .noPort hcolon⟩

/-- **An address is read** exactly from its texts. -/
theorem parse_ok_iff : parse text = .ok a ↔ Written text a := by
  constructor
  · intro h
    rcases written_or_refuses text with ⟨b, hb⟩ | ⟨e, he⟩
    · rw [hb.parse] at h
      exact Except.ok.inj h ▸ hb
    · rw [he.parse] at h
      cases h
  · exact Written.parse

/-- **A text is refused** exactly for the reason that there is. -/
theorem parse_error_iff : parse text = .error e ↔ Refuses text e := by
  constructor
  · intro h
    rcases written_or_refuses text with ⟨b, hb⟩ | ⟨f, hf⟩
    · rw [hb.parse] at h
      cases h
    · rw [hf.parse] at h
      exact Except.error.inj h ▸ hf
  · exact Refuses.parse

/-! ## Host and port -/

/-- A host without colons and brackets, or one without brackets in one pair of them, as it is written. -/
inductive PlainHost : Text → Text → Prop
  | bare {host : Text} (hcolon : colon ∉ host) (hopening : opening ∉ host) (hclosing : closing ∉ host) : PlainHost host host
  | bracketed {host : Text} (hopening : opening ∉ host) (hclosing : closing ∉ host) :
      PlainHost (opening :: host ++ [closing]) host

/-- **The form of host and port**: a plain host, a colon, and ASCII digits that make a port. -/
inductive HostPort : Text → Address → Prop
  | mk {written host port : Text} {n : Nat} (hhost : PlainHost written host) (hport : Whole.AsciiDigits port n)
      (hn : n ≤ maxPort) : HostPort (written ++ colon :: port) ⟨hostMeant host, n⟩

theorem trimmed_of_no_bracket (hopening : opening ∉ host) (hclosing : closing ∉ host) : Text.Trimmed isBracket host := by
  have hnone : ∀ c ∈ host, isBracket c = false := by
    intro c hc
    rw [Bool.eq_false_iff]
    intro hbracket
    rcases isBracket_iff.1 hbracket with rfl | rfl
    · exact hopening hc
    · exact hclosing hc
  exact ⟨fun c hc => hnone c (List.mem_of_head? hc), fun c hc => hnone c (List.mem_of_getLast? hc)⟩

/-- The brackets around a plain host are dropped, and nothing else. -/
theorem PlainHost.trim (h : PlainHost written host) : written.trim isBracket = host := by
  cases h with
  | bare _ hopening hclosing =>
      exact Text.trim_eq_iff.2 ⟨trimmed_of_no_bracket hopening hclosing, [], [], by simp, nofun, nofun⟩
  | bracketed hopening hclosing =>
      exact Text.trim_eq_iff.2 ⟨trimmed_of_no_bracket hopening hclosing, [opening], [closing], rfl, isBracket_opening,
        isBracket_closing⟩

/-- **Host and port are read** as they say exactly if the port has few enough digits. -/
theorem parse_plain_iff (hhost : PlainHost written host) (hport : Whole.AsciiDigits port n) (hn : n ≤ maxPort) :
    parse (written ++ colon :: port) = .ok ⟨hostMeant host, n⟩ ↔ port.length ≤ Whole.maxDigits := by
  have hlast : colon ∉ port := fun hc => absurd (hport.ascii _ hc) (by decide)
  rw [parse_of_cut hlast]
  constructor
  · intro h
    split at h
    · cases h
    · rename_i m hread
      exact ((Whole.written_of_ascii_iff hport).1 (Whole.read?_eq_some_iff.1 hread)).2
  · intro hfew
    rw [Whole.read?_eq_some_iff.2 ((Whole.written_of_ascii_iff hport).2 ⟨rfl, hfew⟩), hostOf_eq, hhost.trim]
    exact if_pos ⟨Int.natCast_nonneg _, Int.ofNat_le.2 hn⟩

/-- **What is read as an address**, and as which one: exactly the texts of an address; every other text is refused, for the reason
    that there is; and host and port are read as they say, unless the port has too many digits. -/
theorem parse_lenient :
    (∀ text a, parse text = .ok a ↔ Written text a) ∧
    (∀ text e, parse text = .error e ↔ Refuses text e) ∧
    ∀ written host port n, PlainHost written host → Whole.AsciiDigits port n → n ≤ maxPort →
      (parse (written ++ colon :: port) = .ok ⟨hostMeant host, n⟩ ↔ port.length ≤ Whole.maxDigits) := by
  refine ⟨fun text a => parse_ok_iff, fun text e => parse_error_iff, ?_⟩
  intro written host port n hhost hport hn
  exact parse_plain_iff hhost hport hn

theorem parse_lenient_bracketed :
    PlainHost "[fe80::1]" "fe80::1" ∧ Whole.AsciiDigits "08080" 8080 ∧ 8080 ≤ maxPort ∧ ("08080" : Text).length ≤ Whole.maxDigits ∧
      parse "[fe80::1]:08080" = .ok ⟨"fe80::1", 8080⟩ := by
  have hhost : PlainHost "[fe80::1]" "fe80::1" := @PlainHost.bracketed "fe80::1" (by decide) (by decide)
  have hport : Whole.AsciiDigits "08080" 8080 := ⟨by decide, List.all_eq_true.1 (by decide), by decide⟩
  have hfew : ("08080" : Text).length ≤ Whole.maxDigits := by decide
  exact ⟨hhost, hport, by decide, hfew, (parse_lenient.2.2 _ _ _ _ hhost hport (by decide)).2 hfew⟩

/-! ## Texts of another form -/

/-- A plain host holds no colon and no bracket, or one bracket stands at each end. -/
theorem PlainHost.shape (h : PlainHost written host) :
    (colon ∉ written ∧ opening ∉ written ∧ closing ∉ written) ∨
      (written.head? = some opening ∧ written.getLast? = some closing) := by
  cases h with
  | bare hcolon hopening hclosing => exact .inl ⟨hcolon, hopening, hclosing⟩
  | bracketed hopening hclosing => exact .inr ⟨rfl, List.getLast?_concat ..⟩

/-- Host and port are what stands before and behind the last colon. -/
theorem HostPort.cut (h : HostPort text a) (hcut : text.splitLast? colon = some (written, port)) :
    (∃ host, PlainHost written host) ∧ ∀ c ∈ port, c.isAsciiDigit = true := by
  obtain ⟨hhost, hport, -⟩ := h
  have hlast : colon ∉ _ := fun hc => absurd (hport.ascii _ hc) (by decide)
  rw [Text.splitLast?_append _ hlast, Option.some.injEq, Prod.mk.injEq] at hcut
  obtain ⟨rfl, rfl⟩ := hcut
  exact ⟨⟨_, hhost⟩, hport.ascii⟩

/-- A port with more digits than are read, all of them zeros. -/
def longZero : Text := List.replicate (Whole.maxDigits + 1) (CodePoint.ofChar '0')

/-- **Read without that form**: a host with colons outside brackets, one with a bracket that is not matched, and a port with a sign;
    and of that form but not read: a port of too many zeros. -/
theorem otherForms_accepted :
    (parse "::1:80" = .ok ⟨"::1", 80⟩ ∧ ¬ ∃ a, HostPort "::1:80" a) ∧
    (parse "[a:80" = .ok ⟨"a", 80⟩ ∧ ¬ ∃ a, HostPort "[a:80" a) ∧
    (parse "a:+80" = .ok ⟨"a", 80⟩ ∧ ¬ ∃ a, HostPort "a:+80" a) ∧
    (HostPort (colon :: longZero) ⟨everyInterface, 0⟩ ∧ parse (colon :: longZero) ≠ .ok ⟨everyInterface, 0⟩) := by
  refine ⟨⟨by decide, ?_⟩, ⟨by decide, ?_⟩, ⟨by decide, ?_⟩, ?_⟩
  · rintro ⟨a, ha⟩
    have hcut : Text.splitLast? colon "::1:80" = some (("::1" : Text), ("80" : Text)) := by decide
    obtain ⟨⟨host, hhost⟩, -⟩ := ha.cut hcut
    rcases hhost.shape with ⟨hcolon, -, -⟩ | ⟨hfirst, -⟩
    · exact absurd hcolon (by decide)
    · exact absurd hfirst (by decide)
  · rintro ⟨a, ha⟩
    have hcut : Text.splitLast? colon "[a:80" = some (("[a" : Text), ("80" : Text)) := by decide
    obtain ⟨⟨host, hhost⟩, -⟩ := ha.cut hcut
    rcases hhost.shape with ⟨-, hopening, -⟩ | ⟨-, hlast⟩
    · exact absurd hopening (by decide)
    · exact absurd hlast (by decide)
  · rintro ⟨a, ha⟩
    have hcut : Text.splitLast? colon "a:+80" = some (("a" : Text), ("+80" : Text)) := by decide
    obtain ⟨-, hport⟩ := ha.cut hcut
    exact absurd (hport (CodePoint.ofChar '+') (by decide)) (by decide)
  · have hhost : PlainHost [] [] := .bare nofun nofun nofun
    have hport : Whole.AsciiDigits longZero 0 := by
      refine ⟨List.cons_ne_nil _ _, fun c hc => ?_, ?_⟩
      · rw [List.eq_of_mem_replicate hc]
        decide
      · rw [longZero, List.map_replicate, List.reverse_replicate]
        exact Nat.ofDigits_replicate_zero
    refine ⟨.mk hhost hport (by decide), fun hread => ?_⟩
    have hfew := (parse_plain_iff hhost hport (by decide)).1 hread
    rw [longZero, List.length_replicate] at hfew
    exact absurd hfew (by decide)

end WebhookBridge.Address
