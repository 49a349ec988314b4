import WebhookBridge.Text.Basic

/-!
# UTF-8

Writing a text as octets, and reading octets as a text. Reading goes one character at a time: `Utf8.takeOne`
either takes a whole character off the front or says how the octets at the front are ill-formed and how many of
them are to blame.

## Contents

* `Utf8.encodeOne`, `Utf8.encode`: the octets of a text, of every code point alike;
* `Utf8.Fault`, `Utf8.takeOne`: the first character of a sequence of octets, or what is wrong there;
* `Utf8.decode`: the whole sequence, with a choice about surrogates.
-/

namespace WebhookBridge.Utf8

/-! ## Writing -/

/-- The octets of one code point; a surrogate has three, like its neighbours. -/
def encodeOne (c : CodePoint) : Octets :=
  if c.val < 0x80 then [Octet.ofNat c.val]
  else if c.val < 0x800 then [Octet.ofNat (0xC0 + c.val / 0x40), Octet.ofNat (0x80 + c.val % 0x40)]
  else if c.val < 0x10000 then
    [Octet.ofNat (0xE0 + c.val / 0x1000), Octet.ofNat (0x80 + c.val / 0x40 % 0x40),
      Octet.ofNat (0x80 + c.val % 0x40)]
  else
    [Octet.ofNat (0xF0 + c.val / 0x40000), Octet.ofNat (0x80 + c.val / 0x1000 % 0x40),
      Octet.ofNat (0x80 + c.val / 0x40 % 0x40), Octet.ofNat (0x80 + c.val % 0x40)]

/-- The octets of a text. -/
def encode (t : Text) : Octets := t.flatMap encodeOne

/-- The number of octets of one code point. -/
def sizeOne (c : CodePoint) : Nat :=
  if c.val < 0x80 then 1 else if c.val < 0x800 then 2 else if c.val < 0x10000 then 3 else 4

/-- The number of octets of a text. -/
def size (t : Text) : Nat := (t.map sizeOne).foldr (· + ·) 0

/-! ## Reading -/

/-- What is wrong at the front of a sequence of octets. -/
inductive Fault where
  /-- The first octet starts no character. -/
  | invalidStart
  /-- The octets end inside a character. -/
  | unexpectedEnd
  /-- The first `good` octets start a character, and the next one cannot continue it. -/
  | invalidContinuation (good : Nat)
  deriving DecidableEq, Repr

/-- Whether an octet continues a character. -/
def isTail (b : Octet) : Bool := 0x80 ≤ b.val && b.val ≤ 0xBF

/-- The least and the greatest octet that may come second after a first octet of three- or four-octet characters. -/
def secondBounds (a : Octet) : Nat × Nat :=
  if a.val = 0xE0 then (0xA0, 0xBF)
  else if a.val = 0xED then (0x80, 0x9F)
  else if a.val = 0xF0 then (0x90, 0xBF)
  else if a.val = 0xF4 then (0x80, 0x8F)
  else (0x80, 0xBF)

/-- Whether the octet `b` may come second after `a`. -/
def maySecond (a b : Octet) : Bool := (secondBounds a).1 ≤ b.val && b.val ≤ (secondBounds a).2

/-- The code point made of the payload of a first octet and three, two or one continuation octets. -/
def assemble (lead : Nat) (tails : Octets) : CodePoint :=
  CodePoint.ofNat (tails.foldl (fun acc b => acc * 0x40 + b.val % 0x40) lead)

/-- The character that starts with `a`, and what follows it. -/
def takeOne (a : Octet) (rest : Octets) : Except Fault (CodePoint × Octets) :=
  if a.val < 0x80 then .ok (CodePoint.ofNat a.val, rest)
  else if a.val < 0xC2 then .error .invalidStart
  else if a.val < 0xE0 then
    match rest with
    | [] => .error .unexpectedEnd
    | b :: rest => if isTail b then .ok (assemble (a.val - 0xC0) [b], rest) else .error (.invalidContinuation 1)
  else if a.val < 0xF0 then
    match rest with
    | [] => .error .unexpectedEnd
    | b :: rest =>
      if !maySecond a b then .error (.invalidContinuation 1)
      else match rest with
        | [] => .error .unexpectedEnd
        | c :: rest =>
          if isTail c then .ok (assemble (a.val - 0xE0) [b, c], rest) else .error (.invalidContinuation 2)
  else if a.val < 0xF5 then
    match rest with
    | [] => .error .unexpectedEnd
    | b :: rest =>
      if !maySecond a b then .error (.invalidContinuation 1)
      else match rest with
        | [] => .error .unexpectedEnd
        | c :: rest =>
          if !isTail c then .error (.invalidContinuation 2)
          else match rest with
            | [] => .error .unexpectedEnd
            | d :: rest =>
              if isTail d then .ok (assemble (a.val - 0xF0) [b, c, d], rest)
              else .error (.invalidContinuation 3)
  else .error .invalidStart

theorem length_of_takeOne {a : Octet} {octets rest : Octets} {c : CodePoint}
    (h : takeOne a octets = .ok (c, rest)) : rest.length ≤ octets.length := by
  unfold takeOne at h
  repeat' split at h
  all_goals simp only [Except.ok.injEq, Prod.mk.injEq, reduceCtorEq] at h
  all_goals
    obtain ⟨_, rfl⟩ := h
    first | omega | (simp only [List.length_cons]; omega)

/-- A surrogate written with three octets, and what follows it. -/
def takeSurrogate? (a : Octet) : Octets → Option (CodePoint × Octets)
  | b :: c :: rest =>
    if a.val = 0xED && isTail b && isTail c && 0xA0 ≤ b.val then some (assemble 0xD [b, c], rest) else none
  | _ => none

theorem length_of_takeSurrogate? {a : Octet} {octets rest : Octets} {c : CodePoint}
    (h : takeSurrogate? a octets = some (c, rest)) : rest.length ≤ octets.length := by
  unfold takeSurrogate? at h
  repeat' split at h
  all_goals simp only [Option.some.injEq, Prod.mk.injEq, reduceCtorEq] at h
  all_goals
    obtain ⟨_, rfl⟩ := h
    simp only [List.length_cons]
    omega

/-- The text that the octets write. Surrogates written with three octets are admitted when `surrogates` is set. An
    error comes with the octets from the ill-formed character on. -/
def decode (surrogates : Bool) : Octets → Except (Fault × Octets) Text
  | [] => .ok []
  | a :: rest =>
    match h : takeOne a rest with
    | .ok (c, rest') =>
      have := length_of_takeOne h
      (decode surrogates rest').map (c :: ·)
    | .error fault =>
      if surrogates then
        match h' : takeSurrogate? a rest with
        | some (c, rest') =>
          have := length_of_takeSurrogate? h'
          (decode surrogates rest').map (c :: ·)
        | none => .error (fault, a :: rest)
      else .error (fault, a :: rest)
termination_by octets => octets.length

end WebhookBridge.Utf8
