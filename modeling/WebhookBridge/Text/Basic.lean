/-!
# Texts

A text is a list of code points. Surrogates are admitted, since a text that arrives inside a JSON document may
hold a lone one; everything that can fail on such a text says so where it fails.

## Contents

* `CodePoint`, `Octet`, `Text`, `Octets`: the carriers, and the reading of string literals as texts;
* splitting at the first or the last occurrence of a separator, trimming, joining, searching;
* numerals: decimal texts of naturals and integers, hexadecimal digits of a fixed width;
* surrogates in a text that is put together.
-/

namespace WebhookBridge

/-- A Unicode code point, surrogates included. -/
abbrev CodePoint := Fin 0x110000

/-- A byte. -/
abbrev Octet := Fin 0x100

/-- The code point of a number, which is taken modulo the number of code points. -/
def CodePoint.ofNat (n : Nat) : CodePoint := ⟨n % 0x110000, Nat.mod_lt _ (by decide)⟩

/-- The byte of a number, which is taken modulo the number of bytes. -/
def Octet.ofNat (n : Nat) : Octet := ⟨n % 0x100, Nat.mod_lt _ (by decide)⟩

/-- A sequence of code points. -/
abbrev Text := List CodePoint

/-- A sequence of bytes. -/
abbrev Octets := List Octet

/-! ## Literals -/

/-- The code point of a character. -/
def CodePoint.ofChar (c : Char) : CodePoint :=
  ⟨c.toNat, by
    have h := c.valid
    have e : c.val.toNat = c.toNat := rfl
    simp only [UInt32.isValidChar, Nat.isValidChar] at h
    rw [e] at h
    omega⟩

instance : Coe Char CodePoint := ⟨CodePoint.ofChar⟩

/-- The text of a string: its characters, in order. -/
def Text.ofString (s : String) : Text := s.toList.map CodePoint.ofChar

instance : Coe String Text := ⟨Text.ofString⟩

/-- There are bytes, so that numerals denote some. -/
instance Octet.neZero : @NeZero Nat Zero.ofOfNat0 0x100 := ⟨by decide⟩

namespace CodePoint

/-- Whether the code point is one half of a 16-bit pair and no character by itself. -/
def isSurrogate (c : CodePoint) : Bool := 0xD800 ≤ c.val && c.val ≤ 0xDFFF

/-- Whether the code point is an ASCII character. -/
def isAscii (c : CodePoint) : Bool := c.val < 0x80

/-- Whether the code point is one of the ten ASCII digits. -/
def isAsciiDigit (c : CodePoint) : Bool := 0x30 ≤ c.val && c.val ≤ 0x39

/-- Whether the code point is an ASCII letter. -/
def isAsciiLetter (c : CodePoint) : Bool :=
  (0x41 ≤ c.val && c.val ≤ 0x5A) || (0x61 ≤ c.val && c.val ≤ 0x7A)

/-- The value of an ASCII hexadecimal digit of either case. -/
def hexValue? (c : CodePoint) : Option Nat :=
  if c.isAsciiDigit then some (c.val - 0x30)
  else if 0x41 ≤ c.val && c.val ≤ 0x46 then some (c.val - 0x37)
  else if 0x61 ≤ c.val && c.val ≤ 0x66 then some (c.val - 0x57)
  else none

/-- The ASCII digit of a number below ten; larger numbers are taken modulo ten. -/
def ofDigit (d : Nat) : CodePoint := ⟨0x30 + d % 10, by omega⟩

/-- The lower-case hexadecimal digit of a number below sixteen; larger numbers are taken modulo sixteen. -/
def ofHexDigit (d : Nat) : CodePoint :=
  if d % 16 < 10 then ⟨0x30 + d % 16, by omega⟩ else ⟨0x57 + d % 16, by omega⟩

/-- The upper-case hexadecimal digit of a number below sixteen; larger numbers are taken modulo sixteen. -/
def ofHexDigitUpper (d : Nat) : CodePoint :=
  if d % 16 < 10 then ⟨0x30 + d % 16, by omega⟩ else ⟨0x37 + d % 16, by omega⟩

/-- An ASCII capital becomes its small letter; every other code point stays. -/
def toAsciiLower (c : CodePoint) : CodePoint :=
  if h : 0x41 ≤ c.val ∧ c.val ≤ 0x5A then ⟨c.val + 0x20, by omega⟩ else c

/-- An ASCII small letter becomes its capital; every other code point stays. -/
def toAsciiUpper (c : CodePoint) : CodePoint :=
  if 0x61 ≤ c.val ∧ c.val ≤ 0x7A then ⟨c.val - 0x20, by omega⟩ else c

end CodePoint

namespace Text

/-- Whether the text holds a surrogate and so is no sequence of characters. -/
def hasSurrogate (t : Text) : Bool := t.any CodePoint.isSurrogate

/-! ## Splitting, trimming, joining -/

/-- The parts before and after the first occurrence of a code point. -/
def splitFirst? (sep : CodePoint) : Text → Option (Text × Text)
  | [] => none
  | c :: rest =>
    if c = sep then some ([], rest)
    else (splitFirst? sep rest).map fun (before, after) => (c :: before, after)

/-- The parts before and after the last occurrence of a code point. -/
def splitLast? (sep : CodePoint) : Text → Option (Text × Text)
  | [] => none
  | c :: rest =>
    match splitLast? sep rest with
    | some (before, after) => some (c :: before, after)
    | none => if c = sep then some ([], rest) else none

/-- The parts between all occurrences of a code point; one part more than there are occurrences. -/
def splitOn (sep : CodePoint) : Text → List Text
  | [] => [[]]
  | c :: rest =>
    if c = sep then [] :: splitOn sep rest
    else match splitOn sep rest with
      | [] => [[c]]
      | part :: parts => (c :: part) :: parts

/-- The text without the code points at its end that satisfy `p`. -/
def trimRight (p : CodePoint → Bool) (t : Text) : Text := (t.reverse.dropWhile p).reverse

/-- The text without the code points at both ends that satisfy `p`. -/
def trim (p : CodePoint → Bool) (t : Text) : Text := trimRight p (t.dropWhile p)

/-- The parts one after the other, with `sep` between neighbours. -/
def join (sep : Text) : List Text → Text
  | [] => []
  | [part] => part
  | part :: parts => part ++ sep ++ join sep parts

/-- Whether `part` occurs in the text as a contiguous piece. -/
def containsText (part : Text) : Text → Bool
  | [] => part.isEmpty
  | c :: rest => part.isPrefixOf (c :: rest) || containsText part rest

/-- What is left of the text after `start`, when it begins with `start`. -/
def dropPrefix? (start : Text) (t : Text) : Option Text :=
  if start.isPrefixOf t then some (t.drop start.length) else none

/-! ## Numerals -/

/-- The decimal digits of a natural number, put in front of `rest`. -/
def decimalOnto (n : Nat) (rest : Text) : Text :=
  if n < 10 then CodePoint.ofDigit n :: rest
  else decimalOnto (n / 10) (CodePoint.ofDigit n :: rest)
termination_by n
decreasing_by omega

/-- The decimal text of a natural number, without leading zeros. -/
def ofNat (n : Nat) : Text := decimalOnto n []

/-- The decimal text of an integer, with a minus sign below zero. -/
def ofInt : Int → Text
  | .ofNat n => ofNat n
  | .negSucc n => (CodePoint.ofChar '-') :: ofNat (n + 1)

/-- The last `width` hexadecimal digits of a number, most significant first, in small letters. -/
def hex (width n : Nat) : Text :=
  match width with
  | 0 => []
  | width + 1 => hex width (n / 16) ++ [CodePoint.ofHexDigit n]

/-- The ASCII capitals of the text become small letters. -/
def toAsciiLower (t : Text) : Text := t.map CodePoint.toAsciiLower

/-- The ASCII small letters of the text become capitals. -/
def toAsciiUpper (t : Text) : Text := t.map CodePoint.toAsciiUpper

/-! ## Surrogates -/

theorem hasSurrogate_cons (c : CodePoint) (t : Text) : hasSurrogate (c :: t) = (c.isSurrogate || hasSurrogate t) := rfl

@[simp] theorem hasSurrogate_append (s t : Text) : hasSurrogate (s ++ t) = (s.hasSurrogate || t.hasSurrogate) :=
  List.any_append

end Text

end WebhookBridge
