import WebhookBridge.Text.Surrogate
import WebhookBridge.Text.Utf8

/-!
# Percent-encoding

A URL is written in ASCII: every other character, and every character that has a meaning of its own where it stands,
becomes a percent sign and two hexadecimal digits for each of its octets. Percent signs that are there already stay.

## Contents

* `CodePoint.isUnreserved`, `percentEncode`: writing a text;
* `percentDecode`: reading a text back, with a replacement for what is no UTF-8.
-/

namespace WebhookBridge

/-- Whether a code point stands for itself in every part of a URL. -/
def CodePoint.isUnreserved (c : CodePoint) : Bool :=
  c.isAsciiLetter || c.isAsciiDigit || c = CodePoint.ofChar '-' || c = CodePoint.ofChar '.' ||
    c = CodePoint.ofChar '_' || c = CodePoint.ofChar '~'

/-- An octet as a percent sign and two digits. -/
def percentOctet (b : Octet) : Text :=
  [CodePoint.ofChar '%', CodePoint.ofHexDigitUpper (b.val / 16), CodePoint.ofHexDigitUpper b.val]

/-- The text with everything encoded that is neither unreserved nor `safe`. A surrogate has no octets of its own and
    makes a fault of its place, which is counted inside the character. -/
def percentEncode (safe : CodePoint → Bool) : Text → Except SurrogateFault Text
  | [] => .ok []
  | c :: rest =>
    if c.isUnreserved || safe c then (percentEncode safe rest).map (c :: ·)
    else match Text.surrogateFault? [c] with
      | some fault => .error fault
      | none => (percentEncode safe rest).map ((Utf8.encodeOne c).flatMap percentOctet ++ ·)

/-- The text that octets write in UTF-8; of the octets that start no character, as many as belong together become one
    replacement character. -/
def decodeReplacing : Octets → Text
  | [] => []
  | a :: rest =>
    match h : Utf8.takeOne a rest with
    | .ok (c, rest') =>
      have := Utf8.length_of_takeOne h
      c :: decodeReplacing rest'
    | .error .unexpectedEnd => [replacementCharacter]
    | .error .invalidStart => replacementCharacter :: decodeReplacing rest
    | .error (.invalidContinuation good) => replacementCharacter :: decodeReplacing (rest.drop (good - 1))
termination_by octets => octets.length

/-- The octets of an ASCII text with its percent signs read. -/
def percentOctets : Text → Octets
  | [] => []
  | c :: rest =>
    if c = CodePoint.ofChar '%' then
      match rest with
      | a :: b :: rest' =>
        match a.hexValue?, b.hexValue? with
        | some x, some y => Octet.ofNat (x * 16 + y) :: percentOctets rest'
        | _, _ => Octet.ofNat c.val :: percentOctets (a :: b :: rest')
      | short => Octet.ofNat c.val :: percentOctets short
    else Utf8.encodeOne c ++ percentOctets rest

/-- The text that a percent-encoded text stands for. -/
def percentDecode (t : Text) : Text := decodeReplacing (percentOctets t)

end WebhookBridge
