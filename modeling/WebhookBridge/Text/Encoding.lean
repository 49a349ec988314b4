import WebhookBridge.Text.Utf8

/-!
# Character encodings of documents

A document arrives as octets in UTF-8, UTF-16 or UTF-32. Its encoding is told from a byte order mark, or else from
where the first octets are null, since a document begins with ASCII characters. Lone surrogates are admitted in
every encoding.

## Contents

* `Encoding`, `Encoding.detect`: the encodings and how one is recognised;
* `DecodeFault`, `DecodeFault.message`: where and why octets are no text;
* `Encoding.decode`, `decodeDocument`: reading a document.
-/

namespace WebhookBridge

/-- The order of the octets of one unit. -/
inductive ByteOrder where
  | little
  | big
  deriving DecidableEq, Repr

/-- A character encoding. -/
inductive Encoding where
  | utf8
  | utf16 (order : ByteOrder)
  | utf32 (order : ByteOrder)
  deriving DecidableEq, Repr

/-- The name of an encoding in messages. -/
def Encoding.name : Encoding → Text
  | .utf8 => "utf-8"
  | .utf16 .little => "utf-16-le"
  | .utf16 .big => "utf-16-be"
  | .utf32 .little => "utf-32-le"
  | .utf32 .big => "utf-32-be"

/-- Octets that are no text in their encoding: `octets` are to blame, and stand from `start` on. -/
structure DecodeFault where
  encoding : Encoding
  start : Nat
  octets : Octets
  reason : Text
  deriving DecidableEq, Repr

/-- The text of a decoding fault. -/
def DecodeFault.message (f : DecodeFault) : Text :=
  match f.octets with
  | [b] =>
    ("'" : Text) ++ f.encoding.name ++ "' codec can't decode byte 0x" ++ Text.hex 2 b.val ++ " in position " ++
      Text.ofNat f.start ++ ": " ++ f.reason
  | octets =>
    ("'" : Text) ++ f.encoding.name ++ "' codec can't decode bytes in position " ++ Text.ofNat f.start ++ "-" ++
      Text.ofNat (f.start + octets.length - 1) ++ ": " ++ f.reason

/-! ## UTF-8 -/

/-- What a fault of UTF-8 says of the octets that start where it was found. -/
def Utf8.Fault.describe (octets : Octets) : Utf8.Fault → Octets × Text
  | .invalidStart => (octets.take 1, "invalid start byte")
  | .unexpectedEnd => (octets, "unexpected end of data")
  | .invalidContinuation good => (octets.take good, "invalid continuation byte")

/-- The text that octets write in UTF-8, with or without surrogates. -/
def Utf8.read (surrogates : Bool) (octets : Octets) : Except DecodeFault Text :=
  match Utf8.decode surrogates octets with
  | .ok t => .ok t
  | .error (fault, rest) =>
    let (blamed, reason) := fault.describe rest
    .error ⟨.utf8, octets.length - rest.length, blamed, reason⟩

/-! ## UTF-16 and UTF-32 -/

/-- The number that two octets make. -/
def ByteOrder.pair (order : ByteOrder) (a b : Octet) : Nat :=
  match order with
  | .little => b.val * 0x100 + a.val
  | .big => a.val * 0x100 + b.val

/-- The 16-bit units of a sequence of octets, and the octet left over. -/
def ByteOrder.units (order : ByteOrder) : Octets → List Nat × Octets
  | a :: b :: rest =>
    let (units, left) := order.units rest
    (order.pair a b :: units, left)
  | left => ([], left)

/-- The text of 16-bit units: a high unit and a low one after it make a single code point. -/
def ofUnits : List Nat → Text
  | a :: b :: rest =>
    if 0xD800 ≤ a && a ≤ 0xDBFF && 0xDC00 ≤ b && b ≤ 0xDFFF then
      CodePoint.ofNat (0x10000 + (a - 0xD800) * 0x400 + (b - 0xDC00)) :: ofUnits rest
    else CodePoint.ofNat a :: ofUnits (b :: rest)
  | [a] => [CodePoint.ofNat a]
  | [] => []

/-- The text of a sequence of octets in UTF-16, which holds a whole number of units. -/
def ByteOrder.decode16 (order : ByteOrder) (octets : Octets) : Except DecodeFault Text :=
  match order.units octets with
  | (units, []) => .ok (ofUnits units)
  | (_, left) => .error ⟨.utf16 order, octets.length - left.length, left, "truncated data"⟩

/-- The text of a sequence of octets in UTF-32, four to a code point; `position` counts the octets before. -/
def ByteOrder.decode32 (order : ByteOrder) (position : Nat) : Octets → Except DecodeFault Text
  | a :: b :: c :: d :: rest =>
    let n := match order with
      | .little => ByteOrder.little.pair c d * 0x10000 + ByteOrder.little.pair a b
      | .big => ByteOrder.big.pair a b * 0x10000 + ByteOrder.big.pair c d
    if h : n < 0x110000 then (order.decode32 (position + 4) rest).map (⟨n, h⟩ :: ·)
    else .error ⟨.utf32 order, position, [a, b, c, d], "code point not in range(0x110000)"⟩
  | [] => .ok []
  | left => .error ⟨.utf32 order, position, left, "truncated data"⟩

/-! ## Documents -/

/-- Byte order marks, the longer ones first. -/
def byteOrderMarks : List (Octets × Encoding) :=
  let mark (numbers : List Nat) : Octets := numbers.map Octet.ofNat
  [(mark [0x00, 0x00, 0xFE, 0xFF], .utf32 .big), (mark [0xFF, 0xFE, 0x00, 0x00], .utf32 .little),
    (mark [0xFE, 0xFF], .utf16 .big), (mark [0xFF, 0xFE], .utf16 .little), (mark [0xEF, 0xBB, 0xBF], .utf8)]

/-- The encoding that the null octets at the front of a document without a mark show. -/
def Encoding.ofNulls : Octets → Encoding
  | a :: b :: c :: d :: _ =>
    if a.val = 0 then (if b.val = 0 then .utf32 .big else .utf16 .big)
    else if b.val = 0 then (if c.val = 0 ∧ d.val = 0 then .utf32 .little else .utf16 .little)
    else .utf8
  | [a, b] => if a.val = 0 then .utf16 .big else if b.val = 0 then .utf16 .little else .utf8
  | _ => .utf8

/-- The byte order mark of a document and the encoding that it stands for; no mark where the nulls decide. -/
def Encoding.detect (octets : Octets) : Octets × Encoding :=
  match byteOrderMarks.find? fun (mark, _) => mark.isPrefixOf octets with
  | some found => found
  | none => ([], ofNulls octets)

/-- The text of a document. A mark is no part of the text; the places in a fault count it, except in UTF-8. -/
def decodeDocument (octets : Octets) : Except DecodeFault Text :=
  let (mark, encoding) := Encoding.detect octets
  let content := octets.drop mark.length
  match encoding with
  | .utf8 => Utf8.read true content
  | .utf16 order =>
    (order.decode16 content).mapError fun f => { f with start := f.start + mark.length }
  | .utf32 order => order.decode32 mark.length content

end WebhookBridge
