import WebhookBridge.Text.Quoted
import WebhookBridge.Url.HostClasses
import WebhookBridge.Url.Punycode

/-!
# Host names beyond ASCII

A host name is a sequence of labels. A label beyond ASCII is written in ASCII behind a marker, provided that it is
composed, has no hyphen in the wrong place, starts with no mark, holds only code points that are valid where they
stand, and keeps to one direction.

## Contents

* `HostnameError`, `HostnameError.message`: why a name is not valid;
* `HostLabel.check`: the rules for one label;
* `Hostname.encode`, `Hostname.decode`: the ASCII form of a name, and the name of an ASCII form.
-/

namespace WebhookBridge

/-! ## Errors -/

/-- Why a host name is not valid. Positions count from one. -/
inductive HostnameError where
  | emptyDomain
  | emptyLabel
  | notComposed
  | hyphensThirdAndFourth
  | hyphenAtEnd
  | leadingMark
  | codePoint (c : CodePoint) (position : Nat) (label : Text)
  | context (c : CodePoint) (position : Nat) (label : Text)
  | joiner (c : CodePoint) (position : Nat) (label : Text)
  | unknownDirection (label : Text) (position : Nat)
  | firstDirection (label : Text)
  | rightToLeftDirection (position : Nat)
  | leftToRightDirection (position : Nat)
  | mixedNumerals
  | endDirection
  | nothingEncoded
  | encodedHyphenAtEnd
  | notDecodable
  | labelTooLong
  | domainTooLong
  deriving DecidableEq, Repr

/-- A code point by its number. -/
def CodePoint.numbered (c : CodePoint) : Text :=
  ("U+" : Text) ++ (Text.hex (if c.val < 0x10000 then 4 else if c.val < 0x100000 then 5 else 6) c.val).toAsciiUpper

/-- The text of a host name error. -/
def HostnameError.message : HostnameError → Text
  | .emptyDomain => "Empty domain"
  | .emptyLabel => "Empty Label"
  | .notComposed => "Label must be in Normalization Form C"
  | .hyphensThirdAndFourth => "Label has disallowed hyphens in 3rd and 4th position"
  | .hyphenAtEnd => "Label must not start or end with a hyphen"
  | .leadingMark => "Label begins with an illegal combining character"
  | .codePoint c position label =>
    ("Codepoint " : Text) ++ c.numbered ++ " at position " ++ Text.ofNat position ++ " of " ++ label.quoted ++
      " not allowed"
  | .context c position label =>
    ("Codepoint " : Text) ++ c.numbered ++ " not allowed at position " ++ Text.ofNat position ++ " in " ++ label.quoted
  | .joiner c position label =>
    ("Joiner " : Text) ++ c.numbered ++ " not allowed at position " ++ Text.ofNat position ++ " in " ++ label.quoted
  | .unknownDirection label position =>
    ("Unknown directionality in label " : Text) ++ label.quoted ++ " at position " ++ Text.ofNat position
  | .firstDirection label =>
    ("First codepoint in label " : Text) ++ label.quoted ++ " must be directionality L, R or AL"
  | .rightToLeftDirection position =>
    ("Invalid direction for codepoint at position " : Text) ++ Text.ofNat position ++ " in a right-to-left label"
  | .leftToRightDirection position =>
    ("Invalid direction for codepoint at position " : Text) ++ Text.ofNat position ++ " in a left-to-right label"
  | .mixedNumerals => "Can not mix numeral types in a right-to-left label"
  | .endDirection => "Label ends with illegal codepoint directionality"
  | .nothingEncoded => "Malformed A-label, no Punycode eligible content found"
  | .encodedHyphenAtEnd => "A-label must not end with a hyphen"
  | .notDecodable => "Invalid A-label"
  | .labelTooLong => "Label too long"
  | .domainTooLong => "Domain too long"

namespace HostLabel

/-! ## Code points -/

/-- Whether a code point is valid in every place. -/
def isValid (c : CodePoint) : Bool :=
  validRows.any fun (first, last, step) => first ≤ c.val && c.val ≤ last && (c.val - first) % step == 0

/-- Whether a mark after a base has a single code point of its own. -/
def composes (base mark : CodePoint) : Bool :=
  compositions.any fun (m, bases) => m == mark.val && bases.contains base.val

/-- Whether some neighbours in a label have a single code point of their own. -/
def hasComposition : Text → Bool
  | a :: b :: rest => composes a b || hasComposition (b :: rest)
  | _ => false

/-- Whether the zero-width non-joiner may stand between two parts of a label: after a vowel suppressor, or where it
    breaks a join. -/
def mayBreakJoin (before after : Text) : Bool :=
  let follows := (before.reverse.dropWhile fun c => inRanges transparentRanges c.val).head?
  let precedes := (after.dropWhile fun c => inRanges transparentRanges c.val).head?
  (match before.getLast? with
    | some c => inRanges viramaRanges c.val
    | none => false) ||
  ((match follows with
      | some c => inRanges joinsLeftRanges c.val
      | none => false) &&
    (match precedes with
      | some c => inRanges joinsRightRanges c.val
      | none => false))

/-- Whether the zero-width joiner may stand after a part of a label: after a vowel suppressor. -/
def mayJoin (before : Text) : Bool :=
  match before.getLast? with
  | some c => inRanges viramaRanges c.val
  | none => false

/-- Whether a code point that is valid in some places only may stand between two parts of a label. -/
def mayStand (c : CodePoint) (before after : Text) : Bool :=
  let isNext (ranges : List (Nat × Nat)) : Bool := match after with
    | d :: _ => inRanges ranges d.val
    | [] => false
  let isLast (ranges : List (Nat × Nat)) : Bool := match before.getLast? with
    | some d => inRanges ranges d.val
    | none => false
  if c.val = 0xB7 then isLast [(0x6C, 0x6C)] && isNext [(0x6C, 0x6C)]
  else if c.val = 0x375 then isNext greekRanges
  else if c.val = 0x5F3 || c.val = 0x5F4 then isLast hebrewRanges
  else if c.val = 0x30FB then
    (before ++ after).any fun d => d.val != 0x30FB && inRanges eastAsianRanges d.val
  else if 0x660 ≤ c.val && c.val ≤ 0x669 then !(before ++ after).any fun d => inRanges [(0x6F0, 0x6F9)] d.val
  else if 0x6F0 ≤ c.val && c.val ≤ 0x6F9 then !(before ++ after).any fun d => inRanges [(0x660, 0x669)] d.val
  else false

/-- The code points that are valid in some places only. -/
def contextRanges : List (Nat × Nat) :=
  [(0xB7, 0xB7), (0x375, 0x375), (0x5F3, 0x5F4), (0x660, 0x669), (0x6F0, 0x6F9), (0x30FB, 0x30FB)]

/-- The first code point of `after` that may not stand where it stands, if there is one. -/
def checkPlaces (label before : Text) : Text → Except HostnameError Unit
  | [] => .ok ()
  | c :: after =>
    let position := before.length + 1
    if isValid c then checkPlaces label (before ++ [c]) after
    else if c.val = 0x200C then
      if mayBreakJoin before after then checkPlaces label (before ++ [c]) after
      else .error (.joiner c position label)
    else if c.val = 0x200D then
      if mayJoin before then checkPlaces label (before ++ [c]) after else .error (.joiner c position label)
    else if inRanges contextRanges c.val then
      if mayStand c before after then checkPlaces label (before ++ [c]) after
      else .error (.context c position label)
    else .error (.codePoint c position label)

/-! ## Direction -/

/-- The direction of a code point. -/
inductive Direction where
  | leftToRight
  | rightToLeft
  | arabicNumber
  | europeanNumber
  | neutral
  | nonspacing
  | unknown
  deriving DecidableEq, Repr

/-- The direction of a code point that may stand in a label. -/
def Direction.of (c : CodePoint) : Direction :=
  if inRanges rightToLeftRanges c.val then .rightToLeft
  else if inRanges arabicNumberRanges c.val then .arabicNumber
  else if inRanges europeanNumberRanges c.val then .europeanNumber
  else if inRanges neutralRanges c.val then .neutral
  else if inRanges nonspacingRanges c.val then .nonspacing
  else if inRanges unassignedRanges c.val then .unknown
  else .leftToRight

/-- What a label's directions end with, marks left out. -/
def lastSpacing (directions : List Direction) : Option Direction :=
  (directions.reverse.dropWhile (· == .nonspacing)).head?

/-- The rules of direction, which hold for labels with a code point that runs from right to left. -/
def checkDirection (label : Text) : Except HostnameError Unit :=
  let directions := label.map Direction.of
  match directions.findIdx? (· == .unknown) with
  | some i => .error (.unknownDirection label (i + 1))
  | none =>
    if !directions.any fun d => d == .rightToLeft || d == .arabicNumber then .ok ()
    else match directions.head? with
      | some .rightToLeft =>
        match directions.findIdx? (· == .leftToRight) with
        | some i => .error (.rightToLeftDirection (i + 1))
        | none =>
          if directions.contains .arabicNumber && directions.contains .europeanNumber then .error .mixedNumerals
          else match lastSpacing directions with
            | some .neutral => .error .endDirection
            | _ => .ok ()
      | some .leftToRight =>
        match directions.findIdx? fun d => d == .rightToLeft || d == .arabicNumber with
        | some i => .error (.leftToRightDirection (i + 1))
        | none => match lastSpacing directions with
          | some .neutral => .error .endDirection
          | _ => .ok ()
      | _ => .error (.firstDirection label)

/-! ## Labels -/

/-- The rules for a label. -/
def check (label : Text) : Except HostnameError Unit :=
  let hyphen := CodePoint.ofChar '-'
  match label with
  | [] => .error .emptyLabel
  | first :: _ => do
    if hasComposition label then throw .notComposed
    if (label.drop 2).take 2 = [hyphen, hyphen] then throw .hyphensThirdAndFourth
    if first = hyphen ∨ label.getLast? = some hyphen then throw .hyphenAtEnd
    if inRanges markRanges first.val then throw .leadingMark
    checkPlaces label [] label
    checkDirection label

/-- What stands in front of an encoded label. -/
def marker : Text := "xn--"

/-- The greatest length of a label in ASCII. -/
def maxLength : Nat := 63

/-- The label of a label in ASCII. -/
def decode (label : Text) : Except HostnameError Text := do
  let label := label.toAsciiLower
  match Text.dropPrefix? marker label with
  | some [] => throw .nothingEncoded
  | some encoded =>
    if encoded.getLast? = some (CodePoint.ofChar '-') then throw .encodedHyphenAtEnd
    match Punycode.decode? encoded with
    | none => throw .notDecodable
    | some decoded =>
      check decoded
      return decoded
  | none =>
    check label
    return label

/-- The ASCII form of a label. -/
def encode (label : Text) : Except HostnameError Text := do
  let encoded ←
    if label.all CodePoint.isAscii then (decode label).map fun _ => label
    else (check label).map fun _ => marker ++ Punycode.encode label
  if maxLength < encoded.length then throw .labelTooLong
  return encoded

end HostLabel

namespace Hostname

/-- The full stops that separate labels. -/
def isDot (c : CodePoint) : Bool := c.val = 0x2E || c.val = 0x3002 || c.val = 0xFF0E || c.val = 0xFF61

/-- The labels of a name, and whether a dot stands at its end. -/
def labels (name : Text) : List Text × Bool :=
  let parts := Text.splitOn (CodePoint.ofChar '.') (name.map fun c => if isDot c then CodePoint.ofChar '.' else c)
  if parts.getLast? = some [] then (parts.dropLast, true) else (parts, false)

/-- The labels of a name, each converted. -/
def convert (f : Text → Except HostnameError Text) (name : Text) : Except HostnameError Text := do
  if name.isEmpty then throw .emptyDomain
  let (parts, dotted) := labels name
  let parts ← parts.mapM f
  return Text.join "." (if dotted then parts ++ [[]] else parts)

/-- The ASCII form of a name. -/
def encode (name : Text) : Except HostnameError Text := do
  let encoded ← convert HostLabel.encode name
  if (if encoded.getLast? = some (CodePoint.ofChar '.') then 254 else 253) < encoded.length then throw .domainTooLong
  return encoded

/-- The name of an ASCII form. -/
def decode (name : Text) : Except HostnameError Text := convert HostLabel.decode name

end Hostname

end WebhookBridge
