import WebhookBridge.Number.Binary64
import WebhookBridge.Text.Digit
import WebhookBridge.Text.WhiteSpace

/-!
# Reading decimal numerals

The decimal numerals that stand for floating-point numbers: digits with at most one point, an optional exponent, an
optional sign, and the words for infinity and for the value that is no number. Two readers use the grammar: one
takes ASCII digits, the other digits of any script.

## Contents

* `Numeral`: digits before and after the point, and the exponent;
* `Numeral.parse?`: the grammar;
* `readFloat?`, `readLenientFloat?`: the readers.
-/

namespace WebhookBridge

/-- An unsigned decimal numeral: all its digits in order, how many of them stand after the point, and a power of
    ten. -/
structure Numeral where
  digits : List Nat
  places : Nat
  exponent : Int
  deriving DecidableEq, Repr

namespace Numeral

/-- The number nearest to a numeral, with a sign. -/
def toBinary64 (negative : Bool) (n : Numeral) : Binary64 :=
  Binary64.ofDecimal negative (n.digits.foldl (fun acc d => acc * 10 + d) 0) (n.exponent - n.places)

/-- The value of an ASCII digit. -/
def asciiDigit? (c : CodePoint) : Option Nat := if c.isAsciiDigit then some (c.val - 0x30) else none

/-- The digits at the front of a text, and the rest. -/
def spanDigits : Text → List Nat × Text
  | [] => ([], [])
  | c :: rest =>
    match asciiDigit? c with
    | some d => let (ds, rest) := spanDigits rest; (d :: ds, rest)
    | none => ([], c :: rest)

/-- The exponent that makes up the whole text: a letter e, an optional sign, digits. Nothing stands for zero. -/
def exponent? : Text → Option Int
  | [] => some 0
  | c :: rest =>
    if c.toAsciiLower ≠ CodePoint.ofChar 'e' then none
    else
      let (negative, rest) := match rest with
        | s :: rest' =>
          if s = CodePoint.ofChar '-' then (true, rest')
          else if s = CodePoint.ofChar '+' then (false, rest') else (false, rest)
        | [] => (false, [])
      match spanDigits rest with
      | ([], _) => none
      | (ds, []) =>
        let n : Int := (ds.foldl (fun acc d => acc * 10 + d) 0 : Nat)
        some (if negative then -n else n)
      | _ => none

/-- The numeral that makes up the whole text. At least one digit stands before or after the point. -/
def parse? (t : Text) : Option Numeral :=
  let (whole, rest) := spanDigits t
  let (fraction, rest) := match rest with
    | c :: rest' => if c = CodePoint.ofChar '.' then spanDigits rest' else ([], rest)
    | [] => ([], [])
  if whole.isEmpty && fraction.isEmpty then none
  else (exponent? rest).map fun e => ⟨whole ++ fraction, fraction.length, e⟩

end Numeral

/-! ## The readers -/

/-- The words for infinity. -/
def infinityWords : List Text := ["inf", "infinity"]

/-- The number that an unsigned text writes, with a sign put to it. -/
def readUnsigned? (negative : Bool) (t : Text) : Option Binary64 :=
  if infinityWords.contains t.toAsciiLower then some (.infinite negative)
  else if t.toAsciiLower = ("nan" : Text) then some .nan
  else (Numeral.parse? t).map (Numeral.toBinary64 negative)

/-- The number that a text writes in ASCII digits, with an optional sign. -/
def readSigned? : Text → Option Binary64
  | [] => none
  | c :: rest =>
    if c = CodePoint.ofChar '-' then readUnsigned? true rest
    else if c = CodePoint.ofChar '+' then readUnsigned? false rest
    else readUnsigned? false (c :: rest)

/-- Whether an underscore stands at an end of the text or beside another one. -/
def hasStrayUnderscore (t : Text) : Bool :=
  let us := CodePoint.ofChar '_'
  t.head? == some us || t.getLast? == some us || Text.containsText [us, us] t

/-- The number that a text writes in ASCII digits, with white space around it. Where that fails, the text is read
    with its underscores left out, unless one stands at an end or beside another; then it may hold no white space. -/
def readFloat? (t : Text) : Option Binary64 :=
  match readSigned? (t.trim CodePoint.isWhiteSpace) with
  | some x => some x
  | none => if hasStrayUnderscore t then none else readSigned? (t.filter (· != CodePoint.ofChar '_'))

/-- The text with every decimal digit of another script replaced by its ASCII digit. -/
def asciiDigits (t : Text) : Text :=
  t.map fun c => match c.digitValue? with
    | some d => CodePoint.ofDigit d
    | none => c

/-- Whether every underscore stands between two digits; `before` tells whether a digit stands directly before. -/
def underscoresBetweenDigits (before : Bool) : Text → Bool
  | [] => true
  | c :: rest =>
    if c = CodePoint.ofChar '_' then
      before && (match rest with | d :: _ => d.isAsciiDigit | [] => false) && underscoresBetweenDigits false rest
    else underscoresBetweenDigits c.isAsciiDigit rest

/-- The number that a text writes in digits of any script, with white space around it and single underscores
    between digits. -/
def readLenientFloat? (t : Text) : Option Binary64 :=
  let t := asciiDigits (t.trim CodePoint.isWhiteSpace)
  if underscoresBetweenDigits false t then readSigned? (t.filter (· != CodePoint.ofChar '_')) else none

end WebhookBridge
