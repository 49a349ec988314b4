import WebhookBridge.Text.Digit
import WebhookBridge.Text.WhiteSpace

/-!
# Whole numbers in texts

The lenient reading of a whole number: white space around it, a sign, decimal digits of any script, and single
underscores between digits. A number of more than `maxDigits` digits is not read.
-/

namespace WebhookBridge.Whole

/-- The greatest number of digits, leading zeros included, that is read or written as a decimal numeral. -/
def maxDigits : Nat := 4300

/-- The values of digits with at most one underscore between neighbours; none if anything else is there.
    `afterDigit` tells whether a digit stands directly before. -/
def digits? (afterDigit : Bool) : Text → Option (List Nat)
  | [] => if afterDigit then some [] else none
  | c :: rest =>
    if c = CodePoint.ofChar '_' then if afterDigit then digits? false rest else none
    else match c.digitValue? with
      | some d => (digits? true rest).map (d :: ·)
      | none => none

/-- The number that decimal digits make, most significant first. -/
def ofDigits (ds : List Nat) : Nat := ds.foldl (fun n d => n * 10 + d) 0

/-- A natural number in digits and underscores. -/
def readNat? (t : Text) : Option Nat :=
  match digits? false t with
  | some ds => if ds.length ≤ maxDigits then some (ofDigits ds) else none
  | none => none

/-- A whole number with an optional sign and white space around it. -/
def read? (t : Text) : Option Int :=
  match t.trim CodePoint.isWhiteSpace with
  | [] => none
  | c :: rest =>
    if c = CodePoint.ofChar '-' then (readNat? rest).map fun n => -(n : Int)
    else if c = CodePoint.ofChar '+' then (readNat? rest).map Int.ofNat
    else (readNat? (c :: rest)).map Int.ofNat

end WebhookBridge.Whole
