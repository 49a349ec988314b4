import WebhookBridge.Text.Basic

/-!
# Punycode

The form of a host label beyond ASCII: its ASCII code points, a hyphen, and then the others in ascending order, each
as the distance from the one before in a numeral of base 36 with places of varying weight.

## Contents

* `Punycode.threshold`, `Punycode.adapt`: the weights of places and how they follow the distances;
* `Punycode.encode`, `Punycode.decode?`: writing and reading a label.
-/

namespace WebhookBridge.Punycode

/-! ## Weights -/

/-- The greatest digit that ends a numeral in place `j`, plus one, under a bias. -/
def threshold (j bias : Nat) : Nat := max 1 (min 26 (36 * (j + 1) - bias))

theorem threshold_pos (j bias : Nat) : 1 ≤ threshold j bias := by unfold threshold; omega

theorem threshold_le (j bias : Nat) : threshold j bias ≤ 26 := by unfold threshold; omega

/-- A distance divided by 35 until it is at most 455, and 36 for each division. -/
def reduce (delta divisions : Nat) : Nat × Nat :=
  if 455 < delta then reduce (delta / 35) (divisions + 36) else (delta, divisions)
termination_by delta
decreasing_by omega

/-- The bias after a distance, when the label has `count` code points so far. -/
def adapt (delta : Nat) (first : Bool) (count : Nat) : Nat :=
  let delta := if first then delta / 700 else delta / 2
  let (delta, divisions) := reduce (delta + delta / count) 0
  divisions + 36 * delta / (delta + 38)

/-! ## Writing -/

/-- The letter or digit for a value below 36. -/
def ofDigit (d : Nat) : CodePoint := if d < 26 then CodePoint.ofNat (0x61 + d) else CodePoint.ofNat (0x30 + (d - 26))

/-- A distance as a numeral, from place `j` on. -/
def writeNumber (bias j delta : Nat) : Text :=
  let t := threshold j bias
  if delta < t then [ofDigit delta]
  else ofDigit (t + (delta - t) % (36 - t)) :: writeNumber bias (j + 1) ((delta - t) / (36 - t))
termination_by delta
decreasing_by
  have h := threshold_pos j bias
  have h' := threshold_le j bias
  calc (delta - threshold j bias) / (36 - threshold j bias) ≤ delta - threshold j bias := Nat.div_le_self ..
    _ < delta := by omega

/-- The state of writing: what is written, the distance so far, the bias, and how many code points are done. -/
structure Writing where
  written : Text
  delta : Nat
  bias : Nat
  done : Nat

/-- Writing goes past one code point of the label while the code point `n` is being written. -/
def Writing.pass (base n : Nat) (w : Writing) (c : CodePoint) : Writing :=
  if c.val < n then { w with delta := w.delta + 1 }
  else if c.val = n then
    { written := w.written ++ writeNumber w.bias 0 w.delta
      delta := 0
      bias := adapt w.delta (w.done = base) (w.done + 1)
      done := w.done + 1 }
  else w

/-- Writes the code points `ns`, which ascend and lie above `last`. -/
def writeFrom (label : Text) (base : Nat) : Nat → List Nat → Writing → Writing
  | _, [], w => w
  | last, n :: ns, w =>
    let w := { w with delta := w.delta + (n - last) * (w.done + 1) }
    let w := label.foldl (Writing.pass base n) w
    writeFrom label base (n + 1) ns { w with delta := w.delta + 1 }

/-- The written form of a label. -/
def encode (label : Text) : Text :=
  let ascii := label.filter CodePoint.isAscii
  let others := ((label.filter fun c => !c.isAscii).map (·.val)).eraseDups.mergeSort
  let w := writeFrom label ascii.length 0x80 others ⟨[], 0, 72, ascii.length⟩
  if ascii.isEmpty then w.written else ascii ++ CodePoint.ofChar '-' :: w.written

/-! ## Reading -/

/-- The value of a letter or digit. -/
def digitValue? (c : CodePoint) : Option Nat :=
  let c := c.toAsciiLower
  if 0x61 ≤ c.val && c.val ≤ 0x7A then some (c.val - 0x61)
  else if c.isAsciiDigit then some (c.val - 0x30 + 26)
  else none

/-- A numeral at the front of a text: its value, and what follows it. -/
def readNumber? (bias j weight value : Nat) : Text → Option (Nat × Text)
  | [] => none
  | c :: rest => do
    let d ← digitValue? c
    let value := value + d * weight
    let t := threshold j bias
    if d < t then some (value, rest) else readNumber? bias (j + 1) (weight * (36 - t)) value rest

/-- Puts the code points that a text writes into a label. `place` is where the last one went, plus one; `fuel` bounds
    their number. -/
def readFrom? (fuel : Nat) (label : Text) (n place bias : Nat) (first : Bool) (t : Text) : Option Text :=
  match fuel, t with
  | _, [] => some label
  | 0, _ => none
  | fuel + 1, t => do
    let (delta, rest) ← readNumber? bias 0 1 0 t
    let position := place + delta
    let n := n + position / (label.length + 1)
    if h : n < 0x110000 then
      let place := position % (label.length + 1)
      let label := label.take place ++ ⟨n, h⟩ :: label.drop place
      readFrom? fuel label n (place + 1) (adapt delta first label.length) false rest
    else none

/-- The label of a written form. -/
def decode? (t : Text) : Option Text :=
  let (ascii, rest) := (t.splitLast? (CodePoint.ofChar '-')).getD ([], t)
  readFrom? rest.length ascii 0x80 0 72 true rest

end WebhookBridge.Punycode
