import WebhookBridge.Text.Basic

/-!
# Addresses of hosts

Addresses of four numbers between dots, and addresses of eight groups of hexadecimal digits between colons, of which a
run of groups may be left out once and the last two groups may be written as four numbers.
-/

namespace WebhookBridge

/-- Whether a text is a number of an address of four: at most three digits, no zero in front, at most 255. -/
def isAddressNumber (t : Text) : Bool :=
  !t.isEmpty && t.all CodePoint.isAsciiDigit && t.length ≤ 3 &&
    (t.length = 1 || t.head? ≠ some (CodePoint.ofChar '0')) &&
    t.foldl (fun n c => n * 10 + (c.val - 0x30)) 0 ≤ 255

/-- Whether a text is an address of four numbers. -/
def isAddressOfFour (t : Text) : Bool :=
  let parts := t.splitOn (CodePoint.ofChar '.')
  parts.length = 4 && parts.all isAddressNumber

/-- Whether a text is a group of an address of eight. -/
def isAddressGroup (t : Text) : Bool := !t.isEmpty && t.length ≤ 4 && t.all fun c => c.hexValue?.isSome

/-- The number of groups that parts between colons stand for; the last part may be an address of four numbers, which
    stands for two. -/
def countGroups? : List Text → Option Nat
  | [] => some 0
  | [last] => if isAddressGroup last then some 1 else if isAddressOfFour last then some 2 else none
  | part :: parts => if isAddressGroup part then (countGroups? parts).map (· + 1) else none

/-- The parts of a text between colons; an empty text has none. -/
def colonParts (t : Text) : List Text := if t.isEmpty then [] else t.splitOn (CodePoint.ofChar ':')

/-- The parts of a text before and after the first two colons in a row. -/
def splitDoubleColon? : Text → Option (Text × Text)
  | a :: b :: rest =>
    if a = CodePoint.ofChar ':' ∧ b = CodePoint.ofChar ':' then some ([], rest)
    else (splitDoubleColon? (b :: rest)).map fun (before, after) => (a :: before, after)
  | _ => none

/-- Whether a text is an address of eight groups. -/
def isAddressOfEight (t : Text) : Bool :=
  match splitDoubleColon? t with
  | some (before, after) =>
    (colonParts before).all isAddressGroup &&
      (match countGroups? (colonParts after) with
        | some n => (colonParts before).length + n ≤ 7
        | none => false)
  | none => countGroups? (colonParts t) = some 8

/-- Whether a text is an address of eight groups, with or without a zone behind a percent sign. -/
def isZonedAddress (t : Text) : Bool :=
  match Text.splitFirst? (CodePoint.ofChar '%') t with
  | none => isAddressOfEight t
  | some (address, zone) => isAddressOfEight address && !zone.isEmpty && !zone.contains (CodePoint.ofChar '%')

end WebhookBridge
