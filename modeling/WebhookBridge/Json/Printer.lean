import WebhookBridge.Json.Basic
import WebhookBridge.Number.Shortest
import WebhookBridge.Number.Whole

/-!
# Printing JSON

JSON texts in ASCII: code points beyond ASCII and control characters are written as escapes, those above the
16-bit range as two. Numbers beyond the finite ones have no JSON text, nor have integers of too many digits, values
nested too deeply, and foreign values.

## Contents

* `Json.PrintFault`: why a value has no text;
* `Json.Style`: three layouts;
* `Json.print`: the text of a value.
-/

namespace WebhookBridge.Json

/-- Why a value has no JSON text. -/
inductive PrintFault where
  | notFinite
  | integerTooLong
  | foreign (kind : ForeignKind)
  | tooDeep
  deriving DecidableEq, Repr

/-- The text of a printing fault; a value that is nested too deeply has none. -/
def PrintFault.message : PrintFault → Text
  | .notFinite => "Out of range float values are not JSON compliant"
  | .integerTooLong =>
    ("Exceeds the limit (" : Text) ++ Text.ofNat Whole.maxDigits ++ " digits) for integer string conversion; " ++
      "use sys.set_int_max_str_digits() to increase the limit"
  | .foreign kind => ("Object of type " : Text) ++ kind.name ++ " is not JSON serializable"
  | .tooDeep => "maximum recursion depth exceeded while encoding a JSON object"

/-- The greatest number of arrays and objects around one value that are read or written. It stands for a limit on calls
    inside one another, of which every array and object takes one: a thousand, less those that are under way wherever the
    bridge reads and writes. Of the number itself nothing is used but that requests are read with fewer. -/
def maxNesting : Nat := 975

/-! ## Strings -/

/-- A 16-bit unit as an escape. -/
def unitEscape (n : Nat) : Text := ("\\u" : Text) ++ Text.hex 4 n

/-- One code point inside a string. -/
def escaped (c : CodePoint) : Text :=
  if c = CodePoint.ofChar '"' then "\\\""
  else if c = CodePoint.ofChar '\\' then "\\\\"
  else if c = CodePoint.ofChar '\n' then "\\n"
  else if c = CodePoint.ofChar '\r' then "\\r"
  else if c = CodePoint.ofChar '\t' then "\\t"
  else if c.val = 0x08 then "\\b"
  else if c.val = 0x0C then "\\f"
  else if 0x20 ≤ c.val ∧ c.val ≤ 0x7E then [c]
  else if c.val < 0x10000 then unitEscape c.val
  else unitEscape (0xD800 + (c.val - 0x10000) / 0x400) ++ unitEscape (0xDC00 + (c.val - 0x10000) % 0x400)

/-- A string between double quotes. -/
def printString (s : Text) : Text := ("\"" : Text) ++ s.flatMap escaped ++ "\""

/-! ## Numbers -/

/-- The text of an integer that has few enough digits. -/
def printInt (n : Int) : Except PrintFault Text :=
  if n.natAbs < Nat.pow 10 Whole.maxDigits then .ok (Text.ofInt n) else .error .integerTooLong

/-! ## Layouts -/

/-- How arrays and objects are laid out. -/
inductive Style where
  /-- On one line, with a space after commas and colons. -/
  | inline
  /-- On one line, without spaces. -/
  | compact
  /-- One element or member a line, two spaces for each level. -/
  | indented
  deriving DecidableEq, Repr

/-- What stands between an opening bracket at `level` and the first element. -/
def Style.opening (level : Nat) : Style → Text
  | .indented => CodePoint.ofChar '\n' :: List.replicate (2 * (level + 1)) (CodePoint.ofChar ' ')
  | _ => []

/-- What stands between two elements. -/
def Style.separator (level : Nat) : Style → Text
  | .inline => ", "
  | .compact => ","
  | .indented => CodePoint.ofChar ',' :: Style.indented.opening level

/-- What stands between a key and its value. -/
def Style.colon : Style → Text
  | .compact => ":"
  | _ => ": "

/-- What stands between the last element and the closing bracket. -/
def Style.closing (level : Nat) : Style → Text
  | .indented => CodePoint.ofChar '\n' :: List.replicate (2 * level) (CodePoint.ofChar ' ')
  | _ => []

/-- Parts between brackets; nothing stands between the brackets if there is no part. -/
def Style.bracketed (style : Style) (level : Nat) (left right : Text) (parts : List Text) : Text :=
  if parts.isEmpty then left ++ right
  else left ++ (style.opening level ++ (Text.join (style.separator level) parts ++ (style.closing level ++ right)))

/-! ## Values -/

mutual

/-- The text of a value that stands inside `level` arrays and objects, where `limit` more may follow. -/
def printAt (style : Style) (limit level : Nat) : Json → Except PrintFault Text
  | .null => .ok "null"
  | .bool b => .ok (if b then "true" else "false" : Text)
  | .int n => printInt n
  | .float x => if x.isFinite then .ok x.text else .error .notFinite
  | .str s => .ok (printString s)
  | .arr elements =>
    if limit ≤ level then .error .tooDeep
    else (printElements style limit (level + 1) elements).map (style.bracketed level "[" "]")
  | .obj members =>
    if limit ≤ level then .error .tooDeep
    else (printMembers style limit (level + 1) members).map (style.bracketed level "\x7b" "\x7d")
  | .foreign kind => .error (.foreign kind)

/-- The texts of the elements of an array. -/
def printElements (style : Style) (limit level : Nat) : List Json → Except PrintFault (List Text)
  | [] => .ok []
  | v :: rest => do
    let first ← printAt style limit level v
    let parts ← printElements style limit level rest
    return first :: parts

/-- The texts of the members of an object. -/
def printMembers (style : Style) (limit level : Nat) : List (Text × Json) → Except PrintFault (List Text)
  | [] => .ok []
  | (k, v) :: rest => do
    let first ← printAt style limit level v
    let parts ← printMembers style limit level rest
    return (printString k ++ style.colon ++ first) :: parts

end

/-- The text of a value. -/
def print (style : Style) (v : Json) : Except PrintFault Text := printAt style maxNesting 0 v

end WebhookBridge.Json
