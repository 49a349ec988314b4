import WebhookBridge.Number.Binary64
import WebhookBridge.Table

/-!
# JSON values

Values that JSON texts denote. Integers and floating-point numbers are told apart, objects keep the order of their
keys, and texts may hold lone surrogates. Beside them stand values that a program can hold in the same places and
that no JSON text denotes.
-/

namespace WebhookBridge

/-- Kinds of values that no JSON text denotes. -/
inductive ForeignKind where
  | octets
  | set
  | complex
  deriving DecidableEq, Repr

/-- The name of a kind of foreign values in messages. -/
def ForeignKind.name : ForeignKind → Text
  | .octets => "bytes"
  | .set => "set"
  | .complex => "complex"

/-- A JSON value, or a foreign value in its place. -/
inductive Json where
  | null
  | bool (b : Bool)
  | int (n : Int)
  | float (x : Binary64)
  | str (s : Text)
  | arr (elements : List Json)
  | obj (members : List (Text × Json))
  | foreign (kind : ForeignKind)
  deriving Repr, Inhabited

namespace Json

/-- A string value. -/
def ofString (s : String) : Json := .str s

/-- The value of an object's key, or of nothing if the value is no object. -/
def get? (k : Text) : Json → Option Json
  | .obj members => Table.get? k members
  | _ => none

/-- The value `n` lists deep around `inner`. -/
def nest (inner : Json) : Nat → Json
  | 0 => inner
  | n + 1 => .arr [nest inner n]

end Json

end WebhookBridge
