import WebhookBridge.Json.Basic
import WebhookBridge.Number.Shortest
import WebhookBridge.Text.Quoted
import WebhookBridge.Text.Utf8

/-!
# Displaying values in reports

A report on a value that was not accepted shows the value on one line, with quoted texts, and cut in the middle when
it is long.

## Contents

* `Json.display`: the value on one line;
* `Json.typeName`: the name of the kind of the value;
* `cutMiddle`: the cut.
-/

namespace WebhookBridge

namespace Json

mutual

/-- The value on one line. -/
def display : Json → Text
  | .null => "None"
  | .bool b => if b then "True" else "False"
  | .int n => Text.ofInt n
  | .float x => x.text
  | .str s => s.quoted
  | .arr elements => ("[" : Text) ++ Text.join ", " (displayElements elements) ++ "]"
  | .obj members => ("\x7b" : Text) ++ Text.join ", " (displayMembers members) ++ "\x7d"
  | .foreign kind => kind.name

/-- The elements of an array, each on one line. -/
def displayElements : List Json → List Text
  | [] => []
  | v :: rest => display v :: displayElements rest

/-- The members of an object, each on one line. -/
def displayMembers : List (Text × Json) → List Text
  | [] => []
  | (k, v) :: rest => (k.quoted ++ ": " ++ display v) :: displayMembers rest

end

/-- The name of the kind of a value. -/
def typeName : Json → Text
  | .null => "NoneType"
  | .bool _ => "bool"
  | .int _ => "int"
  | .float _ => "float"
  | .str _ => "str"
  | .arr _ => "list"
  | .obj _ => "dict"
  | .foreign kind => kind.name

end Json

/-! ## Cutting -/

/-- The longest beginning of a text that takes at most `budget` octets. -/
def takeOctets (budget : Nat) : Text → Text
  | [] => []
  | c :: rest => if Utf8.sizeOne c ≤ budget then c :: takeOctets (budget - Utf8.sizeOne c) rest else []

/-- A text of more than 50 octets is cut down to at most 25 octets from its front and 24 from its end. -/
def cutMiddle (t : Text) : Text :=
  if Utf8.size t ≤ 50 then t
  else takeOctets 25 t ++ "..." ++ (takeOctets 24 t.reverse).reverse

end WebhookBridge
