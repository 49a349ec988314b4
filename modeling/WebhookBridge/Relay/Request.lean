import WebhookBridge.Validation

/-!
# Relay requests

A relay request names a URL and the JSON body to post there; a batch is a list of them. Both are decoded from JSON
texts, and whatever is wrong with a text is reported in full.

## Contents

* `RelayRequest`: one outbound call;
* `decodeJson`: the value of a text, or the one issue that it has none;
* `RelayRequest.decode`, `decodeBatch`: requests from texts.
-/

namespace WebhookBridge

/-- One outbound call: where to post, and what. -/
structure RelayRequest where
  url : Text
  body : Json
  deriving Repr, Inhabited

/-- The value that a text denotes. A text with surrogates is no sequence of characters. -/
def decodeJson (t : Text) : Except (List Issue) Json :=
  if t.hasSurrogate then .error [⟨.notUnicode, [], .str t⟩]
  else (Json.Strict.read t).mapError fun fault => [⟨.malformed t fault, [], .str t⟩]

/-- A request from a value at a place: an object with a text under `url`. -/
def RelayRequest.ofJson (place : List Step) (v : Json) : Except (List Issue) RelayRequest :=
  match v with
  | .obj members =>
    match Table.get? "url" members with
    | none => .error [⟨.missing, place ++ [.key "url"], v⟩]
    | some (.str url) => .ok ⟨url, (Table.get? "body" members).getD .null⟩
    | some other => .error [⟨.notAString, place ++ [.key "url"], other⟩]
  | _ => .error [⟨.notAnObject, place, v⟩]

/-- A request from a JSON text. -/
def RelayRequest.decode (t : Text) : Except (List Issue) RelayRequest := do
  RelayRequest.ofJson [] (← decodeJson t)

/-- The requests of a list of values, or the issues of all of them; `index` counts the values before. -/
def requestsOfElements (index : Nat) : List Json → Except (List Issue) (List RelayRequest)
  | [] => .ok []
  | v :: rest =>
    match RelayRequest.ofJson [.key "batch", .index index] v, requestsOfElements (index + 1) rest with
    | .ok r, .ok rs => .ok (r :: rs)
    | .ok _, .error issues => .error issues
    | .error issues, .ok _ => .error issues
    | .error issues, .error others => .error (issues ++ others)

/-- The requests of a value: of an array, or of the array under `batch` in an object. Where nothing or null stands in
    place of the array there are none. -/
def batchOfJson (v : Json) : Except (List Issue) (List RelayRequest) :=
  match v with
  | .null => .ok []
  | .arr elements => requestsOfElements 0 elements
  | .obj members =>
    match Table.get? "batch" members with
    | none => .ok []
    | some .null => .ok []
    | some (.arr elements) => requestsOfElements 0 elements
    | some other => .error [⟨.notAnArray, [.key "batch"], other⟩]
  | _ => .error [⟨.notAnObject, [], v⟩]

/-- The requests of a JSON text. -/
def decodeBatch (t : Text) : Except (List Issue) (List RelayRequest) := do
  batchOfJson (← decodeJson t)

end WebhookBridge
