import WebhookBridge.Defect
import WebhookBridge.Table

/-!
# Outcomes of relay calls

A relay call is answered with a status and a body, or fails with a relay error, or meets a defect. What it came to is
recorded under its URL: a batch keeps one entry for each URL, in one of two tables.

## Contents

* `RelayError`, `CallResult`: what a call comes to;
* `Answer`, `Outcome`: a call's answer in its final form, and the URL that it belongs to;
* `BatchResult`, `BatchResult.record`: the entries of a batch;
* `Payload`: what a reply or an event carries, and its dumped form.
-/

namespace WebhookBridge

/-! ## Calls -/

/-- The kinds of relay errors. -/
inductive RelayErrorKind where
  | general
  | serialization
  | transport
  | decode
  deriving DecidableEq, Repr

/-- A failure of a single relay call. -/
structure RelayError where
  kind : RelayErrorKind
  message : Text
  deriving DecidableEq, Repr

/-- What a relay call comes to. -/
inductive CallResult where
  | answered (status : Int) (body : Json)
  | failed (error : RelayError)
  | met (defect : Defect)

/-! ## Outcomes -/

/-- The answer to a call: its status as a text, and the body. -/
structure Answer where
  status : Text
  body : Json
  deriving Inhabited

/-- What came of a call to a URL, where no defect was met. -/
structure Outcome where
  url : Text
  result : Except RelayError Answer

/-- Whether the call was answered. -/
def Outcome.ok (o : Outcome) : Bool := o.result.isOk

/-! ## Payloads -/

/-- The dumped form of an answer. -/
def Answer.dump (a : Answer) : Except Json.DumpFault Json := do
  let body ← a.body.dump
  return .obj [("statusCode", .str a.status), ("body", body)]

/-- An answer from a value: an object with a text under `statusCode`, or under `status_code` if the first is
    missing. -/
def Answer.ofJson (v : Json) : Except (List Issue) Answer :=
  match v with
  | .obj members =>
    let found := match Table.get? "statusCode" members with
      | some v => some (("statusCode" : Text), v)
      | none => (Table.get? "status_code" members).map fun v => ("status_code", v)
    match found with
    | none => .error [⟨.missing, [.key "statusCode"], v⟩]
    | some (_, .str status) => .ok ⟨status, (Table.get? "body" members).getD .null⟩
    | some (key, other) => .error [⟨.notAString, [.key key], other⟩]
  | _ => .error [⟨.notAnObject, [], v⟩]

/-- The dumped form of an error. -/
def dumpError (message : Text) : Json := .obj [("message", .str message)]

/-! ## Batches -/

/-- The entries of a batch: answers and errors by URL. -/
structure BatchResult where
  successes : Table Answer
  errors : Table Text
  deriving Inhabited

namespace BatchResult

/-- No entries. -/
def empty : BatchResult := ⟨[], []⟩

/-- The number of entries. -/
def size (b : BatchResult) : Nat := b.successes.length + b.errors.length

/-- The batch after an outcome was recorded: the outcome's URL leaves the other table and enters its own. Any text
    enters, with surrogates or without. -/
def record (o : Outcome) (b : BatchResult) : BatchResult :=
  match o.result with
  | .error e => { successes := b.successes.erase o.url, errors := b.errors.put o.url e.message }
  | .ok answer => { successes := b.successes.put o.url answer, errors := b.errors.erase o.url }

/-- The dumped entries of a table, each under its URL as that is written. -/
def dumpEntries {α : Type} (f : α → Except Json.DumpFault Json) : Table α → Except Json.DumpFault (List (Text × Json))
  | [] => .ok []
  | (url, v) :: rest => do
    let first ← f v
    let others ← dumpEntries f rest
    return (url.replaceSurrogates, first) :: others

/-- The dumped form of a table. URLs that are written alike share the place of the first and the entry of the last. -/
def dumpTable {α : Type} (f : α → Except Json.DumpFault Json) (t : Table α) : Except Json.DumpFault (Table Json) :=
  (dumpEntries f t).map Table.ofPairs

/-- The dumped form of a batch. -/
def dump (b : BatchResult) : Except Json.DumpFault Json := do
  let successes ← dumpTable Answer.dump b.successes
  let errors ← dumpTable (fun m => .ok (dumpError m)) b.errors
  return .obj [("successes", .obj successes), ("errors", .obj errors)]

end BatchResult

/-- What a reply or an event carries. -/
inductive Payload where
  | success (answer : Answer)
  | error (message : Text)
  | batch (result : BatchResult)
  /-- Any other model, under a kind of its own, by what dumping it comes to. -/
  | other (kind : Text) (dumped : Except Json.DumpFault Json)

/-- The dumped form of a payload. -/
def Payload.dump : Payload → Except Json.DumpFault Json
  | .success answer => answer.dump
  | .error message => .ok (dumpError message)
  | .batch result => result.dump
  | .other _ dumped => dumped

end WebhookBridge
