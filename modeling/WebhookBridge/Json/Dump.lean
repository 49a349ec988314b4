import WebhookBridge.Json.Basic
import WebhookBridge.Text.Surrogate

/-!
# Dumping payloads

A payload is dumped before it is delivered. What is not finite becomes null, and the rest stays as it is; a payload
that is nested too deeply, or holds a key with a lone surrogate, is not dumped. Payloads hold what was read from JSON texts:
what a dump would make of a foreign value is left out, and it is not dumped here.

## Contents

* `Json.DumpFault`: why a payload is not dumped;
* `Json.dump`: the dumped payload.
-/

namespace WebhookBridge

namespace Json

/-- Why a payload is not dumped. -/
inductive DumpFault where
  | tooDeep
  | keyNotUnicode (fault : SurrogateFault)
  | foreign (kind : ForeignKind)
  deriving DecidableEq, Repr

/-- The text of a dump fault. -/
def DumpFault.message : DumpFault → Text
  | .tooDeep => "Maximum serialization depth exceeded"
  | .keyNotUnicode fault => fault.message
  | .foreign kind => ("Unable to serialize unknown type: <class '" : Text) ++ kind.name ++ "'>"

/-- The greatest number of values inside one another, scalars included, that are dumped. -/
def maxDumpDepth : Nat := 255

mutual

/-- The dumped form of a value around which `depth` values stand. -/
def dumpAt (depth : Nat) : Json → Except DumpFault Json
  | .float x =>
    if maxDumpDepth ≤ depth then .error .tooDeep else .ok (if x.isFinite then .float x else .null)
  | .arr elements =>
    if maxDumpDepth ≤ depth then .error .tooDeep else (dumpElements (depth + 1) elements).map .arr
  | .obj members =>
    if maxDumpDepth ≤ depth then .error .tooDeep else (dumpMembers (depth + 1) members).map .obj
  | .foreign kind => .error (.foreign kind)
  | .null => if maxDumpDepth ≤ depth then .error .tooDeep else .ok .null
  | .bool b => if maxDumpDepth ≤ depth then .error .tooDeep else .ok (.bool b)
  | .int n => if maxDumpDepth ≤ depth then .error .tooDeep else .ok (.int n)
  | .str s => if maxDumpDepth ≤ depth then .error .tooDeep else .ok (.str s)

/-- The dumped forms of the elements of an array. -/
def dumpElements (depth : Nat) : List Json → Except DumpFault (List Json)
  | [] => .ok []
  | v :: rest => do
    let first ← dumpAt depth v
    let others ← dumpElements depth rest
    return first :: others

/-- The dumped forms of the members of an object. -/
def dumpMembers (depth : Nat) : List (Text × Json) → Except DumpFault (List (Text × Json))
  | [] => .ok []
  | (k, v) :: rest =>
    match k.surrogateFault? with
    | some fault => .error (.keyNotUnicode fault)
    | none => do
      let first ← dumpAt depth v
      let others ← dumpMembers depth rest
      return (k, first) :: others

end

/-- The dumped form of a value. -/
def dump (v : Json) : Except DumpFault Json := dumpAt 0 v

end Json

end WebhookBridge
