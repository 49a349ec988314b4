import WebhookBridge.Number.Whole
import WebhookBridge.Text.Quoted

/-!
# Listen addresses

An address to listen on is written `host:port`. The port stands after the last colon; an empty host means every
interface, and brackets around a host are dropped when it is read and written when it holds a colon.

## Contents

* `Address`, `AddressError`: a host and a port, and the ways in which a text is none;
* `Address.parse`, `Address.format`: reading and writing.
-/

namespace WebhookBridge

/-- A host and a port to listen on. -/
structure Address where
  host : Text
  port : Nat
  deriving DecidableEq, Repr

/-- Why a text is no listen address. -/
inductive AddressError where
  /-- No colon separates a port. -/
  | noPort (text : Text)
  /-- What stands after the last colon is no whole number. -/
  | invalidPort (text : Text)
  /-- The port is no 16-bit number. -/
  | portOutOfRange (port : Int)
  deriving DecidableEq, Repr

/-- The text of an address error. -/
def AddressError.message : AddressError → Text
  | .noPort text => ("listen address " : Text) ++ text.quoted ++ " has no port"
  | .invalidPort text => ("invalid port in listen address " : Text) ++ text.quoted
  | .portOutOfRange port => ("port " : Text) ++ Text.ofInt port ++ " outside valid range 0-65535"

namespace Address

/-- The greatest port. -/
def maxPort : Nat := 65535

/-- Whether a code point is a square bracket. -/
def isBracket (c : CodePoint) : Bool := c = CodePoint.ofChar '[' || c = CodePoint.ofChar ']'

/-- The host that means every interface. -/
def everyInterface : Text := "0.0.0.0"

/-- The host that is meant by what stands before the last colon. -/
def hostOf (written : Text) : Text :=
  match written.trim isBracket with
  | [] => everyInterface
  | host => host

/-- The address that a text writes. -/
def parse (text : Text) : Except AddressError Address :=
  match text.splitLast? (CodePoint.ofChar ':') with
  | none => .error (.noPort text)
  | some (host, port) =>
    match Whole.read? port with
    | none => .error (.invalidPort text)
    | some n =>
      if 0 ≤ n ∧ n ≤ maxPort then .ok ⟨hostOf host, n.toNat⟩ else .error (.portOutOfRange n)

/-- The text of a host and a port, whatever number the port is. -/
def formatHostPort (host : Text) (port : Int) : Text :=
  if host.contains (CodePoint.ofChar ':') then
    ("[" : Text) ++ host ++ "]:" ++ Text.ofInt port
  else host ++ ":" ++ Text.ofInt port

/-- The text of an address. -/
def format (a : Address) : Text := formatHostPort a.host a.port

end Address

end WebhookBridge
