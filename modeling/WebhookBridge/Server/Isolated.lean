import WebhookBridge.Server.Basic
import WebhookBridge.Url.Ip

/-!
# Binding on an isolated host

A host without a network binds its own addresses only. A port that somebody listens on is refused; port zero stands for
any port that is free.
-/

namespace WebhookBridge.Binder

/-- The address of its own that a host means by a name, if it does. -/
def ownAddress? (host : Text) : Option Text :=
  if host = ("localhost" : Text) then some "127.0.0.1"
  else if host = ("127.0.0.1" : Text) ∨ host = ("0.0.0.0" : Text) then some host
  else none

/-- Why an isolated host refuses a name. -/
def refusal (host : Text) : Text :=
  if isAddressOfFour host then "[Errno 99] Cannot assign requested address" else "[Errno -2] Name or service not known"

/-- What binds addresses on an isolated host, on which some ports are taken and one is free. -/
def isolated (taken : List Nat) (free : Nat) : Binder := fun a =>
  match ownAddress? a.host with
  | none => .refused (refusal a.host)
  | some host =>
    if taken.contains a.port then .refused "[Errno 98] Address already in use"
    else .bound ⟨host, if a.port = 0 then free else a.port⟩

end WebhookBridge.Binder
