import WebhookBridge.Json.Dump
import WebhookBridge.Validation

/-!
# Defects

A defect is a failure that the relay does not answer for: it goes up through whoever called and ends the work there.
-/

namespace WebhookBridge

/-- A failure that is no relay error. -/
inductive Defect where
  /-- A value or a document is nested too deeply to be worked through. -/
  | tooDeep
  /-- A host name cannot be decoded. -/
  | hostname (message : Text)
  /-- A text cannot be written in UTF-8. -/
  | surrogate (fault : SurrogateFault)
  /-- A value does not fit the payload that it was put into. -/
  | invalid (issues : List Issue)
  /-- A payload cannot be dumped. -/
  | undumpable (fault : Json.DumpFault)
  /-- A value cannot be printed. -/
  | unprintable (message : Text)
  /-- Cookies are at hand for a request to a URL without a scheme. -/
  | missingScheme (url : Text)
  /-- The client is closed. -/
  | clientClosed
  /-- A failure of someone else's making. -/
  | other (message : Text)
  /-- Defects of work that was done side by side. -/
  | group (causes : List Defect)

/-- The text of a defect. -/
def Defect.message : Defect → Text
  | .tooDeep => []
  | .hostname message => message
  | .surrogate fault => fault.message
  | .invalid issues => summary issues
  | .undumpable fault => fault.message
  | .unprintable message => message
  | .missingScheme url => ("unknown url type: " : Text) ++ url.quoted
  | .clientClosed => "Cannot send a request, as the client has been closed."
  | .other message => message
  | .group causes =>
    ("unhandled errors in a TaskGroup (" : Text) ++ Text.ofNat causes.length ++ " sub-exception" ++
      (if causes.length = 1 then "" else "s" : Text) ++ ")"

end WebhookBridge
