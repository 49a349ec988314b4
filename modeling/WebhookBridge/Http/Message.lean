import WebhookBridge.Url.Basic

/-!
# Requests, responses and peers

What goes out to a peer and what comes back. A peer is known only by its answers: it answers the last of the requests
that it has seen so far.

## Contents

* `HttpMethod`, `HttpRequest`: a request;
* `HttpResponse`, `HttpResponse.header?`: a response;
* `PeerReply`, `Peer`: everything that can come of a request.
-/

namespace WebhookBridge

/-- The methods of requests. -/
inductive HttpMethod where
  | post
  | get
  deriving DecidableEq, Repr

/-- The name of a method. -/
def HttpMethod.name : HttpMethod → Text
  | .post => "POST"
  | .get => "GET"

/-- A request with a JSON body. The host is written as the `Host` header has it. -/
structure HttpRequest where
  method : HttpMethod
  url : Url
  host : Text
  content : Octets
  contentLength : Option Nat
  authorization : Option Text
  cookie : Option Text
  deriving DecidableEq, Repr

/-- The content type of every request. -/
def HttpRequest.contentType : Text := "application/json"

/-- A response. Names of headers may come in any case and more than once. The content is what the client hands on: a
    coding in which it was sent has been undone. -/
structure HttpResponse where
  status : Int
  headers : List (Text × Text)
  content : Octets
  deriving DecidableEq, Repr, Inhabited

namespace HttpResponse

/-- The values of a header, in order. -/
def headerValues (r : HttpResponse) (name : Text) : List Text :=
  (r.headers.filter fun h => h.1.toAsciiLower = name.toAsciiLower).map (·.2)

/-- The value of a header that is present; several values are listed with commas. -/
def header? (r : HttpResponse) (name : Text) : Option Text :=
  match r.headerValues name with
  | [] => none
  | values => some (Text.join ", " values)

end HttpResponse

/-- What comes of a request: a response, silence, a time limit of the connection, a named failure of the connection, or
    a failure that is no business of the connection. A response in a coding that cannot be undone is a failure of the
    connection. -/
inductive PeerReply where
  | response (r : HttpResponse)
  | silence
  | timedOut
  | failed (name message : Text)
  | broke (message : Text)

/-- A peer: what comes of the last of a series of requests. -/
abbrev Peer := List HttpRequest → PeerReply

end WebhookBridge
