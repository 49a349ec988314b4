import WebhookBridge.Json.Printer
import WebhookBridge.Url.Basic
import WebhookBridge.Webhook.Ingress
import WebhookBridge.Webhook.Route

/-!
# The webhook application

Calls to the endpoint are answered at once, with 202 if the body is accepted and 400 if it is no JSON document. Beside
the endpoint stands a route that tells that the bridge is up. A path that fits a route but for a slash at its end is
sent on.

## Contents

* `WebRequest`, `WebAnswer`: what comes in and what goes out;
* `WebApp`: the routes;
* `WebApp.answer`: the answer to a request, and the body that is to be published after it.
-/

namespace WebhookBridge

/-- An incoming request. Its path is decoded. -/
structure WebRequest where
  method : Text
  scheme : Text
  host : Text
  path : Text
  query : Option Text
  body : Octets

/-- The request for a URL. -/
def WebRequest.ofUrl (method : Text) (u : Url) (body : Octets) : WebRequest :=
  ⟨method, u.scheme, u.hostAndPort, percentDecode (if u.path.isEmpty then "/" else u.path), u.query, body⟩

/-- The answer to a request. -/
structure WebAnswer where
  status : Nat
  body : Text
  contentType : Option Text
  allow : Option Text
  location : Option Text
  deriving DecidableEq, Repr

namespace WebAnswer

/-- An answer without a body. -/
def bare (status : Nat) : WebAnswer := ⟨status, [], none, none, none⟩

/-- An answer with a JSON body, which is given as a text. -/
def json (status : Nat) (body : Text) : WebAnswer := ⟨status, body, some "application/json", none, none⟩

/-- The answer to an accepted call. -/
def accepted : WebAnswer := bare 202

/-- The answer to a call whose body is not accepted. -/
def rejected : WebAnswer :=
  json 400 (("\x7b\"error\":\x7b\"message\":" : Text) ++ Json.printString AcceptFault.payloadExpected.message ++
    "\x7d\x7d")

/-- The answer where no route leads. -/
def notFound : WebAnswer := json 404 "\x7b\"detail\":\"Not Found\"\x7d"

/-- The answer where a route leads for another method. -/
def methodNotAllowed (method : Text) : WebAnswer :=
  { json 405 "\x7b\"detail\":\"Method Not Allowed\"\x7d" with allow := some method }

/-- The answer to a question whether the bridge is up. -/
def healthy : WebAnswer := json 200 "\x7b\"status\":\"ok\"\x7d"

/-- The answer where answering failed. -/
def failed : WebAnswer :=
  { bare 500 with body := "Internal Server Error", contentType := some "text/plain; charset=utf-8" }

/-- The answer that sends a request on. -/
def redirect (location : Text) : WebAnswer := { bare 307 with location := some location }

end WebAnswer

/-- The application: the pattern of its endpoint. -/
structure WebApp where
  endpoint : RoutePattern

/-- What a route leads to. -/
inductive RouteTarget where
  | health
  | webhook
  deriving DecidableEq, Repr

namespace WebApp

/-- The application with an endpoint. -/
def create (endpoint : Text) : Except RouteError WebApp := (RoutePattern.parse endpoint).map fun p => ⟨p⟩

/-- The pattern of the route that tells that the bridge is up. -/
def healthPattern : RoutePattern := [.literal "/health"]

/-- The routes in the order in which they are tried: method, pattern and target. -/
def routes (app : WebApp) : List (Text × RoutePattern × RouteTarget) :=
  [("GET", healthPattern, .health), ("POST", app.endpoint, .webhook)]

/-- The answer to a call of the endpoint, and the accepted body. -/
def answerCall (body : Octets) : WebAnswer × Option Json :=
  match Ingress.accept body with
  | .ok v => (.accepted, some v)
  | .error .payloadExpected => (.rejected, none)
  | .error .tooDeep => (.failed, none)

/-- Whether a code point stands for itself in a location. -/
def isLocationSafe (c : CodePoint) : Bool := (Text.ofString ":/%#?=@[]!$&'()*+,;").contains c

/-- The path with a slash more or with no slash at its end. -/
def toggleSlash (path : Text) : Text :=
  if path.getLast? = some (CodePoint.ofChar '/') then path.trimRight (· = CodePoint.ofChar '/') else path ++ "/"

/-- Where a request is sent on to if its path fits no route. -/
def redirection? (app : WebApp) (r : WebRequest) : Option Text :=
  let path := toggleSlash r.path
  if r.path = ("/" : Text) ∨ !app.routes.any (fun (_, p, _) => p.fits path) then none
  else
    let url := r.scheme ++ "://" ++ r.host ++ path ++
      (match r.query with
        | some (c :: rest) => ("?" : Text) ++ (c :: rest)
        | _ => [])
    some ((percentEncode isLocationSafe url).toOption.getD url)

/-- The answer to a request, and the body that is to be published after it. -/
def answer (app : WebApp) (r : WebRequest) : WebAnswer × Option Json :=
  match app.routes.filter fun (_, p, _) => p.fits r.path with
  | [] => match app.redirection? r with
    | some location => (.redirect location, none)
    | none => (.notFound, none)
  | first :: others =>
    match (first :: others).find? fun (method, _) => method = r.method with
    | some (_, _, .health) => (.healthy, none)
    | some (_, _, .webhook) => answerCall r.body
    | none => (.methodNotAllowed first.1, none)

/-- The answer as its caller sees it: a request for the head alone has no body. -/
def visibleAnswer (app : WebApp) (r : WebRequest) : WebAnswer × Option Json :=
  let (a, body) := app.answer r
  (if r.method = ("HEAD" : Text) then { a with body := [] } else a, body)

end WebApp

end WebhookBridge
