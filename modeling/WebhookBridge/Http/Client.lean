import WebhookBridge.Defect
import WebhookBridge.Http.Cookie
import WebhookBridge.Text.Base64

/-!
# The HTTP client

The client posts JSON to a URL and follows where the peer sends it on. Its requests carry the cookies that earlier
responses asked for, and the credentials of the URL as long as they go to the same place.

## Contents

* `ExchangeFault`: why an exchange has no response;
* `firstRequest`: the request that opens an exchange;
* `redirectTarget`, `redirectedRequest`: the request that answers a redirect;
* `exchange`: a whole exchange with a peer.
-/

namespace WebhookBridge

/-! ## Faults -/

/-- Why an exchange ends without a response: the peer is silent until the time limit, the connection reports a time
    limit of its own, it fails with a text, or a defect is met. -/
inductive ExchangeFault where
  | silence
  | timedOut
  | failed (reason : Text)
  | met (defect : Defect)

namespace ExchangeFault

/-- A URL fault as a fault of the exchange. -/
def ofUrl : UrlFault → ExchangeFault
  | .invalid error => .failed error.message
  | .surrogate fault => .met (.surrogate fault)

/-- A host name error as a fault of the exchange. -/
def ofHostname (e : HostnameError) : ExchangeFault := .met (.hostname e.message)

/-- Whether the fault shows only when the time limit has passed. -/
def isLate : ExchangeFault → Bool
  | .silence => true
  | _ => false

/-- A failure with a name, which stands in place of a missing text. -/
def named (name message : Text) : ExchangeFault := .failed (if message.isEmpty then name else message)

end ExchangeFault

/-! ## Requests -/

/-- The credentials that a URL carries, as a header. -/
def credentials? (u : Url) : Option Text :=
  let (name, password) := match u.user.splitFirst? (CodePoint.ofChar ':') with
    | some (name, password) => (percentDecode name, percentDecode password)
    | none => (percentDecode u.user, [])
  if name.isEmpty && password.isEmpty then none
  else some (("Basic " : Text) ++ base64 (Utf8.encode (name ++ ":" ++ password)))

/-- The URL that a text asks a request for; a text without scheme or host asks for a path of no host. -/
def requestUrl (t : Text) : Except ExchangeFault Url := (Url.parseUnder Url.empty t).mapError ExchangeFault.ofUrl

/-- The cookie header of a request. A request to a URL without a scheme cannot be judged, which matters as soon as
    there are cookies. -/
def cookieHeader (now : Moment) (jar : CookieJar) (u : Url) : Except ExchangeFault (Option Text) :=
  if jar.toList.isEmpty then .ok none
  else if u.scheme.isEmpty then .error (.met (.missingScheme u.text))
  else .ok (jar.header? now (CookieOrigin.ofUrl u))

/-- The request that opens an exchange. -/
def firstRequest (now : Moment) (jar : CookieJar) (url : Text) (content : Octets) :
    Except ExchangeFault HttpRequest := do
  let u ← requestUrl url
  let cookie ← cookieHeader now jar u
  let _ ← u.hostName.mapError ExchangeFault.ofHostname
  return {
    method := .post
    url := u
    host := u.hostAndPort
    content := content
    contentLength := some content.length
    authorization := credentials? u
    cookie := cookie }

/-! ## Redirects -/

/-- The statuses of redirects. -/
def redirectStatuses : List Int := [301, 302, 303, 307, 308]

/-- Where a response sends a request on to, if it does. -/
def redirectLocation? (r : HttpResponse) : Option Text :=
  if redirectStatuses.contains r.status then r.header? "location" else none

/-- The method of the next request: a redirect that need not repeat the request becomes a query. -/
def redirectMethod (method : HttpMethod) (status : Int) : HttpMethod :=
  if status = 301 ∨ status = 302 ∨ status = 303 then .get else method

/-- The URL of the next request. -/
def redirectTarget (u : Url) (location : Text) : Except ExchangeFault Url := do
  let target ← match Url.parse location with
    | .ok target => pure target
    | .error (.invalid error) =>
      throw (.failed (("Invalid URL in location header: " : Text) ++ error.message ++ "."))
    | .error (.surrogate fault) => throw (.met (.surrogate fault))
  let target ←
    if target.scheme.isEmpty then pure target
    else do
      let host ← target.hostName.mapError ExchangeFault.ofHostname
      if host.isEmpty then do
        let own ← u.hostName.mapError ExchangeFault.ofHostname
        (target.withHost own).mapError ExchangeFault.ofUrl
      else pure target
  let target ←
    if target.isAbsolute then pure target
    else (Url.parse (resolve u.text target.text)).mapError ExchangeFault.ofUrl
  let fragment := percentDecode (u.fragment.getD [])
  if fragment.isEmpty || !(percentDecode (target.fragment.getD [])).isEmpty then return target
  (target.withFragment fragment).mapError ExchangeFault.ofUrl

/-- The request that answers a redirect. Away from its place a request loses its credentials, unless the connection is
    only secured. -/
def redirectedRequest (now : Moment) (jar : CookieJar) (request : HttpRequest) (status : Int) (location : Text) :
    Except ExchangeFault HttpRequest := do
  let method := redirectMethod request.method status
  let target ← redirectTarget request.url location
  let same ← (target.sameOrigin request.url).mapError ExchangeFault.ofHostname
  let secured ← if same then pure true else (request.url.securesConnection target).mapError ExchangeFault.ofHostname
  let cookie ← cookieHeader now jar target
  let repeated := method = request.method
  return {
    method := method
    url := target
    host := if same then request.host else target.hostAndPort
    content := if repeated then request.content else []
    contentLength := if repeated then request.contentLength else none
    authorization := if secured then request.authorization else none
    cookie := cookie }

/-! ## Exchanges -/

/-- What an exchange comes to: the last response or a fault, the requests that went out, and the cookies after it. -/
structure Exchange where
  result : Except ExchangeFault HttpResponse
  sent : List HttpRequest
  jar : CookieJar

/-- The schemes that a connection can be made for. -/
def supportedSchemes : List Text := ["http", "https", "ws", "wss"]

/-- Why no connection can be made for a scheme. -/
def unsupportedScheme (scheme : Text) : Text :=
  if scheme.isEmpty then "Request URL is missing an 'http://' or 'https://' protocol."
  else ("Request URL has an unsupported protocol '" : Text) ++ scheme ++ "://'."

/-- The rest of an exchange, in which at most `hops` requests may still go out. -/
def exchangeFrom (peer : Peer) (now : Moment) :
    (hops : Nat) → CookieJar → List HttpRequest → HttpRequest → Exchange
  | 0, jar, sent, _ => ⟨.error (.failed "Exceeded maximum allowed redirects."), sent, jar⟩
  | hops + 1, jar, sent, request =>
    if !supportedSchemes.contains request.url.scheme then
      ⟨.error (.failed (unsupportedScheme request.url.scheme)), sent, jar⟩
    else
      let sent := sent ++ [request]
      match peer sent with
      | .silence => ⟨.error .silence, sent, jar⟩
      | .timedOut => ⟨.error .timedOut, sent, jar⟩
      | .failed name message => ⟨.error (.named name message), sent, jar⟩
      | .broke message => ⟨.error (.met (.other message)), sent, jar⟩
      | .response r =>
        let jar := jar.receive now (CookieOrigin.ofUrl request.url) r
        match redirectLocation? r with
        | none => ⟨.ok r, sent, jar⟩
        | some location =>
          match redirectedRequest now jar request r.status location with
          | .error fault => ⟨.error fault, sent, jar⟩
          | .ok next => exchangeFrom peer now hops jar sent next

/-- The greatest number of requests of an exchange. -/
def maxHops : Nat := 21

/-- A whole exchange: content is posted to a URL. A closed client sends nothing. -/
def exchange (peer : Peer) (now : Moment) (isOpen : Bool) (jar : CookieJar) (url : Text) (content : Octets) :
    Exchange :=
  match firstRequest now jar url content with
  | .error fault => ⟨.error fault, [], jar⟩
  | .ok request =>
    if isOpen then exchangeFrom peer now maxHops jar [] request else ⟨.error (.met .clientClosed), [], jar⟩

end WebhookBridge
