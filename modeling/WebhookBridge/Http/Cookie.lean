import WebhookBridge.Http.Date
import WebhookBridge.Http.Message
import WebhookBridge.Table
import WebhookBridge.Url.Resolve

/-!
# Cookies

A response may ask for cookies to be kept, and later requests carry them back to where they belong. A cookie belongs to
a domain and a path, and may be bound to ports and to secure connections.

## Contents

* `Cookie`, `CookieJar`: cookies by domain, path and name;
* `CookieOrigin`: what of a request decides about cookies;
* `CookieAttributes`, `CookieAttributes.cut`: a cookie as a header asks for it;
* `Cookie.admitted`, `Cookie.returned`: whether a cookie is kept, and whether it is sent;
* `CookieJar.receive`, `CookieJar.header?`: the jar after a response, and the header of a request.
-/

namespace WebhookBridge

/-- A cookie. The domain starts with a dot if the header named it. -/
structure Cookie where
  name : Text
  value : Option Text
  version : Int
  ports : Option Text
  portsNamed : Bool
  domain : Text
  domainNamed : Bool
  path : Text
  secure : Bool
  expires : Option Int
  deriving DecidableEq, Repr

/-- Cookies by domain, path and name, in order of arrival. -/
abbrev CookieJar := Table (Table (Table Cookie))

/-- The time that cookies are judged at: seconds since the year 1970 began, and the year. -/
structure Moment where
  seconds : Int
  year : Nat
  deriving DecidableEq, Repr

namespace CookieJar

/-- Every cookie, in order. -/
def toList (jar : CookieJar) : List Cookie :=
  jar.flatMap fun (_, paths) => paths.flatMap fun (_, names) => names.map (·.2)

/-- The jar with a cookie, in place of one of its domain, path and name. -/
def keep (c : Cookie) (jar : CookieJar) : CookieJar :=
  let paths := (Table.get? c.domain jar).getD []
  let names := (Table.get? c.path paths).getD []
  jar.put c.domain (paths.put c.path (names.put c.name c))

/-- The jar without the cookie of a domain, path and name. -/
def drop (domain path name : Text) (jar : CookieJar) : CookieJar :=
  match Table.get? domain jar with
  | none => jar
  | some paths =>
    match Table.get? path paths with
    | none => jar
    | some names => jar.put domain (paths.put path (names.erase name))

end CookieJar

/-! ## Requests -/

/-- What of a request decides about cookies: its scheme, its host in small letters, a name for the host that has a dot,
    the port if it is a number, and the path. -/
structure CookieOrigin where
  scheme : Text
  host : Text
  dottedHost : Text
  port : Text
  path : Text
  deriving DecidableEq, Repr

namespace CookieOrigin

/-- An authority without the port at its end. -/
def cutPort (authority : Text) : Text :=
  match authority.splitLast? (CodePoint.ofChar ':') with
  | some (before, port) => if !port.isEmpty && port.all CodePoint.isAsciiDigit then before else authority
  | none => authority

/-- Whether a code point may stand in the path of a cookie. -/
def isCookiePathSafe (c : CodePoint) : Bool := (Text.ofString "%/;:@&=+$,!~*'()").contains c

/-- The digits behind percent signs as capitals. -/
def capitalizeEscapes : Text → Text
  | [] => []
  | c :: rest =>
    match rest with
    | a :: b :: tail =>
      if c = CodePoint.ofChar '%' ∧ a.hexValue?.isSome ∧ b.hexValue?.isSome then
        c :: a.toAsciiUpper :: b.toAsciiUpper :: capitalizeEscapes tail
      else c :: capitalizeEscapes (a :: b :: tail)
    | short => c :: short

/-- A path as cookies have it. -/
def escapePath (path : Text) : Text :=
  capitalizeEscapes ((percentEncode isCookiePathSafe path).toOption.getD path)

/-- The port that an authority says: what stands behind its first colon, if it is a number. -/
def portOf (authority : Text) : Text :=
  match (percentDecode authority).splitFirst? (CodePoint.ofChar ':') with
  | some (_, port) => if (Whole.read? port).isSome then port else "80"
  | none => "80"

/-- What a request to a URL says. -/
def ofUrl (u : Url) : CookieOrigin :=
  let r := Reference.cut [] u.text
  let host := (cutPort u.authority).toAsciiLower
  let path := escapePath (r.path ++ Reference.marked ";" r.parameters)
  { scheme := u.scheme
    host := host
    dottedHost := if host.contains (CodePoint.ofChar '.') then host else host ++ ".local"
    port := portOf u.authority
    path := if path.head? = some (CodePoint.ofChar '/') then path else ("/" : Text) ++ path }

end CookieOrigin

/-! ## Headers that ask for cookies -/

/-- A cookie as a header asks for it: its name and value, and its attributes in order. -/
structure CookieAttributes where
  name : Text
  value : Option Text
  attributes : List (Text × Option Text)
  deriving DecidableEq, Repr

namespace CookieAttributes

/-- A name and a value around the first equals sign, without blanks. -/
def cutPair (t : Text) : Text × Option Text :=
  let t := t.trim HttpDate.isBlank
  match t.splitFirst? (CodePoint.ofChar '=') with
  | some (name, value) => (name.trim HttpDate.isBlank, some (value.trim HttpDate.isBlank))
  | none => (t.trim HttpDate.isBlank, none)

/-- The cookie that a header asks for, unless its name is missing. -/
def cut? (header : Text) : Option CookieAttributes :=
  match (header.splitOn (CodePoint.ofChar ';')).map cutPair with
  | [] => none
  | (name, value) :: rest => if name.isEmpty then none else some ⟨name, value, rest.filter fun p => !p.1.isEmpty⟩

/-- A text without a quotation mark at either end. -/
def unquote (t : Text) : Text :=
  let t := (Text.dropPrefix? "\"" t).getD t
  if t.getLast? = some (CodePoint.ofChar '"') then t.dropLast else t

end CookieAttributes

/-- What the attributes of a cookie say, as far as they have been read; of an attribute that comes again, the first
    counts. -/
structure CookieTerms where
  version : Option Text
  expires : Option Int
  ageSet : Bool
  domain : Option Text
  path : Option Text
  ports : Option (Option Text)
  secure : Option Bool
  deriving DecidableEq, Repr, Inhabited

/-- What comes of reading an attribute: the terms, or that the cookie is not valid, or that none of the response's
    cookies is. -/
inductive TermsResult where
  | terms (t : CookieTerms)
  | badCookie
  | badResponse

/-- The terms after one more attribute. -/
def CookieTerms.read (now : Moment) (t : CookieTerms) (name : Text) (value : Option Text) : TermsResult :=
  let key := name.toAsciiLower
  if key = ("version" : Text) then
    if t.version.isSome then .terms t
    else match value with
      | some v => .terms { t with version := some (CookieAttributes.unquote v) }
      | none => .badCookie
  else if key = ("expires" : Text) then
    if t.expires.isSome ∨ t.ageSet then .terms t
    else match value.bind fun v => HttpDate.readDate? now.year (CookieAttributes.unquote v) with
      | some seconds => .terms { t with expires := some seconds }
      | none => .terms t
  else if key = ("max-age" : Text) then
    match value with
    | none => .badResponse
    | some v => match Whole.read? v with
      | none => .badCookie
      | some age => .terms { t with ageSet := true, expires := some (now.seconds + age) }
  else if key = ("domain" : Text) then
    if t.domain.isSome then .terms t
    else match value with
      | none => .badCookie
      | some v => .terms { t with domain := some v.toAsciiLower }
  else if key = ("path" : Text) then
    if t.path.isSome then .terms t
    else match value with
      | none => .badCookie
      | some v => .terms { t with path := some v }
  else if key = ("port" : Text) then
    if t.ports.isSome then .terms t else .terms { t with ports := some value }
  else if key = ("secure" : Text) then
    if t.secure.isSome then .terms t
    else .terms { t with secure := some (match value with
      | none => true
      | some v => !v.isEmpty) }
  else .terms t

/-- The terms of all attributes. -/
def CookieTerms.readAll (now : Moment) (t : CookieTerms) : List (Text × Option Text) → TermsResult
  | [] => .terms t
  | (name, value) :: rest =>
    match t.read now name value with
    | .terms t => t.readAll now rest
    | other => other

/-! ## What is kept, and what is sent -/

namespace Cookie

/-- The path that a cookie belongs to if its header names none: the request's path up to its last slash. -/
def defaultPath (origin : CookieOrigin) (version : Int) : Text :=
  let directory := match origin.path.splitLast? (CodePoint.ofChar '/') with
    | some (before, _) => if version = 0 then before else before ++ [CodePoint.ofChar '/']
    | none => origin.path
  if directory.isEmpty then "/" else directory

/-- The cookie that terms describe; none if its version is no number. -/
def ofTerms? (origin : CookieOrigin) (asked : CookieAttributes) (t : CookieTerms) : Option Cookie := do
  let version ← Whole.read? (t.version.getD "0")
  return {
    name := asked.name
    value := asked.value
    version := version
    ports := t.ports.map fun ports => match ports with
      | some named => named.filter fun c => !HttpDate.isBlank c
      | none => origin.port
    portsNamed := (t.ports.bind id).isSome
    domain := match t.domain with
      | some domain => if domain.head? = some (CodePoint.ofChar '.') then domain else ("." : Text) ++ domain
      | none => origin.dottedHost
    domainNamed := t.domain.isSome
    path := match t.path with
      | some (c :: rest) => CookieOrigin.escapePath (c :: rest)
      | _ => defaultPath origin version
    secure := t.secure.getD false
    expires := t.expires }

/-- Whether one of the ports of a cookie is the request's; ports that are no numbers spoil the list when `strict`. -/
def fitsPort (strict : Bool) (port : Text) : List Text → Bool
  | [] => false
  | p :: rest => if strict && (Whole.read? p).isNone then false else p = port || fitsPort strict port rest

/-- Whether `suffix` ends a text. -/
def endsWith (suffix t : Text) : Bool := suffix.isSuffixOf t

/-- Whether a domain may be named by a host. -/
def domainAdmitted (c : Cookie) (origin : CookieOrigin) : Bool :=
  let bare := c.domain.drop 1
  let host := origin.dottedHost
  (bare.contains (CodePoint.ofChar '.') || endsWith ".local" host) &&
    (c.version ≠ 0 || endsWith c.domain host || endsWith (bare ++ ".local") host ||
      host.head? = some (CodePoint.ofChar '.') || endsWith c.domain (("." : Text) ++ host))

/-- Whether a cookie is kept when a request brought it. -/
def admitted (c : Cookie) (origin : CookieOrigin) : Bool :=
  c.version ≤ 0 && (!c.domainNamed || c.domainAdmitted origin) &&
    (!c.portsNamed || fitsPort true origin.port ((c.ports.getD []).splitOn (CodePoint.ofChar ',')))

/-- A domain with a dot in front. -/
def dotted (domain : Text) : Text :=
  if domain.isEmpty || domain.head? = some (CodePoint.ofChar '.') then domain else ("." : Text) ++ domain

/-- Whether a cookie goes to a path. -/
def pathReturned (c : Cookie) (origin : CookieOrigin) : Bool :=
  origin.path = c.path ||
    (c.path.isPrefixOf origin.path &&
      (c.path.getLast? = some (CodePoint.ofChar '/') ||
        (origin.path.drop c.path.length).head? = some (CodePoint.ofChar '/')))

/-- Whether a cookie is sent with a request. -/
def returned (c : Cookie) (origin : CookieOrigin) (now : Moment) : Bool :=
  (endsWith (dotted c.domain) (dotted origin.host) || endsWith (dotted c.domain) (dotted origin.dottedHost)) &&
    c.pathReturned origin &&
    (!c.secure || origin.scheme = ("https" : Text) || origin.scheme = ("wss" : Text)) &&
    (match c.expires with
      | some seconds => now.seconds < seconds
      | none => true) &&
    (match c.ports with
      | some (p :: rest) => fitsPort false origin.port (Text.splitOn (CodePoint.ofChar ',') (p :: rest))
      | _ => true) &&
    (c.version ≠ 0 || endsWith (dotted c.domain) (("." : Text) ++ origin.dottedHost))

/-- A cookie as a request carries it. -/
def text (c : Cookie) : Text :=
  match c.value with
  | some value => c.name ++ "=" ++ value
  | none => c.name

end Cookie

namespace CookieJar

/-- The terms of the cookies of a response, leaving out cookies that are not valid; none if the response spoils them
    all. -/
def termsOf? (now : Moment) : List CookieAttributes → Option (List (CookieAttributes × CookieTerms))
  | [] => some []
  | asked :: rest =>
    match CookieTerms.readAll now default asked.attributes with
    | .terms t => (termsOf? now rest).map ((asked, t) :: ·)
    | .badCookie => termsOf? now rest
    | .badResponse => none

/-- The cookies that terms describe, and the jar without those that have run out. -/
def offered (now : Moment) (origin : CookieOrigin) (jar : CookieJar) :
    List (CookieAttributes × CookieTerms) → List Cookie × CookieJar
  | [] => ([], jar)
  | (asked, t) :: rest =>
    match Cookie.ofTerms? origin asked t with
    | none => offered now origin jar rest
    | some c =>
      if (c.expires.map fun seconds => decide (seconds ≤ now.seconds)).getD false then
        offered now origin (jar.drop c.domain c.path c.name) rest
      else
        let (cookies, jar) := offered now origin jar rest
        ({ c with version := if c.version = 1 then 0 else c.version } :: cookies, jar)

/-- The jar after a response to a request. -/
def receive (now : Moment) (origin : CookieOrigin) (response : HttpResponse) (jar : CookieJar) : CookieJar :=
  let asked := (response.headerValues "set-cookie").filterMap CookieAttributes.cut?
  match termsOf? now asked with
  | none => jar
  | some terms =>
    let (cookies, jar) := offered now origin jar terms
    (cookies.filter fun c => c.admitted origin).foldl (fun jar c => jar.keep c) jar

/-- The header that carries the cookies of a request, those with longer paths first. -/
def header? (now : Moment) (origin : CookieOrigin) (jar : CookieJar) : Option Text :=
  let cookies := jar.toList.filter fun c => c.returned origin now
  match cookies.mergeSort fun a b => b.path.length ≤ a.path.length with
  | [] => none
  | sorted => some (Text.join "; " (sorted.map Cookie.text))

end CookieJar

end WebhookBridge
