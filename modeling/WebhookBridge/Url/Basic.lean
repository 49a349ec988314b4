import WebhookBridge.Number.Whole
import WebhookBridge.Text.LowerCase
import WebhookBridge.Url.Hostname
import WebhookBridge.Url.Ip
import WebhookBridge.Url.Percent

/-!
# URLs

A URL is read in two steps: its text is cut into parts at the marks that separate them, and the parts are checked and
brought into their written form. A URL may lack a scheme, a host or both; it is then a reference that means something
only beside another URL.

## Contents

* `Url`, `Url.text`: the parts of a URL in their written form, and the URL that they make;
* `UrlError`, `UrlFault`: why a text is no URL;
* `UrlParts`, `UrlParts.cut`, `UrlParts.normalize`: the two steps;
* `Url.parse`, `Url.parseUnder`: a URL from its text;
* `Url.hostName`, `Url.sameOrigin`, `Url.securesConnection`: what a URL says of where a request goes.
-/

namespace WebhookBridge

/-! ## URLs and their texts -/

/-- A URL in parts, each in its written form. -/
structure Url where
  scheme : Text
  user : Text
  host : Text
  port : Option Int
  path : Text
  query : Option Text
  fragment : Option Text
  deriving DecidableEq, Repr, Inhabited

namespace Url

/-- A host where a port may follow: an address of eight groups stands in brackets. -/
def bracketed (host : Text) : Text :=
  if host.contains (CodePoint.ofChar ':') then ("[" : Text) ++ host ++ "]" else host

/-- The host and the port. -/
def hostAndPort (u : Url) : Text :=
  bracketed u.host ++
    (match u.port with
      | some port => (":" : Text) ++ Text.ofInt port
      | none => [])

/-- The user, the host and the port. -/
def authority (u : Url) : Text := (if u.user.isEmpty then ([] : Text) else u.user ++ "@") ++ u.hostAndPort

/-- The path and the query. -/
def target (u : Url) : Text :=
  (if u.path.isEmpty then ("/" : Text) else u.path) ++
    (match u.query with
      | some query => ("?" : Text) ++ query
      | none => [])

/-- The text of a URL. -/
def text (u : Url) : Text :=
  (if u.scheme.isEmpty then ([] : Text) else u.scheme ++ ":") ++
    (if u.authority.isEmpty then ([] : Text) else ("//" : Text) ++ u.authority) ++ u.path ++
    (match u.query with
      | some query => ("?" : Text) ++ query
      | none => []) ++
    (match u.fragment with
      | some fragment => ("#" : Text) ++ fragment
      | none => [])

/-- Whether the URL has a scheme and a host. -/
def isAbsolute (u : Url) : Bool := !u.scheme.isEmpty && !u.host.isEmpty

end Url

/-! ## Errors -/

/-- The parts of a URL that may be given by themselves. -/
inductive UrlPart where
  | authority
  | path
  | query
  | fragment
  deriving DecidableEq, Repr

/-- The name of a part in messages. -/
def UrlPart.name : UrlPart → Text
  | .authority => "authority"
  | .path => "path"
  | .query => "query"
  | .fragment => "fragment"

/-- Why a text is no URL. -/
inductive UrlError where
  | tooLong
  | partTooLong (part : UrlPart)
  | control (c : CodePoint) (position : Nat)
  | controlIn (part : UrlPart) (c : CodePoint) (position : Nat)
  | port (written : Text)
  | addressOfFour (host : Text)
  | addressOfEight (host : Text)
  | hostname (host : Text)
  | pathWithoutSlash
  | pathLikeAuthority
  | pathLikeScheme
  deriving DecidableEq, Repr

/-- The text of a URL error. -/
def UrlError.message : UrlError → Text
  | .tooLong => "URL too long"
  | .partTooLong part => ("URL component '" : Text) ++ part.name ++ "' too long"
  | .control c position =>
    ("Invalid non-printable ASCII character in URL, " : Text) ++ Text.quoted [c] ++ " at position " ++
      Text.ofNat position ++ "."
  | .controlIn part c position =>
    ("Invalid non-printable ASCII character in URL " : Text) ++ part.name ++ " component, " ++ Text.quoted [c] ++
      " at position " ++ Text.ofNat position ++ "."
  | .port written => ("Invalid port: " : Text) ++ written.quoted
  | .addressOfFour host => ("Invalid IPv4 address: " : Text) ++ host.quoted
  | .addressOfEight host => ("Invalid IPv6 address: " : Text) ++ host.quoted
  | .hostname host => ("Invalid IDNA hostname: " : Text) ++ host.quoted
  | .pathWithoutSlash => "For absolute URLs, path must be empty or begin with '/'"
  | .pathLikeAuthority => "Relative URLs cannot have a path starting with '//'"
  | .pathLikeScheme => "Relative URLs cannot have a path starting with ':'"

/-- What can go wrong with a URL: its text is none, or it holds a surrogate that cannot be written. -/
inductive UrlFault where
  | invalid (error : UrlError)
  | surrogate (fault : SurrogateFault)
  deriving DecidableEq, Repr

/-! ## Cutting a text into parts -/

/-- The parts of a URL as they are written in its text. -/
structure UrlParts where
  scheme : Text
  user : Text
  host : Text
  port : Text
  path : Text
  query : Option Text
  fragment : Option Text
  deriving DecidableEq, Repr, Inhabited

namespace UrlParts

/-- Whether a code point may stand in a scheme behind its first letter. -/
def isSchemeTail (c : CodePoint) : Bool :=
  c.isAsciiLetter || c.isAsciiDigit || c = CodePoint.ofChar '+' || c = CodePoint.ofChar '.' ||
    c = CodePoint.ofChar '-'

/-- Whether a text is a scheme; no text at all is one. -/
def isScheme : Text → Bool
  | [] => true
  | c :: rest => c.isAsciiLetter && rest.all isSchemeTail

/-- The scheme in front of the first colon, and what follows it. -/
def cutScheme (t : Text) : Text × Text :=
  match t.splitFirst? (CodePoint.ofChar ':') with
  | some (scheme, rest) => if isScheme scheme then (scheme, rest) else ([], t)
  | none => ([], t)

/-- Whether a code point ends an authority. -/
def endsAuthority (c : CodePoint) : Bool :=
  c = CodePoint.ofChar '/' || c = CodePoint.ofChar '?' || c = CodePoint.ofChar '#'

/-- The authority behind two slashes, and what follows it. -/
def cutAuthority (t : Text) : Text × Text :=
  match Text.dropPrefix? "//" t with
  | some rest => (rest.takeWhile fun c => !endsAuthority c, rest.dropWhile fun c => !endsAuthority c)
  | none => ([], t)

/-- The parts before and after the first occurrence of a mark, if it occurs. -/
def cutAt (mark : CodePoint) (t : Text) : Text × Option Text :=
  match t.splitFirst? mark with
  | some (before, after) => (before, some after)
  | none => (t, none)

/-- The user of an authority: what stands before the last at sign. -/
def cutUser (authority : Text) : Text × Text :=
  match authority.splitLast? (CodePoint.ofChar '@') with
  | some (user, rest) => (user, rest)
  | none => ([], authority)

/-- The host and the port of an authority without a user: a host that opens with a bracket reaches to the last closing
    one, any other to the first colon. -/
def cutHost (t : Text) : Text × Text :=
  let plain := (t.takeWhile (· ≠ CodePoint.ofChar ':'), t.dropWhile (· ≠ CodePoint.ofChar ':'))
  let (host, rest) :=
    match t with
    | c :: _ =>
      if c = CodePoint.ofChar '[' then
        match t.splitLast? (CodePoint.ofChar ']') with
        | some (before, after) => (before ++ [CodePoint.ofChar ']'], after)
        | none => plain
      else plain
    | [] => plain
  (host, (Text.dropPrefix? ":" rest).getD rest)

/-- The parts of a text. -/
def cut (t : Text) : UrlParts :=
  let (scheme, t) := cutScheme t
  let (authority, t) := cutAuthority t
  let (t, fragment) := cutAt (CodePoint.ofChar '#') t
  let (path, query) := cutAt (CodePoint.ofChar '?') t
  let (user, t) := cutUser authority
  let (host, port) := cutHost t
  ⟨scheme, user, host, port, path, query, fragment⟩

/-! ## Bringing parts into their written form -/

/-- Whether a code point is a printable ASCII character that may stand in a fragment. -/
def isFragmentSafe (c : CodePoint) : Bool :=
  0x20 < c.val && c.val < 0x7F && c.val ≠ 0x22 && c.val ≠ 0x3C && c.val ≠ 0x3E && c.val ≠ 0x60

/-- Whether a code point is a printable ASCII character that may stand in a query. -/
def isQuerySafe (c : CodePoint) : Bool :=
  0x20 < c.val && c.val < 0x7F && c.val ≠ 0x22 && c.val ≠ 0x23 && c.val ≠ 0x3C && c.val ≠ 0x3E

/-- Whether a code point is a printable ASCII character that may stand in a path. -/
def isPathSafe (c : CodePoint) : Bool :=
  isQuerySafe c && c.val ≠ 0x3F && c.val ≠ 0x60 && c.val ≠ 0x7B && c.val ≠ 0x7D

/-- Whether a code point is a printable ASCII character that may stand in a user. -/
def isUserSafe (c : CodePoint) : Bool :=
  isPathSafe c && c.val ≠ 0x2F && c.val ≠ 0x3B && c.val ≠ 0x3D && c.val ≠ 0x40 &&
    !(0x5B ≤ c.val && c.val ≤ 0x5E) && c.val ≠ 0x7C

/-- Whether a code point may stand in a host. -/
def isHostSafe (c : CodePoint) : Bool := (Text.ofString "!$&'()*+,;=\"`\x7b\x7d%|\\").contains c

/-- Where a code point leads from a place in the pattern of four runs of digits with one code point between neighbours.
    Run `i` is awaited at place `2 * i` and has begun at place `2 * i + 1`. -/
def fourRunsStep (c : CodePoint) (place : Nat) : List Nat :=
  if place % 2 = 0 then if c.isAsciiDigit then [place + 1] else []
  else (if c.isAsciiDigit then [place] else []) ++ (if place < 7 then [place + 1] else [])

/-- Whether a host looks like an address of four numbers: four runs of digits, with any one code point between
    neighbours. -/
def looksLikeAddressOfFour (host : Text) : Bool :=
  (host.foldl (fun places c => (places.flatMap (fourRunsStep c)).eraseDups) [0]).contains 7

/-- The written form of a host. -/
def normalizeHost (host : Text) : Except UrlFault Text :=
  if host.isEmpty then .ok []
  else if looksLikeAddressOfFour host then
    if isAddressOfFour host then .ok host else .error (.invalid (.addressOfFour host))
  else if host.head? = some (CodePoint.ofChar '[') ∧ host.getLast? = some (CodePoint.ofChar ']') then
    let inner := (host.drop 1).dropLast
    if isZonedAddress inner then .ok inner else .error (.invalid (.addressOfEight host))
  else if host.all CodePoint.isAscii then (percentEncode isHostSafe host.toAsciiLower).mapError .surrogate
  else (Hostname.encode host.toLower).mapError fun _ => .invalid (.hostname host)

/-- The port that a scheme stands for. -/
def usualPort? (scheme : Text) : Option Int :=
  if scheme = ("http" : Text) ∨ scheme = ("ws" : Text) then some 80
  else if scheme = ("https" : Text) ∨ scheme = ("wss" : Text) then some 443
  else if scheme = ("ftp" : Text) then some 21
  else none

/-- A port, if it is written and is not the one that the scheme stands for. -/
def normalizePort (scheme port : Text) : Except UrlFault (Option Int) :=
  if port.isEmpty then .ok none
  else match Whole.read? port with
    | none => .error (.invalid (.port port))
    | some n => .ok (if usualPort? scheme = some n then none else some n)

/-- The segments of a path with the dots worked off: one dot is dropped, two drop the segment before. -/
def workOffDots (before : List Text) : List Text → List Text
  | [] => before
  | segment :: rest =>
    if segment = ("." : Text) then workOffDots before rest
    else if segment = (".." : Text) then
      workOffDots (if before = [] ∨ before = [[]] then before else before.dropLast) rest
    else workOffDots (before ++ [segment]) rest

/-- A path with the dots worked off. -/
def normalizePath (path : Text) : Text := Text.join "/" (workOffDots [] (path.splitOn (CodePoint.ofChar '/')))

/-- The rules for a path beside an authority, and for one that stands alone. -/
def checkPath (hasScheme hasAuthority : Bool) (path : Text) : Except UrlFault Unit :=
  let first := path.head?
  if hasAuthority && !path.isEmpty && first ≠ some (CodePoint.ofChar '/') then .error (.invalid .pathWithoutSlash)
  else if hasScheme || hasAuthority then .ok ()
  else if (Text.dropPrefix? "//" path).isSome then .error (.invalid .pathLikeAuthority)
  else if first = some (CodePoint.ofChar ':') then .error (.invalid .pathLikeScheme)
  else .ok ()

/-- The written form of a part that may be missing. -/
def encodeOptional (safe : CodePoint → Bool) : Option Text → Except UrlFault (Option Text)
  | none => .ok none
  | some t => ((percentEncode safe t).map some).mapError .surrogate

/-- The URL that parts make. -/
def normalize (p : UrlParts) : Except UrlFault Url := do
  let scheme := p.scheme.toAsciiLower
  let user ← (percentEncode isUserSafe p.user).mapError .surrogate
  let host ← normalizeHost p.host
  let port ← normalizePort p.scheme p.port
  let hasScheme := !scheme.isEmpty
  let hasAuthority := !user.isEmpty || !host.isEmpty || port.isSome
  checkPath hasScheme hasAuthority p.path
  let path := if hasScheme || hasAuthority then normalizePath p.path else p.path
  let path ← (percentEncode isPathSafe path).mapError .surrogate
  let query ← encodeOptional isQuerySafe p.query
  let fragment ← encodeOptional isFragmentSafe p.fragment
  return ⟨scheme, user, host, port, path, query, fragment⟩

end UrlParts

/-! ## Reading -/

namespace Url

/-- The greatest length of a URL, and of a part that is given by itself. -/
def maxLength : Nat := 65536

/-- Whether a code point is an ASCII character that is not printable. -/
def isControl (c : CodePoint) : Bool := c.val < 0x20 || c.val = 0x7F

/-- The first control character of a text, and its position. -/
def control? (t : Text) : Option (CodePoint × Nat) :=
  match t.dropWhile fun c => !isControl c with
  | c :: _ => some (c, (t.takeWhile fun c => !isControl c).length)
  | [] => none

/-- The URL of a text. -/
def parse (t : Text) : Except UrlFault Url :=
  if maxLength < t.length then .error (.invalid .tooLong)
  else match control? t with
    | some (c, position) => .error (.invalid (.control c position))
    | none => (UrlParts.cut t).normalize

/-- The parts of a URL that is read again. -/
def parts (u : Url) : UrlParts :=
  let (user, t) := UrlParts.cutUser u.authority
  let (host, port) := UrlParts.cutHost t
  ⟨u.scheme, user, host, port, u.path, u.query, u.fragment⟩

/-- The rules for a part that is given by itself. -/
def checkPart (part : UrlPart) (t : Text) : Except UrlFault Unit :=
  if maxLength < t.length then .error (.invalid (.partTooLong part))
  else match control? t with
    | some (c, position) => .error (.invalid (.controlIn part c position))
    | none => .ok ()

/-- The rules for a part that may be missing. -/
def checkOptional (part : UrlPart) : Option Text → Except UrlFault Unit
  | some t => checkPart part t
  | none => .ok ()

/-- The URL of parts that are given one by one, of which the user, the host and the port make `authority`. -/
def ofParts (authority : Text) (p : UrlParts) : Except UrlFault Url := do
  checkPart .authority authority
  checkPart .path p.path
  checkOptional .query p.query
  checkOptional .fragment p.fragment
  p.normalize

/-- The URL with another fragment. -/
def withFragment (fragment : Text) (u : Url) : Except UrlFault Url :=
  ofParts u.authority { u.parts with fragment := some fragment }

/-- The URL with another host. -/
def withHost (host : Text) (u : Url) : Except UrlFault Url :=
  ofParts u.authority { u.parts with host := bracketed host }

/-- A URL of nothing. -/
def empty : Url := ⟨[], [], [], none, [], none, none⟩

/-- The URL with another path and query, given by a target. -/
def withTarget (target : Text) (u : Url) : Except UrlFault Url :=
  let (path, query) := UrlParts.cutAt (CodePoint.ofChar '?') target
  ofParts u.authority { u.parts with path := path, query := query }

/-- The URL that a text stands for under a base without a path: itself if it has a scheme and a host, and else a target
    under the base. -/
def parseUnder (base : Url) (t : Text) : Except UrlFault Url := do
  let u ← parse t
  if u.isAbsolute then return u
  base.withTarget (("/" : Text) ++ u.target.dropWhile (· = CodePoint.ofChar '/'))

/-! ## What a URL says -/

/-- The name of the host, beyond ASCII if it is encoded. -/
def hostName (u : Url) : Except HostnameError Text :=
  if (Text.dropPrefix? HostLabel.marker u.host).isSome then Hostname.decode u.host else .ok u.host

/-- The port that a request goes to, where the scheme says one. -/
def effectivePort? (u : Url) : Option Int :=
  match u.port with
  | some port => some port
  | none =>
    if u.scheme = ("http" : Text) then some 80 else if u.scheme = ("https" : Text) then some 443 else none

/-- Whether two URLs belong to the same place: scheme, host and port agree. -/
def sameOrigin (u v : Url) : Except HostnameError Bool := do
  if u.scheme ≠ v.scheme then return false
  if (← u.hostName) ≠ (← v.hostName) then return false
  return u.effectivePort? = v.effectivePort?

/-- Whether the second URL leads to the same host as the first with the connection secured. -/
def securesConnection (u v : Url) : Except HostnameError Bool := do
  if (← u.hostName) ≠ (← v.hostName) then return false
  return u.scheme = ("http" : Text) ∧ u.effectivePort? = some 80 ∧ v.scheme = ("https" : Text) ∧
    v.effectivePort? = some 443

end Url

end WebhookBridge
