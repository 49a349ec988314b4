import WebhookBridge.Url.Basic

/-!
# References

What a reference means beside the URL of the document that it stands in: parts that the reference lacks come from that
URL, and its path is taken from the last slash of the other path on.

## Contents

* `Reference`, `Reference.cut`, `Reference.text`: a reference and its text;
* `resolve`: the text of the URL that a reference leads to.
-/

namespace WebhookBridge

/-- A reference in parts. A part that is missing is empty. -/
structure Reference where
  scheme : Text
  authority : Text
  path : Text
  parameters : Text
  query : Text
  fragment : Text
  deriving DecidableEq, Repr, Inhabited

namespace Reference

/-- The parameters of the last segment of a path. -/
def cutParameters (path : Text) : Text × Text :=
  let (directory, last) := match path.splitLast? (CodePoint.ofChar '/') with
    | some (before, after) => (before ++ [CodePoint.ofChar '/'], after)
    | none => ([], path)
  match last.splitFirst? (CodePoint.ofChar ';') with
  | some (segment, parameters) => (directory ++ segment, parameters)
  | none => (path, [])

/-- Whether the last segment of a path has parameters under a scheme. -/
def hasParameters (scheme : Text) : Bool := scheme = ("http" : Text) || scheme = ("https" : Text)

/-- The parts of a text, whose scheme is `scheme` unless it says another. -/
def cut (scheme : Text) (t : Text) : Reference :=
  let (scheme, t) := match t.splitFirst? (CodePoint.ofChar ':') with
    | some (written, rest) =>
      if !written.isEmpty && UrlParts.isScheme written then (written.toAsciiLower, rest) else (scheme, t)
    | none => (scheme, t)
  let (authority, t) := UrlParts.cutAuthority t
  let (t, fragment) := UrlParts.cutAt (CodePoint.ofChar '#') t
  let (path, query) := UrlParts.cutAt (CodePoint.ofChar '?') t
  let (path, parameters) := if hasParameters scheme then cutParameters path else (path, [])
  ⟨scheme, authority, path, parameters, query.getD [], fragment.getD []⟩

/-- A mark and a part behind it, if there is such a part. -/
def marked (mark : Text) (part : Text) : Text := if part.isEmpty then [] else mark ++ part

/-- The text of a reference with a scheme that is followed by an authority. -/
def text (r : Reference) : Text :=
  let path := r.path ++ marked ";" r.parameters
  let path := if path.isEmpty || path.head? = some (CodePoint.ofChar '/') then path else ("/" : Text) ++ path
  let path := if r.authority.isEmpty && (Text.dropPrefix? "//" path).isSome then path
    else ("//" : Text) ++ r.authority ++ path
  r.scheme ++ ":" ++ path ++ marked "?" r.query ++ marked "#" r.fragment

/-- The segments with dots worked off: one dot is dropped, two drop the segment before. -/
def workOffDots (before : List Text) : List Text → List Text
  | [] => before
  | segment :: rest =>
    if segment = (".." : Text) then workOffDots before.dropLast rest
    else if segment = ("." : Text) then workOffDots before rest
    else workOffDots (before ++ [segment]) rest

/-- The segments without the empty ones between the first and the last. -/
def dropInnerEmpty : List Text → List Text
  | [] => []
  | [segment] => [segment]
  | first :: rest => first :: (rest.dropLast.filter fun s => !s.isEmpty) ++ rest.drop (rest.length - 1)

/-- The path that a path leads to from another. -/
def resolvePath (base path : Text) : Text :=
  let slash := CodePoint.ofChar '/'
  let segments :=
    if path.head? = some slash then path.splitOn slash
    else
      let parts := base.splitOn slash
      let directory := if parts.getLast? = some [] then parts else parts.dropLast
      dropInnerEmpty (directory ++ path.splitOn slash)
  let isDots (s : Text) : Bool := s = ("." : Text) || s = (".." : Text)
  let resolved := workOffDots [] segments
  let resolved := if (segments.getLast?.map isDots).getD false then resolved ++ [[]] else resolved
  let joined := Text.join "/" resolved
  if joined.isEmpty then "/" else joined

end Reference

/-- The text of the URL that a reference leads to, beside a URL with a scheme of the web. -/
def resolve (base reference : Text) : Text :=
  if reference.isEmpty then base
  else
    let b := Reference.cut [] base
    let r := Reference.cut b.scheme reference
    if r.scheme ≠ b.scheme then reference
    else if !r.authority.isEmpty then r.text
    else if r.path.isEmpty && r.parameters.isEmpty then
      { r with authority := b.authority, path := b.path, parameters := b.parameters,
               query := if r.query.isEmpty then b.query else r.query }.text
    else { r with authority := b.authority, path := Reference.resolvePath b.path r.path }.text

end WebhookBridge
