import WebhookBridge.Text.Quoted

/-!
# Routes

A route is a pattern for paths: a text in which parameters in braces stand for parts of a path. A parameter may say
which parts it stands for.

## Contents

* `PartKind`, `PartKind.accepts`: what a parameter stands for;
* `RoutePattern`, `RoutePattern.parse`: patterns and their reading;
* `RoutePattern.fits`: whether a path fits a pattern.
-/

namespace WebhookBridge

/-! ## Parameters -/

/-- What a parameter stands for. -/
inductive PartKind where
  | segment
  | whole
  | float
  | uuid
  | path
  deriving DecidableEq, Repr

/-- The kind of parameter that a word names. -/
def PartKind.ofName? (name : Text) : Option PartKind :=
  if name = ("str" : Text) then some .segment
  else if name = ("int" : Text) then some .whole
  else if name = ("float" : Text) then some .float
  else if name = ("uuid" : Text) then some .uuid
  else if name = ("path" : Text) then some .path
  else none

/-- What is left after exactly `n` hexadecimal digits. -/
def dropHexDigits? (n : Nat) (t : Text) : Option Text :=
  if (t.take n).length = n ∧ (t.take n).all (fun c => c.hexValue?.isSome) then some (t.drop n) else none

/-- What is left after groups of hexadecimal digits of the given lengths, with a hyphen or nothing between
    neighbours. -/
def dropHexGroups? : List Nat → Text → Option Text
  | [], t => some t
  | [n], t => dropHexDigits? n t
  | n :: rest, t => (dropHexDigits? n t).bind fun t => dropHexGroups? rest ((Text.dropPrefix? "-" t).getD t)

/-- Whether a part of a path may stand for a parameter. -/
def PartKind.accepts (kind : PartKind) (t : Text) : Bool :=
  match kind with
  | .segment => !t.isEmpty && t.all (· ≠ CodePoint.ofChar '/')
  | .whole => !t.isEmpty && t.all CodePoint.isAsciiDigit
  | .float =>
    match t.splitFirst? (CodePoint.ofChar '.') with
    | none => !t.isEmpty && t.all CodePoint.isAsciiDigit
    | some (a, b) =>
      !a.isEmpty && a.all CodePoint.isAsciiDigit && !b.isEmpty && b.all CodePoint.isAsciiDigit
  | .uuid => dropHexGroups? [8, 4, 4, 4, 12] t = some []
  | .path => t.all (· ≠ CodePoint.ofChar '\n')

/-! ## Patterns -/

/-- A piece of a pattern. -/
inductive RoutePiece where
  | literal (t : Text)
  | parameter (name : Text) (kind : PartKind)
  deriving DecidableEq, Repr

/-- A pattern for paths. -/
abbrev RoutePattern := List RoutePiece

/-- Why a text is no pattern. -/
inductive RouteError where
  | unknownKind (name : Text)
  | duplicated (names : List Text) (path : Text)
  deriving DecidableEq, Repr

/-- The text of a route error. -/
def RouteError.message : RouteError → Text
  | .unknownKind name => ("Unknown path convertor '" : Text) ++ name ++ "'"
  | .duplicated names path =>
    ("Duplicated param name" : Text) ++ (if 1 < names.length then "s" else "" : Text) ++ " " ++ Text.join ", " names ++
      " at path " ++ path

namespace RoutePattern

/-- Whether a code point may start a name. -/
def isNameStart (c : CodePoint) : Bool := c.isAsciiLetter || c = CodePoint.ofChar '_'

/-- The name in front of a text, and the rest. -/
def name? : Text → Option (Text × Text)
  | [] => none
  | c :: rest =>
    let isPart (c : CodePoint) : Bool := isNameStart c || c.isAsciiDigit
    if isNameStart c then some (c :: rest.takeWhile isPart, rest.dropWhile isPart) else none

/-- The parameter behind an opening brace: its name, the word for its kind, and what follows the closing brace. -/
def parameter? (t : Text) : Option (Text × Text × Text) := do
  let (name, t) ← name? t
  match Text.dropPrefix? ":" t with
  | some t =>
    let (kind, t) ← name? t
    let t ← Text.dropPrefix? "\x7d" t
    return (name, kind, t)
  | none =>
    let t ← Text.dropPrefix? "\x7d" t
    return (name, "str", t)

/-- The pieces of a text, in which words for kinds still stand; `fuel` bounds the number of steps. -/
def pieces (fuel : Nat) (pending : Text) (t : Text) : List (Text ⊕ Text × Text) :=
  match fuel, t with
  | 0, _ => [.inl (pending ++ t)]
  | _, [] => [.inl pending]
  | fuel + 1, c :: rest =>
    if c = CodePoint.ofChar '{' then
      match parameter? rest with
      | some (name, kind, rest) => .inl pending :: .inr (name, kind) :: pieces fuel [] rest
      | none => pieces fuel (pending ++ [c]) rest
    else pieces fuel (pending ++ [c]) rest

/-- The pieces with the kinds of their parameters. -/
def resolveKinds : List (Text ⊕ Text × Text) → Except RouteError RoutePattern
  | [] => .ok []
  | .inl t :: rest => (resolveKinds rest).map (.literal t :: ·)
  | .inr (name, kind) :: rest =>
    match PartKind.ofName? kind with
    | none => .error (.unknownKind kind)
    | some kind => (resolveKinds rest).map (.parameter name kind :: ·)

/-- The names of the parameters of a pattern, in order. -/
def names (p : RoutePattern) : List Text :=
  p.filterMap fun piece => match piece with
    | .parameter name _ => some name
    | .literal _ => none

/-- The names that occur more than once, sorted. -/
def duplicates (names : List Text) : List Text :=
  let repeated := names.eraseDups.filter fun n => 1 < names.count n
  repeated.mergeSort fun a b => !List.lex b a

/-- A pattern that does not start with a slash, with its last literal cut at a colon. -/
def cutLast : RoutePattern → RoutePattern
  | [] => []
  | [.literal t] => [.literal (t.takeWhile (· ≠ CodePoint.ofChar ':'))]
  | piece :: rest => piece :: cutLast rest

/-- The pattern of a text. -/
def parse (path : Text) : Except RouteError RoutePattern := do
  let pattern ← resolveKinds (pieces path.length [] path)
  let repeated := duplicates (names pattern)
  if !repeated.isEmpty then throw (.duplicated repeated path)
  return if path.head? = some (CodePoint.ofChar '/') then pattern else cutLast pattern

/-- Whether a path fits a pattern. A line feed at the end of the path is overlooked. -/
def fits : RoutePattern → Text → Bool
  | [], t => t.isEmpty || t = ("\n" : Text)
  | .literal l :: rest, t =>
    match Text.dropPrefix? l t with
    | some t => fits rest t
    | none => false
  | .parameter _ kind :: rest, t =>
    (List.range (t.length + 1)).any fun n => kind.accepts (t.take n) && fits rest (t.drop n)

end RoutePattern

end WebhookBridge
