import WebhookBridge.Json.Printer
import WebhookBridge.Number.Decimal
import WebhookBridge.Text.Encoding

/-!
# Reading JSON leniently

The reader for bodies that arrive over HTTP. Besides the JSON grammar it takes the words `NaN`, `Infinity` and
`-Infinity`, lone surrogates, and numerals beyond every finite number; it refuses integers of too many digits and
documents that are nested too deeply. It works on a text and reports the place of a fault in code points.

## Contents

* `Lenient.Problem`, `Lenient.Fault`: what is wrong with a text, and where;
* `Lenient.readValue`: a value at the front of a text, for a number of levels of nesting;
* `Lenient.read`, `Lenient.readDocument`: a whole text, a whole sequence of octets.
-/

namespace WebhookBridge.Json.Lenient

/-! ## Faults -/

/-- What a text lacks or has too much of. -/
inductive Problem where
  | value
  | propertyName
  | colon
  | comma
  | extraData
  | unterminatedString
  | controlCharacter
  | escape
  | unicodeEscape
  | byteOrderMark
  deriving DecidableEq, Repr

/-- The wording of a problem. -/
def Problem.message : Problem → Text
  | .value => "Expecting value"
  | .propertyName => "Expecting property name enclosed in double quotes"
  | .colon => "Expecting ':' delimiter"
  | .comma => "Expecting ',' delimiter"
  | .extraData => "Extra data"
  | .unterminatedString => "Unterminated string starting at"
  | .controlCharacter => "Invalid control character at"
  | .escape => "Invalid \\escape"
  | .unicodeEscape => "Invalid \\uXXXX escape"
  | .byteOrderMark => "Unexpected UTF-8 BOM (decode using utf-8-sig)"

/-- Why a text is not read. A problem comes with the rest of the text from its place on. -/
inductive Fault where
  | malformed (problem : Problem) (rest : Text)
  | integerTooLong (digits : Nat)
  | tooDeep
  deriving DecidableEq, Repr

/-- What a reader finds at the front of a text, and the rest of the text. -/
abbrev Reader := Text → Except Fault (Json × Text)

/-! ## Blanks -/

/-- Space, tab, line feed and carriage return. -/
def isBlank (c : CodePoint) : Bool := c.val = 0x20 || c.val = 0x09 || c.val = 0x0A || c.val = 0x0D

/-- The text without blanks at its front. -/
def skipBlanks (t : Text) : Text := t.dropWhile isBlank

/-! ## Strings -/

/-- The number of four hexadecimal digits. -/
def hex4? (a b c d : CodePoint) : Option Nat := do
  let a ← a.hexValue?
  let b ← b.hexValue?
  let c ← c.hexValue?
  let d ← d.hexValue?
  return ((a * 16 + b) * 16 + c) * 16 + d

/-- The code point that a letter after a backslash stands for. -/
def unescape? (c : CodePoint) : Option CodePoint :=
  if c = CodePoint.ofChar '"' ∨ c = CodePoint.ofChar '\\' ∨ c = CodePoint.ofChar '/' then some c
  else if c = CodePoint.ofChar 'b' then some (CodePoint.ofNat 0x08)
  else if c = CodePoint.ofChar 'f' then some (CodePoint.ofNat 0x0C)
  else if c = CodePoint.ofChar 'n' then some (CodePoint.ofNat 0x0A)
  else if c = CodePoint.ofChar 'r' then some (CodePoint.ofNat 0x0D)
  else if c = CodePoint.ofChar 't' then some (CodePoint.ofNat 0x09)
  else none

/-- Whether a number is the first half of a pair. -/
def isHigh (n : Nat) : Bool := 0xD800 ≤ n && n ≤ 0xDBFF

/-- Whether a number is the second half of a pair. -/
def isLow (n : Nat) : Bool := 0xDC00 ≤ n && n ≤ 0xDFFF

/-- The code point of a pair. -/
def joinPair (high low : Nat) : CodePoint := CodePoint.ofNat (0x10000 + (high - 0xD800) * 0x400 + (low - 0xDC00))

/-- What stands at the front of a text that follows a first half: an escape of a second half to be joined with it,
    a malformed escape, or something that is read by itself. A complete escape is followed by one more code point. -/
inductive AfterHigh where
  | join (low : Nat)
  | malformed
  | apart

/-- Looks at what follows a first half. -/
def afterHigh : Text → AfterHigh
  | b :: u :: e :: f :: g :: h :: _ :: _ =>
    if b = CodePoint.ofChar '\\' ∧ u = CodePoint.ofChar 'u' then
      match hex4? e f g h with
      | some low => if isLow low then .join low else .apart
      | none => .malformed
    else .apart
  | _ => .apart

/-- The content of a string up to its closing quote, and what follows the quote. `start` is the text from the
    opening quote on. -/
def readString (start : Text) : Text → Except Fault (Text × Text)
  | [] => .error (.malformed .unterminatedString start)
  | c :: rest =>
    if c = CodePoint.ofChar '"' then .ok ([], rest)
    else if c = CodePoint.ofChar '\\' then
      match rest with
      | [] => .error (.malformed .unterminatedString start)
      | e :: rest =>
        if e = CodePoint.ofChar 'u' then
          match rest with
          | x :: y :: z :: w :: next :: more =>
            match hex4? x y z w with
            | none => .error (.malformed .unicodeEscape (e :: x :: y :: z :: w :: next :: more))
            | some n =>
              if isHigh n then
                match afterHigh (next :: more) with
                | .join low =>
                  match more with
                  | _ :: _ :: _ :: _ :: _ :: more =>
                    (readString start more).map fun (s, t) => (joinPair n low :: s, t)
                  | _ => .error (.malformed .unterminatedString start)
                | .malformed => .error (.malformed .unicodeEscape more)
                | .apart => (readString start (next :: more)).map fun (s, t) => (CodePoint.ofNat n :: s, t)
              else (readString start (next :: more)).map fun (s, t) => (CodePoint.ofNat n :: s, t)
          | _ => .error (.malformed .unicodeEscape (e :: rest))
        else
          match unescape? e with
          | some d => (readString start rest).map fun (s, t) => (d :: s, t)
          | none => .error (.malformed .escape (c :: e :: rest))
    else if c.val ≤ 0x1F then .error (.malformed .controlCharacter (c :: rest))
    else (readString start rest).map fun (s, t) => (c :: s, t)

/-! ## Numbers -/

/-- The digits before the point: a zero by itself, or digits that start with another one. -/
def wholeDigits : Text → List Nat × Text
  | c :: rest => if c = CodePoint.ofChar '0' then ([0], rest) else Numeral.spanDigits (c :: rest)
  | [] => ([], [])

/-- The digits after a point, where a point is followed by digits; otherwise none. -/
def fractionDigits? : Text → Option (List Nat × Text)
  | c :: rest =>
    if c = CodePoint.ofChar '.' then
      match Numeral.spanDigits rest with
      | ([], _) => none
      | found => some found
    else none
  | [] => none

/-- The exponent, where a letter e and an optional sign are followed by digits; otherwise none. -/
def exponentPart? : Text → Option (Int × Text)
  | c :: rest =>
    if c.toAsciiLower = CodePoint.ofChar 'e' then
      let (negative, digits) := match rest with
        | s :: rest' =>
          if s = CodePoint.ofChar '-' then (true, rest')
          else if s = CodePoint.ofChar '+' then (false, rest') else (false, rest)
        | [] => (false, rest)
      match Numeral.spanDigits digits with
      | ([], _) => none
      | (ds, rest) =>
        let n : Int := (Whole.ofDigits ds : Nat)
        some (if negative then -n else n, rest)
    else none
  | [] => none

/-- A numeral after its sign; `none` where no digit stands. -/
def readUnsigned? (negative : Bool) (t : Text) : Option (Except Fault (Json × Text)) :=
  match wholeDigits t with
  | ([], _) => none
  | (ds, rest) =>
    let fraction := fractionDigits? rest
    let (fs, rest) := fraction.getD ([], rest)
    let power := exponentPart? rest
    let (e, rest) := power.getD (0, rest)
    if fraction.isSome || power.isSome then
      some (.ok (.float (Numeral.toBinary64 negative ⟨ds ++ fs, fs.length, e⟩), rest))
    else if Whole.maxDigits < ds.length then some (.error (.integerTooLong ds.length))
    else
      let n : Int := (Whole.ofDigits ds : Nat)
      some (.ok (.int (if negative then -n else n), rest))

/-! ## Values -/

/-- Words and the values that they stand for. -/
def words : List (Text × Json) :=
  [("null", .null), ("true", .bool true), ("false", .bool false), ("NaN", .float .nan),
    ("Infinity", .float (.infinite false)), ("-Infinity", .float (.infinite true))]

/-- A value that is no array and no object. -/
def readScalar : Reader := fun t =>
  match t with
  | [] => .error (.malformed .value t)
  | c :: rest =>
    if c = CodePoint.ofChar '"' then (readString t rest).map fun (s, rest) => (.str s, rest)
    else match words.find? fun (word, _) => word.isPrefixOf t with
      | some (word, v) => .ok (v, t.drop word.length)
      | none =>
        let found := if c = CodePoint.ofChar '-' then readUnsigned? true rest else readUnsigned? false t
        found.getD (.error (.malformed .value t))

/-- The elements of an array up to its closing bracket. `fuel` bounds their number. -/
def readElements (value : Reader) : Nat → Text → Except Fault (List Json × Text)
  | 0, t => .error (.malformed .value t)
  | fuel + 1, t => do
    let (v, rest) ← value t
    let rest := skipBlanks rest
    match rest with
    | [] => .error (.malformed .comma rest)
    | c :: after =>
      if c = CodePoint.ofChar ']' then .ok ([v], after)
      else if c = CodePoint.ofChar ',' then
        let (vs, rest) ← readElements value fuel (skipBlanks after)
        .ok (v :: vs, rest)
      else .error (.malformed .comma rest)

/-- The members of an object up to its closing brace. `fuel` bounds their number. -/
def readMembers (value : Reader) : Nat → Text → Except Fault (List (Text × Json) × Text)
  | 0, t => .error (.malformed .propertyName t)
  | fuel + 1, t =>
    match t with
    | [] => .error (.malformed .propertyName t)
    | c :: rest =>
      if c ≠ CodePoint.ofChar '"' then .error (.malformed .propertyName t)
      else do
        let (k, rest) ← readString t rest
        let rest := skipBlanks rest
        match rest with
        | [] => .error (.malformed .colon rest)
        | c :: after =>
          if c ≠ CodePoint.ofChar ':' then .error (.malformed .colon rest)
          else do
            let (v, rest) ← value (skipBlanks after)
            let rest := skipBlanks rest
            match rest with
            | [] => .error (.malformed .comma rest)
            | c :: after =>
              if c = CodePoint.ofChar '}' then .ok ([(k, v)], after)
              else if c = CodePoint.ofChar ',' then
                let (members, rest) ← readMembers value fuel (skipBlanks after)
                .ok ((k, v) :: members, rest)
              else .error (.malformed .comma rest)

/-- An array after its opening bracket. -/
def readArray (value : Reader) (t : Text) : Except Fault (Json × Text) :=
  match skipBlanks t with
  | [] => .error (.malformed .value [])
  | c :: rest =>
    if c = CodePoint.ofChar ']' then .ok (.arr [], rest)
    else (readElements value (rest.length + 1) (c :: rest)).map fun (vs, rest) => (.arr vs, rest)

/-- An object after its opening brace. -/
def readObject (value : Reader) (t : Text) : Except Fault (Json × Text) :=
  match skipBlanks t with
  | [] => .error (.malformed .propertyName [])
  | c :: rest =>
    if c = CodePoint.ofChar '}' then .ok (.obj [], rest)
    else (readMembers value (rest.length + 1) (c :: rest)).map fun (ms, rest) => (.obj (Table.ofPairs ms), rest)

/-- A value that holds at most `levels` arrays and objects inside one another. -/
def readValue : Nat → Reader
  | 0, t =>
    match t with
    | [] => readScalar t
    | c :: _ => if c = CodePoint.ofChar '[' ∨ c = CodePoint.ofChar '{' then .error .tooDeep else readScalar t
  | levels + 1, t =>
    match t with
    | [] => readScalar t
    | c :: rest =>
      if c = CodePoint.ofChar '[' then readArray (readValue levels) rest
      else if c = CodePoint.ofChar '{' then readObject (readValue levels) rest
      else readScalar t

/-! ## Whole texts -/

/-- The value that makes up the whole text, with blanks around it. -/
def readAll (levels : Nat) (t : Text) : Except Fault Json := do
  let (v, rest) ← readValue levels (skipBlanks t)
  match skipBlanks rest with
  | [] => .ok v
  | rest => .error (.malformed .extraData rest)

/-- The value that makes up the whole text, which starts with no byte order mark. -/
def read (levels : Nat) (t : Text) : Except Fault Json :=
  if t.head? = some (CodePoint.ofNat 0xFEFF) then .error (.malformed .byteOrderMark t) else readAll levels t

/-- A place in a text: line and column from one, and the number of code points before. -/
def placeText (whole rest : Text) : Text :=
  let before := whole.take (whole.length - rest.length)
  let newline := CodePoint.ofChar '\n'
  let column := (before.reverse.takeWhile (· != newline)).length + 1
  ("line " : Text) ++ Text.ofNat (before.count newline + 1) ++ " column " ++ Text.ofNat column ++ " (char " ++
    Text.ofNat before.length ++ ")"

/-- The text of a fault that was found in the text `whole`. -/
def Fault.message (whole : Text) : Fault → Text
  | .malformed problem rest => problem.message ++ ": " ++ placeText whole rest
  | .integerTooLong digits =>
    ("Exceeds the limit (" : Text) ++ Text.ofNat Whole.maxDigits ++
      " digits) for integer string conversion: value has " ++ Text.ofNat digits ++
      " digits; use sys.set_int_max_str_digits() to increase the limit"
  | .tooDeep => "maximum recursion depth exceeded while decoding a JSON document"

/-! ## Documents -/

/-- Why octets are no JSON document. -/
inductive DocumentFault where
  /-- They are no text. -/
  | undecodable (fault : DecodeFault)
  /-- Their text is not read. -/
  | unreadable (whole : Text) (fault : Fault)
  deriving DecidableEq, Repr

/-- The text of a document fault. -/
def DocumentFault.message : DocumentFault → Text
  | .undecodable fault => fault.message
  | .unreadable whole fault => fault.message whole

/-- Whether the fault is one of nesting, which is not a fault of the document's form. -/
def DocumentFault.isTooDeep : DocumentFault → Bool
  | .unreadable _ .tooDeep => true
  | _ => false

/-- The value that a document denotes. -/
def readDocument (octets : Octets) : Except DocumentFault Json :=
  match decodeDocument octets with
  | .error fault => .error (.undecodable fault)
  | .ok t => (readAll maxNesting t).mapError (.unreadable t)

end WebhookBridge.Json.Lenient
