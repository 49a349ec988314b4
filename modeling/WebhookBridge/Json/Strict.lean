import WebhookBridge.Json.Lenient
import WebhookBridge.Text.Utf8

/-!
# Reading JSON strictly

The reader for task inputs and batch files. It takes the JSON grammar and the words `NaN`, `Infinity` and
`-Infinity`, refuses lone surrogates, and reports the place of a fault by line and column, the column counted in
octets of UTF-8.

## Contents

* `Strict.Problem`, `Strict.Fault`: what is wrong with a text, and where;
* `Strict.readValue`: a value at the front of a text, for a number of levels of nesting;
* `Strict.read`: a whole text.
-/

namespace WebhookBridge.Json.Strict

/-! ## Faults -/

/-- What is wrong with a text. -/
inductive Problem where
  | endOfValue
  | endOfList
  | endOfObject
  | endOfString
  | expectedValue
  | expectedListComma
  | expectedObjectComma
  | expectedColon
  | expectedIdent
  | keyMustBeString
  | trailingComma
  | trailingCharacters
  | invalidNumber
  | numberOutOfRange
  | controlCharacter
  | invalidEscape
  | loneLeadingSurrogate
  | unexpectedEndOfHexEscape
  | recursionLimit
  deriving DecidableEq, Repr

/-- The wording of a problem. -/
def Problem.message : Problem → Text
  | .endOfValue => "EOF while parsing a value"
  | .endOfList => "EOF while parsing a list"
  | .endOfObject => "EOF while parsing an object"
  | .endOfString => "EOF while parsing a string"
  | .expectedValue => "expected value"
  | .expectedListComma => "expected `,` or `]`"
  | .expectedObjectComma => "expected `,` or `\x7d`"
  | .expectedColon => "expected `:`"
  | .expectedIdent => "expected ident"
  | .keyMustBeString => "key must be a string"
  | .trailingComma => "trailing comma"
  | .trailingCharacters => "trailing characters"
  | .invalidNumber => "invalid number"
  | .numberOutOfRange => "number out of range"
  | .controlCharacter => "control character (\\u0000-\\u001F) found while parsing a string"
  | .invalidEscape => "invalid escape"
  | .loneLeadingSurrogate => "lone leading surrogate in hex escape"
  | .unexpectedEndOfHexEscape => "unexpected end of hex escape"
  | .recursionLimit => "recursion limit exceeded"

/-- A problem and the rest of the text from its place on. -/
structure Fault where
  problem : Problem
  rest : Text
  deriving DecidableEq, Repr

/-- What a reader finds at the front of a text, and the rest of the text. -/
abbrev Reader (α : Type) := Text → Except Fault (α × Text)

/-- A fault at the front of `rest`. -/
def fail {α : Type} (problem : Problem) (rest : Text) : Except Fault α := .error ⟨problem, rest⟩

/-- The greatest number of arrays and objects around a value. -/
def maxNesting : Nat := 200

/-! ## Strings -/

/-- The number of four hexadecimal digits at the front of a text. Four octets have to be there; the first one that is
    no digit is at fault. `last` is the text from the fourth digit on. -/
def readHex4 (t : Text) : Except Fault (Nat × Text × Text) :=
  if Utf8.size t < 4 then fail .endOfString []
  else
    match t.take 4 |>.findIdx? (·.hexValue?.isNone) with
    | some i => fail .invalidEscape (t.drop i)
    | none =>
      .ok (((t.take 4).foldl (fun n c => n * 16 + c.hexValue?.getD 0) 0), t.drop 3, t.drop 4)

/-- The code point of an escape, from what follows its letter u; the second half of a pair must follow the first. -/
def readUnicodeEscape (t : Text) : Except Fault (CodePoint × Text) := do
  let (n, last, rest) ← readHex4 t
  if Lenient.isLow n then fail .loneLeadingSurrogate last
  else if Lenient.isHigh n then
    match rest with
    | [] => fail .endOfString []
    | b :: rest' =>
      if b ≠ CodePoint.ofChar '\\' then fail .unexpectedEndOfHexEscape rest
      else match rest' with
        | [] => fail .endOfString []
        | u :: after =>
          if u ≠ CodePoint.ofChar 'u' then fail .unexpectedEndOfHexEscape rest'
          else do
            let (low, last, rest) ← readHex4 after
            if Lenient.isLow low then .ok (Lenient.joinPair n low, rest) else fail .loneLeadingSurrogate last
  else .ok (CodePoint.ofNat n, rest)

/-- The content of a string up to its closing quote, and what follows the quote. `fuel` bounds its length. -/
def readString : Nat → Reader Text
  | 0, _ => fail .endOfString []
  | fuel + 1, t =>
    match t with
    | [] => fail .endOfString []
    | c :: rest =>
      if c = CodePoint.ofChar '"' then .ok ([], rest)
      else if c = CodePoint.ofChar '\\' then
        match rest with
        | [] => fail .endOfString []
        | e :: rest' => do
          let (d, rest) ←
            if e = CodePoint.ofChar 'u' then readUnicodeEscape rest'
            else match Lenient.unescape? e with
              | some d => .ok (d, rest')
              | none => fail .invalidEscape rest
          let (s, rest) ← readString fuel rest
          .ok (d :: s, rest)
      else if c.val ≤ 0x1F then fail .controlCharacter t
      else do
        let (s, rest) ← readString fuel rest
        .ok (c :: s, rest)

/-! ## Words and numbers -/

/-- The rest of a word, code point by code point. -/
def readWord (v : Json) : Text → Reader Json
  | [], t => .ok (v, t)
  | _ :: _, [] => fail .endOfValue []
  | w :: word, c :: rest => if w = c then readWord v word rest else fail .expectedIdent (c :: rest)

/-- The digits at the front of a text, of which there must be one. -/
def readDigits (t : Text) : Except Fault (List Nat × Text) :=
  match Numeral.spanDigits t with
  | ([], []) => fail .endOfValue []
  | ([], rest) => fail .invalidNumber rest
  | found => .ok found

/-- The digits after a point, if a point stands at the front. -/
def readFraction (t : Text) : Except Fault (Option (List Nat) × Text) :=
  match t with
  | c :: rest =>
    if c = CodePoint.ofChar '.' then (readDigits rest).map fun (ds, rest) => (some ds, rest) else .ok (none, t)
  | [] => .ok (none, t)

/-- The exponent, if a letter e stands at the front. -/
def readExponent (t : Text) : Except Fault (Option Int × Text) :=
  match t with
  | c :: rest =>
    if c.toAsciiLower = CodePoint.ofChar 'e' then
      let (negative, digits) := match rest with
        | s :: rest' =>
          if s = CodePoint.ofChar '-' then (true, rest')
          else if s = CodePoint.ofChar '+' then (false, rest') else (false, rest)
        | [] => (false, rest)
      (readDigits digits).map fun (ds, rest) =>
        let n : Int := (Whole.ofDigits ds : Nat)
        (some (if negative then -n else n), rest)
    else .ok (none, t)
  | [] => .ok (none, t)

/-- The digits before the point: a zero by itself, or digits that start with another one. `written` counts the
    octets of the sign; the sign and the digits together have a greatest number. -/
def readWholeDigits (written : Nat) (t : Text) : Except Fault (List Nat × Text) :=
  match t with
  | c :: rest =>
    if c = CodePoint.ofChar '0' then
      match rest with
      | d :: _ => if d.isAsciiDigit then fail .invalidNumber rest else .ok ([0], rest)
      | [] => .ok ([0], rest)
    else do
      let (ds, rest) ← readDigits t
      if Whole.maxDigits < written + ds.length then fail .numberOutOfRange (t.drop (Whole.maxDigits + 1 - written))
      else .ok (ds, rest)
  | [] => fail .endOfValue []

/-- A numeral after its sign. -/
def readNumber (negative : Bool) (t : Text) : Except Fault (Json × Text) := do
  let (ds, rest) ← readWholeDigits (if negative then 1 else 0) t
  let (fraction, rest) ← readFraction rest
  let (exponent, rest) ← readExponent rest
  match fraction, exponent with
  | none, none =>
    let n : Int := (Whole.ofDigits ds : Nat)
    .ok (.int (if negative then -n else n), rest)
  | _, _ =>
    let fs := fraction.getD []
    .ok (.float (Numeral.toBinary64 negative ⟨ds ++ fs, fs.length, exponent.getD 0⟩), rest)

/-! ## Values -/

/-- The words, by their first letters, the letters that follow, and the values that they stand for. -/
def words : List (CodePoint × Text × Json) :=
  [(CodePoint.ofChar 'n', "ull", .null), (CodePoint.ofChar 't', "rue", .bool true),
    (CodePoint.ofChar 'f', "alse", .bool false), (CodePoint.ofChar 'N', "aN", .float .nan),
    (CodePoint.ofChar 'I', "nfinity", .float (.infinite false))]

/-- The elements of an array up to its closing bracket. `fuel` bounds their number. -/
def readElements (value : Reader Json) : Nat → Reader (List Json)
  | 0, t => fail .endOfValue t
  | fuel + 1, t => do
    let (v, rest) ← value t
    let rest := Lenient.skipBlanks rest
    match rest with
    | [] => fail .endOfList rest
    | c :: after =>
      if c = CodePoint.ofChar ']' then .ok ([v], after)
      else if c = CodePoint.ofChar ',' then
        let next := Lenient.skipBlanks after
        if next.head? = some (CodePoint.ofChar ']') then fail .trailingComma next
        else do
          let (vs, rest) ← readElements value fuel next
          .ok (v :: vs, rest)
      else fail .expectedListComma rest

/-- The members of an object up to its closing brace; the text starts with the opening quote of a key. `fuel` bounds
    their number. -/
def readMembers (value : Reader Json) : Nat → Reader (List (Text × Json))
  | 0, t => fail .endOfValue t
  | fuel + 1, t => do
    let (k, rest) ← readString t.length (t.drop 1)
    let rest := Lenient.skipBlanks rest
    match rest with
    | [] => fail .endOfObject rest
    | c :: after =>
      if c ≠ CodePoint.ofChar ':' then fail .expectedColon rest
      else do
        let (v, rest) ← value (Lenient.skipBlanks after)
        let rest := Lenient.skipBlanks rest
        match rest with
        | [] => fail .endOfObject rest
        | c :: after =>
          if c = CodePoint.ofChar '}' then .ok ([(k, v)], after)
          else if c = CodePoint.ofChar ',' then
            let next := Lenient.skipBlanks after
            match next with
            | [] => fail .endOfValue next
            | c :: _ =>
              if c = CodePoint.ofChar '"' then
                let (members, rest) ← readMembers value fuel next
                .ok ((k, v) :: members, rest)
              else if c = CodePoint.ofChar '}' then fail .trailingComma next
              else fail .keyMustBeString next
          else fail .expectedObjectComma rest

/-- An array after its opening bracket. -/
def readArray (value : Reader Json) : Reader Json := fun t =>
  let t := Lenient.skipBlanks t
  match t with
  | [] => fail .endOfList t
  | c :: rest =>
    if c = CodePoint.ofChar ']' then .ok (.arr [], rest)
    else (readElements value t.length t).map fun (vs, rest) => (.arr vs, rest)

/-- An object after its opening brace. -/
def readObject (value : Reader Json) : Reader Json := fun t =>
  let t := Lenient.skipBlanks t
  match t with
  | [] => fail .endOfObject t
  | c :: rest =>
    if c = CodePoint.ofChar '}' then .ok (.obj [], rest)
    else if c = CodePoint.ofChar '"' then
      (readMembers value t.length t).map fun (ms, rest) => (.obj (Table.ofPairs ms), rest)
    else fail .keyMustBeString t

/-- A value whose elements and members are read by `inner`. -/
def readWith (inner : Reader Json) : Reader Json := fun t =>
  match t with
  | [] => fail .endOfValue t
  | c :: rest =>
    if c = CodePoint.ofChar '[' then readArray inner rest
    else if c = CodePoint.ofChar '{' then readObject inner rest
    else if c = CodePoint.ofChar '"' then (readString t.length rest).map fun (s, rest) => (.str s, rest)
    else if c.isAsciiDigit then readNumber false t
    else if c = CodePoint.ofChar '-' then
      match rest with
      | d :: after =>
        if d = CodePoint.ofChar 'I' then readWord (.float (.infinite true)) "nfinity" after
        else if d.isAsciiDigit then readNumber true rest
        else fail .invalidNumber rest
      | [] => fail .endOfValue rest
    else match words.find? (·.1 = c) with
      | some (_, word, v) => readWord v word rest
      | none => fail .expectedValue t

/-- A value that holds at most `levels + 1` arrays and objects inside one another, the innermost of them empty. -/
def readValue : Nat → Reader Json
  | 0 => readWith (fail .recursionLimit)
  | levels + 1 => readWith (readValue levels)

/-! ## Whole texts -/

/-- The value that makes up the whole text, with blanks around it. -/
def read (t : Text) : Except Fault Json := do
  let (v, rest) ← readValue maxNesting (Lenient.skipBlanks t)
  match Lenient.skipBlanks rest with
  | [] => .ok v
  | rest => fail .trailingCharacters rest

/-- A place in a text: the line from one, and the column in octets. A line feed counts as the start of its line. -/
def placeText (whole rest : Text) : Text :=
  let newline := CodePoint.ofChar '\n'
  let atNewline := rest.head? = some newline
  let before := whole.take (whole.length - rest.length)
  let line := before.count newline + 1 + (if atNewline then 1 else 0)
  let column :=
    if atNewline then 0
    else Utf8.size (before.reverse.takeWhile (· != newline)) + (if rest.isEmpty then 0 else 1)
  ("line " : Text) ++ Text.ofNat line ++ " column " ++ Text.ofNat column

/-- The text of a fault that was found in the text `whole`. -/
def Fault.message (whole : Text) (f : Fault) : Text := f.problem.message ++ " at " ++ placeText whole f.rest

end WebhookBridge.Json.Strict
