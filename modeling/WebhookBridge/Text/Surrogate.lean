import WebhookBridge.Text.Quoted

/-!
# Surrogates in texts that are to be written

A text with a lone surrogate is no sequence of characters and cannot be written in UTF-8.

## Contents

* `SurrogateFault`, `SurrogateFault.message`: where a text cannot be written;
* `Text.surrogateFault?`: the first such place of a text;
* `replacementCharacter`, `Text.replaceSurrogates`: what is written in its place where every text is to be written.
-/

namespace WebhookBridge

/-- A text that cannot be written in UTF-8: `count` surrogates stand from `position` on, the first of them
    `surrogate`. -/
structure SurrogateFault where
  surrogate : CodePoint
  position : Nat
  count : Nat
  deriving DecidableEq, Repr

/-- The text of a surrogate fault. -/
def SurrogateFault.message (f : SurrogateFault) : Text :=
  if f.count = 1 then
    ("'utf-8' codec can't encode character '" : Text) ++ f.surrogate.numericEscape ++ "' in position " ++
      Text.ofNat f.position ++ ": surrogates not allowed"
  else
    ("'utf-8' codec can't encode characters in position " : Text) ++ Text.ofNat f.position ++ "-" ++
      Text.ofNat (f.position + f.count - 1) ++ ": surrogates not allowed"

/-- The first surrogates of a text that holds any. -/
def Text.surrogateFault? (t : Text) : Option SurrogateFault :=
  match t.dropWhile fun c => !c.isSurrogate with
  | [] => none
  | c :: rest =>
    some ⟨c, (t.takeWhile fun c => !c.isSurrogate).length, (rest.takeWhile CodePoint.isSurrogate).length + 1⟩

/-- What stands in place of octets that are no character. -/
def replacementCharacter : CodePoint := CodePoint.ofNat 0xFFFD

/-- The text with every surrogate replaced, once for each of the three octets that it would be written with. -/
def Text.replaceSurrogates (t : Text) : Text :=
  t.flatMap fun c => if c.isSurrogate then List.replicate 3 replacementCharacter else [c]

end WebhookBridge
