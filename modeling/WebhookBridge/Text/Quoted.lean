import WebhookBridge.Text.Printable

/-!
# Quoted texts

The form in which a text is quoted inside messages: between single quotes, or between double quotes when it holds
a single quote and no double one. The quote and the backslash are escaped by a backslash, line feed, carriage
return and tab by their letters, and whatever is not printable by its hexadecimal number.
-/

namespace WebhookBridge

namespace CodePoint

/-- The number of a code point as an escape of the least width among two, four and eight digits. -/
def numericEscape (c : CodePoint) : Text :=
  if c.val < 0x100 then ("\\x" : Text) ++ Text.hex 2 c.val
  else if c.val < 0x10000 then ("\\u" : Text) ++ Text.hex 4 c.val
  else ("\\U" : Text) ++ Text.hex 8 c.val

/-- One code point inside a text that stands between the quotes `quote`. -/
def quotedIn (quote : CodePoint) (c : CodePoint) : Text :=
  if c = quote ∨ c = CodePoint.ofChar '\\' then [CodePoint.ofChar '\\', c]
  else if c = CodePoint.ofChar '\n' then "\\n"
  else if c = CodePoint.ofChar '\r' then "\\r"
  else if c = CodePoint.ofChar '\t' then "\\t"
  else if c.isPrintable then [c]
  else c.numericEscape

end CodePoint

namespace Text

/-- The quote that a text is put between. -/
def quoteMark (t : Text) : CodePoint :=
  if t.contains (CodePoint.ofChar '\'') && !t.contains (CodePoint.ofChar '"') then '"' else '\''

/-- The text between quotes, with escapes. -/
def quoted (t : Text) : Text :=
  t.quoteMark :: t.flatMap (CodePoint.quotedIn t.quoteMark) ++ [t.quoteMark]

end Text

end WebhookBridge
