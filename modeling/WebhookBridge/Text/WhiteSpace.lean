import WebhookBridge.Text.Ranges

/-!
# White space

The Unicode property White_Space. Unicode 14.0.
-/

namespace WebhookBridge.CodePoint

/-- The white-space code points as closed ranges, ascending. -/
def whiteSpaceRanges : List (Nat × Nat) :=
  [(0x9, 0xD), (0x20, 0x20), (0x85, 0x85), (0xA0, 0xA0), (0x1680, 0x1680), (0x2000, 0x200A), (0x2028, 0x2029),
   (0x202F, 0x202F), (0x205F, 0x205F), (0x3000, 0x3000)]

/-- Whether the code point has the property White_Space. -/
def isWhiteSpace (c : CodePoint) : Bool := inRanges whiteSpaceRanges c.val

end WebhookBridge.CodePoint
