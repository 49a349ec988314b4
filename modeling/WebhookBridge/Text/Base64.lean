import WebhookBridge.Text.Basic

/-!
# Base64

Octets as letters, digits and two marks: three octets make four code points, and equals signs fill up the last four.
-/

namespace WebhookBridge

/-- The code points of base64, by value. -/
def base64Alphabet : Text := "ABCDEFGHIJKLMNOPQRSTUVWXYZabcdefghijklmnopqrstuvwxyz0123456789+/"

/-- The code point of a value below 64; larger values are taken modulo 64. -/
def base64Digit (n : Nat) : CodePoint := (base64Alphabet[n % 64]?).getD '='

/-- The text of octets in base64. -/
def base64 : Octets → Text
  | a :: b :: c :: rest =>
    base64Digit (a.val / 4) :: base64Digit (a.val * 16 + b.val / 16) :: base64Digit (b.val * 4 + c.val / 64) ::
      base64Digit c.val :: base64 rest
  | [a, b] =>
    [base64Digit (a.val / 4), base64Digit (a.val * 16 + b.val / 16), base64Digit (b.val * 4), '=']
  | [a] => [base64Digit (a.val / 4), base64Digit (a.val * 16), '=', '=']
  | [] => []

end WebhookBridge
