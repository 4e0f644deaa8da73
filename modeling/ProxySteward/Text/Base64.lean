import ProxySteward.Text.Utf8

/-!
# Base64

Three bytes are written as four letters of six bits each; a last group of one or two bytes is filled
up with equals signs.
-/

namespace ProxySteward
namespace Text

/-- The letter of a number of six bits. -/
def base64Letter (n : Nat) : Char :=
  if n < 26 then Char.ofNat (0x41 + n)
  else if n < 52 then Char.ofNat (0x61 + (n - 26))
  else if n < 62 then Char.ofNat (0x30 + (n - 52))
  else if n = 62 then '+' else '/'

/-- The letters of the lowest six bits of `n`, and of the three groups of six bits above them. -/
def base64Letters (n : Nat) : Text :=
  [n / 262144, n / 4096, n / 64, n].map fun m => base64Letter (m % 64)

/-- Bytes as letters. -/
def base64 : Bytes → Text
  | a :: b :: c :: rest =>
    base64Letters ((a.toNat * 256 + b.toNat) * 256 + c.toNat) ++ base64 rest
  | [a, b] => (base64Letters ((a.toNat * 256 + b.toNat) * 256)).take 3 ++ ['=']
  | [a] => (base64Letters (a.toNat * 256 * 256)).take 2 ++ ['=', '=']
  | [] => []

end Text
end ProxySteward
