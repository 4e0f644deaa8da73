import ProxySteward.Text.Blank

/-!
# Numbers as decimal text

Whole numbers are written in ASCII digits.  A reader takes any number of leading zeros; a bounded
reader also takes one plus sign and refuses what lies beyond the bound.
-/

namespace ProxySteward.Text

/-- The value of an ASCII digit. -/
def digit? (c : Char) : Option Nat :=
  if c.isDigit then some (c.toNat - '0'.toNat) else none

/-- The value of a text of digits, continuing from the value of the digits before it. -/
def readDigits? (value : Nat) : Text → Option Nat
  | [] => some value
  | c :: cs => (digit? c).bind fun d => readDigits? (10 * value + d) cs

/-- A number of at least one digit. -/
def readNat? : Text → Option Nat
  | [] => none
  | c :: cs => readDigits? 0 (c :: cs)

/-- A number of at least one digit, perhaps after a plus sign, and at most `bound`. -/
def readBounded? (bound : Nat) (t : Text) : Option Nat :=
  (readNat? (match t with | '+' :: cs => cs | cs => cs)).filter (· ≤ bound)

/-- The decimal digits of a number, without leading zeros. -/
def ofNat (n : Nat) : Text := Nat.toDigits 10 n

/-- A whole number in decimal digits, with a minus sign below zero. -/
def ofInt : Int → Text
  | .ofNat n => ofNat n
  | .negSucc n => '-' :: ofNat (n + 1)

/-- The value of a hexadecimal digit in either letter case. -/
def hexDigit? (c : Char) : Option Nat :=
  if c.isDigit then some (c.toNat - '0'.toNat)
  else if 'a' ≤ c ∧ c ≤ 'f' then some (c.toNat - 'a'.toNat + 10)
  else if 'A' ≤ c ∧ c ≤ 'F' then some (c.toNat - 'A'.toNat + 10)
  else none

/-- Two lowercase hexadecimal digits. -/
def hexByte (b : UInt8) : Text :=
  [Nat.digitChar (b.toNat / 16), Nat.digitChar (b.toNat % 16)]

end ProxySteward.Text
