import ProxySteward.Text.Digits

/-!
# Doubles

Shares and short counts are computed with double precision, so the digits shown are those of the
nearest double and not of the exact quotient.  A `Double` here is a sign, a significand of at most
53 bits and a power of two; `Double.nearest` rounds a quotient of whole numbers to it, ties going to
the even significand, and everything else is exact arithmetic on whole numbers around that one
function.

The exponent has no bounds: a magnitude beyond the range of doubles is one for which
`Double.isFinite` is false, and magnitudes below `2 ^ -1022` do not occur.
-/

namespace ProxySteward

open Text

/-- The quotient of two numbers, rounded to the nearest number; a tie goes to the even one. -/
def roundedDiv (num den : Nat) : Nat :=
  let q := num / den
  let r := num % den
  if 2 * r < den then q
  else if den < 2 * r then q + 1
  else if q % 2 = 0 then q else q + 1

/-- The number `± significand * 2 ^ exponent`. -/
structure Double where
  negative : Bool
  significand : Nat
  exponent : Int
  deriving DecidableEq, Repr

namespace Double

/-- Numerator and denominator of `n * 2 ^ e` and one more divisor `den`. -/
def scaled (n den : Nat) (e : Int) : Nat × Nat :=
  match e with
  | .ofNat k => (n * Nat.pow 2 k, den)
  | .negSucc k => (n, den * Nat.pow 2 (k + 1))

/-- The double nearest to `± num / den`. -/
def nearest (negative : Bool) (num den : Nat) : Double :=
  if num = 0 then ⟨negative, 0, 0⟩
  else
    let guess : Int := (Nat.log2 num : Int) - (Nat.log2 den : Int) - 52
    let (n, d) := scaled num den (-guess)
    let e := if n / d < Nat.pow 2 52 then guess - 1 else guess
    let (n, d) := scaled num den (-e)
    let m := roundedDiv n d
    if m = Nat.pow 2 53 then ⟨negative, Nat.pow 2 52, e + 1⟩ else ⟨negative, m, e⟩

/-- The magnitude as a fraction. -/
def fraction (x : Double) : Nat × Nat := scaled x.significand 1 x.exponent

/-- The double nearest to a whole number. -/
def ofInt (i : Int) : Double := nearest (i < 0) i.natAbs 1

/-- The double nearest to a quotient. -/
def div (x y : Double) : Double :=
  nearest (x.negative != y.negative) (x.fraction.1 * y.fraction.2) (x.fraction.2 * y.fraction.1)

/-- The double nearest to a product. -/
def mul (x y : Double) : Double :=
  nearest (x.negative != y.negative) (x.fraction.1 * y.fraction.1) (x.fraction.2 * y.fraction.2)

/-- Whether a number of this form is below the end of the range of doubles. -/
def isFinite (x : Double) : Bool := x.exponent ≤ 971

/-- The bits of the double in the interchange format. -/
def bits (x : Double) : Nat :=
  (if x.negative then Nat.pow 2 63 else 0)
    + (if x.significand = 0 then 0
      else (x.exponent + 1075).toNat * Nat.pow 2 52 + (x.significand - Nat.pow 2 52))

/-- The number with one decimal, the exact value rounded to it. -/
def oneDecimal (x : Double) : Text :=
  let tenths := roundedDiv (10 * x.fraction.1) x.fraction.2
  (if x.negative then ['-'] else []) ++ ofNat (tenths / 10) ++ '.' :: ofNat (tenths % 10)

end Double
end ProxySteward
