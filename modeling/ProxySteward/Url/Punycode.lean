import ProxySteward.Text.Search

/-!
# Punycode

A label of a domain name with characters outside ASCII is written in ASCII letters, digits and
hyphens: the ASCII characters of the label come first, and behind the last hyphen stand differences
that say where the other characters belong, in the order of their code points.

The writer goes over the label once for each code point that occurs in it (`punyPass`).  The reader
takes one difference after another (`punyDifference?`) and puts one character in for each.
-/

namespace ProxySteward
namespace Url

open Text

/-! ## Digits and thresholds -/

/-- The digit of a value below thirty-six. -/
def punyDigit (d : Nat) : Char := Char.ofNat (if d < 26 then 0x61 + d else 0x30 + (d - 26))

/-- The threshold at a digit's position. -/
def punyThreshold (k bias : Nat) : Nat := max 1 (min 26 (k - bias))

/-- A difference as digits with falling weights. -/
def punyNumber (bias k q : Nat) : Text :=
  let t := punyThreshold k bias
  if q < t then [punyDigit q]
  else punyDigit (t + (q - t) % (36 - t)) :: punyNumber bias (k + 36) ((q - t) / (36 - t))
termination_by q
decreasing_by
  have h : 1 ≤ punyThreshold k bias := Nat.le_max_left _ _
  exact Nat.lt_of_le_of_lt (Nat.div_le_self _ _) (by omega)

/-! ## The bias -/

/-- How often a difference is divided by thirty-five, and what is left. -/
def punyScale (k delta : Nat) : Nat × Nat :=
  if 455 < delta then punyScale (k + 36) (delta / 35) else (k, delta)
termination_by delta
decreasing_by omega

/-- The bias after a difference. -/
def punyBias (delta written : Nat) (first : Bool) : Nat :=
  let d := if first then delta / 700 else delta / 2
  let (k, d) := punyScale 0 (d + d / written)
  k + 36 * d / (d + 38)

/-! ## Writing -/

/-- The state of the writer: digits so far, difference, bias, characters written. -/
structure PunyState where
  digits : Text
  delta : Nat
  bias : Nat
  written : Nat

/-- One pass over the label for the code point `m`. -/
def punyPass (basic m : Nat) (label : Text) (s : PunyState) : PunyState :=
  label.foldl (fun s c =>
    if c.toNat < m then { s with delta := s.delta + 1 }
    else if c.toNat = m then
      { digits := s.digits ++ punyNumber s.bias 36 s.delta
        delta := 0
        bias := punyBias s.delta (s.written + 1) (s.written == basic)
        written := s.written + 1 }
    else s) s

/-- A label with characters outside ASCII in Punycode. -/
def punyLabel (label : Text) : Text :=
  let basic := label.filter (·.toNat < 0x80)
  let points := ((label.filter (0x80 ≤ ·.toNat)).map Char.toNat).mergeSort.eraseDups
  let start : PunyState := ⟨[], 0, 72, basic.length⟩
  let (final, _) := points.foldl (fun (s, n) m =>
    let s := punyPass basic.length m label { s with delta := s.delta + (m - n) * (s.written + 1) }
    ({ s with delta := s.delta + 1 }, m + 1)) (start, 0x80)
  basic ++ (if basic.isEmpty then [] else ['-']) ++ final.digits

/-! ## Reading -/

/-- The value of a digit. -/
def punyValue? (c : Char) : Option Nat :=
  if 'a' ≤ c ∧ c ≤ 'z' then some (c.toNat - 0x61)
  else if 'A' ≤ c ∧ c ≤ 'Z' then some (c.toNat - 0x41)
  else if c.isDigit then some (c.toNat - 0x30 + 26)
  else none

/-- The difference in front, from the digit at position `k` that counts `weight`, and what follows
it. -/
def punyDifference? (bias k weight value : Nat) : Text → Option (Nat × Text)
  | [] => none
  | c :: cs => (punyValue? c).bind fun d =>
    let t := punyThreshold k bias
    if d < t then some (value + d * weight, cs)
    else punyDifference? bias (k + 36) (weight * (36 - t)) (value + d * weight) cs

/-- A label with the characters put in that the differences stand for.  `point` and `place` are the
code point and the place reached so far; each round reads a digit, so `rounds` may be the number of
digits. -/
def punyInsert? :
    (rounds : Nat) → (point place bias : Nat) → (label digits : Text) → Option Text
  | _, _, _, _, label, [] => some label
  | 0, _, _, _, _, _ => none
  | rounds + 1, point, place, bias, label, digits =>
    (punyDifference? bias 36 1 0 digits).bind fun (delta, rest) =>
      let length := label.length + 1
      let point := point + (place + delta) / length
      let here := (place + delta) % length
      if point.isValidChar then
        punyInsert? rounds point (here + 1) (punyBias delta length (place == 0))
          (label.insertIdx here (Char.ofNat point)) rest
      else none

/-- The label that a written one stands for; a hyphen in front of everything divides nothing. -/
def readPuny? (written : Text) : Option Text :=
  match written.reverse.span (· != '-') with
  | (_, [_]) => none
  | (digits, _ :: basic) =>
    punyInsert? written.length 0x80 0 72 basic.reverse digits.reverse
  | (_, []) => punyInsert? written.length 0x80 0 72 [] written

end Url
end ProxySteward
