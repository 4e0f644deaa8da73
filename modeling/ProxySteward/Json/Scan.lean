import ProxySteward.Number.Double
import ProxySteward.Text.Utf8

/-!
# The parts of a JSON text

Readers of single parts: blanks, words, numbers, strings, and values that are passed over.  Each
takes the bytes from where it stands and gives back the bytes after what it read.

## Two faults

A text can be malformed, or well-formed and of the wrong type.  Which of the two is reported depends
on which is met first, and a scalar of the wrong type is read to its end before the type is held
against it; `Json.mistypedAt` is that rule.

## Numbers

A number that is looked at must lie in the range of doubles.  That is decided from its leading
digits, as many as fit 64 bits, times a power of ten: both factors and their product are rounded, so
close to the end of the range the outcome hangs on how the number is written.

## Values passed over

A value nobody asked for is checked for its grammar only: its numbers may have any size, its strings
are not checked for characters that do not exist, and it may be nested to any depth.
-/

namespace ProxySteward

open Text

/-- Why a JSON text cannot be read. -/
inductive JsonFault where
  | malformed
  | mistyped
  deriving DecidableEq, Repr

namespace Json

/-- The outcome of reading a part: what was read, and the bytes after it. -/
abbrev Read (α : Type) := Except JsonFault (α × Bytes)

/-- The bytes after the blanks in front. -/
def skipBlank : Bytes → Bytes
  | [] => []
  | b :: rest =>
    if b = 0x20 ∨ b = 0x0A ∨ b = 0x0D ∨ b = 0x09 then skipBlank rest else b :: rest

/-- The bytes after a word, which must stand in front. -/
def word : (letters : Bytes) → Bytes → Except JsonFault Bytes
  | [], rest => .ok rest
  | _ :: _, [] => .error .malformed
  | l :: ls, b :: rest => if l = b then word ls rest else .error .malformed

/-- The word for no value. -/
def nullWord : Bytes := encode "null".toList

/-- The word for truth. -/
def trueWord : Bytes := encode "true".toList

/-- The word for falsehood. -/
def falseWord : Bytes := encode "false".toList

/-! ## Numbers -/

/-- A number as it is written: digits of the whole and the fractional part, and the exponent. -/
structure Numeral where
  negative : Bool
  whole : List Nat
  fraction : Option (List Nat)
  exponent : Option Int
  deriving Repr

/-- The digits in front and the bytes after them. -/
def spanDigits : Bytes → List Nat × Bytes
  | [] => ([], [])
  | b :: rest =>
    if 0x30 ≤ b ∧ b ≤ 0x39 then
      let (ds, rest) := spanDigits rest
      ((b.toNat - 0x30) :: ds, rest)
    else ([], b :: rest)

/-- The value of digits. -/
def digitsValue (ds : List Nat) : Nat := ds.foldl (fun v d => 10 * v + d) 0

/-- The whole part of a number, which starts with a zero only if it is zero. -/
def wholePart (input : Bytes) : Read (List Nat) :=
  match spanDigits input with
  | ([], _) => .error .malformed
  | (0 :: _ :: _, _) => .error .malformed
  | (ds, rest) => .ok (ds, rest)

/-- The fractional part of a number, if a point stands in front. -/
def fractionPart : Bytes → Read (Option (List Nat))
  | 0x2E :: rest =>
    match spanDigits rest with
    | ([], _) => .error .malformed
    | (ds, rest) => .ok (some ds, rest)
  | rest => .ok (none, rest)

/-- The digits of an exponent. -/
def exponentDigits (sign : Int) (input : Bytes) : Read (Option Int) :=
  match spanDigits input with
  | ([], _) => .error .malformed
  | (ds, rest) => .ok (some (sign * digitsValue ds), rest)

/-- The exponent of a number, if one stands in front. -/
def exponentPart : Bytes → Read (Option Int)
  | b :: rest =>
    if b = 0x65 ∨ b = 0x45 then
      match rest with
      | 0x2B :: rest => exponentDigits 1 rest
      | 0x2D :: rest => exponentDigits (-1) rest
      | rest => exponentDigits 1 rest
    else .ok (none, b :: rest)
  | [] => .ok (none, [])

/-- A number of any size. -/
def numeral (input : Bytes) : Except JsonFault (Numeral × Bytes) := do
  let (negative, input) := match input with
    | 0x2D :: rest => (true, rest)
    | rest => (false, rest)
  let (whole, input) ← wholePart input
  let (fraction, input) ← fractionPart input
  let (exponent, input) ← exponentPart input
  .ok (⟨negative, whole, fraction, exponent⟩, input)

/-- The number as a whole number, if it is written as one; zero has no sign. -/
def Numeral.whole? (n : Numeral) : Option Int :=
  match n.fraction, n.exponent with
  | none, none =>
    let v := digitsValue n.whole
    if n.negative then (if v = 0 then none else some (-v)) else some v
  | _, _ => none

/-- The number that digits make of `v`, as long as it has 64 bits, and how many digits are left
over. -/
def takeDigits (v : Nat) : List Nat → Nat × Nat
  | [] => (v, 0)
  | d :: ds =>
    if 10 * v + d < Nat.pow 2 64 then takeDigits (10 * v + d) ds else (v, (d :: ds).length)

/-- The leading digits of a number and the power of ten they count. -/
def Numeral.scaled (n : Numeral) : Nat × Int :=
  let fraction := n.fraction.getD []
  let (v, left) := takeDigits 0 n.whole
  let (v, unread) := takeDigits v fraction
  (v, left - ((fraction.length - unread : Nat) : Int) + n.exponent.getD 0)

/-- Whether the leading digits times their power of ten, each rounded to a double, have a product in
the range of doubles. -/
def Numeral.isFinite (n : Numeral) : Bool :=
  match n.scaled with
  | (0, _) => true
  | (v, .ofNat e) =>
    e ≤ 308 && ((Double.nearest false v 1).mul (Double.nearest false (Nat.pow 10 e) 1)).isFinite
  | (_, .negSucc _) => true

/-- A number in the range of doubles. -/
def finiteNumeral (input : Bytes) : Except JsonFault (Numeral × Bytes) := do
  let (n, rest) ← numeral input
  if n.isFinite then .ok (n, rest) else .error .malformed

/-- Whether a number starts with a byte. -/
def startsNumber (b : UInt8) : Bool := b = 0x2D || (0x30 ≤ b && b ≤ 0x39)

/-! ## Strings -/

/-- The byte that a letter behind a backslash stands for. -/
def escaped? (b : UInt8) : Option UInt8 :=
  if b = 0x22 ∨ b = 0x5C ∨ b = 0x2F then some b
  else if b = 0x62 then some 0x08
  else if b = 0x66 then some 0x0C
  else if b = 0x6E then some 0x0A
  else if b = 0x72 then some 0x0D
  else if b = 0x74 then some 0x09
  else none

/-- The value of four hexadecimal digits. -/
def hexValue? (a b c d : UInt8) : Option Nat := do
  let digit (x : UInt8) := hexDigit? (Char.ofNat x.toNat)
  some ((((← digit a) * 16 + (← digit b)) * 16 + (← digit c)) * 16 + (← digit d))

/-- Whether a code unit is the first one of a pair. -/
def isHighUnit (n : Nat) : Bool := 0xD800 ≤ n && n ≤ 0xDBFF

/-- Whether a code unit is the second one of a pair. -/
def isLowUnit (n : Nat) : Bool := 0xDC00 ≤ n && n ≤ 0xDFFF

/-- Puts bytes in front of the content of a string. -/
def onto (front : Bytes) : Read Bytes → Read Bytes
  | .ok (content, rest) => .ok (front ++ content, rest)
  | .error f => .error f

/-- The bytes of a string behind its opening quote; code units come alone or in proper pairs. -/
def stringBytes : Bytes → Read Bytes
  | 0x22 :: rest => .ok ([], rest)
  | 0x5C :: 0x75 :: a :: b :: c :: d :: rest =>
    match hexValue? a b c d with
    | some n =>
      if isLowUnit n then .error .malformed
      else if isHighUnit n then
        match rest with
        | 0x5C :: 0x75 :: a' :: b' :: c' :: d' :: rest' =>
          match hexValue? a' b' c' d' with
          | some m =>
            if isLowUnit m then
              onto (encode [Char.ofNat (0x10000 + (n - 0xD800) * 0x400 + (m - 0xDC00))])
                (stringBytes rest')
            else .error .malformed
          | none => .error .malformed
        | _ => .error .malformed
      else onto (encode [Char.ofNat n]) (stringBytes rest)
    | none => .error .malformed
  | 0x5C :: e :: rest =>
    match escaped? e with
    | some b => onto [b] (stringBytes rest)
    | none => .error .malformed
  | b :: rest => if b < 0x20 then .error .malformed else onto [b] (stringBytes rest)
  | [] => .error .malformed

/-- The text of a string behind its opening quote. -/
def stringText (input : Bytes) : Read Text :=
  match stringBytes input with
  | .ok (bytes, rest) => match decode? bytes with
    | some t => .ok (t, rest)
    | none => .error .malformed
  | .error f => .error f

/-- The bytes after a string that is passed over, from behind its opening quote. -/
def skipString : Bytes → Except JsonFault Bytes
  | 0x22 :: rest => .ok rest
  | 0x5C :: 0x75 :: a :: b :: c :: d :: rest =>
    if (hexValue? a b c d).isSome then skipString rest else .error .malformed
  | 0x5C :: e :: rest => if (escaped? e).isSome then skipString rest else .error .malformed
  | b :: rest => if b < 0x20 then .error .malformed else skipString rest
  | [] => .error .malformed

/-! ## Types that do not fit -/

/-- The fault of a value that stands where another type is asked for. -/
def mistypedAt (input : Bytes) : JsonFault :=
  let after {α : Type} : Except JsonFault α → JsonFault
    | .ok _ => .mistyped
    | .error f => f
  match input with
  | [] => .malformed
  | b :: rest =>
    if b = 0x6E then after (word nullWord input)
    else if b = 0x74 then after (word trueWord input)
    else if b = 0x66 then after (word falseWord input)
    else if b = 0x22 then after (stringText rest)
    else if b = 0x5B ∨ b = 0x7B then .mistyped
    else if startsNumber b then after (finiteNumeral input)
    else .malformed

/-! ## Values that are passed over -/

/-- What may stand next while a value is passed over. -/
inductive Expected where
  | value
  /-- A value, or the end of the array just opened. -/
  | valueOrEnd
  | name
  /-- A name, or the end of the object just opened. -/
  | nameOrEnd
  /-- What may stand behind a value. -/
  | separator

/-- The containers that are open, the innermost first. -/
inductive Container where
  | array
  | object

/-- The bytes after the value that is passed over.  Each round reads at least one byte or ends, so
`rounds` may be the number of bytes and two more. -/
def skipFrom : (rounds : Nat) → Expected → List Container → Bytes → Except JsonFault Bytes
  | 0, _, _, _ => .error .malformed
  | n + 1, expected, opened, input =>
    match expected, opened, skipBlank input with
    | .separator, [], rest => .ok rest
    | .separator, .array :: _, 0x2C :: rest => skipFrom n .value opened rest
    | .separator, .array :: outer, 0x5D :: rest => skipFrom n .separator outer rest
    | .separator, .object :: _, 0x2C :: rest => skipFrom n .name opened rest
    | .separator, .object :: outer, 0x7D :: rest => skipFrom n .separator outer rest
    | .separator, _, _ => .error .malformed
    | .valueOrEnd, .array :: outer, 0x5D :: rest => skipFrom n .separator outer rest
    | .nameOrEnd, .object :: outer, 0x7D :: rest => skipFrom n .separator outer rest
    | .name, _, 0x22 :: rest | .nameOrEnd, _, 0x22 :: rest =>
      match skipString rest with
      | .ok rest => match skipBlank rest with
        | 0x3A :: rest => skipFrom n .value opened rest
        | _ => .error .malformed
      | .error f => .error f
    | .name, _, _ | .nameOrEnd, _, _ => .error .malformed
    | _, _, b :: rest =>
      if b = 0x5B then skipFrom n .valueOrEnd (.array :: opened) rest
      else if b = 0x7B then skipFrom n .nameOrEnd (.object :: opened) rest
      else
        let scalar : Except JsonFault Bytes :=
          if b = 0x22 then skipString rest
          else if b = 0x6E then word nullWord (b :: rest)
          else if b = 0x74 then word trueWord (b :: rest)
          else if b = 0x66 then word falseWord (b :: rest)
          else if startsNumber b then (numeral (b :: rest)).map (·.2)
          else .error .malformed
        match scalar with
        | .ok rest => skipFrom n .separator opened rest
        | .error f => .error f
    | _, _, [] => .error .malformed

/-- The bytes after a value that is passed over. -/
def skip (input : Bytes) : Except JsonFault Bytes :=
  skipFrom (input.length + 2) .value [] input

end Json
end ProxySteward
