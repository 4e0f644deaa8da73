import ProxySteward.Url.DomainName

/-!
# Hosts of addresses

The host of a web address is a domain name, an IPv4 address in any of its number forms, or an IPv6
address in brackets.  `Url.readHost?` brings each to the one form in which it is written: a domain
name in ASCII, four decimal numbers, or the shortest run of hexadecimal groups.  A name that ends in
a number is an IPv4 address, whatever alphabet its digits are of.  Schemes that are not web schemes
take their hosts verbatim.
-/

namespace ProxySteward
namespace Url

open Text

/-! ## IPv4 -/

/-- A part of an IPv4 address: hexadecimal after `0x`, octal after `0`, decimal otherwise. -/
def ipv4Part? : Text → Option Nat
  | [] => none
  | '0' :: 'x' :: digits => readBase? 16 digits
  | '0' :: 'X' :: digits => readBase? 16 digits
  | '0' :: d :: digits => readBase? 8 (d :: digits)
  | digits => readBase? 10 digits

/-- The dot-separated parts of a name without an empty last one. -/
def dotParts (t : Text) : List Text :=
  let parts := t.splitOn '.'
  if parts.getLast? = some [] then parts.dropLast else parts

/-- Whether a name has to be read as an IPv4 address: its last part is a number. -/
def endsInNumber (t : Text) : Bool :=
  match (dotParts t).getLast? with
  | some part => (!part.isEmpty && part.all Char.isDigit) || (ipv4Part? part).isSome
  | none => false

/-- The value of an IPv4 address: every part but the last is one byte, the last fills what is
left. -/
def ipv4? (t : Text) : Option Nat := do
  let parts ← (dotParts t).mapM ipv4Part?
  let last ← parts.getLast?
  let front := parts.dropLast
  if parts.length ≤ 4 && last < Nat.pow 256 (4 - front.length) && front.all (· < 256) then
    some (front.foldl (fun v p => 256 * v + p) 0 * Nat.pow 256 (4 - front.length) + last)
  else none

/-- An IPv4 address as four decimal numbers. -/
def writeIpv4 (v : Nat) : Text :=
  ['.'].intercalate ([v / 16777216 % 256, v / 65536 % 256, v / 256 % 256, v % 256].map Text.ofNat)

/-! ## IPv6 -/

/-- A group of one to four hexadecimal digits. -/
def ipv6Group? (t : Text) : Option Nat :=
  if t.isEmpty || 4 < t.length then none else readBase? 16 t

/-- A byte in decimal, without a leading zero. -/
def decimalByte? (t : Text) : Option Nat :=
  if 1 < t.length && t.head? == some '0' then none
  else if t.length ≤ 3 then readBounded? 255 (if t.head? == some '+' then [] else t) else none

/-- Four decimal bytes as two groups. -/
def ipv4Groups? (t : Text) : Option (List Nat) := do
  match ← (t.splitOn '.').mapM decimalByte? with
  | [a, b, c, d] => some [256 * a + b, 256 * c + d]
  | _ => none

/-- The groups of one side of an IPv6 address; the last two may be four decimal bytes. -/
def ipv6Side? (t : Text) : Option (List Nat) :=
  if t.isEmpty then some [] else do
    let parts := t.splitOn ':'
    let front ← parts.dropLast.mapM ipv6Group?
    let last ← parts.getLast?
    let groups ← if last.contains '.' then ipv4Groups? last else (ipv6Group? last).map ([·])
    some (front ++ groups)

/-- The eight groups of an IPv6 address; two colons stand for the groups that are missing. -/
def ipv6? (t : Text) : Option (List Nat) :=
  match cut? "::".toList t with
  | some (left, right) => do
    if left.contains '.' then none else
    let l ← ipv6Side? left
    let r ← ipv6Side? right
    if l.length + r.length ≤ 7 then
      some (l ++ List.replicate (8 - l.length - r.length) 0 ++ r)
    else none
  | none => (if t.isEmpty then none else ipv6Side? t).filter (·.length == 8)

/-- How many groups in front are zero. -/
def zerosInFront (groups : List Nat) : Nat := (groups.takeWhile (· == 0)).length

/-- Start and length of the first longest run of zero groups; `i` groups stand before. -/
def longestZeros (i : Nat) : List Nat → Nat × Nat
  | [] => (i, 0)
  | g :: gs =>
    let here := zerosInFront (g :: gs)
    let later := longestZeros (i + 1) gs
    if later.2 ≤ here then (i, here) else later

/-- Groups with a colon between each two. -/
def writeGroups (groups : List Nat) : Text :=
  [':'].intercalate (groups.map fun g => Nat.toDigits 16 g)

/-- An IPv6 address in brackets, with its longest run of at least two zero groups left out. -/
def writeIpv6 (groups : List Nat) : Text :=
  let (start, length) := longestZeros 0 groups
  '[' :: (if 2 ≤ length then
    writeGroups (groups.take start) ++ "::".toList ++ writeGroups (groups.drop (start + length))
  else writeGroups groups) ++ [']']

/-! ## Hosts -/

/-- The content of brackets around the whole text. -/
def bracketed? : Text → Option Text
  | '[' :: rest => if rest.getLast? = some ']' then some rest.dropLast else none
  | _ => none

/-- The host of a web address, as it is written. -/
def readHost? (t : Text) : Option Text :=
  if t.head? = some '[' then (bracketed? t).bind fun inner => (ipv6? inner).map writeIpv6
  else (asciiDomain? (decodeLossy (percentDecode t))).bind fun name =>
    if name.isEmpty then none
    else if endsInNumber name then (ipv4? name).map writeIpv4
    else some name

/-- The host of any other address, as it is written. -/
def readVerbatimHost? (t : Text) : Option Text :=
  if t.head? = some '[' then (bracketed? t).bind fun inner => (ipv6? inner).map writeIpv6
  else if t.any isForbiddenInHost then none
  else some (percentEncode isControlByte t)

end Url
end ProxySteward
