import ProxySteward.Text.Direction
import ProxySteward.Text.Joining
import ProxySteward.Url.NameMapping
import ProxySteward.Url.Percent
import ProxySteward.Url.Punycode

/-!
# Domain names

A domain name is a sequence of labels between dots, and it is written in ASCII: a label with other
characters is written in Punycode behind the mark `xn--`.  `asciiDomain?` brings a name to the form
in which names are compared (`foldName?`), reads the labels that carry the mark, and writes all of
them.

## What a label may hold

No label holds a character with a meaning in addresses, and none begins with a combining mark.  The
two characters that join letters without a sign of their own stand only where they show: behind the
sign that joins consonants, or, for the one that keeps letters apart, between letters that would
join.  A label behind the mark must need it, and must stand for a label in the form in which names
are compared.

## Two directions

If one label of a name is written from right to left, every label has to be of one direction: it
begins with a letter, it ends with a letter or a digit of its direction, and the two kinds of digits
do not meet in it.
-/

namespace ProxySteward
namespace Url

open Text

/-! ## Characters -/

/-- The characters no host may hold. -/
def isForbiddenInHost (c : Char) : Bool :=
  c ∈ [Char.ofNat 0, '\t', '\n', '\r', ' ', '#', '/', ':', '<', '>', '?', '@', '[', '\\', ']',
    '^', '|']

/-- The characters no domain name may hold. -/
def isForbiddenInDomain (c : Char) : Bool :=
  isForbiddenInHost c || isControlByte c || c == '%'

/-- Whether all characters of a label are of ASCII. -/
def isAscii (label : Text) : Bool := label.all (·.toNat < 0x80)

/-! ## Joiners -/

/-- The character that keeps two letters apart. -/
def nonJoiner : Char := Char.ofNat 0x200C

/-- The character that joins two letters. -/
def joiner : Char := Char.ofNat 0x200D

/-- Whether a character may stand between others; those in front are listed from the last to the
first. -/
def joinerFits (front : Text) (c : Char) (behind : Text) : Bool :=
  if c == nonJoiner || c == joiner then
    front.head?.any isVirama
      || (c == nonJoiner && (nextJoining? front).any reachesForward
        && (nextJoining? behind).any reachesBack)
  else true

/-- Whether the joiners of a label stand where they may; `front` is what stands in front of it, from
the last to the first. -/
def joinersFit (front : Text) : Text → Bool
  | [] => true
  | c :: cs => joinerFits front c cs && joinersFit (c :: front) cs

/-! ## Directions -/

/-- Whether the characters of a label agree on the direction of its first one.  The marks at the end
do not count as its end. -/
def isDirected (label : Text) : Bool :=
  let directions := label.map direction
  match directions.head?, (directions.reverse.dropWhile (· == .mark)).head? with
  | some .leftToRight, some last =>
    (last == .leftToRight || last == .digit)
      && directions.all fun d => d != .rightToLeft && d != .arabicDigit
  | some .rightToLeft, some last =>
    (last == .rightToLeft || last == .digit || last == .arabicDigit)
      && directions.all (· != .leftToRight)
      && !(directions.contains .digit && directions.contains .arabicDigit)
  | first, _ => first.isNone

/-! ## Labels -/

/-- The mark in front of a label that is written in Punycode. -/
def punyFront : Text := "xn--".toList

/-- The longest label that is read from Punycode. -/
def longestRead : Nat := 2000

/-- The longest label that is written in Punycode. -/
def longestWritten : Nat := 1000

/-- The label that a part of a folded name stands for. -/
def label? (part : Text) : Option Text :=
  match dropFront? punyFront part with
  | some written =>
    if isAscii written && written.length ≤ longestRead then
      (readPuny? written).filter fun label => !isAscii label && isFolded label
    else none
  | none => some part

/-- Whether a label may stand in a name. -/
def isLabel (label : Text) : Bool :=
  !label.any isForbiddenInDomain && !label.head?.any isMark && joinersFit [] label
    && (isAscii label || label.length ≤ longestWritten)

/-- A label as it is written. -/
def writeLabel (label : Text) : Text :=
  if isAscii label then label else punyFront ++ punyLabel label

/-! ## Names -/

/-- A domain name in the form in which it is written. -/
def asciiDomain? (t : Text) : Option Text := do
  let labels ← ((← foldName? t).splitOn '.').mapM label?
  if labels.all isLabel && (!labels.any (·.any isRightward) || labels.all isDirected) then
    some (['.'].intercalate (labels.map writeLabel))
  else none

end Url
end ProxySteward
