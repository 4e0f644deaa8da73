import ProxySteward.Text.Digits
import ProxySteward.Text.Rows
import ProxySteward.Text.Search
import ProxySteward.Text.Utf8

/-!
# Percent encoding and form encoding

A character that may not stand in a part of an address is written as its UTF-8 bytes, each as a
percent sign and two hexadecimal digits.  Which characters those are depends on the part; every
character outside ASCII is among them.

A query is a list of names and values in form encoding: letters, digits and `* - . _` stand for
themselves, a plus sign for a space, and every other byte is written with a percent sign.
`formPairs` reads a query as the server of the usage report does.
-/

namespace ProxySteward
namespace Url

open Text

/-- A byte as a percent sign and two uppercase hexadecimal digits. -/
def percentByte (b : UInt8) : Text :=
  '%' :: (hexByte b).map Char.toUpper

/-- A text with the characters of a class and all characters outside ASCII encoded. -/
def percentEncode (p : Char → Bool) (t : Text) : Text :=
  t.flatMap fun c => if p c || 0x80 ≤ c.toNat then (encode [c]).flatMap percentByte else [c]

/-- The bytes of a text after its percent signs are read; a percent sign without two hexadecimal
digits stands for itself. -/
def percentDecode : Text → Bytes
  | '%' :: a :: b :: rest =>
    match hexDigit? a, hexDigit? b with
    | some x, some y => UInt8.ofNat (16 * x + y) :: percentDecode rest
    | _, _ => encode ['%'] ++ percentDecode (a :: b :: rest)
  | c :: rest => encode [c] ++ percentDecode rest
  | [] => []
termination_by t => t.length

/-- The control characters. -/
def isControlByte (c : Char) : Bool := c.toNat < 0x20 || c.toNat == 0x7F

/-- What is encoded in a fragment. -/
def inFragment (c : Char) : Bool := isControlByte c || c ∈ [' ', '"', '<', '>', Char.ofNat 96]

/-- What is encoded in a path. -/
def inPath (c : Char) : Bool := inFragment c || c ∈ ['#', '?', '{', '}']

/-- What is encoded in a user name or a password. -/
def inUserInfo (c : Char) : Bool :=
  inPath c || c ∈ ['/', ':', ';', '=', '@', '[', '\\', ']', '^', '|']

/-- Whether a byte stands for itself in form encoding. -/
def isFormByte (b : UInt8) : Bool :=
  (Char.ofNat b.toNat).isAlphanum && b < 0x80 || b ∈ [0x2A, 0x2D, 0x2E, 0x5F]

/-- A byte in form encoding. -/
def formByte (b : UInt8) : Text :=
  if isFormByte b then [Char.ofNat b.toNat] else if b = 0x20 then ['+'] else percentByte b

/-- A name or a value in form encoding. -/
def formEncode (t : Text) : Text := (encode t).flatMap formByte

/-- The text that a name or a value in form encoding stands for. -/
def formDecode (t : Text) : Text :=
  decodeLossy (percentDecode (t.map fun c => if c = '+' then ' ' else c))

/-- Name and value of one piece of a query. -/
def formPair (piece : Text) : Text × Text :=
  match cutAt? '=' piece with
  | some (name, value) => (formDecode name, formDecode value)
  | none => (formDecode piece, [])

/-- The names and values of a query, in its order. -/
def formPairs (query : Text) : List (Text × Text) :=
  ((query.splitOn '&').filter fun piece => !piece.isEmpty).map formPair

end Url
end ProxySteward
