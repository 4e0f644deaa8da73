import ProxySteward.Text.Digits

/-!
# JSON values and their texts

The values the dashboard and the command line write, with the two layouts in which they are written:
on one line, and with one member or element on a line, indented by two spaces a level.  In a string
only the quote, the backslash and the control characters below the space are escaped.
-/

namespace ProxySteward

open Text

/-- A JSON value whose numbers are whole. -/
inductive Json where
  | null
  | bool (b : Bool)
  | int (i : Int)
  | text (t : Text)
  | array (items : List Json)
  | object (members : List (Text × Json))

namespace Json

/-- A text, or null. -/
def ofText? : Option Text → Json
  | some t => .text t
  | none => .null

/-- A whole number, or null. -/
def ofInt? : Option Int → Json
  | some i => .int i
  | none => .null

/-- An object from names known beforehand. -/
def record (members : List (String × Json)) : Json :=
  .object (members.map fun (name, value) => (name.toList, value))

/-- One character of a string. -/
def escapeChar (c : Char) : Text :=
  if c = '"' then "\\\"".toList
  else if c = '\\' then "\\\\".toList
  else if c = '\n' then "\\n".toList
  else if c = '\r' then "\\r".toList
  else if c = '\t' then "\\t".toList
  else if c.toNat = 8 then "\\b".toList
  else if c.toNat = 12 then "\\f".toList
  else if c.toNat < 0x20 then "\\u00".toList ++ hexByte (UInt8.ofNat c.toNat)
  else [c]

/-- A string in quotes. -/
def quoted (t : Text) : Text := '"' :: t.flatMap escapeChar ++ ['"']

/-- The literal of a truth value. -/
def literal (b : Bool) : Text := if b then "true".toList else "false".toList

/-- Pieces between brackets on one line. -/
def inLine (opening closing : Char) (pieces : List Text) : Text :=
  opening :: [','].intercalate pieces ++ [closing]

mutual

/-- A value on one line. -/
def compact : Json → Text
  | .null => "null".toList
  | .bool b => literal b
  | .int i => Text.ofInt i
  | .text t => quoted t
  | .array items => inLine '[' ']' (compactItems items)
  | .object members => inLine '{' '}' (compactMembers members)

/-- The elements of an array, each on one line. -/
def compactItems : List Json → List Text
  | [] => []
  | v :: vs => compact v :: compactItems vs

/-- The members of an object, each on one line. -/
def compactMembers : List (Text × Json) → List Text
  | [] => []
  | (name, v) :: ms => (quoted name ++ ':' :: compact v) :: compactMembers ms

end

/-- A line feed and the indentation of a level. -/
def newLine (level : Nat) : Text := '\n' :: List.replicate (2 * level) ' '

/-- Pieces between brackets, each on its own line. -/
def inLines (level : Nat) (opening closing : Char) (pieces : List Text) : Text :=
  if pieces.isEmpty then [opening, closing]
  else opening :: newLine (level + 1) ++ (',' :: newLine (level + 1)).intercalate pieces
    ++ newLine level ++ [closing]

mutual

/-- A value over several lines, its first line standing at `level`. -/
def spread (level : Nat) : Json → Text
  | .null => "null".toList
  | .bool b => literal b
  | .int i => Text.ofInt i
  | .text t => quoted t
  | .array items => inLines level '[' ']' (spreadItems level items)
  | .object members => inLines level '{' '}' (spreadMembers level members)

/-- The elements of an array at `level`. -/
def spreadItems (level : Nat) : List Json → List Text
  | [] => []
  | v :: vs => spread (level + 1) v :: spreadItems level vs

/-- The members of an object at `level`. -/
def spreadMembers (level : Nat) : List (Text × Json) → List Text
  | [] => []
  | (name, v) :: ms =>
    (quoted name ++ ": ".toList ++ spread (level + 1) v) :: spreadMembers level ms

end

/-- A value over several lines. -/
def pretty (v : Json) : Text := spread 0 v

end Json
end ProxySteward
