import ProxySteward.Key.Record

/-!
# Rows of the key list

A key row is a list item of the configuration file: a dash, the key with or without quotes, and
perhaps a comment.  A row behind a number sign is a record too, but a disabled one, so an operator
may comment a key out by hand.  `KeyRow.write` has one form only,

```text
  - "key" # disabled # note
```

while `KeyRow.read?` accepts more: any indentation, single quotes, no quotes, a commented-out row, a
comment in which the marker stands anywhere.
-/

namespace ProxySteward
namespace KeyRow

open Text KeyRecord

/-- Without quote characters of either kind at either end. -/
def unquote (t : Text) : Text := trimBoth (fun c => c == '"' || c == '\'') t

/-- The comment behind a number sign, empty if something else stands there. -/
def commentOf : Text → Text
  | '#' :: comment => trim comment
  | _ => []

/-- Key and comment of an item that does not start with a closed quotation: the first number sign
divides them. -/
def splitBare (item : Text) : Text × Text :=
  match cutAt? '#' item with
  | some (key, comment) => (unquote (trim key), trim comment)
  | none => (unquote (trim item), [])

/-- Key and comment of an item.  In a quoted key a number sign is an ordinary character. -/
def split : (item : Text) → Text × Text
  | [] => splitBare []
  | q :: rest =>
    if q = '"' ∨ q = '\'' then
      match cutAt? q rest with
      | some (key, after) => (trim key, commentOf (trimStart after))
      | none => splitBare (q :: rest)
    else splitBare (q :: rest)

/-- The record of a trimmed list item; `out` says that the whole row is commented out. -/
def readItem? (out : Bool) : Text → Option KeyRecord
  | '-' :: rest =>
    let (key, comment) := split (trimStart rest)
    if key.isEmpty then none
    else some ⟨key, plainNote comment, !(out || isMarked comment)⟩
  | _ => none

/-- The record a row holds, if it holds one. -/
def read? (row : Text) : Option KeyRecord :=
  match trim row with
  | '#' :: rest => readItem? true (trimStart rest)
  | item => readItem? false item

/-- The row of a record. -/
def write (r : KeyRecord) : Text :=
  "  - \"".toList ++ r.key ++ "\"".toList
    ++ (if r.enabled then [] else " # disabled".toList)
    ++ (if r.note.isEmpty then [] else " # ".toList ++ r.note)

end KeyRow
end ProxySteward
