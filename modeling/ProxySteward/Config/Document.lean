import ProxySteward.Key.Row
import ProxySteward.Key.Section

/-!
# Port and secret in a configuration document

Two values of the configuration file decide how the proxy is reached: its port, on the first line
that starts with `port:`, and the secret of its management API, under `remote-management:`.  Both
are read line by line, without reading the rest of the document, so nothing else in it can make them
fail.
-/

namespace ProxySteward
namespace ConfigDocument

open Text

/-- The front of the line that gives the port. -/
def portFront : Text := "port:".toList

/-- The line that opens the section with the secret. -/
def managementHeader : Text := "remote-management:".toList

/-- The front of the line that gives the secret. -/
def secretFront : Text := "secret-key:".toList

/-- A value without the comment behind it; a comment starts with a space and a number sign. -/
def withoutComment (value : Text) : Text :=
  match cut? " #".toList value with
  | some (front, _) => trimEnd front
  | none => value

/-- The port on the first line that gives one; a value that is no port counts as absent. -/
def port? (doc : Text) : Option Nat := do
  let value ← (lines doc).findSome? (dropFront? portFront)
  readBounded? 65535 (withoutComment (trim value))

/-- The secret on the lines that follow; `inside` says that they follow the section's header, with
only indented lines, blank lines and comments since. -/
def secretFrom? (inside : Bool) : List Text → Option Text
  | [] => none
  | line :: rest =>
    if KeySection.isBlankRow line || KeySection.isComment line then secretFrom? inside rest
    else if KeySection.isIndented line then
      match if inside then dropFront? secretFront (trim line) else none with
      | some value => some (KeyRow.unquote (trim value))
      | none => secretFrom? inside rest
    else secretFrom? (trim line == managementHeader) rest

/-- The secret of the management API. -/
def secret? (doc : Text) : Option Text := secretFrom? false (lines doc)

end ConfigDocument
end ProxySteward
