import ProxySteward.Log.Entry
import ProxySteward.Text.ByteLines
import ProxySteward.Text.Rows

/-!
# Following a log file

Following starts with the last lines of the file.  The bytes are cut into lines first and read as
text line by line, so a line that is not text ends the following and the lines before it still
arrive.
-/

namespace ProxySteward
namespace LogFollow

open Text

/-- How many lines of the file are shown when following starts. -/
def initialLines : Nat := 100

/-- The last lines of a file. -/
def lastLines (content : Bytes) : List Bytes :=
  let ls := byteLines content
  ls.drop (ls.length - initialLines)

/-- The text of a line without the line feed and the carriage return in front of it. -/
def lineText? (line : Bytes) : Option Text :=
  (decode? line).map fun t => if t.getLast? = some '\n' then dropReturn t.dropLast else t

/-- The entries of the lines in front of the first line that is not text, and whether there is no
such line. -/
def readable : List Bytes → List LogEntry × Bool
  | [] => ([], true)
  | line :: rest =>
    match lineText? line with
    | some t => ((readable rest).1.cons (LogEntry.classify t), (readable rest).2)
    | none => ([], false)

/-- The entries that arrive when the following of a file starts, and whether it goes on after them;
a file that is missing shows nothing. -/
def start (content : Option Bytes) : List LogEntry × Bool :=
  match content with
  | some bytes => readable (lastLines bytes)
  | none => ([], true)

end LogFollow
end ProxySteward
