import ProxySteward.Key.Row
import ProxySteward.Text.Rows

/-!
# The key section of a document

The key list stands in one section of the configuration file, under the header `api-keys:`.  The
section reaches to the first later row that is neither indented nor blank nor a comment; blank rows
and comments directly in front of that row belong to what follows, except comments that hold a key.

`KeySection.find?` cuts the rows of a document into the rows before the header, the header, the rows
of the section and the rows after it.  Nothing is lost in the cut (`find?_rows`), and an edit
replaces the middle part only.
-/

namespace ProxySteward

open Text

/-- The rows of a document, cut at its key section. -/
structure KeySection where
  before : List Text
  header : Text
  body : List Text
  after : List Text

namespace KeySection

/-- The row that opens the section. -/
def headerRow : Text := "api-keys:".toList

/-- Whether a row opens the section, whatever blanks surround it. -/
def isHeader (row : Text) : Bool := trim row == headerRow

/-- Whether a row starts with a space or a tab. -/
def isIndented : Text → Bool
  | c :: _ => c == ' ' || c == '\t'
  | [] => false

/-- Whether the first character of a row that is not blank is a number sign. -/
def isComment (row : Text) : Bool := (trim row).head? == some '#'

/-- Whether a row is blank. -/
def isBlankRow (row : Text) : Bool := (trim row).isEmpty

/-- Whether a row after the header can still belong to the section. -/
def belongs (row : Text) : Bool := isIndented row || isBlankRow row || isComment row

/-- Whether a row at the end of the section belongs to what follows instead. -/
def isLoose (row : Text) : Bool :=
  isBlankRow row || (isComment row && (KeyRow.read? row).isNone)

/-- The section, if a header stands among the rows. -/
def find? (rs : List Text) : Option KeySection :=
  match rs.dropWhile fun row => !isHeader row with
  | [] => none
  | header :: rest =>
    some {
      before := rs.takeWhile fun row => !isHeader row
      header := header
      body := dropEndWhile isLoose (rest.takeWhile belongs)
      after := takeEndWhile isLoose (rest.takeWhile belongs) ++ rest.dropWhile belongs }

/-- A cut loses no row. -/
theorem find?_rows {rs : List Text} {s : KeySection} (h : find? rs = some s) :
    s.before ++ s.header :: s.body ++ s.after = rs := by
  unfold find? at h
  split at h
  · simp at h
  · next header rest hrest =>
    cases h
    simp only [List.append_assoc, List.cons_append]
    rw [← List.append_assoc (dropEndWhile _ _), dropEndWhile_append_takeEndWhile,
      List.takeWhile_append_dropWhile, ← hrest, List.takeWhile_append_dropWhile]

/-- The records of a document. -/
def records (doc : Text) : List KeyRecord :=
  match find? (rows doc) with
  | some s => s.body.filterMap KeyRow.read?
  | none => []

/-- What stands in front of the line feed at the end of a row: a carriage return if the document has
one anywhere in front of a line feed. -/
def rowEnd (doc : Text) : Text := if holds "\r\n".toList doc then ['\r'] else []

/-- The rows of a section with the given records. -/
def write (rowEnd : Text) (rs : List KeyRecord) : List Text :=
  (headerRow :: rs.map KeyRow.write).map (· ++ rowEnd)

/-- The rows of a document without the empty row that a last line feed leaves. -/
def dropLastEmpty (rs : List Text) : List Text :=
  if rs.getLast? = some [] then rs.dropLast else rs

/-- The rows of a document that gets a section appended: a blank row divides it from a last row that
is not blank. -/
def appended (rowEnd : Text) (rs : List Text) (block : List Text) : List Text :=
  let rs := dropLastEmpty rs
  let gap := match rs.getLast? with
    | some row => if isBlankRow row then [] else [rowEnd]
    | none => []
  rs ++ gap ++ block ++ [[]]

/-- The document with the given records in its section, or with a new section at its end. -/
def replace (doc : Text) (rs : List KeyRecord) : Text :=
  let block := write (rowEnd doc) rs
  joinRows <| match find? (rows doc) with
    | some s => s.before ++ block ++ s.after
    | none => appended (rowEnd doc) (rows doc) block

end KeySection
end ProxySteward
