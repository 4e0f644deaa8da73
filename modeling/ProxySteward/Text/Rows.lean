import ProxySteward.Text.Blank

/-!
# Rows and lines

A document is cut in two ways.  Its *rows* are what stands between line feeds, with nothing dropped:
the document is its rows joined by line feeds again (`joinRows_rows`), which is what lets an edit
replace some rows and leave the others as they are.  Its *lines* are for reading only: the carriage
return of a line that a line feed ends belongs to the line's end, and after a last line feed there
is no further line.
-/

namespace ProxySteward.Text

/-- What stands between line feeds; the empty document has one empty row. -/
def rows (t : Text) : List Text := t.splitOn '\n'

/-- Rows with a line feed between each two. -/
def joinRows (rs : List Text) : Text := ['\n'].intercalate rs

theorem joinRows_rows (t : Text) : joinRows (rows t) = t :=
  List.intercalate_splitOn '\n'

theorem rows_joinRows {rs : List Text} (h : ∀ r ∈ rs, '\n' ∉ r) (hne : rs ≠ []) :
    rows (joinRows rs) = rs :=
  List.splitOn_intercalate '\n' h hne

/-- Without one carriage return at the end. -/
def dropReturn (r : Text) : Text :=
  if r.getLast? = some '\r' then r.dropLast else r

/-- The lines of a document given by its rows: the last row is a line only if something stands in
it, and it keeps its carriage return. -/
def linesOfRows : List Text → List Text
  | [] => []
  | [r] => if r.isEmpty then [] else [r]
  | r :: rs => dropReturn r :: linesOfRows rs

/-- The lines of a document. -/
def lines (t : Text) : List Text := linesOfRows (rows t)

end ProxySteward.Text
