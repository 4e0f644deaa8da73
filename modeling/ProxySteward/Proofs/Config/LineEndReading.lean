import ProxySteward.Proofs.Config.ScannerLaws
import ProxySteward.Proofs.Text.LineEnds

/-!
# Reading does not depend on line ends

A configuration file can come from an editor that ends its lines in a carriage return and a line
feed.  Nothing that is read from it may depend on that: not the port, not the secret, not the
records of the key list.

The readers see a row through its trimmed text and through whether it is indented, and neither sees
a carriage return at the end (`trim_dropReturn`, `isIndented_dropReturn`).  So each test that the
scanners make on a row has the same outcome, and the section of the key list is found at the same
place (`find?_map_dropReturn`).  Hence documents whose rows differ only in carriage returns at their
ends read the same, also if only some of the rows have one (`records_congr`, `port?_congr`,
`secret?_congr`).
-/

namespace ProxySteward

namespace KeySection

open Text

variable {s : KeySection} {rs : List Text}

theorem isHeader_dropReturn (row : Text) : isHeader (dropReturn row) = isHeader row := by
  rw [isHeader, isHeader, trim_dropReturn]

theorem read?_dropReturn (row : Text) : KeyRow.read? (dropReturn row) = KeyRow.read? row := by
  rw [KeyRow.read?, KeyRow.read?, trim_dropReturn]

theorem belongs_dropReturn (row : Text) : belongs (dropReturn row) = belongs row := by
  rw [belongs, belongs, ConfigDocument.isIndented_dropReturn, isBlankRow, isBlankRow, isComment,
    isComment, trim_dropReturn]

theorem isLoose_dropReturn (row : Text) : isLoose (dropReturn row) = isLoose row := by
  rw [isLoose, isLoose, read?_dropReturn, isBlankRow, isBlankRow, isComment, isComment,
    trim_dropReturn]

/-- The section with the rows cut off at their carriage returns. -/
def dropReturns (s : KeySection) : KeySection :=
  ⟨s.before.map dropReturn, dropReturn s.header, s.body.map dropReturn, s.after.map dropReturn⟩

theorem IsCut.dropReturns (hcut : IsCut s) : IsCut s.dropReturns where
  before_plain := by
    simpa [KeySection.dropReturns, isHeader_dropReturn] using hcut.before_plain
  header_opens := (isHeader_dropReturn s.header).trans hcut.header_opens
  body_belongs := by
    simpa [KeySection.dropReturns, belongs_dropReturn] using hcut.body_belongs
  body_ends := by
    simpa [KeySection.dropReturns, List.getLast?_map, isLoose_dropReturn] using hcut.body_ends
  after_loose := by
    have hbelongs : belongs ∘ dropReturn = belongs := funext belongs_dropReturn
    simpa [KeySection.dropReturns, List.takeWhile_map, hbelongs, isLoose_dropReturn]
      using hcut.after_loose

/-- **The section is found at the same place**, whatever carriage returns stand at the ends of the
rows. -/
theorem find?_map_dropReturn (rs : List Text) :
    find? (rs.map dropReturn) = (find? rs).map dropReturns := by
  cases hfind : find? rs with
  | none =>
    rw [find?_eq_none_iff] at hfind
    rw [Option.map_none, find?_eq_none_iff]
    simpa [isHeader_dropReturn] using hfind
  | some s =>
    obtain ⟨hrows, hcut⟩ := find?_eq_some_iff.1 hfind
    rw [Option.map_some, find?_eq_some_iff]
    refine ⟨?_, hcut.dropReturns⟩
    rw [← hrows]
    simp [dropReturns]

/-- Documents with the same rows, but for carriage returns at their ends, have the same records. -/
theorem records_congr {doc doc' : Text}
    (h : (rows doc').map dropReturn = (rows doc).map dropReturn) : records doc' = records doc := by
  have hread : KeyRow.read? ∘ dropReturn = KeyRow.read? := funext read?_dropReturn
  have hbody : ∀ s : KeySection,
      s.dropReturns.body.filterMap KeyRow.read? = s.body.filterMap KeyRow.read? := by
    intro s
    rw [dropReturns, List.filterMap_map, hread]
  have hfind : (find? (rows doc')).map dropReturns = (find? (rows doc)).map dropReturns := by
    rw [← find?_map_dropReturn, ← find?_map_dropReturn, h]
  rw [records, records]
  cases hold : find? (rows doc) with
  | none =>
    rw [hold, Option.map_none, Option.map_eq_none_iff] at hfind
    rw [hfind]
  | some s =>
    rw [hold, Option.map_some, Option.map_eq_some_iff] at hfind
    obtain ⟨s', hnew, hs⟩ := hfind
    rw [hnew]
    dsimp only
    rw [← hbody s', hs, hbody]

end KeySection

namespace ConfigDocument

open Text KeySection

theorem port?_congr {doc doc' : Text} (h : (rows doc').map dropReturn = (rows doc).map dropReturn) :
    port? doc' = port? doc := by
  have hvalue : portValue? ∘ dropReturn = portValue? := funext portValue?_dropReturn
  have hrows : ∀ doc, (rows doc).findSome? portValue? =
      ((rows doc).map dropReturn).findSome? portValue? := by
    intro doc
    rw [List.findSome?_map, hvalue]
  rw [port?_eq, port?_eq, hrows, hrows, h]

theorem secretFrom?_map_dropReturn (inside : Bool) (rs : List Text) :
    secretFrom? inside (rs.map dropReturn) = secretFrom? inside rs := by
  induction rs generalizing inside with
  | nil => rfl
  | cons row rs ih =>
    rw [List.map_cons, secretFrom?, secretFrom?]
    simp only [isBlankRow, isComment, trim_dropReturn, isIndented_dropReturn, ih]
    rfl

theorem secret?_congr {doc doc' : Text}
    (h : (rows doc').map dropReturn = (rows doc).map dropReturn) : secret? doc' = secret? doc := by
  rw [secret?_eq, secret?_eq, ← secretFrom?_map_dropReturn, h, secretFrom?_map_dropReturn]

/-- **Reading is independent of line ends.**  Take a document without carriage returns and put one
in front of every line feed.  That makes a document with the line ends of a CRLF file, and its
records, its port and its secret are those of the first one. -/
theorem reads_withReturns (doc : Text) (h : '\r' ∉ doc) :
    IsCrlf (withReturns doc) ∧ records (withReturns doc) = records doc ∧
      port? (withReturns doc) = port? doc ∧ secret? (withReturns doc) = secret? doc := by
  have hrows := map_dropReturn_rows_withReturns h
  exact ⟨isCrlf_withReturns h, records_congr hrows, port?_congr hrows, secret?_congr hrows⟩

/-- A list with a commented-out key behind a blank row, between a port and a secret. -/
def mixedList : Text :=
  "port: 1\napi-keys:\n - a # n\n\n#- b\nremote-management:\n\tsecret-key: 's'".toList

theorem reads_withReturns_mixed :
    '\r' ∉ mixedList ∧
      records (withReturns mixedList) =
      [⟨"a".toList, "n".toList, true⟩, ⟨"b".toList, [], false⟩] ∧
      port? (withReturns mixedList) = some 1 ∧
      secret? (withReturns mixedList) = some "s".toList := by
  have hno : '\r' ∉ mixedList := by decide
  obtain ⟨-, hrecords, hport, hsecret⟩ := reads_withReturns mixedList hno
  exact ⟨hno, hrecords.trans (by decide +kernel), hport.trans (by decide +kernel),
    hsecret.trans (by decide +kernel)⟩

end ConfigDocument
end ProxySteward
