import ProxySteward.Key.Edit
import ProxySteward.Key.Section
import ProxySteward.Host.FileTree

/-!
# The key store

A store is a configuration file that existed when it was opened.  It keeps nothing else: every
operation reads the file, and an edit that changes the list writes the file again with the new
section in it.  An edit that fails or changes nothing leaves the file alone.

`KeyStore.editDocument` is the edit on the text of the file; `KeyStore.edit` reads and writes it.
-/

namespace ProxySteward

open Text

/-- A configuration file that holds a key list. -/
structure KeyStore where
  path : Path
  deriving DecidableEq, Repr

namespace KeyStore

/-- The store of a configuration file; the path must lead to a regular file. -/
def open? (files : FileTree) (path : Option Path) : Except KeyFault KeyStore :=
  match path with
  | some p => if files.isFile p then .ok ⟨p⟩ else .error .configNotFound
  | none => .error .configNotFound

/-- The text of the file, read anew. -/
def document (s : KeyStore) (files : FileTree) : Except KeyFault Text :=
  match files.readText s.path with
  | .ok doc => .ok doc
  | .error .notFound => .error .configNotFound
  | .error cause => .error (.host cause)

/-- The records in the file. -/
def records (s : KeyStore) (files : FileTree) : Except KeyFault (List KeyRecord) :=
  (s.document files).map KeySection.records

/-- An edit on the text of the file: its answer and the text after it. -/
def editDocument (e : KeyEdit) (doc : Text) : Except KeyFault (KeyAnswer × Text) :=
  match e.onRecords (KeySection.records doc) with
  | .error f => .error f
  | .ok (answer, rs) => .ok (answer, if answer.isChange then KeySection.replace doc rs else doc)

/-- An edit of the file: its answer and the files after it. -/
def edit (s : KeyStore) (e : KeyEdit) (files : FileTree) :
    Except KeyFault (KeyAnswer × FileTree) := do
  e.check
  let doc ← s.document files
  let (answer, updated) ← editDocument e doc
  if answer.isChange then
    match files.replace s.path (encode updated) with
    | .ok files => .ok (answer, files)
    | .error cause => .error (.host cause)
  else .ok (answer, files)

end KeyStore
end ProxySteward
