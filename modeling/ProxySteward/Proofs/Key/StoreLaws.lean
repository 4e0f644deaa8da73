import ProxySteward.Proofs.Host.FileFrame
import ProxySteward.Proofs.Key.RewriteStability

/-!
# Calls of the key store

A store whose file can be read can also write it, so a call fails for no other reason than the edit
itself (`edit_eq`).  `KeyStore.call` is the edit as its caller sees it, with the files that are
there afterwards also when it failed, and its laws are those of the edit of the text: its answer
(`call_answer`), the text in the file afterwards (`exists_holdsText_call`), and the other files,
which it leaves alone (`call_files`).
-/

namespace ProxySteward
namespace KeyStore

open Text FileTree

variable {s : KeyStore} {files : FileTree} {doc : Text} {l : Location} {content : Bytes}
  {mode : Nat}
  {e : KeyEdit}

/-- One call: what it answers, and the files afterwards. -/
def call (s : KeyStore) (e : KeyEdit) (files : FileTree) : Except KeyFault KeyAnswer × FileTree :=
  match s.edit e files with
  | .ok (answer, files) => (.ok answer, files)
  | .error f => (.error f, files)

/-- The files after several calls. -/
def callAll (s : KeyStore) (es : List KeyEdit) (files : FileTree) : FileTree :=
  es.foldl (fun files e => (s.call e files).2) files

/-- The text after an edit, which is the text before it if the edit fails. -/
def textAfter (e : KeyEdit) (doc : Text) : Text :=
  match editDocument e doc with
  | .ok (_, doc') => doc'
  | .error _ => doc

theorem document_eq_ok_iff : s.document files = .ok doc ↔ files.readText s.path = .ok doc := by
  unfold document
  cases files.readText s.path with
  | ok doc' => simp
  | error f => cases f <;> simp

/-- **An edit of a readable file** is the edit of its text. -/
theorem edit_eq (h : HoldsText files s.path doc l content mode) :
    s.edit e files = (editDocument e doc).map fun result =>
      (result.1, if result.1.isChange then files.put l (.file (encode result.2) mode)
        else files) := by
  unfold edit
  cases hcheck : e.check with
  | error f =>
    rw [editDocument, KeyEdit.onRecords_of_check hcheck]
    rfl
  | ok _ =>
    rw [document_eq_ok_iff.2 h.readText]
    cases hedit : editDocument e doc with
    | error f => simp only [bind, Except.bind, hedit, Except.map]
    | ok result =>
      obtain ⟨answer, updated⟩ := result
      cases hchange : answer.isChange with
      | false => simp [bind, Except.bind, hedit, Except.map, hchange]
      | true => simp [bind, Except.bind, hedit, Except.map, hchange, h.replace]

theorem call_eq (h : HoldsText files s.path doc l content mode) :
    s.call e files = match editDocument e doc with
      | .ok (answer, doc') =>
        (.ok answer, if answer.isChange then files.put l (.file (encode doc') mode) else files)
      | .error f => (.error f, files) := by
  rw [call, edit_eq h]
  cases editDocument e doc with
  | error f => rfl
  | ok result => rfl

theorem call_answer (h : HoldsText files s.path doc l content mode) :
    (s.call e files).1 = (editDocument e doc).map Prod.fst := by
  rw [call_eq h]
  cases editDocument e doc with
  | error f => rfl
  | ok result => rfl

/-- A call that reports a change writes the one file, any other call none. -/
theorem call_files (h : HoldsText files s.path doc l content mode) :
    (∃ answer, (s.call e files).1 = .ok answer ∧ answer.isChange = true ∧
        (s.call e files).2 = files.put l (.file (encode (textAfter e doc)) mode)) ∨
      (s.call e files).2 = files ∧ textAfter e doc = doc := by
  rw [call_eq h, textAfter]
  cases hedit : editDocument e doc with
  | error f => exact Or.inr ⟨rfl, rfl⟩
  | ok result =>
    obtain ⟨answer, doc'⟩ := result
    obtain ⟨rs, -, hdoc'⟩ := KeySection.editDocument_eq_ok_iff.1 hedit
    cases hchange : answer.isChange with
    | true => exact Or.inl ⟨answer, rfl, hchange, if_pos hchange⟩
    | false =>
      rw [hchange] at hdoc'
      exact Or.inr ⟨by simp [hchange], hdoc'⟩

/-- **The file after a call** holds the edited text, at the same location and with the same
permissions. -/
theorem exists_holdsText_call (h : HoldsText files s.path doc l content mode) :
    ∃ content', HoldsText (s.call e files).2 s.path (textAfter e doc) l content' mode := by
  rcases call_files h (e := e) with ⟨answer, -, -, hfiles⟩ | ⟨hfiles, htext⟩
  · rw [hfiles]
    exact ⟨_, h.put_self _⟩
  · rw [hfiles, htext]
    exact ⟨content, h⟩

/-! ## Readable files -/

theorem readText_call (h : files.readText s.path = .ok doc) :
    (s.call e files).2.readText s.path = .ok (textAfter e doc) := by
  obtain ⟨l, content, mode, hdoc⟩ := readText_eq_ok_iff.1 h
  obtain ⟨content', hdoc'⟩ := exists_holdsText_call hdoc (e := e)
  exact hdoc'.readText

theorem answer_call (h : files.readText s.path = .ok doc) :
    (s.call e files).1 = (editDocument e doc).map Prod.fst := by
  obtain ⟨l, content, mode, hdoc⟩ := readText_eq_ok_iff.1 h
  exact call_answer hdoc

/-- An edit of the list that does not fail is an edit of the file that does not fail. -/
theorem exists_edit_eq_ok {answer : KeyAnswer} {rs : List KeyRecord}
    (hdoc : s.document files = .ok doc)
    (h : e.onRecords (KeySection.records doc) = .ok (answer, rs)) :
    ∃ files', s.edit e files = .ok (answer, files') := by
  obtain ⟨l, content, mode, hfile⟩ := readText_eq_ok_iff.1 (document_eq_ok_iff.1 hdoc)
  rw [edit_eq hfile, KeySection.editDocument_eq_ok_iff.2 ⟨rs, h, rfl⟩]
  exact ⟨_, rfl⟩

theorem records_of_readText (h : files.readText s.path = .ok doc) :
    s.records files = .ok (KeySection.records doc) := by
  rw [KeyStore.records, document_eq_ok_iff.2 h]
  rfl

end KeyStore
end ProxySteward
