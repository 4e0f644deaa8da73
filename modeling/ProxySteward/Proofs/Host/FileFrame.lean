import ProxySteward.Host.FileTree
import ProxySteward.Proofs.Text.Utf8Canonical

/-!
# What writing a file leaves alone

Where a path leads depends on which locations are directories and on nothing else, so a file that is
put where no directory stands moves no path (`locate_put_file`).  Hence the text at a path changes
only if the path leads to the file that was written (`HoldsText.put_self`, `readText_put_of_ne`).

`HoldsText t p doc` collects what it takes for a path to hold a text: it leads to a regular file
that its owner may read, and the bytes of the file are well-formed.  Such a file can always be
replaced (`HoldsText.replace`).
-/

namespace ProxySteward
namespace FileTree

open Text

variable {t : FileTree} {l : Location} {content : Bytes} {mode : Nat}

/-! ## Where paths lead -/

theorem step_eq_ok_iff {x y : Location} {piece : Text} :
    t.step x piece = .ok y ↔ t.node? x = some .directory ∧
      y = (if piece.isEmpty || piece == ['.'] then x
        else if piece == ['.', '.'] then x.dropLast else x ++ [piece]) := by
  unfold step
  split
  · next h =>
    simp only [h, true_and, Except.ok.injEq]
    exact eq_comm
  · next h => simp [h]
  · next h => simp [h]

theorem node?_put_directory_iff {n : FileNode} (hl : t.node? l ≠ some .directory)
    (hn : n ≠ .directory) {x : Location} :
    (t.put l n).node? x = some .directory ↔ t.node? x = some .directory := by
  by_cases hx : x = l
  · subst hx
    rw [node?_put_self]
    constructor
    · intro h
      exact absurd (Option.some.inj h) hn
    · intro h
      exact absurd h hl
  · rw [node?_put_of_ne t n hx]

theorem step_put_file (hl : t.node? l ≠ some .directory) {x y : Location} {piece : Text} :
    (t.put l (.file content mode)).step x piece = .ok y ↔ t.step x piece = .ok y := by
  rw [step_eq_ok_iff, step_eq_ok_iff, node?_put_directory_iff hl (by simp)]

theorem foldlM_step_put_file (hl : t.node? l ≠ some .directory) {pieces : List Text}
    {x y : Location} :
    pieces.foldlM (t.put l (.file content mode)).step x = .ok y ↔
      pieces.foldlM t.step x = .ok y := by
  have hbind : ∀ (f : Location → Text → Except HostFault Location) (piece : Text)
      (rest : List Text) (x : Location),
      (piece :: rest).foldlM f x = .ok y ↔
      ∃ z, f x piece = .ok z ∧ rest.foldlM f z = .ok y := by
    intro f piece rest x
    rw [List.foldlM_cons]
    cases f x piece with
    | error e => simp [bind, Except.bind]
    | ok z => simp [bind, Except.bind]
  induction pieces generalizing x with
  | nil => rfl
  | cons piece rest ih =>
    rw [hbind, hbind]
    constructor
    · rintro ⟨z, hz, hy⟩
      exact ⟨z, (step_put_file hl).1 hz, ih.1 hy⟩
    · rintro ⟨z, hz, hy⟩
      exact ⟨z, (step_put_file hl).2 hz, ih.2 hy⟩

/-- **A file moves no path.** -/
theorem locate_put_file (hl : t.node? l ≠ some .directory) {p : Path} {x : Location} :
    (t.put l (.file content mode)).locate p = .ok x ↔ t.locate p = .ok x := by
  unfold locate
  split
  · simp
  · exact foldlM_step_put_file hl

/-! ## Contents and texts -/

/-- A content that can be read: where the path leads, and the permissions there. -/
theorem read_eq_ok_iff {p : Path} {bytes : Bytes} :
    t.read p = .ok bytes ↔ ∃ x bits, t.locate p = .ok x ∧
      t.node? x = some (.file bytes bits) ∧ bits &&& 0o400 ≠ 0 := by
  constructor
  · intro h
    unfold read lookup at h
    cases hl : t.locate p with
    | error f => simp [hl] at h
    | ok x =>
      simp only [hl] at h
      cases hn : t.node? x with
      | none => simp [hn] at h
      | some n =>
        cases n with
        | directory => simp [hn] at h
        | file content bits =>
          simp only [hn] at h
          by_cases hm : bits &&& 0o400 = 0
          · simp [hm] at h
          · simp only [hm, if_false, Except.ok.injEq] at h
            exact ⟨x, bits, rfl, by rw [hn, h], hm⟩
  · rintro ⟨x, bits, hl, hn, hm⟩
    simp only [read, lookup, hl, hn, hm, if_false]

/-- A file that is put where no directory stands leaves the files at all other locations alone. -/
theorem read_put_of_ne (hl : t.node? l ≠ some .directory) {q : Path} (hq : t.locate q ≠ .ok l)
    {bytes : Bytes} :
    (t.put l (.file content mode)).read q = .ok bytes ↔ t.read q = .ok bytes := by
  have hnode : ∀ {x : Location}, t.locate q = .ok x →
      (t.put l (.file content mode)).node? x = t.node? x := by
    intro x hx
    refine node?_put_of_ne t _ ?_
    rintro rfl
    exact hq hx
  rw [read_eq_ok_iff, read_eq_ok_iff]
  constructor
  · rintro ⟨x, bits, hleads, hstands, hreadable⟩
    have hleads := (locate_put_file hl).1 hleads
    exact ⟨x, bits, hleads, (hnode hleads).symm.trans hstands, hreadable⟩
  · rintro ⟨x, bits, hleads, hstands, hreadable⟩
    exact ⟨x, bits, (locate_put_file hl).2 hleads, (hnode hleads).trans hstands, hreadable⟩

/-- A path that holds a text: where it leads, and the bytes and the permissions there. -/
structure HoldsText (t : FileTree) (p : Path) (doc : Text) (l : Location) (content : Bytes)
    (mode : Nat) : Prop where
  leads : t.locate p = .ok l
  stands : t.node? l = some (.file content mode)
  readable : mode &&& 0o400 ≠ 0
  reads : decode? content = some doc

theorem readText_eq_ok_iff {p : Path} {doc : Text} :
    t.readText p = .ok doc ↔ ∃ l content mode, HoldsText t p doc l content mode := by
  constructor
  · intro h
    rw [readText] at h
    split at h
    · next content hread =>
      split at h
      · next text hd =>
        obtain ⟨l, mode, hl, hn, hm⟩ := read_eq_ok_iff.1 hread
        exact ⟨l, content, mode, hl, hn, hm, by rw [hd, Except.ok.inj h]⟩
      · exact absurd h (by simp)
    · exact absurd h (by simp)
  · rintro ⟨l, content, mode, hl, hn, hm, hd⟩
    rw [readText, read_eq_ok_iff.2 ⟨l, mode, hl, hn, hm⟩]
    simp only [hd]

variable {p : Path} {doc : Text}

theorem HoldsText.readText (h : HoldsText t p doc l content mode) : t.readText p = .ok doc :=
  readText_eq_ok_iff.2 ⟨l, content, mode, h⟩

theorem HoldsText.isFile (h : HoldsText t p doc l content mode) : t.isFile p = true := by
  simp only [FileTree.isFile, lookup, h.leads, h.stands]

theorem HoldsText.not_directory (h : HoldsText t p doc l content mode) :
    t.node? l ≠ some .directory := by
  rw [h.stands]
  simp

/-- A path has a text exactly if its file has the bytes of that text. -/
theorem readText_eq_ok_iff_read : t.readText p = .ok doc ↔ t.read p = .ok (encode doc) := by
  rw [FileTree.readText]
  constructor
  · intro h
    split at h
    · next bytes hread =>
      split at h
      · next text htext => rw [hread, ← Except.ok.inj h, encode_of_decode? htext]
      · exact absurd h (by simp)
    · exact absurd h (by simp)
  · intro h
    rw [h]
    simp only [decode?_encode]

/-- A readable text can be replaced; the new file has the permissions of the old one. -/
theorem HoldsText.replace (h : HoldsText t p doc l content mode) (new : Bytes) :
    t.replace p new = .ok (t.put l (.file new mode)) := by
  simp only [FileTree.replace, h.leads, h.stands]

/-- The new text is read back. -/
theorem HoldsText.put_self (h : HoldsText t p doc l content mode) (new : Text) :
    HoldsText (t.put l (.file (encode new) mode)) p new l (encode new) mode where
  leads := (locate_put_file h.not_directory).2 h.leads
  stands := node?_put_self t l _
  readable := h.readable
  reads := decode?_encode new

/-- So it leaves the texts at all other locations alone. -/
theorem readText_put_of_ne (hl : t.node? l ≠ some .directory) {q : Path}
    (hq : t.locate q ≠ .ok l) :
    (t.put l (.file content mode)).readText q = .ok doc ↔ t.readText q = .ok doc := by
  rw [readText_eq_ok_iff_read, readText_eq_ok_iff_read, read_put_of_ne hl hq]

/-- What a write does: it puts a file where the path leads, and no directory stood there. -/
theorem exists_put_of_write {p : Path} {t' : FileTree} (h : t.write p content = .ok t') :
    ∃ l mode, t.locate p = .ok l ∧ t.node? l ≠ some .directory ∧
      t' = t.put l (.file content mode) := by
  have hreplace : t.replace p content = .ok t' := by
    unfold write at h
    split at h
    · split at h
      · exact absurd h (by simp)
      · exact h
    · exact h
  unfold replace at hreplace
  cases hl : t.locate p with
  | error f =>
    rw [hl] at hreplace
    exact absurd hreplace (by simp)
  | ok l =>
    rw [hl] at hreplace
    dsimp only at hreplace
    split at hreplace
    · next mode hnode =>
      exact ⟨l, _, rfl, by rw [hnode]; simp, (Except.ok.inj hreplace).symm⟩
    · exact absurd hreplace (by simp)
    · next hnode =>
      split at hreplace
      · exact ⟨l, _, rfl, by rw [hnode]; simp, (Except.ok.inj hreplace).symm⟩
      · exact absurd hreplace (by simp)

/-! ## A host with one file -/

/-- The path of a configuration file in the root directory. -/
def lonePath : Path := "/config.yaml".toList

/-- The files of a host that has that file and nothing else. -/
def lone (doc : Text) : FileTree :=
  ⟨[(["config.yaml".toList], .file (encode doc) 0o644)], []⟩

theorem holdsText_lone (doc : Text) :
    HoldsText (lone doc) lonePath doc ["config.yaml".toList] (encode doc) 0o644 where
  leads := rfl
  stands := rfl
  readable := by decide
  reads := decode?_encode doc

end FileTree
end ProxySteward
