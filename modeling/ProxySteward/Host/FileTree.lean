import ProxySteward.Host.Fault
import ProxySteward.Host.Path
import ProxySteward.Text.Utf8

/-!
# File trees

The files a host shows: directories and regular files at absolute locations, and the directory that
relative paths start from.  A path is walked part by part, and every part but the last must be a
directory, also in front of `..`; so a path through a directory that does not exist names nothing.

## Permissions

The steward is an ordinary user and owns the files, so the owner's permission bits decide what it
may do with a file.  A directory lets it do everything: a file that it may not write can still be
replaced by a new one of the same name and the same permissions (`FileTree.replace`).

The laws at the end say what writing a file does: the file reads back, and every other location
keeps what it had.
-/

namespace ProxySteward

open Text

/-- What stands at a location. -/
inductive FileNode where
  /-- A regular file and its permission bits. -/
  | file (content : Bytes) (mode : Nat)
  | directory
  deriving DecidableEq, Repr

/-- The names from the root to a file or directory. -/
abbrev Location := List Text

/-- The files of a host. -/
structure FileTree where
  nodes : List (Location × FileNode)
  workingDirectory : Location
  deriving Repr

namespace FileTree

/-- The working directory as a path. -/
def workingPath (t : FileTree) : Path :=
  if t.workingDirectory.isEmpty then ['/'] else t.workingDirectory.flatMap fun name => '/' :: name

/-- What stands at a location; the root is a directory. -/
def node? (t : FileTree) (l : Location) : Option FileNode :=
  match t.nodes.find? (·.1 = l) with
  | some (_, n) => some n
  | none => if l = [] then some .directory else none

/-- One piece of a path, from a location that must be a directory. -/
def step (t : FileTree) (l : Location) (piece : Text) : Except HostFault Location :=
  match t.node? l with
  | some .directory =>
    .ok (if piece.isEmpty || piece == ['.'] then l
      else if piece == ['.', '.'] then l.dropLast
      else l ++ [piece])
  | some (.file _ _) => .error .notDirectory
  | none => .error .notFound

/-- Where a path leads, whether or not something stands there. -/
def locate (t : FileTree) (p : Path) : Except HostFault Location :=
  if p.isEmpty then .error .notFound
  else (Path.pieces p).foldlM t.step (if Path.isAbsolute p then [] else t.workingDirectory)

/-- What stands where a path leads. -/
def lookup (t : FileTree) (p : Path) : Except HostFault FileNode :=
  match t.locate p with
  | .ok l => match t.node? l with
    | some n => .ok n
    | none => .error .notFound
  | .error f => .error f

/-- Whether a path leads to a regular file. -/
def isFile (t : FileTree) (p : Path) : Bool :=
  match t.lookup p with
  | .ok (.file _ _) => true
  | _ => false

/-- Whether a path leads to a regular file that someone may execute. -/
def isExecutable (t : FileTree) (p : Path) : Bool :=
  match t.lookup p with
  | .ok (.file _ mode) => mode &&& 0o111 != 0
  | _ => false

/-- The content of the file a path leads to, which its owner must be allowed to read. -/
def read (t : FileTree) (p : Path) : Except HostFault Bytes :=
  match t.lookup p with
  | .ok (.file content mode) => if mode &&& 0o400 = 0 then .error .accessDenied else .ok content
  | .ok .directory => .error .isDirectory
  | .error f => .error f

/-- The text of the file a path leads to. -/
def readText (t : FileTree) (p : Path) : Except HostFault Text :=
  match t.read p with
  | .ok bytes => match decode? bytes with
    | some text => .ok text
    | none => .error .notUtf8
  | .error f => .error f

/-- The tree with `n` at a location. -/
def put (t : FileTree) (l : Location) (n : FileNode) : FileTree :=
  { t with nodes := (l, n) :: t.nodes.filter (·.1 ≠ l) }

/-- The locations that contain a location, the root first. -/
def enclosing (l : Location) : List Location :=
  (List.range l.length).map l.take

/-- Puts a file where a path leads; a file that is there passes its permissions on. -/
def replace (t : FileTree) (p : Path) (content : Bytes) : Except HostFault FileTree :=
  match t.locate p with
  | .ok l => match t.node? l with
    | some (.file _ mode) => .ok (t.put l (.file content mode))
    | some .directory => .error .isDirectory
    | none => match t.node? l.dropLast with
      | some .directory => .ok (t.put l (.file content 0o644))
      | _ => .error .notFound
  | .error f => .error f

/-- Writes to the file a path leads to, which its owner must be allowed to write, or to a new
file. -/
def write (t : FileTree) (p : Path) (content : Bytes) : Except HostFault FileTree :=
  match t.lookup p with
  | .ok (.file _ mode) => if mode &&& 0o200 = 0 then .error .accessDenied else t.replace p content
  | _ => t.replace p content

@[simp] theorem node?_put_self (t : FileTree) (l : Location) (n : FileNode) :
    (t.put l n).node? l = some n := by
  simp [node?, put]

theorem node?_put_of_ne (t : FileTree) {l m : Location} (n : FileNode) (h : m ≠ l) :
    (t.put l n).node? m = t.node? m := by
  have hfind : (t.nodes.filter fun x => decide (x.1 ≠ l)).find? (fun x => decide (x.1 = m)) =
      t.nodes.find? fun x => decide (x.1 = m) := by
    rw [List.find?_filter]
    congr 1
    funext x
    by_cases hx : x.1 = m
    · simp [hx, h]
    · simp [hx]
  simp only [node?, put]
  rw [List.find?_cons_of_neg (by simpa using Ne.symm h), hfind]

end FileTree
end ProxySteward
