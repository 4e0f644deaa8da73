import ProxySteward.Host.FileTree

/-!
# Launching programs

Whether the system can start the program at a path.  The system looks at the first bytes of the
file: they name an interpreter, or they are the header of a native program, or the file is refused
although it may be executed.  Nothing that is open for writing is launched, as the proxy's log file
is while the proxy starts.

## Scripts

A script names its interpreter behind `#!`.  The name ends at a blank or at the end of the line, and
all of it must stand in the part of the file that the system looks at.  The interpreter is opened as
a program is, and it may be a script itself, as long as no more than five scripts lead to a native
program.

## Native programs

The header of a native program says which machine it is for and where its table of segments lies,
and the whole table must be in the file.  A segment can name a loader; the system opens the loader
and looks at its header as well.  What the program does after that is no longer the launcher's
concern.
-/

namespace ProxySteward
namespace FileTree

open Text

/-- Whether a path leads to where another one leads. -/
def leadsTo (t : FileTree) (p q : Path) : Bool :=
  match t.locate p, t.locate q with
  | .ok l, .ok m => l == m
  | _, _ => false

/-- The content of the file at a path that the owner of the file may execute and that is not open
for writing at `busy`.  An empty path leads to the working directory. -/
def openProgram (t : FileTree) (busy p : Path) : Except HostFault Bytes :=
  if p.isEmpty then .error .accessDenied
  else match t.lookup p with
    | .error f => .error f
    | .ok .directory => .error .accessDenied
    | .ok (.file content mode) =>
      if mode &&& 0o100 = 0 then .error .accessDenied
      else if t.leadsTo p busy then .error .fileBusy
      else .ok content

/-! ## Scripts -/

/-- How many bytes of a file the system looks at. -/
def headSize : Nat := 256

/-- Whether a byte is a space or a tab. -/
def isSpace (b : UInt8) : Bool := b == 0x20 || b == 0x09

/-- Whether a byte ends the name of an interpreter. -/
def endsName (b : UInt8) : Bool := isSpace b || b == 0

/-- The name of the interpreter, from the bytes behind the mark as far as the system looks at them,
with zeros behind the end of the file.  Without a line end, the name must be followed by a blank or
a zero; it may be empty then. -/
def interpreter? (head : Bytes) : Option Bytes :=
  let name (text : Bytes) := text.takeWhile fun b => !endsName b
  let line := head.takeWhile fun b => b != 0x0A && b != 0
  if head[line.length]? = some 0x0A then
    (some (name (line.dropWhile isSpace))).filter fun n => !n.isEmpty
  else
    let rest := head.dropWhile isSpace
    if 2 ≤ rest.length ∧ rest.any endsName then some (name rest) else none

/-! ## Native programs -/

/-- A number of some bytes at a place, the lowest byte first; bytes behind the end are zero. -/
def number (content : Bytes) (place size : Nat) : Nat :=
  ((content.drop place).take size).foldr (fun b v => b.toNat + 256 * v) 0

/-- The bytes that every native program starts with. -/
def nativeMark : Bytes := [0x7F, 0x45, 0x4C, 0x46]

/-- The size of a segment's entry. -/
def segmentSize : Nat := 56

/-- The table of segments, if the file is a native program for this machine. -/
def segments? (content : Bytes) : Option (List Bytes) :=
  let place := number content 32 8
  let count := number content 56 2
  let isProgram := nativeMark.isPrefixOf content && number content 18 2 == 62
    && number content 54 2 == segmentSize && 1 ≤ count && count * segmentSize ≤ 65536
    && place + count * segmentSize ≤ content.length
  if isProgram then
    some ((List.range count).map fun i => (content.drop (place + i * segmentSize)).take segmentSize)
  else none

/-- Why a loader cannot be used. -/
def loaderFault? (t : FileTree) (busy p : Path) : Option HostFault :=
  match t.openProgram busy p with
  | .error f => some f
  | .ok content =>
    if content.length < 64 then some .unreadable
    else if (segments? content).isNone then some .badLibrary
    else none

/-- Why the segment that names a loader keeps a program from being started. -/
def loaderSegmentFault? (t : FileTree) (busy : Path) (content segment : Bytes) : Option HostFault :=
  let place := number segment 8 8
  let size := number segment 32 8
  let name := (content.drop place).take size
  if size < 2 ∨ 4096 < size then some .notExecutable
  else if name.length < size then some .unreadable
  else if name.getLast? ≠ some 0 then some .notExecutable
  else t.loaderFault? busy (decodeLossy (name.takeWhile (· != 0)))

/-- Why a file that is no script cannot be started. -/
def nativeFault? (t : FileTree) (busy : Path) (content : Bytes) : Option HostFault :=
  let kind := number content 16 2
  match if kind = 2 ∨ kind = 3 then segments? content else none with
  | none => some .notExecutable
  | some segments => (segments.find? (number · 0 4 == 3)).bind (t.loaderSegmentFault? busy content)

/-! ## Programs -/

/-- Why a program cannot be started; at most `scripts` scripts may still be looked at. -/
def contentFault? (t : FileTree) (busy : Path) : (scripts : Nat) → Bytes → Option HostFault
  | 0, _ => some .tooManyLinks
  | scripts + 1, 0x23 :: 0x21 :: rest =>
    match interpreter? ((rest ++ List.replicate headSize 0).take (headSize - 2)) with
    | none => some .notExecutable
    | some name => match t.openProgram busy (decodeLossy name) with
      | .error f => some f
      | .ok content => contentFault? t busy scripts content
  | _ + 1, content => t.nativeFault? busy content

/-- Why the program at a path cannot be started while the file at `busy` is open for writing, if it
cannot. -/
def launchFault? (t : FileTree) (busy p : Path) : Option HostFault :=
  match t.openProgram busy p with
  | .error f => some f
  | .ok content => t.contentFault? busy 6 content

/-- The content of the smallest native program: a header and one segment that is not used. -/
def smallestProgram : Bytes :=
  nativeMark ++ List.replicate 12 0 ++ [2, 0, 62, 0] ++ List.replicate 12 0 ++ [64]
    ++ List.replicate 21 0 ++ [56, 0, 1] ++ List.replicate 63 0

end FileTree
end ProxySteward
