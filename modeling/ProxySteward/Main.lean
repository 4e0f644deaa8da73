import ProxySteward.CommandLine.Run

/-!
# The program

The thin layer between the machine and `CommandLine.run`: it reads the files that a command can look
at, runs the command on them, writes the files that the command changed, and prints.

The layer starts no processes and opens no sockets.  So no port has a process behind it, no server
is reached, and a dashboard that is served waits for the end of its input without being called.
-/

namespace ProxySteward
namespace Program

open Text

/-- A location as a path. -/
def pathOf (l : Location) : String :=
  if l.isEmpty then "/" else String.ofList (l.flatMap fun name => '/' :: name)

/-- The locations that a path is walked over. -/
def walked (t : FileTree) (p : Path) : List Location :=
  let start := if Path.isAbsolute p then [] else t.workingDirectory
  ((Path.pieces p).foldl (fun (l, seen) piece =>
    let l := if piece.isEmpty || piece == ['.'] then l
      else if piece == ['.', '.'] then l.dropLast
      else l ++ [piece]
    (l, seen ++ [l])) (start, [start])).2

/-- What stands at a location of the machine; every file counts as executable. -/
def nodeAt? (l : Location) : IO (Option FileNode) := do
  try
    let path ← IO.FS.realPath (pathOf l)
    let kind := (← path.metadata).type
    if kind == .dir then return some .directory
    else return some (.file (← IO.FS.readBinFile path).toList 0o755)
  catch _ => return none

/-- Adds what the machine has at the locations that a path is walked over. -/
def loadPath (t : FileTree) (p : Path) : IO FileTree :=
  (walked t p).foldlM (fun t l => do
    match t.node? l, ← nodeAt? l with
    | none, some n => return t.put l n
    | _, _ => return t) t

/-- Adds what the machine has at some paths. -/
def loadPaths (t : FileTree) (ps : List Path) : IO FileTree := ps.foldlM loadPath t

/-- The environment files that may count: that of the working directory and of each directory around
it. -/
def environmentFiles (t : FileTree) : List Path :=
  (FileTree.enclosing t.workingDirectory ++ [t.workingDirectory]).map fun l =>
    Path.join (pathOf l).toList ".env".toList

/-- The variables that the program itself looks at. -/
def knownNames : List String :=
  ["HOME", "TMPDIR", "WARDEN_BIND", "WARDEN_PORT"]
    ++ Arguments.globals.map fun name => String.ofList (Arguments.variableFor name)

/-- The words of a file, any of which may be the name of a variable. -/
def namesIn (content : Bytes) : List String :=
  (((decodeLossy content).splitOnP fun c => !(c.isAlphanum || c == '_' || c == '.')).filter
    fun w => !w.isEmpty).map String.ofList

/-- The variables of the machine among some names. -/
def environment (names : List String) : IO Environment :=
  names.filterMapM fun name => do
    return (← IO.getEnv name).map fun value => (name.toList, value.toList)

/-- The paths that a command looks at: the places of the configuration file, and the programs and
the log file next to them. -/
def pathsOf (h : Host) (env : Environment) (i : Invocation) : List Path :=
  let places := i.overrides.candidates (CommandLine.searchRoots h env)
  let programs := places.filterMap fun p => Connection.program? ⟨[], [], 0, some p⟩
  Service.logFile h :: places ++ programs

/-- The machine with the given files. -/
def hostOf (files : FileTree) (temporary : Path) (bytes : Bytes) : Host where
  files := files
  temporaryDirectory := temporary
  clock := 0
  hasTools := false
  portLookup := fun _ => ⟨[], false⟩
  network := fun _ => .unreachable
  listenFault? := fun _ => none
  random := fun _ => bytes
  drawn := 0
  deeds := []

/-- Writes the files that differ from those read. -/
def save (before after : FileTree) : IO Unit :=
  after.nodes.forM fun (l, n) => do
    match n with
    | .file content _ =>
      if before.node? l != some n then
        IO.FS.writeBinFile (pathOf l) content.toByteArray
    | .directory => return ()

/-- Waits for the end of the input. -/
partial def waitForEnd (input : IO.FS.Stream) : IO Unit := do
  if (← input.getLine).isEmpty then return else waitForEnd input

end Program
end ProxySteward

open ProxySteward ProxySteward.Program in
/-- Runs the program on this machine. -/
def main (args : List String) : IO UInt32 := do
  let directory := (← IO.currentDir).toString.toList
  let empty : FileTree := ⟨[], (Path.parts directory)⟩
  let files ← loadPaths empty (environmentFiles empty)
  let words := files.nodes.flatMap fun
    | (_, .file content _) => namesIn content
    | _ => []
  let env ← environment (knownNames ++ words)
  let temporary := (env.get? "TMPDIR".toList).getD "/tmp".toList
  let bytes := (← IO.getRandomBytes 32).toList
  let given := args.map String.toList
  let loaded := EnvFile.load files env
  let files ← match Arguments.parse loaded given with
    | .ok i => loadPaths files (pathsOf (hostOf files temporary bytes) loaded i)
    | .error _ => pure files
  let (run, after) :=
    CommandLine.run "proxy-steward".toList (hostOf files temporary bytes) env given
  save files after.files
  match run with
  | .ended e =>
    IO.print (String.ofList e.output)
    IO.eprint (String.ofList e.errors)
    return UInt32.ofNat e.code
  | .serving _ =>
    waitForEnd (← IO.getStdin)
    return 0
