import ProxySteward.CommandLine.Arguments
import ProxySteward.Rehearsal.Server
import ProxySteward.Supervisor.Run
import ProxySteward.Usage.Display

/-!
# Running a command

A command prints to the standard output and ends with zero, or it prints one line about its failure
to the standard error and ends with one.  Misused arguments end with two.  Only the dashboard does
not end by itself: once it listens it is served until it is interrupted.
-/

namespace ProxySteward

open Text

/-- The end of a program: its exit code and what it printed. -/
structure ProgramEnd where
  code : Nat
  output : Text
  errors : Text
  deriving DecidableEq, Repr

/-- What a program came to. -/
inductive ProgramRun where
  | ended (e : ProgramEnd)
  /-- A server listens at an address. -/
  | serving (address : SocketAddress)
  deriving DecidableEq, Repr

namespace ProgramEnd

/-- Lines with the line feeds that end them. -/
def printed (lines : List Text) : Text := lines.flatMap (· ++ ['\n'])

/-- An end after printing lines. -/
def done (lines : List Text) : ProgramEnd := ⟨0, printed lines, []⟩

/-- An end after a failure. -/
def failed (message : Text) : ProgramEnd := ⟨1, [], printed ["error: ".toList ++ message]⟩

/-- An end of a program whose arguments name nothing to do. -/
def stopped (programName : Text) : ArgumentStop → ProgramEnd
  | .help => done []
  | .version => done [programName]
  | .misuse => ⟨2, [], []⟩

end ProgramEnd

namespace CommandLine

open ProgramEnd

/-! ## Keys -/

/-- The line of a record in the list of keys. -/
def keyLine (reveal : Bool) (r : KeyRecord) : Text :=
  (if reveal then r.key else r.masked) ++ "  [".toList
    ++ (if r.enabled then "enabled".toList else "disabled".toList) ++ "]".toList
    ++ (if r.note.isEmpty then [] else "  ".toList ++ r.note)

/-- What an edit that changes the key list is called. -/
def editVerb : KeyEdit → String
  | .add _ => "added"
  | .remove _ => "removed"
  | .setNote _ _ => "updated note for"
  | .setEnabled _ true => "enabled"
  | .setEnabled _ false => "disabled"

/-- The key that an edit is about. -/
def editedKey : KeyEdit → Text
  | .add key | .remove key | .setNote key _ | .setEnabled key _ => key

/-- The line about an edit. -/
def editLine (e : KeyEdit) : KeyAnswer → Text
  | .added key => "added ".toList ++ mask key
  | .changed true => (editVerb e).toList ++ ' ' :: mask (editedKey e)
  | .changed false => "no change for ".toList ++ mask (editedKey e)

/-- The lines of the key list. -/
def listKeys (reveal : Bool) (files : FileTree) (c : Connection) : Except KeyFault (List Text) := do
  let store ← KeyStore.open? files c.configPath
  .ok ((← store.records files).map (keyLine reveal))

/-- Edits the key list. -/
def editKeys (e : KeyEdit) (h : Host) (c : Connection) : Except KeyFault (KeyAnswer × Host) := do
  let store ← KeyStore.open? h.files c.configPath
  let (answer, files) ← store.edit e h.files
  .ok (answer, { h with files := files })

/-! ## The proxy and its usage -/

/-- The lines of the status. -/
def statusLines (h : Host) (c : Connection) : List Text :=
  ["config:   ".toList ++ c.configPath.getD "(not found)".toList,
    "base url: ".toList ++ c.baseUrl,
    "service:  ".toList ++ (Service.status h c).line]

/-- The line about the proxy after a start or a stop. -/
def serviceLine (s : ServiceStatus) : Text := "local service ".toList ++ s.line

/-- The lines of the usage. -/
def usageLines (json : Bool) (s : UsageSummary) : List Text :=
  if json then [s.toJson.pretty] else s.displayLines

/-- Prints the usage. -/
def usage (json : Bool) (h : Host) (c : Connection) : ProgramEnd × Host :=
  match UsageFetch.fetch h c.baseUrl c.managementKey with
  | (.ok s, h) => (done (usageLines json s), h)
  | (.error f, h) => (failed (f.friendly c.managementKey), h)

/-! ## The dashboard -/

/-- The address of the dashboard as a text. -/
def dashboardAddress (bind : Text) (port : Nat) : Text := bind ++ ':' :: ofNat port

/-- Listens at an address. -/
def serve (h : Host) (bind : Text) (port : Nat) : ProgramRun :=
  match SocketAddress.parse? (dashboardAddress bind port) with
  | none => .ended (failed "invalid socket address syntax".toList)
  | some address => match h.listenFault? address with
    | some f => .ended (failed f.message)
    | none => .serving address

/-! ## Commands -/

/-- Does a job that ends by itself, or starts to serve. -/
def perform (h : Host) (c : Connection) : Job → ProgramRun × Host
  | .status => (.ended (done (statusLines h c)), h)
  | .start => match Service.start h c with
    | (.ok s, h) => (.ended (done [serviceLine s]), h)
    | (.error f, h) => (.ended (failed f.message), h)
  | .stop =>
    let h := Service.stop h c
    (.ended (done [serviceLine (Service.status h c)]), h)
  | .usage json =>
    let (e, h) := usage json h c
    (.ended e, h)
  | .listKeys reveal => match listKeys reveal h.files c with
    | .ok lines => (.ended (done lines), h)
    | .error f => (.ended (failed f.message), h)
  | .editKeys e => match editKeys e h c with
    | .ok (answer, h) => (.ended (done [editLine e answer]), h)
    | .error f => (.ended (failed f.message), h)
  | .generateKey =>
    let (bytes, h) := h.draw
    let key := KeyRecord.generatedKey bytes
    match editKeys (.add key) h c with
    | .ok (_, h) => (.ended (done [key]), h)
    | .error f => (.ended (failed f.message), h)
  | .serve bind port _ => (serve h bind port, h)

/-- The directories that the configuration file is looked for in. -/
def searchRoots (h : Host) (env : Environment) : SearchRoots where
  workingDirectory := some h.files.workingPath
  home := (env.get? "HOME".toList).filter fun home => !home.isEmpty

/-- Runs the program; `programName` is what it calls itself when asked for its version. -/
def run (programName : Text) (h : Host) (env : Environment) (args : List Text) :
    ProgramRun × Host :=
  let env := EnvFile.load h.files env
  match Arguments.parse env args with
  | .error stop => (.ended (stopped programName stop), h)
  | .ok i =>
    perform h (Connection.resolveIn h.files i.overrides (searchRoots h env)) i.job

/-! ## The rehearsal server -/

/-- The report of a fault that ends the rehearsal server. -/
def faultReport (f : HostFault) : Text :=
  "Os \x7b code: ".toList ++ ofNat (f.number?.getD 0) ++ ", kind: ".toList ++ f.kind.toList
    ++ ", message: \"".toList ++ f.name.toList ++ "\" \x7d".toList

/-- An end of the rehearsal server after a failure. -/
def rehearsalFailed (report : Text) : ProgramEnd :=
  ⟨1, [], printed ["Error: ".toList ++ report]⟩

/-- The key that the rehearsal server asks for. -/
def rehearsalKey (env : Environment) : Option Text :=
  (env.get? "MOCK_MANAGEMENT_KEY".toList).filter fun key => !(trim key).isEmpty

/-- Runs the rehearsal server. -/
def rehearse (h : Host) (env : Environment) : ProgramRun :=
  let address := (env.get? "MOCK_MANAGEMENT_ADDR".toList).getD "127.0.0.1:8317".toList
  match SocketAddress.parse? address with
  | none => .ended (rehearsalFailed "AddrParseError(Socket)".toList)
  | some address => match h.listenFault? address with
    | some f => .ended (rehearsalFailed (faultReport f))
    | none => .serving address

end CommandLine
end ProxySteward
