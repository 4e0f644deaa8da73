import ProxySteward.Config.Connection
import ProxySteward.Host
import ProxySteward.Text.Rows

/-!
# The proxy as a process

The proxy runs when some process listens on its port; the first line of the port lookup names that
process.  It is launched from the program next to the configuration file, with that file as its
argument, and its output replaces the log file.  It is stopped by a signal to the process behind the
port and to every process whose command line names its program and its configuration file.

## The pattern of a command line

The command line is matched against an extended regular expression, so every character of the path
that is special there is escaped (`Service.escape`).
-/

namespace ProxySteward

open Text

/-- What one look at the proxy found. -/
structure ServiceStatus where
  running : Bool
  pid : Option Nat
  detail : Option Text
  deriving DecidableEq, Repr

namespace ServiceStatus

/-- The status before anyone looked. -/
def unknown : ServiceStatus := ⟨false, none, none⟩

/-- The status in one line. -/
def line (s : ServiceStatus) : Text :=
  if s.running then
    match s.pid with
    | some pid => "running (pid ".toList ++ ofNat pid ++ ")".toList
    | none => "running".toList
  else
    match s.detail with
    | some detail => "stopped (".toList ++ detail ++ ")".toList
    | none => "stopped".toList

end ServiceStatus

/-- Why the proxy could not be started. -/
inductive ServiceFault where
  | configNotFound
  | programNotFound (path : Path)
  | failedToStart
  | host (cause : HostFault)
  deriving DecidableEq, Repr

/-- The report of a failed start. -/
def ServiceFault.message : ServiceFault → Text
  | .configNotFound => "config.yaml not found, cannot control the local service".toList
  | .programNotFound path => "binary not found at ".toList ++ path
  | .failedToStart => "failed to start the local service".toList
  | .host cause => "failed to launch process: ".toList ++ cause.message

namespace Service

/-! ## Looking -/

/-- The process that the output of a port lookup names. -/
def firstPid? (output : Text) : Option Nat :=
  (lines output).head?.bind fun line => readBounded? 4294967295 (trim line)

/-- The process that listens on a port. -/
def listener? (h : Host) (port : Nat) : Option Nat :=
  let found := h.portLookup port
  if h.hasTools && found.success then firstPid? (decodeLossy found.output) else none

/-- What is to be said of a proxy that does not run: its program is missing. -/
def missing? (files : FileTree) (c : Connection) : Option Text :=
  (c.program?.filter fun p => !files.isExecutable p).map fun p => "missing binary: ".toList ++ p

/-- The status of the proxy. -/
def status (h : Host) (c : Connection) : ServiceStatus :=
  match listener? h c.port with
  | some pid => ⟨true, some pid, none⟩
  | none => ⟨false, none, missing? h.files c⟩

/-! ## Starting -/

/-- How many seconds a launched proxy is given to listen on its port. -/
def settleSeconds : Nat := 1

/-- The file that gets the output of the proxy. -/
def logFile (h : Host) : Path := Path.join h.temporaryDirectory "cli-proxy-api.log".toList

/-- Launches the program at a path with a configuration file; the log file is emptied first. -/
def launch (h : Host) (program config : Path) : Except ServiceFault Unit × Host :=
  match h.files.write (logFile h) [] with
  | .error f => (.error (.host f), h)
  | .ok files =>
    let opened := { h with files := files }
    match files.launchFault? (logFile h) program with
    | some f => (.error (.host f), opened)
    | none => (.ok (), opened.did (.launched program config))

/-- The program and the configuration file of a proxy that can be launched. -/
def launchable (h : Host) (c : Connection) : Except ServiceFault (Path × Path) :=
  match c.configPath with
  | none => .error .configNotFound
  | some config => match c.program? with
    | none => .error (.programNotFound Connection.programName)
    | some program =>
      if h.files.isExecutable program then .ok (program, config)
      else .error (.programNotFound program)

/-- Starts the proxy and looks again after a while. -/
def start (h : Host) (c : Connection) : Except ServiceFault ServiceStatus × Host :=
  match launchable h c with
  | .error f => (.error f, h)
  | .ok (program, config) => match launch h program config with
    | (.error f, h) => (.error f, h)
    | (.ok (), launched) =>
      let settled := launched.wait settleSeconds
      let found := status settled c
      (if found.running then .ok found else .error .failedToStart, settled)

/-! ## Stopping -/

/-- Whether a character has a meaning of its own in an extended regular expression. -/
def isSpecial (c : Char) : Bool :=
  c ∈ ['\\', '.', '+', '*', '?', '(', ')', '|', '[', ']', '{', '}', '^', '$']

/-- A text as a regular expression that matches the text itself. -/
def escape (t : Text) : Text := t.flatMap fun c => if isSpecial c then ['\\', c] else [c]

/-- The pattern of the command lines of a proxy with a configuration file. -/
def stopPattern (config : Path) : Text :=
  Connection.programName ++ " -config ".toList ++ escape config

/-- Signals the process behind the port, if its number can be one. -/
def terminateListener (h : Host) (port : Nat) : Host :=
  match listener? h port with
  | some pid => if pid < 2147483648 then h.did (.terminated pid) else h
  | none => h

/-- Signals every process whose command line names the configuration file. -/
def terminateMatching (h : Host) : Option Path → Host
  | some config => if h.hasTools then h.did (.terminatedMatching (stopPattern config)) else h
  | none => h

/-- Stops the proxy as far as that is possible. -/
def stop (h : Host) (c : Connection) : Host :=
  terminateMatching (terminateListener h c.port) c.configPath

end Service
end ProxySteward
