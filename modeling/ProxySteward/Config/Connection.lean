import ProxySteward.Config.Document
import ProxySteward.Host.FileTree
import ProxySteward.Url.Address

/-!
# How the proxy is reached

A connection is where the proxy listens, the key of its management API, and the configuration file
both came from.  `Connection.resolve` finds it anew each time it is asked and never fails: an
address given by the operator wins and looks at no file; else the first candidate path with a
readable configuration file gives the port and the secret; else the proxy is taken to listen on its
usual port.  A management key given by the operator replaces the secret and nothing else.

The files enter through one function, from paths to the texts of readable files, so that the result
depends on them in no other way.
-/

namespace ProxySteward

open Text

/-- The parameters of a connection, as found at one moment. -/
structure Connection where
  baseUrl : Text
  managementKey : Text
  port : Nat
  configPath : Option Path
  deriving DecidableEq, Repr

/-- What the operator gave. -/
structure Overrides where
  baseUrl : Option Text
  managementKey : Option Text
  configPath : Option Path
  deriving DecidableEq, Repr

/-- The directories that the usual places of the configuration file start from. -/
structure SearchRoots where
  workingDirectory : Option Path
  home : Option Path
  deriving DecidableEq, Repr

namespace Overrides

/-- A value without the blanks around it, if anything is left. -/
def given? (value : Option Text) : Option Text :=
  (value.map trim).filter fun t => !t.isEmpty

/-- The paths that may hold the configuration file, the explicit one first. -/
def places (o : Overrides) (roots : SearchRoots) : List Path :=
  (o.configPath.filter fun p => !p.isEmpty).toList
    ++ roots.workingDirectory.toList.flatMap (fun d =>
      [Path.join d "config.yaml".toList, Path.join d "../CLIProxyAPI/config.yaml".toList])
    ++ roots.home.toList.flatMap (fun d =>
      [Path.join d "CLIProxyAPI/config.yaml".toList,
        Path.join d ".cliproxyapi/config.yaml".toList])

/-- Paths without those that are the same as an earlier one. -/
def distinct (paths : List Path) : List Path :=
  (paths.foldl (fun kept p => if kept.any (Path.same p) then kept else p :: kept) []).reverse

/-- The paths that may hold the configuration file, each once. -/
def candidates (o : Overrides) (roots : SearchRoots) : List Path := distinct (o.places roots)

end Overrides

namespace Connection

/-- The port the proxy listens on unless something says otherwise. -/
def usualPort : Nat := 8317

/-- The program of the proxy, next to its configuration file. -/
def programName : Text := "cli-proxy-api".toList

/-- The address of a proxy on this machine. -/
def localUrl (port : Nat) : Text := "http://localhost:".toList ++ Text.ofNat port

/-- The port in an address, or the usual one. -/
def portOfUrl (url : Text) : Nat :=
  ((Address.parse? url).bind Address.portOrImplied?).getD usualPort

/-- The connection that a configuration document describes. -/
def ofDocument (path : Path) (doc : Text) : Connection :=
  let port := (ConfigDocument.port? doc).getD usualPort
  { baseUrl := localUrl port
    managementKey := (ConfigDocument.secret? doc).getD []
    port := port
    configPath := some path }

/-- The connection without a configuration file. -/
def fallback : Connection := ⟨localUrl usualPort, [], usualPort, none⟩

/-- The connection of a given address. -/
def ofUrl (url : Text) : Connection := ⟨url, [], portOfUrl url, none⟩

/-- The connection with a management key, if one is given. -/
def withKey (c : Connection) : Option Text → Connection
  | some key => { c with managementKey := key }
  | none => c

/-- The connection that a readable configuration file among the candidates describes. -/
def ofCandidates? (readText : Path → Option Text) (paths : List Path) : Option Connection :=
  paths.findSome? fun p => (readText p).map (ofDocument p)

/-- The connection, found from what the operator gave and from the files. -/
def resolve (readText : Path → Option Text) (o : Overrides) (roots : SearchRoots) : Connection :=
  let key := Overrides.given? o.managementKey
  match Overrides.given? o.baseUrl with
  | some url => (ofUrl url).withKey key
  | none => ((ofCandidates? readText (o.candidates roots)).getD fallback).withKey key

/-- The text of the configuration file at a path, if there is a readable one. -/
def configText? (files : FileTree) (p : Path) : Option Text := (files.readText p).toOption

/-- The connection, found in the files of a host. -/
def resolveIn (files : FileTree) (o : Overrides) (roots : SearchRoots) : Connection :=
  resolve (configText? files) o roots

/-- The program next to the configuration file; a file named without a directory has none. -/
def program? (c : Connection) : Option Path := do
  let parent ← c.configPath.bind Path.parent?
  if parent.isEmpty then none else some (Path.join parent programName)

end Connection
end ProxySteward
