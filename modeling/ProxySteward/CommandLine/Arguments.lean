import ProxySteward.CommandLine.EnvFile
import ProxySteward.Config.Connection
import ProxySteward.Key.Edit

/-!
# Arguments

The arguments of the program name a command, perhaps inside a group of commands, and give options to
it.  Three options may be given at every level and are also read from the environment; given at
several levels, the innermost one counts.

## Levels

A level is what stands between two command names.  `Level.gather` reads one level: its options, its
positional arguments and the name of the command that follows.  An option may be given once at a
level.  Its value stands behind an equals sign or is the next argument, which must not look like an
option itself.  Behind two dashes every argument is positional.
-/

namespace ProxySteward

open Text

/-- What the program is to do. -/
inductive Job where
  | status
  | start
  | stop
  | usage (json : Bool)
  | listKeys (reveal : Bool)
  | editKeys (e : KeyEdit)
  | generateKey
  | serve (bind : Text) (port : Nat) (monitoring : Bool)
  deriving DecidableEq, Repr

/-- A command and what the operator gave with it. -/
structure Invocation where
  overrides : Overrides
  job : Job
  deriving DecidableEq, Repr

/-- Why the arguments name nothing to do. -/
inductive ArgumentStop where
  | help
  | version
  | misuse
  deriving DecidableEq, Repr

/-! ## One level -/

/-- What may stand at a level. -/
structure Level where
  /-- Options with a value. -/
  valued : List String
  /-- Options without a value. -/
  switches : List String
  /-- The most positional arguments. -/
  positional : Nat
  /-- The names of the commands that may follow. -/
  commands : List String
  hasVersion : Bool

/-- What was read at a level. -/
structure Gathered where
  values : List (Text × Text)
  switches : List Text
  positional : List Text
  deriving DecidableEq, Repr

namespace Gathered

/-- Nothing read. -/
def empty : Gathered := ⟨[], [], []⟩

/-- The value of an option. -/
def value? (g : Gathered) (name : String) : Option Text :=
  (g.values.find? (·.1 = name.toList)).map (·.2)

/-- Whether an option without a value was given. -/
def has (g : Gathered) (name : String) : Bool := g.switches.contains name.toList

end Gathered

namespace Level

/-- Whether an argument looks like an option; a dash alone does not. -/
def looksLikeOption (arg : Text) : Bool := arg.head? == some '-' && arg.length != 1

/-- A port number with or without a sign. -/
def port? : Text → Option Nat
  | '-' :: digits => (readNat? digits).filter (· = 0)
  | t => readBounded? 65535 t

/-- Whether an option may have a value: a path is not empty, and a port is a number. -/
def accepts (name value : Text) : Bool :=
  if name = "config".toList then !value.isEmpty
  else if name = "port".toList then (port? value).isSome
  else true

/-- What was read with the value of one more option. -/
def addValue (g : Gathered) (name value : Text) : Except ArgumentStop Gathered :=
  if g.values.any (·.1 = name) || !accepts name value then .error .misuse
  else .ok { g with values := (name, value) :: g.values }

/-- What was read with one more option that has no value. -/
def addSwitch (g : Gathered) (name : Text) : Except ArgumentStop Gathered :=
  if g.switches.contains name then .error .misuse
  else .ok { g with switches := name :: g.switches }

/-- What was read with more positional arguments. -/
def addPositional (l : Level) (g : Gathered) (args : List Text) : Except ArgumentStop Gathered :=
  if g.positional.length + args.length ≤ l.positional then
    .ok { g with positional := g.positional ++ args }
  else .error .misuse

/-- What an option of one dash asks for. -/
def short (l : Level) (letters : Text) : ArgumentStop :=
  if letters.head? = some 'h' then .help
  else if l.hasVersion && letters.head? = some 'V' then .version
  else .misuse

/-- What an option that stops the reading asks for. -/
def stop? (l : Level) (name : Text) : Option ArgumentStop :=
  if name = "help".toList then some .help
  else if l.hasVersion && name = "version".toList then some .version
  else none

/-- Reads a level up to the command that follows, if one does. -/
def gather (l : Level) (g : Gathered) :
    List Text → Except ArgumentStop (Gathered × Option (Text × List Text))
  | [] => .ok (g, none)
  | ['-', '-'] :: rest => (l.addPositional g rest).map fun g => (g, none)
  | ('-' :: '-' :: long) :: rest =>
    let (name, attached) := match cutAt? '=' long with
      | some (name, value) => (name, some value)
      | none => (long, none)
    if (l.valued.map String.toList).contains name then
      match attached, rest with
      | some value, rest => match addValue g name value with
        | .ok g => l.gather g rest
        | .error s => .error s
      | none, value :: rest =>
        if looksLikeOption value then .error .misuse
        else match addValue g name value with
          | .ok g => l.gather g rest
          | .error s => .error s
      | none, [] => .error .misuse
    else if attached.isSome then .error .misuse
    else if (l.switches.map String.toList).contains name then
      match addSwitch g name with
      | .ok g => l.gather g rest
      | .error s => .error s
    else .error ((l.stop? name).getD .misuse)
  | arg :: rest =>
    if looksLikeOption arg then .error (l.short arg.tail)
    else if (l.commands.map String.toList).contains arg then .ok (g, some (arg, rest))
    else match l.addPositional g [arg] with
      | .ok g => l.gather g rest
      | .error s => .error s

end Level

/-! ## The levels of the program -/

namespace Arguments

/-- The options of every level. -/
def globals : List String := ["config", "base-url", "management-key"]

/-- A level without a command behind it. -/
def leaf (valued switches : List String) (positional : Nat) : Level :=
  ⟨globals ++ valued, switches, positional, [], false⟩

/-- The names of the commands. -/
def commands : List String := ["status", "start", "stop", "usage", "keys", "serve"]

/-- The names of the commands on keys. -/
def keyCommands : List String := ["list", "add", "generate", "remove", "note", "enable", "disable"]

/-- The outermost level. -/
def outermost : Level := ⟨globals, [], 0, "help" :: commands, true⟩

/-- The level of the commands on keys. -/
def keyLevel : Level := ⟨globals, [], 0, "help" :: keyCommands, false⟩

/-- What a request for help on a command comes to. -/
def help (known : List String) (inner : String → List String) : List Text → ArgumentStop
  | [] => .help
  | [name] => if (known.map String.toList).contains name then .help else .misuse
  | [name, further] =>
    if (known.map String.toList).contains name
      && ((inner (String.ofList name)).map String.toList).contains further then .help
    else .misuse
  | _ => .misuse

/-- The commands inside a command. -/
def inside (name : String) : List String := if name = "keys" then keyLevel.commands else []

/-- The usual port of the dashboard. -/
def usualPort : Nat := 8318

/-- The usual address of the dashboard. -/
def usualBind : Text := "127.0.0.1".toList

/-- Reads a level that no command follows. -/
def last (l : Level) (args : List Text) : Except ArgumentStop Gathered :=
  (l.gather .empty args).map (·.1)

/-- The only positional argument. -/
def single (g : Gathered) (job : Text → Job) : Except ArgumentStop Job :=
  match g.positional with
  | [key] => .ok (job key)
  | _ => .error .misuse

/-- The job of a command on keys. -/
def keyJob (name : String) (args : List Text) : Except ArgumentStop (Gathered × Job) := do
  match name with
  | "list" =>
    let g ← last (leaf [] ["reveal"] 0) args
    .ok (g, .listKeys (g.has "reveal"))
  | "generate" =>
    let g ← last (leaf [] [] 0) args
    .ok (g, .generateKey)
  | "note" =>
    let g ← last (leaf [] [] 2) args
    match g.positional with
    | [key] => .ok (g, .editKeys (.setNote key []))
    | [key, note] => .ok (g, .editKeys (.setNote key note))
    | _ => .error .misuse
  | name =>
    let g ← last (leaf [] [] 1) args
    let job ← single g fun key => .editKeys (match name with
      | "add" => .add key
      | "remove" => .remove key
      | "enable" => .setEnabled key true
      | _ => .setEnabled key false)
    .ok (g, job)

/-- The port in an argument, or else in the environment. -/
def dashboardPort (g : Gathered) (env : Environment) : Except ArgumentStop Nat :=
  match g.value? "port" <|> env.get? "WARDEN_PORT".toList with
  | some t => match Level.port? t with
    | some n => .ok n
    | none => .error .misuse
  | none => .ok usualPort

/-- The job of serving the dashboard. -/
def serveJob (env : Environment) (args : List Text) : Except ArgumentStop (Gathered × Job) := do
  let g ← last (leaf ["bind", "port"] ["no-monitor"] 0) args
  let port ← dashboardPort g env
  let bind := ((g.value? "bind" <|> env.get? "WARDEN_BIND".toList).getD usualBind)
  .ok (g, .serve bind port (!g.has "no-monitor"))

/-- The job of a command and the levels below the outermost one, the innermost first. -/
def job (env : Environment) (name : String) (args : List Text) :
    Except ArgumentStop (List Gathered × Job) := do
  match name with
  | "help" => .error (help outermost.commands inside args)
  | "keys" =>
    match ← keyLevel.gather .empty args with
    | (_, none) => .error .misuse
    | (g, some (command, rest)) =>
      if command = "help".toList then .error (help keyLevel.commands (fun _ => []) rest)
      else
        let (inner, job) ← keyJob (String.ofList command) rest
        .ok ([inner, g], job)
  | "serve" =>
    let (g, job) ← serveJob env args
    .ok ([g], job)
  | "usage" =>
    let g ← last (leaf [] ["json"] 0) args
    .ok ([g], .usage (g.has "json"))
  | name =>
    let g ← last (leaf [] [] 0) args
    .ok ([g], match name with
      | "start" => .start
      | "stop" => .stop
      | _ => .status)

/-- The variable that stands for an option of every level. -/
def variableFor (name : String) : Text :=
  match name with
  | "config" => "CLIPROXY_CONFIG_PATH".toList
  | "base-url" => "CLIPROXY_BASE_URL".toList
  | _ => "CLIPROXY_MANAGEMENT_KEY".toList

/-- The value of an option of every level: the innermost one given, or else the variable.  A
variable is looked at for each level that does not give the option, and must be a value of it
then. -/
def global (env : Environment) (levels : List Gathered) (name : String) :
    Except ArgumentStop (Option Text) :=
  let given := levels.map (·.value? name)
  match env.get? (variableFor name) with
  | some value =>
    if given.any Option.isNone && !Level.accepts name.toList value then .error .misuse
    else .ok (given.findSome? id <|> some value)
  | none => .ok (given.findSome? id)

/-- What the arguments of the program say. -/
def parse (env : Environment) (args : List Text) : Except ArgumentStop Invocation := do
  match ← outermost.gather .empty args with
  | (_, none) => .error .misuse
  | (g, some (command, rest)) =>
    let (inner, job) ← job env (String.ofList command) rest
    let levels := inner ++ [g]
    .ok {
      overrides := {
        baseUrl := ← global env levels "base-url"
        managementKey := ← global env levels "management-key"
        configPath := ← global env levels "config" }
      job := job }

end Arguments
end ProxySteward
