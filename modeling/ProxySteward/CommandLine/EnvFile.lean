import ProxySteward.Host.FileTree
import ProxySteward.Text.Alphanumeric
import ProxySteward.Text.ByteLines
import ProxySteward.Text.Search

/-!
# Environment files

A file named `.env` in the working directory, or in the nearest directory that contains it, sets
variables that the environment does not set already.  It is read line by line and only up to the
first line that cannot be read; what stands before that line counts.

## Lines

A line is `NAME=value`, perhaps behind the word `export`.  A quotation may go on over several lines,
a comment starts at the beginning of a line or behind a blank, and a backslash takes the meaning
from the next character.  `EnvFile.LineState` is the automaton that finds out where such a line
ends.

## Values

In a value, `$NAME` and `${NAME}` stand for variables, except between single quotes.  A name without
braces ends in front of the first character that is no letter and no digit, and that character is
taken as it is, also when it is a quote.
-/

namespace ProxySteward

open Text

/-- Variables and their values; the first one of a name counts. -/
abbrev Environment := List (Text × Text)

/-- The value of a variable. -/
def Environment.get? (env : Environment) (name : Text) : Option Text :=
  (env.find? (·.1 = name)).map (·.2)

namespace EnvFile

/-! ## Where lines end -/

/-- What a character of a line is read as. -/
inductive LineState where
  | plain
  | blank
  | escape
  | single
  | singleEscape
  | double
  | doubleEscape
  deriving DecidableEq, Repr

/-- The state behind a character that is not quoted. -/
def LineState.quoting (c : Char) (otherwise : LineState) : LineState :=
  if c = '\\' then .escape else if c = '"' then .double else if c = '\'' then .single else otherwise

/-- The state after one more character; none at the start of a comment. -/
def LineState.next? (s : LineState) (c : Char) : Option LineState :=
  match s with
  | .plain =>
    some (if isBlank c && c != '\n' && c != '\r' then .blank else .quoting c .plain)
  | .blank => if c = '#' then none else some (.quoting c .plain)
  | .escape => some .plain
  | .double => some (if c = '\\' then .doubleEscape else if c = '"' then .plain else .double)
  | .doubleEscape => some .double
  | .single => some (if c = '\\' then .singleEscape else if c = '\'' then .plain else .single)
  | .singleEscape => some .single

/-- Reads one more piece of a line: the piece up to a comment, and the state behind it, none if
there is a comment. -/
def readPiece (s : LineState) : Text → Text × Option LineState
  | [] => ([], some s)
  | c :: cs =>
    match s.next? c with
    | none => ([], none)
    | some s =>
      let (piece, final) := readPiece s cs
      (c :: piece, final)

/-- Without the line feed at the end and the carriage return in front of it. -/
def dropLineEnd (line : Text) : Text :=
  if line.getLast? = some '\n' then
    let line := line.dropLast
    if line.getLast? = some '\r' then line.dropLast else line
  else line

/-- The logical lines of a file, from the state behind the pieces read so far; none stands for a
line that cannot be read. -/
def logicalLines (s : LineState) (read : Text) : List Bytes → List (Option Text)
  | [] => if s = .plain then [] else [none]
  | bytes :: rest =>
    match decode? bytes with
    | none => [none]
    | some piece =>
      if (trimStart (read ++ piece)).head? = some '#' then some [] :: logicalLines .plain [] rest
      else match readPiece s piece with
        | (front, none) => some (read ++ front) :: logicalLines .plain [] rest
        | (_, some .plain) => some (dropLineEnd (read ++ piece)) :: logicalLines .plain [] rest
        | (_, some s) => logicalLines s (read ++ piece) rest

/-! ## Values -/

/-- How far a value has been read. -/
inductive ValueState where
  | bare
  | single
  | double
  /-- Behind a backslash, between double quotes or not. -/
  | escape (quoted : Bool)
  /-- In the name of a variable without braces. -/
  | name (quoted : Bool) (read : Text)
  /-- In the name of a variable with braces. -/
  | braced (quoted : Bool) (read : Text)
  /-- Behind the value. -/
  | behind
  deriving DecidableEq, Repr

/-- The state between double quotes or outside of them. -/
def ValueState.within (quoted : Bool) : ValueState := if quoted then .double else .bare

/-- What a character behind a backslash stands for. -/
def escaped? (c : Char) : Option Char :=
  if c = 'n' then some '\n'
  else if c ∈ ['\\', '\'', '"', '$', ' '] then some c
  else none

/-- The text a variable stands for. -/
def valueOf (env : Environment) (name : Text) : Text := (env.get? name).getD []

/-- The value that the rest of a line stands for. -/
def value? (env : Environment) : ValueState → Text → Option Text
  | .bare, [] => some []
  | .escape false, [] => some []
  | .behind, [] => some []
  | .name false read, [] => some (valueOf env read)
  | _, [] => none
  | .behind, c :: cs =>
    if c = ' ' ∨ c = '\t' then value? env .behind cs else if c = '#' then some [] else none
  | .escape quoted, c :: cs => do
    let d ← escaped? c
    (value? env (.within quoted) cs).map (d :: ·)
  | .single, c :: cs =>
    if c = '\'' then value? env .bare cs else (value? env .single cs).map (c :: ·)
  | .name quoted read, c :: cs =>
    if isAlphanumeric c then value? env (.name quoted (read ++ [c])) cs
    else if c = '{' ∧ read = [] then value? env (.braced quoted []) cs
    else if c = '$' then (value? env (.name quoted []) cs).map (valueOf env read ++ ·)
    else (value? env (.within quoted) cs).map (valueOf env read ++ c :: ·)
  | .braced quoted read, c :: cs =>
    if c = '}' then (value? env (.within quoted) cs).map (valueOf env read ++ ·)
    else value? env (.braced quoted (read ++ [c])) cs
  | .double, c :: cs =>
    if c = '$' then value? env (.name true []) cs
    else if c = '"' then value? env .bare cs
    else if c = '\\' then value? env (.escape true) cs
    else (value? env .double cs).map (c :: ·)
  | .bare, c :: cs =>
    if c = '$' then value? env (.name false []) cs
    else if c = '\'' then value? env .single cs
    else if c = '"' then value? env .double cs
    else if c = '\\' then value? env (.escape false) cs
    else if c = ' ' ∨ c = '\t' then value? env .behind cs
    else (value? env .bare cs).map (c :: ·)

/-! ## Assignments -/

/-- The name in front of a line and what follows the blanks behind it. -/
def name? (line : Text) : Option (Text × Text) :=
  match line.span fun c => c.isAlphanum || c == '_' || c == '.' with
  | (c :: cs, rest) => if c.isAlpha || c = '_' then some (c :: cs, trimStart rest) else none
  | ([], _) => none

/-- The name and the written value of an assignment; the name may stand behind the word `export`. -/
def assignment? (line : Text) : Option (Text × Text) := do
  let (name, rest) ← name? line
  match rest with
  | '=' :: written => some (name, trimStart written)
  | _ =>
    if name = "export".toList then
      let (name, rest) ← name? rest
      match rest with
      | '=' :: written => some (name, trimStart written)
      | _ => none
    else none

/-- The environment with a variable, unless it has one of that name. -/
def setDefault (env : Environment) (name value : Text) : Environment :=
  if (env.get? name).isSome then env else env ++ [(name, value)]

/-- The environment after a logical line, unless the line cannot be read. -/
def applyLine? (env : Environment) (line : Text) : Option Environment :=
  let line := trim line
  if line.isEmpty || line.head? = some '#' then some env
  else do
    let (name, written) ← assignment? line
    if written.isEmpty || written.head? = some '#' then some (setDefault env name [])
    else some (setDefault env name (← value? env .bare written))

/-- The environment after logical lines, up to the first one that cannot be read. -/
def applyLines (env : Environment) : List (Option Text) → Environment
  | [] => env
  | line :: rest =>
    match line.bind (applyLine? env) with
    | some env => applyLines env rest
    | none => env

/-- The content of a file without a byte order mark. -/
def dropMark : Bytes → Bytes
  | 0xEF :: 0xBB :: 0xBF :: rest => rest
  | content => content

/-- The environment after a file. -/
def apply (env : Environment) (content : Bytes) : Environment :=
  applyLines env (logicalLines .plain [] (byteLines (dropMark content)))

/-! ## Finding the file -/

/-- The file at a location or at the nearest one that contains it, with the location as the list of
its names from the last to the first. -/
def nearest? (t : FileTree) : (inward : List Text) → Option Bytes
  | [] => fileIn? t []
  | name :: outer =>
    match fileIn? t (name :: outer) with
    | some content => some content
    | none => nearest? t outer
where
  /-- The file in one directory; one that may not be read counts as empty. -/
  fileIn? (t : FileTree) (inward : List Text) : Option Bytes :=
    match t.node? (inward.reverse ++ [".env".toList]) with
    | some (.file content mode) => some (if mode &&& 0o400 = 0 then [] else content)
    | _ => none

/-- The environment after the environment file of the working directory, if there is one. -/
def load (t : FileTree) (env : Environment) : Environment :=
  match nearest? t t.workingDirectory.reverse with
  | some content => apply env content
  | none => env

end EnvFile
end ProxySteward
