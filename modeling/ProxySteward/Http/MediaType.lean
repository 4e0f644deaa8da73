import ProxySteward.Text.Blank

/-!
# Media types

The type of a message body, as a header names it: a kind, a subtype that may end in a suffix behind
a plus sign, and parameters.  Parameters are checked and forgotten; one automaton over the
characters checks them.
-/

namespace ProxySteward

open Text

/-- Kind, subtype and suffix of a media type. -/
structure MediaType where
  kind : Text
  subtype : Text
  suffix : Option Text
  deriving DecidableEq, Repr

namespace MediaType

/-- Whether a character may stand in a name. -/
def isToken (c : Char) : Bool :=
  c.isAlphanum
    || c ∈ ['!', '#', '$', '%', '&', '\'', '*', '+', '-', '.', '^', '_', Char.ofNat 96, '|', '~']

/-- Whether a character may stand between quotes. -/
def isQuotable (c : Char) : Bool := 0x20 ≤ c.toNat && c.toNat < 0x7F

/-! ## Parameters -/

/-- How far the reading of parameters has come. -/
inductive ParameterState where
  | beforeName
  | inName
  | beforeValue
  | inValue
  /-- Behind an opening quote; the next character belongs to the value, whatever it is. -/
  | beforeQuoted
  | inQuoted
  | afterQuoted
  deriving DecidableEq, Repr

/-- The state after one more character, unless the character may not stand there. -/
def ParameterState.next? (s : ParameterState) (c : Char) : Option ParameterState :=
  match s with
  | .beforeName => if c = ' ' then some .beforeName else if isToken c then some .inName else none
  | .inName => if c = '=' then some .beforeValue else if isToken c then some .inName else none
  | .beforeValue =>
    if c = '"' then some .beforeQuoted else if isToken c then some .inValue else none
  | .inValue => if c = ';' then some .beforeName else if isToken c then some .inValue else none
  | .beforeQuoted => if isQuotable c then some .inQuoted else none
  | .inQuoted =>
    if c = '"' then some .afterQuoted else if isQuotable c then some .inQuoted else none
  | .afterQuoted =>
    if c = ';' then some .beforeName else if c = ' ' then some .afterQuoted else none

/-- Whether parameters may end in a state. -/
def ParameterState.isEnd : ParameterState → Bool
  | .beforeName | .beforeValue | .inValue | .afterQuoted => true
  | .inName | .beforeQuoted | .inQuoted => false

/-- Whether parameters are well-formed. -/
def areParameters (t : Text) : Bool :=
  match t.foldlM ParameterState.next? .beforeName with
  | some s => s.isEnd
  | none => false

/-! ## Media types -/

/-- A subtype and its suffix; the last plus sign divides them, unless it comes first. -/
def cutSuffix (t : Text) : Text × Option Text :=
  match t.reverse.span (· != '+') with
  | (_, []) => (t, none)
  | (_, ['+']) => (t, none)
  | (suffix, _ :: front) => (front.reverse, some suffix.reverse)

/-- The media type that a header names. -/
def parse? (t : Text) : Option MediaType :=
  match (lower t).span (· != '/') with
  | (kind, '/' :: rest) =>
    let (name, parameters) := rest.span (· != ';')
    let ok := !kind.isEmpty && kind.all isToken && name.all isToken &&
      match parameters with
      | [] => true
      | _ :: parameters => !name.isEmpty && areParameters parameters
    if ok then some ⟨kind, (cutSuffix name).1, (cutSuffix name).2⟩ else none
  | _ => none

/-- Whether bodies of the type hold JSON. -/
def isJson (m : MediaType) : Bool :=
  m.kind == "application".toList
    && (m.subtype == "json".toList || m.suffix == some "json".toList)

end MediaType
end ProxySteward
