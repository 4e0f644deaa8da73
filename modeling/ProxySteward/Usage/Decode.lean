import ProxySteward.Json.Read
import ProxySteward.Usage.Summary

/-!
# The server's answer

The answer of the management API is a record with a usage report or an error.  Everything in it may
be missing or null, so an answer is refused only if it is no JSON or if a value has another type.

A key that occurs twice keeps its last report.  The counts of a model that occurs twice are added
up, and a model's count is a number or a record that holds one.
-/

namespace ProxySteward

open Text

/-- What the management API answers. -/
structure UsageAnswer where
  usage : Option UsageReport
  error : Option Text
  deriving DecidableEq, Repr

namespace UsageAnswer

/-! ## Models -/

/-- Adds to the count of a model; the models stay sorted by name. -/
def addCalls (model : Text) (calls : Count) : List (Text × Count) → List (Text × Count)
  | [] => [(model, Count.add 0 calls)]
  | (name, c) :: rest =>
    if model = name then (name, Count.add c calls) :: rest
    else if model < name then (model, Count.add 0 calls) :: (name, c) :: rest
    else (name, c) :: addCalls model calls rest

/-- The one value of a name among the members of an object, if it is a count; a name that occurs
twice or has another value is refused. -/
def countNamed? (name : Text) (ms : List (Text × Json.Buffered)) : Option (Option Count) :=
  match ms.filter (·.1 = name) with
  | [] => some none
  | [(_, .null)] => some none
  | [(_, .count i)] => some (some (Int64.ofInt i))
  | _ => none

/-- The count of a model: a number, or a record with a total or with a plain number of requests. -/
def modelCalls? : Json.Buffered → Option Count
  | .count i => some (Int64.ofInt i)
  | .object ms => do
    let total ← countNamed? "total_requests".toList ms
    let plain ← countNamed? "requests".toList ms
    some ((total <|> plain).getD 0)
  | _ => none

/-- How deep the value of a model may be nested. -/
def modelDepth : Nat := 122

/-- The value of a model; null counts nothing. -/
def modelValue (input : Bytes) : Json.Read Count :=
  match Json.optional (Json.buffered modelDepth) input with
  | .error f => .error f
  | .ok (none, rest) => .ok (0, rest)
  | .ok (some v, rest) => match modelCalls? v with
    | some c => .ok (c, rest)
    | none => .error .mistyped

/-- The models of a key, or null. -/
def models (input : Bytes) : Json.Read (List (Text × Count)) :=
  match Json.optional (Json.map modelValue addCalls []) input with
  | .error f => .error f
  | .ok (ms, rest) => .ok (ms.getD [], rest)

/-! ## Keys -/

/-- A count or null. -/
def countOrNull (input : Bytes) : Json.Read (Option Count) :=
  (Json.optional Json.count input).map fun (i, rest) => (i.map Int64.ofInt, rest)

/-- The report of one key. -/
def keyFields : List (Json.Field KeyReport) :=
  [.of "total_requests" false countOrNull fun c k => { k with requests := c },
    .of "total_tokens" false countOrNull fun c k => { k with tokens := c },
    .of "models" false models fun ms k => { k with models := ms }]

/-- Sets the report of a key, in the place of an earlier one. -/
def setKey (id : Text) (k : KeyReport) (keys : List (Text × KeyReport)) :
    List (Text × KeyReport) :=
  keys.filter (·.1 ≠ id) ++ [(id, k)]

/-- The reports of all keys. -/
def keys : Json.Reader (List (Text × KeyReport)) :=
  Json.map (Json.fields keyFields KeyReport.empty) setKey []

/-! ## The answer -/

/-- The usage report. -/
def reportFields : List (Json.Field UsageReport) :=
  [.of "total_requests" false countOrNull fun c r => { r with requests := c },
    .of "total_tokens" false countOrNull fun c r => { r with tokens := c },
    .of "apis" false (Json.optional keys) fun ks r => { r with keys := ks.getD [] }]

/-- The whole answer. -/
def answerFields : List (Json.Field UsageAnswer) :=
  [.of "usage" false (Json.optional (Json.fields reportFields UsageReport.empty))
      fun u a => { a with usage := u },
    .of "error" false (Json.optional Json.string) fun e a => { a with error := e }]

/-- The answer that a message body holds. -/
def ofBody (body : Bytes) : Except JsonFault UsageAnswer :=
  Json.whole (Json.fields answerFields ⟨none, none⟩) body

end UsageAnswer
end ProxySteward
