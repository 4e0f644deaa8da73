import ProxySteward.Http.MediaType
import ProxySteward.Http.Target
import ProxySteward.Json.Read
import ProxySteward.Json.Value
import ProxySteward.Url.Percent

/-!
# Calls of the dashboard

A call names one of the dashboard's resources by its path and says what to do by its method.  The
answer is a status with JSON, with a plain text, or with nothing that a program would read.

Paths are compared as they are written; only the key that a path names is decoded, and it must be a
text.
-/

namespace ProxySteward

open Text

/-- What a call does to a resource. -/
inductive Method where
  | get
  | head
  | post
  | put
  | patch
  | delete
  | other
  deriving DecidableEq, Repr

/-- A method by its name. -/
def Method.named (name : Text) : Method :=
  match String.ofList name with
  | "GET" => .get
  | "HEAD" => .head
  | "POST" => .post
  | "PUT" => .put
  | "PATCH" => .patch
  | "DELETE" => .delete
  | _ => .other

/-- A call. -/
structure DashboardCall where
  method : Method
  /-- Path and query. -/
  target : Text
  contentType : Option Text
  body : Bytes
  deriving DecidableEq, Repr

/-- What an answer holds. -/
inductive DashboardBody where
  | json (v : Json)
  | plain (t : Text)
  | refusal

/-- An answer. -/
structure DashboardAnswer where
  status : Nat
  body : DashboardBody

namespace DashboardAnswer

/-- A refusal without a report. -/
def refuse (status : Nat) : DashboardAnswer := ⟨status, .refusal⟩

/-- A report of an error. -/
def fail (status : Nat) (message : Text) : DashboardAnswer :=
  ⟨status, .json (.record [("error", .text message)])⟩

/-- The answer to a call that asks for everything but the body. -/
def headOnly (a : DashboardAnswer) : DashboardAnswer :=
  match a.body with
  | .plain _ => { a with body := .plain [] }
  | _ => { a with body := .refusal }

end DashboardAnswer

/-! ## Resources -/

/-- A resource of the dashboard; a key is kept as it is written in the path. -/
inductive Resource where
  | health
  | snapshot
  | keys
  | key (written : Text)
  | keyStatus (written : Text)
  | keyNote (written : Text)
  | serviceStart
  | serviceStop
  | refresh
  | monitor
  deriving DecidableEq, Repr

namespace Resource

/-- The resource at a path.  The state and the note of a key can be named for the empty key, the key
itself cannot. -/
def at? (path : Text) : Option Resource :=
  match (path.splitOn '/').map String.ofList with
  | ["", "health"] => some .health
  | ["", "api", "snapshot"] => some .snapshot
  | ["", "api", "keys"] => some .keys
  | ["", "api", "keys", ""] => none
  | ["", "api", "keys", written] => some (.key written.toList)
  | ["", "api", "keys", written, "status"] => some (.keyStatus written.toList)
  | ["", "api", "keys", written, "note"] => some (.keyNote written.toList)
  | ["", "api", "service", "start"] => some .serviceStart
  | ["", "api", "service", "stop"] => some .serviceStop
  | ["", "api", "refresh"] => some .refresh
  | ["", "api", "monitor"] => some .monitor
  | _ => none

/-- The resource that a call names. -/
def ofTarget? (target : Text) : Option Resource := at? (RequestTarget.read target).path

end Resource

namespace DashboardCall

/-- The key that a path names. -/
def key? (written : Text) : Option Text := decode? (Url.percentDecode written)

/-- Whether the call says that its body holds JSON. -/
def isJson (c : DashboardCall) : Bool :=
  match c.contentType.bind MediaType.parse? with
  | some m => m.isJson
  | none => false

/-- The status of a body that cannot be read. -/
def faultStatus : JsonFault → Nat
  | .malformed => 400
  | .mistyped => 422

/-- The record that the body of the call starts with, or the status of a refusal. -/
def record {α : Type} (c : DashboardCall) (fields : List (Json.Field α)) (start : α) :
    Except Nat α :=
  if c.isJson then
    match Json.fields fields start c.body with
    | .ok (a, _) => .ok a
    | .error f => .error (faultStatus f)
  else .error 415

/-- The key to be added, or none if one is to be generated. -/
def newKey (c : DashboardCall) : Except Nat (Option Text) :=
  c.record [.of "api_key" false (Json.optional Json.string) fun k _ => k] none

/-- The state asked for, as it is written. -/
def state (c : DashboardCall) : Except Nat Text :=
  c.record [.of "status" true Json.string fun t _ => t] []

/-- The note asked for. -/
def note (c : DashboardCall) : Except Nat Text :=
  c.record [.of "note" false Json.string fun t _ => t] []

/-- Whether monitoring is to be on. -/
def monitoring (c : DashboardCall) : Except Nat Bool :=
  c.record [.of "enabled" true Json.flag fun b _ => b] false

end DashboardCall
end ProxySteward
