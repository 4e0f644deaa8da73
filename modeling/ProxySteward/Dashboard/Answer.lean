import ProxySteward.Dashboard.Call
import ProxySteward.Dashboard.View
import ProxySteward.Supervisor.Run

/-!
# Answering calls

A call is answered in this order: the path must name a resource, the resource must know the method,
the key in the path must be a text, and the body must hold what is asked for.  Only then the
supervisor is asked, so a refused call changes nothing.  What only shows the last snapshot does not
wait for the supervisor.
-/

namespace ProxySteward
namespace Dashboard

open Text

/-! ## Statuses -/

/-- The status of a failed edit of the key list. -/
def keyStatus : KeyFault → Nat
  | .keyExists => 409
  | .emptyKey | .invalidKey => 400
  | .configNotFound => 404
  | .host _ => 500

/-- The status of a failed start. -/
def serviceStatus : ServiceFault → Nat
  | .configNotFound | .programNotFound _ => 404
  | .failedToStart => 502
  | .host _ => 500

/-- The status of a failed action. -/
def faultStatus : ActionFault → Nat
  | .keys f => keyStatus f
  | .service f => serviceStatus f

/-- The answer for a reply of the supervisor; `done` is the status of an outcome. -/
def ofReply (done : Nat) (snapshot : Snapshot) : Reply → DashboardAnswer
  | .outcome o => ⟨done, .json o.toJson⟩
  | .acknowledged => ⟨done, .json snapshot.toJson⟩
  | .fault f => .fail (faultStatus f) f.message
  | .closed => .fail 503 Reply.closedMessage

/-! ## What is asked -/

/-- The state that a word asks for. -/
def enabledFor? (word : Text) : Option Bool :=
  match String.ofList word with
  | "active" | "enabled" => some true
  | "disabled" => some false
  | _ => none

/-- The word for a state, without blanks around it and in lower case. -/
def stateWord (written : Text) : Text := lower (trim written)

/-- What a call amounts to: an answer that needs nobody, or a command whose outcome has a status. -/
inductive Plan where
  | answer (a : DashboardAnswer)
  | command (done : Nat) (c : Command)

/-- A refusal as a plan. -/
def Plan.refuse (status : Nat) : Plan := .answer (.refuse status)

/-- The plan for what a body asks for. -/
def Plan.ofBody {α : Type} (body : Except Nat α) (plan : α → Plan) : Plan :=
  match body with
  | .ok a => plan a
  | .error status => .refuse status

/-- The plan for a key in a path. -/
def Plan.ofKey (written : Text) (plan : Text → Plan) : Plan :=
  match DashboardCall.key? written with
  | some key => plan key
  | none => .refuse 400

/-- The plan for setting the state of a key. -/
def setState (key written : Text) : Plan :=
  match enabledFor? (stateWord written) with
  | some on => .command 200 (.edit (.setEnabled key on))
  | none => .answer (.fail 400 ("unknown status '".toList ++ stateWord written ++ "'".toList))

/-- The plan for adding a key, or of generating one. -/
def addKey : Option Text → Plan
  | some raw => .command 201 (.edit (.add raw))
  | none => .command 201 .generate

/-- What a call amounts to; `last` is the last snapshot. -/
def plan (last : Snapshot) (c : DashboardCall) : Plan :=
  match Resource.ofTarget? c.target with
  | none => .refuse 404
  | some resource => match resource, c.method with
    | .health, .get => .answer ⟨200, .plain "ok".toList⟩
    | .snapshot, .get => .answer ⟨200, .json last.toJson⟩
    | .keys, .get => .answer ⟨200, .json (.array (last.keys.map KeyRecord.toMaskedJson))⟩
    | .keys, .post => .ofBody c.newKey addKey
    | .key written, .delete => .ofKey written fun key => .command 200 (.edit (.remove key))
    | .keyStatus written, .patch => .ofKey written fun key => .ofBody c.state (setState key)
    | .keyNote written, .patch =>
      .ofKey written fun key => .ofBody c.note fun note => .command 200 (.edit (.setNote key note))
    | .serviceStart, .post => .command 200 .start
    | .serviceStop, .post => .command 200 .stop
    | .refresh, .post => .command 200 .refresh
    | .monitor, .put => .ofBody c.monitoring fun on => .command 200 (.setMonitoring on)
    | _, _ => .refuse 405

/-- Carries out what a call amounts to. -/
def perform (s : Supervisor) (h : Host) : Plan → DashboardAnswer × Supervisor × Host
  | .answer a => (a, s, h)
  | .command done c =>
    let (reply, s, h) := s.ask h c
    (ofReply done s.snapshot reply, s, h)

/-- Answers a call. -/
def answer (s : Supervisor) (h : Host) (c : DashboardCall) :
    DashboardAnswer × Supervisor × Host :=
  match c.method with
  | .head =>
    let (a, s, h) := perform s h (plan s.snapshot { c with method := .get })
    (a.headOnly, s, h)
  | _ => perform s h (plan s.snapshot c)

end Dashboard
end ProxySteward
