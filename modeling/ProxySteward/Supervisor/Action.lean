import ProxySteward.Supervisor.Poll

/-!
# Carrying out commands

Every action finds the connection anew, acts on the host, keeps its report as the last message and
polls, so the snapshot that is published before the reply already shows what the action did.
-/

namespace ProxySteward
namespace Supervisor

open Text

/-- Edits the key list of the configuration file. -/
def editKeys (s : Supervisor) (h : Host) (e : KeyEdit) : Except KeyFault KeyAnswer × Host :=
  match KeyStore.open? h.files (s.options.resolve h).configPath with
  | .error f => (.error f, h)
  | .ok store => match store.edit e h.files with
    | .error f => (.error f, h)
    | .ok (answer, files) => (.ok answer, { h with files := files })

/-- Keeps the report of an action, polls and replies. -/
def finish (s : Supervisor) (h : Host) (result : Except ActionFault Outcome) :
    Reply × Supervisor × Host :=
  match result with
  | .ok o => (.outcome o, { s with actionMessage := some o.message }.poll h)
  | .error f => (.fault f, { s with actionMessage := some f.message }.poll h)

/-- The result of an edit as the result of an action. -/
def editResult (outcome : KeyAnswer → Outcome) :
    Except KeyFault KeyAnswer → Except ActionFault Outcome
  | .ok answer => .ok (outcome answer)
  | .error f => .error (.keys f)

/-- The result of a start as the result of an action. -/
def startResult : Except ServiceFault ServiceStatus → Except ActionFault Outcome
  | .ok status => .ok (.ofStart status)
  | .error f => .error (.service f)

/-- The supervisor with a full interval in front of the next poll of the timer. -/
def restartTimer (h : Host) (s : Supervisor) : Supervisor :=
  { s with deadline := h.clock + s.options.interval }

/-- Carries out a command. -/
def carryOut (s : Supervisor) (h : Host) : Command → Reply × Supervisor × Host
  | .edit e =>
    let (result, h) := s.editKeys h e
    s.finish h (editResult (Outcome.ofEdit e) result)
  | .generate =>
    let (bytes, h) := h.draw
    let (result, h) := s.editKeys h (.add (KeyRecord.generatedKey bytes))
    s.finish h (editResult Outcome.ofGenerated result)
  | .start =>
    let (result, h) := Service.start h (s.options.resolve h)
    { s with watch := s.watch.requestStart }.finish h (startResult result)
  | .stop =>
    let h := Service.stop h (s.options.resolve h)
    { s with watch := s.watch.requestStop }.finish h (.ok .ofStop)
  | .refresh => (.acknowledged, s.poll h)
  | .setMonitoring true =>
    let (s, h) := { s with monitoring := true }.poll h
    (.acknowledged, s.restartTimer h, h)
  | .setMonitoring false => (.acknowledged, { s with monitoring := false }, h)
  | .shutdown => (.acknowledged, { s with phase := .closed, follower := s.follower.stop }, h)

end Supervisor
end ProxySteward
