import ProxySteward.Key.Edit
import ProxySteward.Service

/-!
# Commands of the supervisor

What can be asked of the supervisor and what it replies.  Edits of the key list and actions on the
proxy end in an outcome or a fault; the other commands are only acknowledged.  A supervisor that has
shut down replies nothing else than that.

Outcomes and faults name a key by its mask only; the key itself is part of the reply to the command
that added it, and of no text.
-/

namespace ProxySteward

open Text

/-- What can be asked of the supervisor. -/
inductive Command where
  | edit (e : KeyEdit)
  | generate
  | start
  | stop
  | refresh
  | setMonitoring (on : Bool)
  | shutdown
  deriving DecidableEq, Repr

/-- The end of an action that did not fail. -/
structure Outcome where
  message : Text
  key : Option Text
  deriving DecidableEq, Repr

/-- Why an action failed. -/
inductive ActionFault where
  | keys (cause : KeyFault)
  | service (cause : ServiceFault)
  deriving DecidableEq, Repr

/-- The report of a failed action. -/
def ActionFault.message : ActionFault → Text
  | .keys cause => cause.message
  | .service cause => cause.message

/-- What a command is replied to with. -/
inductive Reply where
  | outcome (o : Outcome)
  | fault (f : ActionFault)
  | acknowledged
  | closed
  deriving DecidableEq, Repr

/-- The report of a supervisor that has shut down. -/
def Reply.closedMessage : Text := "monitor has shut down".toList

namespace Outcome

/-- An outcome without a key. -/
def said (message : Text) : Outcome := ⟨message, none⟩

/-- The outcome of a key that was added, told with a verb. -/
def added (verb : String) (key : Text) : Outcome :=
  ⟨verb.toList ++ " key ".toList ++ mask key, some key⟩

/-- The outcome of an edit of the key list. -/
def ofEdit : KeyEdit → KeyAnswer → Outcome
  | _, .added key => added "added" key
  | .add raw, .changed _ => said ("added key ".toList ++ mask raw)
  | .remove key, .changed true => said ("removed key ".toList ++ mask key)
  | .remove key, .changed false => said ("key ".toList ++ mask key ++ " not found".toList)
  | .setNote key _, .changed _ => said ("updated note for ".toList ++ mask key)
  | .setEnabled key true, .changed _ => said ("enabled key ".toList ++ mask key)
  | .setEnabled key false, .changed _ => said ("disabled key ".toList ++ mask key)

/-- The outcome of a key that was generated and added. -/
def ofGenerated : KeyAnswer → Outcome
  | .added key => added "generated" key
  | .changed _ => said []

/-- The outcome of a start. -/
def ofStart (s : ServiceStatus) : Outcome := said ("local service ".toList ++ s.line)

/-- The outcome of a stop. -/
def ofStop : Outcome := said "stop requested".toList

end Outcome
end ProxySteward
