import ProxySteward.Key.Record
import ProxySteward.Host.Fault

/-!
# Edits of the key list

What an operator can do to the key list, as operations on the list of records alone.  An added key
goes to the end, a removed key takes all its records along, and a note or a state is set on the
first record of its key.  Every other record keeps its key, note, state and place.

The store carries the same edits out on a document (`Key.Store`); this module is what it is measured
by.
-/

namespace ProxySteward

open Text

/-- Why an edit of the key list failed. -/
inductive KeyFault where
  | configNotFound
  | keyExists
  | emptyKey
  | invalidKey
  | host (cause : HostFault)
  deriving DecidableEq, Repr

/-- The report of a failed edit. -/
def KeyFault.message : KeyFault → Text
  | .configNotFound => "config.yaml not found".toList
  | .keyExists => "key already exists".toList
  | .emptyKey => "key must not be empty".toList
  | .invalidKey => "key must not contain whitespace, quotes or '#'".toList
  | .host cause => "config io error: ".toList ++ cause.message

/-- An edit of the key list. -/
inductive KeyEdit where
  | add (raw : Text)
  | remove (key : Text)
  | setNote (key note : Text)
  | setEnabled (key : Text) (on : Bool)
  deriving DecidableEq, Repr

/-- What an edit that did not fail answers. -/
inductive KeyAnswer where
  | added (key : Text)
  | changed (whether : Bool)
  deriving DecidableEq, Repr

/-- Whether the list is another one after the edit. -/
def KeyAnswer.isChange : KeyAnswer → Bool
  | .added _ => true
  | .changed whether => whether

namespace KeyEdit

/-- The faults that show without looking at the list. -/
def check : KeyEdit → Except KeyFault Unit
  | .add raw =>
    if (trim raw).isEmpty then .error .emptyKey
    else if KeyRecord.isKeyText (trim raw) then .ok ()
    else .error .invalidKey
  | _ => .ok ()

/-- A list with `f` applied to its first record of a key. -/
def updateFirst (key : Text) (f : KeyRecord → KeyRecord) : List KeyRecord → List KeyRecord
  | [] => []
  | r :: rs => if r.key = key then f r :: rs else r :: updateFirst key f rs

/-- Replaces the first record of a key by `f` of it, if that is another record. -/
def amend (key : Text) (f : KeyRecord → KeyRecord) (rs : List KeyRecord) :
    KeyAnswer × List KeyRecord :=
  match rs.find? (·.key = key) with
  | some r => if f r = r then (.changed false, rs) else (.changed true, updateFirst key f rs)
  | none => (.changed false, rs)

/-- Appends a fresh record of a key that has none. -/
def append (key : Text) (rs : List KeyRecord) : Except KeyFault (KeyAnswer × List KeyRecord) :=
  if rs.any (·.key = key) then .error .keyExists
  else .ok (.added key, rs ++ [KeyRecord.fresh key])

/-- The edit on a list of records. -/
def onRecords (e : KeyEdit) (rs : List KeyRecord) : Except KeyFault (KeyAnswer × List KeyRecord) :=
  match e.check with
  | .error f => .error f
  | .ok () => match e with
    | .add raw => append (trim raw) rs
    | .remove key =>
      .ok (.changed (rs.any (·.key = key)), rs.filter fun r => decide (r.key ≠ key))
    | .setNote key note =>
      .ok (amend key (fun r => { r with note := KeyRecord.normalNote note }) rs)
    | .setEnabled key on => .ok (amend key (fun r => { r with enabled := on }) rs)

end KeyEdit
end ProxySteward
