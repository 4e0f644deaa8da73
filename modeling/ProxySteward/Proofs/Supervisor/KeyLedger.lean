import ProxySteward.Proofs.Key.KeySurvival
import ProxySteward.Supervisor.Command

/-!
# The key commands alone

What the key list would be if nothing but the key commands were carried out, one after another, by
the store itself: no polls, no timer, no log.  A `KeyLedger` has the files and counts the uses of
the random source, since a generated key depends on how many were generated before;
`KeyLedger.after` carries out commands and passes over those that do not concern the key list.

A key that a command has acknowledged is on the ledger (`lists_of_acknowledged`) and stays there
until a command removes it (`Lists.after`); as long as it is there, adding it fails
(`call_add_of_lists`).
-/

namespace ProxySteward

open Text KeyRecord

namespace Command

/-- The edit of the key list that a command asks for; a generated key is made of the given random
bytes. -/
def edit? (bytes : Bytes) : Command → Option KeyEdit
  | .edit e => some e
  | .generate => some (.add (generatedKey bytes))
  | _ => none

/-- How often a command uses the random source. -/
def draws : Command → Nat
  | .generate => 1
  | _ => 0

/-- The outcome of a command of the key list, by the answer of the store. -/
def outcome : Command → KeyAnswer → Outcome
  | .edit e => .ofEdit e
  | _ => .ofGenerated

/-- The reply to a command of the key list. -/
def reply (c : Command) : Except KeyFault KeyAnswer → Reply
  | .ok answer => .outcome (c.outcome answer)
  | .error f => .fault (.keys f)

/-- The key that a command has added if its reply is no fault: the key that was asked for, or the
generated key that the reply tells. -/
def acknowledged? : Command → Reply → Option Text
  | .edit (.add raw), .outcome _ => some (trim raw)
  | .generate, .outcome o => some (o.key.getD [])
  | _, _ => none

theorem reply_ne_closed (c : Command) (answer : Except KeyFault KeyAnswer) :
    c.reply answer ≠ .closed := by
  cases answer <;> simp [reply]

/-- An acknowledged key is the one that the store has added. -/
theorem eq_added_of_acknowledged {c : Command} {bytes : Bytes} {e : KeyEdit}
    {answer : Except KeyFault KeyAnswer} {key : Text} (he : c.edit? bytes = some e)
    (hadd : ∀ raw a, e = .add raw → answer = .ok a → a = .added (trim raw))
    (h : c.acknowledged? (c.reply answer) = some key) : answer = .ok (.added key) := by
  have hother : ¬ (none : Option Text) = some key := by simp
  cases answer with
  | error f =>
    cases c with
    | edit e => cases e <;> exact absurd h hother
    | _ => exact absurd h hother
  | ok answer =>
    cases c with
    | edit e' =>
      cases e' with
      | add raw =>
        rw [hadd raw answer (Option.some.inj he).symm rfl,
          show trim raw = key from Option.some.inj h]
      | _ => exact absurd h hother
    | generate =>
      obtain rfl := hadd (generatedKey bytes) answer (Option.some.inj he).symm rfl
      rw [show trim (generatedKey bytes) = key from Option.some.inj h]
    | _ => exact absurd h hother

theorem exists_edit?_of_acknowledged {c : Command} {r : Reply} {key : Text}
    (h : c.acknowledged? r = some key) (bytes : Bytes) : ∃ e, c.edit? bytes = some e := by
  cases c with
  | edit e => exact ⟨e, rfl⟩
  | generate => exact ⟨_, rfl⟩
  | _ => exact absurd h (by simp [acknowledged?])

/-- A command that is no removal of a key asks for none. -/
theorem ne_remove_of_edit? {c : Command} {bytes : Bytes} {e : KeyEdit} {key : Text}
    (he : c.edit? bytes = some e) (hc : c ≠ .edit (.remove key)) : e ≠ .remove key := by
  cases c with
  | edit e' =>
    rw [edit?, Option.some.injEq] at he
    rintro rfl
    exact hc (by rw [he])
  | generate =>
    rw [edit?, Option.some.injEq] at he
    rw [← he]
    simp
  | _ => exact absurd he (by simp [edit?])

end Command

/-- The files and how often the random source has been used. -/
structure KeyLedger where
  files : FileTree
  drawn : Nat

namespace KeyLedger

variable {store : KeyStore} {random : Nat → Bytes} {b : KeyLedger} {c : Command} {key : Text}

/-- Carries out a command if it concerns the key list. -/
def step (store : KeyStore) (random : Nat → Bytes) (b : KeyLedger) (c : Command) : KeyLedger :=
  match c.edit? (random b.drawn) with
  | some e => ⟨(store.call e b.files).2, b.drawn + c.draws⟩
  | none => b

/-- The ledger after some commands. -/
def after (store : KeyStore) (random : Nat → Bytes) (b : KeyLedger) (cs : List Command) :
    KeyLedger :=
  cs.foldl (step store random) b

theorem after_append (cs cs' : List Command) :
    after store random b (cs ++ cs') = after store random (after store random b cs) cs' :=
  List.foldl_append

theorem after_concat (cs : List Command) :
    after store random b (cs ++ [c]) = step store random (after store random b cs) c :=
  after_append cs [c]

theorem step_of_edit? (store : KeyStore) {e : KeyEdit} (h : c.edit? (random b.drawn) = some e) :
    step store random b c = ⟨(store.call e b.files).2, b.drawn + c.draws⟩ := by
  rw [step, h]

theorem step_of_edit?_eq_none (store : KeyStore) (h : c.edit? (random b.drawn) = none) :
    step store random b c = b := by
  rw [step, h]

/-- The configuration file of a ledger can be read. -/
def IsReadable (store : KeyStore) (b : KeyLedger) : Prop :=
  ∃ doc, b.files.readText store.path = .ok doc

theorem IsReadable.step (h : IsReadable store b) (c : Command) :
    IsReadable store (step store random b c) := by
  obtain ⟨doc, hdoc⟩ := h
  cases he : c.edit? (random b.drawn) with
  | none =>
    rw [step_of_edit?_eq_none store he]
    exact ⟨doc, hdoc⟩
  | some e =>
    rw [step_of_edit? store he]
    exact ⟨_, KeyStore.readText_call hdoc⟩

theorem IsReadable.after (h : IsReadable store b) (cs : List Command) :
    IsReadable store (after store random b cs) := by
  induction cs generalizing b with
  | nil => exact h
  | cons c cs ih => exact ih (h.step c)

/-! ## Keys on the ledger -/

/-- A key is among the records that are loaded from the file. -/
def Lists (store : KeyStore) (files : FileTree) (key : Text) : Prop :=
  ∃ rs, store.records files = .ok rs ∧ key ∈ rs.map KeyRecord.key

theorem lists_iff {files : FileTree} {doc : Text} (h : files.readText store.path = .ok doc) :
    Lists store files key ↔ key ∈ (KeySection.records doc).map KeyRecord.key := by
  rw [Lists, KeyStore.records_of_readText h]
  simp

theorem Lists.step (hread : IsReadable store b) (hkey : IsKey key) (h : Lists store b.files key)
    (hc : c ≠ .edit (.remove key)) : Lists store (step store random b c).files key := by
  obtain ⟨doc, hdoc⟩ := hread
  cases he : c.edit? (random b.drawn) with
  | none => rwa [step_of_edit?_eq_none store he]
  | some e =>
    rw [step_of_edit? store he, lists_iff (KeyStore.readText_call hdoc)]
    exact KeyStore.mem_keys_textAfter hkey ((lists_iff hdoc).1 h) (Command.ne_remove_of_edit? he hc)

/-- **A key on the ledger stays** through all commands that do not remove it. -/
theorem Lists.after (hread : IsReadable store b) (hkey : IsKey key) (h : Lists store b.files key)
    {cs : List Command} (hcs : .edit (.remove key) ∉ cs) :
    Lists store (after store random b cs).files key := by
  induction cs generalizing b with
  | nil => exact h
  | cons c cs ih =>
    rw [List.mem_cons, not_or] at hcs
    exact ih (hread.step c) (h.step hread hkey (Ne.symm hcs.1)) hcs.2

/-- An acknowledged key is on the ledger. -/
theorem lists_of_acknowledged (hread : IsReadable store b) {e : KeyEdit}
    (he : c.edit? (random b.drawn) = some e)
    (hack : c.acknowledged? (c.reply (store.call e b.files).1) = some key) :
    IsKey key ∧ Lists store (step store random b c).files key := by
  obtain ⟨doc, hdoc⟩ := hread
  rw [KeyStore.answer_call hdoc] at hack
  have hanswer := Command.eq_added_of_acknowledged he
    (fun raw a hraw ha => KeyStore.eq_added_of_editDocument_add (hraw ▸ ha)) hack
  obtain ⟨hkey, hmem⟩ := KeyStore.mem_keys_textAfter_of_added hanswer
  rw [step_of_edit? store he, lists_iff (KeyStore.readText_call hdoc)]
  exact ⟨hkey, hmem⟩

/-- A key on the ledger is not added again. -/
theorem call_add_of_lists (hread : IsReadable store b) {raw : Text} (hkey : IsKey (trim raw))
    (h : Lists store b.files (trim raw)) :
    (store.call (.add raw) b.files).1 = .error .keyExists := by
  obtain ⟨doc, hdoc⟩ := hread
  rw [KeyStore.answer_call hdoc, KeyStore.editDocument_add_of_mem hkey ((lists_iff hdoc).1 h)]
  rfl

end KeyLedger
end ProxySteward
