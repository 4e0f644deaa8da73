import ProxySteward.Dashboard.Answer
import ProxySteward.Proofs.Supervisor.PollEffect
import ProxySteward.Proofs.Supervisor.Session

/-!
# What a call of the dashboard does

A call is either answered without the supervisor, or it amounts to one command (`plan_eq_command`).
A command that does not end in an outcome leaves the files alone, so an answer that reports no
success does: the only exception is a start, which empties the log file before it can fail
(`files_answer_of_failed`).

Adding a key can fail for four reasons, which are looked at in a fixed order, and the status of the
answer tells which one it was (`answer_effect`).

What was left for the supervisor before the call is done before the command of the call, so
everything is said of the host that the command finds (`reached`).
-/

namespace ProxySteward

open Text KeyRecord FileTree Connection

namespace Supervisor

variable {s : Supervisor} {h : Host} {c : Command} {path : Path} {doc : Text}

/-! ## Commands that fail -/

/-- **A command without an outcome** leaves the files alone, unless it is a start: that may have
emptied the log file. -/
theorem files_handle_of_failed (hfailed : ∀ o, (s.handle h c).1 ≠ .outcome o) :
    (s.handle h c).2.2.files = h.files ∨ c = .start ∧ Host.LogTouched h (s.handle h c).2.2 := by
  by_cases hphase : s.phase = .closed
  · rw [handle_of_closed hphase]
    exact Or.inl rfl
  · cases hc : c.edit? (h.random h.drawn) with
    | none =>
      obtain ⟨-, -, hhost⟩ := handle_of_edit?_eq_none hphase hc
      exact hhost.imp_left fun hu => hu.files
    | some e =>
      left
      cases hpath : (s.options.resolve h).configPath with
      | none => exact (handle_of_configPath_eq_none hphase hpath hc).2
      | some path =>
        obtain ⟨doc, hsel⟩ := exists_selects hpath
        obtain ⟨l, content, mode, hdoc⟩ := hsel.exists_holdsText
        obtain ⟨hreply, -, hhost⟩ := handle_of_edit? hphase hsel hc
        rw [hhost.files]
        rcases KeyStore.call_files (s := ⟨path⟩) (e := e) hdoc with ⟨answer, hok, -, -⟩ |
          ⟨hsame, -⟩
        · rw [hok] at hreply
          exact absurd hreply (hfailed _)
        · exact hsame

/-! ## Adding a key -/

/-- **What comes of adding a key** to the configuration file. -/
theorem handle_add (hphase : s.phase ≠ .closed)
    (hsel : Selects h.files s.options.overrides s.options.roots path doc) (raw : Text) :
    let r := s.handle h (.edit (.add raw))
    let keys := (KeySection.records doc).map KeyRecord.key
    (trim raw = [] ∧ r.1 = .fault (.keys .emptyKey)) ∨
    (trim raw ≠ [] ∧ isKeyText (trim raw) = false ∧ r.1 = .fault (.keys .invalidKey)) ∨
    (IsKey (trim raw) ∧ trim raw ∈ keys ∧ r.1 = .fault (.keys .keyExists)) ∨
    (IsKey (trim raw) ∧ trim raw ∉ keys ∧ r.1 = .outcome (.added "added" (trim raw)) ∧
      ∃ rs, (⟨path⟩ : KeyStore).records r.2.2.files = .ok (rs ++ [.fresh (trim raw)])) := by
  intro r keys
  have hreply : r.1 = (Command.edit (.add raw)).reply
      ((KeyStore.editDocument (.add raw) doc).map Prod.fst) := reply_handle_of_edit? hphase hsel rfl
  by_cases hnil : trim raw = []
  · have hedit : KeyStore.editDocument (.add raw) doc = .error .emptyKey := by
      rw [KeySection.editDocument_eq_error_iff, KeyEdit.onRecords_add, if_pos hnil]
    rw [hedit] at hreply
    exact Or.inl ⟨hnil, hreply⟩
  cases htext : isKeyText (trim raw) with
  | false =>
    have hedit : KeyStore.editDocument (.add raw) doc = .error .invalidKey := by
      rw [KeySection.editDocument_eq_error_iff, KeyEdit.onRecords_add, if_neg hnil, if_pos htext]
    rw [hedit] at hreply
    exact Or.inr (Or.inl ⟨hnil, rfl, hreply⟩)
  | true =>
    have hkey : IsKey (trim raw) := ⟨hnil, htext⟩
    by_cases hmem : trim raw ∈ keys
    · rw [KeyStore.editDocument_add_of_mem hkey hmem] at hreply
      exact Or.inr (Or.inr (Or.inl ⟨hkey, hmem, hreply⟩))
    · have hadded : (KeyStore.editDocument (.add raw) doc).map Prod.fst =
          .ok (.added (trim raw)) := by
        have hrecords : (KeyEdit.add raw).onRecords (KeySection.records doc) =
            .ok (.added (trim raw), KeySection.records doc ++ [fresh (trim raw)]) := by
          rw [KeyEdit.onRecords_add, if_neg hnil, if_neg (by rw [htext]; decide), if_neg hmem]
        rw [KeySection.editDocument_eq_ok_iff.2 ⟨_, hrecords, rfl⟩]
        rfl
      have hafter : Selects r.2.2.files s.options.overrides s.options.roots path
          (KeyStore.textAfter (.add raw) doc) := selects_handle_of_edit? hphase hsel rfl
      have hrecords : (⟨path⟩ : KeyStore).records r.2.2.files = .ok _ :=
        KeyStore.records_of_readText (configText?_eq_some_iff.1 hafter.text)
      rw [KeyStore.records_textAfter_of_added hadded] at hrecords
      rw [hadded] at hreply
      exact Or.inr (Or.inr (Or.inr ⟨hkey, hmem, hreply, _, hrecords⟩))

/-! ## What was left before -/

/-- A supervisor that has looked at everything left for it has its options, and is still there if
nothing asked it to shut down. -/
theorem handleAll_frame (s : Supervisor) (h : Host) (cs : List Command) :
    (s.handleAll h cs).1.options = s.options ∧
      (s.phase ≠ .closed → .shutdown ∉ cs → (s.handleAll h cs).1.phase ≠ .closed) := by
  induction cs generalizing s h with
  | nil => exact ⟨rfl, fun hphase _ => hphase⟩
  | cons c cs ih =>
    obtain ⟨hoptions, hlive⟩ := ih (s.handle h c).2.1 (s.handle h c).2.2
    refine ⟨hoptions.trans (options_handle s h c), fun hphase hcs => ?_⟩
    rw [List.mem_cons, not_or] at hcs
    refine hlive ?_ hcs.2
    rw [phase_handle hphase (Ne.symm hcs.1)]
    exact hphase

theorem begin_frame (s : Supervisor) (h : Host) :
    (s.begin h).1.inbox = s.inbox ∧
      (s.phase ≠ .closed → (s.begin h).1.phase ≠ .closed) := by
  unfold begin
  split
  · exact ⟨(poll_isKept s h).inbox, fun _ => by simp [restartTimer]⟩
  · exact ⟨rfl, id⟩

/-- The supervisor that looks at a call is still there if nothing that was left for it asks it to
shut down. -/
theorem attend_frame (s : Supervisor) (h : Host) :
    (s.attend h).1.options = s.options ∧
      (s.phase ≠ .closed → .shutdown ∉ s.inbox → (s.attend h).1.phase ≠ .closed) := by
  obtain ⟨hinbox, hbegun⟩ := s.begin_frame h
  obtain ⟨hoptions, hlive⟩ :=
    handleAll_frame { (s.begin h).1 with inbox := [] } (s.begin h).2 (s.begin h).1.inbox
  refine ⟨hoptions.trans (options_begin s h), fun hphase hnone => hlive (hbegun hphase) ?_⟩
  rwa [hinbox]

end Supervisor

namespace Dashboard

variable {s : Supervisor} {h : Host} {c : DashboardCall} {last : Snapshot} {done : Nat}
  {cmd : Command}

/-! ## Plans -/

theorem ofBody_eq_command {α : Type} {body : Except Nat α} {f : α → Plan}
    (hplan : Plan.ofBody body f = .command done cmd) :
    ∃ a, body = .ok a ∧ f a = .command done cmd := by
  cases body with
  | ok a => exact ⟨a, rfl, hplan⟩
  | error status => exact absurd hplan (by simp [Plan.ofBody, Plan.refuse])

theorem ofKey_eq_command {written : Text} {f : Text → Plan}
    (hplan : Plan.ofKey written f = .command done cmd) : ∃ key, f key = .command done cmd := by
  unfold Plan.ofKey at hplan
  split at hplan
  · next key _ => exact ⟨key, hplan⟩
  · exact absurd hplan (by simp [Plan.refuse])

theorem isSuccess_of_command_eq {done' : Nat} {cmd' : Command} {P : Prop}
    (hplan : Plan.command done' cmd' = .command done cmd) (hdone : Exchange.isSuccess done' = true)
    (hcmd : cmd' ≠ .start) : Exchange.isSuccess done = true ∧ (cmd = .start → P) := by
  obtain ⟨rfl, rfl⟩ := Plan.command.inj hplan
  exact ⟨hdone, fun hstart => absurd hstart hcmd⟩

/-- A call that amounts to a command asks for more than to see something.  The outcome of the
command is a success, and the command is a start only if the call names the start. -/
theorem plan_eq_command (hplan : plan last c = .command done cmd) :
    (c.method ≠ .get ∧ c.method ≠ .head) ∧ Exchange.isSuccess done = true ∧
      (cmd = .start → Resource.ofTarget? c.target = some .serviceStart ∧ c.method = .post) := by
  unfold plan at hplan
  split at hplan
  · exact absurd hplan (by simp [Plan.refuse])
  next resource hresource =>
  split at hplan
  -- what is only shown
  · exact absurd hplan (by simp)
  · exact absurd hplan (by simp)
  · exact absurd hplan (by simp)
  -- the key list
  · next hmethod =>
    obtain ⟨key, -, hkey⟩ := ofBody_eq_command hplan
    refine ⟨by rw [hmethod]; decide, ?_⟩
    cases key with
    | none => exact isSuccess_of_command_eq hkey rfl (by simp)
    | some raw => exact isSuccess_of_command_eq hkey rfl (by simp)
  · next written hmethod =>
    obtain ⟨key, hkey⟩ := ofKey_eq_command hplan
    exact ⟨by rw [hmethod]; decide, isSuccess_of_command_eq hkey rfl (by simp)⟩
  · next written hmethod =>
    obtain ⟨key, hkey⟩ := ofKey_eq_command hplan
    obtain ⟨word, -, hword⟩ := ofBody_eq_command hkey
    refine ⟨by rw [hmethod]; decide, ?_⟩
    unfold setState at hword
    split at hword
    · exact isSuccess_of_command_eq hword rfl (by simp)
    · exact absurd hword (by simp)
  · next written hmethod =>
    obtain ⟨key, hkey⟩ := ofKey_eq_command hplan
    obtain ⟨note, -, hnote⟩ := ofBody_eq_command hkey
    exact ⟨by rw [hmethod]; decide, isSuccess_of_command_eq hnote rfl (by simp)⟩
  -- the proxy and the supervisor
  · next hmethod =>
    obtain ⟨rfl, rfl⟩ := Plan.command.inj hplan
    exact ⟨by rw [hmethod]; decide, rfl, fun _ => ⟨hresource, hmethod⟩⟩
  · next hmethod =>
    exact ⟨by rw [hmethod]; decide, isSuccess_of_command_eq hplan rfl (by simp)⟩
  · next hmethod =>
    exact ⟨by rw [hmethod]; decide, isSuccess_of_command_eq hplan rfl (by simp)⟩
  · next hmethod =>
    obtain ⟨on, -, hon⟩ := ofBody_eq_command hplan
    exact ⟨by rw [hmethod]; decide, isSuccess_of_command_eq hon rfl (by simp)⟩
  -- what no resource knows
  · exact absurd hplan (by simp [Plan.refuse])

/-! ## Answers -/

/-- The host that a call finds: what was left for the supervisor is done before the command of the
call. -/
def reached (s : Supervisor) (h : Host) (c : DashboardCall) : Host :=
  match plan s.snapshot c with
  | .answer _ => h
  | .command _ _ => (s.attend h).2

/-- A call that amounts to no command changes nothing. -/
theorem answer_of_answer {a : DashboardAnswer} (hplan : plan s.snapshot c = .answer a) :
    (answer s h c).2 = (s, h) := by
  unfold answer
  split
  · cases hget : plan s.snapshot { c with method := .get } with
    | answer b => rfl
    | command done cmd => exact absurd rfl (plan_eq_command hget).1.1
  · rw [hplan]
    rfl

/-- A call that amounts to a command is answered by the reply to it. -/
theorem answer_of_command (hplan : plan s.snapshot c = .command done cmd) :
    answer s h c =
      let r := (s.attend h).1.handle (s.attend h).2 cmd
      (ofReply done r.2.1.snapshot r.1, r.2.1, r.2.2) := by
  unfold answer
  split
  · next hhead => exact absurd hhead (plan_eq_command hplan).1.2
  · rw [hplan]
    rfl

/-- **An answer that reports no success** leaves the files alone, unless the call is a start. -/
theorem files_answer_of_failed (hstatus : Exchange.isSuccess (answer s h c).1.status = false) :
    (answer s h c).2.2.files = (reached s h c).files ∨
      (Resource.ofTarget? c.target = some .serviceStart ∧ c.method = .post) ∧
        Host.LogTouched (reached s h c) (answer s h c).2.2 := by
  cases hplan : plan s.snapshot c with
  | answer a =>
    rw [answer_of_answer hplan, reached, hplan]
    exact Or.inl rfl
  | command done cmd =>
    obtain ⟨-, hdone, hstart⟩ := plan_eq_command hplan
    rw [answer_of_command hplan] at hstatus ⊢
    rw [reached, hplan]
    dsimp only at hstatus ⊢
    have hfailed : ∀ o, ((s.attend h).1.handle (s.attend h).2 cmd).1 ≠ .outcome o := by
      intro o ho
      rw [ho] at hstatus
      exact absurd (hdone.symm.trans hstatus) (by decide)
    exact (Supervisor.files_handle_of_failed hfailed).imp_right fun hs => ⟨hstart hs.1, hs.2⟩

/-- What keeps a text from being a key. -/
theorem not_isKey_iff {key : Text} :
    ¬ IsKey key ↔ key = [] ∨
      ∃ ch ∈ key, isBlank ch = true ∨ isControl ch = true ∨ ch = '"' ∨ ch = '\'' ∨
        ch = '#' := by
  have hchar : ∀ ch, isKeyChar ch = false ↔
      isBlank ch = true ∨ isControl ch = true ∨ ch = '"' ∨ ch = '\'' ∨ ch = '#' := by
    intro ch
    simp only [isKeyChar, Bool.and_eq_false_iff, Bool.not_eq_false', bne_eq_false_iff_eq, or_assoc]
  rw [IsKey, not_and_or, not_not, isKeyText, Bool.not_eq_true, List.all_eq_false]
  simp only [Bool.not_eq_true, hchar]

/-- A call to add a key. -/
structure Adds (c : DashboardCall) (raw : Text) : Prop where
  resource : Resource.ofTarget? c.target = some .keys
  method : c.method = .post
  body : c.newKey = .ok (some raw)

theorem Adds.plan {raw : Text} (hc : Adds c raw) (last : Snapshot) :
    plan last c = .command 201 (.edit (.add raw)) := by
  unfold Dashboard.plan
  rw [hc.resource, hc.method, hc.body]
  rfl

section Adding

variable {raw : Text} {path : Path}

theorem reached_of_adds (hc : Adds c raw) : reached s h c = (s.attend h).2 := by
  rw [reached, hc.plan]

/-- A call to add a key is answered by the reply of the supervisor to that command. -/
theorem answer_of_adds (hc : Adds c raw) :
    let r := (s.attend h).1.handle (s.attend h).2 (.edit (.add raw))
    answer s h c = (ofReply 201 r.2.1.snapshot r.1, r.2.1, r.2.2) :=
  answer_of_command (hc.plan s.snapshot)

theorem answer_add_of_no_config (hphase : (s.attend h).1.phase ≠ .closed) (hc : Adds c raw)
    (hnone : ((s.attend h).1.options.resolve (s.attend h).2).configPath = none) :
    (answer s h c).1.status = 404 := by
  obtain ⟨hreply, -⟩ :=
    Supervisor.handle_of_configPath_eq_none (c := .edit (.add raw)) hphase hnone rfl
  rw [answer_of_adds hc]
  dsimp only
  rw [hreply]
  rfl

/-- **How the addition of a key is answered** if there is a configuration file. -/
theorem answer_add_cases (hphase : (s.attend h).1.phase ≠ .closed) (hc : Adds c raw)
    (hpath : ((s.attend h).1.options.resolve (s.attend h).2).configPath = some path) :
    let a := (answer s h c).1
    ∃ rs, (⟨path⟩ : KeyStore).records (s.attend h).2.files = .ok rs ∧
      (¬ IsKey (trim raw) ∧ a.status = 400 ∨
        IsKey (trim raw) ∧ trim raw ∈ rs.map KeyRecord.key ∧ a.status = 409 ∨
        IsKey (trim raw) ∧ trim raw ∉ rs.map KeyRecord.key ∧ a.status = 201 ∧
          ∃ o rs', a.body = .json (Outcome.toJson o) ∧ o.key = some (trim raw) ∧
            (⟨path⟩ : KeyStore).records (answer s h c).2.2.files =
              .ok (rs' ++ [.fresh (trim raw)])) := by
  intro a
  obtain ⟨doc, hsel⟩ := exists_selects hpath
  have hread : (s.attend h).2.files.readText (⟨path⟩ : KeyStore).path = .ok doc :=
    configText?_eq_some_iff.1 hsel.text
  refine ⟨_, KeyStore.records_of_readText hread, ?_⟩
  rw [show a = (answer s h c).1 from rfl, answer_of_adds hc]
  dsimp only
  rcases Supervisor.handle_add hphase hsel raw with ⟨hnil, hreply⟩ | ⟨-, htext, hreply⟩ |
    ⟨hkey, hmem, hreply⟩ | ⟨hkey, hmem, hreply, rs', hrecords⟩
  · rw [hreply]
    exact Or.inl ⟨fun hkey => hkey.1 hnil, rfl⟩
  · rw [hreply]
    exact Or.inl ⟨fun hkey => absurd (hkey.2.symm.trans htext) (by decide), rfl⟩
  · rw [hreply]
    exact Or.inr (Or.inl ⟨hkey, hmem, rfl⟩)
  · rw [hreply]
    exact Or.inr (Or.inr ⟨hkey, hmem, rfl, _, rs', rfl, rfl, hrecords⟩)

end Adding

/-- **Calls are atomic, and adding a key is answered exactly.**

* An answer that reports no success leaves every file as it was, but a start may have emptied the
  log file of the proxy.
* A call to add a key, to a supervisor that is there and is not about to shut down, is answered with
  404 if there is no configuration file; otherwise with 400 if the trimmed key is empty or holds a
  blank, a control character, a quote or a number sign; otherwise with 409 if a loaded record has
  this key; and otherwise with 201.  Then the answer tells the trimmed key, and its fresh record is
  the last one that is loaded afterwards. -/
theorem answer_effect (s : Supervisor) (h : Host) (c : DashboardCall) :
    let a := (answer s h c).1
    let h₀ := reached s h c
    let h' := (answer s h c).2.2
    (Exchange.isSuccess a.status = false →
      h'.files = h₀.files ∨
      Resource.ofTarget? c.target = some .serviceStart ∧ c.method = .post ∧
        ∀ p content, h₀.files.read p = .ok content →
          (∀ l, h₀.files.locate (Service.logFile h₀) = .ok l →
            h₀.files.locate p ≠ .ok l) →
            h'.files.read p = .ok content) ∧
    (s.phase ≠ .closed → .shutdown ∉ s.inbox → ∀ raw, Adds c raw →
      let config := (s.options.resolve h₀).configPath
      let badKey := trim raw = [] ∨
        ∃ ch ∈ trim raw, isBlank ch = true ∨ isControl ch = true ∨ ch = '"' ∨
          ch = '\'' ∨ ch = '#'
      (a.status = 404 ↔ config = none) ∧
      ∀ path, config = some path →
        ∃ rs, (⟨path⟩ : KeyStore).records h₀.files = .ok rs ∧
        (a.status = 400 ↔ badKey) ∧
        (a.status = 409 ↔ ¬ badKey ∧ trim raw ∈ rs.map KeyRecord.key) ∧
        (a.status = 201 ↔ ¬ badKey ∧ trim raw ∉ rs.map KeyRecord.key) ∧
        (a.status = 201 → ∃ o rs',
          a.body = .json (Outcome.toJson o) ∧ o.key = some (trim raw) ∧
          (⟨path⟩ : KeyStore).records h'.files = .ok (rs' ++ [.fresh (trim raw)]))) := by
  intro a h₀ h'
  refine ⟨fun hstatus => ?_, fun hphase hinbox raw hadds => ?_⟩
  · rcases files_answer_of_failed hstatus with hsame | ⟨⟨hresource, hmethod⟩, htouched⟩
    · exact Or.inl hsame
    rcases htouched.files with hsame | ⟨l, mode, hlog, hnode, hput⟩
    · exact Or.inl hsame
    · refine Or.inr ⟨hresource, hmethod, fun p content hread hapart => ?_⟩
      rw [show h'.files = _ from hput]
      exact (read_put_of_ne hnode (hapart l hlog)).2 hread
  · obtain ⟨hoptions, hlive⟩ := s.attend_frame h
    have hphase := hlive hphase hinbox
    intro config badKey
    have hreached : h₀ = (s.attend h).2 := reached_of_adds hadds
    have hconfig : config = ((s.attend h).1.options.resolve (s.attend h).2).configPath := by
      rw [hoptions, ← hreached]
    have hbad : badKey ↔ ¬ IsKey (trim raw) := not_isKey_iff.symm
    rw [hconfig, hreached, hbad, not_not]
    cases hpath : ((s.attend h).1.options.resolve (s.attend h).2).configPath with
    | none =>
      have hstatus : a.status = 404 := answer_add_of_no_config hphase hadds hpath
      exact ⟨by simp [hstatus], by simp⟩
    | some path =>
      obtain ⟨rs, hrs, hcases⟩ := answer_add_cases hphase hadds hpath
      have hnot : a.status ≠ 404 := by
        rcases hcases with ⟨-, hstatus⟩ | ⟨-, -, hstatus⟩ |
          ⟨-, -, hstatus, -⟩ <;> simp [a, hstatus]
      refine ⟨by simp [hnot], fun path' hpath' => ?_⟩
      obtain rfl := Option.some.inj hpath'
      refine ⟨rs, hrs, ?_⟩
      rcases hcases with ⟨hkey, hstatus⟩ | ⟨hkey, hmem, hstatus⟩ |
        ⟨hkey, hmem, hstatus, hadded⟩
      · rw [show a.status = 400 from hstatus]
        simp [hkey]
      · rw [show a.status = 409 from hstatus]
        exact ⟨by simp [hkey], by simp [hkey, hmem], by simp [hmem], by simp⟩
      · rw [show a.status = 201 from hstatus]
        exact ⟨by simp [hkey], by simp [hmem], by simp [hkey, hmem], fun _ => hadded⟩

/-- A key is added on a host with one configuration file, and a call of something else is
refused. -/
theorem answer_effect_lone :
    let s := Supervisor.create Session.loneOptions false 100 Session.loneHost
    let addition : DashboardCall := ⟨.post, "/api/keys".toList, some "application/json".toList,
      encode "\x7b\"api_key\": \" k \"\x7d".toList⟩
    let other : DashboardCall := ⟨.delete, "/api/keys".toList, none, []⟩
    (∃ rs, (⟨lonePath⟩ : KeyStore).records (answer s Session.loneHost addition).2.2.files =
        .ok (rs ++ [.fresh "k".toList])) ∧
      (answer s Session.loneHost other).2.2.files = Session.loneHost.files := by
  intro s addition other
  obtain ⟨-, hadds⟩ := answer_effect s Session.loneHost addition
  have hcall : Adds addition " k ".toList := ⟨by decide +kernel, rfl, by decide +kernel⟩
  obtain ⟨-, hconfig⟩ := hadds (by decide) List.not_mem_nil _ hcall
  obtain ⟨rs, -, -, -, -, hadded⟩ := hconfig lonePath (by decide +kernel)
  obtain ⟨o, rs', -, -, hlast⟩ := hadded (by decide +kernel)
  obtain ⟨hfailed, -⟩ := answer_effect s Session.loneHost other
  refine ⟨⟨rs', hlast⟩, ?_⟩
  rcases hfailed (by decide +kernel) with hsame | ⟨-, hmethod, -⟩
  · exact hsame
  · exact absurd hmethod (by decide)

/-- A host on which the log file of the proxy is also its configuration file, and the program next
to it does nothing. -/
def logHost : Host :=
  { Session.loneHost with
    files := ⟨[(["tmp".toList], .directory),
      (["tmp".toList, "cli-proxy-api.log".toList], .file (encode "api-keys:\n".toList) 0o644),
      (["tmp".toList, "cli-proxy-api".toList], .file smallestProgram 0o755)], []⟩ }

/-- A start that fails empties the configuration file if that is the log file. -/
theorem failed_start_empties_config :
    let path := "/tmp/cli-proxy-api.log".toList
    let s :=
      Supervisor.create ⟨⟨none, none, some path⟩, ⟨none, none⟩, 10, []⟩ false 100
        logHost
    let start : DashboardCall := ⟨.post, "/api/service/start".toList, none, []⟩
    let result := answer s logHost start
    result.1.status = 502 ∧ (s.options.resolve logHost).configPath = some path ∧
      logHost.files.read path = .ok (encode "api-keys:\n".toList) ∧
      result.2.2.files.read path = .ok [] := by
  decide +kernel

end Dashboard
end ProxySteward
