import ProxySteward.Proofs.Supervisor.OpenSession

/-!
# What a published snapshot shows

What the supervisor has published when a step is over agrees with the files as its last poll found
them: with the connection they describe and with the key list they hold (`Snapshot.Shows`).  A poll
is one step here, so it finds the same files at all of its reads, and the snapshot of its beginning,
with `refreshing` set, is no view of a state.

Only polls write what `Shows` says, so it is enough that a poll brings it about (`Shows.of_renew`)
and that everything else leaves the findings alone.

The key list is the one the files hold, and not one that an earlier poll found, because the path of
a connection is that of a file whose text was read: what `Connection.Selects` says of the path is
all that the store needs to load the records.  An edit leaves the choice of the path as it is, so
the poll that ends the command reads the file that the command has written, and an added key is the
last one of the snapshot (`getLast?_keys_handle`).
-/

namespace ProxySteward

open FileTree Connection

/-- A snapshot that agrees with the files as a poll found them. -/
structure Snapshot.Shows (o : SupervisorOptions) (files : FileTree) (p : Snapshot) : Prop where
  refreshing : p.refreshing = false
  lastPollAt : p.lastPollAt.isSome = true
  configPath : p.configPath = (Connection.resolveIn files o.overrides o.roots).configPath
  baseUrl : p.baseUrl = (Connection.resolveIn files o.overrides o.roots).baseUrl
  keys_of_none : p.configPath = none → p.keys = []
  keys_of_some : ∀ path, p.configPath = some path →
    (⟨path⟩ : KeyStore).records files = .ok p.keys
  pid : p.service.pid.isSome = p.service.running
  detail : p.service.detail.isSome = true →
    p.service.running = false ∧ p.configPath.isSome = true

namespace Supervisor

variable {s : Supervisor} {h : Host} {path : Path} {doc : Text}

theorem loadKeys_of_selects {files : FileTree} {o : Overrides} {roots : SearchRoots}
    (hsel : Selects files o roots path doc) :
    loadKeys files (some path) = .ok (KeySection.records doc) := by
  obtain ⟨l, content, mode, hdoc⟩ := hsel.exists_holdsText
  have hrecords : (⟨path⟩ : KeyStore).records files = .ok (KeySection.records doc) :=
    KeyStore.records_of_readText hdoc.readText
  rw [loadKeys, KeyStore.open?, if_pos hdoc.isFile]
  exact hrecords

/-- The keys that a poll finds in the configuration file. -/
theorem keys_renew (hsel : Selects h.files s.options.overrides s.options.roots path doc)
    (f : Findings) (monitoring : Bool) :
    (f.renew s.options monitoring h).keys = KeySection.records doc := by
  have hpath : (s.options.resolve h).configPath = some path := hsel.configPath_resolveIn
  rw [Findings.renew, hpath, loadKeys_of_selects hsel]
  rfl

theorem pid_status (h : Host) (c : Connection) :
    (Service.status h c).pid.isSome = (Service.status h c).running := by
  unfold Service.status
  split <;> rfl

/-- Only of a proxy that is stopped and whose program is known by its configuration file anything is
said. -/
theorem detail_status {h : Host} {c : Connection}
    (hdetail : (Service.status h c).detail.isSome = true) :
    (Service.status h c).running = false ∧ c.configPath.isSome = true := by
  unfold Service.status at hdetail ⊢
  split at hdetail
  · exact absurd hdetail (by simp)
  · refine ⟨rfl, ?_⟩
    rw [Service.missing?, Option.isSome_map, Connection.program?] at hdetail
    cases hpath : c.configPath with
    | none => exact absurd hdetail (by simp [hpath])
    | some path => rfl

/-- **A poll** makes the snapshot agree with the files. -/
theorem shows_of_renew {f : Findings} {o : SupervisorOptions} {monitoring : Bool}
    (hs : s.findings = f.renew o monitoring h) : s.snapshot.Shows o h.files := by
  rw [findings, Findings.renew, Findings.mk.injEq] at hs
  obtain ⟨hconnection, hrefreshing, hservice, hkeys, -, -, hlast⟩ := hs
  have hpath : s.snapshot.configPath = (o.resolve h).configPath :=
    congrArg Connection.configPath hconnection
  have hbase : s.snapshot.baseUrl = (o.resolve h).baseUrl := congrArg Connection.baseUrl hconnection
  refine ⟨hrefreshing, ?_, hpath, hbase, fun hnone => ?_, fun path hsome => ?_, ?_, ?_⟩
  · rw [snapshot, hlast]
    rfl
  · rw [hpath] at hnone
    rw [snapshot, hkeys, hnone]
    rfl
  · rw [hpath] at hsome
    obtain ⟨doc, hsel⟩ := exists_selects hsome
    rw [snapshot, hkeys, hsome, loadKeys_of_selects hsel]
    exact KeyStore.records_of_readText (configText?_eq_some_iff.1 hsel.text)
  · rw [snapshot, hservice]
    exact pid_status h _
  · rw [hpath, snapshot, hservice]
    exact detail_status

/-! ## Added keys -/

/-- **A key that was added or generated** is the last one of the snapshot that is published before
the reply. -/
theorem getLast?_keys_handle {c : Command} {r : Outcome}
    (hc : (∃ raw, c = .edit (.add raw)) ∨ c = .generate)
    (hreply : (s.handle h c).1 = .outcome r) :
    ∃ key, r.key = some key ∧ (s.handle h c).2.1.keys.getLast? = some (.fresh key) := by
  obtain ⟨raw, he⟩ : ∃ raw, c.edit? (h.random h.drawn) = some (.add raw) := by
    rcases hc with ⟨raw, rfl⟩ | rfl
    · exact ⟨raw, rfl⟩
    · exact ⟨_, rfl⟩
  have hphase : s.phase ≠ .closed := fun hclosed => by
    rw [handle_of_closed hclosed] at hreply
    exact absurd hreply (by simp)
  cases hpath : (s.options.resolve h).configPath with
  | none =>
    rw [(handle_of_configPath_eq_none hphase hpath he).1] at hreply
    exact absurd hreply (by simp)
  | some path =>
    obtain ⟨doc, hsel⟩ := exists_selects hpath
    rw [reply_handle_of_edit? hphase hsel he] at hreply
    -- the reply is no fault, so the store has added the key
    cases hedit : (KeyStore.editDocument (.add raw) doc).map Prod.fst with
    | error f =>
      rw [hedit] at hreply
      exact absurd hreply (by simp [Command.reply])
    | ok answer =>
      obtain rfl := KeyStore.eq_added_of_editDocument_add hedit
      rw [hedit] at hreply
      have hkey : r.key = some (Text.trim raw) := by
        rw [← Reply.outcome.inj hreply]
        rcases hc with ⟨raw', rfl⟩ | rfl <;> rfl
      have hpolls : c.polls = true := by rcases hc with ⟨raw', rfl⟩ | rfl <;> rfl
      have hkeys : (s.handle h c).2.1.keys =
          KeySection.records (KeyStore.textAfter (.add raw) doc) :=
        (congrArg Findings.keys (endsWithPoll_handle hphase hpolls h).findings).trans
          (keys_renew (selects_handle_of_edit? hphase hsel he) _ _)
      refine ⟨_, hkey, ?_⟩
      rw [hkeys, KeyStore.records_textAfter_of_added hedit, List.getLast?_concat]

end Supervisor

/-! ## Runs -/

namespace Session

open Supervisor

variable {s : Session} {seen : FileTree}

/-- The files as the last poll found them; before the occurrences these were `seen`. -/
def filesSeen (seen : FileTree) (s : Session) : List Occurrence → FileTree
  | [] => seen
  | x :: xs => filesSeen (if s.polls x then (s.occur x).host.files else seen) (s.occur x) xs

/-- The findings of a session are those of a poll that found these files. -/
def HasPolled (seen : FileTree) (s : Session) : Prop :=
  ∃ f monitoring h, h.files = seen ∧
    s.supervisor.findings = Findings.renew f s.supervisor.options monitoring h

theorem HasPolled.shows (hs : HasPolled seen s) :
    s.supervisor.snapshot.Shows s.supervisor.options seen := by
  obtain ⟨f, monitoring, h, rfl, hfindings⟩ := hs
  exact shows_of_renew hfindings

theorem hasPolled_start (o : SupervisorOptions) (monitoring : Bool) (logCapacity : Nat) (h : Host) :
    HasPolled h.files (start o monitoring logCapacity h) := by
  have hpoll := (endsWithPoll_start o monitoring logCapacity h).findings
  have hfiles : (start o monitoring logCapacity h).host.files = h.files :=
    (begin_undisturbed (create o monitoring logCapacity h) h).files
  rw [HasPolled, options_start]
  exact ⟨_, _, _, hfiles, hpoll⟩

/-- **Every occurrence**, by whether the supervisor polls at it. -/
theorem HasPolled.occur (hs : HasPolled seen s) (x : Occurrence) :
    HasPolled (if s.polls x then (s.occur x).host.files else seen) (s.occur x) := by
  rw [HasPolled, options_occur]
  cases hpolls : s.polls x with
  | true => exact ⟨_, _, _, rfl, (endsWithPoll_occur hpolls).findings⟩
  | false =>
    obtain ⟨f, monitoring, h, hfiles, hfindings⟩ := hs
    exact ⟨f, monitoring, h, hfiles, (isQuiet_occur hpolls).1.trans hfindings⟩

theorem HasPolled.after (hs : HasPolled seen s) (xs : List Occurrence) :
    HasPolled (s.filesSeen seen xs) (s.after xs) := by
  induction xs generalizing s seen with
  | nil => exact hs
  | cons x xs ih => exact ih (hs.occur x)

/-- If nobody else changes the files, they are as the last poll found them. -/
theorem filesSeen_eq (hseen : seen = s.host.files) {xs : List Occurrence}
    (hxs : ∀ files, .change files ∉ xs) : s.filesSeen seen xs = (s.after xs).host.files := by
  induction xs generalizing s seen with
  | nil => exact hseen
  | cons x xs ih =>
    refine ih ?_ fun files hmem => hxs files (List.mem_cons_of_mem x hmem)
    cases hpolls : s.polls x with
    | true => rfl
    | false =>
      rcases (isQuiet_occur hpolls).2.2 with ⟨files, rfl⟩ | hfiles
      · exact absurd List.mem_cons_self (hxs files)
      · exact hseen.trans hfiles.symm

/-- **Published snapshots are coherent.**  Take any run of a supervisor on files that others may
change.

* The snapshot agrees with the files as the last poll found them.
* If nobody else changes the files, these are the files as they are now.
* When the next request is served, the reply comes with a snapshot that agrees with the files as
  they are then, if the command ends with a poll, and else with those of the last poll.  If the
  reply tells that a key was added or generated, the record of that key is the last one of this
  snapshot. -/
theorem snapshot_shows (o : SupervisorOptions) (monitoring : Bool) (logCapacity : Nat) (h : Host)
    (xs : List Occurrence) :
    let first := start o monitoring logCapacity h
    let s := first.after xs
    let seen := first.filesSeen h.files xs
    s.supervisor.snapshot.Shows o seen ∧
    ((∀ files, .change files ∉ xs) → seen = s.host.files) ∧
    ∀ q rest, s.mailbox = q :: rest →
      let s' := s.step .serve
      ∃ reply, s'.served = s.served ++ [(q, reply)] ∧
        s'.supervisor.snapshot.Shows o (if s.polls (.event .serve) then s'.host.files else seen) ∧
        ∀ r, (∃ raw, q.command = .edit (.add raw)) ∨ q.command = .generate →
          reply = .outcome r →
          ∃ key, r.key = some key ∧
            s'.supervisor.snapshot.keys.getLast? = some (.fresh key) := by
  intro first s seen
  have hoptions : s.supervisor.options = o :=
    (options_after first xs).trans (options_start o monitoring logCapacity h)
  have hpolled : HasPolled seen s := (hasPolled_start o monitoring logCapacity h).after xs
  have hfirst : h.files = first.host.files :=
    (begin_undisturbed (create o monitoring logCapacity h) h).files.symm
  refine ⟨hoptions ▸ hpolled.shows,
    fun hxs => filesSeen_eq hfirst hxs, fun q rest hmailbox => ?_⟩
  have hserved := step_serve hmailbox
  have hnext := (hpolled.occur (.event .serve)).shows
  rw [options_occur, hoptions] at hnext
  refine ⟨(s.supervisor.handle s.host q.command).1,
    by rw [hserved]; rfl, hnext, fun r hq hr => ?_⟩
  rw [hserved]
  exact getLast?_keys_handle hq hr

/-- A key is added on a host with one configuration file. -/
theorem snapshot_shows_lone :
    let first := start loneOptions true 100 loneHost
    let s := first.after [.event (.send loneRequest)]
    s.supervisor.snapshot.Shows loneOptions s.host.files ∧
      (s.step .serve).served = [(loneRequest, .outcome (.added "added" "k".toList))] ∧
      (s.step .serve).supervisor.snapshot.keys.getLast? = some (.fresh "k".toList) := by
  intro first s
  obtain ⟨hshows, hfiles, hserve⟩ :=
    snapshot_shows loneOptions true 100 loneHost [.event (.send loneRequest)]
  have hmailbox : s.mailbox = [loneRequest] := rfl
  have hhost : s.host.files = loneHost.files :=
    (begin_undisturbed (create loneOptions true 100 loneHost) loneHost).files
  have hoptions : s.supervisor.options = loneOptions := options_start loneOptions true 100 loneHost
  have hsel : Selects s.host.files s.supervisor.options.overrides s.supervisor.options.roots
      lonePath "port: 8317\n".toList := by
    rw [hhost, hoptions]
    exact selects_lone _
  have hphase : s.supervisor.phase ≠ .closed := by
    rw [show s.supervisor.phase = .running from rfl]
    decide
  have hanswer : (KeyStore.editDocument (.add " k ".toList) "port: 8317\n".toList).map Prod.fst =
      .ok (.added "k".toList) := by decide
  have hreply : (s.supervisor.handle s.host loneRequest.command).1 =
      .outcome (.added "added" "k".toList) := by
    rw [reply_handle_of_edit? hphase hsel rfl, hanswer]
    rfl
  obtain ⟨reply, hserved, -, hadded⟩ := hserve loneRequest [] hmailbox
  have hboth : s.served ++ [(loneRequest, (s.supervisor.handle s.host loneRequest.command).1)] =
      s.served ++ [(loneRequest, reply)] := by
    rw [← hserved, step_serve hmailbox]
    rfl
  have hsame : reply = .outcome (.added "added" "k".toList) := by
    rw [← hreply]
    exact (congrArg Prod.snd (List.singleton_inj.1 (List.append_cancel_left hboth))).symm
  obtain ⟨key, hkey, hkeys⟩ := hadded _ (Or.inl ⟨_, rfl⟩) hsame
  have hkey' : key = "k".toList := (Option.some.inj hkey).symm
  rw [hsame] at hserved
  rw [hkey'] at hkeys
  exact ⟨hfiles (by simp) ▸ hshows, hserved, hkeys⟩

end Session
end ProxySteward
