import ProxySteward.Proofs.Supervisor.OpenSession

/-!
# After a shutdown

A supervisor that has looked at a command to shut down is closed, and nothing opens it again.  In a
session this shows in two ways, and both have to do with where a request stands when the shutdown is
looked at.

* Requests that were looked at before are carried out.  All others, whether they are in the mailbox
  already or are sent later, are replied to with `Reply.closed`, and none of them is carried out.
  The reply tells the two kinds apart (`AnswersByShutdown`), and the order of the mailbox decides
  which is which.
* Whatever happens afterwards, the supervisor is the same one, and so are the files, the deeds and
  the use of the random source (`Unmoved`).  Only time passes, and the world outside changes by
  itself.

No request waits for ever: as many servings as there are requests in the mailbox empty it
(`mailbox_run_replicate_serve`), before a shutdown as well as after it.
-/

namespace ProxySteward

namespace Supervisor

/-- A command that is carried out is not replied to as one that came too late. -/
theorem reply_carryOut_ne_closed (s : Supervisor) (h : Host) (c : Command) :
    (s.carryOut h c).1 ≠ .closed := by
  cases c with
  | edit e => exact reply_finish_ne_closed _ _ _
  | generate => exact reply_finish_ne_closed _ _ _
  | start => exact reply_finish_ne_closed _ _ _
  | stop => exact reply_finish_ne_closed _ _ _
  | refresh => simp [carryOut]
  | setMonitoring on => cases on <;> simp [carryOut]
  | shutdown => simp [carryOut]

theorem isDue_of_closed {s : Supervisor} (hphase : s.phase = .closed) (h : Host) :
    s.isDue h = false := by
  rw [isDue, hphase]
  rfl

end Supervisor

namespace Session

variable {s s' s'' : Session} {q : Request} {rest : List Request}

/-- Whether a command to shut down is among the requests that were served. -/
def HasShutDown (s : Session) : Prop := ∃ x ∈ s.served, x.1.command = .shutdown

/-! ## Replies -/

/-- What a session says of its shutdown: the supervisor is closed exactly if one was served, and
those requests were replied to as too late that were served after one. -/
structure AnswersByShutdown (s : Session) : Prop where
  closed_iff : s.supervisor.phase = .closed ↔ s.HasShutDown
  replies : ∀ earlier q reply later, s.served = earlier ++ (q, reply) :: later →
    (reply = .closed ↔ ∃ x ∈ earlier, x.1.command = .shutdown)

/-- What leaves the phase and the served requests alone keeps that. -/
theorem AnswersByShutdown.of_served_eq (ha : AnswersByShutdown s)
    (hphase : s'.supervisor.phase = s.supervisor.phase) (hserved : s'.served = s.served) :
    AnswersByShutdown s' where
  closed_iff := by
    rw [hphase, HasShutDown, hserved]
    exact ha.closed_iff
  replies := by
    rw [hserved]
    exact ha.replies

/-- One more reply that follows the rule. -/
theorem AnswersByShutdown.replies_concat {reply : Reply} (ha : AnswersByShutdown s)
    (hlast : reply = .closed ↔ s.HasShutDown) :
    ∀ earlier q' reply' later, s.served ++ [(q, reply)] = earlier ++ (q', reply') :: later →
      (reply' = .closed ↔ ∃ x ∈ earlier, x.1.command = .shutdown) := by
  intro earlier q' reply' later hsplit
  rcases eq_or_of_concat_eq hsplit with ⟨rfl, hx⟩ | ⟨later', hsplit⟩
  · obtain ⟨rfl, rfl⟩ := Prod.mk.inj hx
    exact hlast
  · exact ha.replies earlier q' reply' later' hsplit

theorem hasShutDown_afterHandling :
    (s.afterHandling q rest).HasShutDown ↔ s.HasShutDown ∨ q.command = .shutdown := by
  simp [HasShutDown, afterHandling, or_and_right, exists_or]

/-- The supervisor serves a request. -/
theorem AnswersByShutdown.serve (ha : AnswersByShutdown s) (q : Request) (rest : List Request) :
    AnswersByShutdown (s.afterHandling q rest) := by
  by_cases hphase : s.supervisor.phase = .closed
  · have hshut := ha.closed_iff.1 hphase
    have hhandle := Supervisor.handle_of_closed hphase (h := s.host) q.command
    refine ⟨?_, ha.replies_concat ?_⟩
    · rw [hasShutDown_afterHandling, show (s.afterHandling q rest).supervisor.phase = .closed by
        rw [afterHandling, hhandle]; exact hphase]
      exact iff_of_true rfl (Or.inl hshut)
    · rw [hhandle]
      exact iff_of_true rfl hshut
  · have hopen : ¬ s.HasShutDown := fun hshut => hphase (ha.closed_iff.2 hshut)
    refine ⟨?_, ha.replies_concat ?_⟩
    · rw [hasShutDown_afterHandling, or_iff_right hopen]
      by_cases hc : q.command = .shutdown
      · refine iff_of_true ?_ hc
        rw [afterHandling, Supervisor.handle_eq_carryOut hphase, hc]
        rfl
      · refine iff_of_false ?_ hc
        rw [afterHandling, Supervisor.phase_handle hphase hc]
        exact hphase
    · rw [Supervisor.handle_eq_carryOut hphase]
      exact iff_of_false (Supervisor.reply_carryOut_ne_closed _ _ _) hopen

/-- **Every event keeps that.** -/
theorem AnswersByShutdown.step (ha : AnswersByShutdown s) (event : Event) :
    AnswersByShutdown (s.step event) := by
  cases event with
  | send q => exact ha.of_served_eq rfl rfl
  | serve =>
    cases hmailbox : s.mailbox with
    | nil => rwa [Session.step, hmailbox]
    | cons q rest =>
      rw [step_serve hmailbox]
      exact ha.serve q rest
  | wait seconds => exact ha.of_served_eq rfl rfl
  | timer => exact ha.of_served_eq (Supervisor.phase_fireTimer _ _) rfl
  | log e => exact ha.of_served_eq (Supervisor.phase_receive _ e) rfl
  | turn hasTools portLookup network => exact ha.of_served_eq rfl rfl

theorem AnswersByShutdown.run (ha : AnswersByShutdown s) (events : List Event) :
    AnswersByShutdown (s.run events) := by
  induction events generalizing s with
  | nil => exact ha
  | cons event events ih => exact ih (ha.step event)

theorem answersByShutdown_start (o : SupervisorOptions) (monitoring : Bool) (logCapacity : Nat)
    (h : Host) : AnswersByShutdown (start o monitoring logCapacity h) where
  closed_iff :=
    iff_of_false (by simp [start, Supervisor.begin, Supervisor.create, Supervisor.restartTimer])
    (by simp [HasShutDown, start])
  replies earlier q reply later hsplit := absurd hsplit (by simp [start])

/-! ## Nothing moves any more -/

/-- A later state of a session in which nothing was done. -/
structure Unmoved (s s' : Session) : Prop where
  supervisor : s'.supervisor = s.supervisor
  files : s'.host.files = s.host.files
  deeds : s'.host.deeds = s.host.deeds
  drawn : s'.host.drawn = s.host.drawn

theorem Unmoved.refl (s : Session) : Unmoved s s := ⟨rfl, rfl, rfl, rfl⟩

theorem Unmoved.trans (h₁ : Unmoved s s') (h₂ : Unmoved s' s'') : Unmoved s s'' :=
  ⟨h₂.supervisor.trans h₁.supervisor, h₂.files.trans h₁.files,
    h₂.deeds.trans h₁.deeds, h₂.drawn.trans h₁.drawn⟩

/-- **No event moves a closed supervisor.** -/
theorem unmoved_step (hphase : s.supervisor.phase = .closed) (event : Event) :
    Unmoved s (s.step event) := by
  cases event with
  | serve =>
    cases hmailbox : s.mailbox with
    | nil =>
      rw [step, hmailbox]
      exact .refl s
    | cons q rest =>
      rw [step_serve hmailbox, afterHandling, Supervisor.handle_of_closed hphase]
      exact ⟨rfl, rfl, rfl, rfl⟩
  | timer =>
    have hfire : s.supervisor.fireTimer s.host = (false, s.supervisor, s.host) := by
      rw [Supervisor.fireTimer, Supervisor.isDue_of_closed hphase]
      rfl
    rw [step, hfire]
    exact ⟨rfl, rfl, rfl, rfl⟩
  | log e =>
    have hreceive : s.supervisor.receive e = s.supervisor := by
      rw [Supervisor.receive, hphase]
    exact ⟨hreceive, rfl, rfl, rfl⟩
  | _ => exact ⟨rfl, rfl, rfl, rfl⟩

theorem unmoved_run (hphase : s.supervisor.phase = .closed) (events : List Event) :
    Unmoved s (s.run events) := by
  induction events generalizing s with
  | nil => exact .refl s
  | cons event events ih =>
    have hstep := unmoved_step hphase event
    exact hstep.trans (ih (by rw [hstep.supervisor]; exact hphase))

/-! ## Files that others change -/

theorem AnswersByShutdown.occur (ha : AnswersByShutdown s) (x : Occurrence) :
    AnswersByShutdown (s.occur x) := by
  cases x with
  | event e => exact ha.step e
  | change files => exact ha.of_served_eq rfl rfl

theorem AnswersByShutdown.after (ha : AnswersByShutdown s) (xs : List Occurrence) :
    AnswersByShutdown (s.after xs) := by
  induction xs generalizing s with
  | nil => exact ha
  | cons x xs ih => exact ih (ha.occur x)

/-- Not even a change of the files moves a closed supervisor. -/
theorem supervisor_occur_of_closed (hphase : s.supervisor.phase = .closed) (x : Occurrence) :
    (s.occur x).supervisor = s.supervisor := by
  cases x with
  | event e => exact (unmoved_step hphase e).supervisor
  | change files => rfl

theorem supervisor_after_of_closed (hphase : s.supervisor.phase = .closed) (xs : List Occurrence) :
    (s.after xs).supervisor = s.supervisor := by
  induction xs generalizing s with
  | nil => rfl
  | cons x xs ih =>
    have hsame := supervisor_occur_of_closed hphase x
    exact (ih (by rw [hsame]; exact hphase)).trans hsame

/-! ## The mailbox becomes empty -/

/-- Replies that were given stay. -/
theorem served_prefix_run (s : Session) (events : List Event) :
    s.served <+: (s.run events).served := by
  induction events generalizing s with
  | nil => exact List.prefix_rfl
  | cons event events ih =>
    refine List.IsPrefix.trans ?_ (ih (s.step event))
    cases event with
    | serve =>
      cases hmailbox : s.mailbox with
      | nil =>
        rw [step, hmailbox]
      | cons q rest =>
        rw [step_serve hmailbox]
        exact List.prefix_append _ _
    | _ => exact List.prefix_rfl

theorem mailbox_step_serve (s : Session) : (s.step .serve).mailbox = s.mailbox.tail := by
  cases hmailbox : s.mailbox with
  | nil =>
    rw [step, hmailbox]
    exact hmailbox
  | cons q rest =>
    rw [step_serve hmailbox]
    rfl

/-- Serving as often as there are requests serves all of them. -/
theorem mailbox_run_replicate_serve (s : Session) :
    (s.run (List.replicate s.mailbox.length .serve)).mailbox = [] := by
  induction hn : s.mailbox.length generalizing s with
  | zero => exact List.length_eq_zero_iff.1 hn
  | succ n ih =>
    refine ih (s.step .serve) ?_
    rw [mailbox_step_serve, List.length_tail, hn]
    rfl

/-- **A shutdown is final and leaves no request waiting.**  Take any run of a session, with requests
of any number of senders, and serve what is in the mailbox at its end.

* Then the mailbox is empty, and the requests that were sent are those that were served, once each
  and in their order.  A request is replied to as too late exactly if a command to shut down was
  served before it.
* At any point before the first shutdown was served, the request that is next is carried out, and
  its reply is that of the carried out command, which is never the one for requests that are too
  late.
* From any point after it, and whatever happens, the supervisor is the same and with it the
  snapshot; so are the files, and nothing more is done on the host. -/
theorem shutdown_is_final (o : SupervisorOptions) (monitoring : Bool) (logCapacity : Nat) (h : Host)
    (events : List Event) :
    let begun := start o monitoring logCapacity h
    let s := begun.run events
    let drained := s.run (List.replicate s.mailbox.length .serve)
    (drained.mailbox = [] ∧ drained.served.map Prod.fst = events.filterMap Event.request? ∧
      s.served <+: drained.served ∧
      ∀ earlier q reply later, drained.served = earlier ++ (q, reply) :: later →
        (reply = .closed ↔ ∃ x ∈ earlier, x.1.command = .shutdown)) ∧
    (∀ earlier later, events = earlier ++ later → ¬ (begun.run earlier).HasShutDown →
      ∀ q rest, (begun.run earlier).mailbox = q :: rest →
        let result := (begun.run earlier).supervisor.carryOut (begun.run earlier).host q.command
        (begun.run earlier).step .serve =
            ⟨result.2.1, result.2.2, rest, (begun.run earlier).served ++ [(q, result.1)]⟩ ∧
          result.1 ≠ .closed) ∧
    ∀ earlier later, events = earlier ++ later → (begun.run earlier).HasShutDown →
      Unmoved (begun.run earlier) s ∧
      s.supervisor.snapshot = (begun.run earlier).supervisor.snapshot := by
  intro begun s drained
  have hbegun : AnswersByShutdown begun := answersByShutdown_start o monitoring logCapacity h
  refine ⟨⟨mailbox_run_replicate_serve s, ?_, ?_, ((hbegun.run events).run _).replies⟩, ?_,
    ?_⟩
  · have hsent := served_append_mailbox begun (events ++ List.replicate s.mailbox.length .serve)
    have hnone : (List.replicate s.mailbox.length Event.serve).filterMap Event.request? = [] := by
      rw [List.filterMap_eq_nil_iff]
      intro event hevent
      rw [List.eq_of_mem_replicate hevent]
      rfl
    have hdrained : begun.run (events ++ List.replicate s.mailbox.length .serve) = drained :=
      List.foldl_append
    rw [hdrained, mailbox_run_replicate_serve, List.filterMap_append, hnone] at hsent
    simpa [begun, start] using hsent
  · exact served_prefix_run s _
  · intro earlier later hevents hopen q rest hmailbox
    have hphase : (begun.run earlier).supervisor.phase ≠ .closed :=
      fun hclosed => hopen ((hbegun.run earlier).closed_iff.1 hclosed)
    refine ⟨?_, Supervisor.reply_carryOut_ne_closed _ _ _⟩
    rw [step_serve hmailbox, afterHandling, Supervisor.handle_eq_carryOut hphase]
  · rintro earlier later rfl hshut
    have hphase := (hbegun.run earlier).closed_iff.2 hshut
    have hrun : s = (begun.run earlier).run later := List.foldl_append
    have hunmoved := unmoved_run hphase later
    rw [hrun]
    exact ⟨hunmoved, by rw [hunmoved.supervisor]⟩

/-- A key is added.  Then a request to take it off the list stands behind the one to shut down, and
another request is sent when that one has been served. -/
def loneShutdown : List Event :=
  [.send loneRequest, .serve, .send ⟨1, .shutdown⟩, .send ⟨0, .edit (.remove "k".toList)⟩,
    .serve, .serve, .send ⟨2, .stop⟩]

/-- The first request is carried out; the two others come too late, and the key stays on the
list. -/
theorem shutdown_is_final_lone :
    let begun := start loneOptions true 100 loneHost
    let s := begun.run loneShutdown
    let drained := s.run (List.replicate s.mailbox.length .serve)
    let shut := begun.run (loneShutdown.take 5)
    drained.served = [(loneRequest, .outcome (.added "added" "k".toList)),
        (⟨1, .shutdown⟩, .acknowledged), (⟨0, .edit (.remove "k".toList)⟩, .closed),
        (⟨2, .stop⟩, .closed)] ∧
      (∃ x ∈ drained.served.take 2, x.1.command = .shutdown) ∧
      (¬ ∃ x ∈ drained.served.take 1, x.1.command = .shutdown) ∧
      (begun.supervisor.carryOut begun.host loneRequest.command).1 ≠ .closed ∧
      shut.HasShutDown ∧ Unmoved shut s ∧ s.supervisor.snapshot.keys = [.fresh "k".toList] := by
  intro begun s drained shut
  obtain ⟨⟨-, -, -, hreplies⟩, hbefore, hafter⟩ :=
    shutdown_is_final loneOptions true 100 loneHost loneShutdown
  have hserved : drained.served = [(loneRequest, .outcome (.added "added" "k".toList)),
      (⟨1, .shutdown⟩, .acknowledged), (⟨0, .edit (.remove "k".toList)⟩, .closed),
      (⟨2, .stop⟩, .closed)] := by
    decide +kernel
  have hopen : ¬ (begun.run [.send loneRequest]).HasShutDown := by
    rw [HasShutDown]
    decide +kernel
  have hshut : shut.HasShutDown := by
    rw [HasShutDown]
    decide +kernel
  have hlate := (hreplies [_, _] _ .closed _ hserved).1 rfl
  have hacknowledged := mt (hreplies [_] _ .acknowledged _ hserved).2 (by decide)
  obtain ⟨-, hcarried⟩ := hbefore [.send loneRequest] _ rfl hopen loneRequest [] rfl
  obtain ⟨hunmoved, hsame⟩ := hafter (loneShutdown.take 5) _ rfl hshut
  have hkeys : shut.supervisor.snapshot.keys = [.fresh "k".toList] := by decide +kernel
  rw [hserved]
  exact ⟨rfl, hlate, hacknowledged, hcarried, hshut, hunmoved,
    (congrArg Snapshot.keys hsame).trans hkeys⟩

end Session
end ProxySteward
