import Mathlib.Data.List.DropRight
import ProxySteward.CrashWatch

/-!
# What a crash is

The watch of the supervisor keeps two bits.  This module says what they stand for: it takes the
whole *history* of a supervisor, in which every request to start or stop the proxy and every poll
has left a mark, and says at which marks a crash came to light (`IsCrash`).  Such a mark is a poll
that saw the proxy stopped, the poll before it saw the proxy running, and no stop is pending: none
has been requested since the last request to start or the last poll that saw the proxy stopped.

`CrashWatch.Recalls` relates the two bits to the history.  Every mark keeps the relation, and an
observation reveals a crash exactly if it is one (`Recalls.reveals_iff`).

## Running phases

Two things that are expected of a count of crashes follow from the definition alone.  Between two
crashes the proxy was seen running (`exists_running_between`), so no running phase is counted twice;
and a poll that first sees the proxy stopped after a stop was requested is no crash, unless a start
was requested in the meantime (`not_isCrash_of_stop`).
-/

namespace ProxySteward

/-- What a supervisor does that its crash watch is told of. -/
inductive Mark where
  /-- A start of the proxy is requested. -/
  | start
  /-- A stop of the proxy is requested. -/
  | stop
  /-- A poll sees the proxy run or not. -/
  | poll (running : Bool)
  deriving DecidableEq, Repr

namespace Mark

variable {ms : List Mark} {m : Mark} {i j : Nat}

/-- What a poll saw. -/
def seen? : Mark → Option Bool
  | .poll running => some running
  | _ => none

/-- Whether a mark ends the wait for the stops that were requested before it: a start is requested,
or the proxy is seen stopped. -/
def settles : Mark → Bool
  | .start => true
  | .stop => false
  | .poll running => !running

/-- What the last poll saw. -/
def lastSeen? (ms : List Mark) : Option Bool := (ms.filterMap seen?).getLast?

/-- The marks since the last one that settled the stops before it. -/
def unsettled (ms : List Mark) : List Mark := ms.rtakeWhile fun m => !m.settles

/-- The mark at a place is a poll at which a crash came to light: the proxy is seen stopped, the
poll before saw it running, and no stop is waited for. -/
def IsCrash (ms : List Mark) (i : Nat) : Prop :=
  ms[i]? = some (.poll false) ∧ lastSeen? (ms.take i) = some true ∧
    .stop ∉ unsettled (ms.take i)

instance (ms : List Mark) : DecidablePred (IsCrash ms) :=
  fun _ => inferInstanceAs (Decidable (_ ∧ _ ∧ _))

/-- How many crashes came to light. -/
def crashes (ms : List Mark) : Nat := (List.range ms.length).countP fun i => IsCrash ms i

/-! ## One more mark -/

theorem lastSeen?_concat_poll (ms : List Mark) (running : Bool) :
    lastSeen? (ms ++ [.poll running]) = some running := by
  simp [lastSeen?, seen?]

theorem lastSeen?_concat_of_seen?_eq_none (ms : List Mark) (h : m.seen? = none) :
    lastSeen? (ms ++ [m]) = lastSeen? ms := by
  simp [lastSeen?, h]

theorem unsettled_concat_of_settles (ms : List Mark) (h : m.settles = true) :
    unsettled (ms ++ [m]) = [] := by
  rw [unsettled, List.rtakeWhile_concat_neg _ _ _ (by simp [h])]

theorem unsettled_concat_of_not_settles (ms : List Mark) (h : m.settles = false) :
    unsettled (ms ++ [m]) = unsettled ms ++ [m] := by
  rw [unsettled, List.rtakeWhile_concat_pos _ _ _ (by simp [h])]
  rfl

theorem isCrash_concat_of_lt (m : Mark) (h : i < ms.length) :
    IsCrash (ms ++ [m]) i ↔ IsCrash ms i := by
  rw [IsCrash, IsCrash, List.getElem?_append_left h, List.take_append_of_le_length h.le]

theorem isCrash_concat_length (ms : List Mark) (m : Mark) :
    IsCrash (ms ++ [m]) ms.length ↔
      m = .poll false ∧ lastSeen? ms = some true ∧ .stop ∉ unsettled ms := by
  rw [IsCrash, List.getElem?_concat_length, List.take_left', Option.some.injEq]
  rfl

theorem crashes_concat (ms : List Mark) (m : Mark) :
    crashes (ms ++ [m]) = crashes ms +
      if m = .poll false ∧ lastSeen? ms = some true ∧ .stop ∉ unsettled ms then 1 else 0 := by
  have hearlier : (List.range ms.length).countP (fun i => decide (IsCrash (ms ++ [m]) i)) =
      crashes ms := by
    refine List.countP_congr fun i hi => ?_
    rw [decide_eq_true_iff, decide_eq_true_iff, isCrash_concat_of_lt m (List.mem_range.1 hi)]
  rw [crashes, List.length_append, List.length_singleton, List.range_succ, List.countP_append,
    hearlier, List.countP_singleton]
  simp only [decide_eq_true_eq, isCrash_concat_length]

/-- A mark other than a poll that saw the proxy stopped brings no crash. -/
theorem crashes_concat_of_ne (ms : List Mark) (h : m ≠ .poll false) :
    crashes (ms ++ [m]) = crashes ms := by
  rw [crashes_concat, if_neg fun hcrash => h hcrash.1, Nat.add_zero]

theorem crashes_le_append (ms later : List Mark) : crashes ms ≤ crashes (ms ++ later) := by
  induction later generalizing ms with
  | nil => rw [List.append_nil]
  | cons m later ih =>
    have hnext := ih (ms ++ [m])
    rw [List.append_assoc, List.singleton_append] at hnext
    have hone : crashes ms ≤ crashes (ms ++ [m]) := by
      rw [crashes_concat]
      exact Nat.le_add_right _ _
    exact hone.trans hnext

/-- There are no more crashes than polls that saw the proxy stopped. -/
theorem crashes_le_count (ms : List Mark) : crashes ms ≤ ms.count (.poll false) := by
  induction ms using List.reverseRecOn with
  | nil => exact Nat.le_refl 0
  | append_singleton ms m ih =>
    rw [List.count_append]
    by_cases hm : m = .poll false
    · rw [crashes_concat, hm, List.count_singleton_self]
      split <;> omega
    · rw [crashes_concat_of_ne ms hm]
      exact ih.trans (Nat.le_add_right _ _)

/-! ## Running phases -/

/-- The last poll stands somewhere, and no other one behind it. -/
theorem exists_of_lastSeen? {b : Bool} (h : lastSeen? ms = some b) :
    ∃ earlier later, ms = earlier ++ .poll b :: later ∧ ∀ m ∈ later, m.seen? = none := by
  obtain ⟨polls, hpolls⟩ := List.getLast?_eq_some_iff.1 h
  obtain ⟨xs, ys, rfl, -, hys⟩ := List.filterMap_eq_append_iff.1 hpolls
  obtain ⟨front, m, later, rfl, -, hm, hlater⟩ := List.filterMap_eq_cons_iff.1 hys
  have hpoll : m = .poll b := by
    cases m with
    | poll running => rw [Option.some.inj hm]
    | _ => exact absurd hm (by simp [seen?])
  refine ⟨xs ++ front, later, by rw [hpoll, List.append_assoc], ?_⟩
  exact List.filterMap_eq_nil_iff.1 hlater

/-- Marks that settle nothing are still there. -/
theorem unsettled_append_of_forall (ms : List Mark) {later : List Mark}
    (h : ∀ m ∈ later, m.settles = false) : unsettled (ms ++ later) = unsettled ms ++ later := by
  induction later using List.reverseRecOn with
  | nil => rw [List.append_nil, List.append_nil]
  | append_singleton later m ih =>
    have hm : m.settles = false := h m (by simp)
    rw [← List.append_assoc, unsettled_concat_of_not_settles _ hm,
      ih fun m' hm' => h m' (List.mem_append_left _ hm'), List.append_assoc]

/-- **Each running phase is counted at most once**: between two crashes a poll saw the proxy
running. -/
theorem exists_running_between (hij : i < j) (hi : IsCrash ms i) (hj : IsCrash ms j) :
    ∃ k, i < k ∧ k < j ∧ ms[k]? = some (.poll true) := by
  obtain ⟨earlier, later, htake, hlater⟩ := exists_of_lastSeen? hj.2.1
  have hstopped : (earlier ++ .poll true :: later)[i]? = some (.poll false) := by
    rw [← htake, List.getElem?_take_of_lt hij, hi.1]
  have hrunning : (ms.take j)[earlier.length]? = some (.poll true) := by
    rw [htake, List.getElem?_append_right le_rfl, Nat.sub_self]
    rfl
  have hk : earlier.length < j := by
    obtain ⟨hlt, -⟩ := List.getElem?_eq_some_iff.1 hrunning
    rw [List.length_take] at hlt
    omega
  rw [List.getElem?_take_of_lt hk] at hrunning
  refine ⟨earlier.length, Nat.lt_of_not_ge fun hge => ?_, hk, hrunning⟩
  -- otherwise the first crash would be a poll behind the last one
  rw [List.getElem?_append_right hge] at hstopped
  rcases List.mem_cons.1 (List.mem_of_getElem? hstopped) with heq | hmem
  · exact absurd heq (by decide)
  · exact absurd (hlater _ hmem) (by decide)

/-- **A stop that was requested is no crash**, however many polls pass before one sees the proxy
stopped, unless a start is requested meanwhile. -/
theorem not_isCrash_of_stop (hij : i < j) (hi : ms[i]? = some .stop)
    (hbetween : ∀ k, i < k → k < j →
      ms[k]? ≠ some .start ∧ ms[k]? ≠ some (.poll false)) : ¬ IsCrash ms j := by
  rintro ⟨-, -, hnone⟩
  have hstop : (ms.take j)[i]? = some .stop := by rw [List.getElem?_take_of_lt hij, hi]
  obtain ⟨hlt, hget⟩ := List.getElem?_eq_some_iff.1 hstop
  have hsplit : ms.take j = (ms.take j).take i ++ .stop :: (ms.take j).drop (i + 1) := by
    rw [← hget, ← List.drop_eq_getElem_cons hlt, List.take_append_drop]
  refine hnone ?_
  rw [hsplit, unsettled_append_of_forall]
  · exact List.mem_append_right _ List.mem_cons_self
  · intro m hm
    rcases List.mem_cons.1 hm with rfl | hm
    · rfl
    · obtain ⟨n, hn⟩ := List.mem_iff_getElem?.1 hm
      rw [List.getElem?_drop, List.getElem?_take] at hn
      split at hn
      · next hlater =>
        obtain ⟨hstart, hstopped⟩ := hbetween (i + 1 + n) (by omega) hlater
        rw [hn] at hstart hstopped
        cases m with
        | start => exact absurd rfl hstart
        | stop => rfl
        | poll running =>
          cases running with
          | true => rfl
          | false => exact absurd rfl hstopped
      · exact absurd hn (by simp)

/-- A stop that takes two polls, and then a crash. -/
example : crashes [.poll true, .stop, .poll true, .poll false, .poll true, .poll false] = 1 := by
  decide

end Mark

/-! ## The watch -/

namespace CrashWatch

open Mark

variable {ms : List Mark} {w : CrashWatch}

/-- A watch that keeps of a history what its two bits stand for. -/
structure Recalls (ms : List Mark) (w : CrashWatch) : Prop where
  wasRunning : w.wasRunning = (lastSeen? ms).getD false
  stopRequested : w.stopRequested = true ↔ .stop ∈ unsettled ms

theorem recalls_initial : Recalls [] initial := ⟨rfl, by decide⟩

theorem Recalls.requestStart (hw : Recalls ms w) : Recalls (ms ++ [.start]) w.requestStart where
  wasRunning := by
    rw [lastSeen?_concat_of_seen?_eq_none ms rfl]
    exact hw.wasRunning
  stopRequested := by
    rw [unsettled_concat_of_settles ms rfl]
    simp [CrashWatch.requestStart]

theorem Recalls.requestStop (hw : Recalls ms w) : Recalls (ms ++ [.stop]) w.requestStop where
  wasRunning := by
    rw [lastSeen?_concat_of_seen?_eq_none ms rfl]
    exact hw.wasRunning
  stopRequested := by
    rw [unsettled_concat_of_not_settles ms rfl]
    simp [CrashWatch.requestStop]

theorem Recalls.observe (hw : Recalls ms w) (running : Bool) :
    Recalls (ms ++ [.poll running]) (w.observe running) where
  wasRunning := by
    rw [lastSeen?_concat_poll]
    rfl
  stopRequested := by
    cases running with
    | false =>
      rw [unsettled_concat_of_settles ms rfl]
      simp [CrashWatch.observe]
    | true =>
      rw [unsettled_concat_of_not_settles ms rfl]
      simpa [CrashWatch.observe] using hw.stopRequested

/-- **An observation reveals a crash** exactly if the poll is one. -/
theorem Recalls.reveals_iff (hw : Recalls ms w) (running : Bool) :
    w.reveals running = true ↔
      Mark.poll running = .poll false ∧ lastSeen? ms = some true ∧ .stop ∉ unsettled ms := by
  have hseen : w.wasRunning = true ↔ lastSeen? ms = some true := by
    rw [hw.wasRunning]
    cases lastSeen? ms <;> simp
  rw [reveals, Bool.and_eq_true, Bool.and_eq_true, hseen, Bool.not_eq_true', Bool.not_eq_true',
    ← hw.stopRequested, Bool.not_eq_true, Mark.poll.injEq]
  tauto

end CrashWatch
end ProxySteward
