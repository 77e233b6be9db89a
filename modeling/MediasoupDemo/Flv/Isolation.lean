import MediasoupDemo.Flv.Publishing

/-!
# What an old disconnect does to a new session

`stop` leaves the closing of the connection to a thread, and `start` does not
wait for it.  The thread reads the fields of the connection when it gets to
them, so it closes, resets and clears whatever is there by then.

* `Isolated` is what a step of such a thread must not do to a later session.
* `Untouched` is the condition on the state before the step: the field that the
  step is about does not belong to a later session.
* `Owned` is an invariant of all runs: no field belongs to a session that has not
  started.  While no later session has started, every step is harmless.
-/

namespace MediasoupDemo.Flv

open Interleave

/-- The field belongs to a later session. -/
def Later (session : Nat) (field : Option Nat) : Prop := ∃ k, session < k ∧ field = some k

namespace Publishing

/-- A step of a thread that disconnects a session leaves later sessions alone:
it neither closes the connection of one, nor clears its headers, nor resets the
counter once one has started. -/
@[mk_iff] structure Isolated (session : Nat) (s s' : Publishing) : Prop where
  shut : ∀ k, session < k → s'.connection.shut.count k = s.connection.shut.count k
  closedStreams : ∀ k, session < k →
    s'.connection.closedStreams.count k = s.connection.closedStreams.count k
  socket : Later session s.connection.socket → s'.connection.socket = s.connection.socket
  rxPacketHandler : Later session s.connection.rxPacketHandler →
    s'.connection.rxPacketHandler = s.connection.rxPacketHandler
  connected : Later session s.connection.connected →
    s'.connection.connected = s.connection.connected
  publishPermitted : Later session s.connection.publishPermitted →
    s'.connection.publishPermitted = s.connection.publishPermitted
  currentStreamId : Later session s.connection.currentStreamId →
    s'.connection.currentStreamId = s.connection.currentStreamId
  videoHeader : Later session s.mVideoSequenceHeader →
    s'.mVideoSequenceHeader = s.mVideoSequenceHeader
  audioHeader : Later session s.mAudioSequenceHeader →
    s'.mAudioSequenceHeader = s.mAudioSequenceHeader
  counter : session < s.session →
    s'.connection.videoFrameCacheNumber = s.connection.videoFrameCacheNumber

/-- `close()` sends a `closeStream` command. -/
def sendsCloseStream (s : Publishing) : Bool :=
  s.connection.socket.isSome && s.connection.connected.isSome &&
    s.connection.currentStreamId.isSome && s.connection.publishPermitted.isSome &&
    s.connection.rtmpSessionInfo

/-- What the step is about does not belong to a later session. -/
def Untouched (session : Nat) (outcome : Bool) (s : Publishing) : ThreadStep → Prop
  | .closeStream => s.sendsCloseStream = true → ¬ Later session s.connection.currentStreamId
  | .shutdownInput | .shutdownOutput => outcome = true → ¬ Later session s.connection.socket
  | .closeSocket | .resetSocket => ¬ Later session s.connection.socket
  | .joinReceiver => ¬ Later session s.connection.rxPacketHandler
  | .resetConnected => ¬ Later session s.connection.connected
  | .resetPublishPermitted => ¬ Later session s.connection.publishPermitted
  | .resetCurrentStreamId => ¬ Later session s.connection.currentStreamId
  | .resetVideoFrameCacheNumber =>
      session < s.session → s.connection.videoFrameCacheNumber = 0
  | .clearVideoHeader => ¬ Later session s.mVideoSequenceHeader
  | .clearAudioHeader => ¬ Later session s.mAudioSequenceHeader
  | _ => True

end Publishing

/-- The steps of the threads that disconnect. -/
def ThreadStep.closes : ThreadStep → Bool
  | .closeStream | .testSocket | .shutdownInput | .shutdownOutput | .joinReceiver | .closeSocket
  | .resetConnected | .resetPublishPermitted | .resetCurrentStreamId | .resetVideoFrameCacheNumber
  | .resetSocket | .resetSessionInfo | .clearVideoHeader | .clearAudioHeader => true
  | _ => false

namespace Publishing

/-! ## One step -/

variable {s : Publishing} {session : Nat} {thread : Nat × Nat} {outcome : Bool} {st : ThreadStep}

/-- Clearing a field leaves it as it was if and only if it is not a later one's. -/
theorem later_imp_none_iff {field : Option Nat} :
    (Later session field → none = field) ↔ ¬ Later session field := by
  constructor
  · intro h hlater
    have hnone := h hlater
    obtain ⟨k, -, hk⟩ := hlater
    rw [hk] at hnone
    cases hnone
  · exact fun h hlater => absurd hlater h

/-- The session of a field is a later one if and only if a later one is named. -/
theorem count_toList_iff {field : Option Nat} :
    (∀ k, session < k → field.toList.count k = 0) ↔ ¬ Later session field := by
  simp only [List.count_eq_zero, Option.mem_toList, Later, not_exists, not_and]

theorem Isolated.refl (session : Nat) (s : Publishing) : Isolated session s s := by
  simp [isolated_iff]

theorem isolated_shutSocket_iff :
    Isolated session s s.shutSocket ↔ ¬ Later session s.connection.socket := by
  simp [isolated_iff, shutSocket, onConnection, count_toList_iff]

/-- A step is harmless if and only if it is about nothing of a later session. -/
theorem isolated_exec_iff (h : st.closes = true) :
    Isolated session s (s.exec session outcome st).1 ↔ Untouched session outcome s st := by
  cases st with
  | closeStream =>
    simp only [exec, Untouched, sendsCloseStream]
    split_ifs with hopen hinfo
    · simp [isolated_iff, onConnection, count_toList_iff, hopen, hinfo]
    · simp [Isolated.refl, hinfo]
    · simp [Isolated.refl, hopen]
  | testSocket =>
    simp only [exec, Untouched]
    split_ifs <;> simp [Isolated.refl]
  | shutdownInput | shutdownOutput | closeSocket =>
    simp only [exec, Untouched]
    split_ifs with hnull
    all_goals simp_all [isolated_shutSocket_iff, Isolated.refl, Later]
  | joinReceiver | resetConnected | resetPublishPermitted | resetCurrentStreamId | resetSocket
  | clearVideoHeader | clearAudioHeader | resetSessionInfo =>
    simp [exec, Untouched, isolated_iff, onConnection, later_imp_none_iff]
  | resetVideoFrameCacheNumber =>
    simp [exec, Untouched, isolated_iff, onConnection, eq_comm]
  | _ => cases h

/-! ## The sessions of the fields -/

/-- The sessions that the fields and the receiving threads belong to. -/
def owners (s : Publishing) : List Nat :=
  s.connection.socket.toList ++ s.connection.rxPacketHandler.toList ++
    s.connection.connected.toList ++ s.connection.publishPermitted.toList ++
    s.connection.currentStreamId.toList ++ s.mVideoSequenceHeader.toList ++
    s.mAudioSequenceHeader.toList ++ s.receivers

theorem mem_owners {k : Nat} :
    k ∈ s.owners ↔
      s.connection.socket = some k ∨ s.connection.rxPacketHandler = some k ∨
        s.connection.connected = some k ∨ s.connection.publishPermitted = some k ∨
        s.connection.currentStreamId = some k ∨ s.mVideoSequenceHeader = some k ∨
        s.mAudioSequenceHeader = some k ∨ k ∈ s.receivers := by
  simp only [owners, List.mem_append, Option.mem_toList, or_assoc]

/-- A step of a thread sets fields for its own session only. -/
theorem mem_owners_exec {k : Nat} (h : k ∈ (s.exec session outcome st).1.owners) :
    k = session ∨ k ∈ s.owners := by
  revert h
  unfold exec
  split <;> (try dsimp only) <;> (repeat' split)
  all_goals grind [mem_owners, onConnection, shutSocket, count]

/-- A thread that disconnects only closes, also after its next step. -/
theorem closes_after {rest : List ThreadStep} (h : ∀ st' ∈ st :: rest, st'.closes = true) :
    ∀ st' ∈ after (s.exec session outcome st).2 rest, st'.closes = true := by
  have hrest : ∀ st' ∈ rest, st'.closes = true := fun st' hst => h st' (List.mem_cons_of_mem _ hst)
  have hfirst := h st List.mem_cons_self
  have hnone : ∀ st' ∈ after none rest, st'.closes = true := by simp [after]
  have hsome : ∀ steps : List ThreadStep, (∀ st' ∈ steps, st'.closes = true) →
      ∀ st' ∈ after (some steps) rest, st'.closes = true := by
    intro steps hsteps st' hst
    exact (List.mem_append.mp hst).elim (hsteps st') (hrest st')
  cases st with
  | closeStream | testSocket | shutdownInput | shutdownOutput | closeSocket =>
    simp only [exec]
    split_ifs
    all_goals first | exact hnone | exact hsome _ (by decide)
  | joinReceiver | resetConnected | resetPublishPermitted | resetCurrentStreamId
  | resetVideoFrameCacheNumber | resetSocket | clearVideoHeader | clearAudioHeader
  | resetSessionInfo => exact hrest
  | _ => cases hfirst

/-- What holds in all runs: the threads of `stop` only close, and neither they nor
the fields belong to a session that has not started. -/
structure Owned (s : Publishing) : Prop where
  closes : ∀ thread, ∀ st ∈ s.disconnects thread, st.closes = true
  threads : ∀ thread, s.disconnects thread ≠ [] → thread.1 ≤ s.session
  owners : ∀ k ∈ s.owners, k ≤ s.session

theorem Owned.init : Owned {} where
  closes _ _ hst := absurd hst List.not_mem_nil
  threads _ hne := absurd rfl hne
  owners _ hk := absurd hk List.not_mem_nil

/-- The receiving thread of a session sets fields for it. -/
theorem Owned.receive (h : Owned s) (hreceives : s.receives session = true)
    (f : RtmpConnection → RtmpConnection)
    (hf : ∀ k ∈ (s.onConnection f).owners, k = session ∨ k ∈ s.owners) :
    Owned (s.onConnection f) where
  closes := h.closes
  threads := h.threads
  owners k hk := by
    have hsession : session ∈ s.owners := by
      simp only [receives, Bool.and_eq_true, decide_eq_true_eq] at hreceives
      simp [mem_owners, hreceives.1]
    cases hf k hk with
    | inl hown => rw [hown]; exact h.owners session hsession
    | inr hold => exact h.owners k hold

theorem Owned.setThread (h : Owned s) {steps : List ThreadStep}
    (hsteps : ∀ st ∈ steps, st.closes = true) (hthread : thread.1 ≤ s.session) :
    Owned { s with disconnects := Function.update s.disconnects thread steps } where
  closes other st hst := by
    by_cases heq : other = thread
    · subst heq
      exact hsteps st (by simpa using hst)
    · exact h.closes other st (by simpa [Function.update_of_ne heq] using hst)
  threads other hne := by
    by_cases heq : other = thread
    · rw [heq]; exact hthread
    · exact h.threads other (by simpa [Function.update_of_ne heq] using hne)
  owners := h.owners

theorem Owned.exec (h : Owned s) (hsession : session ≤ s.session) (outcome : Bool)
    (st : ThreadStep) : Owned (s.exec session outcome st).1 where
  closes := by simpa using h.closes
  threads := by simpa using h.threads
  owners k hk := by
    rw [exec_session]
    cases mem_owners_exec hk with
    | inl hown => rw [hown]; exact hsession
    | inr hold => exact h.owners k hold

variable {s' : Publishing}

theorem Owned.disconnect (h : Owned s)
    (hstep : s.step (.disconnect thread outcome) = some s') : Owned s' := by
  cases hsteps : s.disconnects thread with
  | nil => simp [Publishing.step, hsteps] at hstep
  | cons first rest =>
    have hthread : thread.1 ≤ s.session := h.threads thread (by simp [hsteps])
    have hexec := h.exec hthread outcome first
    have hafter : ∀ st ∈ after (s.exec thread.1 outcome first).2 rest, st.closes = true :=
      closes_after (hsteps ▸ h.closes thread)
    simp only [Publishing.step, hsteps, Option.some.injEq] at hstep
    have hset := hexec.setThread hafter (by rw [exec_session]; exact hthread)
    rw [exec_disconnects] at hset
    rw [← hstep]
    exact hset

theorem Owned.step {e : Event} (h : Owned s) (hstep : s.step e = some s') :
    Owned s' := by
  cases e with
  | start =>
    simp only [Publishing.step] at hstep
    split_ifs at hstep
    cases hstep
    exact ⟨h.closes, fun thread hne => Nat.le_succ_of_le (h.threads thread hne),
      fun k hk => Nat.le_succ_of_le (h.owners k hk)⟩
  | stop =>
    simp only [Publishing.step] at hstep
    split at hstep
    · cases hstep; exact ⟨h.closes, h.threads, h.owners⟩
    · cases hstep; exact ⟨h.closes, h.threads, h.owners⟩
    · split_ifs at hstep
      cases hstep
      have hdisconnect : ∀ st ∈ ThreadStep.disconnect, st.closes = true := by decide
      have hthread := h.setThread hdisconnect (Nat.le_refl (s.session, s.stops).1)
      exact ⟨hthread.closes, hthread.threads, hthread.owners⟩
  | worker outcome =>
    cases hworker : s.worker with
    | nil => simp [Publishing.step, hworker] at hstep
    | cons first rest =>
      simp only [Publishing.step, hworker, Option.some.injEq] at hstep
      have hexec := h.exec (Nat.le_refl _) outcome first
      rw [← hstep]
      exact ⟨hexec.closes, hexec.threads, hexec.owners⟩
  | disconnect thread outcome => exact h.disconnect hstep
  | encode frame =>
    simp only [Publishing.step] at hstep
    split_ifs at hstep <;> cases hstep
    · exact ⟨h.closes, h.threads, h.owners⟩
    · exact h
  | encoder =>
    simp only [Publishing.step] at hstep
    split at hstep <;> cases hstep
    · exact ⟨h.closes, h.threads, h.owners⟩
    · split_ifs <;> exact ⟨h.closes, h.threads, h.owners⟩
  | connected session | streamCreated session | permitted session =>
    simp only [Publishing.step] at hstep
    split_ifs at hstep with hreceives
    cases hstep
    refine h.receive hreceives _ fun k hk => ?_
    grind [mem_owners, onConnection]

/-- No field belongs to a later session while none has started. -/
theorem Owned.untouched (h : Owned s) (hlast : s.session ≤ session) (outcome : Bool)
    (st : ThreadStep) : Untouched session outcome s st := by
  have hfield {field : Option Nat} (hmem : ∀ k, field = some k → k ∈ s.owners) :
      ¬ Later session field := by
    intro hlater
    obtain ⟨k, hk, hfield⟩ := hlater
    have := h.owners k (hmem k hfield)
    omega
  unfold Untouched
  split
  all_goals first
    | exact hfield fun k hk => by simp [mem_owners, hk]
    | exact fun _ => hfield fun k hk => by simp [mem_owners, hk]
    | exact fun hlt => absurd hlt (Nat.not_lt.mpr hlast)
    | trivial

/-! ## Runs -/

/-- In the run, every step of a thread that disconnects a session leaves later
sessions alone. -/
def Isolation (events : List Event) : Prop :=
  ∀ u thread outcome, u ++ [.disconnect thread outcome] <+: events →
    ∀ s s', run step {} u = some s → s.step (.disconnect thread outcome) = some s' →
      Isolated thread.1 s s'

/-- The next step of a thread that disconnects is about nothing of a later session. -/
def NextUntouched (s : Publishing) (thread : Nat × Nat) (outcome : Bool) : Prop :=
  ∀ st ∈ (s.disconnects thread).head?, Untouched thread.1 outcome s st

theorem owned_of_run {events : List Event} (h : run step {} events = some s) :
    Owned s :=
  run_invariant (fun _ _ _ howned hstep => howned.step hstep) events {} s Owned.init h

theorem step_session {e : Event} (h : s.step e = some s') :
    s'.session = s.session + if e = .start then 1 else 0 := by
  unfold step at h
  split at h <;> (try dsimp only at h) <;> (repeat' split at h) <;> cases h
  all_goals first | rfl | exact exec_session _ _ _ _

theorem run_session (events : List Event) :
    ∀ s s' : Publishing, run step s events = some s' →
      s'.session = s.session + events.count .start := by
  induction events with
  | nil =>
    intro s s' h
    cases h
    rfl
  | cons e events ih =>
    intro s s'' h
    obtain ⟨s', hs', hrun⟩ := run_cons_eq_some h
    rw [ih s' s'' hrun, step_session hs', List.count_cons]
    simp only [beq_iff_eq]
    omega

theorem Owned.isolated_iff (h : Owned s) (hstep : s.step (.disconnect thread outcome) = some s') :
    Isolated thread.1 s s' ↔ s.NextUntouched thread outcome := by
  cases hsteps : s.disconnects thread with
  | nil => simp [Publishing.step, hsteps] at hstep
  | cons first rest =>
    have hcloses : first.closes = true := h.closes thread first (by simp [hsteps])
    have hiff : Isolated thread.1 s s' ↔ Isolated thread.1 s (s.exec thread.1 outcome first).1 := by
      simp only [Publishing.step, hsteps, Option.some.injEq] at hstep
      rw [← hstep]
      simp only [Publishing.isolated_iff]
    rw [hiff, isolated_exec_iff hcloses, NextUntouched, hsteps]
    simp

/-- A thread that can go on has a next state. -/
theorem exists_step_disconnect (outcome : Bool) (h : s.disconnects thread ≠ []) :
    ∃ s', s.step (.disconnect thread outcome) = some s' := by
  cases hsteps : s.disconnects thread with
  | nil => exact absurd hsteps h
  | cons first rest => simp [step, hsteps]

/-- The next step of a thread in a run in which later sessions are left alone. -/
theorem Isolation.nextUntouched {events u : List Event} (h : Isolation events)
    (hu : u ++ [.disconnect thread outcome] <+: events) (hs : run step {} u = some s) :
    s.NextUntouched thread outcome := by
  by_cases hsteps : s.disconnects thread = []
  · simp [NextUntouched, hsteps]
  · obtain ⟨s', hs'⟩ := exists_step_disconnect outcome hsteps
    exact ((owned_of_run hs).isolated_iff hs').mp (h u thread outcome hu s s' hs hs')

/-- Old threads leave the later sessions of a run alone if the threads of a session
end before the next `start`; and if and only if each of their steps finds nothing of
a later session where it looks. -/
theorem isolation_iff (events : List Event) :
    ((∀ u thread outcome, u ++ [.disconnect thread outcome] <+: events →
        u.count .start ≤ thread.1) → Isolation events) ∧
    (Isolation events ↔
      ∀ u thread outcome, u ++ [.disconnect thread outcome] <+: events →
        ∀ s, run step {} u = some s → s.NextUntouched thread outcome) := by
  have hmpr : (∀ u thread outcome, u ++ [.disconnect thread outcome] <+: events →
      ∀ s, run step {} u = some s → s.NextUntouched thread outcome) → Isolation events := by
    intro h u thread outcome hu s s' hs hs'
    exact ((owned_of_run hs).isolated_iff hs').mpr (h u thread outcome hu s hs)
  refine ⟨fun h => hmpr ?_, fun h u thread outcome hu s hs => h.nextUntouched hu hs, hmpr⟩
  intro u thread outcome hu s hs st hst
  have hsession : s.session = 0 + u.count .start := run_session u {} s hs
  have hcount := h u thread outcome hu
  exact (owned_of_run hs).untouched (by omega) outcome st

/-! ## A quick restart -/

/-- `start`, with a server that permits the publishing: the worker ends up at its
loop. -/
def publishing (session : Nat) : List Event :=
  .start :: List.replicate 4 (.worker true) ++ .connected session ::
    List.replicate 3 (.worker true) ++ .streamCreated session :: .permitted session ::
    List.replicate 4 (.worker true)

/-- The first session is published and stopped. -/
def stopped : List Event := publishing 1 ++ [.stop, .stop, .worker true, .stop]

/-- A run of the thread that disconnects the first session. -/
def disconnecting (n : Nat) : List Event := List.replicate n (.disconnect (1, 0) true)

/-- Nothing starts until the thread has ended. -/
theorem isolation_stopped : Isolation (stopped ++ disconnecting 14) := by
  refine (isolation_iff (stopped ++ disconnecting 14)).1 fun u thread outcome hu => ?_
  have hcount : u.count .start ≤ (stopped ++ disconnecting 14).count .start :=
    ((List.prefix_append u _).trans hu).sublist.count_le _
  have hstarts : (stopped ++ disconnecting 14).count .start = 1 := by decide +kernel
  have hmem : .disconnect thread outcome ∈ stopped ++ disconnecting 14 :=
    hu.subset (by simp)
  have hthread : thread = (1, 0) := by
    simp [stopped, publishing, disconnecting] at hmem
    exact hmem.1
  rw [hthread]
  omega

/-- The thread has found that there is a socket when the second session makes and
connects its own. -/
def socketReplaced : List Event :=
  stopped ++ disconnecting 2 ++ [.start, .worker true, .worker true]

/-- A video frame of one byte. -/
def videoFrame (avc_aac_type : AvcType) : SrsFlvFrame where
  flvTag := { data := [0x17], size := 1 }
  avc_aac_type
  frame_type := .KeyFrame
  type := .Video
  dts := 0

/-- The thread has come to the counter when the second session publishes, sends a
sequence header and has one more frame in the queue. -/
def headerStored : List Event :=
  stopped ++ disconnecting 9 ++ publishing 2 ++
    [.encode (videoFrame .SequenceHeader), .encoder, .encoder] ++
    List.replicate 8 (.worker true) ++ [.encode (videoFrame .NALU), .encoder, .encoder]

/-- In the first run the old thread shuts down the socket of the second session.
In the second run it sets the counter to 0 with a frame in the queue, and clears the
header. -/
theorem not_isolation_restart :
    ¬ Isolation (socketReplaced ++ disconnecting 1) ∧
      ¬ Isolation (headerStored ++ disconnecting 1) ∧
      (run step {} (socketReplaced ++ disconnecting 1)).map
        (fun s => (s.session, s.connection.socket, s.connection.shut)) = some (2, some 2, [2]) ∧
      (run step {} headerStored).map
        (fun s => (s.session, s.mVideoSequenceHeader, s.connection.videoFrameCacheNumber)) =
          some (2, some 2, 1) ∧
      (run step {} (headerStored ++ disconnecting 4)).map
        (fun s => (s.mFlvTagCache, s.mVideoSequenceHeader, s.connection.videoFrameCacheNumber)) =
          some ([videoFrame .NALU], none, 0) := by
  refine ⟨fun h => ?_, fun h => ?_, by decide +kernel, by decide +kernel, by decide +kernel⟩
  · have hpre : (run step {} socketReplaced).map
        (fun s => ((s.disconnects (1, 0)).head?, s.connection.socket)) =
          some (some .shutdownInput, some 2) := by decide +kernel
    obtain ⟨s, hs, hnext⟩ := Option.map_eq_some_iff.mp hpre
    simp only [Prod.mk.injEq] at hnext
    have huntouched : Untouched 1 true s .shutdownInput :=
      h.nextUntouched (List.prefix_refl _) hs _ hnext.1
    exact huntouched rfl ⟨2, by decide, hnext.2⟩
  · have hpre : (run step {} headerStored).map
        (fun s => ((s.disconnects (1, 0)).head?, s.session, s.connection.videoFrameCacheNumber)) =
          some (some .resetVideoFrameCacheNumber, 2, 1) := by decide +kernel
    obtain ⟨s, hs, hnext⟩ := Option.map_eq_some_iff.mp hpre
    simp only [Prod.mk.injEq] at hnext
    have huntouched : Untouched 1 true s .resetVideoFrameCacheNumber :=
      h.nextUntouched (List.prefix_refl _) hs _ hnext.1
    have hcounter := huntouched (by rw [hnext.2.1]; decide)
    rw [hnext.2.2] at hcounter
    cases hcounter

end Publishing

end MediasoupDemo.Flv
