import MediasoupDemo.Socket.Reconnects

/-!
# What the listener is told

`AbsWebSocketTransport.Listener` distinguishes a connection that could not be established in the
first place, `onFail`, from an established one that was lost, `onDisconnected`.

`mConnected` is set when a socket opens and stays set when it fails.  So every failure after the
first open is reported as the loss of a connection, also that of a socket which never opened.
`Told` counts the losses by the segments of the history: the first segment has none, and a later
one has as many as it has delays.
-/

namespace MediasoupDemo.Socket

open Trace

/-! ## The protocol -/

/-- How often the loss of a connection was reported. -/
def disconnections (segment : List Mark) : Nat := segment.count (.listener .onDisconnected)

/-- `onDisconnected` is reported at most once per `onOpen`. -/
def OncePerOpen (history : List Mark) : Prop :=
  disconnections (firstSegment history) = 0 ∧
    ∀ segment ∈ laterSegments history, disconnections segment ≤ 1

/-- One more mark, after it is known whether a connection has been established since the last
`onDisconnected`. -/
def establishedStep (established : Bool) : Mark → Bool
  | .listener .onOpen => true
  | .listener .onDisconnected => false
  | _ => established

/-- A connection has been established since the last `onDisconnected`. -/
def established (history : List Mark) : Bool := history.foldl establishedStep false

/-- A failure without a connection is reported as `onFail` or, when the transport gives up, as
`onClose`.  A transport that is closed, or that runs no socket, has no failures. -/
def FailureReported (t : WebSocketTransport) : Prop :=
  t.mClosed = false → t.mOkHttpClient ≠ .idle → established t.history = false →
    (∃ interval,
        (t.step .onFailure).history = t.history ++ [.scheduled interval, .listener .onFail]) ∨
      ((t.step .onFailure).mClosed = true ∧
        (t.step .onFailure).history = t.history ++ [.listener .onClose])

/-! ## Segments -/

variable {mark : Mark}

section Snoc

variable (segment : List Mark)

theorem disconnections_onDisconnected :
    disconnections (segment ++ [.listener .onDisconnected]) = disconnections segment + 1 := by
  simp [disconnections]

theorem disconnections_snoc (h : mark ≠ .listener .onDisconnected) :
    disconnections (segment ++ [mark]) = disconnections segment := by
  simp [disconnections, h]

end Snoc

theorem Mark.eq_onOpen (h : mark.isOpen = true) : mark = .listener .onOpen := by
  cases mark with
  | listener call =>
    cases call with
    | onOpen => rfl
    | onFail | onDisconnected | onClose => cases h
  | scheduled interval => cases h
  | reconnected => cases h

/-- A connection has been established since the last `onDisconnected` if a socket was opened and
its segment has no loss. -/
theorem established_iff (history : List Mark) :
    established history = true ↔
      (cut history).1 ≠ [] ∧ disconnections (cut history).2 = 0 := by
  induction history using List.reverseRecOn with
  | nil => exact ⟨Bool.noConfusion, fun h => absurd rfl h.1⟩
  | append_singleton history mark ih =>
    have hstep : established (history ++ [mark]) = establishedStep (established history) mark := by
      rw [established, List.foldl_append]
      rfl
    rw [hstep]
    by_cases hopen : mark.isOpen = true
    · rw [Mark.eq_onOpen hopen, cut_onOpen]
      exact ⟨fun _ => ⟨by simp, rfl⟩, fun _ => rfl⟩
    · rw [cut_snoc (Bool.eq_false_of_not_eq_true hopen)]
      by_cases hlost : mark = .listener .onDisconnected
      · rw [hlost, disconnections_onDisconnected]
        exact ⟨Bool.noConfusion, fun h => absurd h.2 (Nat.succ_ne_zero _)⟩
      · rw [disconnections_snoc _ hlost, ← ih]
        have hsame : establishedStep (established history) mark = established history := by
          cases mark with
          | listener call =>
            cases call with
            | onOpen => exact absurd rfl hopen
            | onDisconnected => exact absurd rfl hlost
            | onFail | onClose => rfl
          | scheduled interval => rfl
          | reconnected => rfl
        rw [hsame]

namespace WebSocketTransport

variable {s : RetryStrategy} {t : WebSocketTransport}

/-! ## Losses by segments -/

/-- The first segment has no losses, and a later one has as many as it has delays. -/
def Told (t : WebSocketTransport) : Prop :=
  ∀ opened, ∀ segment ∈ part (segments t.history) opened,
    disconnections segment = if opened then (delays segment).length else 0

/-- After the first open, a failure adds a delay and a loss. -/
theorem told_step (h : Inv s t) (htold : Told t) (e : SocketEvent) : Told (t.step e) := by
  intro opened
  obtain ⟨hpast, hcurrent⟩ := (forall_part_snoc _ _ _).mp (htold opened)
  unfold segments
  rw [forall_part_snoc]
  by_cases hretries : t.Retries e
  · obtain ⟨rfl, hopen, hsocket, hcount⟩ := hretries
    obtain ⟨-, interval, hhistory⟩ | ⟨hgivesUp, -⟩ := history_step_onFailure hopen hsocket
    · rw [hhistory, cut_loss]
      refine ⟨hpast, fun ho => ?_⟩
      have hcurrent := hcurrent ho
      rw [← h.connected hopen] at ho
      rw [delays_listener, delays_scheduled]
      cases hconnected : t.mConnected with
      | false =>
        rw [hconnected] at ho
        subst ho
        rw [lossCall, hconnected, disconnections_snoc _ (by simp), disconnections_snoc _ (by simp)]
        exact hcurrent
      | true =>
        rw [hconnected] at ho
        subst ho
        rw [lossCall, hconnected, if_pos rfl, disconnections_onDisconnected,
          disconnections_snoc _ (by simp), hcurrent]
        simp
    · omega
  · rcases cut_step_of_not_retries hretries with ⟨marks, hmarks, hcut⟩ | hcut
    · have hnone : disconnections marks = 0 :=
        List.count_eq_zero.mpr fun hmem => by simpa using hmarks hmem
      rw [hcut, delays_append_of_subset hmarks, disconnections, List.count_append, ← disconnections,
        ← disconnections, hnone]
      exact ⟨hpast, hcurrent⟩
    · rw [hcut]
      exact ⟨htold opened, fun _ => (ite_self 0).symm⟩

theorem told_after (events : List SocketEvent) : Told (after step start events) := by
  have hboth := invariant (I := fun t => Inv start.mRetryStrategy t ∧ Told t)
    ⟨inv_start, fun opened => by cases opened <;> decide⟩
    (fun t e h => ⟨inv_step e h.1, told_step h.1 h.2 e⟩) events
  exact hboth.2

/-! ## Runs -/

/-- A loss is reported once per open just when no segment after an open has a second delay. -/
theorem oncePerOpen_iff (h : Told t) :
    OncePerOpen t.history ↔ ∀ segment ∈ laterSegments t.history, (delays segment).length ≤ 1 := by
  have hfirst : disconnections (firstSegment t.history) = 0 := by
    apply h false
    rw [segments_eq]
    exact List.mem_singleton_self _
  rw [OncePerOpen, and_iff_right hfirst]
  refine forall₂_congr fun segment hsegment => ?_
  rw [h true segment hsegment]
  rfl

/-- A failure without a connection that is the first of its segment is reported as it should. -/
theorem failureReported_of_retries (h : Inv s t) (htold : Told t)
    (hfirst : t.Retries .onFailure → t.mConnected = true → t.mRetryStrategy.retryCount < 1) :
    FailureReported t := by
  intro hclosed hsocket hestablished
  obtain ⟨hcount, interval, hhistory⟩ | ⟨-, hgivesUp⟩ := history_step_onFailure hclosed hsocket
  · have hoff : ¬ t.mConnected = true := by
      intro hon
      have hlt := hfirst ⟨rfl, hclosed, hsocket, hcount⟩ hon
      have hflag := h.connected hclosed
      have hretry := h.count hclosed
      have hlength := ((h.phase hclosed).of_running hsocket).2
      have hlosses := ((forall_part_snoc _ _ _).mp (htold true)).2 (hon.symm.trans hflag)
      rw [hon] at hflag
      -- the segment has no delay, so it has had no loss either
      have hzero : disconnections (cut t.history).2 = 0 := by
        rw [hlosses, if_pos rfl]
        omega
      rw [(established_iff _).mpr ⟨of_decide_eq_true hflag.symm, hzero⟩] at hestablished
      cases hestablished
    rw [lossCall, if_neg hoff] at hhistory
    exact .inl ⟨interval, hhistory⟩
  · exact .inr hgivesUp

/-- In every run, a loss is reported at most once per open and every failure without a connection
is reported as `onFail` or `onClose`, just when no socket fails twice in a row after an open: no
segment after an open has a second delay. -/
theorem listenerProtocol_iff (events : List SocketEvent) :
    OncePerOpen (after step start events).history ∧
        Each step start (fun t e => e = .onFailure → FailureReported t) events ↔
      ∀ segment ∈ laterSegments (after step start events).history,
        (delays segment).length ≤ 1 := by
  rw [oncePerOpen_iff (told_after events)]
  refine and_iff_left_of_imp fun hone => ?_
  rintro before e hbefore rfl
  refine failureReported_of_retries (inv_after before) (told_after before) ?_
  exact (delays_le_iff events 1 true).mp hone before _ hbefore

/-- The socket opens and fails, and the socket that is tried next fails before it opens: two
losses are reported for one open, and the second failure is not `onFail`. -/
theorem not_listenerProtocol_secondFailure :
    ¬ OncePerOpen
        (after step start [.runNext, .onOpen, .onFailure, .runNext, .onFailure]).history ∧
      ¬ FailureReported (after step start [.runNext, .onOpen, .onFailure, .runNext]) := by
  constructor
  · unfold OncePerOpen
    decide +kernel
  · intro h
    rcases h (by decide +kernel) (by decide +kernel) (by decide +kernel) with
      ⟨interval, hfail⟩ | ⟨hclosed, -⟩
    · have hlast := congrArg List.getLast? hfail
      rw [List.getLast?_append] at hlast
      change _ = some (Mark.listener .onFail) at hlast
      revert hlast
      decide +kernel
    · revert hclosed
      decide +kernel

end WebSocketTransport

end MediasoupDemo.Socket
