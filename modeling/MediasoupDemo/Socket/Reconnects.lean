import MediasoupDemo.Socket.WebSocketTransport

/-!
# How often the transport reconnects

The history of a transport is cut where the socket was opened.  Each segment has the delays of the
tasks that were posted, and the sockets that they opened.

`retryCount` is 1 at first, but `reset` sets it to 0.  So the delays of the first segment are those
of the strategy from 1 on, and the delays of a later segment those from 0 on (`Shaped`), and a
later segment may have one delay more.  `Inv` carries this along a run.  Only a failure of a socket
adds a delay (`forall_part_step`), which turns what the segments of a run have into what its events
find.
-/

namespace MediasoupDemo.Socket

open Trace

/-! ## Segments -/

/-- The socket was opened. -/
def Mark.isOpen : Mark → Bool
  | .listener .onOpen => true
  | _ => false

/-- One more mark, after the segments that are complete and the current one. -/
def cutStep (segments : List (List Mark) × List Mark) (mark : Mark) :
    List (List Mark) × List Mark :=
  if mark.isOpen then (segments.1 ++ [segments.2], []) else (segments.1, segments.2 ++ [mark])

/-- The complete segments of a history, and the current one. -/
def cut (history : List Mark) : List (List Mark) × List Mark := history.foldl cutStep ([], [])

/-- All segments of a history.  The first begins with the first connect, and the others with an
open. -/
def segments (history : List Mark) : List (List Mark) := (cut history).1 ++ [(cut history).2]

/-- The first of some segments, or those that begin with an open. -/
def part (segments : List (List Mark)) : (opened : Bool) → List (List Mark)
  | false => segments.head?.toList
  | true => segments.tail

/-- The segment that begins with the first connect. -/
def firstSegment (history : List Mark) : List Mark := (segments history).headD []

/-- The segments that begin with an open. -/
def laterSegments (history : List Mark) : List (List Mark) := (segments history).tail

theorem segments_eq (history : List Mark) :
    segments history = firstSegment history :: laterSegments history := by
  unfold firstSegment laterSegments segments
  cases (cut history).1 <;> rfl

/-- The last segment is the first one if there are no complete ones. -/
theorem forall_part_snoc {ok : List Mark → Prop} (past : List (List Mark)) (segment : List Mark)
    (opened : Bool) :
    (∀ other ∈ part (past ++ [segment]) opened, ok other) ↔
      (∀ other ∈ part past opened, ok other) ∧ (opened = decide (past ≠ []) → ok segment) := by
  cases past <;> cases opened <;> simp [part, or_imp, forall_and]

def delays (segment : List Mark) : List Nat :=
  segment.filterMap fun
    | .scheduled interval => some interval
    | _ => none

/-- How often a socket was opened again. -/
def attempts (segment : List Mark) : Nat := segment.count .reconnected

theorem cut_onOpen (history : List Mark) :
    cut (history ++ [.listener .onOpen]) = ((cut history).1 ++ [(cut history).2], []) := by
  unfold cut
  rw [List.foldl_append]
  rfl

theorem cut_snoc {mark : Mark} (h : mark.isOpen = false) (history : List Mark) :
    cut (history ++ [mark]) = ((cut history).1, (cut history).2 ++ [mark]) := by
  unfold cut
  rw [List.foldl_append, List.foldl_cons, List.foldl_nil, cutStep, if_neg (by simp [h])]

section Snoc

variable (segment : List Mark)

theorem delays_listener (call : ListenerCall) :
    delays (segment ++ [.listener call]) = delays segment := by
  simp [delays]

theorem delays_scheduled (interval : Nat) :
    delays (segment ++ [.scheduled interval]) = delays segment ++ [interval] := by
  simp [delays]

theorem delays_reconnected : delays (segment ++ [.reconnected]) = delays segment := by
  simp [delays]

theorem attempts_listener (call : ListenerCall) :
    attempts (segment ++ [.listener call]) = attempts segment := by
  simp [attempts]

theorem attempts_scheduled (interval : Nat) :
    attempts (segment ++ [.scheduled interval]) = attempts segment := by
  simp [attempts]

theorem attempts_reconnected :
    attempts (segment ++ [.reconnected]) = attempts segment + 1 := by
  simp [attempts]

end Snoc

/-! ## The delays of a segment -/

/-- The delays are those of the strategy from `base` on, and no socket was opened without one. -/
structure Shaped (s : RetryStrategy) (base : Nat) (segment : List Mark) : Prop where
  delays_eq : delays segment = (List.range' base (delays segment).length).map s.interval
  attempts_le : attempts segment ≤ (delays segment).length
  length_le : base + (delays segment).length ≤ s.retries + 1

namespace Shaped

variable {s : RetryStrategy} {base : Nat} {segment : List Mark}

theorem nil (h : base ≤ s.retries + 1) : Shaped s base [] := ⟨rfl, Nat.le_refl 0, h⟩

section

variable (h : Shaped s base segment)
include h

theorem of_delays {segment' : List Mark} (hdelays : delays segment' = delays segment)
    (hle : attempts segment' ≤ (delays segment).length) : Shaped s base segment' := by
  refine ⟨?_, ?_, ?_⟩
  · rw [hdelays]
    exact h.delays_eq
  · rw [hdelays]
    exact hle
  · rw [hdelays]
    exact h.length_le

/-- The listener is told something. -/
theorem listener (call : ListenerCall) :
    Shaped s base (segment ++ [.listener call]) := by
  refine h.of_delays (delays_listener segment call) ?_
  rw [attempts_listener]
  exact h.attempts_le

/-- A task is posted, with the next delay. -/
theorem scheduled (hle : base + (delays segment).length ≤ s.retries) :
    Shaped s base (segment ++ [.scheduled (s.interval (base + (delays segment).length))]) := by
  refine ⟨?_, ?_, ?_⟩
  · rw [delays_scheduled, List.length_append, List.length_singleton, List.range'_concat,
      List.map_append, ← h.delays_eq]
    simp
  · rw [delays_scheduled, attempts_scheduled, List.length_append]
    exact h.attempts_le.trans (Nat.le_add_right _ _)
  · rw [delays_scheduled, List.length_append, List.length_singleton]
    omega

/-- A task has opened a socket. -/
theorem reconnected (hlt : attempts segment < (delays segment).length) :
    Shaped s base (segment ++ [.reconnected]) := by
  refine h.of_delays (delays_reconnected segment) ?_
  rw [attempts_reconnected]
  exact hlt

/-- Of two segments with the same first delay, one has the delays of the other and more. -/
theorem delays_le {segment' : List Mark}
    (h' : Shaped s base segment') (hle : (delays segment).length ≤ (delays segment').length) :
    delays segment <+: delays segment' := by
  rw [h.delays_eq, h'.delays_eq]
  refine List.IsPrefix.map _ ?_
  rw [← Nat.add_sub_of_le hle, ← List.range'_append_1]
  exact List.prefix_append _ _

theorem head?_delays (hne : delays segment ≠ []) :
    (delays segment).head? = some (s.interval base) := by
  obtain ⟨n, hn⟩ := Nat.exists_eq_succ_of_ne_zero (List.length_eq_zero_iff.not.mpr hne)
  rw [h.delays_eq, hn]
  rfl

end

end Shaped

/-- The first delay of a segment. -/
def base (opened : Bool) : Nat := if opened then 0 else 1

variable {segment : List Mark} (events : List SocketEvent)

/-! ## Runs -/

namespace WebSocketTransport

variable {s : RetryStrategy} {t t' : WebSocketTransport}

/-- What a transport that is not closed is doing, by its socket and the task that is waiting. -/
inductive Phase (t : WebSocketTransport) (segment : List Mark) : Prop
  | beginning (hsocket : t.mOkHttpClient = .idle)
      (hqueue : ∃ due, t.mHandler = DelayQueue.empty.post due .newWebSocket)
      (hcount : (delays segment).length = attempts segment)
  | running (hsocket : t.mOkHttpClient ≠ .idle) (hqueue : t.mHandler = .empty)
      (hcount : (delays segment).length = attempts segment)
  | waiting (hsocket : t.mOkHttpClient = .idle)
      (hqueue : ∃ due, t.mHandler = DelayQueue.empty.post due .reconnect)
      (hcount : (delays segment).length = attempts segment + 1)

/-- The shape of the history, and the count of the strategy while the transport is not closed. -/
structure Inv (s : RetryStrategy) (t : WebSocketTransport) : Prop where
  strategy : ∃ n, t.mRetryStrategy = { s with retryCount := n }
  shaped : ∀ opened, ∀ segment ∈ part (segments t.history) opened, Shaped s (base opened) segment
  connected : t.mClosed = false → t.mConnected = decide ((cut t.history).1 ≠ [])
  count : t.mClosed = false →
    t.mRetryStrategy.retryCount = base t.mConnected + attempts (cut t.history).2
  phase : t.mClosed = false → Phase t (cut t.history).2

theorem Inv.past (h : Inv s t) :
    ∀ opened, ∀ segment ∈ part (cut t.history).1 opened, Shaped s (base opened) segment :=
  fun opened => ((forall_part_snoc _ _ _).mp (h.shaped opened)).1

theorem Inv.current (h : Inv s t) :
    Shaped s (base (decide ((cut t.history).1 ≠ []))) (cut t.history).2 :=
  ((forall_part_snoc _ _ _).mp (h.shaped _)).2 rfl

/-- The invariant by the segments of the history. -/
theorem Inv.of_cut {past : List (List Mark)} {n : Nat} (hcut : cut t.history = (past, segment))
    (hstrategy : t.mRetryStrategy = { s with retryCount := n })
    (hpast : ∀ opened, ∀ other ∈ part past opened, Shaped s (base opened) other)
    (hcurrent : Shaped s (base (decide (past ≠ []))) segment)
    (hopen : t.mClosed = false → t.mConnected = decide (past ≠ []) ∧
      n = base t.mConnected + attempts segment ∧ Phase t segment) : Inv s t where
  strategy := ⟨n, hstrategy⟩
  shaped opened := by
    rw [segments, hcut]
    exact (forall_part_snoc past segment opened).mpr ⟨hpast opened, fun ho => ho ▸ hcurrent⟩
  connected h := by
    rw [hcut]
    exact (hopen h).1
  count h := by
    rw [hcut, hstrategy]
    exact (hopen h).2.1
  phase h := by
    rw [hcut]
    exact (hopen h).2.2

/-- A socket that is running has no task waiting. -/
theorem Phase.of_running (h : Phase t segment) (hsocket : t.mOkHttpClient ≠ .idle) :
    t.mHandler = .empty ∧ (delays segment).length = attempts segment := by
  cases h with
  | beginning hidle => exact absurd hidle hsocket
  | running _ hqueue hcount => exact ⟨hqueue, hcount⟩
  | waiting hidle => exact absurd hidle hsocket

/-- The task that is taken is the only one. -/
theorem Phase.of_next {due : Nat} {job : Job} {rest : DelayQueue Job} (h : Phase t segment)
    (hnext : t.mHandler.next = some ((due, job), rest)) :
    rest = .empty ∧ (job = .newWebSocket → (delays segment).length = attempts segment) ∧
      (job = .reconnect → (delays segment).length = attempts segment + 1) := by
  cases h with
  | beginning _ hqueue hcount =>
    obtain ⟨time, hqueue⟩ := hqueue
    rw [hqueue] at hnext
    cases hnext
    exact ⟨rfl, fun _ => hcount, nofun⟩
  | running _ hqueue =>
    rw [hqueue] at hnext
    cases hnext
  | waiting _ hqueue hcount =>
    obtain ⟨time, hqueue⟩ := hqueue
    rw [hqueue] at hnext
    cases hnext
    exact ⟨rfl, Job.noConfusion, fun _ => hcount⟩

theorem Phase.congr (h : Phase t segment) (hsocket : t'.mOkHttpClient = t.mOkHttpClient)
    (hqueue : t'.mHandler = t.mHandler) :
    Phase t' segment := by
  cases h with
  | beginning hidle hjob hcount => exact .beginning (hsocket ▸ hidle) (hqueue ▸ hjob) hcount
  | running hbusy hempty hcount => exact .running (hsocket ▸ hbusy) (hqueue ▸ hempty) hcount
  | waiting hidle hjob hcount => exact .waiting (hsocket ▸ hidle) (hqueue ▸ hjob) hcount

/-- What a failure does to the segments. -/
theorem cut_loss (t : WebSocketTransport) (interval : Nat) :
    cut (t.history ++ [.scheduled interval, .listener t.lossCall]) =
      ((cut t.history).1,
        (cut t.history).2 ++ [.scheduled interval] ++ [.listener t.lossCall]) := by
  have hquiet : (Mark.listener t.lossCall).isOpen = false := by
    unfold lossCall
    split
    · rfl
    · rfl
  rw [List.append_cons, cut_snoc hquiet, cut_snoc (by rfl)]

/-- A failure posts a task with the next delay of the strategy. -/
theorem Inv.fails (h : Inv s t) (hopen : t.mClosed = false) (hsocket : t.mOkHttpClient ≠ .idle)
    (hcount : t.mRetryStrategy.retryCount ≤ t.mRetryStrategy.retries)
    (hhistory : t'.history = t.history ++
      [.scheduled (t.mRetryStrategy.interval t.mRetryStrategy.retryCount), .listener t.lossCall])
    (hstrategy : t'.mRetryStrategy = t.mRetryStrategy) (hsocket' : t'.mOkHttpClient = .idle)
    (hqueue : ∃ due, t'.mHandler = t.mHandler.post due .reconnect)
    (hconnected : t'.mConnected = t.mConnected) : Inv s t' := by
  obtain ⟨n, hn⟩ := h.strategy
  obtain ⟨hempty, hlength⟩ := (h.phase hopen).of_running hsocket
  have hretry := h.count hopen
  have hflag := h.connected hopen
  rw [hn] at hretry hcount hhistory
  change n = _ at hretry
  change n ≤ s.retries at hcount
  have hnext : n = base t.mConnected + (delays (cut t.history).2).length := by
    rw [hretry, hlength]
  refine .of_cut (hhistory ▸ cut_loss t _) (hstrategy.trans hn) h.past ?_
    fun _ => ⟨hconnected.trans hflag, ?_, ?_⟩
  · rw [← hflag]
    have hcurrent := h.current
    rw [← hflag] at hcurrent
    have hscheduled := (hcurrent.scheduled (hnext ▸ hcount)).listener t.lossCall
    rw [← hnext] at hscheduled
    exact hscheduled
  · rw [attempts_listener, attempts_scheduled, hconnected]
    exact hretry
  · refine .waiting hsocket' (hempty ▸ hqueue) ?_
    rw [delays_listener, delays_scheduled, attempts_listener, attempts_scheduled,
      List.length_append, hlength]
    rfl

/-- A task opens a socket. -/
theorem Inv.reconnects (h : Inv s t) (hopen : t.mClosed = false) {due : Nat} {rest : DelayQueue Job}
    (hnext : t.mHandler.next = some ((due, .reconnect), rest)) (hqueue : t'.mHandler = rest)
    (hhistory : t'.history = t.history ++ [.reconnected])
    (hstrategy : t'.mRetryStrategy = t.mRetryStrategy.retried)
    (hsocket' : t'.mOkHttpClient ≠ .idle) (hconnected : t'.mConnected = t.mConnected) :
    Inv s t' := by
  obtain ⟨n, hn⟩ := h.strategy
  obtain ⟨hrest, -, hcount⟩ := (h.phase hopen).of_next hnext
  have hcount := hcount rfl
  have hretry := h.count hopen
  rw [hn] at hretry hstrategy
  change n = _ at hretry
  refine .of_cut (n := n + 1) (hhistory ▸ cut_snoc (by rfl) _) hstrategy h.past ?_
    fun _ => ⟨hconnected.trans (h.connected hopen), ?_, ?_⟩
  · exact h.current.reconnected (by omega)
  · rw [attempts_reconnected, hconnected]
    omega
  · refine .running hsocket' (hqueue.trans hrest) ?_
    rw [delays_reconnected, attempts_reconnected, hcount]

theorem inv_of_moves {e : SocketEvent} (h : Inv s t) (hmoves : Moves e t t') : Inv s t' := by
  obtain ⟨n, hn⟩ := h.strategy
  cases hmoves with
  | closed _ hclosed hhistory hstrategy =>
    refine .of_cut (congrArg cut hhistory) (hstrategy.trans hn) h.past h.current fun hopen => ?_
    exact absurd (hclosed.symm.trans hopen) Bool.noConfusion
  | stays hclosed hhistory hstrategy hsocket hqueue hconnected =>
    refine .of_cut (congrArg cut hhistory) (hstrategy.trans hn) h.past h.current fun hopen => ?_
    rw [hclosed] at hopen
    have hretry := h.count hopen
    rw [hn] at hretry
    rw [hconnected]
    exact ⟨h.connected hopen, hretry, (h.phase hopen).congr hsocket hqueue⟩
  | closes _ hclosed hhistory hstrategy =>
    obtain ⟨k, hk⟩ := hstrategy
    rw [hn] at hk
    rcases hhistory with hhistory | hhistory
    · refine .of_cut (congrArg cut hhistory) hk h.past h.current fun hopen => ?_
      exact absurd (hclosed.symm.trans hopen) Bool.noConfusion
    · refine .of_cut (hhistory ▸ cut_snoc (by rfl) _) hk h.past (h.current.listener _)
        fun hopen => ?_
      exact absurd (hclosed.symm.trans hopen) Bool.noConfusion
  | opens hopen hsocket hclosed hhistory hstrategy hsocket' hqueue hconnected =>
    -- a new segment begins, with a count of 0
    have hlater : decide (segments t.history ≠ []) = true := by simp [segments]
    rw [hn] at hstrategy
    refine .of_cut (hhistory ▸ cut_onOpen _) hstrategy h.shaped ?_ fun _ => ?_
    · rw [hlater]
      exact .nil (Nat.zero_le _)
    · rw [hlater, hconnected]
      exact ⟨rfl, rfl, .running hsocket' (hqueue.trans ((h.phase hopen).of_running hsocket).1) rfl⟩
  | fails _ hopen hsocket hcount _ hhistory hstrategy hsocket' hqueue hconnected =>
    exact h.fails hopen hsocket hcount hhistory hstrategy hsocket' hqueue hconnected
  | connects hopen hnext _ hhistory hstrategy hsocket' hconnected =>
    obtain ⟨due, rest, hnext, hqueue⟩ := hnext
    obtain ⟨hrest, hcount, -⟩ := (h.phase hopen).of_next hnext
    have hretry := h.count hopen
    rw [hn] at hretry
    refine .of_cut (congrArg cut hhistory) (hstrategy.trans hn) h.past h.current fun _ => ?_
    rw [hconnected]
    exact ⟨h.connected hopen, hretry, .running hsocket' (hqueue.trans hrest) (hcount rfl)⟩
  | reconnects hopen hnext _ hhistory hstrategy hsocket' hconnected =>
    obtain ⟨due, rest, hnext, hqueue⟩ := hnext
    exact h.reconnects hopen hnext hqueue hhistory hstrategy hsocket' hconnected

theorem inv_start : Inv start.mRetryStrategy start :=
  .of_cut (n := 1) rfl rfl (fun opened => by cases opened <;> exact List.forall_mem_nil _)
    (.nil (by decide)) fun _ => ⟨rfl, rfl, .beginning rfl ⟨0, rfl⟩ rfl⟩

theorem inv_step (e : SocketEvent) (h : Inv s t) : Inv s (t.step e) :=
  inv_of_moves h (moves_step t e)

theorem inv_after :
    Inv start.mRetryStrategy (after step start events) :=
  invariant (I := Inv start.mRetryStrategy) inv_start (fun _ e => inv_step e) events

/-! ## The events that add a delay -/

/-- The running socket fails, and the strategy allows another attempt. -/
def Retries (t : WebSocketTransport) (e : SocketEvent) : Prop :=
  e = .onFailure ∧ t.mClosed = false ∧ t.mOkHttpClient ≠ .idle ∧
    t.mRetryStrategy.retryCount ≤ t.mRetryStrategy.retries

/-- An event that adds no delay adds one of two marks at most, or it begins a segment. -/
theorem cut_step_of_not_retries {e : SocketEvent} (h : ¬ t.Retries e) :
    (∃ marks ⊆ [.listener .onClose, .reconnected],
        cut (t.step e).history = ((cut t.history).1, (cut t.history).2 ++ marks)) ∨
      cut (t.step e).history = ((cut t.history).1 ++ [(cut t.history).2], []) := by
  have hsame (hhistory : (t.step e).history = t.history) :
      cut (t.step e).history = ((cut t.history).1, (cut t.history).2 ++ []) := by
    rw [hhistory, List.append_nil]
  cases moves_step t e with
  | closed _ _ hhistory | stays _ hhistory | connects _ _ _ hhistory =>
    exact .inl ⟨[], List.nil_subset _, hsame hhistory⟩
  | closes _ _ hhistory =>
    rcases hhistory with hhistory | hhistory
    · exact .inl ⟨[], List.nil_subset _, hsame hhistory⟩
    · exact .inl ⟨[.listener .onClose], by simp, hhistory ▸ cut_snoc (by rfl) _⟩
  | opens _ _ _ hhistory => exact .inr (hhistory ▸ cut_onOpen _)
  | fails he hopen hsocket hcount => exact absurd ⟨he, hopen, hsocket, hcount⟩ h
  | reconnects _ _ _ hhistory =>
    exact .inl ⟨[.reconnected], by simp, hhistory ▸ cut_snoc (by rfl) _⟩

theorem delays_append_of_subset {marks : List Mark}
    (h : marks ⊆ [.listener .onClose, .reconnected]) (segment : List Mark) :
    delays (segment ++ marks) = delays segment := by
  have hnone : delays marks = [] := by
    refine List.filterMap_eq_nil_iff.mpr fun mark hmark => ?_
    rcases List.mem_pair.mp (h hmark) with rfl | rfl <;> rfl
  rw [delays, List.filterMap_append, ← delays, ← delays, hnone, List.append_nil]

/-- Segments that are not longer than a bound stay so just when no failure adds a delay to one that
has reached it. -/
theorem delays_le_step (h : Inv s t) (n : Nat) (opened : Bool) (e : SocketEvent) :
    (∀ segment ∈ part (segments (t.step e).history) opened, (delays segment).length ≤ n) ↔
      (∀ segment ∈ part (segments t.history) opened, (delays segment).length ≤ n) ∧
        (t.Retries e → t.mConnected = opened →
          t.mRetryStrategy.retryCount < base opened + n) := by
  unfold segments
  rw [forall_part_snoc]
  by_cases hretries : t.Retries e
  · obtain ⟨rfl, hopen, hsocket, hcount⟩ := hretries
    have hlength := ((h.phase hopen).of_running hsocket).2
    have hretry := h.count hopen
    obtain ⟨-, interval, hhistory⟩ | ⟨hgivesUp, -⟩ := history_step_onFailure hopen hsocket
    · rw [hhistory, cut_loss, forall_part_snoc, ← h.connected hopen, delays_listener,
        delays_scheduled, List.length_append, List.length_singleton, and_assoc]
      refine and_congr_right fun _ => ?_
      constructor
      · intro hle
        refine ⟨fun ho => ?_, fun _ ho => ?_⟩
        · have := hle ho
          omega
        · have := hle ho.symm
          rw [← ho]
          omega
      · rintro ⟨-, hlt⟩ rfl
        have := hlt ⟨rfl, hopen, hsocket, hcount⟩ rfl
        omega
    · omega
  · rw [and_iff_left fun hr => absurd hr hretries]
    rcases cut_step_of_not_retries hretries with ⟨marks, hmarks, hcut⟩ | hcut
    · rw [hcut, forall_part_snoc, delays_append_of_subset hmarks]
    · rw [hcut, forall_part_snoc]
      exact and_iff_left fun _ => Nat.zero_le _

theorem delays_le_iff (n : Nat) (opened : Bool) :
    (∀ segment ∈ part (segments (after step start events).history) opened,
        (delays segment).length ≤ n) ↔
      Each step start (fun t e => t.Retries e → t.mConnected = opened →
        t.mRetryStrategy.retryCount < base opened + n) events := by
  refine after_iff_each
    (P := fun t => ∀ segment ∈ part (segments t.history) opened, (delays segment).length ≤ n)
    inv_start (fun _ e => inv_step e) ?_ (fun _ e h => delays_le_step h n opened e) events
  cases opened with
  | false => exact List.forall_mem_singleton.mpr (Nat.zero_le n)
  | true => exact List.forall_mem_nil _

end WebSocketTransport

/-- No segment has more attempts than the strategy allows. -/
def WithinRetries (s : RetryStrategy) (history : List Mark) : Prop :=
  ∀ segment ∈ segments history, attempts segment ≤ s.retries

/-- The delays of any two segments are the same, as far as both have them. -/
def SameDelays (history : List Mark) : Prop :=
  ∀ segment ∈ segments history, ∀ segment' ∈ segments history,
    delays segment <+: delays segment' ∨ delays segment' <+: delays segment

theorem mem_iff_part {segments : List (List Mark)} :
    segment ∈ segments ↔ ∃ opened, segment ∈ part segments opened := by
  cases segments <;> simp [part]

namespace WebSocketTransport

/-- Before the first open and after it, the delays begin with different ones. -/
theorem sameDelays_iff :
    SameDelays (after step start events).history ↔
      ∃ opened, ∀ segment ∈ part (segments (after step start events).history) opened,
        (delays segment).length ≤ 0 := by
  have hshaped := (inv_after events).shaped
  unfold SameDelays
  generalize segments (after step start events).history = all at *
  constructor
  · intro hsame
    by_contra hboth
    push Not at hboth
    obtain ⟨first, hfirst, hne⟩ := hboth false
    obtain ⟨later, hlater, hne'⟩ := hboth true
    have hne := List.length_pos_iff.mp hne
    have hne' := List.length_pos_iff.mp hne'
    -- the first delays are 2000 and 1000
    have hdiffer : (delays first).head? ≠ (delays later).head? := by
      rw [(hshaped _ _ hfirst).head?_delays hne, (hshaped _ _ hlater).head?_delays hne']
      decide
    rcases hsame first (mem_iff_part.mpr ⟨_, hfirst⟩) later (mem_iff_part.mpr ⟨_, hlater⟩) with
      ⟨rest, hrest⟩ | ⟨rest, hrest⟩
    · exact hdiffer (by rw [← hrest, List.head?_append_of_ne_nil _ hne])
    · exact hdiffer (by rw [← hrest, List.head?_append_of_ne_nil _ hne'])
  · rintro ⟨opened, hquiet⟩ segment hsegment segment' hsegment'
    obtain ⟨o, hpart⟩ := mem_iff_part.mp hsegment
    obtain ⟨o', hpart'⟩ := mem_iff_part.mp hsegment'
    by_cases ho : o = opened
    · rw [List.length_eq_zero_iff.mp (Nat.le_zero.mp (hquiet segment (ho ▸ hpart)))]
      exact .inl List.nil_prefix
    by_cases ho' : o' = opened
    · rw [List.length_eq_zero_iff.mp (Nat.le_zero.mp (hquiet segment' (ho' ▸ hpart')))]
      exact .inr List.nil_prefix
    have hsame : o' = o := by rw [Bool.eq_not.mpr ho, Bool.eq_not.mpr ho']
    subst hsame
    have hshape := hshaped o' segment hpart
    have hshape' := hshaped o' segment' hpart'
    rcases Nat.le_total (delays segment).length (delays segment').length with hle | hle
    · exact .inl (hshape.delays_le hshape' hle)
    · exact .inr (hshape'.delays_le hshape hle)

theorem withinRetries_of_delays_le
    (h : ∀ segment ∈ part (segments (after step start events).history) true,
      (delays segment).length ≤ 10) :
    WithinRetries start.mRetryStrategy (after step start events).history := by
  intro segment hsegment
  obtain ⟨opened, hpart⟩ := mem_iff_part.mp hsegment
  have hshape := (inv_after events).shaped opened segment hpart
  have hle := hshape.attempts_le
  have hlength : base opened + (delays segment).length ≤ 10 + 1 := hshape.length_le
  show _ ≤ 10
  cases opened with
  | false =>
    change 1 + _ ≤ _ at hlength
    omega
  | true => exact hle.trans (h segment hpart)

/-- When a socket fails, another attempt is posted as long as fewer than the configured number were
made since the last open or the first connect.  Otherwise the transport gives up and reports that
it is closed. -/
def GivesUp (t : WebSocketTransport) (e : SocketEvent) : Prop :=
  e = .onFailure → t.mClosed = false → t.mOkHttpClient ≠ .idle →
    if attempts (cut t.history).2 < t.mRetryStrategy.retries then
      ∃ interval call,
        (t.step e).history = t.history ++ [.scheduled interval, .listener call]
    else
      (t.step e).mClosed = true ∧ (t.step e).history = t.history ++ [.listener .onClose]

theorem givesUp_iff {e : SocketEvent} (h : Inv s t) :
    t.GivesUp e ↔
      (t.Retries e → t.mConnected = true →
        t.mRetryStrategy.retryCount < t.mRetryStrategy.retries) := by
  constructor
  · rintro hgivesUp ⟨rfl, hopen, hsocket, hcount⟩ hconnected
    have hretry := h.count hopen
    rw [hconnected] at hretry
    change _ = 0 + _ at hretry
    have hends := hgivesUp rfl hopen hsocket
    by_contra hlast
    rw [if_neg (by omega)] at hends
    obtain ⟨-, interval, hhistory⟩ | ⟨hno, -⟩ := history_step_onFailure hopen hsocket
    · cases List.append_cancel_left (hhistory.symm.trans hends.2)
    · omega
  · rintro hretries rfl hopen hsocket
    have hretry := h.count hopen
    have hbase : base t.mConnected ≤ 1 ∧ (t.mConnected = false → base t.mConnected = 1) := by
      cases t.mConnected <;> decide
    obtain ⟨hcount, interval, hhistory⟩ | ⟨hcount, hends⟩ := history_step_onFailure hopen hsocket
    · have hfew : attempts (cut t.history).2 < t.mRetryStrategy.retries := by
        cases hconnected : t.mConnected with
        | false =>
          have := hbase.2 hconnected
          omega
        | true =>
          have := hretries ⟨rfl, hopen, hsocket, hcount⟩ hconnected
          omega
      rw [if_pos hfew]
      exact ⟨interval, _, hhistory⟩
    · rw [if_neg (by omega)]
      exact hends

/-- In every run, each segment stays within the retries, the transport gives up when they are used
up, and all segments have the same delays, just when after an open no socket fails with ten
attempts behind it, and sockets fail only before the first open or only after it. -/
theorem reconnects_iff (events : List SocketEvent) :
    WithinRetries start.mRetryStrategy (after step start events).history ∧
        Each step start GivesUp events ∧ SameDelays (after step start events).history ↔
      Each step start (fun t e => t.Retries e → t.mConnected = true →
          t.mRetryStrategy.retryCount < t.mRetryStrategy.retries) events ∧
        ∃ opened, Each step start (fun t e => t.Retries e → t.mConnected ≠ opened) events := by
  have hgivesUp : Each step start GivesUp events ↔ Each step start (fun t e => t.Retries e →
      t.mConnected = true → t.mRetryStrategy.retryCount < t.mRetryStrategy.retries) events :=
    forall₃_congr fun before _ _ => givesUp_iff (inv_after before)
  have hquiet (opened : Bool) : Each step start (fun t e => t.Retries e → t.mConnected = opened →
      t.mRetryStrategy.retryCount < base opened + 0) events ↔
        Each step start (fun t e => t.Retries e → t.mConnected ≠ opened) events := by
    refine forall₃_congr fun before _ _ => forall_congr' fun hretries => forall_congr' fun ho => ?_
    have hretry := (inv_after before).count hretries.2.1
    rw [ho] at hretry
    exact iff_false_intro (by omega)
  rw [hgivesUp, sameDelays_iff]
  simp only [delays_le_iff, hquiet]
  refine ⟨And.right, fun h => ⟨withinRetries_of_delays_le events ?_, h⟩⟩
  rw [delays_le_iff]
  intro before e hbefore hretries hconnected
  have hlt := h.1 before e hbefore hretries hconnected
  obtain ⟨n, hn⟩ := (inv_after before).strategy
  rw [hn] at hlt ⊢
  show n < 0 + 10
  rw [Nat.zero_add]
  exact hlt

/-- A first attempt after 2000 ms, and one after 1000 ms once the socket was open; and eleven
attempts after an open. -/
theorem not_reconnects_afterOpen :
    ¬ SameDelays
        (after step start [.runNext, .onFailure, .runNext, .onOpen, .onFailure]).history ∧
      ¬ WithinRetries start.mRetryStrategy
        (after step start ([.runNext, .onOpen] ++
          (List.replicate 11 [.onFailure, .runNext]).flatten)).history := by
  constructor
  · intro h
    have hprefix := h [.scheduled 2000, .listener .onFail, .reconnected] (by decide +kernel)
      [.scheduled 1000, .listener .onDisconnected] (by decide +kernel)
    revert hprefix
    decide +kernel
  · unfold WithinRetries
    decide +kernel

end WebSocketTransport

end MediasoupDemo.Socket
