import MediasoupDemo.Lib.Interleave
import Mathlib.Algebra.Order.Ring.Int

/-!
# Timestamps across `pausePublish` and `resumePublish`

The encoder stamps a captured frame with the microseconds since `mPresentTimeUs`.
`start` sets this time base.  `pause` keeps the time of the pause in `mPausetime`, and
`resume` moves the time base forward by the time that has passed since then.

The calls of `SrsPublisher` run on one control thread.  The frames come from capture
threads: the audio thread that `startAudio` starts, and the video thread that
`enableEncoding` starts.  `pausePublish` reads the clock first and joins the capture
threads then; a second `resumePublish` starts a second pair of threads beside the first.
Every access to the clock or to the time base is a step of its own, and an `Event` lets
one thread do its next step.

* `Allowed` is what an event must keep to: a `resumePublish` follows a `pausePublish`, and
  no frame is timed between the clock reading of `pause` and the shift of the time base.
* `Timely` is the invariant, with `Phase` for what the control thread is in; the step
  lemma is `Timely.step`.

The clock counts nanoseconds and never goes back.  Timestamps are integers: where events
are allowed the time base never passes the clock (`Timely.base_le`), so no `long`
overflows.
-/

namespace MediasoupDemo.Encoder

open Interleave

/-! ## State -/

/-- The two captured streams. -/
inductive Stream where
  | audio
  | video
  deriving DecidableEq

/-- What a capture thread does next. -/
inductive CapturePc where
  /-- it is not in a callback of the encoder -/
  | idle
  /-- it has read `System.nanoTime() / 1000`, and subtracts `mPresentTimeUs` -/
  | timed (us : Int)
  /-- the thread has ended -/
  | ended
  deriving DecidableEq

structure CaptureThread where
  stream : Stream
  pc : CapturePc := .idle

/-- The steps of the control thread. -/
inductive ControlStep where
  /-- `mPausetime = System.nanoTime() / 1000` -/
  | pause
  /-- the `join` of `stopAudio` or of `disableEncoding`, if there is a thread -/
  | join (stream : Stream)
  /-- `long resumeTime = (System.nanoTime() / 1000) - mPausetime` -/
  | readResumeTime
  /-- `mPresentTimeUs = mPresentTimeUs + resumeTime` and `mPausetime = 0` -/
  | shift
  /-- `startAudio`, which starts a thread if there is a microphone -/
  | startAudio
  | enableEncoding

/-- The encoder, the control thread and the capture threads.  `worker` are the fields
`aworker` of the publisher and `worker` of the camera view, as indices of `threads`.
`pts` and `paused` are not fields of the source: `pts` lists the timestamps of each
stream, and `paused` says that `pause` was the last one of `start`, `pause` and
`resume`. -/
structure PublishThreads where
  nanoTime : Int
  mPresentTimeUs : Int
  mPausetime : Int
  resumeTime : Int := 0
  control : List ControlStep := []
  threads : List CaptureThread
  worker : Stream → Option Nat
  pts : Stream → List Int := fun _ => []
  paused : Bool := false

namespace PublishThreads

variable (s : PublishThreads)

/-- `System.nanoTime() / 1000`. -/
def micros : Int := s.nanoTime.tdiv 1000

/-- After `startEncode`: `start` has read the clock, and both threads run.  `mPausetime`
is what an earlier session has left. -/
def started (nanoTime mPausetime : Int) : PublishThreads where
  nanoTime
  mPresentTimeUs := nanoTime.tdiv 1000
  mPausetime
  threads := [{ stream := .audio }, { stream := .video }]
  worker
    | .audio => some 0
    | .video => some 1

/-! ## Steps -/

/-- Where a thread goes on. -/
def setPc (k : Nat) (pc : CapturePc) : PublishThreads :=
  { s with threads := s.threads.modify k fun thread => { thread with pc } }

/-- A new capture thread. -/
def launch (stream : Stream) : PublishThreads :=
  { s with
    threads := s.threads ++ [{ stream }]
    worker := Function.update s.worker stream (some s.threads.length) }

/-- The timestamp of a frame. -/
def stamp (s : PublishThreads) (stream : Stream) (us : Int) : PublishThreads :=
  { s with pts := Function.update s.pts stream (s.pts stream ++ [us - s.mPresentTimeUs]) }

/-- One step of the control thread, which is no longer in the list of its steps.  `mic`
is whether there is a microphone. -/
def controlStep (mic : Bool) : ControlStep → Option PublishThreads
  | .pause => some { s with mPausetime := s.micros, paused := true }
  | .join stream =>
      match s.worker stream with
      | none => some s
      | some k =>
          -- A thread ends between two callbacks.
          if (s.threads[k]?).map CaptureThread.pc = some .idle then
            some { s.setPc k .ended with worker := Function.update s.worker stream none }
          else none
  | .readResumeTime => some { s with resumeTime := s.micros - s.mPausetime }
  | .shift =>
      some
        { s with
          mPresentTimeUs := s.mPresentTimeUs + s.resumeTime, mPausetime := 0, paused := false }
  | .startAudio => some (if mic then s.launch .audio else s)
  | .enableEncoding => some (s.launch .video)

/-- One step of a capture thread in a callback. -/
def captureStep (k : Nat) (thread : CaptureThread) : Option PublishThreads :=
  match thread.pc with
  | .idle => some (s.setPc k (.timed s.micros))
  | .timed us => some ((s.setPc k .idle).stamp thread.stream us)
  | .ended => none

/-- What can happen next. -/
inductive Event where
  /-- time passes -/
  | tick (nanos : Nat)
  | pausePublish
  | resumePublish
  /-- the next step of the control thread -/
  | control (mic : Bool)
  /-- the next step of a capture thread -/
  | capture (k : Nat)

/-- The steps of `pausePublish`. -/
def pauseSteps : List ControlStep := [.pause, .join .audio, .join .video]

/-- The steps of `resumePublish`. -/
def resumeSteps : List ControlStep := [.readResumeTime, .shift, .startAudio, .enableEncoding]

/-- The control thread starts a call. -/
def call (steps : List ControlStep) : Option PublishThreads :=
  if s.control = [] then some { s with control := steps } else none

/-- One event; `none` if it cannot happen now. -/
def step : Event → Option PublishThreads
  | .tick nanos => some { s with nanoTime := s.nanoTime + nanos }
  | .pausePublish => s.call pauseSteps
  | .resumePublish => s.call resumeSteps
  | .control mic =>
      match s.control with
      | [] => none
      | c :: rest => controlStep { s with control := rest } mic c
  | .capture k =>
      match s.threads[k]? with
      | none => none
      | some thread => s.captureStep k thread

/-! ## The property -/

/-- In each stream the timestamps are not negative and never decrease. -/
def Ordered : Prop :=
  ∀ stream, (∀ t ∈ s.pts stream, 0 ≤ t) ∧ (s.pts stream).Pairwise (· ≤ ·)

/-- `resumePublish` ends a pause, and a callback does not read the clock in one. -/
def Allowed : Event → Prop
  | .resumePublish => s.paused = true
  | .capture k => (s.threads[k]?).map CaptureThread.pc = some .idle → s.paused = false
  | _ => True

instance (s : PublishThreads) : (e : Event) → Decidable (s.Allowed e)
  | .tick _ | .pausePublish | .control _ => isTrue trivial
  | .resumePublish => inferInstanceAs (Decidable (s.paused = true))
  | .capture k =>
      inferInstanceAs
        (Decidable ((s.threads[k]?).map CaptureThread.pc = some .idle → s.paused = false))

/-- Every event of a run is allowed where it happens. -/
def Quiet (s : PublishThreads) : List Event → Prop
  | [] => True
  | e :: events => s.Allowed e ∧ ∀ s' ∈ s.step e, Quiet s' events

instance decidableQuiet : (events : List Event) → (s : PublishThreads) → Decidable (s.Quiet events)
  | [], _ => isTrue trivial
  | e :: events, s =>
      haveI : DecidablePred fun s' : PublishThreads => s'.Quiet events := decidableQuiet events
      inferInstanceAs (Decidable (s.Allowed e ∧ ∀ s' ∈ s.step e, Quiet s' events))

/-! ## The invariant -/

/-- The time up to which frames may have been timed. -/
def horizon : Int := if s.paused then s.mPausetime else s.micros

/-- There are no capture threads. -/
def Still : Prop := ∀ stream, s.worker stream = none

/-- Where the control thread is, and what holds there. -/
inductive Phase (s : PublishThreads) : List ControlStep → Prop
  | between (h : s.paused = true → s.Still) : Phase s []
  | pause (h : s.paused = true → s.Still) : Phase s pauseSteps
  | joinAudio (h : s.paused = true) : Phase s [.join .audio, .join .video]
  | joinVideo (h : s.paused = true) (haudio : s.worker .audio = none) : Phase s [.join .video]
  | readResumeTime (h : s.paused = true) (hstill : s.Still) : Phase s resumeSteps
  | shift (h : s.paused = true) (hstill : s.Still)
      (hnow : s.mPausetime + s.resumeTime ≤ s.micros) :
      Phase s [.shift, .startAudio, .enableEncoding]
  | startAudio (h : s.paused = false) (hstill : s.Still) : Phase s [.startAudio, .enableEncoding]
  | enableEncoding (h : s.paused = false) (hvideo : s.worker .video = none) :
      Phase s [.enableEncoding]

/-- The invariant of the allowed runs. -/
structure Timely (s : PublishThreads) : Prop where
  base_le : s.mPresentTimeUs ≤ s.horizon
  horizon_le : s.horizon ≤ s.micros
  ordered : s.Ordered
  pts_le : ∀ stream, ∀ t ∈ s.pts stream, t + s.mPresentTimeUs ≤ s.horizon
  /-- A frame being stamped was timed after every earlier frame of its stream. -/
  timed : ∀ (k : Nat) (thread : CaptureThread) (us : Int), s.threads[k]? = some thread →
    thread.pc = .timed us → s.mPresentTimeUs ≤ us ∧ us ≤ s.horizon ∧
      ∀ t ∈ s.pts thread.stream, t + s.mPresentTimeUs ≤ us
  /-- A thread that has not ended is the one that the next `join` waits for. -/
  owned : ∀ (k : Nat) (thread : CaptureThread), s.threads[k]? = some thread →
    thread.pc ≠ .ended → s.worker thread.stream = some k
  phase : Phase s s.control

/-! ## Threads -/

section Steps

variable {s s' : PublishThreads}

variable {thread : CaptureThread} {rest : List ControlStep} {k : Nat} {stream : Stream}

theorem getElem?_setPc {i : Nat} {pc : CapturePc} (h : (s.setPc k pc).threads[i]? = some thread) :
    ∃ before, s.threads[i]? = some before ∧ thread.stream = before.stream ∧
      thread.pc = if k = i then pc else before.pc := by
  rw [setPc, List.getElem?_modify] at h
  obtain ⟨before, hbefore, rfl⟩ := Option.map_eq_some_iff.mp h
  refine ⟨before, hbefore, ?_⟩
  split <;> exact ⟨rfl, rfl⟩

theorem getElem?_launch {i : Nat} (h : (s.launch stream).threads[i]? = some thread) :
    s.threads[i]? = some thread ∨ i = s.threads.length ∧ thread = { stream } := by
  rw [launch, List.getElem?_append] at h
  split at h
  · exact .inl h
  · rename_i hlast
    rw [List.getElem?_singleton] at h
    split at h
    · cases h
      exact .inr ⟨by omega, rfl⟩
    · cases h

/-- What passes keeps the microseconds in order. -/
theorem micros_le_tick (s : PublishThreads) (nanos : Nat) :
    s.micros ≤ micros { s with nanoTime := s.nanoTime + nanos } := by
  unfold micros
  exact Int.tdiv_le_tdiv (by decide) (by dsimp only; omega)

/-! ## The steps keep the invariant -/

/-- A step that stamps no frame and times none: the horizon moves forward, and threads
start or end. -/
theorem Timely.of_frame (h : s.Timely) (hbase : s'.mPresentTimeUs = s.mPresentTimeUs)
    (hpts : s'.pts = s.pts) (hle : s.horizon ≤ s'.horizon) (hnow : s'.horizon ≤ s'.micros)
    (htimed : ∀ (k : Nat) (thread : CaptureThread) (us : Int), s'.threads[k]? = some thread →
      thread.pc = .timed us →
      ∃ before, s.threads[k]? = some before ∧ before.stream = thread.stream ∧
        before.pc = .timed us)
    (howned : ∀ (k : Nat) (thread : CaptureThread), s'.threads[k]? = some thread →
      thread.pc ≠ .ended → s'.worker thread.stream = some k)
    (hphase : Phase s' s'.control) : s'.Timely where
  base_le := by rw [hbase]; exact h.base_le.trans hle
  horizon_le := hnow
  ordered := by
    intro stream
    rw [hpts]
    exact h.ordered stream
  pts_le := by
    intro stream t ht
    rw [hpts] at ht
    rw [hbase]
    exact (h.pts_le stream t ht).trans hle
  timed := by
    intro k thread us hthread hpc
    obtain ⟨before, hbefore, hstream, hpc⟩ := htimed k thread us hthread hpc
    obtain ⟨hus, hlast, hearlier⟩ := h.timed k before us hbefore hpc
    rw [hbase, hpts, ← hstream]
    exact ⟨hus, hlast.trans hle, hearlier⟩
  owned := howned
  phase := hphase

/-- A step that leaves the threads alone. -/
theorem Timely.of_horizon (h : s.Timely) (hbase : s'.mPresentTimeUs = s.mPresentTimeUs)
    (hpts : s'.pts = s.pts) (hthreads : s'.threads = s.threads) (hworker : s'.worker = s.worker)
    (hle : s.horizon ≤ s'.horizon) (hnow : s'.horizon ≤ s'.micros) (hphase : Phase s' s'.control) :
    s'.Timely := by
  refine h.of_frame hbase hpts hle hnow ?_ ?_ hphase
  · intro k thread us hthread hpc
    rw [hthreads] at hthread
    exact ⟨thread, hthread, rfl, hpc⟩
  · intro k thread hthread hpc
    rw [hthreads] at hthread
    rw [hworker]
    exact h.owned k thread hthread hpc

/-- The clock and the capture threads do not touch what the control thread relies on. -/
theorem Phase.of_eq {control : List ControlStep} (h : Phase s control)
    (hpaused : s'.paused = s.paused) (hworker : s'.worker = s.worker)
    (hpausetime : s'.mPausetime = s.mPausetime) (hresume : s'.resumeTime = s.resumeTime)
    (hle : s.micros ≤ s'.micros) : Phase s' control := by
  have hstill : s.Still → s'.Still := by
    intro h stream
    rw [hworker, h]
  cases h with
  | between h => exact .between fun hp => hstill (h (hpaused.symm.trans hp))
  | pause h => exact .pause fun hp => hstill (h (hpaused.symm.trans hp))
  | joinAudio h => exact .joinAudio (hpaused.trans h)
  | joinVideo h haudio => exact .joinVideo (hpaused.trans h) (by rw [hworker, haudio])
  | readResumeTime h hs => exact .readResumeTime (hpaused.trans h) (hstill hs)
  | shift h hs hnow => exact .shift (hpaused.trans h) (hstill hs) (by omega)
  | startAudio h hs => exact .startAudio (hpaused.trans h) (hstill hs)
  | enableEncoding h hvideo =>
    exact .enableEncoding (hpaused.trans h) (by rw [hworker, hvideo])

theorem Timely.tick (h : s.Timely) (nanos : Nat) :
    Timely { s with nanoTime := s.nanoTime + nanos } := by
  have hmicros := micros_le_tick s nanos
  have hpaused := h.horizon_le
  refine h.of_horizon rfl rfl rfl rfl ?_ ?_ ?_
  · unfold horizon
    dsimp only
    split
    · exact Int.le_refl _
    · exact hmicros
  · unfold horizon at hpaused ⊢
    dsimp only
    split
    · rename_i hpause
      rw [if_pos hpause] at hpaused
      omega
    · exact Int.le_refl _
  · exact h.phase.of_eq rfl rfl rfl rfl hmicros

theorem call_eq {steps : List ControlStep} (h : s.call steps = some s') :
    s.control = [] ∧ s' = { s with control := steps } := by
  by_cases hnone : s.control = []
  · cases (if_pos hnone).symm.trans h
    exact ⟨hnone, rfl⟩
  · cases (if_neg hnone).symm.trans h

/-- No capture thread is in a callback. -/
theorem Timely.no_timed (h : s.Timely) (hstill : s.Still) (hthread : s.threads[k]? = some thread) :
    thread.pc = .ended := by
  by_contra hpc
  have howned := h.owned k thread hthread hpc
  rw [hstill] at howned
  cases howned

/-- A call starts: `resumePublish` only in a pause. -/
theorem Timely.call (h : s.Timely) {e : Event}
    (he : e = .pausePublish ∨ e = .resumePublish) (hallowed : s.Allowed e)
    (hstep : s.step e = some s') : s'.Timely := by
  -- No thread changes, and what holds between two calls is what the first step needs.
  have hstart (steps : List ControlStep) (hcall : s.call steps = some s')
      (hphase : (s.paused = true → s.Still) → Phase { s with control := steps } steps) :
      s'.Timely := by
    obtain ⟨hnone, rfl⟩ := call_eq hcall
    have hbetween := h.phase
    rw [hnone] at hbetween
    refine h.of_horizon rfl rfl rfl rfl (Int.le_refl _) h.horizon_le (hphase ?_)
    generalize hcontrol : ([] : List ControlStep) = control at hbetween
    cases hbetween with
    | between hstill => exact hstill
    | _ => cases hcontrol
  rcases he with rfl | rfl
  · exact hstart pauseSteps hstep fun hstill => .pause hstill
  · exact hstart resumeSteps hstep fun hstill => .readResumeTime hallowed (hstill hallowed)

/-- A capture thread has ended, or there was none. -/
theorem Timely.join (h : s.Timely) {mic : Bool}
    (hjoin : controlStep { s with control := rest } mic (.join stream) = some s')
    (hphase : s'.paused = s.paused → s'.worker = Function.update s.worker stream none →
      Phase s' rest) : s'.Timely := by
  cases hworker : s.worker stream with
  | none =>
    have hs' : s' = { s with control := rest } := by
      simp only [controlStep, hworker] at hjoin
      cases hjoin
      rfl
    subst hs'
    refine h.of_horizon rfl rfl rfl rfl (Int.le_refl _) h.horizon_le (hphase rfl ?_)
    rw [← hworker, Function.update_eq_self]
  | some k =>
    have hs' : s' = { setPc { s with control := rest } k .ended with
        worker := Function.update s.worker stream none } := by
      simp only [controlStep, hworker] at hjoin
      split at hjoin
      · cases hjoin
        rfl
      · cases hjoin
    subst hs'
    refine h.of_frame rfl rfl (Int.le_refl _) h.horizon_le ?_ ?_ (hphase rfl rfl)
    · intro i thread us hthread hpc
      obtain ⟨before, hbefore, hstream, hpc'⟩ :=
        getElem?_setPc (s := { s with control := rest }) hthread
      refine ⟨before, hbefore, hstream.symm, ?_⟩
      split at hpc'
      · rw [hpc'] at hpc
        cases hpc
      · rw [← hpc', hpc]
    · intro i thread hthread hpc
      obtain ⟨before, hbefore, hstream, hpc'⟩ :=
        getElem?_setPc (s := { s with control := rest }) hthread
      split at hpc'
      · exact absurd hpc' hpc
      · rename_i hki
        have howned := h.owned i before hbefore (by rwa [← hpc'])
        rw [← hstream] at howned
        show Function.update s.worker stream none thread.stream = some i
        rw [Function.update_of_ne, howned]
        intro hsame
        rw [hsame, hworker] at howned
        exact hki (Option.some.inj howned)

/-- A capture thread starts where there is none. -/
theorem Timely.launch (h : s.Timely) (hnone : s.worker stream = none)
    (hphase : Phase (PublishThreads.launch { s with control := rest } stream) rest) :
    (PublishThreads.launch { s with control := rest } stream).Timely := by
  refine h.of_frame rfl rfl (Int.le_refl _) h.horizon_le ?_ ?_ hphase
  · intro k thread us hthread hpc
    rcases getElem?_launch hthread with hbefore | ⟨-, rfl⟩
    · exact ⟨thread, hbefore, rfl, hpc⟩
    · cases hpc
  · intro k thread hthread hpc
    show Function.update s.worker stream (some s.threads.length) thread.stream = some k
    rcases getElem?_launch hthread with hbefore | ⟨rfl, rfl⟩
    · have howned := h.owned k thread hbefore hpc
      rw [Function.update_of_ne, howned]
      intro hsame
      rw [hsame, hnone] at howned
      cases howned
    · rw [Function.update_self]

/-- The time base moves by the length of the pause, in which no frame was timed. -/
theorem Timely.shift (h : s.Timely) (hpaused : s.paused = true) (hstill : s.Still)
    (hnow : s.mPausetime + s.resumeTime ≤ s.micros)
    (hphase : ∀ s' : PublishThreads, s'.paused = false → s'.worker = s.worker → Phase s' rest) :
    Timely { s with
      control := rest, mPresentTimeUs := s.mPresentTimeUs + s.resumeTime, mPausetime := 0
      paused := false } := by
  have hhorizon : s.horizon = s.mPausetime := if_pos hpaused
  have hbase := h.base_le
  rw [hhorizon] at hbase
  refine ⟨?_, Int.le_refl _, h.ordered, ?_, ?_, h.owned, hphase _ rfl rfl⟩
  · show s.mPresentTimeUs + s.resumeTime ≤ s.micros
    omega
  · intro stream t ht
    have hle := h.pts_le stream t ht
    rw [hhorizon] at hle
    show t + (s.mPresentTimeUs + s.resumeTime) ≤ s.micros
    omega
  · intro k thread us hthread hpc
    rw [h.no_timed hstill hthread] at hpc
    cases hpc

theorem step_control {c : ControlStep} (h : s.control = c :: rest) (mic : Bool) :
    s.step (.control mic) = controlStep { s with control := rest } mic c := by
  simp only [step, h]

theorem Timely.control (h : s.Timely) {mic : Bool} (hstep : s.step (.control mic) = some s') :
    s'.Timely := by
  have hphase := h.phase
  generalize hcontrol : s.control = control at hphase
  cases hphase with
  | between _ =>
    simp only [step, hcontrol] at hstep
    cases hstep
  | pause hstill =>
    rw [step_control hcontrol] at hstep
    cases hstep
    exact h.of_horizon rfl rfl rfl rfl h.horizon_le (Int.le_refl _) (.joinAudio rfl)
  | joinAudio hpaused =>
    rw [step_control hcontrol] at hstep
    refine h.join hstep fun hsame hworker => .joinVideo (hsame.trans hpaused) ?_
    rw [hworker, Function.update_self]
  | joinVideo hpaused haudio =>
    rw [step_control hcontrol] at hstep
    refine h.join hstep fun _ hworker => .between fun _ stream => ?_
    rw [hworker]
    cases stream with
    | audio => exact haudio
    | video => exact Function.update_self _ _ _
  | readResumeTime hpaused hstill =>
    rw [step_control hcontrol] at hstep
    cases hstep
    refine h.of_horizon rfl rfl rfl rfl (Int.le_refl _) h.horizon_le (.shift hpaused hstill ?_)
    show s.mPausetime + (s.micros - s.mPausetime) ≤ s.micros
    omega
  | shift hpaused hstill hnow =>
    rw [step_control hcontrol] at hstep
    cases hstep
    refine h.shift hpaused hstill hnow fun s' hpaused' hworker =>
      .startAudio hpaused' ?_
    intro stream
    rw [hworker, hstill]
  | startAudio hpaused hstill =>
    rw [step_control hcontrol] at hstep
    cases mic with
    | true =>
      cases hstep
      refine h.launch (hstill .audio) (.enableEncoding hpaused ?_)
      exact hstill .video
    | false =>
      cases hstep
      exact h.of_horizon rfl rfl rfl rfl (Int.le_refl _) h.horizon_le
        (.enableEncoding hpaused (hstill .video))
  | enableEncoding hpaused hvideo =>
    rw [step_control hcontrol] at hstep
    cases hstep
    refine h.launch hvideo (.between fun hpaused' => ?_)
    cases hpaused.symm.trans hpaused'

/-- A thread that runs goes on running. -/
theorem Timely.owned_setPc (h : s.Timely) (hthread : s.threads[k]? = some thread)
    (hlive : thread.pc ≠ .ended) {pc : CapturePc} (i : Nat) (other : CaptureThread)
    (hother : (s.setPc k pc).threads[i]? = some other) (hother_live : other.pc ≠ .ended) :
    s.worker other.stream = some i := by
  obtain ⟨before, hbefore, hstream, hpc⟩ := getElem?_setPc hother
  rw [hstream]
  refine h.owned i before hbefore ?_
  split at hpc
  · rename_i hki
    subst hki
    cases hthread.symm.trans hbefore
    exact hlive
  · rwa [← hpc]

theorem Timely.readClock (h : s.Timely) (hthread : s.threads[k]? = some thread)
    (hpc : thread.pc = .idle) (hpaused : s.paused = false) :
    (s.setPc k (.timed s.micros)).Timely := by
  have hhorizon : s.horizon = s.micros := by rw [horizon, hpaused, if_neg Bool.false_ne_true]
  have hlive : thread.pc ≠ .ended := by rw [hpc]; exact CapturePc.noConfusion
  refine ⟨h.base_le, h.horizon_le, h.ordered, h.pts_le, ?_, h.owned_setPc hthread hlive,
    h.phase.of_eq rfl rfl rfl rfl (Int.le_refl _)⟩
  · intro i other us hother hus
    obtain ⟨before, hbefore, hstream, hpc'⟩ := getElem?_setPc hother
    rw [hstream]
    split at hpc'
    · cases hus.symm.trans hpc'
      have hbase := h.base_le
      rw [hhorizon] at hbase
      refine ⟨hbase, Int.le_of_eq hhorizon.symm, fun t ht => ?_⟩
      rw [← hhorizon]
      exact h.pts_le _ t ht
    · exact h.timed i before us hbefore (hpc'.symm.trans hus)

theorem pts_stamp (s : PublishThreads) (stream stream' : Stream) (us : Int) :
    (s.stamp stream us).pts stream' =
      s.pts stream' ++ if stream' = stream then [us - s.mPresentTimeUs] else [] := by
  by_cases hstream : stream' = stream
  · subst hstream
    rw [if_pos rfl]
    exact Function.update_self _ _ _
  · rw [if_neg hstream, List.append_nil]
    exact Function.update_of_ne hstream _ _

/-- The new timestamp is the last one of its stream, and the others keep theirs. -/
theorem mem_pts_stamp {stream' : Stream} {us t : Int} (ht : t ∈ (s.stamp stream us).pts stream') :
    t ∈ s.pts stream' ∨ stream' = stream ∧ t = us - s.mPresentTimeUs := by
  rw [pts_stamp, List.mem_append] at ht
  rcases ht with ht | ht
  · exact .inl ht
  · split at ht
    · rename_i hstream
      exact .inr ⟨hstream, List.mem_singleton.mp ht⟩
    · cases ht

/-- A frame is stamped with the time base of the moment. -/
theorem Timely.stamp (h : s.Timely) {us : Int} (hthread : s.threads[k]? = some thread)
    (hpc : thread.pc = .timed us) :
    ((s.setPc k .idle).stamp thread.stream us).Timely := by
  obtain ⟨hbase, hus, hearlier⟩ := h.timed k thread us hthread hpc
  have hlive : thread.pc ≠ .ended := by rw [hpc]; exact CapturePc.noConfusion
  have hmem {stream : Stream} {t : Int}
      (ht : t ∈ ((s.setPc k .idle).stamp thread.stream us).pts stream) :
      t ∈ s.pts stream ∨ stream = thread.stream ∧ t = us - s.mPresentTimeUs := mem_pts_stamp ht
  refine ⟨h.base_le, h.horizon_le, fun stream => ⟨?_, ?_⟩, ?_, ?_, h.owned_setPc hthread hlive,
    h.phase.of_eq rfl rfl rfl rfl (Int.le_refl _)⟩
  · intro t ht
    rcases hmem ht with ht | ⟨-, rfl⟩
    · exact (h.ordered stream).1 t ht
    · omega
  · have hpts : ((s.setPc k .idle).stamp thread.stream us).pts stream =
        s.pts stream ++ if stream = thread.stream then [us - s.mPresentTimeUs] else [] :=
      pts_stamp _ thread.stream stream us
    rw [hpts]
    split
    · rename_i hstream
      subst hstream
      refine List.pairwise_append.mpr ⟨(h.ordered _).2, List.pairwise_singleton _ _, ?_⟩
      intro t ht t' ht'
      have hle := hearlier t ht
      rw [List.mem_singleton] at ht'
      omega
    · rw [List.append_nil]
      exact (h.ordered stream).2
  · intro stream t ht
    show t + s.mPresentTimeUs ≤ s.horizon
    rcases hmem ht with ht | ⟨-, rfl⟩
    · exact h.pts_le stream t ht
    · omega
  · intro i other us' hother hpc'
    obtain ⟨before, hbefore, hstream, hkeep⟩ := getElem?_setPc hother
    rw [hkeep] at hpc'
    split at hpc'
    · cases hpc'
    · rename_i hki
      obtain ⟨hbase', hus', hearlier'⟩ := h.timed i before us' hbefore hpc'
      refine ⟨hbase', hus', fun t ht => ?_⟩
      rw [hstream] at ht
      rcases hmem ht with ht | ⟨hsame, -⟩
      · exact hearlier' t ht
      · -- There is only one thread for each stream.
        have hfirst := h.owned k thread hthread hlive
        have hsecond := h.owned i before hbefore (by rw [hpc']; exact CapturePc.noConfusion)
        rw [hsame, hfirst] at hsecond
        exact absurd (Option.some.inj hsecond) hki

theorem step_capture_eq (h : s.step (.capture k) = some s') :
    ∃ thread, s.threads[k]? = some thread ∧ s.captureStep k thread = some s' := by
  cases hthread : s.threads[k]? with
  | none =>
    simp only [step, hthread] at h
    cases h
  | some thread =>
    simp only [step, hthread] at h
    exact ⟨thread, rfl, h⟩

theorem Timely.capture (h : s.Timely) (hallowed : s.Allowed (.capture k))
    (hstep : s.step (.capture k) = some s') : s'.Timely := by
  obtain ⟨thread, hthread, hcapture⟩ := step_capture_eq hstep
  cases hpc : thread.pc with
  | idle =>
    simp only [captureStep, hpc] at hcapture
    cases hcapture
    refine h.readClock hthread hpc (hallowed ?_)
    rw [hthread, Option.map_some, hpc]
  | timed us =>
    simp only [captureStep, hpc] at hcapture
    cases hcapture
    exact h.stamp hthread hpc
  | ended =>
    simp only [captureStep, hpc] at hcapture
    cases hcapture

theorem Timely.step (h : s.Timely) {e : Event} (hallowed : s.Allowed e)
    (hstep : s.step e = some s') : s'.Timely := by
  cases e with
  | tick nanos =>
    cases hstep
    exact h.tick nanos
  | pausePublish => exact h.call (.inl rfl) hallowed hstep
  | resumePublish => exact h.call (.inr rfl) hallowed hstep
  | control mic => exact h.control hstep
  | capture k => exact h.capture hallowed hstep

end Steps

/-! ## Whole runs -/

theorem timely_started (nanoTime mPausetime : Int) : (started nanoTime mPausetime).Timely where
  base_le := Int.le_refl _
  horizon_le := Int.le_refl _
  ordered := by
    intro stream
    exact ⟨fun t ht => (by cases ht), .nil⟩
  pts_le := by
    intro stream t ht
    cases ht
  timed := by
    intro k thread us hthread hpc
    rcases k with _ | _ | k <;> cases hthread <;> cases hpc
  owned := by
    intro k thread hthread _
    rcases k with _ | _ | k <;> cases hthread <;> rfl
  phase := .between fun hpaused => (by cases hpaused)

theorem Timely.run {s s' : PublishThreads} (h : s.Timely) {events : List Event}
    (hquiet : s.Quiet events) (hrun : run PublishThreads.step s events = some s') : s'.Timely := by
  induction events generalizing s with
  | nil =>
    cases hrun
    exact h
  | cons e events ih =>
    obtain ⟨s₁, hstep, hrest⟩ := run_cons_eq_some hrun
    exact ih (h.step hquiet.1 hstep) (hquiet.2 s₁ hstep) hrest

/-- Where every `resumePublish` ends a pause and no frame is timed between the clock
reading of `pause` and the shift of the time base, the timestamps of each stream are not
negative and never decrease. -/
theorem ordered_of_quiet {nanoTime mPausetime : Int} {events : List Event} {s : PublishThreads}
    (hquiet : (started nanoTime mPausetime).Quiet events)
    (hrun : run step (started nanoTime mPausetime) events = some s) : s.Ordered :=
  ((timely_started nanoTime mPausetime).run hquiet hrun).ordered

/-- A frame, a pause of two milliseconds, and a frame of the new audio thread. -/
def framesAroundPause : List Event :=
  [.tick 5000000, .capture 0, .capture 0, .pausePublish, .control true, .control true,
    .control true, .tick 2000000, .resumePublish, .control true, .control true, .control true,
    .control true, .tick 1000000, .capture 2, .capture 2]

theorem ordered_framesAroundPause :
    ∃ s, run step (started 0 0) framesAroundPause = some s ∧ s.pts .audio = [5000, 6000] ∧
      s.Ordered := by
  have hquiet : (started 0 0).Quiet framesAroundPause := by decide
  exact ⟨_, rfl, rfl, ordered_of_quiet hquiet rfl⟩

/-- The audio thread captures a frame after `pause` has read the clock, and before it is
joined. -/
def lateFrame : List Event :=
  [.tick 5000000, .pausePublish, .control true, .tick 1000000, .capture 0, .capture 0,
    .control true, .control true, .tick 2000000, .resumePublish, .control true, .control true,
    .control true, .control true, .capture 2, .capture 2]

/-- A resume without a pause. -/
def resumeOnly : List Event :=
  [.resumePublish, .control true, .control true, .capture 0, .capture 0]

/-- The timestamp after the pause is smaller than the one in it, and without a pause it is
negative. -/
theorem not_ordered_lateFrame :
    (∃ s, run step (started 0 0) lateFrame = some s ∧ s.pts .audio = [6000, 5000] ∧
        ¬ s.Ordered) ∧
      ∃ s, run step (started 1000000 0) resumeOnly = some s ∧ s.pts .audio = [-1000] ∧
        ¬ s.Ordered := by
  refine ⟨⟨_, rfl, rfl, fun h => ?_⟩, ⟨_, rfl, rfl, fun h => ?_⟩⟩
  · exact absurd (h .audio).2 (by decide)
  · exact absurd (h .audio).1 (by decide)

end PublishThreads

end MediasoupDemo.Encoder
