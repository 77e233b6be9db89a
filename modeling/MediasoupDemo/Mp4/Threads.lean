import MediasoupDemo.Lib.Interleave
import MediasoupDemo.Mp4.Reachable
import Mathlib.Logic.Function.Basic

/-!
# The threads of a recording

`SrsMp4Muxer` is used by four threads.  The control thread calls `record`, `pause`,
`resume` and `stop`.  The worker that `record` starts writes the file.  The video and
the audio encoder call `writeFrameByte`.  They share three volatile flags and a
`ConcurrentLinkedQueue`, without a lock.

Every access to a flag or to the queue is a step of its own.  The control thread has a
list of the steps that it has left, the other threads have a program counter, and an
`Event` lets one thread do its next step.  A run is any sequence of events.

`frameCache.clear()` is a loop of `poll()`, as in `AbstractQueue`.  `record` is called
when there is no worker, and the calls of the control thread do not overlap.  The
threads are not interrupted.

Recordings are numbered by `record`.  A frame carries the number of the recording in
which `writeFrameByte` found `bRecording` set.  `video` and `given` are not fields of
the source: they list what became of the video frames, and the frames that were given to
`writeSampleData` in each recording, which drops those without a track.

Calls that nothing interrupts do to the flags and to the queue what the methods of
`SrsMp4Muxer` do.
-/

namespace MediasoupDemo.Mp4

open MediasoupDemo.Runtime

/-! ## State -/

/-- A frame, and the recording that accepted it. -/
structure Queued where
  frame : SrsEsFrame
  recording : Nat
  deriving DecidableEq

/-- The steps of the control thread. -/
inductive ControlStep where
  /-- `if (bRecording)` of `pause` -/
  | testPause
  /-- `bPaused = true` -/
  | setPaused
  /-- `if (bRecording)` of `resume` -/
  | testResume
  /-- `bRecording = false` -/
  | clearRecording
  /-- `bPaused = false` -/
  | clearPaused
  /-- `needToFindKeyFrame = true` -/
  | armGate
  /-- `frameCache.clear()`, one `poll()` at a time -/
  | clear
  /-- `worker.join()`, `worker = null` and `finishMovie()`, if there is a worker -/
  | join
  deriving DecidableEq

/-- What the worker does next. -/
inductive WorkerPc where
  /-- there is no worker -/
  | none
  /-- `bRecording = true` -/
  | start
  /-- `while (bRecording)` -/
  | loop
  /-- `while (!frameCache.isEmpty())` -/
  | test
  /-- `frameCache.poll()` -/
  | take
  /-- `writeSampleData(frame.bb, frame.bi, frame.is_audio())` -/
  | write (q : Queued)
  /-- `writeLock.wait(500)` -/
  | wait
  /-- the thread has ended -/
  | done
  deriving DecidableEq

/-- What an encoder thread does next. -/
inductive EncoderPc where
  /-- it is not in `writeFrameByte` -/
  | idle
  /-- the test of `bPaused` -/
  | testPaused (q : Queued)
  /-- the test of `needToFindKeyFrame` -/
  | testGate (q : Queued)
  /-- `needToFindKeyFrame = false` -/
  | openGate (q : Queued)
  /-- `frameCache.add(frame)`; `early` if the gate was tested before a `resume` or
  `stop` had closed it -/
  | add (q : Queued) (early : Bool)
  deriving DecidableEq

/-- The frame that an encoder has in its hands. -/
def EncoderPc.frame? : EncoderPc → Option Queued
  | .idle => none
  | .testPaused q | .testGate q | .openGate q | .add q _ => some q

/-- What becomes of a video frame, and the end of a recording. -/
inductive VideoEntry where
  /-- `bPaused` was set -/
  | discarded (frame : SrsEsFrame)
  | queued (frame : SrsEsFrame) (early : Bool)
  /-- `stop` has cleared `bRecording` -/
  | stopped

/-- The shared fields of the muxer, and its threads. -/
structure RecordThreads where
  bRecording : Bool := false
  bPaused : Bool := false
  needToFindKeyFrame : Bool := true
  frameCache : List Queued := []
  recording : Nat := 0
  control : List ControlStep := []
  worker : WorkerPc := .none
  encoder : TrackIndex → EncoderPc := fun _ => .idle
  video : List VideoEntry := []
  given : List (Nat × Queued) := []

def videoFrame (isKeyFrame : Bool) : SrsEsFrame :=
  ⟨.wrap [0, 0, 0, 1, if isKeyFrame then 0x65 else 0x61], ⟨0, 5, 0, 0⟩, .VIDEO_TRACK, isKeyFrame⟩

/-! ## Steps -/

namespace RecordThreads

/-- One step of the control thread, which is no longer in the list of its steps. -/
def controlStep (s : RecordThreads) : ControlStep → Option RecordThreads
  | .testPause => some (if s.bRecording then { s with control := .setPaused :: s.control } else s)
  | .setPaused => some { s with bPaused := true }
  | .testResume =>
      some
        (if s.bRecording then { s with control := .clearPaused :: .armGate :: s.control } else s)
  | .clearRecording => some { s with bRecording := false, video := s.video ++ [.stopped] }
  | .clearPaused => some { s with bPaused := false }
  | .armGate => some { s with needToFindKeyFrame := true }
  | .clear =>
      match s.frameCache with
      | [] => some s
      | _ :: rest => some { s with frameCache := rest, control := .clear :: s.control }
  | .join => if s.worker = .none ∨ s.worker = .done then some { s with worker := .none } else none

/-- One step of the worker.  `outcome` is whether `writeSampleData` returns. -/
def workerStep (s : RecordThreads) (outcome : Bool) : WorkerPc → Option RecordThreads
  | .none => none
  | .start => some { s with bRecording := true, worker := .loop }
  | .loop => some { s with worker := if s.bRecording then .test else .done }
  | .test => some { s with worker := if s.frameCache.isEmpty then .wait else .take }
  | .take =>
      match s.frameCache with
      | [] =>
          -- `stop` has cleared the queue since the test, and `frame` is `null`.
          some { s with worker := .done }
      | q :: rest => some { s with frameCache := rest, worker := .write q }
  | .write q =>
      some
        { s with
          given := s.given ++ [(s.recording, q)]
          worker := if outcome then .test else .done }
  | .wait => some { s with worker := .loop }
  | .done => none

/-- Where an encoder goes on. -/
def setEncoder (s : RecordThreads) (track : TrackIndex) (pc : EncoderPc) : RecordThreads :=
  { s with encoder := Function.update s.encoder track pc }

/-- An entry for a frame of the video encoder. -/
def note (s : RecordThreads) (track : TrackIndex) (entry : VideoEntry) : RecordThreads :=
  { s with video := s.video ++ if track = .VIDEO_TRACK then [entry] else [] }

/-- One step of an encoder in `writeFrameByte`. -/
def encoderStep (s : RecordThreads) (track : TrackIndex) : EncoderPc → Option RecordThreads
  | .idle => none
  | .testPaused q =>
      some
        (if s.bPaused then (s.setEncoder track .idle).note track (.discarded q.frame)
        else s.setEncoder track (.testGate q))
  | .testGate q =>
      some
        (s.setEncoder track
          (if s.needToFindKeyFrame then if q.frame.isKeyFrame then .openGate q else .idle
          else .add q (.armGate ∈ s.control)))
  | .openGate q => some { s.setEncoder track (.add q false) with needToFindKeyFrame := false }
  | .add q early =>
      some
        ({ s.setEncoder track .idle with frameCache := s.frameCache ++ [q] }.note track
          (.queued q.frame early))

/-- What can happen next. -/
inductive Event where
  /-- `record(outputFile)` with a format -/
  | record
  | pause
  | resume
  | stop
  /-- the next step of the control thread -/
  | control
  /-- the next step of the worker -/
  | worker (outcome : Bool)
  /-- an encoder calls `writeFrameByte`, and tests `bRecording` -/
  | encode (frame : SrsEsFrame)
  /-- the next step of an encoder -/
  | encoder (track : TrackIndex)

def call (s : RecordThreads) (steps : List ControlStep) : Option RecordThreads :=
  if s.control = [] then some { s with control := steps } else none

def stopSteps : List ControlStep := [.clearRecording, .clearPaused, .armGate, .clear, .join]

/-- One event; `none` if it cannot happen now.  An audio frame is never a key frame. -/
def step (s : RecordThreads) : Event → Option RecordThreads
  | .record =>
      if s.control = [] ∧ s.worker = .none then
        some { s with recording := s.recording + 1, worker := .start }
      else none
  | .pause => s.call [.testPause]
  | .resume => s.call [.testResume]
  | .stop => s.call stopSteps
  | .control =>
      match s.control with
      | [] => none
      | c :: rest => controlStep { s with control := rest } c
  | .worker outcome => s.workerStep outcome s.worker
  | .encode frame =>
      if s.encoder frame.track = .idle ∧ (frame.isAudio && frame.isKeyFrame) = false then
        some
          (if s.bRecording then
            s.setEncoder frame.track (.testPaused { frame, recording := s.recording })
          else s)
      else none
  | .encoder track => s.encoderStep track (s.encoder track)

@[simp] theorem setEncoder_encoder_self (s : RecordThreads) (track : TrackIndex) (pc : EncoderPc) :
    (s.setEncoder track pc).encoder track = pc :=
  Function.update_self _ _ _

variable {s : RecordThreads} {rest : List Queued} {q : Queued}

theorem controlStep_clear_nil (h : s.frameCache = []) :
    s.controlStep .clear = some s := by
  simp only [controlStep, h]

theorem controlStep_clear_cons (h : s.frameCache = q :: rest) :
    s.controlStep .clear = some { s with frameCache := rest, control := .clear :: s.control } := by
  simp only [controlStep, h]

variable {s' : RecordThreads}

theorem controlStep_join_eq (h : s.controlStep .join = some s') :
    (s.worker = .none ∨ s.worker = .done) ∧ s' = { s with worker := .none } := by
  by_cases hended : s.worker = .none ∨ s.worker = .done
  · cases (if_pos hended).symm.trans h
    exact ⟨hended, rfl⟩
  · cases (if_neg hended).symm.trans h

theorem workerStep_take_nil (h : s.frameCache = []) (outcome : Bool) :
    s.workerStep outcome .take = some { s with worker := .done } := by
  simp only [workerStep, h]

theorem workerStep_take_cons (h : s.frameCache = q :: rest) (outcome : Bool) :
    s.workerStep outcome .take = some { s with frameCache := rest, worker := .write q } := by
  simp only [workerStep, h]

/-- The control thread leaves the encoders alone, and never opens the gate. -/
theorem controlStep_gate {c : ControlStep} (h : s.controlStep c = some s') :
    s'.encoder = s.encoder ∧ (s.needToFindKeyFrame = true → s'.needToFindKeyFrame = true) := by
  cases c with
  | testPause | testResume =>
    cases h
    split <;> exact ⟨rfl, id⟩
  | setPaused | clearRecording | clearPaused =>
    cases h
    exact ⟨rfl, id⟩
  | armGate =>
    cases h
    exact ⟨rfl, fun _ => rfl⟩
  | clear =>
    cases hcache : s.frameCache with
    | nil =>
      cases (controlStep_clear_nil hcache).symm.trans h
      exact ⟨rfl, id⟩
    | cons q rest =>
      cases (controlStep_clear_cons hcache).symm.trans h
      exact ⟨rfl, id⟩
  | join =>
    obtain ⟨-, rfl⟩ := controlStep_join_eq h
    exact ⟨rfl, id⟩

/-- The worker changes nothing else. -/
theorem workerStep_eq {outcome : Bool} {pc : WorkerPc} (h : s.workerStep outcome pc = some s') :
    ∃ bRecording frameCache worker given,
      s' = { s with bRecording, frameCache, worker, given } := by
  cases pc with
  | none | done => cases h
  | start | loop | test | write q | wait =>
    cases h
    exact ⟨_, _, _, _, rfl⟩
  | take =>
    cases hcache : s.frameCache with
    | nil =>
      cases (workerStep_take_nil hcache outcome).symm.trans h
      exact ⟨_, _, _, _, rfl⟩
    | cons q rest =>
      cases (workerStep_take_cons hcache outcome).symm.trans h
      exact ⟨_, _, _, _, rfl⟩

/-- The start of `writeFrameByte`. -/
theorem step_encode {frame : SrsEsFrame} (hidle : s.encoder frame.track = .idle)
    (hkey : (frame.isAudio && frame.isKeyFrame) = false) :
    step s (.encode frame) =
      some
        (if s.bRecording then s.setEncoder frame.track (.testPaused ⟨frame, s.recording⟩)
        else s) :=
  if_pos ⟨hidle, hkey⟩

theorem step_encode_eq {frame : SrsEsFrame} (h : step s (.encode frame) = some s') :
    s.encoder frame.track = .idle ∧ (frame.isAudio && frame.isKeyFrame) = false ∧
      s' = if s.bRecording then s.setEncoder frame.track (.testPaused ⟨frame, s.recording⟩)
        else s := by
  by_cases hcan : s.encoder frame.track = .idle ∧ (frame.isAudio && frame.isKeyFrame) = false
  · cases (step_encode hcan.1 hcan.2).symm.trans h
    exact ⟨hcan.1, hcan.2, rfl⟩
  · cases (if_neg hcan).symm.trans h

theorem step_control_eq (h : step s .control = some s') :
    ∃ c rest, s.control = c :: rest ∧ controlStep { s with control := rest } c = some s' := by
  unfold step at h
  cases hcontrol : s.control with
  | nil =>
    rw [hcontrol] at h
    cases h
  | cons c rest =>
    rw [hcontrol] at h
    exact ⟨c, rest, rfl, h⟩

theorem call_of_nil (hcontrol : s.control = []) (steps : List ControlStep) :
    s.call steps = some { s with control := steps } :=
  if_pos hcontrol

theorem call_eq {steps : List ControlStep} (h : s.call steps = some s') :
    s.control = [] ∧ s' = { s with control := steps } := by
  by_cases hcontrol : s.control = []
  · cases (call_of_nil hcontrol steps).symm.trans h
    exact ⟨hcontrol, rfl⟩
  · cases (if_neg hcontrol).symm.trans h

theorem step_record_eq (h : step s .record = some s') :
    (s.control = [] ∧ s.worker = .none) ∧
      s' = { s with recording := s.recording + 1, worker := .start } := by
  by_cases hcan : s.control = [] ∧ s.worker = .none
  · cases (if_pos hcan).symm.trans h
    exact ⟨hcan, rfl⟩
  · cases (if_neg hcan).symm.trans h

/-! ## Calls that nothing interrupts -/

section Atomic

open SrsMp4Muxer Method Interleave

/-- The shared fields are those of the muxer. -/
structure Agrees (m : SrsMp4Muxer) (s : RecordThreads) : Prop where
  bRecording : m.bRecording = s.bRecording
  bPaused : m.bPaused = s.bPaused
  needToFindKeyFrame : m.needToFindKeyFrame = s.needToFindKeyFrame
  frameCache : m.frameCache = s.frameCache.map Queued.frame

/-- The methods that write the file leave the shared fields alone. -/
theorem fileStable_agrees (s : RecordThreads) : FileStable (Agrees · s) where
  file := fun _ _ _ _ _ _ _ h => ⟨h.1, h.2, h.3, h.4⟩
  grow := fun _ _ h => ⟨h.1, h.2, h.3, h.4⟩
  addSample := fun _ _ _ _ _ h => ⟨h.1, h.2, h.3, h.4⟩
  empty := fun _ h => ⟨h.1, h.2, h.3, h.4⟩

/-- No thread is in a call, and the shared fields are those of the muxer. -/
structure Rests (worker : WorkerPc) (m : SrsMp4Muxer) (s : RecordThreads) : Prop
    extends Agrees m s where
  control : s.control = []
  worker : s.worker = worker
  encoder : ∀ track, s.encoder track = .idle

/-- The event starts a call. -/
def isCall : Event → Bool
  | .record | .pause | .resume | .stop | .encode _ => true
  | .control | .worker _ | .encoder _ => false

variable {worker : WorkerPc} {m : SrsMp4Muxer} {s : RecordThreads}

theorem encode_atomic (h : Rests worker m s) (f : SrsEsFrame)
    (hkey : (f.isAudio && f.isKeyFrame) = false) :
    Leads step isCall (Rests worker) [.encode f]
      (final (writeFrameByte f.track f.bb f.bi f.isKeyFrame) m) s := by
  let q : Queued := ⟨f, s.recording⟩
  have hback : Function.update s.encoder f.track .idle = s.encoder := by
    rw [← h.encoder f.track, Function.update_eq_self]
  have hidle : ∀ track, Function.update s.encoder f.track .idle track = .idle := by
    rw [hback]
    exact h.encoder
  have hqueue : m.frameCache ++ [f] = (s.frameCache ++ [q]).map Queued.frame := by
    rw [h.frameCache, List.map_append]
    rfl
  have hcall := step_encode (h.encoder f.track) hkey
  rw [final_writeFrameByte_eq]
  cases hrec : s.bRecording with
  | false =>
    rw [if_neg (by simp [h.bRecording, hrec])]
    rw [hrec] at hcall
    exact ⟨_, s, run_cons_of_step hcall [], rfl, h⟩
  | true =>
    rw [hrec] at hcall
    cases hpaused : s.bPaused with
    | true =>
      rw [if_neg (by simp [h.bPaused, hpaused])]
      refine ⟨_, (s.setEncoder f.track .idle).note f.track (.discarded f),
        (run_cons_of_step hcall [.encoder f.track]).trans ?_, rfl,
        ⟨h.1.1, h.1.2, h.1.3, h.1.4⟩, h.control, h.worker, hidle⟩
      simp [run, step, hpaused, encoderStep, setEncoder]
    | false =>
      rw [if_pos (by simp [h.bRecording, h.bPaused, hrec, hpaused]), h.needToFindKeyFrame]
      cases hneed : s.needToFindKeyFrame with
      | true =>
        cases hframe : f.isKeyFrame with
        | true =>
          refine ⟨_, note { s.setEncoder f.track .idle with
            needToFindKeyFrame := false, frameCache := s.frameCache ++ [q] } f.track
              (.queued f false),
            (run_cons_of_step hcall (List.replicate 4 (.encoder f.track))).trans ?_, rfl,
            ⟨h.1.1, h.1.2, rfl, hqueue⟩, h.control, h.worker, hidle⟩
          simp [run, step, hpaused, hneed, hframe, encoderStep, setEncoder, q]
        | false =>
          refine ⟨_, s.setEncoder f.track .idle,
            (run_cons_of_step hcall (List.replicate 2 (.encoder f.track))).trans ?_, rfl,
            ⟨h.1.1, h.1.2, h.1.3, h.1.4⟩, h.control, h.worker, hidle⟩
          simp [run, step, hpaused, hneed, hframe, encoderStep, setEncoder]
      | false =>
        refine ⟨_, note { s.setEncoder f.track .idle with frameCache := s.frameCache ++ [q] }
          f.track (.queued f (.armGate ∈ s.control)),
          (run_cons_of_step hcall (List.replicate 3 (.encoder f.track))).trans ?_, rfl,
          ⟨h.1.1, h.1.2, hneed.symm, hqueue⟩, h.control, h.worker, hidle⟩
        simp [run, step, hpaused, hneed, encoderStep, setEncoder, q]

theorem pause_atomic (h : Rests worker m s) :
    Leads step isCall (Rests worker) [.pause] (final pause m) s := by
  have hcall : step s .pause = some { s with control := [.testPause] } := call_of_nil h.control _
  unfold SrsMp4Muxer.pause
  rw [final_get_bind]
  cases hrec : s.bRecording with
  | false =>
    rw [if_neg (by simp [h.bRecording, hrec])]
    refine ⟨_, { s with control := [] }, (run_cons_of_step hcall [.control]).trans ?_, rfl,
      ⟨h.1.1, h.1.2, h.1.3, h.1.4⟩, rfl, h.worker, h.encoder⟩
    simp [run, step, controlStep, hrec]
  | true =>
    rw [if_pos (h.bRecording.trans hrec)]
    refine ⟨_, { s with bPaused := true, control := [] },
      (run_cons_of_step hcall [.control, .control]).trans ?_, rfl,
      ⟨h.1.1, rfl, h.1.3, h.1.4⟩, rfl, h.worker, h.encoder⟩
    simp [run, step, controlStep, hrec]

theorem resume_atomic (h : Rests worker m s) :
    Leads step isCall (Rests worker) [.resume] (final resume m) s := by
  have hcall : step s .resume = some { s with control := [.testResume] } := call_of_nil h.control _
  unfold SrsMp4Muxer.resume
  rw [final_get_bind]
  cases hrec : s.bRecording with
  | false =>
    rw [if_neg (by simp [h.bRecording, hrec])]
    refine ⟨_, { s with control := [] }, (run_cons_of_step hcall [.control]).trans ?_, rfl,
      ⟨h.1.1, h.1.2, h.1.3, h.1.4⟩, rfl, h.worker, h.encoder⟩
    simp [run, step, controlStep, hrec]
  | true =>
    rw [if_pos (h.bRecording.trans hrec)]
    refine ⟨_, { s with bPaused := false, needToFindKeyFrame := true, control := [] },
      (run_cons_of_step hcall (List.replicate 3 .control)).trans ?_, rfl,
      ⟨h.1.1, rfl, rfl, h.1.4⟩, rfl, h.worker, h.encoder⟩
    simp [run, step, controlStep, hrec]

theorem workerPoll_atomic (h : Rests .test m s) :
    Leads step isCall (Rests .test) [] (final workerPoll m) s := by
  unfold workerPoll
  rw [final_get_bind, h.frameCache]
  cases hcache : s.frameCache with
  | nil => exact .refl h
  | cons q rest =>
    let s' : RecordThreads :=
      { s with frameCache := rest, worker := .test, given := s.given ++ [(s.recording, q)] }
    refine ⟨List.replicate 3 (.worker true), s', ?_, rfl, ?_, h.control, rfl, h.encoder⟩
    · simp [run, step, workerStep, h.worker, hcache, s']
    · rw [List.map_cons]
      dsimp only
      rw [final_set_bind]
      exact (fileStable_agrees s').writeFrame q.frame _ ⟨h.1.1, h.1.2, h.1.3, rfl⟩

/-- `clear()` polls until the queue is empty. -/
theorem run_clear (rest : List ControlStep) (frameCache : List Queued) :
    run step { s with frameCache, control := .clear :: rest }
      (List.replicate (frameCache.length + 1) .control) =
        some { s with frameCache := [], control := rest } := by
  induction frameCache with
  | nil => rfl
  | cons q frameCache ih =>
    rw [List.length_cons, List.replicate_succ]
    exact ih

/-- `record` starts a worker, which starts with `bRecording = true`. -/
theorem workerStart_atomic (h : Rests .none m s) :
    Leads step isCall (Rests .test) [.record] (final workerStart m) s := by
  refine ⟨[.record, .worker true, .worker true],
    { s with recording := s.recording + 1, bRecording := true, worker := .test }, ?_, rfl,
    ⟨rfl, h.1.2, h.1.3, h.1.4⟩, h.control, rfl, h.encoder⟩
  have hrecord : step s .record = some { s with recording := s.recording + 1, worker := .start } :=
    if_pos ⟨h.control, h.worker⟩
  exact run_cons_of_step hrecord _

/-- `stop()` clears the flags and the queue, and waits for the worker to leave its loop. -/
theorem stop_atomic (moov : MovieBox → List UInt8) (h : Rests .test m s) :
    Leads step isCall (Rests .none) [.stop] (final (stop moov) m) s := by
  have hcall : step s .stop = some { s with control := stopSteps } := call_of_nil h.control _
  let cleared : RecordThreads :=
    { s with
      bRecording := false, bPaused := false, needToFindKeyFrame := true
      video := s.video ++ [.stopped] }
  let s' : RecordThreads := { cleared with frameCache := [], worker := .none, control := [] }
  have hclear : run step { cleared with control := [.clear, .join] }
      (List.replicate (s.frameCache.length + 1) .control) =
        some { cleared with frameCache := [], control := [.join] } :=
    run_clear (s := cleared) [.join] s.frameCache
  have hjoin : run step { cleared with frameCache := [], control := [.join] }
      (List.replicate 3 (.worker true) ++ [.control]) = some s' := by
    simp [run, step, workerStep, controlStep, cleared, h.worker, s']
  refine ⟨.stop :: (List.replicate 3 .control ++
    (List.replicate (s.frameCache.length + 1) .control ++
      (List.replicate 3 (.worker true) ++ [.control]))), s', ?_, ?_, ?_, rfl, rfl, h.encoder⟩
  · rw [run_cons_of_step hcall, run_append]
    show (run step { cleared with control := [.clear, .join] } _) = some s'
    rw [run_append, hclear]
    exact hjoin
  · simp [List.filter_cons, List.filter_append, isCall]
  · unfold SrsMp4Muxer.stop
    rw [final_modify_bind, final_get_bind]
    have hagrees : Agrees { m with
        bRecording := false, bPaused := false, needToFindKeyFrame := true, aacSpecConfig := false
        frameCache := [] } s' := ⟨rfl, rfl, rfl, rfl⟩
    split
    · have hfile := fileStable_agrees s'
      refine Preserves.final_of (P := (Agrees · s')) (Preserves.bind ?_ fun _ => ?_) hagrees
      · exact preserves_modify fun _ h => ⟨h.1, h.2, h.3, h.4⟩
      · exact (hfile.finishMovie moov).bind fun _ => preserves_get_bind fun m' => hfile.notify _ m'
    · exact hagrees

/-- The calls in a recording.  An audio frame is never a key frame. -/
inductive RecordingCall where
  | writeFrameByte (f : SrsEsFrame) (hkey : (f.isAudio && f.isKeyFrame) = false)
  | pause
  | resume
  | workerPoll

def RecordingCall.method : RecordingCall → Method SrsMp4Muxer Unit
  | writeFrameByte f _ => SrsMp4Muxer.writeFrameByte f.track f.bb f.bi f.isKeyFrame
  | pause => SrsMp4Muxer.pause
  | resume => SrsMp4Muxer.resume
  | workerPoll => SrsMp4Muxer.workerPoll

/-- The recording of the muxer, one call after the other. -/
def recorded (moov : MovieBox → List UInt8) (m : SrsMp4Muxer) (calls : List RecordingCall) :
    SrsMp4Muxer :=
  final (stop moov) (calls.foldl (fun m call => final call.method m) (final workerStart m))

def RecordingCall.start : RecordingCall → List Event
  | writeFrameByte f _ => [.encode f]
  | pause => [.pause]
  | resume => [.resume]
  | workerPoll => []

theorem call_follows (call : RecordingCall) (h : Rests .test m s) :
    Leads step isCall (Rests .test) call.start (final call.method m) s := by
  cases call with
  | writeFrameByte f hkey => exact encode_atomic h f hkey
  | pause => exact pause_atomic h
  | resume => exact resume_atomic h
  | workerPoll => exact workerPoll_atomic h

/-- Recordings whose calls do not overlap are those of the muxer: with the same calls in the same
order, the threads can bring the flags and the queue to the same state. -/
theorem recordings_follow (moov : MovieBox → List UInt8) (recordings : List (List RecordingCall))
    (h : Rests .none m s) :
    Leads step isCall (Rests .none)
      (recordings.flatMap fun calls => .record :: (calls.flatMap RecordingCall.start ++ [.stop]))
      (recordings.foldl (recorded moov) m) s := by
  refine leads_foldl (fun m s calls h => ?_) recordings h
  refine (workerStart_atomic h).trans fun s₁ hstarted => ?_
  refine (leads_foldl (fun m s call h => call_follows call h) calls hstarted).trans
    fun s₂ hcalled => ?_
  exact stop_atomic moov hcalled

/-- Two recordings, from the start on, the first one with a key frame. -/
theorem recordings_follow_two :
    Leads step isCall (Rests .none)
      [.record, .encode (videoFrame true), .stop, .record, .pause, .resume, .stop]
      ([[.writeFrameByte (videoFrame true) rfl, .workerPoll], [.pause, .resume]].foldl
        (recorded fun _ => []) {}) {} :=
  recordings_follow (fun _ => [])
    [[.writeFrameByte (videoFrame true) rfl, .workerPoll], [.pause, .resume]]
    ⟨⟨rfl, rfl, rfl, rfl⟩, rfl, rfl, fun _ => rfl⟩

end Atomic

end RecordThreads

end MediasoupDemo.Mp4
