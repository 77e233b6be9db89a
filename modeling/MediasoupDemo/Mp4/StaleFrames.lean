import MediasoupDemo.Mp4.KeyFrameGate

/-!
# Frames of an earlier recording

`writeFrameByte` tests `bRecording` and adds the frame to the queue later.  In between
`stop` may clear the flag, empty the queue and join the worker.  The frame is then in the
queue when the next recording starts, and its worker gives it to `writeSampleData`.

* `Exposed r s`: from `s` the threads can come to give a frame of another recording to
  `writeSampleData` in recording `r`.  The lemmas go back from the call, step by step, to
  the start of the recording.
* `Own r s` is the invariant of a recording that starts clean.  A frame that an encoder has
  in its hands is of this recording, or it is a video frame in front of the closed gate that
  does not open it.
-/

namespace MediasoupDemo.Mp4.RecordThreads

/-- Whatever the threads do, only frames of the current recording are given to
`writeSampleData` for its file. -/
def OwnFrames (s : RecordThreads) : Prop :=
  ∀ w s', Interleave.run step s w = some s' → ∀ p ∈ s'.given, p.1 = s.recording →
    p.2.recording = s.recording

/-- The encoder will drop the frame that it has in its hands: the gate is closed, and only
the video encoder opens it. -/
def Refused (s : RecordThreads) (track : TrackIndex) (q : Queued) : Prop :=
  track = .VIDEO_TRACK ∧ q.frame.isKeyFrame = false ∧ s.needToFindKeyFrame = true ∧
    (s.encoder track = .testPaused q ∨ s.encoder track = .testGate q)

/-- The queue is empty, and the encoders have no frames that they can still add to it. -/
def Clean (s : RecordThreads) : Prop :=
  s.frameCache = [] ∧ ∀ track q, (s.encoder track).frame? = some q → s.Refused track q

/-! ## A frame that goes to the wrong file -/

/-- The threads can come to give a frame of another recording to the file of `r`. -/
def Exposed (r : Nat) (s : RecordThreads) : Prop :=
  ∃ w s', Interleave.run step s w = some s' ∧ ∃ p ∈ s'.given, p.1 = r ∧ p.2.recording ≠ r

variable {e : Event} {track : TrackIndex} {s : RecordThreads}

namespace Exposed

variable {s t : RecordThreads} {track : TrackIndex} {q : Queued}

theorem of_step {r : Nat} (h : Exposed r t) (hstep : step s e = some t) :
    Exposed r s := by
  obtain ⟨w, s', hrun, hp⟩ := h
  exact ⟨e :: w, s', (Interleave.run_cons_of_step hstep w).trans hrun, hp⟩

theorem of_write (hworker : s.worker = .write q) (hq : q.recording ≠ s.recording) :
    Exposed s.recording s := by
  refine ⟨[.worker true], { s with
    given := s.given ++ [(s.recording, q)], worker := .test }, ?_, (s.recording, q), ?_, rfl, hq⟩
  · refine Interleave.run_cons_of_step ?_ []
    rw [step, hworker]
    rfl
  · exact List.mem_append_right _ List.mem_cons_self

/-- The worker comes to every frame in the queue. -/
theorem of_test {front rest : List Queued} (hq : q.recording ≠ s.recording) :
    s.worker = .test → s.frameCache = front ++ q :: rest → Exposed s.recording s := by
  induction front generalizing s with
  | nil =>
    intro hworker hcache
    have htake : step { s with worker := .take } (.worker true) =
        some { s with frameCache := rest, worker := .write q } := workerStep_take_cons hcache true
    have hlast : Exposed s.recording { s with frameCache := rest, worker := .write q } :=
      of_write rfl hq
    refine (hlast.of_step htake).of_step (e := .worker true) ?_
    rw [step, hworker]
    simp [workerStep, hcache]
  | cons x front ih =>
    intro hworker hcache
    have htake : step { s with worker := .take } (.worker true) =
        some { s with frameCache := front ++ q :: rest, worker := .write x } :=
      workerStep_take_cons hcache true
    have hnext : Exposed s.recording { s with
        frameCache := front ++ q :: rest, given := s.given ++ [(s.recording, x)]
        worker := .test } := ih hq rfl rfl
    have hwrite := hnext.of_step (s := { s with
      frameCache := front ++ q :: rest, worker := .write x }) (e := .worker true) rfl
    refine (hwrite.of_step htake).of_step (e := .worker true) ?_
    rw [step, hworker]
    simp [workerStep, hcache]

/-- The worker has started, and nothing keeps the encoders from adding frames. -/
structure Open (s : RecordThreads) : Prop where
  worker : s.worker = .loop
  bRecording : s.bRecording = true
  bPaused : s.bPaused = false

section Open

variable (hopen : Open s) (hq : q.recording ≠ s.recording)
include hopen hq

theorem of_queue (hmem : q ∈ s.frameCache) : Exposed s.recording s := by
  obtain ⟨front, rest, hcache⟩ := List.append_of_mem hmem
  have htest : Exposed s.recording { s with worker := .test } := of_test hq rfl hcache
  refine htest.of_step (e := .worker true) ?_
  rw [step, hopen.worker]
  simp [workerStep, hopen.bRecording]

theorem of_add {early : Bool} (hpc : s.encoder track = .add q early) :
    Exposed s.recording s := by
  let t := note { s.setEncoder track .idle with frameCache := s.frameCache ++ [q] } track
    (.queued q.frame early)
  have ht : Exposed s.recording t :=
    of_queue (s := t) ⟨hopen.1, hopen.2, hopen.3⟩ hq (List.mem_append_right _ List.mem_cons_self)
  refine ht.of_step (e := .encoder track) ?_
  rw [step, hpc]
  rfl

theorem of_openGate (hpc : s.encoder track = .openGate q) : Exposed s.recording s := by
  let t : RecordThreads := { s.setEncoder track (.add q false) with needToFindKeyFrame := false }
  have ht : Exposed s.recording t :=
    of_add (s := t) ⟨hopen.1, hopen.2, hopen.3⟩ hq (s.setEncoder_encoder_self _ _)
  refine ht.of_step (e := .encoder track) ?_
  rw [step, hpc]
  rfl

theorem of_testGate (hpc : s.encoder track = .testGate q)
    (hgate : s.needToFindKeyFrame = true → q.frame.isKeyFrame = true) :
    Exposed s.recording s := by
  cases hneed : s.needToFindKeyFrame with
  | true =>
    have ht : Exposed s.recording (s.setEncoder track (.openGate q)) :=
      of_openGate ⟨hopen.1, hopen.2, hopen.3⟩ hq (s.setEncoder_encoder_self _ _)
    refine ht.of_step (e := .encoder track) ?_
    rw [step, hpc]
    simp [encoderStep, hneed, hgate hneed]
  | false =>
    have ht : Exposed s.recording (s.setEncoder track (.add q (.armGate ∈ s.control))) :=
      of_add ⟨hopen.1, hopen.2, hopen.3⟩ hq (s.setEncoder_encoder_self _ _)
    refine ht.of_step (e := .encoder track) ?_
    rw [step, hpc]
    simp [encoderStep, hneed]

theorem of_testPaused (hpc : s.encoder track = .testPaused q)
    (hgate : s.needToFindKeyFrame = true → q.frame.isKeyFrame = true) :
    Exposed s.recording s := by
  have ht : Exposed s.recording (s.setEncoder track (.testGate q)) :=
    of_testGate ⟨hopen.1, hopen.2, hopen.3⟩ hq (s.setEncoder_encoder_self _ _) hgate
  refine ht.of_step (e := .encoder track) ?_
  rw [step, hpc]
  simp [encoderStep, hopen.bPaused]

/-- An encoder adds the frame that it has in its hands, unless it stands before the closed
gate. -/
theorem of_held (hheld : (s.encoder track).frame? = some q)
    (hpass : s.encoder track = .testPaused q ∨ s.encoder track = .testGate q →
      s.needToFindKeyFrame = true → q.frame.isKeyFrame = true) : Exposed s.recording s := by
  cases hpc : s.encoder track with
  | idle =>
    rw [hpc] at hheld
    cases hheld
  | testPaused q' =>
    rw [hpc] at hheld
    cases hheld
    exact of_testPaused hopen hq hpc (hpass (.inl hpc))
  | testGate q' =>
    rw [hpc] at hheld
    cases hheld
    exact of_testGate hopen hq hpc (hpass (.inr hpc))
  | openGate q' =>
    rw [hpc] at hheld
    cases hheld
    exact of_openGate hopen hq hpc
  | add q' early =>
    rw [hpc] at hheld
    cases hheld
    exact of_add hopen hq hpc

variable {k : Queued} (hheld : (s.encoder .AUDIO_TRACK).frame? = some q)
include hheld

/-- A key frame opens the gate for the audio encoder. -/
theorem of_audio_openGate (hpc : s.encoder .VIDEO_TRACK = .openGate k) :
    Exposed s.recording s := by
  let t : RecordThreads :=
    { s.setEncoder .VIDEO_TRACK (.add k false) with needToFindKeyFrame := false }
  have hheld' : (t.encoder .AUDIO_TRACK).frame? = some q := hheld
  have ht : Exposed s.recording t :=
    of_held (s := t) ⟨hopen.1, hopen.2, hopen.3⟩ hq hheld' fun _ hfalse => by cases hfalse
  refine ht.of_step (e := .encoder .VIDEO_TRACK) ?_
  rw [step, hpc]
  rfl

theorem of_audio_testGate (hpc : s.encoder .VIDEO_TRACK = .testGate k)
    (hkey : k.frame.isKeyFrame = true) (hneed : s.needToFindKeyFrame = true) :
    Exposed s.recording s := by
  have ht : Exposed s.recording (s.setEncoder .VIDEO_TRACK (.openGate k)) :=
    of_audio_openGate ⟨hopen.1, hopen.2, hopen.3⟩ hq hheld (s.setEncoder_encoder_self _ _)
  refine ht.of_step (e := .encoder .VIDEO_TRACK) ?_
  rw [step, hpc]
  simp [encoderStep, hneed, hkey]

theorem of_audio_testPaused (hpc : s.encoder .VIDEO_TRACK = .testPaused k)
    (hkey : k.frame.isKeyFrame = true) (hneed : s.needToFindKeyFrame = true) :
    Exposed s.recording s := by
  have ht : Exposed s.recording (s.setEncoder .VIDEO_TRACK (.testGate k)) :=
    of_audio_testGate ⟨hopen.1, hopen.2, hopen.3⟩ hq hheld (s.setEncoder_encoder_self _ _)
      hkey hneed
  refine ht.of_step (e := .encoder .VIDEO_TRACK) ?_
  rw [step, hpc]
  simp [encoderStep, hopen.bPaused]

theorem of_audio (hvideo : s.encoder .VIDEO_TRACK = .idle)
    (hneed : s.needToFindKeyFrame = true) : Exposed s.recording s := by
  have ht : Exposed s.recording
      (s.setEncoder .VIDEO_TRACK (.testPaused ⟨videoFrame true, s.recording⟩)) :=
    of_audio_testPaused ⟨hopen.1, hopen.2, hopen.3⟩ hq hheld (s.setEncoder_encoder_self _ _)
      rfl hneed
  refine ht.of_step (e := .encode (videoFrame true)) ?_
  rw [step_encode hvideo rfl, if_pos hopen.bRecording]
  rfl

/-- The video encoder drops its frame before that. -/
theorem of_refused {q' : Queued} (hrefused : s.Refused .VIDEO_TRACK q') :
    Exposed s.recording s := by
  obtain ⟨-, hkey, hneed, hpc⟩ := hrefused
  have hdrop {t : RecordThreads} (hopen : Open t) (hneed : t.needToFindKeyFrame = true)
      (hgate : t.encoder .VIDEO_TRACK = .testGate q')
      (hheld : (t.encoder .AUDIO_TRACK).frame? = some q) (hq : q.recording ≠ t.recording) :
      Exposed t.recording t := by
    have hidle : Exposed t.recording (t.setEncoder .VIDEO_TRACK .idle) :=
      of_audio ⟨hopen.1, hopen.2, hopen.3⟩ hq hheld (t.setEncoder_encoder_self _ _) hneed
    refine hidle.of_step (e := .encoder .VIDEO_TRACK) ?_
    rw [step, hgate]
    simp [encoderStep, hneed, hkey]
  rcases hpc with hpaused | hgate
  · have hnext : Exposed s.recording (s.setEncoder .VIDEO_TRACK (.testGate q')) :=
      hdrop ⟨hopen.1, hopen.2, hopen.3⟩ hneed (s.setEncoder_encoder_self _ _) hheld hq
    refine hnext.of_step (e := .encoder .VIDEO_TRACK) ?_
    rw [step, hpaused]
    simp [encoderStep, hopen.bPaused]
  · exact hdrop hopen hneed hgate hheld hq

end Open

/-- Any frame that is left over can come to the file. -/
theorem of_not_clean (hopen : Open s) (hqueue : ∀ q ∈ s.frameCache, q.recording ≠ s.recording)
    (hhands : ∀ track q, (s.encoder track).frame? = some q → q.recording ≠ s.recording)
    (hnot : ¬ s.Clean) : Exposed s.recording s := by
  by_cases hcache : s.frameCache = []
  · have hheld : ∃ track q, (s.encoder track).frame? = some q ∧ ¬ s.Refused track q := by
      by_contra hnone
      push Not at hnone
      exact hnot ⟨hcache, hnone⟩
    obtain ⟨track, q, hheld, hrefused⟩ := hheld
    have hq := hhands track q hheld
    by_cases hblocked : s.needToFindKeyFrame = true ∧ q.frame.isKeyFrame = false ∧
        (s.encoder track = .testPaused q ∨ s.encoder track = .testGate q)
    · obtain ⟨hneed, hkey, hpc⟩ := hblocked
      -- Only an audio frame may still pass, when a key frame has opened the gate.
      cases track with
      | VIDEO_TRACK => exact absurd ⟨rfl, hkey, hneed, hpc⟩ hrefused
      | AUDIO_TRACK =>
        cases hvideo : (s.encoder .VIDEO_TRACK).frame? with
        | none =>
          have hidle : s.encoder .VIDEO_TRACK = .idle := by
            cases hpc' : s.encoder .VIDEO_TRACK <;> simp [EncoderPc.frame?, hpc'] at hvideo ⊢
          exact of_audio hopen hq hheld hidle hneed
        | some q' =>
          by_cases hrefused' : s.Refused .VIDEO_TRACK q'
          · exact of_refused hopen hq hheld hrefused'
          · refine of_held hopen (hhands _ q' hvideo) hvideo fun hpc' _ => ?_
            by_contra hkey'
            exact hrefused' ⟨rfl, by simpa using hkey', hneed, hpc'⟩
    · refine of_held hopen hq hheld fun hpc hneed => ?_
      by_contra hkey
      exact hblocked ⟨hneed, by simpa using hkey, hpc⟩
  · obtain ⟨q, hmem⟩ := List.exists_mem_of_ne_nil _ hcache
    exact of_queue hopen (hqueue q hmem) hmem

theorem of_record (hcontrol : s.control = []) (hworker : s.worker = .start)
    (hqueue : ∀ q ∈ s.frameCache, q.recording ≠ s.recording)
    (hhands : ∀ track q, (s.encoder track).frame? = some q → q.recording ≠ s.recording)
    (hnot : ¬ s.Clean) : Exposed s.recording s := by
  let s₁ : RecordThreads := { s with bRecording := true, worker := .loop }
  have hstart : step s (.worker true) = some s₁ := by
    rw [step, hworker]
    rfl
  refine of_step ?_ hstart
  cases hpaused : s.bPaused with
  | false => exact of_not_clean (s := s₁) ⟨rfl, rfl, hpaused⟩ hqueue hhands hnot
  | true =>
    -- `resume` ends the pause, and does not come to close the gate.
    let s₂ : RecordThreads := { s₁ with control := [.testResume] }
    let s₃ : RecordThreads := { s₁ with control := [.clearPaused, .armGate] }
    let s₄ : RecordThreads := { s₁ with bPaused := false, control := [.armGate] }
    have hopen : Exposed s.recording s₄ :=
      of_not_clean (s := s₄) ⟨rfl, rfl, rfl⟩ hqueue hhands hnot
    have hcall : step s₁ .resume = some s₂ := call_of_nil (s := s₁) hcontrol _
    exact ((hopen.of_step (s := s₃) (e := .control) rfl).of_step (s := s₂) (e := .control)
      rfl).of_step hcall

end Exposed

/-! ## The way of a frame -/

/-- What one step does to the frames: they go from an encoder to the queue, to the worker and
to the file. -/
structure Flow (s s' : RecordThreads) : Prop where
  recording : s.recording ≤ s'.recording
  hands : ∀ track q, (s'.encoder track).frame? = some q →
    (s.encoder track).frame? = some q ∨ q.recording = s'.recording
  cache : ∀ q ∈ s'.frameCache, q ∈ s.frameCache ∨ ∃ track early, s.encoder track = .add q early
  worker : ∀ q, s'.worker = .write q → s.worker = .write q ∨ q ∈ s.frameCache
  given : ∀ p ∈ s'.given, p ∈ s.given ∨ p.1 = s.recording ∧ s.worker = .write p.2

namespace Flow

variable {s s' : RecordThreads}

/-- A step that moves no frame, but may drop some. -/
theorem of_subset (hrecording : s.recording ≤ s'.recording) (hencoder : s'.encoder = s.encoder)
    (hcache : s'.frameCache ⊆ s.frameCache)
    (hworker : ∀ q, s'.worker = .write q → s.worker = .write q)
    (hgiven : s'.given = s.given) : Flow s s' where
  recording := hrecording
  hands := fun _ _ hheld => .inl (hencoder ▸ hheld)
  cache := fun _ hmem => .inl (hcache hmem)
  worker := fun q hwrite => .inl (hworker q hwrite)
  given := fun _ hmem => .inl (hgiven ▸ hmem)

theorem controlStep {c : ControlStep} (hstep : s.controlStep c = some s') : Flow s s' := by
  cases c with
  | testPause | testResume =>
    cases hstep
    split <;> exact of_subset (Nat.le_refl _) rfl (List.Subset.refl _) (fun _ => id) rfl
  | setPaused | clearRecording | clearPaused | armGate =>
    cases hstep
    exact of_subset (Nat.le_refl _) rfl (List.Subset.refl _) (fun _ => id) rfl
  | clear =>
    cases hcache : s.frameCache with
    | nil =>
      cases (controlStep_clear_nil hcache).symm.trans hstep
      exact of_subset (Nat.le_refl _) rfl (List.Subset.refl _) (fun _ => id) rfl
    | cons q rest =>
      cases (controlStep_clear_cons hcache).symm.trans hstep
      refine of_subset (Nat.le_refl _) rfl ?_ (fun _ => id) rfl
      rw [hcache]
      exact List.subset_cons_self q rest
  | join =>
    obtain ⟨-, rfl⟩ := controlStep_join_eq hstep
    exact of_subset (Nat.le_refl _) rfl (List.Subset.refl _) (fun _ hwrite => by cases hwrite) rfl

theorem workerStep {outcome : Bool} (hstep : s.workerStep outcome s.worker = some s') :
    Flow s s' := by
  cases hworker : s.worker with
  | none | done =>
    rw [hworker] at hstep
    cases hstep
  | start | wait =>
    rw [hworker] at hstep
    cases hstep
    exact of_subset (Nat.le_refl _) rfl (List.Subset.refl _) (fun _ hwrite => by cases hwrite) rfl
  | loop | test =>
    rw [hworker] at hstep
    cases hstep
    refine of_subset (Nat.le_refl _) rfl (List.Subset.refl _) (fun q hwrite => ?_) rfl
    dsimp only at hwrite
    split at hwrite <;> cases hwrite
  | take =>
    rw [hworker] at hstep
    cases hcache : s.frameCache with
    | nil =>
      cases (workerStep_take_nil hcache outcome).symm.trans hstep
      exact of_subset (Nat.le_refl _) rfl (List.Subset.refl _) (fun _ hwrite => by cases hwrite) rfl
    | cons q rest =>
      cases (workerStep_take_cons hcache outcome).symm.trans hstep
      refine ⟨Nat.le_refl _, fun _ _ => .inl, fun q' hmem => .inl ?_, fun q' hwrite => .inr ?_,
        fun _ => .inl⟩
      · rw [hcache]
        exact List.mem_cons_of_mem q hmem
      · cases hwrite
        rw [hcache]
        exact List.mem_cons_self
  | write q =>
    rw [hworker] at hstep
    cases hstep
    refine ⟨Nat.le_refl _, fun _ _ => .inl, fun _ => .inl, fun q' hwrite => ?_, fun p hmem => ?_⟩
    · dsimp only at hwrite
      split at hwrite <;> cases hwrite
    · rcases List.mem_append.mp hmem with hold | hnew
      · exact .inl hold
      · rw [List.mem_singleton.mp hnew]
        exact .inr ⟨rfl, hworker⟩

theorem of_encoder {pc : EncoderPc} (hrecording : s'.recording = s.recording)
    (hencoder : s'.encoder = Function.update s.encoder track pc)
    (hpc : ∀ q, pc.frame? = some q → (s.encoder track).frame? = some q ∨ q.recording = s.recording)
    (hcache : ∀ q ∈ s'.frameCache, q ∈ s.frameCache ∨ ∃ early, s.encoder track = .add q early)
    (hworker : s'.worker = s.worker) (hgiven : s'.given = s.given) : Flow s s' where
  recording := Nat.le_of_eq hrecording.symm
  hands := fun track' q hheld => by
    rw [hencoder] at hheld
    by_cases htrack : track' = track
    · subst htrack
      rw [Function.update_self] at hheld
      rw [hrecording]
      exact hpc q hheld
    · rw [Function.update_of_ne htrack] at hheld
      exact .inl hheld
  cache := fun q hmem => (hcache q hmem).imp id fun hadd => ⟨track, hadd⟩
  worker := fun _ hwrite => .inl (hworker ▸ hwrite)
  given := fun _ hmem => .inl (hgiven ▸ hmem)

theorem encoderStep (hstep : s.encoderStep track (s.encoder track) = some s') : Flow s s' := by
  cases hpc : s.encoder track with
  | idle =>
    rw [hpc] at hstep
    cases hstep
  | testPaused q =>
    rw [hpc] at hstep
    cases hstep
    split
    · exact of_encoder rfl rfl (fun _ hq => by cases hq) (fun _ => .inl) rfl rfl
    · refine of_encoder rfl rfl (fun _ hq => .inl ?_) (fun _ => .inl) rfl rfl
      rw [hpc]
      exact hq
  | testGate q =>
    rw [hpc] at hstep
    cases hstep
    refine of_encoder rfl rfl (fun q' hq => .inl ?_) (fun _ => .inl) rfl rfl
    rw [hpc]
    split_ifs at hq
    · exact hq
    · cases hq
    · exact hq
  | openGate q =>
    rw [hpc] at hstep
    cases hstep
    refine of_encoder rfl rfl (fun q' hq => .inl ?_) (fun _ => .inl) rfl rfl
    rw [hpc]
    exact hq
  | add q early =>
    rw [hpc] at hstep
    cases hstep
    refine of_encoder rfl rfl (fun _ hq => by cases hq) (fun q' hmem => ?_) rfl rfl
    rcases List.mem_append.mp hmem with hold | hnew
    · exact .inl hold
    · rw [List.mem_singleton.mp hnew]
      exact .inr ⟨early, hpc⟩

theorem step (hstep : step s e = some s') : Flow s s' := by
  cases e with
  | record =>
    obtain ⟨-, rfl⟩ := step_record_eq hstep
    exact of_subset (Nat.le_succ _) rfl (List.Subset.refl _) (fun _ hwrite => by cases hwrite) rfl
  | pause | resume | stop =>
    obtain ⟨-, rfl⟩ := call_eq hstep
    exact of_subset (Nat.le_refl _) rfl (List.Subset.refl _) (fun _ => id) rfl
  | control =>
    obtain ⟨c, rest, -, hnext⟩ := step_control_eq hstep
    have hflow := controlStep hnext
    exact ⟨hflow.1, hflow.2, hflow.3, hflow.4, hflow.5⟩
  | worker outcome => exact workerStep hstep
  | encode frame =>
    obtain ⟨-, -, rfl⟩ := step_encode_eq hstep
    split
    · refine of_encoder rfl rfl (fun q hq => .inr ?_) (fun _ => .inl) rfl rfl
      cases hq
      rfl
    · exact of_subset (Nat.le_refl _) rfl (List.Subset.refl _) (fun _ => id) rfl
  | encoder track => exact encoderStep hstep

end Flow

/-- No frame is of a recording that has not started. -/
structure Numbered (s : RecordThreads) : Prop where
  hands : ∀ track q, (s.encoder track).frame? = some q → q.recording ≤ s.recording
  cache : ∀ q ∈ s.frameCache, q.recording ≤ s.recording
  given : ∀ p ∈ s.given, p.1 ≤ s.recording

theorem Numbered.step {s' : RecordThreads} (h : Numbered s) (hstep : step s e = some s') :
    Numbered s' := by
  have hflow := Flow.step hstep
  have hle := hflow.recording
  refine ⟨fun track q hheld => ?_, fun q hmem => ?_, fun p hmem => ?_⟩
  · rcases hflow.hands track q hheld with hold | hnew
    · have := h.hands track q hold
      omega
    · omega
  · rcases hflow.cache q hmem with hold | ⟨track, early, hadd⟩
    · have := h.cache q hold
      omega
    · have := h.hands track q (by rw [hadd]; rfl)
      omega
  · rcases hflow.given p hmem with hold | ⟨hnew, -⟩
    · have := h.given p hold
      omega
    · omega

theorem numbered_of_run {w : List Event} (hrun : Interleave.run step {} w = some s) : Numbered s :=
  Interleave.run_invariant (fun _ _ _ h hstep => Numbered.step h hstep) w _ _
    ⟨fun _ _ hheld => (by cases hheld), fun _ hmem => (by cases hmem),
      fun _ hmem => (by cases hmem)⟩ hrun

/-! ## A recording that starts clean -/

/-- A frame that the video encoder will drop stays in front of the gate. -/
theorem Refused.step {s' : RecordThreads} {q : Queued} (h : s.Refused track q) (hgated : Gated s)
    (hstep : step s e = some s') (hheld : (s'.encoder track).frame? = some q) :
    s'.Refused track q := by
  obtain ⟨rfl, hkey, hneed, hpc⟩ := h
  cases e with
  | record =>
    obtain ⟨-, rfl⟩ := step_record_eq hstep
    exact ⟨rfl, hkey, hneed, hpc⟩
  | pause | resume | stop =>
    obtain ⟨-, rfl⟩ := call_eq hstep
    exact ⟨rfl, hkey, hneed, hpc⟩
  | control =>
    obtain ⟨c, rest, -, hnext⟩ := step_control_eq hstep
    obtain ⟨hencoder, hkept⟩ := controlStep_gate hnext
    exact ⟨rfl, hkey, hkept hneed, hencoder ▸ hpc⟩
  | worker outcome =>
    obtain ⟨_, _, _, _, rfl⟩ := workerStep_eq hstep
    exact ⟨rfl, hkey, hneed, hpc⟩
  | encode frame =>
    obtain ⟨hidle, -, rfl⟩ := step_encode_eq hstep
    split
    · cases htrack : frame.track with
      | VIDEO_TRACK =>
        rw [htrack] at hidle
        rw [hidle] at hpc
        rcases hpc with hpc | hpc <;> cases hpc
      | AUDIO_TRACK => exact ⟨rfl, hkey, hneed, hpc⟩
    · exact ⟨rfl, hkey, hneed, hpc⟩
  | encoder other =>
    cases other with
    | AUDIO_TRACK =>
      obtain ⟨hencoder, hkept⟩ := hgated.encoderStep_audio_eq hstep
      exact ⟨rfl, hkey, hkept.trans hneed, hencoder.symm ▸ hpc⟩
    | VIDEO_TRACK =>
      have hnext : s.encoderStep .VIDEO_TRACK (s.encoder .VIDEO_TRACK) = some s' := hstep
      rcases hpc with hpaused | hgate
      · rw [hpaused] at hnext
        cases hnext
        split at hheld
        · have hidle : ((s.setEncoder .VIDEO_TRACK .idle).encoder .VIDEO_TRACK).frame? = some q :=
            hheld
          rw [setEncoder_encoder_self] at hidle
          cases hidle
        · rw [if_neg ‹_›]
          exact ⟨rfl, hkey, hneed, .inr (s.setEncoder_encoder_self _ _)⟩
      · rw [hgate] at hnext
        cases hnext
        rw [setEncoder_encoder_self, if_pos hneed, if_neg (by simp [hkey])] at hheld
        cases hheld

/-- While recording `r` goes on, all frames are of `r` or will be dropped. -/
structure Own (r : Nat) (s : RecordThreads) : Prop where
  gated : Gated s
  le : r ≤ s.recording
  hands : s.recording = r → ∀ track q, (s.encoder track).frame? = some q →
    q.recording = r ∨ s.Refused track q
  cache : s.recording = r → ∀ q ∈ s.frameCache, q.recording = r
  worker : s.recording = r → ∀ q, s.worker = .write q → q.recording = r
  given : ∀ p ∈ s.given, p.1 = r → p.2.recording = r

theorem Own.step {r : Nat} {s' : RecordThreads} (h : Own r s) (hstep : step s e = some s') :
    Own r s' := by
  have hflow := Flow.step hstep
  have hle := hflow.recording
  have hr := h.le
  refine ⟨h.gated.step hstep, by omega, fun heq track q hheld => ?_, fun heq q hmem => ?_,
    fun heq q hwrite => ?_, fun p hmem hp => ?_⟩
  · have heq' : s.recording = r := by omega
    rcases hflow.hands track q hheld with hold | hnew
    · rcases h.hands heq' track q hold with hown | hrefused
      · exact .inl hown
      · exact .inr (hrefused.step h.gated hstep hheld)
    · exact .inl (hnew.trans heq)
  · have heq' : s.recording = r := by omega
    rcases hflow.cache q hmem with hold | ⟨track, early, hadd⟩
    · exact h.cache heq' q hold
    · rcases h.hands heq' track q (by rw [hadd]; rfl) with hown | ⟨-, -, -, hpc⟩
      · exact hown
      · rw [hadd] at hpc
        rcases hpc with hpc | hpc <;> cases hpc
  · have heq' : s.recording = r := by omega
    rcases hflow.worker q hwrite with hold | hnew
    · exact h.worker heq' q hold
    · exact h.cache heq' q hnew
  · rcases hflow.given p hmem with hold | ⟨hfile, hwrite⟩
    · exact h.given p hold hp
    · exact h.worker (hfile.symm.trans hp) p.2 hwrite

theorem Own.ownFrames (h : Own s.recording s) : OwnFrames s := by
  intro w s' hrun
  have hown := Interleave.run_invariant (fun _ _ _ h hstep => Own.step h hstep) w _ _ h hrun
  exact hown.given

/-- **Frames of an earlier recording.**  For any interleaving of the threads up to a
`record()`: whatever happens then, only frames that were accepted in this recording are
given to `writeSampleData` for its file, if and only if the queue is empty and no encoder
has a frame in its hands that it can still add. -/
theorem ownFrames_iff {w : List Event} {s s' : RecordThreads}
    (hrun : Interleave.run step {} w = some s) (hrecord : step s .record = some s') :
    OwnFrames s' ↔ Clean s := by
  have hnumbered := numbered_of_run hrun
  obtain ⟨⟨hcontrol, -⟩, rfl⟩ := step_record_eq hrecord
  constructor
  · intro hown
    by_contra hnot
    have hexposed : Exposed (s.recording + 1)
        { s with recording := s.recording + 1, worker := .start } := by
      refine Exposed.of_record (s := { s with recording := s.recording + 1, worker := .start })
        hcontrol rfl (fun q hmem => ?_) (fun track q hheld => ?_) hnot
      · exact Nat.ne_of_lt (Nat.lt_succ_of_le (hnumbered.cache q hmem))
      · exact Nat.ne_of_lt (Nat.lt_succ_of_le (hnumbered.hands track q hheld))
    obtain ⟨w', s', hrun', p, hp, hfile, hne⟩ := hexposed
    exact hne (hown w' s' hrun' p hp hfile)
  · rintro ⟨hcache, hhands⟩
    have hgated := gated_of_run hrun
    refine Own.ownFrames ⟨hgated.step hrecord, Nat.le_refl _, ?_, ?_, ?_, ?_⟩
    · exact fun _ track q hheld => .inr (hhands track q hheld)
    · intro _ q hmem
      have hmem : q ∈ s.frameCache := hmem
      rw [hcache] at hmem
      cases hmem
    · intro _ q hwrite
      cases hwrite
    · intro p hmem hfile
      have hle := hnumbered.given p hmem
      have hfile : p.1 = s.recording + 1 := hfile
      omega

/-- A recording whose second frame has passed the gate and is about to be added. -/
def beforeAdd : List Event :=
  [.record, .worker true] ++
    (.encode (videoFrame true) :: List.replicate 4 (.encoder .VIDEO_TRACK)) ++
    (.encode (videoFrame false) :: List.replicate 2 (.encoder .VIDEO_TRACK))

/-- The encoder adds the frame before `stop` is called. -/
def addedInTime : List Event :=
  beforeAdd ++ [.encoder .VIDEO_TRACK, .stop] ++ List.replicate 6 .control ++
    [.worker true, .control]

/-- The encoder adds the frame after `stop` has returned. -/
def addedLate : List Event :=
  beforeAdd ++ [.stop] ++ List.replicate 5 .control ++ [.worker true, .control] ++
    [.encoder .VIDEO_TRACK]

theorem ownFrames_addedInTime :
    ∃ s s', Interleave.run step {} addedInTime = some s ∧ step s .record = some s' ∧
      OwnFrames s' := by
  have hrun : Interleave.run step {} addedInTime = some _ := rfl
  refine ⟨_, _, hrun, rfl, (ownFrames_iff hrun rfl).mpr ⟨rfl, ?_⟩⟩
  intro track q hheld
  cases track <;> cases hheld

/-- The worker of the second recording takes the frame for its file. -/
theorem not_ownFrames_addedLate :
    ∃ s s' s'', Interleave.run step {} addedLate = some s ∧ step s .record = some s' ∧
      Interleave.run step s' (List.replicate 5 (.worker true)) = some s'' ∧
      s''.given = [(2, ⟨videoFrame false, 1⟩)] ∧ ¬ OwnFrames s' := by
  refine ⟨_, _, _, rfl, rfl, rfl, rfl, fun hown => ?_⟩
  have hfirst := hown (List.replicate 5 (.worker true)) _ rfl (2, ⟨videoFrame false, 1⟩)
    List.mem_cons_self rfl
  cases hfirst

end MediasoupDemo.Mp4.RecordThreads
