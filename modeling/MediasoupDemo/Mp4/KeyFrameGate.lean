import MediasoupDemo.Mp4.Threads
import Mathlib.Data.List.Chain

/-!
# The gate behind a pause

`resume` ends a pause with two assignments: `bPaused = false`, and then
`needToFindKeyFrame = true`.  The video encoder may test both flags in between.  It
finds the pause ended and the gate still open, and queues a frame that refers to frames
which the pause has discarded.

`Gated` says that nothing else can go wrong.  While the last thing that became of a video
frame is that it was discarded, the next one is a key frame or has been tested early: the
recording is still paused, or the gate will be or is closed, or the video encoder is
already past it with such a frame (`Shut`).
-/

namespace MediasoupDemo.Mp4

namespace VideoEntry

/-- A frame that is queued after a discarded one is a key frame. -/
def keyFirst : VideoEntry → VideoEntry → Bool
  | .discarded _, .queued frame _ => frame.isKeyFrame
  | _, _ => true

/-- The same for the frames for which the gate was tested early. -/
def earlyKeyFirst : VideoEntry → VideoEntry → Bool
  | .discarded _, .queued frame early => !early || frame.isKeyFrame
  | _, _ => true

/-- The same for the other frames. -/
def lateKeyFirst : VideoEntry → VideoEntry → Bool
  | .discarded _, .queued frame early => early || frame.isKeyFrame
  | _, _ => true

theorem keyFirst_iff_late_early (a b : VideoEntry) :
    keyFirst a b = true ↔ lateKeyFirst a b = true ∧ earlyKeyFirst a b = true := by
  cases a <;> cases b <;> simp [keyFirst, lateKeyFirst, earlyKeyFirst]
  rename_i early
  cases early <;> simp

end VideoEntry

namespace RecordThreads

/-- After every pause in which a video frame was discarded, the first video frame that is
queued is a key frame. -/
def KeyFirst (s : RecordThreads) : Prop :=
  s.video.IsChain fun a b => VideoEntry.keyFirst a b = true

/-- The first video frame that is queued after such a pause is a key frame, if the encoder
has tested the gate before `resume` had closed it. -/
def EarlyKeyFirst (s : RecordThreads) : Prop :=
  s.video.IsChain fun a b => VideoEntry.earlyKeyFirst a b = true

/-! ## What every run keeps -/

/-- The gate is closed after a pause has ended. -/
def Arms : List ControlStep → Prop
  | [] => True
  | c :: rest => (c = .clearPaused → .armGate ∈ rest) ∧ Arms rest

/-- The next video frame that is queued is a key frame or was tested early. -/
structure Shut (s : RecordThreads) : Prop where
  passed : ∀ q early, s.encoder .VIDEO_TRACK = .add q early →
    early = true ∨ q.frame.isKeyFrame = true
  closed :
    (s.bPaused = true ∧ (s.encoder .VIDEO_TRACK = .idle ∨
        ∃ q, s.encoder .VIDEO_TRACK = .testPaused q)) ∨
      .armGate ∈ s.control ∨ s.needToFindKeyFrame = true ∨
      ∃ q early, s.encoder .VIDEO_TRACK = .add q early

/-- The video encoder finds the gate open: the recording goes on, and `resume` is about to
close the gate. -/
theorem Shut.armGate_of_testGate {s : RecordThreads} (h : Shut s) {q : Queued}
    (hpc : s.encoder .VIDEO_TRACK = .testGate q) (hneed : s.needToFindKeyFrame = false) :
    .armGate ∈ s.control := by
  obtain ⟨-, hidle | ⟨q', htest⟩⟩ | harm | htrue | ⟨q', early, hadd⟩ := h.closed
  · cases hpc.symm.trans hidle
  · cases hpc.symm.trans htest
  · exact harm
  · rw [hneed] at htrue
    cases htrue
  · cases hpc.symm.trans hadd

/-- The invariant of the gate. -/
structure Gated (s : RecordThreads) : Prop where
  /-- audio frames are no key frames -/
  audio : ∀ q, (s.encoder .AUDIO_TRACK).frame? = some q → q.frame.isKeyFrame = false
  /-- only a key frame opens the gate -/
  opens : ∀ track q, s.encoder track = .openGate q → q.frame.isKeyFrame = true
  arms : Arms s.control
  late : s.video.IsChain fun a b => VideoEntry.lateKeyFirst a b = true
  shut : ∀ frame, s.video.getLast? = some (.discarded frame) → Shut s

theorem isChain_snoc {R : VideoEntry → VideoEntry → Prop} {log : List VideoEntry}
    {entry : VideoEntry} :
    (log ++ [entry]).IsChain R ↔
      log.IsChain R ∧ ∀ last, log.getLast? = some last → R last entry := by
  rw [List.isChain_append]
  simp

namespace Gated

variable {s s' : RecordThreads}

section

variable (h : Gated s)
include h

/-- A step that does not concern the encoders, and closes the gate if it ends a pause. -/
theorem of_flags (hencoder : s'.encoder = s.encoder) (hvideo : s'.video = s.video)
    (harms : Arms s'.control)
    (hpaused : s.bPaused = true → s'.bPaused = true ∨ .armGate ∈ s'.control)
    (harm : .armGate ∈ s.control → .armGate ∈ s'.control ∨ s'.needToFindKeyFrame = true)
    (hneed : s.needToFindKeyFrame = true → s'.needToFindKeyFrame = true) : Gated s' := by
  refine ⟨hencoder ▸ h.audio, hencoder ▸ h.opens, harms, hvideo ▸ h.late, fun frame hlast => ?_⟩
  rw [hvideo] at hlast
  obtain ⟨hpassed, hclosed⟩ := h.shut frame hlast
  refine ⟨hencoder ▸ hpassed, ?_⟩
  rw [hencoder]
  rcases hclosed with ⟨htrue, hvideo⟩ | hmem | htrue | hadd
  · exact (hpaused htrue).elim (fun h => .inl ⟨h, hvideo⟩) fun h => .inr (.inl h)
  · exact (harm hmem).elim (fun h => .inr (.inl h)) fun h => .inr (.inr (.inl h))
  · exact .inr (.inr (.inl (hneed htrue)))
  · exact .inr (.inr (.inr hadd))

theorem controlStep {c : ControlStep} {rest : List ControlStep}
    (hcontrol : s.control = c :: rest)
    (hstep : controlStep { s with control := rest } c = some s') :
    Gated s' := by
  have harms := h.arms
  rw [hcontrol] at harms
  have hmem (hne : c ≠ .armGate) (harm : .armGate ∈ s.control) : .armGate ∈ rest := by
    rw [hcontrol, List.mem_cons] at harm
    exact harm.resolve_left fun heq => hne heq.symm
  cases c with
  | testPause =>
    cases hstep
    split
    · refine h.of_flags rfl rfl ⟨by simp, harms.2⟩ .inl (fun harm => .inl ?_) id
      exact List.mem_cons_of_mem _ (hmem (by simp) harm)
    · exact h.of_flags rfl rfl harms.2 .inl (fun harm => .inl (hmem (by simp) harm)) id
  | setPaused =>
    cases hstep
    exact h.of_flags rfl rfl harms.2 (fun _ => .inl rfl) (fun harm => .inl (hmem (by simp) harm)) id
  | testResume =>
    cases hstep
    split
    · exact h.of_flags rfl rfl ⟨by simp, by simp, harms.2⟩ .inl (fun _ => .inl (by simp)) id
    · exact h.of_flags rfl rfl harms.2 .inl (fun harm => .inl (hmem (by simp) harm)) id
  | clearRecording =>
    cases hstep
    refine ⟨h.audio, h.opens, harms.2, isChain_snoc.mpr ⟨h.late, fun last _ => ?_⟩, ?_⟩
    · cases last <;> rfl
    · intro frame hlast
      simp at hlast
  | clearPaused =>
    cases hstep
    exact h.of_flags rfl rfl harms.2 (fun _ => .inr (harms.1 rfl))
      (fun harm => .inl (hmem (by simp) harm)) id
  | armGate =>
    cases hstep
    exact h.of_flags rfl rfl harms.2 .inl (fun _ => .inr rfl) fun _ => rfl
  | clear =>
    cases hcache : s.frameCache with
    | nil =>
      cases (controlStep_clear_nil (by exact hcache)).symm.trans hstep
      exact h.of_flags rfl rfl harms.2 .inl (fun harm => .inl (hmem (by simp) harm)) id
    | cons q cache =>
      cases (controlStep_clear_cons (by exact hcache)).symm.trans hstep
      refine h.of_flags rfl rfl harms .inl (fun harm => .inl ?_) id
      exact List.mem_cons_of_mem _ (hmem (by simp) harm)
  | join =>
    obtain ⟨-, rfl⟩ := controlStep_join_eq hstep
    exact h.of_flags rfl rfl harms.2 .inl (fun harm => .inl (hmem (by simp) harm)) id

theorem workerStep {outcome : Bool} {pc : WorkerPc}
    (hstep : s.workerStep outcome pc = some s') : Gated s' := by
  obtain ⟨_, _, _, _, rfl⟩ := workerStep_eq hstep
  exact h.of_flags rfl rfl h.arms .inl .inl id

theorem of_audio (hvideo : s'.video = s.video) (hcontrol : s'.control = s.control)
    (hpaused : s'.bPaused = s.bPaused) (hneed : s'.needToFindKeyFrame = s.needToFindKeyFrame)
    {pc : EncoderPc} (hencoder : s'.encoder = Function.update s.encoder .AUDIO_TRACK pc)
    (haudio : ∀ q, pc.frame? = some q → q.frame.isKeyFrame = false)
    (hpc : ∀ q, pc ≠ .openGate q) : Gated s' := by
  have hother : s'.encoder .VIDEO_TRACK = s.encoder .VIDEO_TRACK := by
    rw [hencoder]
    rfl
  have hself : s'.encoder .AUDIO_TRACK = pc := by
    rw [hencoder]
    exact Function.update_self _ _ _
  refine ⟨?_, ?_, hcontrol ▸ h.arms, hvideo ▸ h.late, ?_⟩
  · rwa [hself]
  · intro track q hopen
    cases track with
    | VIDEO_TRACK => exact h.opens _ q (hother ▸ hopen)
    | AUDIO_TRACK =>
      rw [hself] at hopen
      exact absurd hopen (hpc q)
  · intro frame hlast
    rw [hvideo] at hlast
    obtain ⟨hpassed, hclosed⟩ := h.shut frame hlast
    rw [← hother] at hpassed hclosed
    rw [← hcontrol, ← hpaused, ← hneed] at hclosed
    exact ⟨hpassed, hclosed⟩

theorem encoderStep_audio_eq (hstep : step s (.encoder .AUDIO_TRACK) = some s') :
    s'.encoder .VIDEO_TRACK = s.encoder .VIDEO_TRACK ∧
      s'.needToFindKeyFrame = s.needToFindKeyFrame := by
  have hnext : s.encoderStep .AUDIO_TRACK (s.encoder .AUDIO_TRACK) = some s' := hstep
  cases hpc : s.encoder .AUDIO_TRACK with
  | idle =>
    rw [hpc] at hnext
    cases hnext
  | testPaused q =>
    rw [hpc] at hnext
    cases hnext
    split <;> exact ⟨rfl, rfl⟩
  | testGate q | add q early =>
    rw [hpc] at hnext
    cases hnext
    exact ⟨rfl, rfl⟩
  | openGate q =>
    have hkey := h.audio q (by rw [hpc]; rfl)
    rw [h.opens _ q hpc] at hkey
    cases hkey

theorem encoderStep_audio
    (hstep : s.encoderStep .AUDIO_TRACK (s.encoder .AUDIO_TRACK) = some s') : Gated s' := by
  have haudio := h.audio
  cases hpc : s.encoder .AUDIO_TRACK with
  | idle =>
    rw [hpc] at hstep
    cases hstep
  | testPaused q =>
    rw [hpc] at hstep haudio
    cases hstep
    split
    · refine h.of_audio ?_ rfl rfl rfl rfl (by simp [EncoderPc.frame?]) (by simp)
      show s.video ++ [] = s.video
      rw [List.append_nil]
    · exact h.of_audio rfl rfl rfl rfl rfl haudio (by simp)
  | testGate q =>
    rw [hpc] at hstep haudio
    cases hstep
    have hkey := haudio q rfl
    refine h.of_audio rfl rfl rfl rfl rfl ?_ ?_
    · split_ifs <;> simp [EncoderPc.frame?, hkey]
    · split_ifs <;> simp_all
  | openGate q =>
    have hkey := haudio q (by rw [hpc]; rfl)
    rw [h.opens _ q hpc] at hkey
    cases hkey
  | add q early =>
    rw [hpc] at hstep
    cases hstep
    refine h.of_audio ?_ rfl rfl rfl rfl (by simp [EncoderPc.frame?]) (by simp)
    show s.video ++ [] = s.video
    rw [List.append_nil]

/-- A step of the video encoder that notes nothing. -/
theorem of_video (hvideo : s'.video = s.video) (hcontrol : s'.control = s.control)
    {pc : EncoderPc} (hencoder : s'.encoder = Function.update s.encoder .VIDEO_TRACK pc)
    (hpc : ∀ q, pc = .openGate q → q.frame.isKeyFrame = true)
    (hshut : Shut s → Shut s') : Gated s' := by
  have hother : s'.encoder .AUDIO_TRACK = s.encoder .AUDIO_TRACK := by
    rw [hencoder]
    rfl
  refine ⟨hother ▸ h.audio, ?_, hcontrol ▸ h.arms, hvideo ▸ h.late, ?_⟩
  · intro track q hopen
    cases track with
    | VIDEO_TRACK =>
      rw [hencoder, Function.update_self] at hopen
      exact hpc q hopen
    | AUDIO_TRACK => exact h.opens _ q (hother ▸ hopen)
  · intro frame hlast
    rw [hvideo] at hlast
    exact hshut (h.shut frame hlast)

theorem of_note {entry : VideoEntry} (hvideo : s'.video = s.video ++ [entry])
    (hcontrol : s'.control = s.control)
    (hencoder : s'.encoder = Function.update s.encoder .VIDEO_TRACK .idle)
    (hentry : ∀ last, s.video.getLast? = some last → VideoEntry.lateKeyFirst last entry = true)
    (hshut : ∀ frame, entry = .discarded frame → Shut s') : Gated s' := by
  have hother : s'.encoder .AUDIO_TRACK = s.encoder .AUDIO_TRACK := by
    rw [hencoder]
    rfl
  refine ⟨hother ▸ h.audio, ?_, hcontrol ▸ h.arms, ?_, ?_⟩
  · intro track q hopen
    cases track with
    | VIDEO_TRACK =>
      rw [hencoder, Function.update_self] at hopen
      cases hopen
    | AUDIO_TRACK => exact h.opens _ q (hother ▸ hopen)
  · rw [hvideo]
    exact isChain_snoc.mpr ⟨h.late, hentry⟩
  · intro frame hlast
    rw [hvideo, List.getLast?_concat] at hlast
    exact hshut frame (Option.some.inj hlast)

theorem encoderStep_video
    (hstep : s.encoderStep .VIDEO_TRACK (s.encoder .VIDEO_TRACK) = some s') : Gated s' := by
  have hself := s.setEncoder_encoder_self .VIDEO_TRACK
  cases hpc : s.encoder .VIDEO_TRACK with
  | idle =>
    rw [hpc] at hstep
    cases hstep
  | testPaused q =>
    rw [hpc] at hstep
    cases hstep
    split
    · rename_i hpaused
      refine h.of_note rfl rfl rfl (fun last _ => by cases last <;> rfl) fun _ _ => ?_
      refine ⟨fun q' early hadd => ?_, .inl ⟨hpaused, .inl (hself _)⟩⟩
      cases (hself _).symm.trans hadd
    · rename_i hpaused
      refine h.of_video rfl rfl rfl (by simp) fun hshut => ⟨fun q' early hadd => ?_, ?_⟩
      · cases (hself _).symm.trans hadd
      · obtain ⟨htrue, -⟩ | harm | hneed | ⟨q', early, hadd⟩ := hshut.closed
        · exact absurd htrue hpaused
        · exact .inr (.inl harm)
        · exact .inr (.inr (.inl hneed))
        · cases hpc.symm.trans hadd
  | testGate q =>
    rw [hpc] at hstep
    cases hstep
    cases hneed : s.needToFindKeyFrame with
    | true =>
      rw [if_pos rfl]
      refine h.of_video rfl rfl rfl ?_ fun _ => ⟨fun q' early hadd => ?_, .inr (.inr (.inl hneed))⟩
      · intro q' hopen
        split_ifs at hopen with hkey
        cases hopen
        exact hkey
      · rw [hself] at hadd
        split_ifs at hadd
    | false =>
      rw [if_neg (by simp)]
      refine h.of_video rfl rfl rfl (by simp) fun hshut => ?_
      have harm := hshut.armGate_of_testGate hpc hneed
      refine ⟨fun q' early hadd => ?_, .inr (.inl harm)⟩
      cases (hself _).symm.trans hadd
      exact .inl (decide_eq_true harm)
  | openGate q =>
    have hkey := h.opens _ q hpc
    rw [hpc] at hstep
    cases hstep
    refine h.of_video rfl rfl rfl (by simp) fun _ => ⟨fun q' early hadd => ?_, ?_⟩
    · cases (hself _).symm.trans hadd
      exact .inr hkey
    · exact .inr (.inr (.inr ⟨q, false, hself _⟩))
  | add q early =>
    rw [hpc] at hstep
    cases hstep
    refine h.of_note rfl rfl rfl (fun last hlast => ?_) fun frame hentry => by cases hentry
    cases last with
    | discarded frame =>
      have hpassed := (h.shut frame hlast).passed q early hpc
      simpa [VideoEntry.lateKeyFirst] using hpassed
    | queued frame early' => rfl
    | stopped => rfl

/-- A new call of `writeFrameByte`. -/
theorem encode {frame : SrsEsFrame} (hstep : step s (.encode frame) = some s') :
    Gated s' := by
  obtain ⟨hidle, hkey, rfl⟩ := step_encode_eq hstep
  split
  · cases htrack : frame.track with
    | AUDIO_TRACK =>
      refine h.of_audio rfl rfl rfl rfl rfl (fun q hq => ?_) (by simp)
      cases hq
      simpa [SrsEsFrame.isAudio, htrack] using hkey
    | VIDEO_TRACK =>
      rw [htrack] at hidle
      refine h.of_video rfl rfl rfl (by simp) fun hshut => ⟨fun q early hadd => ?_, ?_⟩
      · rw [setEncoder_encoder_self] at hadd
        cases hadd
      · obtain ⟨hpaused, -⟩ | harm | hneed | ⟨q, early, hadd⟩ := hshut.closed
        · exact .inl ⟨hpaused, .inr ⟨_, s.setEncoder_encoder_self _ _⟩⟩
        · exact .inr (.inl harm)
        · exact .inr (.inr (.inl hneed))
        · cases hidle.symm.trans hadd
  · exact h

theorem call {steps : List ControlStep} (harms : Arms steps)
    (hstep : s.call steps = some s') : Gated s' := by
  obtain ⟨hcontrol, rfl⟩ := call_eq hstep
  refine h.of_flags rfl rfl harms .inl (fun harm => ?_) id
  rw [hcontrol] at harm
  cases harm

theorem step {e : Event} (hstep : step s e = some s') : Gated s' := by
  cases e with
  | record =>
    obtain ⟨-, rfl⟩ := step_record_eq hstep
    exact h.of_flags rfl rfl h.arms .inl .inl id
  | pause => exact h.call (by simp [Arms]) hstep
  | resume => exact h.call (by simp [Arms]) hstep
  | stop => exact h.call (by simp [Arms, stopSteps]) hstep
  | control =>
    obtain ⟨c, rest, hcontrol, hnext⟩ := step_control_eq hstep
    exact h.controlStep hcontrol hnext
  | worker outcome => exact h.workerStep hstep
  | encode frame => exact h.encode hstep
  | encoder track =>
    cases track with
    | VIDEO_TRACK => exact h.encoderStep_video hstep
    | AUDIO_TRACK => exact h.encoderStep_audio hstep

end

theorem new : Gated {} where
  audio := fun _ hq => by cases hq
  opens := fun _ _ hopen => by cases hopen
  arms := trivial
  late := List.isChain_nil
  shut := fun _ hlast => by cases hlast

end Gated

theorem gated_of_run {w : List Event} {s : RecordThreads}
    (hrun : Interleave.run step {} w = some s) : Gated s :=
  Interleave.run_invariant (fun _ _ _ h hstep => Gated.step h hstep) w _ _ Gated.new hrun

/-! ## All interleavings -/

/-- **The gate behind a pause.**  For any interleaving of the threads: after every pause in
which a video frame was discarded, the first video frame that is queued is a key frame, if and
only if this holds of the frames for which the encoder has tested the gate before `resume`
had closed it. -/
theorem keyFirst_iff {w : List Event} {s : RecordThreads}
    (hrun : Interleave.run step {} w = some s) : KeyFirst s ↔ EarlyKeyFirst s := by
  have hlate := (gated_of_run hrun).late
  unfold KeyFirst EarlyKeyFirst
  rw [List.isChain_iff_getElem] at hlate ⊢
  rw [List.isChain_iff_getElem]
  refine forall₂_congr fun i hi => ?_
  rw [VideoEntry.keyFirst_iff_late_early]
  exact and_iff_right (hlate i hi)

/-- A recording with a key frame that is paused and discards a frame, up to the call of
`resume`. -/
def pausedRecording : List Event :=
  [.record, .worker true] ++
    (.encode (videoFrame true) :: List.replicate 4 (.encoder .VIDEO_TRACK)) ++
    [.pause, .control, .control, .encode (videoFrame false), .encoder .VIDEO_TRACK, .resume]

/-- The video encoder waits until `resume` has returned. -/
theorem keyFirst_afterResume :
    ∃ s, Interleave.run step {} (pausedRecording ++ List.replicate 3 .control ++
        (.encode (videoFrame false) :: List.replicate 2 (.encoder .VIDEO_TRACK)) ++
        (.encode (videoFrame true) :: List.replicate 4 (.encoder .VIDEO_TRACK))) = some s ∧
      s.frameCache.map Queued.frame = [videoFrame true, videoFrame true] ∧ KeyFirst s := by
  refine ⟨_, rfl, rfl, (keyFirst_iff (w := pausedRecording ++ List.replicate 3 .control ++
        (.encode (videoFrame false) :: List.replicate 2 (.encoder .VIDEO_TRACK)) ++
        (.encode (videoFrame true) :: List.replicate 4 (.encoder .VIDEO_TRACK))) rfl).mpr ?_⟩
  unfold EarlyKeyFirst
  decide

/-- The video encoder queues a frame between the two assignments of `resume`. -/
theorem not_keyFirst_insideResume :
    ∃ s, Interleave.run step {} (pausedRecording ++ List.replicate 2 .control ++
        (.encode (videoFrame false) :: List.replicate 3 (.encoder .VIDEO_TRACK)) ++
        [.control]) = some s ∧
      s.control = [] ∧
      s.video = [.queued (videoFrame true) false, .discarded (videoFrame false),
        .queued (videoFrame false) true] ∧
      ¬ KeyFirst s := by
  refine ⟨_, rfl, rfl, rfl, ?_⟩
  unfold KeyFirst
  decide

end RecordThreads

end MediasoupDemo.Mp4
