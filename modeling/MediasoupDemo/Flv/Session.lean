import MediasoupDemo.Flv.AccessUnit

/-!
# Sequence headers in a session

A session is what happens between `start` and `stop`.  A player decodes a NALU
tag with the latest sequence header in front of it, so that header should hold
the parameter sets that the encoder sent last.

* `Event` are the samples of a session and the steps of the other threads;
  `session` runs them.
* `received` is the latest configuration sample, and `announced` the one that
  the latest sequence header was made of: a configuration sample that repeats
  the PPS makes none.
* `Stage` is the invariant: it says which configuration the muxer has announced.
  `Stage.step` is the step, and `Idle.run_session` the whole session.
* The header is right for every NALU tag of a session if and only if no slice
  comes when the SPS has changed without the PPS
  (`nalusCovered_of_spsAnnounced`, `spsAnnounced_of_nalusCovered`).
-/

namespace MediasoupDemo.Flv

open ByteCodec Annexb MediasoupDemo.Runtime Method

/-- A NALU video frame. -/
def SrsFlvFrame.IsNalu (frame : SrsFlvFrame) : Prop :=
  frame.isVideo = true ∧ frame.avc_aac_type = .NALU

namespace SrsFlvMuxer

/-! ## Sessions -/

/-- A sample with a slice behind a four byte start code. -/
structure SliceSample where
  header : UInt8
  rest : List UInt8
  presentationTimeUs : Int
  flags : BitVec 32
  isSlice : header &&& 0x1f = NonIDR ∨ header &&& 0x1f = IDR

def SliceSample.bytes (s : SliceSample) : List UInt8 := StartCode.four.bytes ++ s.header :: s.rest

/-- The meta data of the sample. -/
def SliceSample.bufferInfo (s : SliceSample) : BufferInfo where
  offset := 0
  size := s.bytes.length
  presentationTimeUs := s.presentationTimeUs
  flags := s.flags

/-- What happens in a session.  The last four are the other calls of the
encoder, the steps of the worker, and the end of an earlier session. -/
inductive Event where
  | config (c : Config)
  | slice (s : SliceSample)
  | addTrack (format : Mp4.MediaFormat)
  | workerConnect
  | workerPoll
  | disconnect

def Event.call : Event → Call
  | config c => .writeSampleData .VIDEO_TRACK (.wrap c.bytes) c.bufferInfo
  | slice s => .writeSampleData .VIDEO_TRACK (.wrap s.bytes) s.bufferInfo
  | addTrack format => .addTrack format
  | workerConnect => .workerConnect
  | workerPoll => .workerPoll
  | disconnect => .disconnect

/-- One event after the other. -/
def runEvents : List Event → Method SrsFlvMuxer Unit
  | [] => pure ()
  | e :: events => do
      e.call.method
      runEvents events

/-- A session up to some event. -/
def session (events : List Event) : Method SrsFlvMuxer Unit := do
  start
  runEvents events

/-- The event is no sample. -/
def Event.IsBackground (e : Event) : Prop := (∀ c, e ≠ .config c) ∧ ∀ s, e ≠ .slice s

/-- A muxer before a session: a new one, or one that was stopped, and that has
got no sample since. -/
inductive Idle : SrsFlvMuxer → Prop
  | new : Idle {}
  | stopped {m m' : SrsFlvMuxer} : Reachable m → stop.run m = .ok () m' → Idle m'
  | background {m m' : SrsFlvMuxer} {e : Event} :
      Idle m → e.IsBackground → e.call.method.run m = .ok () m' → Idle m'

/-! ## What the headers should say -/

/-- The configuration after an event. -/
def receive : Option Config → Event → Option Config
  | _, .config c => some c
  | before, _ => before

/-- The latest configuration sample. -/
def received (events : List Event) : Option Config := events.foldl receive none

/-- The announced configuration after an event. -/
def announce : Option Config → Event → Option Config
  | some before, .config c => if before.pps = c.pps then some before else some c
  | none, .config c => some c
  | before, _ => before

/-- The configuration sample that came with the latest change of the PPS. -/
def announced (events : List Event) : Option Config := events.foldl announce none

/-- The latest video sequence header. -/
def latestHeader (frames : List SrsFlvFrame) : Option SrsFlvFrame :=
  (frames.filter fun frame => frame.isVideo && frame.isSequenceHeader).getLast?

/-- The latest sequence header carries the parameter sets of a configuration. -/
def HeaderCarries (frames : List SrsFlvFrame) (c : Config) : Prop :=
  ∃ frame, latestHeader frames = some frame ∧
    frame.flvTag.content = tagHeader .KeyFrame .SequenceHeader frame.dts frame.dts ++
      configurationRecord c.sps c.pps

/-- Every NALU video frame that an event puts in the queue has a sequence header
in front of it, and the latest one carries the configuration received last. -/
def NalusCovered (m : SrsFlvMuxer) (events : List Event) : Prop :=
  ∀ before e after m₁ m₂ frame, events = before ++ e :: after →
    (session before).run m = .ok () m₁ → e.call.method.run m₁ = .ok () m₂ →
    m₂.history = m₁.history ++ [frame] → frame.IsNalu →
    ∃ c, received before = some c ∧ HeaderCarries m₁.history c

/-- Whenever a slice comes, the SPS received last is the announced one. -/
def SpsAnnounced (events : List Event) : Prop :=
  ∀ before s after, events = before ++ .slice s :: after →
    (announced before).map Config.sps = (received before).map Config.sps

/-! ## Lemmas about the queue -/

section Queue

variable {m : SrsFlvMuxer} {frame : SrsFlvFrame}

theorem history_queued (hstarted : m.started = true) :
    (m.queued frame).history = m.history ++ [frame] := by
  rw [queued, if_pos hstarted]

theorem started_queued (m : SrsFlvMuxer) (frame : SrsFlvFrame) :
    (m.queued frame).started = m.started := by
  unfold queued
  split <;> rfl

theorem needToFindKeyFrame_queued (m : SrsFlvMuxer) (frame : SrsFlvFrame) :
    (m.queued frame).needToFindKeyFrame = m.needToFindKeyFrame := by
  unfold queued
  split <;> rfl

theorem started_packetWritten (m : SrsFlvMuxer) (frame : SrsFlvFrame) :
    (m.packetWritten frame).started = m.started := by
  unfold packetWritten
  split
  · split
    · rw [started_queued]
    · rfl
  · rw [started_queued]

/-- A frame that need not wait for a key frame is queued. -/
theorem history_packetWritten (hstarted : m.started = true)
    (hpass : m.needToFindKeyFrame = true → frame.isKeyFrame = true) :
    (m.packetWritten frame).history = m.history ++ [frame] := by
  unfold packetWritten
  split
  · rename_i hwait
    rw [Bool.and_eq_true] at hwait
    rw [if_pos (hpass hwait.2)]
    exact history_queued hstarted
  · exact history_queued hstarted

theorem needToFindKeyFrame_packetWritten (hvideo : frame.isVideo = true)
    (hpass : m.needToFindKeyFrame = true → frame.isKeyFrame = true) :
    (m.packetWritten frame).needToFindKeyFrame = false := by
  unfold packetWritten
  rw [hvideo, Bool.true_and]
  by_cases hwait : m.needToFindKeyFrame = true
  · rw [if_pos hwait, if_pos (hpass hwait), needToFindKeyFrame_queued]
  · rw [if_neg hwait, needToFindKeyFrame_queued]
    simpa using hwait

theorem latestHeader_snoc_header (frames : List SrsFlvFrame)
    (h : (frame.isVideo && frame.isSequenceHeader) = true) :
    latestHeader (frames ++ [frame]) = some frame := by
  simp [latestHeader, List.filter_append, h]

theorem latestHeader_snoc_other (frames : List SrsFlvFrame)
    (h : (frame.isVideo && frame.isSequenceHeader) = false) :
    latestHeader (frames ++ [frame]) = latestHeader frames := by
  simp [latestHeader, List.filter_append, h]

end Queue

/-! ## The invariant -/

/-- Nothing was announced: no sequence header was sent, and every PPS is new. -/
structure Silent (m : SrsFlvMuxer) : Prop where
  unsent : m.flv.h264_sps_pps_sent = false
  keyFrame : m.needToFindKeyFrame = true
  newPps : ∀ c : Config, (ByteBuffer.wrap c.pps).equals m.flv.h264_pps = false

/-- A configuration was announced, and another with the same PPS received. -/
structure Live (m : SrsFlvMuxer) (announced received : Config) : Prop where
  sent : m.flv.h264_sps_pps_sent = true
  keyFrame : m.needToFindKeyFrame = false
  pps : m.flv.h264_pps = some (.wrap announced.pps)
  carries : HeaderCarries m.history announced
  samePps : announced.pps = received.pps

/-- Where a session stands, by what was announced and received. -/
def Stands (m : SrsFlvMuxer) : Option Config → Option Config → Prop
  | none, none => m.Silent
  | some announced, some received => m.Live announced received
  | _, _ => False

/-- The invariant of a session. -/
structure Stage (m : SrsFlvMuxer) (before : List Event) : Prop where
  sound : m.Sound
  started : m.started = true
  spsPlain : m.SpsPlain
  stands : m.Stands (announced before) (received before)

theorem announced_snoc (before : List Event) (e : Event) :
    announced (before ++ [e]) = announce (announced before) e := by
  rw [announced, announced, List.foldl_append]
  rfl

theorem received_snoc (before : List Event) (e : Event) :
    received (before ++ [e]) = receive (received before) e := by
  rw [received, received, List.foldl_append]
  rfl

variable {m : SrsFlvMuxer} {events : List Event}

/-- The two cases of the invariant. -/
theorem Stage.cases {before : List Event} (h : m.Stage before) :
    (announced before = none ∧ received before = none ∧ m.Silent) ∨
      ∃ a r, announced before = some a ∧ received before = some r ∧ m.Live a r := by
  have hstands := h.stands
  cases ha : announced before with
  | none =>
    cases hr : received before with
    | none =>
      rw [ha, hr] at hstands
      exact .inl ⟨rfl, rfl, hstands⟩
    | some r =>
      rw [ha, hr] at hstands
      exact hstands.elim
  | some a =>
    cases hr : received before with
    | none =>
      rw [ha, hr] at hstands
      exact hstands.elim
    | some r =>
      rw [ha, hr] at hstands
      exact .inr ⟨a, r, rfl, rfl, hstands⟩

/-! ## Cleared parameter sets -/

theorem not_infix_replicate (n : Nat) : ¬ [0, 0, 1] <:+: List.replicate n (0 : UInt8) := by
  intro h
  have hmem : (1 : UInt8) ∈ List.replicate n (0 : UInt8) := h.subset (by simp)
  exact absurd (List.eq_of_mem_replicate hmem) (by decide)

/-- A PPS does not consist of zeros. -/
theorem equals_zeroFill (c : Config) (bb : Option ByteBuffer) :
    (ByteBuffer.wrap c.pps).equals (bb.map zeroFill) = false := by
  rw [← Bool.not_eq_true, ByteBuffer.equals_wrap_iff, Option.map_map]
  intro heq
  obtain ⟨bb, -, hzeros⟩ := Option.map_eq_some_iff.mp heq
  rw [Function.comp_apply, zeroFill, ByteBuffer.content_wrap] at hzeros
  obtain ⟨b, rest, hpps, htype⟩ := c.pps_type
  have hmem : b ∈ List.replicate bb.array.length (0 : UInt8) := by
    rw [hzeros, hpps]
    simp
  rw [List.eq_of_mem_replicate hmem] at htype
  exact absurd htype (by decide)

/-! ## One event -/

section Step

variable {m : SrsFlvMuxer} {before : List Event}

/-- The state keeps what the invariant reads. -/
structure Keeps (m m' : SrsFlvMuxer) : Prop where
  sps : m'.flv.h264_sps = m.flv.h264_sps
  pps : m'.flv.h264_pps = m.flv.h264_pps
  sent : m'.flv.h264_sps_pps_sent = m.flv.h264_sps_pps_sent
  started : m'.started = m.started
  keyFrame : m'.needToFindKeyFrame = m.needToFindKeyFrame
  history : m'.history = m.history

variable {m' : SrsFlvMuxer}

theorem SpsPlain.of_keeps (h : m.SpsPlain) (hkeeps : Keeps m m') :
    m'.SpsPlain :=
  fun sps hsps => h sps (hkeeps.sps.symm.trans hsps)

theorem Silent.of_keeps (h : m.Silent) (hkeeps : Keeps m m') : m'.Silent :=
  ⟨hkeeps.sent.trans h.unsent, hkeeps.keyFrame.trans h.keyFrame,
    fun c => by rw [hkeeps.pps]; exact h.newPps c⟩

theorem Stands.of_keeps {a r : Option Config} (h : m.Stands a r) (hkeeps : Keeps m m') :
    m'.Stands a r := by
  match a, r, h with
  | none, none, h => exact Silent.of_keeps h hkeeps
  | some _, some _, h =>
    exact ⟨hkeeps.sent.trans h.sent, hkeeps.keyFrame.trans h.keyFrame, hkeeps.pps.trans h.pps,
      by rw [hkeeps.history]; exact h.carries, h.samePps⟩

/-- An event that is no sample and keeps the state keeps the invariant. -/
theorem Stage.of_keeps (h : m.Stage before) {e : Event} (hrun : e.call.method.run m = .ok () m')
    (hkeeps : Keeps m m') (ha : announce (announced before) e = announced before)
    (hr : receive (received before) e = received before) : m'.Stage (before ++ [e]) := by
  refine ⟨h.sound.call hrun, hkeeps.started.trans h.started, h.spsPlain.of_keeps hkeeps, ?_⟩
  rw [announced_snoc, received_snoc, ha, hr]
  exact h.stands.of_keeps hkeeps

theorem Aside.keeps (h : Aside m m') : Keeps m m' :=
  ⟨h.sps, h.pps, h.sent, h.started, h.keyFrame, h.history⟩

theorem returns_sendFlvTag (hvideo : m.mVideoAllocator.Released)
    (haudio : m.mAudioAllocator.Released) (frame : SrsFlvFrame) :
    Returns (sendFlvTag frame) m := by
  obtain ⟨videoPool, hvideo, -⟩ := SrsAllocator.release_of_released hvideo frame.flvTag
  obtain ⟨audioPool, haudio, -⟩ := SrsAllocator.release_of_released haudio frame.flvTag
  rw [sendFlvTag, returns_modify_bind, returns_get_bind]
  cases frame.type with
  | Video => exact returns_ofExcept_bind.mpr ⟨videoPool, hvideo, (), _, rfl⟩
  | Audio => exact returns_ofExcept_bind.mpr ⟨audioPool, haudio, (), _, rfl⟩

theorem returns_workerPoll (h : m.Sound) : Returns workerPoll m := by
  rw [workerPoll, returns_get_bind]
  split
  · exact returns_pure () m
  · rename_i frame rest hqueue
    rw [returns_set_bind, workerFrame]
    split
    · rw [returns_modify_bind]
      unfold storeHeader
      split
      · exact returns_sendFlvTag (by exact h.videoPool) (by exact h.audioPool) frame
      · exact returns_sendFlvTag (by exact h.videoPool) (by exact h.audioPool) frame
    · rw [returns_get_bind]
      split
      · exact returns_sendFlvTag (by exact h.videoPool) (by exact h.audioPool) frame
      · exact returns_pure () _

theorem Stage.config_new (h : m.Stage before) {c : Config}
    (hnew : (ByteBuffer.wrap c.pps).equals m.flv.h264_pps = false)
    (ha : announce (announced before) (.config c) = some c) :
    ∃ m' frame, (Event.config c).call.method.run m = .ok () m' ∧ m'.Stage (before ++ [.config c]) ∧
      m'.history = m.history ++ [frame] ∧ ¬ frame.IsNalu := by
  obtain ⟨tag, hcontent, hrun⟩ := run_config_newPps h.sound.videoPool h.spsPlain c hnew
  let m₁ := m.onFlv (SrsFlv.setHeader c.sps c.pps tag)
  let frame : SrsFlvFrame :=
    { flvTag := tag, type := .Video, dts := dtsOf c.bufferInfo, frame_type := .KeyFrame
      avc_aac_type := .SequenceHeader }
  have hhistory : (m₁.packetWritten frame).history = m.history ++ [frame] :=
    history_packetWritten h.started fun _ => rfl
  refine ⟨m₁.packetWritten frame, frame, hrun, ?_, hhistory, ?_⟩
  · have hsound : (m₁.packetWritten frame).Sound :=
      h.sound.call (c := (Event.config c).call) hrun
    refine ⟨hsound, ?_, ?_, ?_⟩
    · rw [started_packetWritten]
      exact h.started
    · intro sps hsps
      rw [flv_packetWritten] at hsps
      cases hsps
      rw [ByteBuffer.content_wrap]
      exact c.sps_isNalUnit.noStartCode
    · rw [announced_snoc, received_snoc, ha]
      refine ⟨?_, needToFindKeyFrame_packetWritten rfl fun _ => rfl, ?_, ?_, rfl⟩
      · rw [flv_packetWritten]
        rfl
      · rw [flv_packetWritten]
        rfl
      · refine ⟨frame, ?_, hcontent⟩
        rw [hhistory]
        exact latestHeader_snoc_header _ rfl
  · rintro ⟨-, hnalu⟩
    cases hnalu

/-- A configuration sample that repeats the PPS changes the SPS only. -/
theorem Stage.config_same (h : m.Stage before) {a r c : Config} (ha : announced before = some a)
    (hlive : m.Live a r) (hsame : a.pps = c.pps) :
    ∃ m', (Event.config c).call.method.run m = .ok () m' ∧ m'.Stage (before ++ [.config c]) ∧
      m'.history = m.history := by
  have hpps : m.flv.h264_pps = some (.wrap c.pps) := by rw [← hsame]; exact hlive.pps
  have hrun := run_config_samePps h.spsPlain c hpps
  refine ⟨m.onFlv (SrsFlv.setSps c.sps), hrun, ?_, rfl⟩
  refine ⟨h.sound.call (c := (Event.config c).call) hrun, h.started, ?_, ?_⟩
  · intro sps hsps
    cases hsps
    rw [ByteBuffer.content_wrap]
    exact c.sps_isNalUnit.noStartCode
  · rw [announced_snoc, received_snoc, ha, announce, if_pos hsame]
    exact ⟨hlive.sent, hlive.keyFrame, hlive.pps, hlive.carries, hsame⟩

theorem run_slice (s : SliceSample) :
    (Event.slice s).call.method.run m =
      (writeSlice (frameOf (s.header :: s.rest)) (sliceType s.header) (dtsOf s.bufferInfo)
        (dtsOf s.bufferInfo)).run m := by
  have hlong : 4 < s.bytes.length := by
    rw [SliceSample.bytes, List.length_append, List.length_cons]
    show 4 < 4 + (s.rest.length + 1)
    omega
  have hsize : s.bufferInfo.size = s.bytes.length := rfl
  exact run_writeVideoSample_slice .four s.isSlice hlong hsize

/-- A slice is queued once a configuration was announced. -/
theorem Stage.slice_live (h : m.Stage before) {a r : Config} (ha : announced before = some a)
    (hr : received before = some r) (hlive : m.Live a r) (s : SliceSample) :
    ∃ m' frame, (Event.slice s).call.method.run m = .ok () m' ∧ m'.Stage (before ++ [.slice s]) ∧
      m'.history = m.history ++ [frame] ∧ frame.IsNalu := by
  obtain ⟨tag, -, hrun⟩ := run_writeSlice_sent h.sound.ipbs (sliceType s.header)
    (dtsOf s.bufferInfo) (dtsOf s.bufferInfo) h.sound.videoPool hlive.sent
    (starts_frameOf (s.header :: s.rest))
  rw [← run_slice] at hrun
  let m₁ := m.onFlv (SrsFlv.setVideoTag tag)
  let frame : SrsFlvFrame :=
    { flvTag := tag, type := .Video, dts := dtsOf s.bufferInfo, frame_type := sliceType s.header
      avc_aac_type := .NALU }
  have hpass : m₁.needToFindKeyFrame = true → frame.isKeyFrame = true := by
    intro hwait
    exact absurd (hwait.symm.trans hlive.keyFrame) (by decide)
  have hhistory : (m₁.packetWritten frame).history = m.history ++ [frame] :=
    history_packetWritten h.started hpass
  refine ⟨m₁.packetWritten frame, frame, hrun, ?_, hhistory, rfl, rfl⟩
  refine ⟨h.sound.call (c := (Event.slice s).call) hrun, ?_, ?_, ?_⟩
  · rw [started_packetWritten]
    exact h.started
  · intro sps hsps
    rw [flv_packetWritten] at hsps
    exact h.spsPlain sps hsps
  · rw [announced_snoc, received_snoc, ha, hr]
    refine ⟨?_, needToFindKeyFrame_packetWritten rfl hpass, ?_, ?_, hlive.samePps⟩
    · rw [flv_packetWritten]
      exact hlive.sent
    · rw [flv_packetWritten]
      exact hlive.pps
    · obtain ⟨header, hlatest, hcontent⟩ := hlive.carries
      refine ⟨header, ?_, hcontent⟩
      rw [hhistory, latestHeader_snoc_other _ rfl]
      exact hlatest

theorem Stage.slice_silent (h : m.Stage before) (hsilent : m.Silent) (s : SliceSample) :
    (Event.slice s).call.method.run m = .ok () m ∧ m.Stage (before ++ [.slice s]) := by
  have hrun : (Event.slice s).call.method.run m = .ok () m := by
    rw [run_slice]
    exact run_writeSlice_unsent h.sound.ipbs _ _ _ hsilent.unsent _
  have hannounce : announce (announced before) (.slice s) = announced before := by
    cases announced before <;> rfl
  exact ⟨hrun, h.of_keeps hrun ⟨rfl, rfl, rfl, rfl, rfl, rfl⟩ hannounce rfl⟩

/-- The events that are no samples keep what the invariant reads. -/
theorem run_background (h : m.Sound) {e : Event} (hback : e.IsBackground) :
    ∃ m', e.call.method.run m = .ok () m' ∧ Keeps m m' := by
  cases e with
  | config c => exact absurd rfl (hback.1 c)
  | slice s => exact absurd rfl (hback.2 s)
  | workerPoll =>
    obtain ⟨⟨⟩, m', hrun⟩ := returns_workerPoll h
    exact ⟨m', hrun, (aside_workerPoll.of_ok (.refl m) hrun).keeps⟩
  | workerConnect | disconnect => exact ⟨_, rfl, rfl, rfl, rfl, rfl, rfl, rfl⟩
  | addTrack format =>
    have hadd : Returns (SrsFlvMuxer.addTrack format) m := by
      rw [SrsFlvMuxer.addTrack]
      split
      · exact ⟨_, _, rfl⟩
      · exact ⟨_, _, rfl⟩
    obtain ⟨trackIndex, m', hrun⟩ := hadd
    exact ⟨m', run_bind_ok hrun _, ((aside_addTrack format).of_ok (.refl m) hrun).keeps⟩

/-- What an event does: it does not throw, keeps the invariant, and queues at
most one frame.  Only a slice queues a NALU frame, and only when a
configuration was announced. -/
structure Steps (m m' : SrsFlvMuxer) (before : List Event) (e : Event) : Prop where
  run : e.call.method.run m = .ok () m'
  stage : m'.Stage (before ++ [e])
  queue : m'.history = m.history ∨ ∃ frame, m'.history = m.history ++ [frame] ∧
    (frame.IsNalu → ∃ a r, announced before = some a ∧ received before = some r ∧
      m.Live a r ∧ ∃ s, e = .slice s)

theorem Stage.step_config (h : m.Stage before) (c : Config) :
    ∃ m', Steps m m' before (.config c) := by
  have hheader : (ByteBuffer.wrap c.pps).equals m.flv.h264_pps = false →
      announce (announced before) (.config c) = some c → ∃ m', Steps m m' before (.config c) := by
    intro hnew ha
    obtain ⟨m', frame, hrun, hstage, hhistory, hno⟩ := h.config_new hnew ha
    exact ⟨m', hrun, hstage, .inr ⟨frame, hhistory, fun hnalu => absurd hnalu hno⟩⟩
  rcases h.cases with ⟨ha, -, hsilent⟩ | ⟨a, r, ha, -, hlive⟩
  · apply hheader (hsilent.newPps c)
    rw [ha]
    rfl
  · by_cases hsame : a.pps = c.pps
    · obtain ⟨m', hrun, hstage, hhistory⟩ := h.config_same ha hlive hsame
      exact ⟨m', hrun, hstage, .inl hhistory⟩
    · apply hheader
      · rw [← Bool.not_eq_true, ByteBuffer.equals_wrap_iff, hlive.pps, Option.map_some,
          ByteBuffer.content_wrap, Option.some.injEq]
        exact hsame
      · rw [ha, announce, if_neg hsame]

theorem Stage.step_slice (h : m.Stage before) (s : SliceSample) :
    ∃ m', Steps m m' before (.slice s) := by
  rcases h.cases with ⟨-, -, hsilent⟩ | ⟨a, r, ha, hr, hlive⟩
  · obtain ⟨hrun, hstage⟩ := h.slice_silent hsilent s
    exact ⟨m, hrun, hstage, .inl rfl⟩
  · obtain ⟨m', frame, hrun, hstage, hhistory, -⟩ := h.slice_live ha hr hlive s
    exact ⟨m', hrun, hstage, .inr ⟨frame, hhistory, fun _ => ⟨a, r, ha, hr, hlive, s, rfl⟩⟩⟩

theorem Stage.step (h : m.Stage before) (e : Event) : ∃ m', Steps m m' before e := by
  by_cases hconfig : ∃ c, e = .config c
  · obtain ⟨c, rfl⟩ := hconfig
    exact h.step_config c
  by_cases hslice : ∃ s, e = .slice s
  · obtain ⟨s, rfl⟩ := hslice
    exact h.step_slice s
  have hback : e.IsBackground := ⟨fun c heq => hconfig ⟨c, heq⟩, fun s heq => hslice ⟨s, heq⟩⟩
  obtain ⟨m', hrun, hkeeps⟩ := run_background h.sound hback
  have hunchanged : announce (announced before) e = announced before ∧
      receive (received before) e = received before := by
    cases e with
    | config c => exact absurd rfl (hback.1 c)
    | _ => exact ⟨by cases announced before <;> rfl, rfl⟩
  exact ⟨m', hrun, h.of_keeps hrun hkeeps hunchanged.1 hunchanged.2, .inl hkeeps.history⟩

end Step

/-! ## Whole sessions -/

/-- An idle muxer has nothing announced. -/
theorem Idle.silent (h : Idle m) : m.Sound ∧ m.SpsPlain ∧ m.Silent := by
  induction h with
  | new =>
    refine ⟨sound_new, ?_, rfl, rfl, fun _ => rfl⟩
    intro sps hsps
    cases hsps
  | @stopped m₁ m₂ hm hstop =>
    have hsound := hm.sound
    cases hstop
    refine ⟨⟨hsound.ipbs, hsound.videoPool, hsound.audioPool⟩, ?_, rfl, rfl, ?_⟩
    · intro sps hsps
      obtain ⟨bb, -, rfl⟩ := Option.map_eq_some_iff.mp hsps
      rw [zeroFill, ByteBuffer.content_wrap]
      exact not_infix_replicate _
    · intro c
      exact equals_zeroFill c m₁.flv.h264_pps
  | @background m₁ m₂ e _ hback hrun ih =>
    obtain ⟨hsound, hplain, hsilent⟩ := ih
    obtain ⟨m', hrun', hkeeps⟩ := run_background hsound hback
    rw [hrun] at hrun'
    cases hrun'
    exact ⟨hsound.call hrun, hplain.of_keeps hkeeps, hsilent.of_keeps hkeeps⟩

theorem Idle.run_start (h : Idle m) :
    ∃ m', start.run m = .ok () m' ∧ m'.Stage [] := by
  obtain ⟨hsound, hplain, hsilent⟩ := h.silent
  refine ⟨{ m with started := true, history := [] }, rfl,
    ⟨hsound.ipbs, hsound.videoPool, hsound.audioPool⟩, rfl, hplain, ?_⟩
  exact ⟨hsilent.unsent, hsilent.keyFrame, hsilent.newPps⟩

/-- The invariant holds after any events. -/
theorem Stage.runEvents {before : List Event} (h : m.Stage before) (events : List Event) :
    ∃ m', (SrsFlvMuxer.runEvents events).run m = .ok () m' ∧ m'.Stage (before ++ events) := by
  induction events generalizing m before with
  | nil =>
    refine ⟨m, rfl, ?_⟩
    rw [List.append_nil]
    exact h
  | cons e events ih =>
    obtain ⟨m₁, hstep⟩ := h.step e
    obtain ⟨m', hrun, hstage⟩ := ih hstep.stage
    refine ⟨m', ?_, ?_⟩
    · rw [SrsFlvMuxer.runEvents, run_bind_ok hstep.run, hrun]
    · rw [List.append_assoc] at hstage
      exact hstage

/-- A session of an idle muxer does not throw and keeps the invariant. -/
theorem Idle.run_session (h : Idle m) (events : List Event) :
    ∃ m', (session events).run m = .ok () m' ∧ m'.Stage events := by
  obtain ⟨m₁, hstart, hstage⟩ := h.run_start
  obtain ⟨m', hrun, hstage'⟩ := hstage.runEvents events
  exact ⟨m', by rw [session, run_bind_ok hstart, hrun], hstage'⟩

/-- The invariant of the state that a session has reached. -/
theorem Idle.stage {m₁ : SrsFlvMuxer} (h : Idle m) (hrun : (session events).run m = .ok () m₁) :
    m₁.Stage events := by
  obtain ⟨m', hrun', hstage⟩ := h.run_session events
  rw [hrun] at hrun'
  cases hrun'
  exact hstage

/-- The latest header carries two configurations with the same PPS only if the
SPS is the same. -/
theorem HeaderCarries.sps_eq {frames : List SrsFlvFrame} {a r : Config}
    (ha : HeaderCarries frames a) (hr : HeaderCarries frames r) (hpps : a.pps = r.pps) :
    a.sps = r.sps := by
  obtain ⟨frame, hlatest, hcontent⟩ := ha
  obtain ⟨frame', hlatest', hcontent'⟩ := hr
  rw [hlatest] at hlatest'
  cases hlatest'
  rw [hcontent, ← hpps] at hcontent'
  exact configurationRecord_inj (List.append_cancel_left hcontent')

/-- When the SPS that is current at a slice was announced, the header is right. -/
theorem nalusCovered_of_spsAnnounced (h : Idle m) (hsps : SpsAnnounced events) :
    NalusCovered m events := by
  intro before e after m₁ m₂ frame hevents hrun₁ hrun₂ hhistory hnalu
  obtain ⟨m', hstep⟩ := (h.stage hrun₁).step e
  have hrun := hstep.run
  rw [hrun₂] at hrun
  cases hrun
  rcases hstep.queue with hsame | ⟨frame', hnew, honly⟩
  · rw [hsame] at hhistory
    have hlength := congrArg List.length hhistory
    simp at hlength
  · rw [hhistory] at hnew
    have hframe : frame = frame' := by simpa using hnew
    subst hframe
    -- Only a slice queues a NALU frame, and only once a header is out.
    obtain ⟨a, r, ha, hr, hlive, s, rfl⟩ := honly hnalu
    have heq := hsps before s after hevents
    rw [ha, hr, Option.map_some, Option.map_some, Option.some.injEq] at heq
    obtain ⟨header, hlatest, hcontent⟩ := hlive.carries
    refine ⟨r, hr, header, hlatest, ?_⟩
    rw [hcontent, heq, hlive.samePps]

/-- A slice that comes with another SPS goes out behind the wrong header. -/
theorem spsAnnounced_of_nalusCovered (h : Idle m) (hcovered : NalusCovered m events) :
    SpsAnnounced events := by
  intro before s after hevents
  obtain ⟨m₁, hrun₁, hstage⟩ := h.run_session before
  rcases hstage.cases with ⟨ha, hr, -⟩ | ⟨a, r, ha, hr, hlive⟩
  · rw [ha, hr]
  · obtain ⟨m₂, frame, hrun₂, -, hhistory, hnalu⟩ := hstage.slice_live ha hr hlive s
    obtain ⟨c, hc, hcarries⟩ := hcovered before (.slice s) after m₁ m₂ frame hevents hrun₁ hrun₂
      hhistory hnalu
    rw [hr] at hc
    cases hc
    rw [ha, hr, Option.map_some, Option.map_some, hlive.carries.sps_eq hcarries hlive.samePps]

/-- No session throws, and every event queues at most one frame.  All NALU
frames have the right sequence header in front of them if and only if, at every
slice, the SPS received last is the one that came with the latest change of the
PPS. -/
theorem nalusCovered_iff {m : SrsFlvMuxer} (h : Idle m) (events : List Event) :
    (∃ m', (session events).run m = .ok () m') ∧
    (∀ before e after, events = before ++ e :: after →
      ∃ m₁ m₂, (session before).run m = .ok () m₁ ∧ e.call.method.run m₁ = .ok () m₂ ∧
        (m₂.history = m₁.history ∨ ∃ frame, m₂.history = m₁.history ++ [frame])) ∧
    (NalusCovered m events ↔ SpsAnnounced events) := by
  refine ⟨?_, ?_, spsAnnounced_of_nalusCovered h, nalusCovered_of_spsAnnounced h⟩
  · obtain ⟨m', hrun, -⟩ := h.run_session events
    exact ⟨m', hrun⟩
  · intro before e after _
    obtain ⟨m₁, hrun₁, hstage⟩ := h.run_session before
    obtain ⟨m₂, hstep⟩ := hstage.step e
    refine ⟨m₁, m₂, hrun₁, hstep.run, ?_⟩
    rcases hstep.queue with hsame | ⟨frame, hnew, -⟩
    · exact .inl hsame
    · exact .inr ⟨frame, hnew⟩

/-- A key frame. -/
def keySlice : SliceSample where
  header := 0x65
  rest := [0x88, 0x84]
  presentationTimeUs := 40000
  flags := 1
  isSlice := by decide

/-- The baseline configuration with another level in the SPS. -/
def otherLevel : Config :=
  { baseline with
    sps := [0x67, 0x42, 0x00, 0x28, 0x96]
    sps_isNalUnit := by decide
    sps_type := ⟨0x67, _, rfl, rfl⟩
    four_le_sps := by decide }

theorem nalusCovered_baseline : NalusCovered {} [.config baseline, .slice keySlice] := by
  apply (nalusCovered_iff .new _).2.2.mpr
  intro before s after hevents
  rcases before with _ | ⟨e₁, _ | ⟨e₂, _ | ⟨e₃, before⟩⟩⟩
  · rfl
  · cases hevents
    rfl
  · simp at hevents
  · simp at hevents

/-- The SPS changes and the PPS stays: the key frame goes out behind the header
of the old SPS. -/
theorem not_nalusCovered_otherLevel :
    ¬ NalusCovered {} [.config baseline, .config otherLevel, .slice keySlice] := by
  intro hcovered
  have hsps := spsAnnounced_of_nalusCovered .new hcovered [.config baseline, .config otherLevel]
    keySlice [] rfl
  exact absurd hsps (by decide)

end SrsFlvMuxer

end MediasoupDemo.Flv
