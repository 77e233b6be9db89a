import MediasoupDemo.Flv.Samples

/-!
# What holds of every muxer

`Reachable` are the states of a muxer between calls, from its construction on,
as long as no call has thrown.  In all of them the list `ipbs` is empty and
the pools hold released allocations only (`Reachable.sound`), so that a tag is
always built in a new allocation.

A call can throw, on a sample without a start code for example.  The state
that it leaves is not covered: `ipbs` may then keep the frames of the sample.
-/

namespace MediasoupDemo.Flv

open ByteCodec MediasoupDemo.Runtime Method

/-- The fields after a new SPS. -/
def SrsFlv.setSps (sps : List UInt8) (flv : SrsFlv) : SrsFlv :=
  { flv with h264_sps_changed := true, h264_sps := some (.wrap sps) }

/-- The fields after a new PPS. -/
def SrsFlv.setPps (pps : List UInt8) (flv : SrsFlv) : SrsFlv :=
  { flv with h264_pps_changed := true, h264_pps := some (.wrap pps) }

namespace SrsFlvMuxer

@[simp] theorem run_modifyFlv (f : SrsFlv → SrsFlv) (m : SrsFlvMuxer) :
    (modifyFlv f).run m = .ok () (m.onFlv f) := rfl

theorem run_modifyFlv_bind {α : Type} (f : SrsFlv → SrsFlv) (g : Unit → Method SrsFlvMuxer α)
    (m : SrsFlvMuxer) : (modifyFlv f >>= g).run m = (g ()).run (m.onFlv f) := rfl

/-! ## The queue -/

/-- The muxer with a frame in the queue, if it is started. -/
def queued (m : SrsFlvMuxer) (frame : SrsFlvFrame) : SrsFlvMuxer :=
  if m.started then
    { m with
      mFlvTagCache := m.mFlvTagCache ++ [frame], history := m.history ++ [frame]
      videoFrameCacheNumber :=
        if frame.isVideo then m.videoFrameCacheNumber + 1 else m.videoFrameCacheNumber }
  else m

/-- The muxer after `writeRtmpPacket`. -/
def packetWritten (m : SrsFlvMuxer) (frame : SrsFlvFrame) : SrsFlvMuxer :=
  if frame.isVideo && m.needToFindKeyFrame then
    if frame.isKeyFrame then queued { m with needToFindKeyFrame := false } frame else m
  else queued m frame

theorem run_flvTagCacheAdd (frame : SrsFlvFrame) (m : SrsFlvMuxer) :
    (flvTagCacheAdd frame).run m = .ok () (m.queued frame) := by
  rw [flvTagCacheAdd, run_get_bind, queued]
  by_cases hstarted : m.started = true
  · rw [if_pos hstarted, if_pos hstarted, run_modify]
  · rw [if_neg hstarted, if_neg hstarted, run_pure]

theorem run_writeRtmpPacket (type : FlvTag) (dts : Int) (frame_type : AvcFrame)
    (avc_aac_type : AvcType) (tag : Allocation) (m : SrsFlvMuxer) :
    (writeRtmpPacket type dts frame_type avc_aac_type tag).run m =
      .ok ()
        (m.packetWritten { flvTag := tag, type, dts, frame_type, avc_aac_type }) := by
  rw [writeRtmpPacket, run_get_bind, packetWritten]
  split
  · split
    · rw [run_modify_bind, run_flvTagCacheAdd]
    · rw [run_pure]
  · rw [run_flvTagCacheAdd]

variable {frames : List SrsFlvFrameBytes} (m : SrsFlvMuxer)

@[simp] theorem flv_queued (frame : SrsFlvFrame) :
    (m.queued frame).flv = m.flv := by
  unfold queued
  split <;> rfl

@[simp] theorem videoAllocator_queued (frame : SrsFlvFrame) :
    (m.queued frame).mVideoAllocator = m.mVideoAllocator := by
  unfold queued
  split <;> rfl

@[simp] theorem audioAllocator_queued (frame : SrsFlvFrame) :
    (m.queued frame).mAudioAllocator = m.mAudioAllocator := by
  unfold queued
  split <;> rfl

@[simp] theorem flv_packetWritten (frame : SrsFlvFrame) :
    (m.packetWritten frame).flv = m.flv := by
  unfold packetWritten
  split
  · split <;> simp
  · simp

@[simp] theorem videoAllocator_packetWritten (frame : SrsFlvFrame) :
    (m.packetWritten frame).mVideoAllocator = m.mVideoAllocator := by
  unfold packetWritten
  split
  · split <;> simp
  · simp

@[simp] theorem audioAllocator_packetWritten (frame : SrsFlvFrame) :
    (m.packetWritten frame).mAudioAllocator = m.mAudioAllocator := by
  unfold packetWritten
  split
  · split <;> simp
  · simp

/-- The timestamp of a sample in milliseconds. -/
def dtsOf (bi : BufferInfo) : Int := int (bi.presentationTimeUs.tdiv 1000)

/-- Changes of `flv` and of the queue commute. -/
theorem onFlv_packetWritten (frame : SrsFlvFrame) (f : SrsFlv → SrsFlv) :
    (m.packetWritten frame).onFlv f = (m.onFlv f).packetWritten frame := by
  unfold packetWritten queued onFlv
  split
  · split
    · split <;> rfl
    · rfl
  · split <;> rfl

theorem run_writeVideoTag {m : SrsFlvMuxer} (hpool : m.mVideoAllocator.Released)
    {contents : List (List UInt8)} (h : List.Forall₂ SrsFlvFrameBytes.Starts frames contents)
    (frame_type : AvcFrame) (avc_packet_type : AvcType) (dts pts : Int) :
    ∃ tag, tag.content = tagHeader frame_type avc_packet_type dts pts ++ contents.flatten ∧
      (writeVideoTag frames frame_type avc_packet_type dts pts).run m =
        .ok () ((m.onFlv (SrsFlv.setVideoTag tag)).packetWritten
          { flvTag := tag, type := .Video, dts, frame_type, avc_aac_type := avc_packet_type }) := by
  obtain ⟨tag, hmux, hcontent⟩ := muxFlvTag_of_starts hpool h frame_type avc_packet_type dts pts
  refine ⟨tag, hcontent, ?_⟩
  rw [writeVideoTag, run_get_bind, run_ofExcept_bind hmux, run_set_bind, run_writeRtmpPacket]
  rfl

theorem setIpbs_eq_self {flv : SrsFlv} {ipbs : List SrsFlvFrameBytes} (h : flv.ipbs = ipbs) :
    flv.setIpbs ipbs = flv := by
  subst h
  rfl

section Slice

variable {m : SrsFlvMuxer} (hipbs : m.flv.ipbs = []) (type : AvcFrame) (dts pts : Int)
include hipbs

/-- A slice goes to the queue when the sequence header was sent. -/
theorem run_writeSlice_sent (hpool : m.mVideoAllocator.Released)
    (hsent : m.flv.h264_sps_pps_sent = true) {frame : SrsFlvFrameBytes} {u : List UInt8}
    (hframe : frame.Starts u) :
    ∃ tag, tag.content = tagHeader type .NALU dts pts ++ (beBytes 4 u.length ++ u) ∧
      (writeSlice frame type dts pts).run m =
        .ok ()
          ((m.onFlv (SrsFlv.setVideoTag tag)).packetWritten
            { flvTag := tag, type := .Video, dts, frame_type := type, avc_aac_type := .NALU }) := by
  let m₁ := m.onFlv fun flv => flv.setIpbs (flv.ipbs ++ [muxNaluHeader frame, frame])
  have hframes : List.Forall₂ SrsFlvFrameBytes.Starts m₁.flv.ipbs [beBytes 4 u.length, u] := by
    show List.Forall₂ SrsFlvFrameBytes.Starts (m.flv.ipbs ++ _) _
    rw [hipbs]
    exact .cons (starts_muxNaluHeader hframe.size_eq) (.cons hframe .nil)
  obtain ⟨tag, hcontent, hrun⟩ := run_writeVideoTag (m := m₁) hpool hframes type .NALU dts pts
  refine ⟨tag, by simpa using hcontent, ?_⟩
  have hwrite : (writeH264IpbFrame m₁.flv.ipbs type dts pts).run m₁ =
      .ok ()
        ((m₁.onFlv (SrsFlv.setVideoTag tag)).packetWritten
          { flvTag := tag, type := .Video, dts, frame_type := type, avc_aac_type := .NALU }) := by
    have hsent₁ : m₁.flv.h264_sps_pps_sent = true := hsent
    rw [writeH264IpbFrame, run_get_bind, if_pos hsent₁, hrun]
  have hclear : (m₁.onFlv (SrsFlv.setVideoTag tag)).onFlv (SrsFlv.setIpbs []) =
      m.onFlv (SrsFlv.setVideoTag tag) := by
    have hempty : (m.flv.setVideoTag tag).ipbs = [] := hipbs
    show m.onFlv (fun flv => (flv.setVideoTag tag).setIpbs []) = _
    rw [onFlv, setIpbs_eq_self hempty]
    rfl
  rw [writeSlice, run_modifyFlv_bind, run_get_bind, run_bind_ok hwrite, run_modifyFlv,
    onFlv_packetWritten, hclear]

/-- Before the sequence header a slice is dropped. -/
theorem run_writeSlice_unsent (hsent : m.flv.h264_sps_pps_sent = false)
    (frame : SrsFlvFrameBytes) : (writeSlice frame type dts pts).run m = .ok () m := by
  let m₁ := m.onFlv fun flv => flv.setIpbs (flv.ipbs ++ [muxNaluHeader frame, frame])
  have hwrite : (writeH264IpbFrame m₁.flv.ipbs type dts pts).run m₁ = .ok () m₁ := by
    have hunsent : ¬ m₁.flv.h264_sps_pps_sent = true := by
      show ¬ m.flv.h264_sps_pps_sent = true
      rw [hsent]
      decide
    rw [writeH264IpbFrame, run_get_bind, if_neg hunsent, run_pure]
  rw [writeSlice, run_modifyFlv_bind, run_get_bind, run_bind_ok hwrite, run_modifyFlv]
  show EStateM.Result.ok () (m.onFlv (SrsFlv.setIpbs [])) = _
  rw [onFlv, setIpbs_eq_self hipbs]

end Slice

/-! ## The invariant -/

/-- Nothing is left over from an earlier call. -/
structure Sound (m : SrsFlvMuxer) : Prop where
  ipbs : m.flv.ipbs = []
  videoPool : m.mVideoAllocator.Released
  audioPool : m.mAudioAllocator.Released

theorem sound_new : Sound {} :=
  ⟨rfl, SrsAllocator.released_new _, SrsAllocator.released_new _⟩

section Preserved

variable {m m' : SrsFlvMuxer}

theorem Sound.packetWritten (h : m.Sound) (frame : SrsFlvFrame) : (m.packetWritten frame).Sound :=
  ⟨by rw [flv_packetWritten, h.ipbs],
    by rw [videoAllocator_packetWritten]; exact h.videoPool,
    by rw [audioAllocator_packetWritten]; exact h.audioPool⟩

variable {frame : SrsFlvFrameBytes} {bi : BufferInfo} {bb : ByteBuffer} {avc_packet_type : AvcType}
  {frame_type : AvcFrame}

/-- A tag of a positive size leaves the pool alone. -/
theorem muxFlvTag_allocator {allocator allocator' : SrsAllocator} (hpool : allocator.Released)
    (hsize : 0 < tagSize frames) {dts pts : Int} {tag : Allocation}
    (h : muxFlvTag allocator frames frame_type avc_packet_type dts pts = .ok (tag, allocator')) :
    allocator' = allocator := by
  rw [muxFlvTag, allocator.allocate_of_released hpool hsize] at h
  obtain ⟨_, hnew, h⟩ := bind_eq_ok h
  cases hnew
  obtain ⟨_, -, h⟩ := bind_eq_ok h
  obtain ⟨_, -, h⟩ := bind_eq_ok h
  cases h
  rfl

theorem tagSize_pos (h : ∀ frame ∈ frames, 0 ≤ frame.size) :
    0 < tagSize frames := by
  unfold tagSize
  induction frames with
  | nil => decide
  | cons frame frames ih =>
    have hrest := ih fun f hf => h f (by simp [hf])
    have hfirst := h frame (by simp)
    rw [List.map_cons, List.sum_cons]
    omega

/-- A video tag is built and handed on, or there is an exception first. -/
theorem writeVideoTag_run (m : SrsFlvMuxer) (frames : List SrsFlvFrameBytes)
    (frame_type : AvcFrame) (avc_packet_type : AvcType) (dts pts : Int) :
    (∃ e, (writeVideoTag frames frame_type avc_packet_type dts pts).run m = .error e m) ∨
      ∃ tag mVideoAllocator, muxFlvTag m.mVideoAllocator frames frame_type avc_packet_type dts pts =
          .ok (tag, mVideoAllocator) ∧
        (writeVideoTag frames frame_type avc_packet_type dts pts).run m =
          .ok () (packetWritten { m with mVideoAllocator, flv := m.flv.setVideoTag tag }
            { flvTag := tag, type := .Video, dts, frame_type
              avc_aac_type := avc_packet_type }) := by
  rw [writeVideoTag, run_get_bind]
  cases hmux : muxFlvTag m.mVideoAllocator frames frame_type avc_packet_type dts pts with
  | error e => exact .inl ⟨e, run_ofExcept_bind_error rfl _ m⟩
  | ok built =>
    refine .inr ⟨built.1, built.2, rfl, ?_⟩
    rw [run_ofExcept_bind rfl, run_set_bind, run_writeRtmpPacket]

theorem muxSequenceHeader_size {sps pps : ByteBuffer} (h : muxSequenceHeader sps pps = .ok frames) :
    ∀ frame ∈ frames, 0 ≤ frame.size := by
  rw [muxSequenceHeader] at h
  obtain ⟨profile_idc, -, h⟩ := bind_eq_ok h
  obtain ⟨level_idc, -, h⟩ := bind_eq_ok h
  cases h
  intro frame hframe
  simp only [List.mem_cons, List.not_mem_nil, or_false] at hframe
  rcases hframe with rfl | rfl | rfl | rfl | rfl <;> simp [frameOf]

/-- The properties that the parameter set branch keeps, whether it throws or not: a change of the
parameter sets keeps them, and so does a sequence header. -/
structure KeptBySets (P : SrsFlvMuxer → Prop) : Prop where
  sets : ∀ m (f : SrsFlv → SrsFlv), (f m.flv).ipbs = m.flv.ipbs →
    (f m.flv).h264_sps_pps_sent = m.flv.h264_sps_pps_sent → P m → P (m.onFlv f)
  header : ∀ m flv mVideoAllocator tag dts, flv.ipbs = m.flv.ipbs →
    (m.mVideoAllocator.Released → mVideoAllocator.Released) → P m →
    P (packetWritten { m with flv, mVideoAllocator }
      { flvTag := tag, type := .Video, dts, frame_type := .KeyFrame
        avc_aac_type := .SequenceHeader })

namespace KeptBySets

variable {P : SrsFlvMuxer → Prop} (h : KeptBySets P) (frame : SrsFlvFrameBytes) (dts pts : Int)
include h

theorem writeH264SpsPps : Preserves P (writeH264SpsPps dts pts) := by
  refine preserves_get_bind fun m hm => ?_
  dsimp only
  split
  · exact hm
  · split
    · refine final_ofExcept_bind_of hm fun frames hframes => ?_
      rcases writeVideoTag_run m frames .KeyFrame .SequenceHeader dts pts with
        ⟨e, hrun⟩ | ⟨tag, allocator, hmux, hrun⟩
      · rw [final_of_error (run_bind_error hrun _)]
        exact hm
      · rw [final_bind_ok hrun, final, run_modifyFlv]
        dsimp only
        rw [onFlv_packetWritten]
        refine h.header m _ allocator tag dts rfl (fun hpool => ?_) hm
        rw [muxFlvTag_allocator hpool (tagSize_pos (muxSequenceHeader_size hframes)) hmux]
        exact hpool
    · exact hm

theorem takeSps : Preserves P (takeSps frame) := by
  refine (preserves_ofExcept _).bind fun data => preserves_get_bind fun m hm => ?_
  split
  · exact hm
  · exact final_ofExcept_bind_of hm fun sps _ => h.sets m (SrsFlv.setSps sps) rfl rfl hm

theorem takePps : Preserves P (takePps frame dts pts) := by
  refine (preserves_ofExcept _).bind fun data => preserves_get_bind fun m hm => ?_
  split
  · exact hm
  · refine final_ofExcept_bind_of hm fun pps _ => ?_
    exact h.writeH264SpsPps dts pts _ (h.sets m (SrsFlv.setPps pps) rfl rfl hm)

theorem writeParameterSets (bb : ByteBuffer) (bi : BufferInfo) :
    Preserves P (writeParameterSets frame bb bi dts pts) :=
  (preserves_ofExcept _).bind fun _ => (h.takeSps _).bind fun _ =>
    (preserves_ofExcept _).bind fun _ => (preserves_ofExcept _).bind fun frame_pps =>
      h.takePps frame_pps dts pts

end KeptBySets

theorem sound_keptBySets : KeptBySets Sound where
  sets m f hipbs _ h := ⟨hipbs.trans h.ipbs, h.videoPool, h.audioPool⟩
  header m flv mVideoAllocator tag dts hipbs hpool h := by
    apply Sound.packetWritten
    exact ⟨hipbs.trans h.ipbs, hpool h.videoPool, h.audioPool⟩

/-- `writeSlice` empties `ipbs` again. -/
theorem Sound.writeSlice (h : m.Sound) (hsize : 0 ≤ frame.size) {type : AvcFrame} {dts pts : Int}
    (hrun : (SrsFlvMuxer.writeSlice frame type dts pts).run m = .ok () m') : m'.Sound := by
  rw [SrsFlvMuxer.writeSlice, run_modifyFlv_bind, run_get_bind] at hrun
  obtain ⟨_, m₁, hframe, hclear⟩ := run_bind_eq_ok hrun
  rw [run_modifyFlv] at hclear
  cases hclear
  have hframes : ∀ f ∈ m.flv.ipbs ++ [muxNaluHeader frame, frame], 0 ≤ f.size := by
    rw [h.ipbs]
    intro f hf
    simp only [List.nil_append, List.mem_cons, List.not_mem_nil, or_false] at hf
    rcases hf with rfl | rfl
    · simp [muxNaluHeader]
    · exact hsize
  have hpools : m₁.mVideoAllocator.Released ∧ m₁.mAudioAllocator.Released := by
    rw [writeH264IpbFrame, run_get_bind] at hframe
    split at hframe
    · rcases writeVideoTag_run (m.onFlv _) _ type .NALU dts pts with
        ⟨e, hrun⟩ | ⟨tag, allocator, hmux, hrun⟩
      · cases hrun.symm.trans hframe
      · cases hrun.symm.trans hframe
        have hsame : allocator = m.mVideoAllocator :=
          muxFlvTag_allocator h.videoPool (tagSize_pos hframes) hmux
        simp only [videoAllocator_packetWritten, audioAllocator_packetWritten, hsame]
        exact ⟨h.videoPool, h.audioPool⟩
    · cases hframe
      exact ⟨h.videoPool, h.audioPool⟩
  exact ⟨rfl, hpools.1, hpools.2⟩

theorem searchStartcode_le {found : Option Nat} (h : searchStartcode bb bi = .ok found) :
    found.getD 0 ≤ 4 := by
  rw [searchStartcode] at h
  split at h
  · obtain ⟨four, -, h⟩ := bind_eq_ok h
    cases four with
    | true => cases h; decide
    | false =>
      obtain ⟨three, -, h⟩ := bind_eq_ok h
      cases three <;> (cases h; decide)
  · cases h
    decide

theorem demuxAnnexb_true_size {bb' : ByteBuffer} (h : demuxAnnexb bb bi true = .ok (frame, bb')) :
    0 ≤ frame.size := by
  rw [demuxAnnexb] at h
  split at h
  · rename_i hbehind
    obtain ⟨tbbsc, hsearch, h⟩ := bind_eq_ok h
    have hle : tbbsc.getD 0 ≤ 4 := searchStartcode_le hsearch
    split at h
    · cases h
      exact Int.le_refl 0
    · obtain ⟨bb₁, hskip, h⟩ := bind_eq_ok h
      have hposition : bb₁.position = bb.position + tbbsc.getD 0 := by
        rw [ByteBuffer.skip] at hskip
        split at hskip
        · cases hskip
          rfl
        · cases hskip
      cases h
      show 0 ≤ (bi.size : Int) - bb'.position
      omega
  · cases h
    exact Int.le_refl 0

theorem Sound.writeVideoSample (h : m.Sound)
    (hrun : (SrsFlvMuxer.writeVideoSample bb bi).run m = .ok () m') : m'.Sound := by
  rw [SrsFlvMuxer.writeVideoSample] at hrun
  split at hrun
  · cases hrun
    exact h
  · obtain ⟨⟨frame, bb₁⟩, hframe, hrest⟩ := run_ofExcept_bind_eq_ok hrun
    obtain ⟨nal_unit_type, -, hrest⟩ := run_ofExcept_bind_eq_ok hrest
    have hsize := demuxAnnexb_true_size hframe
    split at hrest
    · exact h.writeSlice hsize hrest
    · exact (sound_keptBySets.writeParameterSets _ _ _ _ _).of_ok h hrest
    · cases hrest
      exact h
    · exact h.writeSlice hsize hrest

end Preserved

/-! ## Reachable states -/

/-- The calls that a muxer gets, and the steps of its threads. -/
inductive Call where
  | addTrack (format : Mp4.MediaFormat)
  | writeSampleData (trackIndex : Mp4.TrackIndex) (bb : ByteBuffer) (bi : BufferInfo)
  | start
  | workerConnect
  | workerPoll
  | stop
  | disconnect

def Call.method : Call → Method SrsFlvMuxer Unit
  | addTrack format => do let _ ← SrsFlvMuxer.addTrack format
  | writeSampleData trackIndex bb bi => SrsFlvMuxer.writeSampleData trackIndex bb bi
  | start => SrsFlvMuxer.start
  | workerConnect => SrsFlvMuxer.workerConnect
  | workerPoll => SrsFlvMuxer.workerPoll
  | stop => SrsFlvMuxer.stop
  | disconnect => SrsFlvMuxer.disconnect

/-- What the audio side and the worker leave alone. -/
structure Aside (m m' : SrsFlvMuxer) : Prop where
  ipbs : m'.flv.ipbs = m.flv.ipbs
  sps : m'.flv.h264_sps = m.flv.h264_sps
  pps : m'.flv.h264_pps = m.flv.h264_pps
  sent : m'.flv.h264_sps_pps_sent = m.flv.h264_sps_pps_sent
  started : m'.started = m.started
  keyFrame : m'.needToFindKeyFrame = m.needToFindKeyFrame
  history : m'.history = m.history
  videoPool : m.mVideoAllocator.Released → m'.mVideoAllocator.Released
  audioPool : m.mAudioAllocator.Released → m'.mAudioAllocator.Released

section Aside

variable {m : SrsFlvMuxer}

theorem Aside.refl (m : SrsFlvMuxer) : Aside m m := ⟨rfl, rfl, rfl, rfl, rfl, rfl, rfl, id, id⟩

theorem Sound.of_aside {m' : SrsFlvMuxer} (h : m.Sound) (haside : Aside m m') : m'.Sound :=
  ⟨haside.ipbs.trans h.ipbs, haside.videoPool h.videoPool, haside.audioPool h.audioPool⟩

theorem aside_addTrack (format : Mp4.MediaFormat) : Preserves (Aside m) (addTrack format) := by
  intro m' h
  unfold addTrack
  split
  · exact { h with }
  · exact { h with }

/-- The release of a tag keeps a pool released. -/
theorem aside_sendFlvTag (frame : SrsFlvFrame) : Preserves (Aside m) (sendFlvTag frame) := by
  have hrelease {allocator allocator' : SrsAllocator}
      (hok : allocator.release frame.flvTag = .ok allocator') (hpool : allocator.Released) :
      allocator'.Released := by
    obtain ⟨allocator₁, hrun, hreleased⟩ := SrsAllocator.release_of_released hpool frame.flvTag
    cases hrun.symm.trans hok
    exact hreleased
  refine (preserves_modify fun m' h => { h with }).bind fun _ => preserves_get_bind fun m' h => ?_
  split
  · exact final_ofExcept_bind_of h fun allocator hok =>
      { h with videoPool := fun hpool => hrelease hok (h.videoPool hpool) }
  · exact final_ofExcept_bind_of h fun allocator hok =>
      { h with audioPool := fun hpool => hrelease hok (h.audioPool hpool) }

theorem aside_workerPoll : Preserves (Aside m) workerPoll := by
  refine preserves_get_bind fun m' h => ?_
  split
  · exact h
  · rename_i frame rest hqueue
    rw [final_set_bind]
    have hpolled : Aside m { m' with mFlvTagCache := rest } := { h with }
    unfold workerFrame
    split
    · refine (Preserves.bind (preserves_modify fun m' h => ?_) fun _ =>
        aside_sendFlvTag frame).final_of hpolled
      unfold storeHeader
      split <;> exact { h with }
    · rw [final_get_bind]
      split
      · exact (aside_sendFlvTag frame).final_of hpolled
      · exact hpolled

/-- The calls of the audio side and of the worker. -/
def Call.IsAside : Call → Prop
  | .writeSampleData .VIDEO_TRACK _ _ | .start | .stop => False
  | _ => True

section Calls

-- What holds of every state that is only changed aside, and after every audio frame.
variable {P : SrsFlvMuxer → Prop} (haside : ∀ m', Aside m m' → P m')
  (hpacket : ∀ m' frame, P m' → frame.isVideo = false → P (m'.packetWritten frame))
include haside hpacket

theorem final_writeAudioSample_of (bb : ByteBuffer) (bi : BufferInfo) :
    P (final (writeAudioSample bb bi) m) := by
  refine final_ofExcept_bind_of (haside m (.refl m)) fun allocated hok => ?_
  have hset : Aside m { m with mAudioAllocator := allocated.2 } :=
    { Aside.refl m with
      audioPool := by
        intro hpool
        rw [m.mAudioAllocator.allocate_of_released hpool (by omega)] at hok
        cases hok
        exact hpool }
  rw [final_set_bind]
  refine final_ofExcept_bind_of (haside _ hset) fun tag₁ _ =>
    final_ofExcept_bind_of (haside _ hset) fun tag₂ _ =>
      final_ofExcept_bind_of (haside _ hset) fun tag₃ _ => ?_
  rw [final, run_modifyFlv_bind, run_writeRtmpPacket]
  exact hpacket _ _ (haside _ { hset with }) rfl

/-- Such a call keeps it, whether it throws or not. -/
theorem Call.IsAside.final_of {c : Call} (hc : c.IsAside) : P (final c.method m) := by
  cases c with
  | addTrack format =>
    exact haside _ (((aside_addTrack format).bind fun _ => preserves_pure ()).final_of (.refl m))
  | writeSampleData trackIndex bb bi =>
    cases trackIndex with
    | VIDEO_TRACK => exact hc.elim
    | AUDIO_TRACK => exact final_writeAudioSample_of haside hpacket bb bi
  | start | stop => exact hc.elim
  | workerPoll => exact haside _ (aside_workerPoll.final_of (.refl m))
  | workerConnect | disconnect => exact haside _ { Aside.refl m with }

end Calls

end Aside

/-- The states between calls. -/
inductive Reachable : SrsFlvMuxer → Prop
  | new : Reachable {}
  | call {m m' : SrsFlvMuxer} (h : Reachable m) (c : Call) (hrun : c.method.run m = .ok () m') :
      Reachable m'

theorem Sound.call {m m' : SrsFlvMuxer} (h : m.Sound) {c : Call}
    (hrun : c.method.run m = .ok () m') : m'.Sound := by
  have haside (hc : c.IsAside) : m'.Sound := by
    have hfinal := hc.final_of (fun _ => h.of_aside) fun _ frame h' _ => h'.packetWritten frame
    rwa [final, hrun] at hfinal
  cases c with
  | writeSampleData trackIndex bb bi =>
    cases trackIndex with
    | VIDEO_TRACK => exact h.writeVideoSample hrun
    | AUDIO_TRACK => exact haside trivial
  | start | stop =>
    cases hrun
    exact ⟨h.ipbs, h.videoPool, h.audioPool⟩
  | addTrack | workerPoll | workerConnect | disconnect => exact haside trivial

/-- The invariant holds in every state between calls. -/
theorem Reachable.sound {m : SrsFlvMuxer} (h : Reachable m) : m.Sound := by
  induction h with
  | new => exact sound_new
  | call _ c hrun ih => exact ih.call hrun

end SrsFlvMuxer

end MediasoupDemo.Flv
