import MediasoupDemo.Flv.Session
import MediasoupDemo.Lib.Trace

/-!
# The first slice of a session

`writeRtmpPacket` holds video back as long as `needToFindKeyFrame` is set, so
that a session should begin with an IDR frame.  A sequence header counts as a key
frame there, whether it is queued or not, and a slice is handed to
`writeRtmpPacket` only when a sequence header was written.  So the flag is never
set when a slice comes (`Gated`), and the first slice of a session is whatever
comes first.

* `handle` is one call, whether it throws or not, and `IdrFirst` the property of
  the session so far.
* `writeSlice_cases` says what a slice does to the session; every other call
  leaves its slices alone (`Steady`).
* `idrFirst_handle_iff` is the step: the call that breaks the property is a
  non-IDR slice in a session that has none yet.
-/

namespace MediasoupDemo.Flv

open MediasoupDemo.Runtime Method Trace

instance (frame : SrsFlvFrame) : Decidable frame.IsNalu := inferInstanceAs (Decidable (_ ∧ _))

namespace SrsFlvMuxer

/-! ## Sessions of any calls -/

/-- One call, whether it throws or not. -/
def handle (m : SrsFlvMuxer) (c : Call) : SrsFlvMuxer := final c.method m

/-- The NALU video frames queued since the last `start`. -/
def nalus (m : SrsFlvMuxer) : List SrsFlvFrame := m.history.filter fun frame => frame.IsNalu

/-- The first NALU video frame of the session, if there is one, is an IDR frame. -/
def IdrFirst (m : SrsFlvMuxer) : Prop := ∀ frame ∈ m.nalus.head?, frame.frame_type = .KeyFrame

/-- What `writeVideoSample` takes a sample for, if it can read the first unit. -/
def sampleClass (bb : ByteBuffer) (bi : BufferInfo) : Option SampleClass :=
  if bi.size < 4 then none
  else do
    let (frame, _) ← (demuxAnnexb bb bi true).toOption
    let nal_unit_type ← frame.nalUnitType.toOption
    pure (classOf nal_unit_type)

/-- A non-IDR slice that becomes the first slice of a session: a sequence header
was written since the last `stop`, and the call returns. -/
structure StartsWithInter (m : SrsFlvMuxer) (c : Call) : Prop where
  started : m.started = true
  sent : m.flv.h264_sps_pps_sent = true
  first : m.nalus = []
  inter : ∃ bb bi, c = .writeSampleData .VIDEO_TRACK bb bi ∧ sampleClass bb bi = some .interFrame
  returns : ∃ m', c.method.run m = .ok () m'

/-! ## The gate is open when a slice comes -/

/-- Once a sequence header was written, no key frame is waited for. -/
def Gated (m : SrsFlvMuxer) : Prop :=
  m.flv.h264_sps_pps_sent = true → m.needToFindKeyFrame = false

section Packets

variable {m : SrsFlvMuxer} {frame : SrsFlvFrame}

theorem Gated.packetWritten (h : m.Gated) : (m.packetWritten frame).Gated := by
  intro hsent
  rw [flv_packetWritten] at hsent
  unfold SrsFlvMuxer.packetWritten
  rw [h hsent, Bool.and_false, if_neg Bool.false_ne_true, needToFindKeyFrame_queued]
  exact h hsent

theorem nalus_queued_of_not (h : ¬ frame.IsNalu) : (m.queued frame).nalus = m.nalus := by
  unfold queued
  split
  · rw [nalus, List.filter_append, List.filter_singleton]
    simp [h, nalus]
  · rfl

theorem nalus_queued (hframe : frame.IsNalu) (hstarted : m.started = true) :
    (m.queued frame).nalus = m.nalus ++ [frame] := by
  rw [nalus, history_queued hstarted, List.filter_append, List.filter_singleton]
  simp [hframe, nalus]

theorem queued_of_not_started (hstarted : m.started = false) : m.queued frame = m := by
  rw [queued, hstarted, if_neg Bool.false_ne_true]

theorem nalus_packetWritten_of_not (h : ¬ frame.IsNalu) :
    (m.packetWritten frame).nalus = m.nalus := by
  unfold packetWritten
  split
  · split
    · exact nalus_queued_of_not h
    · rfl
  · exact nalus_queued_of_not h

/-- A slice is added in a session when no key frame is waited for or it is one. -/
theorem nalus_packetWritten (hframe : frame.IsNalu) :
    (m.packetWritten frame).nalus = m.nalus ∧
        (m.started = true → m.needToFindKeyFrame = true) ∨
      (m.packetWritten frame).nalus = m.nalus ++ [frame] ∧ m.started = true := by
  cases hstarted : m.started with
  | false =>
    refine .inl ⟨?_, fun h => absurd h Bool.false_ne_true⟩
    unfold packetWritten
    split
    · split
      · rw [queued_of_not_started (by exact hstarted)]
        rfl
      · rfl
    · rw [queued_of_not_started hstarted]
  | true =>
    unfold packetWritten
    split
    · rename_i hwait
      split
      · exact .inr ⟨nalus_queued hframe (by exact hstarted), rfl⟩
      · exact .inl ⟨rfl, fun _ => (Bool.and_eq_true_iff.mp hwait).2⟩
    · exact .inr ⟨nalus_queued hframe hstarted, rfl⟩

end Packets

/-! ## Calls without a slice -/

/-- The slices of the session are these, and the gate is as it should be. -/
structure Steady (slices : List SrsFlvFrame) (m : SrsFlvMuxer) : Prop where
  nalus_eq : m.nalus = slices
  gated : m.Gated

variable (frame : SrsFlvFrameBytes) {m : SrsFlvMuxer}

section Calls

variable {slices : List SrsFlvFrame}

theorem Steady.packetWritten (h : Steady slices m) {frame : SrsFlvFrame} (hframe : ¬ frame.IsNalu) :
    Steady slices (m.packetWritten frame) :=
  ⟨(nalus_packetWritten_of_not hframe).trans h.nalus_eq, h.gated.packetWritten⟩

theorem Steady.of_aside {m' : SrsFlvMuxer} (h : Steady slices m) (haside : Aside m m') :
    Steady slices m' := by
  refine ⟨?_, fun hsent => ?_⟩
  · rw [nalus, haside.history]
    exact h.nalus_eq
  · rw [haside.keyFrame]
    exact h.gated (haside.sent.symm.trans hsent)

/-- A call without video leaves the slices alone. -/
theorem preserves_of_isAside {c : Call} (hc : c.IsAside) : Preserves (Steady slices) c.method := by
  refine fun m h => hc.final_of (fun _ => h.of_aside) fun m' frame h' hframe => ?_
  refine h'.packetWritten fun hnalu => ?_
  rw [hnalu.1] at hframe
  cases hframe

theorem steady_keptBySets : KeptBySets (Steady slices) where
  sets m f _ hsent h := ⟨h.nalus_eq, fun hset => h.gated (hsent.symm.trans hset)⟩
  header m flv mVideoAllocator tag dts _ _ h := by
    -- The header is a key frame, so the gate is open from here on.
    refine ⟨?_, fun _ => needToFindKeyFrame_packetWritten rfl fun _ => rfl⟩
    rw [nalus_packetWritten_of_not fun hnalu => by cases hnalu.2]
    exact h.nalus_eq

end Calls

/-! ## Slices -/

theorem writeH264IpbFrame_run (m : SrsFlvMuxer) (frames : List SrsFlvFrameBytes)
    (type : AvcFrame) (dts pts : Int) :
    (∃ e, (writeH264IpbFrame frames type dts pts).run m = .error e m) ∨
      (m.flv.h264_sps_pps_sent = false ∧
        (writeH264IpbFrame frames type dts pts).run m = .ok () m) ∨
      (m.flv.h264_sps_pps_sent = true ∧ ∃ tag mVideoAllocator,
        (writeH264IpbFrame frames type dts pts).run m =
          .ok () (packetWritten { m with mVideoAllocator, flv := m.flv.setVideoTag tag }
            { flvTag := tag, type := .Video, dts, frame_type := type
              avc_aac_type := .NALU })) := by
  rw [writeH264IpbFrame, run_get_bind]
  cases hsent : m.flv.h264_sps_pps_sent with
  | false =>
    rw [if_neg Bool.false_ne_true]
    exact .inr (.inl ⟨rfl, run_pure () m⟩)
  | true =>
    rw [if_pos rfl]
    rcases writeVideoTag_run m frames type .NALU dts pts with
      hthrown | ⟨tag, allocator, -, hwritten⟩
    · exact .inl hthrown
    · exact .inr (.inr ⟨rfl, tag, allocator, hwritten⟩)

/-- A slice joins the session, or it does not and then one of the conditions for
it has failed. -/
theorem writeSlice_cases (m : SrsFlvMuxer) (frame : SrsFlvFrameBytes) (type : AvcFrame)
    (dts pts : Int) :
    (final (writeSlice frame type dts pts) m).nalus = m.nalus ∧
        (m.started = true → m.flv.h264_sps_pps_sent = true → m.needToFindKeyFrame = false →
          ∀ m', (writeSlice frame type dts pts).run m ≠ .ok () m') ∨
      ∃ slice : SrsFlvFrame, slice.frame_type = type ∧
        (final (writeSlice frame type dts pts) m).nalus = m.nalus ++ [slice] ∧
        m.started = true ∧ m.flv.h264_sps_pps_sent = true ∧
        ∃ m', (writeSlice frame type dts pts).run m = .ok () m' := by
  unfold final
  rw [writeSlice, run_modifyFlv_bind, run_get_bind]
  -- `m₁` differs from `m` in `ipbs` only.
  generalize hm₁ : m.onFlv (fun flv => flv.setIpbs (flv.ipbs ++ [muxNaluHeader frame, frame])) = m₁
  have hsame : m₁.started = m.started ∧ m₁.flv.h264_sps_pps_sent = m.flv.h264_sps_pps_sent ∧
      m₁.needToFindKeyFrame = m.needToFindKeyFrame ∧ m₁.nalus = m.nalus := by
    rw [← hm₁]
    exact ⟨rfl, rfl, rfl, rfl⟩
  rw [← hsame.1, ← hsame.2.1, ← hsame.2.2.1, ← hsame.2.2.2]
  rcases writeH264IpbFrame_run m₁ m₁.flv.ipbs type dts pts with
    ⟨e, hrun⟩ | ⟨hsent, hrun⟩ | ⟨hsent, tag, allocator, hrun⟩
  · rw [run_bind_error hrun]
    exact .inl ⟨rfl, fun _ _ _ m' h => by cases h⟩
  · rw [run_bind_ok hrun, run_modifyFlv, hsent]
    exact .inl ⟨rfl, fun _ h => absurd h Bool.false_ne_true⟩
  · rw [run_bind_ok hrun, run_modifyFlv]
    have hframe : SrsFlvFrame.IsNalu
        { flvTag := tag, type := .Video, dts, frame_type := type, avc_aac_type := .NALU } :=
      ⟨rfl, rfl⟩
    rcases nalus_packetWritten (m := { m₁ with
        mVideoAllocator := allocator, flv := m₁.flv.setVideoTag tag }) hframe with
      ⟨hnalus, hwait⟩ | ⟨hnalus, hstarted⟩
    · refine .inl ⟨hnalus, fun hstarted _ hneed => ?_⟩
      exact absurd (hneed.symm.trans (hwait hstarted)) Bool.false_ne_true
    · exact .inr ⟨_, rfl, hnalus, hstarted, hsent, _, rfl⟩

/-- A sample is a slice, or it leaves the slices of the session alone. -/
theorem writeVideoSample_cases (bb : ByteBuffer) (bi : BufferInfo) :
    (sampleClass bb bi ≠ some .interFrame ∧
        ∀ slices, Preserves (Steady slices) (writeVideoSample bb bi)) ∨
      ∃ frame type, (sampleClass bb bi = some .interFrame ↔ type ≠ AvcFrame.KeyFrame) ∧
        ∀ m, (writeVideoSample bb bi).run m =
          (writeSlice frame type (dtsOf bi) (dtsOf bi)).run m := by
  unfold writeVideoSample sampleClass
  by_cases hsize : bi.size < 4
  · simp only [if_pos hsize]
    exact .inl ⟨by simp, fun slices => preserves_pure ()⟩
  simp only [if_neg hsize]
  cases hframe : demuxAnnexb bb bi true with
  | error e => exact .inl ⟨by simp [Except.toOption], fun slices m h => h⟩
  | ok read =>
    cases htype : read.1.nalUnitType with
    | error e =>
      refine .inl ⟨by simp [Except.toOption, htype], fun slices m h => ?_⟩
      rw [final_ofExcept_bind rfl, htype]
      exact h
    | ok nal_unit_type =>
      simp only [Except.toOption, Option.bind_eq_bind, Option.bind_some, htype]
      cases hclass : classOf nal_unit_type with
      | keyFrame =>
        refine .inr ⟨read.1, .KeyFrame, by simp, fun m => ?_⟩
        rw [run_ofExcept_bind rfl, run_ofExcept_bind htype, hclass]
        rfl
      | interFrame =>
        refine .inr ⟨read.1, .InterFrame, by simp, fun m => ?_⟩
        rw [run_ofExcept_bind rfl, run_ofExcept_bind htype, hclass]
        rfl
      | parameterSet =>
        refine .inl ⟨by simp, fun slices m h => ?_⟩
        rw [final_ofExcept_bind rfl, final_ofExcept_bind htype, hclass]
        exact steady_keptBySets.writeParameterSets _ _ _ _ _ m h
      | other =>
        refine .inl ⟨by simp, fun slices m h => ?_⟩
        rw [final_ofExcept_bind rfl, final_ofExcept_bind htype, hclass]
        exact h

/-! ## One call -/

theorem preserves_gated_writeSlice (type : AvcFrame) (dts pts : Int) :
    Preserves Gated (writeSlice frame type dts pts) := by
  have hwrite (frames : List SrsFlvFrameBytes) :
      Preserves Gated (writeH264IpbFrame frames type dts pts) := by
    intro m h
    rcases writeH264IpbFrame_run m frames type dts pts with
      ⟨e, hrun⟩ | ⟨-, hrun⟩ | ⟨-, tag, allocator, hrun⟩
    · rw [final_of_error hrun]
      exact h
    · rw [final, hrun]
      exact h
    · rw [final, hrun]
      exact Gated.packetWritten (by exact h)
  refine Preserves.bind (preserves_modify fun m h => h) fun _ => preserves_get_bind fun m h => ?_
  exact ((hwrite _).bind fun _ => preserves_modify (g := onFlv (SrsFlv.setIpbs [])) fun m h => h)
    m h

/-- A call is `start` or `stop`, it leaves the slices alone, or it is a slice. -/
theorem method_cases (c : Call) :
    c = .start ∨ c = .stop ∨
      ((∀ bb bi, c = .writeSampleData .VIDEO_TRACK bb bi → sampleClass bb bi ≠ some .interFrame) ∧
        ∀ slices, Preserves (Steady slices) c.method) ∨
      ∃ bb bi frame type, c = .writeSampleData .VIDEO_TRACK bb bi ∧
        (sampleClass bb bi = some .interFrame ↔ type ≠ AvcFrame.KeyFrame) ∧
        ∀ m, c.method.run m = (writeSlice frame type (dtsOf bi) (dtsOf bi)).run m := by
  cases c with
  | start => exact .inl rfl
  | stop => exact .inr (.inl rfl)
  | writeSampleData trackIndex bb bi =>
    cases trackIndex with
    | VIDEO_TRACK =>
      rcases writeVideoSample_cases bb bi with ⟨hother, hkeep⟩ | ⟨frame, type, htype, hrun⟩
      · refine .inr (.inr (.inl ⟨fun bb' bi' h => ?_, hkeep⟩))
        cases h
        exact hother
      · exact .inr (.inr (.inr ⟨bb, bi, frame, type, rfl, htype, hrun⟩))
    | AUDIO_TRACK =>
      exact .inr (.inr (.inl ⟨fun _ _ h => (by cases h), fun _ => preserves_of_isAside trivial⟩))
  | addTrack | workerPoll | workerConnect | disconnect =>
    exact .inr (.inr (.inl ⟨fun _ _ h => (by cases h), fun _ => preserves_of_isAside trivial⟩))

theorem Gated.handle (h : m.Gated) (c : Call) : (m.handle c).Gated := by
  rcases method_cases c with rfl | rfl | ⟨-, hkeep⟩ | ⟨bb, bi, frame, type, -, -, hrun⟩
  · exact h
  · intro hsent
    cases hsent
  · exact ((hkeep m.nalus).final_of ⟨rfl, h⟩).gated
  · have hslice := (preserves_gated_writeSlice frame type (dtsOf bi) (dtsOf bi)).final_of h
    rw [final, ← hrun] at hslice
    exact hslice

/-- The call that breaks the property. -/
theorem idrFirst_handle_iff (hgated : m.Gated) (h : m.IdrFirst) (c : Call) :
    (m.handle c).IdrFirst ↔ ¬ StartsWithInter m c := by
  -- A call that is no slice leaves the property alone.
  have hother (hslices : (m.handle c).nalus = m.nalus ∨ (m.handle c).nalus = [])
      (hc : ¬ StartsWithInter m c) : (m.handle c).IdrFirst ↔ ¬ StartsWithInter m c := by
    refine ⟨fun _ => hc, fun _ frame hframe => ?_⟩
    rcases hslices with hsame | hnone
    · rw [hsame] at hframe
      exact h frame hframe
    · rw [hnone] at hframe
      cases hframe
  rcases method_cases c with rfl | rfl | ⟨hclass, hkeep⟩ | ⟨bb, bi, frame, type, hc, htype, hrun⟩
  · exact hother (.inr rfl) fun hinter => by obtain ⟨bb, bi, hc, -⟩ := hinter.inter; cases hc
  · exact hother (.inl rfl) fun hinter => by obtain ⟨bb, bi, hc, -⟩ := hinter.inter; cases hc
  · refine hother (.inl ((hkeep m.nalus).final_of ⟨rfl, hgated⟩).nalus_eq) fun hinter => ?_
    obtain ⟨bb, bi, hc, hinter⟩ := hinter.inter
    exact hclass bb bi hc hinter
  · have hfinal : m.handle c = final (writeSlice frame type (dtsOf bi) (dtsOf bi)) m := by
      rw [handle, final, hrun]
      rfl
    rcases writeSlice_cases m frame type (dtsOf bi) (dtsOf bi) with
      ⟨hnalus, hfailed⟩ | ⟨slice, hslice, hnalus, hstarted, hsent, hreturns⟩
    · rw [← hfinal] at hnalus
      refine hother (.inl hnalus) fun hinter => ?_
      obtain ⟨m', hreturns⟩ := hinter.returns
      exact hfailed hinter.started hinter.sent (hgated hinter.sent) m'
        ((hrun m).symm.trans hreturns)
    · rw [← hfinal] at hnalus
      cases hfirst : m.nalus with
      | cons first rest =>
        -- The session has a first slice already.
        refine ⟨fun _ hinter => ?_, fun _ frame hframe => h frame ?_⟩
        · rw [hinter.first] at hfirst
          cases hfirst
        · rw [hnalus, hfirst] at hframe
          rw [hfirst]
          exact hframe
      | nil =>
        have hidr : (m.handle c).IdrFirst ↔ type = .KeyFrame := by
          rw [IdrFirst, hnalus, hfirst, ← hslice]
          simp
        rw [hidr]
        constructor
        · intro hkey hinter
          obtain ⟨bb', bi', hc', hinter⟩ := hinter.inter
          rw [hc] at hc'
          cases hc'
          exact htype.mp hinter hkey
        · intro hinter
          by_contra hkey
          refine hinter ⟨hstarted, hsent, hfirst, ⟨bb, bi, hc, htype.mpr hkey⟩, ?_⟩
          obtain ⟨m', hreturns⟩ := hreturns
          exact ⟨m', (hrun m).trans hreturns⟩

/-- In a run of any calls, the first NALU video frame of each session is an IDR
frame if and only if no session gets a non-IDR slice before an IDR slice once a
sequence header was written. -/
theorem idrFirst_iff (calls : List Call) :
    Always handle {} IdrFirst calls ↔ Each handle {} (fun m c => ¬ StartsWithInter m c) calls :=
  always_iff_each (I := Gated) (fun h => by cases h) (fun _ c h => h.handle c)
    (fun frame h => by cases h) (fun _ c hgated h => idrFirst_handle_iff hgated h c) calls

theorem idrFirst_keySlice :
    Always handle {} IdrFirst
      [.start, (Event.config baseline).call, (Event.slice keySlice).call] := by
  apply (idrFirst_iff _).mpr
  refine each_cons.mpr ⟨fun h => ?_, each_cons.mpr ⟨fun h => ?_, each_cons.mpr ⟨fun h => ?_,
    each_nil⟩⟩⟩
  · exact absurd h.started (by decide)
  · exact absurd h.sent (by decide)
  · obtain ⟨bb, bi, hc, hinter⟩ := h.inter
    cases hc
    exact absurd hinter (by decide +kernel)

/-! ## A header and a non-IDR slice -/

section Counterexample

variable {m : SrsFlvMuxer} {before : List Event}

theorem Stage.handle_config (h : m.Stage before) (c : Config) :
    (m.handle (Event.config c).call).Stage (before ++ [.config c]) ∧
      (m.handle (Event.config c).call).nalus = m.nalus := by
  obtain ⟨m', hstep⟩ := h.step_config c
  have hfinal : m.handle (Event.config c).call = m' := by
    rw [handle, final, hstep.run]
  rw [hfinal]
  refine ⟨hstep.stage, ?_⟩
  rcases hstep.queue with hsame | ⟨frame, hnew, hnalu⟩
  · rw [nalus, hsame, nalus]
  · have hheader : ¬ frame.IsNalu := by
      intro hframe
      obtain ⟨a, r, -, -, -, s, hs⟩ := hnalu hframe
      cases hs
    rw [nalus, hnew, List.filter_append, List.filter_singleton]
    simp [hheader, nalus]

/-- With a configuration announced, every first slice is queued. -/
theorem Stage.startsWithInter (h : m.Stage before) {c : Config} (hc : announced before = some c)
    (hfirst : m.nalus = []) {s : SliceSample}
    (hs : sampleClass (.wrap s.bytes) s.bufferInfo = some .interFrame) :
    StartsWithInter m (Event.slice s).call := by
  rcases h.cases with ⟨hnone, -, -⟩ | ⟨a, r, -, -, hlive⟩
  · rw [hc] at hnone
    cases hnone
  · obtain ⟨m', hstep⟩ := h.step_slice s
    exact ⟨h.started, hlive.sent, hfirst, ⟨_, _, rfl, hs⟩, m', hstep.run⟩

end Counterexample

/-- A slice of a frame that refers to others. -/
def interSlice : SliceSample where
  header := 0x41
  rest := [0x9a, 0x02]
  presentationTimeUs := 80000
  flags := 0
  isSlice := by decide

/-- The sequence header opens the gate for the non-IDR slice behind it. -/
theorem not_idrFirst_interSlice :
    ¬ Always handle {} IdrFirst
      [.start, (Event.config baseline).call, (Event.slice interSlice).call] := by
  intro h
  obtain ⟨m, hstart, hstage⟩ := Idle.new.run_start
  have hm : handle {} .start = m := by
    cases hstart
    rfl
  have hnew : m.Gated ∧ m.nalus = [] := by
    cases hstart
    exact ⟨fun hsent => (by cases hsent), rfl⟩
  obtain ⟨hconfig, hslices⟩ := hstage.handle_config baseline
  have hinter := hconfig.startsWithInter (s := interSlice) rfl (hslices.trans hnew.2)
    (by decide +kernel)
  have hbefore := h [.start, (Event.config baseline).call] ⟨[(Event.slice interSlice).call], rfl⟩
  have hafter := h.last
  rw [after_cons, after_cons, after_nil, hm] at hbefore
  rw [after_cons, after_cons, after_cons, after_nil, hm] at hafter
  exact (idrFirst_handle_iff (hnew.1.handle _) hbefore _).mp hafter hinter

end SrsFlvMuxer

end MediasoupDemo.Flv
