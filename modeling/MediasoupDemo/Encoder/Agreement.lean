import MediasoupDemo.Flv.AccessUnit
import MediasoupDemo.Mp4.Recording
import MediasoupDemo.Mp4.Samples

/-!
# One sample, two muxers

`SrsEncoder` hands every video sample to the recorder and to the publisher.
The two read it with parsers of their own.  The publisher looks for the start
code and takes the type of the NAL unit from the byte behind it.  The recorder
takes the type from the byte at index four, and later replaces the first four
bytes of a slice by its length.

* `NalSample` is a sample with one NAL unit of at least two bytes.
* `flvClass` and `mp4Class` are what the muxers take it for, and
  `run_writeVideoSample_flv` and `run_writeVideoSample_mp4` say that they treat
  it so.
* The muxers agree on every sample with a four byte start code
  (`agree_of_four`).  Behind a three byte start code they never agree on a slice
  (`not_agree_slice`), and they agree on another unit unless its second byte
  looks like the type of a slice (`agree_other_iff`).
-/

namespace MediasoupDemo.Encoder

open ByteCodec Annexb MediasoupDemo.Runtime Flv Mp4 Method
open SrsFlvMuxer (SampleClass)

/-! ## The encoder -/

/-- The muxers of `SrsEncoder`. -/
structure SrsEncoder where
  flvMuxer : SrsFlvMuxer
  mp4Muxer : SrsMp4Muxer

namespace SrsEncoder

/-- Call a method of `mp4Muxer`. -/
def onMp4Muxer {α : Type} (x : Method SrsMp4Muxer α) : Method SrsEncoder α := fun e =>
  match x.run e.mp4Muxer with
  | .ok a mp4Muxer => .ok a { e with mp4Muxer }
  | .error ex mp4Muxer => .error ex { e with mp4Muxer }

/-- Call a method of `flvMuxer`. -/
def onFlvMuxer {α : Type} (x : Method SrsFlvMuxer α) : Method SrsEncoder α := fun e =>
  match x.run e.flvMuxer with
  | .ok a flvMuxer => .ok a { e with flvMuxer }
  | .error ex flvMuxer => .error ex { e with flvMuxer }

/-- `onEncodedAnnexbFrame`.  The tracks are those that `addTrack` returned for
the video format. -/
def onEncodedAnnexbFrame (es : ByteBuffer) (bi : BufferInfo) : Method SrsEncoder Unit := do
  onMp4Muxer (SrsMp4Muxer.writeSampleData .VIDEO_TRACK es.duplicate bi)
  onFlvMuxer (SrsFlvMuxer.writeSampleData .VIDEO_TRACK es bi)

end SrsEncoder

/-! ## Samples with one unit -/

/-- A sample with one NAL unit, which is at least two bytes long. -/
structure NalSample where
  startCode : StartCode
  /-- the byte with the type of the unit -/
  header : UInt8
  second : UInt8
  rest : List UInt8
  presentationTimeUs : Int
  flags : BitVec 32
  noStartCode : ¬ [0, 0, 1] <:+: header :: second :: rest

def IsSliceType (nal_unit_type : UInt8) : Prop := nal_unit_type = NonIDR ∨ nal_unit_type = IDR

instance (t : UInt8) : Decidable (IsSliceType t) := inferInstanceAs (Decidable (_ ∨ _))

namespace NalSample

variable (s : NalSample)

/-- The NAL unit. -/
def nal : List UInt8 := s.header :: s.second :: s.rest

/-- The bytes of the sample. -/
def bytes : List UInt8 := s.startCode.bytes ++ s.nal

/-- The buffer of the sample. -/
def buffer : ByteBuffer := .wrap s.bytes

/-- The meta data of the sample. -/
def bufferInfo : BufferInfo where
  offset := 0
  size := s.bytes.length
  presentationTimeUs := s.presentationTimeUs
  flags := s.flags

/-- The byte that the recorder takes for the header of the unit. -/
def byteFour : UInt8 :=
  match s.startCode with
  | .three => s.second
  | .four => s.header

theorem length_bytes :
    s.bytes.length = s.startCode.bytes.length + (s.rest.length + 2) := by
  simp [bytes, nal]

theorem getElem?_four : s.bytes[4]? = some s.byteFour := by
  cases hcode : s.startCode with
  | three => simp [bytes, nal, byteFour, hcode, StartCode.bytes]
  | four => simp [bytes, nal, byteFour, hcode, StartCode.bytes]

/-- Both start codes are known to the recorder. -/
theorem exists_zerosOne : ∃ k, s.bytes = SrsMp4Muxer.zerosOne k ++ s.nal := by
  cases hcode : s.startCode with
  | three => exact ⟨0, by rw [bytes, hcode]; rfl⟩
  | four => exact ⟨1, by rw [bytes, hcode]; rfl⟩

/-! ## What the publisher does -/

/-- What the publisher takes the sample for. -/
def flvClass : SampleClass := SrsFlvMuxer.classOf (s.header &&& 0x1f)

/-- How the publisher treats a sample of a class. -/
def flvAction : SampleClass → Method SrsFlvMuxer Unit
  | .keyFrame =>
      SrsFlvMuxer.writeSlice (frameOf s.nal) .KeyFrame (SrsFlvMuxer.dtsOf s.bufferInfo)
        (SrsFlvMuxer.dtsOf s.bufferInfo)
  | .interFrame =>
      SrsFlvMuxer.writeSlice (frameOf s.nal) .InterFrame (SrsFlvMuxer.dtsOf s.bufferInfo)
        (SrsFlvMuxer.dtsOf s.bufferInfo)
  | .parameterSet => do
      let (frame, bb) ← MonadExcept.ofExcept (demuxAnnexb s.buffer s.bufferInfo true)
      SrsFlvMuxer.writeParameterSets frame bb s.bufferInfo (SrsFlvMuxer.dtsOf s.bufferInfo)
        (SrsFlvMuxer.dtsOf s.bufferInfo)
  | .other => pure ()

theorem four_lt_length : 4 < s.bytes.length := by
  have hlength := s.length_bytes
  have hcode : 3 ≤ s.startCode.bytes.length := by cases s.startCode <;> decide
  omega

/-- The publisher treats the sample as one of its class. -/
theorem run_writeVideoSample_flv (m : SrsFlvMuxer) :
    (SrsFlvMuxer.writeVideoSample s.buffer s.bufferInfo).run m =
      (s.flvAction s.flvClass).run m := by
  have hlong := s.four_lt_length
  obtain ⟨bb', hdemux, -⟩ := @demuxAnnexb_first s.nal s.buffer s.bufferInfo s.startCode
    (ByteBuffer.at_wrap _) rfl hlong
  have htype : (frameOf s.nal).nalUnitType = .ok (s.header &&& 0x1f) := rfl
  have hsize : ¬ s.bufferInfo.size < 4 := by
    show ¬ s.bytes.length < 4
    omega
  rw [SrsFlvMuxer.writeVideoSample, if_neg hsize, run_ofExcept_bind hdemux,
    run_ofExcept_bind htype, flvClass]
  cases SrsFlvMuxer.classOf (s.header &&& 0x1f) with
  | keyFrame => rfl
  | interFrame => rfl
  | other => rfl
  | parameterSet =>
    rw [flvAction, run_ofExcept_bind hdemux]
    rfl

/-! ## What the recorder does -/

/-- What the recorder takes the sample for. -/
def mp4Class : SampleClass :=
  if s.byteFour &&& 0x1f = SrsMp4Muxer.IDR then .keyFrame
  else if s.byteFour &&& 0x1f = SrsMp4Muxer.NonIDR then .interFrame
  else if s.header &&& 0x1f = SrsMp4Muxer.SPS ∨ s.header &&& 0x1f = SrsMp4Muxer.PPS then
    .parameterSet
  else .other

/-- How the recorder treats a sample of a class. -/
def mp4Action : SampleClass → Method SrsMp4Muxer Unit
  | .keyFrame => SrsMp4Muxer.writeFrameByte .VIDEO_TRACK s.buffer s.bufferInfo true
  | .interFrame => SrsMp4Muxer.writeFrameByte .VIDEO_TRACK s.buffer s.bufferInfo false
  | .parameterSet => SrsMp4Muxer.takeParameterSet (SrsMp4Muxer.esFrameOf s.nal)
  | .other => pure ()

/-- The recorder treats the sample as one of its class. -/
theorem run_writeVideoSample_mp4 (m : SrsMp4Muxer) :
    (SrsMp4Muxer.writeVideoSample s.buffer s.bufferInfo).run m =
      (s.mp4Action s.mp4Class).run m := by
  have hfour : s.buffer.getAt 4 = .ok s.byteFour := by
    apply ByteBuffer.getAt_eq
    rw [buffer, ByteBuffer.bytes_wrap, getElem?_four]
  rw [SrsMp4Muxer.writeVideoSample, run_ofExcept_bind hfour, mp4Class]
  by_cases hidr : s.byteFour &&& 0x1f = SrsMp4Muxer.IDR
  · rw [if_pos (.inl hidr), if_pos hidr, hidr]
    rfl
  by_cases hnon : s.byteFour &&& 0x1f = SrsMp4Muxer.NonIDR
  · rw [if_pos (.inr hnon), if_neg hidr, if_pos hnon, hnon]
    rfl
  -- The loop runs over the one unit.
  obtain ⟨k, hbytes⟩ := s.exists_zerosOne
  have hat : s.buffer.At [] (SrsMp4Muxer.zerosOne k ++ s.nal) := by
    rw [buffer, hbytes]
    exact ByteBuffer.at_wrap _
  have hturns : 0 < s.bufferInfo.size := Nat.lt_trans (by decide) s.four_lt_length
  have hlimit : s.bufferInfo.size = s.buffer.limit := rfl
  have hloop := SrsMp4Muxer.run_writeVideoSampleLoop_last hat hlimit (by simp [nal]) s.noStartCode
    hturns m
  rw [if_neg (by simp [hidr, hnon]), if_neg hidr, if_neg hnon, hloop]
  by_cases hset : s.header &&& 0x1f = SrsMp4Muxer.SPS ∨ s.header &&& 0x1f = SrsMp4Muxer.PPS
  · rw [if_pos hset, mp4Action]
  · rw [not_or] at hset
    rw [if_neg (by simp [hset]), mp4Action, run_pure, ← SrsMp4Muxer.esFrameBefore_nil]
    refine SrsMp4Muxer.takeParameterSet_other ?_ ?_ [] m
    · exact fun htype => hset.1 (Option.some.inj htype)
    · exact fun htype => hset.2 (Option.some.inj htype)

/-- The encoder has both muxers treat the sample. -/
theorem run_onEncodedAnnexbFrame (e : SrsEncoder) :
    (SrsEncoder.onEncodedAnnexbFrame s.buffer s.bufferInfo).run e =
      (do
        SrsEncoder.onMp4Muxer (s.mp4Action s.mp4Class)
        SrsEncoder.onFlvMuxer (s.flvAction s.flvClass)).run e := by
  have hmp4 : SrsMp4Muxer.writeSampleData .VIDEO_TRACK s.buffer.duplicate s.bufferInfo =
      s.mp4Action s.mp4Class := by
    funext m
    exact s.run_writeVideoSample_mp4 m
  have hflv : SrsFlvMuxer.writeSampleData .VIDEO_TRACK s.buffer s.bufferInfo =
      s.flvAction s.flvClass := by
    funext m
    exact s.run_writeVideoSample_flv m
  rw [SrsEncoder.onEncodedAnnexbFrame, hmp4, hflv]

/-- The frame that the recorder queues. -/
def esFrame : SrsEsFrame where
  bb := s.buffer
  bi := s.bufferInfo
  track := .VIDEO_TRACK
  isKeyFrame := s.byteFour &&& 0x1f == SrsMp4Muxer.IDR

theorem payload_esFrame :
    s.esFrame.payload = beBytes 4 (s.bytes.length - 4) ++ s.bytes.drop 4 := by
  have hbytes : s.esFrame.bytes = s.bytes := by
    show (s.bytes.drop 0).take s.bytes.length = s.bytes
    simp
  show beBytes 4 (s.bytes.length - 4) ++ s.esFrame.bytes.drop 4 = _
  rw [hbytes]

/-- What the recorder writes for the queued frame. -/
theorem run_writeSampleBytes {m : SrsMp4Muxer} {t : Track} {bytes : List UInt8}
    (htrack : m.mp4Movie.get .VIDEO_TRACK = some t)
    (hfc : m.fc = some (SrsMp4Muxer.openAtEnd bytes)) (hout : m.outcomes = []) :
    ∃ m', (SrsMp4Muxer.writeSampleBytes .VIDEO_TRACK s.buffer s.bufferInfo false).run m =
        .ok () m' ∧
      m'.fc = some (SrsMp4Muxer.openAtEnd (bytes ++ s.esFrame.payload)) := by
  have hfits : s.esFrame.Fits := by
    refine ⟨?_, fun _ => ?_⟩
    · show 0 + s.bytes.length ≤ s.bytes.length
      omega
    · have hlong := s.four_lt_length
      show 4 ≤ s.bytes.length
      omega
  exact SrsMp4Muxer.writeSampleBytes_of_fits hfits htrack hfc hout

/-! ## Agreement -/

/-- The muxers agree on a sample: they take it for the same, and the tag of a
slice holds what the recorder writes. -/
structure Agree (s : NalSample) : Prop where
  sameClass : s.flvClass = s.mp4Class
  sameBytes : IsSliceType (s.header &&& 0x1f) → ∀ m, SrsFlvMuxer.Reachable m →
    m.flv.h264_sps_pps_sent = true →
    ∃ m' tag, (SrsFlvMuxer.writeVideoSample s.buffer s.bufferInfo).run m = .ok () m' ∧
      m'.flv.video_tag = some tag ∧ SrsFlvMuxer.tagPayload tag = s.esFrame.payload

theorem run_writeVideoSample_tag (hslice : IsSliceType (s.header &&& 0x1f)) {m : SrsFlvMuxer}
    (hm : SrsFlvMuxer.Reachable m) (hsent : m.flv.h264_sps_pps_sent = true) :
    ∃ m' tag, (SrsFlvMuxer.writeVideoSample s.buffer s.bufferInfo).run m = .ok () m' ∧
      m'.flv.video_tag = some tag ∧
      SrsFlvMuxer.tagPayload tag = beBytes 4 s.nal.length ++ s.nal :=
  SrsFlvMuxer.run_writeVideoSample_sent hm.sound hsent s.startCode hslice s.four_lt_length rfl

theorem agree_of_four (hcode : s.startCode = .four) : s.Agree := by
  have hbyte : s.byteFour = s.header := by rw [byteFour, hcode]
  have hpayload : s.esFrame.payload = beBytes 4 s.nal.length ++ s.nal := by
    have hbytes : s.bytes = [0, 0, 0, 1] ++ s.nal := by rw [bytes, hcode]; rfl
    rw [payload_esFrame, hbytes]
    rfl
  refine ⟨?_, ?_⟩
  · rw [flvClass, mp4Class, hbyte]
    generalize s.header &&& 0x1f = t
    show SrsFlvMuxer.classOf t =
      if t = IDR then .keyFrame
      else if t = NonIDR then .interFrame
      else if t = SPS ∨ t = PPS then .parameterSet
      else .other
    unfold SrsFlvMuxer.classOf
    by_cases hidr : t = IDR
    · rw [if_pos hidr, if_pos hidr]
    by_cases hnon : t = NonIDR
    · subst hnon
      decide
    rw [if_neg hidr, if_neg hidr, if_neg hnon, if_pos hnon]
  · intro hslice m hm hsent
    rw [hpayload]
    exact s.run_writeVideoSample_tag hslice hm hsent

/-- Behind a three byte start code the recorder loses a byte of a slice. -/
theorem not_agree_slice (hcode : s.startCode = .three) (hslice : IsSliceType (s.header &&& 0x1f)) :
    ¬ s.Agree := by
  intro hagree
  obtain ⟨m, hm, hsent⟩ := SrsFlvMuxer.exists_sent SrsFlvMuxer.baseline
  obtain ⟨m', tag, hrun, htag, hsame⟩ := hagree.sameBytes hslice m hm hsent
  obtain ⟨m'', tag', hrun', htag', hpayload⟩ := s.run_writeVideoSample_tag hslice hm hsent
  rw [hrun] at hrun'
  cases hrun'
  rw [htag] at htag'
  cases htag'
  -- The recorder writes one byte less.
  have hlength := congrArg List.length (hpayload.symm.trans hsame)
  have hbytes : s.bytes.length = s.nal.length + 3 := by
    rw [bytes, hcode, List.length_append]
    show 3 + s.nal.length = _
    omega
  rw [payload_esFrame, List.length_append, List.length_append, List.length_drop, beBytes_length,
    beBytes_length, hbytes] at hlength
  have hpos : s.nal.length = s.rest.length + 2 := rfl
  omega

/-- Behind a three byte start code the class of another unit depends on its
second byte. -/
theorem agree_other_iff (hcode : s.startCode = .three)
    (hslice : ¬ IsSliceType (s.header &&& 0x1f)) :
    s.Agree ↔ ¬ IsSliceType (s.second &&& 0x1f) := by
  have hbyte : s.byteFour = s.second := by rw [byteFour, hcode]
  have hflv : s.flvClass =
      if s.header &&& 0x1f = SPS ∨ s.header &&& 0x1f = PPS then .parameterSet else .other := by
    rw [IsSliceType, not_or] at hslice
    rw [flvClass, SrsFlvMuxer.classOf, if_neg hslice.2, if_pos hslice.1]
  have hother : s.flvClass ≠ .keyFrame ∧ s.flvClass ≠ .interFrame := by
    rw [hflv]
    split <;> simp
  have hmp4 : s.mp4Class =
      if s.second &&& 0x1f = IDR then .keyFrame
      else if s.second &&& 0x1f = NonIDR then .interFrame
      else s.flvClass := by
    rw [hflv, mp4Class, hbyte]
    rfl
  constructor
  · rintro hagree (hnon | hidr)
    · have hclass := hagree.sameClass
      rw [hmp4, hnon] at hclass
      exact hother.2 hclass
    · have hclass := hagree.sameClass
      rw [hmp4, hidr] at hclass
      exact hother.1 hclass
  · intro hsecond
    rw [IsSliceType, not_or] at hsecond
    refine ⟨?_, fun h => absurd h hslice⟩
    rw [hmp4, if_neg hsecond.2, if_neg hsecond.1]

end NalSample

/-- The encoder gives a sample to both muxers, which treat it by its class; the
recorder writes the payload of the queued frame.  They agree if and only if the
start code has four bytes, or neither of the first two bytes of the unit is of
the type of a slice. -/
theorem muxers_agree_iff (s : NalSample) :
    (∀ e, (SrsEncoder.onEncodedAnnexbFrame s.buffer s.bufferInfo).run e =
      (do
        SrsEncoder.onMp4Muxer (s.mp4Action s.mp4Class)
        SrsEncoder.onFlvMuxer (s.flvAction s.flvClass)).run e) ∧
    (∀ (m : SrsMp4Muxer) (t : Track) (bytes : List UInt8),
      m.mp4Movie.get .VIDEO_TRACK = some t → m.fc = some (SrsMp4Muxer.openAtEnd bytes) →
      m.outcomes = [] →
      ∃ m', (SrsMp4Muxer.writeSampleBytes .VIDEO_TRACK s.buffer s.bufferInfo false).run m =
          .ok () m' ∧
        m'.fc = some (SrsMp4Muxer.openAtEnd (bytes ++ s.esFrame.payload))) ∧
    (s.Agree ↔ s.startCode = .four ∨
      ¬ IsSliceType (s.header &&& 0x1f) ∧ ¬ IsSliceType (s.second &&& 0x1f)) := by
  refine ⟨s.run_onEncodedAnnexbFrame,
    fun m t bytes htrack hfc hout => s.run_writeSampleBytes htrack hfc hout, ?_⟩
  cases hcode : s.startCode with
  | four => exact ⟨fun _ => .inl rfl, fun _ => s.agree_of_four hcode⟩
  | three =>
    by_cases hslice : IsSliceType (s.header &&& 0x1f)
    · have hno := s.not_agree_slice hcode hslice
      simp [hno, hslice]
    · rw [s.agree_other_iff hcode hslice]
      simp [hslice]

/-- A key frame behind a three byte start code. -/
def threeByteSlice : NalSample where
  startCode := .three
  header := 0x65
  second := 0x88
  rest := [0x84]
  presentationTimeUs := 40000
  flags := 1
  noStartCode := by decide

/-- The same key frame behind a four byte start code. -/
def fourByteSlice : NalSample := { threeByteSlice with startCode := .four }

theorem muxers_agree_fourByteSlice : fourByteSlice.Agree :=
  (muxers_agree_iff fourByteSlice).2.2.mpr (.inl rfl)

/-- The publisher sends the key frame, and the recorder passes over it. -/
theorem muxers_disagree_threeByteSlice :
    threeByteSlice.flvClass = .keyFrame ∧ threeByteSlice.mp4Class = .other ∧
      ¬ threeByteSlice.Agree :=
  ⟨by decide, by decide, threeByteSlice.not_agree_slice rfl (by decide)⟩

end MediasoupDemo.Encoder
