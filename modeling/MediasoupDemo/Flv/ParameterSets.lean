import MediasoupDemo.Flv.Reachable

/-!
# Configuration samples

A configuration sample holds an SPS and a PPS, each behind a four byte start
code.  `writeVideoSample` compares the sample from the SPS to its *end* with
the current SPS, so the SPS counts as changed every time.  The PPS is compared
as it should be, and only a new PPS writes the sequence header:

* `run_config_samePps`: with the current PPS, the SPS is replaced and nothing
  is queued;
* `run_config_newPps`: with another PPS, the sequence header of both goes to
  the queue.
-/

namespace MediasoupDemo.Flv

open ByteCodec Annexb MediasoupDemo.Runtime Method

/-- A configuration sample. -/
structure Config where
  sps : List UInt8
  pps : List UInt8
  presentationTimeUs : Int
  flags : BitVec 32
  sps_isNalUnit : IsNalUnit sps
  sps_type : ∃ b rest, sps = b :: rest ∧ b &&& 0x1f = SPS
  four_le_sps : 4 ≤ sps.length
  pps_isNalUnit : IsNalUnit pps
  pps_type : ∃ b rest, pps = b :: rest ∧ b &&& 0x1f = PPS

namespace Config

/-- The bytes of the sample. -/
def bytes (c : Config) : List UInt8 := [0, 0, 0, 1] ++ (c.sps ++ [0, 0, 0, 1] ++ c.pps)

/-- The meta data of the sample. -/
def bufferInfo (c : Config) : BufferInfo where
  offset := 0
  size := c.bytes.length
  presentationTimeUs := c.presentationTimeUs
  flags := c.flags

end Config

/-- `AVCDecoderConfigurationRecord`: the body of a sequence header. -/
def configurationRecord (sps pps : List UInt8) : List UInt8 :=
  [0x01, sps.getD 1 0, 0x00, sps.getD 3 0, 0x03] ++ (0x01 :: putShort sps.length) ++ sps ++
    (0x01 :: putShort pps.length) ++ pps

variable {sps : List UInt8}

/-- The record determines the SPS when the PPS is given. -/
theorem configurationRecord_inj {sps' pps : List UInt8}
    (h : configurationRecord sps pps = configurationRecord sps' pps) : sps = sps' := by
  have hdrop : ∀ sps : List UInt8, (configurationRecord sps pps).drop 8 =
      sps ++ ((0x01 :: putShort pps.length) ++ pps) := by
    intro sps
    have hfront : configurationRecord sps pps =
        ([0x01, sps.getD 1 0, 0x00, sps.getD 3 0, 0x03] ++ (0x01 :: putShort sps.length)) ++
          (sps ++ ((0x01 :: putShort pps.length) ++ pps)) := by
      simp [configurationRecord]
    rw [hfront, List.drop_left' (by simp)]
  have heq := congrArg (List.drop 8) h
  rw [hdrop, hdrop] at heq
  exact List.append_cancel_right heq

/-- The fields after a sequence header. -/
def SrsFlv.setHeader (sps pps : List UInt8) (tag : Allocation) (flv : SrsFlv) : SrsFlv :=
  { flv with
    h264_sps := some (.wrap sps), h264_pps := some (.wrap pps), video_tag := some tag
    h264_sps_changed := false, h264_pps_changed := false, h264_sps_pps_sent := true }

theorem getAt_wrap_getD {bytes : List UInt8} {i : Nat} (h : i < bytes.length) :
    (ByteBuffer.wrap bytes).getAt i = .ok (bytes.getD i 0) := by
  apply ByteBuffer.getAt_eq
  rw [ByteBuffer.bytes_wrap, List.getD_eq_getElem?_getD, List.getElem?_eq_getElem h]
  rfl

/-- The frames of a sequence header hold its record. -/
theorem muxSequenceHeader_eq (hsps : 4 ≤ sps.length) (pps : List UInt8) :
    ∃ frames contents, muxSequenceHeader (.wrap sps) (.wrap pps) = .ok frames ∧
      List.Forall₂ SrsFlvFrameBytes.Starts frames contents ∧
      contents.flatten = configurationRecord sps pps := by
  have hmux : muxSequenceHeader (.wrap sps) (.wrap pps) =
      .ok [frameOf [0x01, sps.getD 1 0, 0x00, sps.getD 3 0, 0x03],
        frameOf (0x01 :: putShort sps.length), frameOf sps,
        frameOf (0x01 :: putShort pps.length), frameOf pps] := by
    rw [muxSequenceHeader, getAt_wrap_getD (by omega), getAt_wrap_getD (by omega)]
    rfl
  refine ⟨_, [[0x01, sps.getD 1 0, 0x00, sps.getD 3 0, 0x03], 0x01 :: putShort sps.length, sps,
    0x01 :: putShort pps.length, pps], hmux, ?_, ?_⟩
  · exact .cons (starts_frameOf _) (.cons (starts_frameOf _) (.cons (starts_frameOf _)
      (.cons (starts_frameOf _) (.cons (starts_frameOf _) .nil))))
  · simp [configurationRecord]

/-! ## The parameter set branch -/

/-- What is taken for the SPS in front of a start code: four bytes are
subtracted for that, so the last byte is lost in front of a short one. -/
def cutSps (u : List UInt8) : StartCode → List UInt8
  | .four => u
  | .three => u.dropLast

def isSei (unit : List UInt8) : Bool := unit.head?.map (· &&& 0x1f) == some SEI

/-- What is taken for the PPS in front of the end of the sample or of an SEI.
Three bytes are subtracted for the start code of the SEI, so the first zero of
a long one is kept. -/
def cutPps (rest : List UInt8) : List UInt8 :=
  match splitUnit rest with
  | none => rest
  | some (u, code, unit) =>
      if isSei unit then
        match code with
        | .three => u
        | .four => u ++ [0]
      else rest

theorem length_cutSps (hu : u ≠ []) (code : StartCode) :
    ((cutSps u code).length : Int) = u.length + code.bytes.length - 4 := by
  have hpos : 0 < u.length := List.length_pos_iff.mpr hu
  cases code with
  | three =>
    simp only [cutSps, StartCode.bytes, List.length_dropLast, List.length_cons, List.length_nil]
    omega
  | four =>
    simp only [cutSps, StartCode.bytes, List.length_cons, List.length_nil]
    omega

theorem cutSps_isPrefix (u : List UInt8) (code : StartCode) : cutSps u code <+: u := by
  cases code with
  | three => exact List.dropLast_prefix u
  | four => exact List.prefix_refl u

theorem cutPps_isPrefix (rest : List UInt8) : cutPps rest <+: rest := by
  unfold cutPps
  cases hsplit : splitUnit rest with
  | none => exact List.prefix_refl rest
  | some split =>
    obtain ⟨u, code, unit⟩ := split
    obtain ⟨hbytes, -, -⟩ := split_of_splitUnit hsplit
    dsimp only
    split
    · rw [hbytes]
      cases code with
      | three => exact List.prefix_append _ _
      | four => exact ⟨[0, 0, 1] ++ unit, by simp [StartCode.bytes]⟩
    · exact List.prefix_refl rest

namespace SrsFlvMuxer

section Config

variable {m : SrsFlvMuxer}

/-- The current SPS holds no start code, so it is not the rest of a sample. -/
def SpsPlain (m : SrsFlvMuxer) : Prop :=
  ∀ sps, m.flv.h264_sps = some sps → ¬ [0, 0, 1] <:+: sps.content

/-- Data with a start code in it is not the current SPS. -/
theorem SpsPlain.equals_of_infix (h : m.SpsPlain) {bytes : List UInt8}
    (hcode : [0, 0, 1] <:+: bytes) : (ByteBuffer.wrap bytes).equals m.flv.h264_sps = false := by
  rw [← Bool.not_eq_true, ByteBuffer.equals_wrap_iff]
  intro heq
  obtain ⟨current, hsps, rfl⟩ := Option.map_eq_some_iff.mp heq
  exact h current hsps hcode

theorem copyOut_front (front rest : List UInt8) :
    SrsFlvFrameBytes.copyOut { data := some (.wrap (front ++ rest)), size := front.length } =
      .ok front := by
  obtain ⟨b', hget⟩ := @ByteBuffer.getBytes_eq (.wrap (front ++ rest)) front.length
    (by rw [← ByteBuffer.content_length, ByteBuffer.content_wrap, List.length_append]; omega)
  rw [ByteBuffer.content_wrap, List.take_left] at hget
  have hsize : ¬ ((front.length : Nat) : Int) < 0 := by omega
  rw [SrsFlvFrameBytes.copyOut, if_neg hsize]
  show ((ByteBuffer.wrap (front ++ rest)).getBytes front.length >>= fun read => pure read.1) = _
  rw [hget]
  rfl

variable {data : ByteBuffer} {size : Int}

/-- An SPS that compares as new replaces the current one. -/
theorem run_takeSps (hnew : data.equals m.flv.h264_sps = false)
    (hcopy : SrsFlvFrameBytes.copyOut { data := some data, size } = .ok sps) :
    (takeSps { data := some data, size }).run m = .ok () (m.onFlv (SrsFlv.setSps sps)) := by
  have hdata : SrsFlvFrameBytes.getData { data := some data, size } = .ok data := rfl
  rw [takeSps, run_ofExcept_bind hdata, run_get_bind, hnew, if_neg (by decide),
    run_ofExcept_bind hcopy, run_modifyFlv]
  rfl

/-- The current PPS is kept. -/
theorem run_takePps_same (hsame : data.equals m.flv.h264_pps = true) (dts pts : Int) :
    (takePps { data := some data, size } dts pts).run m = .ok () m := by
  have hdata : SrsFlvFrameBytes.getData { data := some data, size } = .ok data := rfl
  rw [takePps, run_ofExcept_bind hdata, run_get_bind, hsame, if_pos rfl, run_pure]

section NewPps

variable {pps : List UInt8} (hsps : m.flv.h264_sps = some (.wrap sps))
  (hnew : data.equals m.flv.h264_pps = false)
  (hcopy : SrsFlvFrameBytes.copyOut { data := some data, size } = .ok pps) (dts pts : Int)
include hsps hnew hcopy

/-- A new PPS makes a sequence header, with the SPS that came before it. -/
theorem run_takePps_of_new :
    (takePps { data := some data, size } dts pts).run m =
      (do
        let frames ← MonadExcept.ofExcept (muxSequenceHeader (.wrap sps) (.wrap pps))
        writeVideoTag frames .KeyFrame .SequenceHeader dts pts
        modifyFlv fun flv =>
          { flv with
            h264_sps_changed := false, h264_pps_changed := false
            h264_sps_pps_sent := true } : Method SrsFlvMuxer Unit).run
        (m.onFlv (SrsFlv.setPps pps)) := by
  have hdata : SrsFlvFrameBytes.getData { data := some data, size } = .ok data := rfl
  have hsps' : (m.onFlv (SrsFlv.setPps pps)).flv.h264_sps = some (.wrap sps) := hsps
  have hpps' : (m.onFlv (SrsFlv.setPps pps)).flv.h264_pps = some (.wrap pps) := rfl
  have hflags : ¬ ((m.onFlv (SrsFlv.setPps pps)).flv.h264_sps_pps_sent &&
      !(m.onFlv (SrsFlv.setPps pps)).flv.h264_sps_changed &&
      !(m.onFlv (SrsFlv.setPps pps)).flv.h264_pps_changed) = true := by
    show ¬ (_ && _ && !true) = true
    simp
  rw [takePps, run_ofExcept_bind hdata, run_get_bind, hnew, if_neg (by decide),
    run_ofExcept_bind hcopy, run_modifyFlv_bind]
  show (writeH264SpsPps dts pts).run (m.onFlv (SrsFlv.setPps pps)) = _
  rw [writeH264SpsPps, run_get_bind]
  dsimp only
  rw [if_neg hflags, hsps', hpps']

theorem run_takePps_new (hpool : m.mVideoAllocator.Released) (hfour : 4 ≤ sps.length) :
    ∃ tag, tag.content = tagHeader .KeyFrame .SequenceHeader dts pts ++
        configurationRecord sps pps ∧
      (takePps { data := some data, size } dts pts).run m =
        .ok ()
          ((m.onFlv (SrsFlv.setHeader sps pps tag)).packetWritten
            { flvTag := tag, type := .Video, dts, frame_type := .KeyFrame
              avc_aac_type := .SequenceHeader }) := by
  obtain ⟨frames, contents, hmux, hstarts, hrecord⟩ := muxSequenceHeader_eq hfour pps
  obtain ⟨tag, hcontent, hrun⟩ := run_writeVideoTag (m := m.onFlv (SrsFlv.setPps pps)) hpool hstarts
    .KeyFrame .SequenceHeader dts pts
  rw [hrecord] at hcontent
  refine ⟨tag, hcontent, ?_⟩
  rw [run_takePps_of_new hsps hnew hcopy, run_ofExcept_bind hmux, run_bind_ok hrun, run_modifyFlv,
    onFlv_packetWritten]
  congr 2
  show ({ m with flv := _ } : SrsFlvMuxer) = { m with flv := _ }
  rw [SrsFlv.setHeader, ← hsps]
  rfl

end NewPps

section Branch

variable {bb : ByteBuffer} {bi : BufferInfo} {front s extra rest u : List UInt8} {code : StartCode}

/-- The size that the code computes for the PPS. -/
theorem cutSei_eq (h : bb.At front (rest ++ extra))
    (hsize : bi.size = front.length + rest.length) :
    ∃ frame_sei bb', demuxAnnexb bb bi false = .ok (frame_sei, bb') ∧
      cutSei { data := some (.wrap (rest ++ extra)), size := rest.length } frame_sei =
        .ok { data := some (.wrap (rest ++ extra)), size := (cutPps rest).length } := by
  cases hsplit : splitUnit rest with
  | none =>
    refine ⟨_, _, demuxAnnexb_none h hsize hsplit, ?_⟩
    rw [cutPps, hsplit]
    rfl
  | some split =>
    obtain ⟨u, code, unit⟩ := split
    obtain ⟨bb', hdemux, -⟩ := demuxAnnexb_some h hsize hsplit
    obtain ⟨hbytes, hlong, -⟩ := split_of_splitUnit hsplit
    refine ⟨_, _, hdemux, ?_⟩
    -- There is a byte behind the start code, so its type can be read.
    have hfour : code.bytes.length ≤ 4 := by
      cases code <;> decide
    rw [List.length_append] at hlong
    cases unit with
    | nil =>
      simp only [List.length_nil] at hlong
      omega
    | cons b unit =>
      have hpos : ((b :: unit).length : Int) > 0 := by
        rw [List.length_cons]
        omega
      have htype : SrsFlvFrameBytes.nalUnitType
          { data := some (.wrap (b :: unit ++ extra)), size := (b :: unit).length } =
            .ok (b &&& 0x1f) := rfl
      rw [cutSei, if_pos hpos, htype, cutPps, hsplit]
      dsimp only
      by_cases hsei : b &&& 0x1f = SEI
      · have hlength : (rest.length : Int) - (b :: unit).length - 3 =
            u.length + code.bytes.length - 3 := by
          rw [hbytes]
          simp only [List.length_append]
          omega
        have hyes : isSei (b :: unit) = true := by simp [isSei, hsei]
        show (if SEI = b &&& 0x1f then _ else _ : Except JavaException _) = _
        rw [if_pos hsei.symm, if_pos hyes, hlength]
        cases code with
        | three =>
          show Except.ok _ = _
          simp [StartCode.bytes]
        | four =>
          show Except.ok _ = _
          simp [StartCode.bytes]
          omega
      · have hno : ¬ isSei (b :: unit) = true := by simp [isSei, hsei]
        show (if SEI = b &&& 0x1f then _ else _ : Except JavaException _) = _
        rw [if_neg (fun heq => hsei heq.symm), if_neg hno]
        rfl

/-- With a second start code the SPS is replaced, and then comes the PPS. -/
theorem run_writeParameterSets_some (hplain : m.SpsPlain) (h : bb.At front (s ++ extra))
    (hsize : bi.size = front.length + s.length) (hu : u ≠ [])
    (hsplit : splitUnit s = some (u, code, rest)) (dts pts : Int) :
    (writeParameterSets { data := some (.wrap (s ++ extra)), size := s.length } bb bi dts pts).run
        m =
      (takePps { data := some (.wrap (rest ++ extra)), size := (cutPps rest).length } dts pts).run
        (m.onFlv (SrsFlv.setSps (cutSps u code))) := by
  obtain ⟨bb₁, hdemux, hat⟩ := demuxAnnexb_some h hsize hsplit
  obtain ⟨hbytes, hlong, -⟩ := split_of_splitUnit hsplit
  have hsize₁ : bi.size = (front ++ (u ++ code.bytes)).length + rest.length := by
    rw [hsize, hbytes]
    simp only [List.length_append]
    omega
  obtain ⟨frame_sei, bb₂, hdemux₂, hcut⟩ := cutSei_eq hat hsize₁
  have hleft : (s.length : Int) - rest.length - 4 = (cutSps u code).length := by
    rw [length_cutSps hu, hbytes]
    simp only [List.length_append]
    omega
  have hinfix : [0, 0, 1] <:+: s ++ extra := by
    rw [hbytes]
    cases code with
    | three => exact ⟨u, rest ++ extra, by simp [StartCode.bytes]⟩
    | four => exact ⟨u ++ [0], rest ++ extra, by simp [StartCode.bytes]⟩
  obtain ⟨tail, htail⟩ : cutSps u code <+: s ++ extra := by
    apply (cutSps_isPrefix u code).trans
    rw [hbytes, List.append_assoc]
    exact List.prefix_append _ _
  have hcopy := copyOut_front (cutSps u code) tail
  rw [htail] at hcopy
  rw [writeParameterSets, run_ofExcept_bind hdemux]
  dsimp only
  rw [hleft, run_bind_ok (run_takeSps (hplain.equals_of_infix hinfix) hcopy),
    run_ofExcept_bind hdemux₂, run_ofExcept_bind hcut]

/-- A sample that starts with an SPS replaces the SPS and then looks at the PPS. -/
theorem run_writeVideoSample_sets (hplain : m.SpsPlain) {startCode : StartCode}
    (hat : bb.At [] (startCode.bytes ++ s)) (hsize : bi.size = bb.limit)
    (hlong : 4 < (startCode.bytes ++ s).length) (hsps : s.head?.map (· &&& 0x1f) = some SPS)
    (hu : u ≠ []) (hsplit : splitUnit s = some (u, code, rest)) :
    (writeVideoSample bb bi).run m =
      (takePps { data := some (.wrap rest), size := (cutPps rest).length } (dtsOf bi)
        (dtsOf bi)).run (m.onFlv (SrsFlv.setSps (cutSps u code))) := by
  have hlimit := hat.limit
  obtain ⟨bb₁, hdemux, hat₁⟩ := demuxAnnexb_first startCode hat hsize hlong
  obtain ⟨b, hb, htype⟩ := Option.map_eq_some_iff.mp hsps
  obtain ⟨tail, rfl⟩ : ∃ tail, s = b :: tail := List.head?_eq_some_iff.mp hb
  have hnal : (frameOf (b :: tail)).nalUnitType = .ok SPS := by
    rw [← htype]
    rfl
  have hsize₁ : bi.size = startCode.bytes.length + (b :: tail).length := by
    rw [hsize, hlimit, List.length_append, List.length_nil, Nat.zero_add]
  rw [← List.append_nil (b :: tail)] at hat₁
  have hsets := run_writeParameterSets_some hplain hat₁ hsize₁ hu hsplit (dtsOf bi) (dtsOf bi)
  rw [List.append_nil, List.append_nil] at hsets
  have hshort : ¬ bi.size < 4 := by
    rw [List.length_append] at hlong
    omega
  rw [writeVideoSample, if_neg hshort, run_ofExcept_bind hdemux, run_ofExcept_bind hnal]
  exact hsets

end Branch

theorem run_writeVideoSample_config (h : m.SpsPlain) (c : Config) :
    (writeVideoSample (.wrap c.bytes) c.bufferInfo).run m =
      (takePps (frameOf c.pps) (dtsOf c.bufferInfo) (dtsOf c.bufferInfo)).run
        (m.onFlv (SrsFlv.setSps c.sps)) := by
  obtain ⟨b, rest, hsps, htype⟩ := c.sps_type
  have hfour := c.four_le_sps
  have hpps : 0 < c.pps.length := List.length_pos_iff.mpr c.pps_isNalUnit.nonempty
  have hbytes : c.bytes = StartCode.four.bytes ++ (c.sps ++ (StartCode.four.bytes ++ c.pps)) := by
    simp [Config.bytes, StartCode.bytes]
  have hsplit : splitUnit (c.sps ++ (StartCode.four.bytes ++ c.pps)) =
      some (c.sps, .four, c.pps) :=
    splitUnit_of_isNalUnit c.sps_isNalUnit .four (by
      rw [List.length_append, show StartCode.four.bytes.length = 4 from rfl]
      omega)
  have hat := ByteBuffer.at_wrap c.bytes
  rw [hbytes] at hat
  have hrun := run_writeVideoSample_sets h hat (show c.bufferInfo.size = _ by rw [← hbytes]; rfl)
    (by simp only [List.length_append]; omega) (by rw [hsps, ← htype]; rfl)
    c.sps_isNalUnit.nonempty hsplit
  rw [cutPps, splitUnit_isNalUnit c.pps_isNalUnit, ← hbytes] at hrun
  exact hrun

/-- With the current PPS, only the SPS changes. -/
theorem run_config_samePps (h : m.SpsPlain) (c : Config)
    (hsame : m.flv.h264_pps = some (.wrap c.pps)) :
    (writeVideoSample (.wrap c.bytes) c.bufferInfo).run m =
      .ok () (m.onFlv (SrsFlv.setSps c.sps)) := by
  rw [run_writeVideoSample_config h c]
  apply run_takePps_same
  show (ByteBuffer.wrap c.pps).equals m.flv.h264_pps = true
  rw [ByteBuffer.equals_wrap_iff, hsame, Option.map_some, ByteBuffer.content_wrap]

theorem run_config_newPps (hpool : m.mVideoAllocator.Released) (h : m.SpsPlain) (c : Config)
    (hnew : (ByteBuffer.wrap c.pps).equals m.flv.h264_pps = false) :
    ∃ tag, tag.content =
        tagHeader .KeyFrame .SequenceHeader (dtsOf c.bufferInfo) (dtsOf c.bufferInfo) ++
          configurationRecord c.sps c.pps ∧
      (writeVideoSample (.wrap c.bytes) c.bufferInfo).run m =
        .ok ()
          ((m.onFlv (SrsFlv.setHeader c.sps c.pps tag)).packetWritten
            { flvTag := tag, type := .Video, dts := dtsOf c.bufferInfo, frame_type := .KeyFrame
              avc_aac_type := .SequenceHeader }) := by
  have hcopy := copyOut_front c.pps []
  rw [List.append_nil] at hcopy
  rw [run_writeVideoSample_config h c]
  exact run_takePps_new (m := m.onFlv (SrsFlv.setSps c.sps)) rfl hnew hcopy _ _ hpool c.four_le_sps

end Config

end SrsFlvMuxer

end MediasoupDemo.Flv
