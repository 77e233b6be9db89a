import MediasoupDemo.Flv.ParameterSets

/-!
# Any buffer as a video sample

`writeVideoSample` on an arbitrary buffer whose limit is not before the size of
the sample.  The buffer need not begin with its position, it may hold more than
the sample, and the sample need not be well formed.

* `Settled` is what holds between calls: `ipbs` is empty, the pool is released,
  the SPS holds no start code, and the PPS is not followed by an SEI.

`run_writeParameterSets_none` and `run_writeParameterSets_some` are the branch
as equations.  Every result about the branch is read off them.
-/

namespace MediasoupDemo.Flv

open ByteCodec Annexb MediasoupDemo.Runtime Method

/-! ## The parameter set branch -/

namespace SrsFlvMuxer

variable {bytes sps : List UInt8} {bb : ByteBuffer} {bi : BufferInfo}

/-! ### The branch as equations -/

section Branch

variable {m : SrsFlvMuxer} {bb : ByteBuffer} {bi : BufferInfo} {front s extra : List UInt8}

/-- Without a second start code the branch throws.  It may have taken the
sample without its last four bytes for the SPS before. -/
theorem run_writeParameterSets_none (h : bb.At front (s ++ extra))
    (hsize : bi.size = front.length + s.length) (hsplit : splitUnit s = none) (dts pts : Int) :
    ∃ e m', (writeParameterSets { data := some (.wrap (s ++ extra)), size := s.length } bb bi
        dts pts).run m = .error e m' ∧
      (m' = m ∨ ∃ sps rest, s = sps ++ rest ∧ rest.length = 4 ∧
        m' = m.onFlv (SrsFlv.setSps sps)) := by
  have hdemux := demuxAnnexb_none h hsize hsplit
  have hdata : SrsFlvFrameBytes.getData
      { data := some (.wrap (s ++ extra)), size := s.length - 4 } =
      .ok (.wrap (s ++ extra)) := rfl
  rw [writeParameterSets, run_ofExcept_bind hdemux]
  show ∃ e m', (takeSps { data := some (.wrap (s ++ extra)), size := s.length - 0 - 4 } >>= _).run
    m = _ ∧ _
  rw [Int.sub_zero]
  cases hequals : (ByteBuffer.wrap (s ++ extra)).equals m.flv.h264_sps with
  | true =>
    have htake : (takeSps { data := some (.wrap (s ++ extra)), size := s.length - 4 }).run m =
        .ok () m := by
      rw [takeSps, run_ofExcept_bind hdata, run_get_bind, hequals, if_pos rfl, run_pure]
    refine ⟨.nullPointer, m, ?_, .inl rfl⟩
    rw [run_bind_ok htake, run_ofExcept_bind hdemux]
    rfl
  | false =>
    by_cases hneg : (s.length : Int) - 4 < 0
    · have hcopy : SrsFlvFrameBytes.copyOut
          { data := some (.wrap (s ++ extra)), size := s.length - 4 } =
          .error .negativeArraySize := by
        rw [SrsFlvFrameBytes.copyOut, if_pos hneg]
        rfl
      have htake : (takeSps { data := some (.wrap (s ++ extra)), size := s.length - 4 }).run m =
          .error .negativeArraySize m := by
        rw [takeSps, run_ofExcept_bind hdata, run_get_bind, hequals, if_neg (by decide),
          run_ofExcept_bind_error hcopy]
      exact ⟨_, m, run_bind_error htake _, .inl rfl⟩
    · have hlength : (s.take (s.length - 4)).length = s.length - 4 := by
        rw [List.length_take]
        omega
      have hcopy := copyOut_front (s.take (s.length - 4)) (s.drop (s.length - 4) ++ extra)
      rw [← List.append_assoc, List.take_append_drop, hlength,
        show ((s.length - 4 : Nat) : Int) = s.length - 4 by omega] at hcopy
      refine ⟨.nullPointer, _, ?_, .inr ⟨_, _, (List.take_append_drop (s.length - 4) s).symm, ?_,
        rfl⟩⟩
      · rw [run_bind_ok (run_takeSps hequals hcopy), run_ofExcept_bind hdemux]
        rfl
      · rw [List.length_drop]
        omega

theorem getAt_wrap_error {i : Nat} (h : bytes.length ≤ i) :
    (ByteBuffer.wrap bytes).getAt i = .error .indexOutOfBounds := by
  have hlimit : ¬ i < (ByteBuffer.wrap bytes).limit := by
    show ¬ i < bytes.length
    omega
  rw [ByteBuffer.getAt, dif_neg hlimit]
  rfl

/-- A sequence header cannot be built from an SPS of fewer than four bytes. -/
theorem muxSequenceHeader_short (hsps : sps.length < 4) (pps : ByteBuffer) :
    muxSequenceHeader (.wrap sps) pps = .error .indexOutOfBounds := by
  rw [muxSequenceHeader, @getAt_wrap_error sps 3 (by omega)]
  by_cases hone : 1 < sps.length
  · rw [getAt_wrap_getD hone]
    rfl
  · rw [getAt_wrap_error (by omega)]
    rfl

/-- What becomes of a PPS: it is the current one, it makes a sequence header, or the SPS is too
short for that and the branch throws. -/
theorem takePps_cases (hpool : m.mVideoAllocator.Released) {pps data : List UInt8} {size : Int}
    (hsps : m.flv.h264_sps = some (.wrap sps))
    (hcopy : SrsFlvFrameBytes.copyOut { data := some (.wrap data), size } = .ok pps)
    (dts pts : Int) :
    m.flv.h264_pps.map ByteBuffer.content = some data ∧
        (takePps { data := some (.wrap data), size } dts pts).run m = .ok () m ∨
      m.flv.h264_pps.map ByteBuffer.content ≠ some data ∧
        (4 ≤ sps.length ∧ (∃ tag, (takePps { data := some (.wrap data), size } dts pts).run m =
            .ok () ((m.onFlv (SrsFlv.setHeader sps pps tag)).packetWritten
              { flvTag := tag, type := .Video, dts, frame_type := .KeyFrame
                avc_aac_type := .SequenceHeader })) ∨
          sps.length < 4 ∧ (takePps { data := some (.wrap data), size } dts pts).run m =
            .error .indexOutOfBounds (m.onFlv (SrsFlv.setPps pps))) := by
  rw [Ne, ← ByteBuffer.equals_wrap_iff]
  cases hequals : (ByteBuffer.wrap data).equals m.flv.h264_pps with
  | true => exact .inl ⟨rfl, run_takePps_same hequals dts pts⟩
  | false =>
    refine .inr ⟨Bool.false_ne_true, ?_⟩
    by_cases hlong : 4 ≤ sps.length
    · obtain ⟨tag, -, hrun⟩ := run_takePps_new hsps hequals hcopy dts pts hpool hlong
      exact .inl ⟨hlong, tag, hrun⟩
    · refine .inr ⟨by omega, ?_⟩
      rw [run_takePps_of_new hsps hequals hcopy,
        run_ofExcept_bind_error (muxSequenceHeader_short (by omega) _)]

end Branch

/-! ## What holds between calls -/

/-- The current PPS is not followed by an SEI, so it is not the rest of a
sample with one. -/
def PpsPlain (m : SrsFlvMuxer) : Prop :=
  ∀ pps, m.flv.h264_pps = some pps → ∀ u code unit,
    splitUnit pps.content = some (u, code, unit) → isSei unit = false

/-- What every sample finds, also after calls that have thrown. -/
structure Settled (m : SrsFlvMuxer) : Prop where
  ipbs : m.flv.ipbs = []
  pool : m.mVideoAllocator.Released
  spsPlain : m.SpsPlain
  ppsPlain : m.PpsPlain

theorem settled_new : Settled {} :=
  ⟨rfl, SrsAllocator.released_new _, by simp [SpsPlain], by simp [PpsPlain]⟩

section Settled

variable {m m' : SrsFlvMuxer}

/-- Other fields do not matter. -/
theorem Settled.of_eq (h : m.Settled) (hipbs : m'.flv.ipbs = m.flv.ipbs)
    (hpool : m'.mVideoAllocator = m.mVideoAllocator) (hsps : m'.flv.h264_sps = m.flv.h264_sps)
    (hpps : m'.flv.h264_pps = m.flv.h264_pps) : m'.Settled := by
  refine ⟨by rw [hipbs, h.ipbs], by rw [hpool]; exact h.pool, ?_, ?_⟩
  · rw [SpsPlain, hsps]
    exact h.spsPlain
  · rw [PpsPlain, hpps]
    exact h.ppsPlain

theorem Settled.packetWritten (h : m.Settled) (frame : SrsFlvFrame) :
    (m.packetWritten frame).Settled := by
  apply h.of_eq <;> simp

theorem Settled.setSps (h : m.Settled) (hplain : ¬ [0, 0, 1] <:+: sps) :
    (m.onFlv (SrsFlv.setSps sps)).Settled := by
  refine ⟨h.ipbs, h.pool, ?_, h.ppsPlain⟩
  intro sps' hsps'
  cases hsps'
  rwa [ByteBuffer.content_wrap]

theorem Settled.setPps (h : m.Settled) {pps : List UInt8}
    (hplain : ∀ u code unit, splitUnit pps = some (u, code, unit) → isSei unit = false) :
    (m.onFlv (SrsFlv.setPps pps)).Settled := by
  refine ⟨h.ipbs, h.pool, h.spsPlain, ?_⟩
  intro pps' hpps'
  cases hpps'
  rwa [ByteBuffer.content_wrap]

/-- A front part in which no start code begins holds none. -/
theorem not_infix_of_free {s front : List UInt8} (hfront : front <+: s)
    (hfree : ∀ i, i + 3 ≤ front.length → ¬ StartCodeAt s i) : ¬ [0, 0, 1] <:+: front := by
  rintro ⟨a, b, rfl⟩
  apply hfree a.length (by simp)
  left
  obtain ⟨tail, rfl⟩ := hfront
  rw [List.append_assoc, List.append_assoc, List.drop_left]
  exact List.prefix_append _ _

theorem not_infix_cutSps {s : List UInt8} (h : splitUnit s = some (u, code, rest)) :
    ¬ [0, 0, 1] <:+: cutSps u code := by
  obtain ⟨hbytes, -, hfirst⟩ := split_of_splitUnit h
  have hle := (cutSps_isPrefix u code).length_le
  apply @not_infix_of_free s
  · apply (cutSps_isPrefix u code).trans
    rw [hbytes]
    exact List.prefix_append _ _
  · intro i hi
    exact hfirst i (by omega)

/-- What is taken for a PPS has no SEI behind it. -/
theorem isSei_of_splitUnit_cutPps {unit : List UInt8}
    (h : splitUnit (cutPps rest) = some (u, code, unit)) : isSei unit = false := by
  cases hsplit : splitUnit rest with
  | none =>
    rw [cutPps, hsplit] at h
    dsimp only at h
    rw [hsplit] at h
    cases h
  | some split =>
    obtain ⟨u₀, code₀, unit₀⟩ := split
    by_cases hsei : isSei unit₀ = true
    · -- The PPS was cut, and no start code begins in what is left.
      obtain ⟨-, -, hfirst⟩ := split_of_splitUnit hsplit
      have hlength : (cutPps rest).length ≤ u₀.length + 1 := by
        rw [cutPps, hsplit]
        dsimp only
        rw [if_pos hsei]
        cases code₀ <;> simp
      obtain ⟨tail, htail⟩ := cutPps_isPrefix rest
      have hnone : splitUnit (cutPps rest) = none := by
        rw [splitUnit_eq_none_iff]
        intro i hi hcode
        apply hfirst i (by omega)
        rw [← htail, startCodeAt_append (by omega)]
        exact hcode
      rw [hnone] at h
      cases h
    · rw [cutPps, hsplit] at h
      dsimp only at h
      rw [if_neg hsei, hsplit] at h
      cases h
      simpa using hsei

/-- A slice goes to the queue, and `ipbs` is empty again. -/
theorem run_writeSlice_settled (h : m.Settled) (unit extra : List UInt8) (type : AvcFrame)
    (dts pts : Int) :
    ∃ m', (writeSlice { data := some (.wrap (unit ++ extra)), size := unit.length } type
        dts pts).run m = .ok () m' ∧ m'.Settled := by
  have hframe : SrsFlvFrameBytes.Starts
      { data := some (.wrap (unit ++ extra)), size := unit.length } unit :=
    ⟨_, extra, rfl, ByteBuffer.content_wrap _, rfl⟩
  cases hsent : m.flv.h264_sps_pps_sent with
  | false => exact ⟨m, run_writeSlice_unsent h.ipbs type dts pts hsent _, h⟩
  | true =>
    obtain ⟨tag, -, hrun⟩ := run_writeSlice_sent h.ipbs type dts pts h.pool hsent hframe
    refine ⟨_, hrun, ?_⟩
    apply Settled.packetWritten
    exact h.of_eq rfl rfl rfl rfl

/-- How a call ends: it returns just when `handled`, and what holds between
calls holds after it in any case. -/
def EndsSettled (x : Method SrsFlvMuxer Unit) (m : SrsFlvMuxer) (handled : Prop) : Prop :=
  (handled ∧ ∃ m', x.run m = .ok () m' ∧ m'.Settled) ∨
    (¬ handled ∧ ∃ e m', x.run m = .error e m' ∧ m'.Settled)

/-- The rest of a sample is taken for the PPS, unless it is the current one. -/
theorem takePps_endsSettled (h : m.Settled) (hsps : m.flv.h264_sps = some (.wrap sps))
    (rest extra : List UInt8) (dts pts : Int) :
    EndsSettled
      (takePps { data := some (.wrap (rest ++ extra)), size := (cutPps rest).length } dts pts) m
      (4 ≤ sps.length ∨ m.flv.h264_pps.map ByteBuffer.content = some (rest ++ extra)) := by
  obtain ⟨tail, htail⟩ : cutPps rest <+: rest ++ extra :=
    (cutPps_isPrefix rest).trans (List.prefix_append _ _)
  have hcopy := copyOut_front (cutPps rest) tail
  rw [htail] at hcopy
  have hpps : (m.onFlv (SrsFlv.setPps (cutPps rest))).Settled :=
    h.setPps fun _ _ _ => isSei_of_splitUnit_cutPps
  rcases takePps_cases h.pool hsps hcopy dts pts with
    ⟨hsame, hrun⟩ | ⟨hnew, ⟨hlong, tag, hrun⟩ | ⟨hshort, hrun⟩⟩
  · exact .inl ⟨.inr hsame, m, hrun, h⟩
  · refine .inl ⟨.inl hlong, _, hrun, ?_⟩
    apply Settled.packetWritten
    exact hpps.of_eq rfl rfl hsps.symm rfl
  · refine .inr ⟨?_, _, _, hrun, hpps⟩
    rintro (hlong | hsame)
    · omega
    · exact hnew hsame

/-- The parameter set branch. -/
theorem writeParameterSets_endsSettled (h : m.Settled) {front s extra : List UInt8}
    (hat : bb.At front (s ++ extra)) (hsize : bi.size = front.length + s.length)
    (hs : s.head? ≠ some 0) (dts pts : Int) :
    EndsSettled
      (writeParameterSets { data := some (.wrap (s ++ extra)), size := s.length } bb bi dts pts) m
      (∃ u code rest, splitUnit s = some (u, code, rest) ∧
        (4 ≤ (cutSps u code).length ∨
          m.flv.h264_pps.map ByteBuffer.content = some (rest ++ extra))) := by
  cases hsplit : splitUnit s with
  | none =>
    obtain ⟨e, m', hrun, hm'⟩ := @run_writeParameterSets_none m _ _ _ _ _ hat hsize hsplit dts pts
    refine .inr ⟨by simp, e, m', hrun, ?_⟩
    rcases hm' with rfl | ⟨sps, rest, rfl, hrest, rfl⟩
    · exact h
    · apply h.setSps
      rw [splitUnit_eq_none_iff] at hsplit
      apply not_infix_of_free (List.prefix_append sps rest)
      intro i hi
      exact hsplit i (by rw [List.length_append]; omega)
  | some split =>
    obtain ⟨u, code, rest⟩ := split
    have hu : u ≠ [] := by
      rintro rfl
      obtain ⟨hbytes, -, -⟩ := split_of_splitUnit hsplit
      apply hs
      rw [hbytes]
      cases code <;> rfl
    have hsps : (m.onFlv (SrsFlv.setSps (cutSps u code))).Settled :=
      h.setSps (not_infix_cutSps hsplit)
    have hends := takePps_endsSettled hsps rfl rest extra dts pts
    have hhandled : (∃ u' code' rest', some (u, code, rest) = some (u', code', rest') ∧
        (4 ≤ (cutSps u' code').length ∨
          m.flv.h264_pps.map ByteBuffer.content = some (rest' ++ extra))) ↔
        (4 ≤ (cutSps u code).length ∨
          m.flv.h264_pps.map ByteBuffer.content = some (rest ++ extra)) := by
      constructor
      · rintro ⟨u', code', rest', heq, hcase⟩
        cases heq
        exact hcase
      · exact fun hcase => ⟨u, code, rest, rfl, hcase⟩
    rw [EndsSettled, hhandled,
      run_writeParameterSets_some h.spsPlain hat hsize hu hsplit dts pts]
    exact hends

end Settled

/-! ## Every sample -/

/-- The start code at the beginning of the bytes. -/
def leadingCode (bytes : List UInt8) : Option StartCode :=
  if [0, 0, 0, 1] <+: bytes then some .four
  else if [0, 0, 1] <+: bytes then some .three
  else none

/-- The sample behind its first start code. -/
def firstUnit (bb : ByteBuffer) (bi : BufferInfo) (code : StartCode) : List UInt8 :=
  (bb.bytes.take bi.size).drop (bb.position + code.bytes.length)

/-- The unit is an SPS or a PPS. -/
def isParameterSet (unit : List UInt8) : Bool :=
  unit.head?.map (fun b => classOf (b &&& 0x1f)) == some .parameterSet

/-- The samples that `writeVideoSample` returns from: those that are too short
to look at, and those with a start code in front and five bytes from the
position on.  A parameter set needs a second start code behind it, and either
what is taken for the SPS has its four bytes or the rest is the current PPS. -/
def Handled (m : SrsFlvMuxer) (bb : ByteBuffer) (bi : BufferInfo) : Prop :=
  bi.size < 4 ∨
    ∃ code, leadingCode bb.bytes = some code ∧ bb.position + 4 < bi.size ∧
      (isParameterSet (firstUnit bb bi code) = true →
        ∃ u code' rest, splitUnit (firstUnit bb bi code) = some (u, code', rest) ∧
          (4 ≤ (cutSps u code').length ∨
            m.flv.h264_pps.map ByteBuffer.content = some (rest ++ bb.bytes.drop bi.size)))

theorem leadingCode_isPrefix (h : leadingCode bytes = some code) : code.bytes <+: bytes := by
  unfold leadingCode at h
  split_ifs at h with hfour hthree
  · cases h
    exact hfour
  · cases h
    exact hthree

theorem leadingCode_eq_none_iff :
    leadingCode bytes = none ↔ ¬ StartCodeAt bytes 0 := by
  rw [startCodeAt_zero, leadingCode]
  split_ifs with hfour hthree <;> simp_all

/-- **Every sample.**  Whatever the buffer holds, as long as the sample is not
longer than it. -/
theorem writeVideoSample_endsSettled {m : SrsFlvMuxer} (h : m.Settled)
    (hsize : bi.size ≤ bb.limit) :
    EndsSettled (writeVideoSample bb bi) m (Handled m bb bi) := by
  by_cases hshort : bi.size < 4
  · refine .inl ⟨.inl hshort, m, ?_, h⟩
    rw [writeVideoSample, if_pos hshort, run_pure]
  by_cases hcode : bb.position + 4 < bi.size ∧ StartCodeAt bb.bytes 0
  · obtain ⟨hlong, hcode⟩ := hcode
    obtain ⟨code, hleading⟩ : ∃ code, leadingCode bb.bytes = some code := by
      rw [← Option.isSome_iff_exists, ← Option.ne_none_iff_isSome]
      exact fun hnone => leadingCode_eq_none_iff.mp hnone hcode
    -- The sample from the position on, and what the buffer holds behind it.
    have hat : bb.At (bb.bytes.take bb.position)
        ((bb.bytes.take bi.size).drop bb.position ++ bb.bytes.drop bi.size) := by
      have hcontent : bb.content =
          (bb.bytes.take bi.size).drop bb.position ++ bb.bytes.drop bi.size := by
        show bb.bytes.drop bb.position = _
        rw [← List.drop_append_of_le_length (by rw [List.length_take, bb.bytes_length]; omega),
          List.take_append_drop]
      rw [← hcontent]
      exact bb.at_position
    have hlength : ((bb.bytes.take bi.size).drop bb.position).length = bi.size - bb.position := by
      rw [List.length_drop, List.length_take, bb.bytes_length]
      omega
    have hposition : (bb.bytes.take bb.position).length = bb.position := by
      rw [List.length_take, bb.bytes_length]
      omega
    have hsum : bi.size = (bb.bytes.take bb.position).length +
        ((bb.bytes.take bi.size).drop bb.position).length := by
      rw [hposition, hlength]
      omega
    obtain ⟨bb₁, hdemux, hat₁⟩ := demuxAnnexb_true_some hat hsum (by omega)
      (leadingCode_isPrefix hleading)
    rw [List.drop_drop] at hdemux hat₁
    change demuxAnnexb bb bi true = .ok ({
      data := some (.wrap (firstUnit bb bi code ++ bb.bytes.drop bi.size))
      size := (firstUnit bb bi code).length }, bb₁) at hdemux
    change bb₁.At _ (firstUnit bb bi code ++ bb.bytes.drop bi.size) at hat₁
    have hhandled : Handled m bb bi ↔
        (isParameterSet (firstUnit bb bi code) = true →
          ∃ u code' rest, splitUnit (firstUnit bb bi code) = some (u, code', rest) ∧
            (4 ≤ (cutSps u code').length ∨
              m.flv.h264_pps.map ByteBuffer.content = some (rest ++ bb.bytes.drop bi.size))) := by
      rw [Handled, hleading]
      constructor
      · rintro (hlt | ⟨code', heq, -, hcase⟩)
        · omega
        · cases heq
          exact hcase
      · exact fun hcase => .inr ⟨code, rfl, hlong, hcase⟩
    have hunit : 0 < (firstUnit bb bi code).length := by
      have hfour : code.bytes.length ≤ 4 := by
        cases code <;> decide
      rw [firstUnit, List.length_drop, List.length_take, bb.bytes_length]
      omega
    have hsize₁ : bi.size = (bb.bytes.take bb.position ++
        ((bb.bytes.take bi.size).drop bb.position).take code.bytes.length).length +
          (firstUnit bb bi code).length := by
      rw [firstUnit, ← List.drop_drop, List.length_append, Nat.add_assoc, ← List.length_append,
        List.take_append_drop]
      exact hsum
    rw [EndsSettled, hhandled, writeVideoSample, if_neg hshort, run_ofExcept_bind hdemux]
    generalize firstUnit bb bi code = unit at *
    generalize bb.bytes.drop bi.size = extra at *
    cases unit with
    | nil => simp at hunit
    | cons b unit =>
      have htype : SrsFlvFrameBytes.nalUnitType
          { data := some (.wrap (b :: unit ++ extra)), size := (b :: unit).length } =
            .ok (b &&& 0x1f) := rfl
      dsimp only
      rw [run_ofExcept_bind htype]
      have hset : isParameterSet (b :: unit) = true ↔ classOf (b &&& 0x1f) = .parameterSet := by
        simp [isParameterSet]
      rw [hset]
      cases hclass : classOf (b &&& 0x1f) with
      | keyFrame =>
        obtain ⟨m', hrun, hsettled⟩ := run_writeSlice_settled h (b :: unit) extra .KeyFrame _ _
        exact .inl ⟨by simp, m', hrun, hsettled⟩
      | interFrame =>
        obtain ⟨m', hrun, hsettled⟩ := run_writeSlice_settled h (b :: unit) extra .InterFrame _ _
        exact .inl ⟨by simp, m', hrun, hsettled⟩
      | other => exact .inl ⟨by simp, m, rfl, h⟩
      | parameterSet =>
        have hb : (b :: unit).head? ≠ some 0 := by
          intro hzero
          cases hzero
          cases hclass
        have hends := writeParameterSets_endsSettled h hat₁ hsize₁ hb (dtsOf bi) (dtsOf bi)
        simp only [forall_const]
        exact hends
  · have hdemux := demuxAnnexb_true_none hsize hcode
    refine .inr ⟨?_, .nullPointer, m, ?_, h⟩
    · rintro (hlt | ⟨code, hleading, hlong, -⟩)
      · exact hshort hlt
      · refine hcode ⟨hlong, ?_⟩
        by_contra hnone
        rw [leadingCode_eq_none_iff.mpr hnone] at hleading
        cases hleading
    · rw [writeVideoSample, if_neg hshort, run_ofExcept_bind hdemux]
      rfl

end SrsFlvMuxer

end MediasoupDemo.Flv
