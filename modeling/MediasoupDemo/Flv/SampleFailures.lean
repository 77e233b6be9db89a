import MediasoupDemo.Flv.AnySample
import MediasoupDemo.Flv.KeyFrames

/-!
# Samples that the muxer cannot take

`Reached` are the states of a muxer after any calls, whether they have thrown
or not, as long as no video sample is longer than its buffer.  All of them are
`Settled`, so what `writeVideoSample` does with the next sample depends on the
sample and, for a parameter set, on the current PPS:

* it returns from the `Handled` samples and throws on all others;
* a configuration sample leaves its own SPS and PPS in the muxer just when the
  start codes have the lengths that the code assumes, four bytes in front of the
  PPS and three in front of an SEI.
-/

namespace MediasoupDemo.Flv

open ByteCodec Annexb MediasoupDemo.Runtime Method

namespace SrsFlvMuxer

/-! ## Every call leaves the muxer settled -/

variable {m : SrsFlvMuxer}

section Calls

theorem Settled.of_aside {m' : SrsFlvMuxer} (h : m.Settled) (haside : Aside m m') :
    m'.Settled := by
  have hother : Settled { m' with mVideoAllocator := m.mVideoAllocator } :=
    h.of_eq haside.ipbs rfl haside.sps haside.pps
  exact { hother with pool := haside.videoPool h.pool }

theorem not_startCodeAt_replicate (n i : Nat) : ¬ StartCodeAt (List.replicate n 0) i := by
  have hzeros : ∀ pat : List UInt8, 1 ∈ pat → ¬ pat <+: (List.replicate n 0).drop i := by
    intro pat hone hpat
    have hmem := hpat.subset hone
    simp at hmem
  rintro (hthree | hfour)
  · exact hzeros _ (by decide) hthree
  · exact hzeros _ (by decide) hfour

/-- `stop` fills the parameter sets with zeros. -/
theorem Settled.reset (h : m.Settled) : (m.onFlv SrsFlv.reset).Settled := by
  refine ⟨h.ipbs, h.pool, ?_, ?_⟩
  · intro sps hsps
    obtain ⟨old, -, rfl⟩ := Option.map_eq_some_iff.mp hsps
    rw [zeroFill, ByteBuffer.content_wrap]
    exact not_infix_of_free (List.prefix_refl _) fun i _ => not_startCodeAt_replicate _ i
  · intro pps hpps u code unit hsplit
    obtain ⟨old, -, rfl⟩ := Option.map_eq_some_iff.mp hpps
    have hnone : splitUnit (zeroFill old).content = none := by
      rw [zeroFill, ByteBuffer.content_wrap, splitUnit_eq_none_iff]
      exact fun i _ => not_startCodeAt_replicate _ i
    rw [hnone] at hsplit
    cases hsplit

/-- No video sample is longer than its buffer. -/
def Call.InBuffer : Call → Prop
  | .writeSampleData .VIDEO_TRACK bb bi => bi.size ≤ bb.limit
  | _ => True

/-- The call leaves the muxer settled, whether it throws or not. -/
theorem Settled.handle (h : m.Settled) {c : Call} (hc : c.InBuffer) :
    (m.handle c).Settled := by
  have haside (hc : c.IsAside) : (m.handle c).Settled :=
    hc.final_of (fun _ => h.of_aside) fun _ frame h' _ => h'.packetWritten frame
  cases c with
  | writeSampleData trackIndex bb bi =>
    cases trackIndex with
    | VIDEO_TRACK =>
      show (final (writeVideoSample bb bi) m).Settled
      rcases writeVideoSample_endsSettled h hc with ⟨-, m', hrun, hm'⟩ | ⟨-, e, m', hrun, hm'⟩
      · rw [final, hrun]
        exact hm'
      · rw [final, hrun]
        exact hm'
    | AUDIO_TRACK => exact haside trivial
  | stop => exact h.reset.of_eq rfl rfl rfl rfl
  | start => exact h.of_eq rfl rfl rfl rfl
  | addTrack | workerPoll | workerConnect | disconnect => exact haside trivial

end Calls

/-- The states after any calls. -/
inductive Reached : SrsFlvMuxer → Prop
  | new : Reached {}
  | handle {m : SrsFlvMuxer} (h : Reached m) {c : Call} (hc : c.InBuffer) : Reached (m.handle c)

theorem Reached.settled (h : Reached m) : m.Settled := by
  induction h with
  | new => exact settled_new
  | handle _ hc ih => exact ih.handle hc

/-! ## Which samples throw -/

/-- **Exceptions.**  In every state after any calls, `writeVideoSample` returns
from the handled samples and from no others. -/
theorem returns_iff_handled {m : SrsFlvMuxer} (h : Reached m) {bb : ByteBuffer} {bi : BufferInfo}
    (hsize : bi.size ≤ bb.limit) :
    (∃ m', (writeVideoSample bb bi).run m = .ok () m') ↔ Handled m bb bi := by
  rcases writeVideoSample_endsSettled h.settled hsize with
    ⟨hhandled, m', hrun, -⟩ | ⟨hnot, e, m', hrun, -⟩
  · exact ⟨fun _ => hhandled, fun _ => ⟨m', hrun⟩⟩
  · constructor
    · rintro ⟨m'', hok⟩
      rw [hrun] at hok
      cases hok
    · intro hhandled
      exact absurd hhandled hnot

/-- A key frame is handled by a new muxer. -/
theorem returns_keyFrame :
    Handled {} (.wrap [0, 0, 0, 1, 0x65, 0x88]) ⟨0, 6, 0, 0⟩ ∧
      ∃ m', (writeVideoSample (.wrap [0, 0, 0, 1, 0x65, 0x88]) ⟨0, 6, 0, 0⟩).run {} =
        .ok () m' := by
  have hhandled : Handled {} (.wrap [0, 0, 0, 1, 0x65, 0x88]) ⟨0, 6, 0, 0⟩ :=
    .inr ⟨.four, by decide, by decide, fun hset => absurd hset (by decide)⟩
  exact ⟨hhandled, (returns_iff_handled .new (by decide)).mpr hhandled⟩

/-- Four bytes that are a start code: there is no frame behind it, and its data
is used. -/
theorem writeVideoSample_four_bytes :
    (writeVideoSample (.wrap [0, 0, 0, 1]) ⟨0, 4, 0, 0⟩).run {} = .error .nullPointer {} := rfl

/-! ## Configuration samples with any start codes -/

/-- An SPS, a PPS and maybe an SEI, each behind a start code of either length. -/
structure ConfigSample where
  spsCode : StartCode
  sps : List UInt8
  ppsCode : StartCode
  pps : List UInt8
  sei : Option (StartCode × List UInt8)
  presentationTimeUs : Int
  flags : BitVec 32
  sps_isNalUnit : IsNalUnit sps
  sps_type : sps.head?.map (· &&& 0x1f) = some SPS
  four_le_sps : 4 ≤ sps.length
  pps_isNalUnit : IsNalUnit pps
  pps_type : pps.head?.map (· &&& 0x1f) = some PPS
  four_le_pps : 4 ≤ pps.length
  sei_isNalUnit : ∀ code unit, sei = some (code, unit) → IsNalUnit unit
  sei_type : ∀ code unit, sei = some (code, unit) → isSei unit = true
  four_le_sei : ∀ code unit, sei = some (code, unit) → 4 ≤ unit.length

namespace ConfigSample

/-- The SEI with its start code. -/
def seiBytes (c : ConfigSample) : List UInt8 :=
  match c.sei with
  | none => []
  | some (code, unit) => code.bytes ++ unit

def bytes (c : ConfigSample) : List UInt8 :=
  c.spsCode.bytes ++ (c.sps ++ (c.ppsCode.bytes ++ (c.pps ++ c.seiBytes)))

/-- The meta data of the sample. -/
def bufferInfo (c : ConfigSample) : BufferInfo where
  offset := 0
  size := c.bytes.length
  presentationTimeUs := c.presentationTimeUs
  flags := c.flags

variable (c : ConfigSample)

theorem splitUnit_sps :
    splitUnit (c.sps ++ (c.ppsCode.bytes ++ (c.pps ++ c.seiBytes))) =
      some (c.sps, c.ppsCode, c.pps ++ c.seiBytes) := by
  apply splitUnit_of_isNalUnit c.sps_isNalUnit
  have := c.four_le_pps
  cases c.ppsCode <;> simp [StartCode.bytes] <;> omega

/-- What is taken for the PPS of the sample. -/
def takenPps (c : ConfigSample) : List UInt8 :=
  match c.sei with
  | some (.four, _) => c.pps ++ [0]
  | _ => c.pps

theorem splitUnit_pps {code : StartCode} {unit : List UInt8} (h : c.sei = some (code, unit)) :
    splitUnit (c.pps ++ c.seiBytes) = some (c.pps, code, unit) := by
  rw [seiBytes, h]
  apply splitUnit_of_isNalUnit c.pps_isNalUnit
  have := c.four_le_sei code unit h
  cases code <;> simp [StartCode.bytes] <;> omega

theorem cutPps_eq : cutPps (c.pps ++ c.seiBytes) = c.takenPps := by
  cases hsei : c.sei with
  | none =>
    rw [seiBytes, takenPps, hsei]
    dsimp only
    rw [List.append_nil, cutPps, splitUnit_isNalUnit c.pps_isNalUnit]
  | some sei =>
    obtain ⟨code, unit⟩ := sei
    rw [cutPps, splitUnit_pps c hsei, takenPps, hsei]
    dsimp only
    rw [if_pos (c.sei_type code unit hsei)]
    cases code <;> rfl

theorem cutSps_eq_iff : cutSps c.sps c.ppsCode = c.sps ↔ c.ppsCode = .four := by
  cases c.ppsCode with
  | three =>
    simp only [reduceCtorEq, iff_false]
    intro heq
    have hlength := congrArg List.length heq
    have := c.four_le_sps
    rw [cutSps, List.length_dropLast] at hlength
    omega
  | four => simp [cutSps]

theorem takenPps_eq_iff :
    c.takenPps = c.pps ↔ ∀ code unit, c.sei = some (code, unit) → code = .three := by
  unfold takenPps
  cases c.sei with
  | none => simp
  | some sei =>
    obtain ⟨code, unit⟩ := sei
    cases code <;> simp

end ConfigSample

/-- The SPS and the PPS of the sample are those of the muxer afterwards. -/
def KeepsParameterSets (m : SrsFlvMuxer) (bb : ByteBuffer) (c : ConfigSample) : Prop :=
  let m' := m.handle (.writeSampleData .VIDEO_TRACK bb c.bufferInfo)
  m'.flv.h264_sps.map ByteBuffer.content = some c.sps ∧
    m'.flv.h264_pps.map ByteBuffer.content = some c.pps

/-- The parameter sets after the PPS was looked at, whether that throws or not. -/
theorem final_takePps (h : m.Settled) {sps : List UInt8} (hsps : m.flv.h264_sps = some (.wrap sps))
    {rest : List UInt8}
    (hrest : m.flv.h264_pps.map ByteBuffer.content = some rest → cutPps rest = rest)
    (dts pts : Int) :
    (final (takePps { data := some (.wrap rest), size := (cutPps rest).length } dts pts)
        m).flv.h264_sps = some (.wrap sps) ∧
      (final (takePps { data := some (.wrap rest), size := (cutPps rest).length } dts pts)
        m).flv.h264_pps.map ByteBuffer.content = some (cutPps rest) := by
  obtain ⟨tail, htail⟩ := cutPps_isPrefix rest
  have hcopy := copyOut_front (cutPps rest) tail
  rw [htail] at hcopy
  have hset :
      (some (ByteBuffer.wrap (cutPps rest))).map ByteBuffer.content = some (cutPps rest) := by
    rw [Option.map_some, ByteBuffer.content_wrap]
  rcases takePps_cases h.pool hsps hcopy dts pts with
    ⟨hsame, hrun⟩ | ⟨-, ⟨-, tag, hrun⟩ | ⟨-, hrun⟩⟩
  · rw [final, hrun]
    refine ⟨hsps, ?_⟩
    rw [hrest hsame]
    exact hsame
  · rw [final, hrun]
    dsimp only
    rw [flv_packetWritten]
    exact ⟨rfl, hset⟩
  · rw [final, hrun]
    exact ⟨hsps, hset⟩

/-- A configuration sample is taken apart at its start codes. -/
theorem final_configSample (h : m.Settled) {bb : ByteBuffer} (c : ConfigSample)
    (hat : bb.At [] c.bytes) :
    m.handle (.writeSampleData .VIDEO_TRACK bb c.bufferInfo) =
      final (takePps { data := some (.wrap (c.pps ++ c.seiBytes)), size := c.takenPps.length }
          (dtsOf c.bufferInfo) (dtsOf c.bufferInfo))
        (m.onFlv (SrsFlv.setSps (cutSps c.sps c.ppsCode))) := by
  have hfour := c.four_le_sps
  have hcode : 3 ≤ c.spsCode.bytes.length := by
    cases c.spsCode <;> decide
  have hsize : c.bufferInfo.size = bb.limit := by
    rw [hat.limit, List.length_nil, Nat.zero_add]
    rfl
  obtain ⟨b, hb, htype⟩ := Option.map_eq_some_iff.mp c.sps_type
  have hrun := run_writeVideoSample_sets h.spsPlain hat hsize
    (by simp only [List.length_append]; omega)
    (by rw [List.head?_append, hb, ← htype]; rfl) c.sps_isNalUnit.nonempty c.splitUnit_sps
  rw [c.cutPps_eq] at hrun
  exact final_congr hrun

theorem parameterSets_configSample (h : m.Settled) {bb : ByteBuffer} (c : ConfigSample)
    (hat : bb.At [] c.bytes) :
    (m.handle (.writeSampleData .VIDEO_TRACK bb c.bufferInfo)).flv.h264_sps.map
        ByteBuffer.content = some (cutSps c.sps c.ppsCode) ∧
      (m.handle (.writeSampleData .VIDEO_TRACK bb c.bufferInfo)).flv.h264_pps.map
        ByteBuffer.content = some c.takenPps := by
  have hset : (m.onFlv (SrsFlv.setSps (cutSps c.sps c.ppsCode))).Settled :=
    h.setSps (not_infix_cutSps c.splitUnit_sps)
  -- The current PPS is never the PPS with the SEI behind it.
  have hcurrent : m.flv.h264_pps.map ByteBuffer.content = some (c.pps ++ c.seiBytes) →
      cutPps (c.pps ++ c.seiBytes) = c.pps ++ c.seiBytes := by
    intro hpps
    obtain ⟨pps, hpps, hcontent⟩ := Option.map_eq_some_iff.mp hpps
    cases hsei : c.sei with
    | none => rw [c.cutPps_eq, ConfigSample.takenPps, ConfigSample.seiBytes, hsei, List.append_nil]
    | some sei =>
      obtain ⟨code, unit⟩ := sei
      have hsplit := c.splitUnit_pps hsei
      rw [← hcontent] at hsplit
      have hno := h.ppsPlain pps hpps _ _ _ hsplit
      rw [c.sei_type code unit hsei] at hno
      cases hno
  obtain ⟨hsps, hpps⟩ := final_takePps hset rfl hcurrent (dtsOf c.bufferInfo) (dtsOf c.bufferInfo)
  rw [c.cutPps_eq] at hsps hpps
  rw [final_configSample h c hat, hsps, hpps, Option.map_some, ByteBuffer.content_wrap]
  exact ⟨rfl, rfl⟩

/-- **Start codes of configuration samples.**  In every state after any calls,
the parameter sets of the sample are those of the muxer afterwards just when the
start code of the PPS has four bytes and that of an SEI three. -/
theorem keepsParameterSets_iff {m : SrsFlvMuxer} (h : Reached m) {bb : ByteBuffer}
    (c : ConfigSample) (hat : bb.At [] c.bytes) :
    KeepsParameterSets m bb c ↔
      c.ppsCode = .four ∧ ∀ code unit, c.sei = some (code, unit) → code = .three := by
  obtain ⟨hsps, hpps⟩ := parameterSets_configSample h.settled c hat
  unfold KeepsParameterSets
  dsimp only
  rw [hsps, hpps, Option.some.injEq, Option.some.injEq, c.cutSps_eq_iff, c.takenPps_eq_iff]

/-- A sample with an SEI behind a start code of three bytes. -/
def configWithSei : ConfigSample where
  spsCode := .three
  sps := [0x67, 0x42, 0x00, 0x1e]
  ppsCode := .four
  pps := [0x68, 0xce, 0x06, 0xe2]
  sei := some (.three, [0x06, 0x05, 0x01, 0x80])
  presentationTimeUs := 0
  flags := 0
  sps_isNalUnit := by decide
  sps_type := rfl
  four_le_sps := by decide
  pps_isNalUnit := by decide
  pps_type := rfl
  four_le_pps := by decide
  sei_isNalUnit := by
    intro code unit h
    cases h
    decide
  sei_type := by
    intro code unit h
    cases h
    rfl
  four_le_sei := by
    intro code unit h
    cases h
    decide

theorem keepsParameterSets_configWithSei :
    KeepsParameterSets {} (.wrap configWithSei.bytes) configWithSei := by
  refine (keepsParameterSets_iff .new _ (ByteBuffer.at_wrap _)).mpr ⟨rfl, ?_⟩
  intro code unit h
  cases h
  rfl

/-- The same sample with a start code of three bytes in front of the PPS. -/
def configShortCode : ConfigSample := { configWithSei with ppsCode := .three }

/-- The last byte of the SPS is taken for a part of the start code. -/
theorem not_keepsParameterSets_configShortCode :
    ¬ KeepsParameterSets {} (.wrap configShortCode.bytes) configShortCode := by
  intro h
  have hsps := (parameterSets_configSample settled_new configShortCode (ByteBuffer.at_wrap _)).1
  rw [h.1] at hsps
  have hlength := congrArg (Option.map List.length) hsps
  cases hlength

end SrsFlvMuxer

end MediasoupDemo.Flv
