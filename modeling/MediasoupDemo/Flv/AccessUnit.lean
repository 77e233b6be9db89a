import MediasoupDemo.Flv.ParameterSets

/-!
# Slices in NALU tags

A sample with slices becomes a NALU tag: five header bytes, the length of what
stands behind the first start code, and all of that (`run_writeVideoSample_slice`).

A reader of the tag takes it for one NAL unit.  That is right for a sample
with a single slice.  A picture that is coded in several slices comes as one
sample with several units, and its tag holds one unit with start codes inside.
So the tag is right if and only if there is one unit.
-/

namespace MediasoupDemo.Flv

open ByteCodec Annexb MediasoupDemo.Runtime Method

namespace SrsFlvMuxer

section Slice

variable {m : SrsFlvMuxer}

def sliceType (b : UInt8) : AvcFrame := if b &&& 0x1f = IDR then .KeyFrame else .InterFrame

/-- A sample that starts with a slice is written as one unit. -/
theorem run_writeVideoSample_slice (startCode : StartCode) {b : UInt8} {rest : List UInt8}
    (hslice : b &&& 0x1f = NonIDR ∨ b &&& 0x1f = IDR)
    (hlong : 4 < (startCode.bytes ++ b :: rest).length) {bi : BufferInfo}
    (hsize : bi.size = (startCode.bytes ++ b :: rest).length) :
    (writeVideoSample (.wrap (startCode.bytes ++ b :: rest)) bi).run m =
      (writeSlice (frameOf (b :: rest)) (sliceType b) (dtsOf bi) (dtsOf bi)).run m := by
  obtain ⟨bb', hdemux, -⟩ := demuxAnnexb_first startCode (ByteBuffer.at_wrap _) hsize hlong
  have htype : (frameOf (b :: rest)).nalUnitType = .ok (b &&& 0x1f) := rfl
  rw [writeVideoSample, if_neg (by omega), run_ofExcept_bind hdemux, run_ofExcept_bind htype]
  rcases hslice with hslice | hslice
  · rw [sliceType, hslice]
    rfl
  · rw [sliceType, hslice]
    rfl

/-- The body of a video tag behind the five header bytes. -/
def tagPayload (tag : Allocation) : List UInt8 := tag.content.drop 5

/-- Once the sequence header was sent, a sample that starts with a slice makes
a tag with all that stands behind the start code. -/
theorem run_writeVideoSample_sent (h : m.Sound) (hsent : m.flv.h264_sps_pps_sent = true)
    (startCode : StartCode) {b : UInt8} {rest : List UInt8}
    (hslice : b &&& 0x1f = NonIDR ∨ b &&& 0x1f = IDR)
    (hlong : 4 < (startCode.bytes ++ b :: rest).length) {bi : BufferInfo}
    (hsize : bi.size = (startCode.bytes ++ b :: rest).length) :
    ∃ m' tag, (writeVideoSample (.wrap (startCode.bytes ++ b :: rest)) bi).run m = .ok () m' ∧
      m'.flv.video_tag = some tag ∧
      tagPayload tag = beBytes 4 (b :: rest).length ++ b :: rest := by
  obtain ⟨tag, hcontent, hrun⟩ := run_writeSlice_sent h.ipbs (sliceType b) (dtsOf bi) (dtsOf bi)
    h.videoPool hsent (starts_frameOf (b :: rest))
  rw [← run_writeVideoSample_slice startCode hslice hlong hsize] at hrun
  refine ⟨_, tag, hrun, ?_, ?_⟩
  · rw [flv_packetWritten]
    rfl
  · rw [tagPayload, hcontent, List.drop_left' (tagHeader_length _ _ _ _)]

end Slice

/-! ## Access units -/

/-- The unit is a slice: its type is 1 or 5. -/
def IsSlice (u : List UInt8) : Prop :=
  ∃ b rest, u = b :: rest ∧ (b &&& 0x1f = NonIDR ∨ b &&& 0x1f = IDR)

/-- A coded picture as the encoder delivers it: slices behind start codes.
A buffer holds less than `2 ^ 31` bytes. -/
structure AccessUnit where
  units : List (StartCode × List UInt8)
  presentationTimeUs : Int
  flags : BitVec 32
  nonempty : units ≠ []
  isNalUnit : ∀ p ∈ units, IsNalUnit p.2
  isSlice : ∀ p ∈ units, IsSlice p.2
  two_le : ∀ p ∈ units, 2 ≤ p.2.length
  length_lt : (annexb units).length < 2 ^ 31

variable (au : AccessUnit)

namespace AccessUnit

/-- The bytes of the sample. -/
def bytes : List UInt8 := annexb au.units

/-- The meta data of the sample. -/
def bufferInfo : BufferInfo where
  offset := 0
  size := au.bytes.length
  presentationTimeUs := au.presentationTimeUs
  flags := au.flags

/-- The NAL units of the sample. -/
def nalUnits : List (List UInt8) := au.units.map Prod.snd

end AccessUnit

/-- All that stands behind the first start code. -/
def AccessUnit.joined : List UInt8 :=
  match au.units with
  | [] => []
  | (_, u) :: more => u ++ annexb more

/-- The first slice of an access unit, and what follows it. -/
theorem AccessUnit.first :
    ∃ startCode b rest more, au.units = (startCode, b :: rest) :: more ∧
      (b &&& 0x1f = NonIDR ∨ b &&& 0x1f = IDR) ∧ 1 ≤ rest.length := by
  cases hunits : au.units with
  | nil => exact absurd hunits au.nonempty
  | cons p more =>
    have hp : p ∈ au.units := by rw [hunits]; simp
    have htwo := au.two_le p hp
    obtain ⟨b, rest, hu, htype⟩ := au.isSlice p hp
    rw [hu, List.length_cons] at htwo
    refine ⟨p.1, b, rest, more, ?_, htype, by omega⟩
    rw [← hu]

theorem readNalUnits_joined {m : SrsFlvMuxer} (h : Reachable m)
    (hsent : m.flv.h264_sps_pps_sent = true) (au : AccessUnit) :
    ∃ m' tag, (writeVideoSample (.wrap au.bytes) au.bufferInfo).run m = .ok () m' ∧
      m'.flv.video_tag = some tag ∧ readNalUnits (tagPayload tag) = some [au.joined] := by
  obtain ⟨startCode, b, rest, more, hunits, htype, hrest⟩ := au.first
  have hjoined : au.joined = b :: (rest ++ annexb more) := by
    simp only [AccessUnit.joined, hunits, List.cons_append]
  have hbytes : au.bytes = startCode.bytes ++ b :: (rest ++ annexb more) := by
    rw [AccessUnit.bytes, hunits]
    simp [annexb]
  have hcode : 3 ≤ startCode.bytes.length := by cases startCode <;> decide
  have hlong : 4 < (startCode.bytes ++ b :: (rest ++ annexb more)).length := by
    simp only [List.length_append, List.length_cons]
    omega
  have hlt : (b :: (rest ++ annexb more)).length < 2 ^ 32 := by
    have hlt := au.length_lt
    rw [← AccessUnit.bytes, hbytes, List.length_append] at hlt
    omega
  obtain ⟨m', tag, hrun, htag, hpayload⟩ := run_writeVideoSample_sent h.sound hsent startCode htype
    hlong (show au.bufferInfo.size = _ by rw [← hbytes]; rfl)
  refine ⟨m', tag, by rw [hbytes]; exact hrun, htag, ?_⟩
  rw [hpayload, readNalUnits_single hlt, hjoined]

/-- One unit is the list of the units only when there is one. -/
theorem AccessUnit.joined_eq_iff : [au.joined] = au.nalUnits ↔ au.units.length = 1 := by
  obtain ⟨startCode, b, rest, more, hunits, -, -⟩ := au.first
  rw [AccessUnit.nalUnits]
  simp only [AccessUnit.joined, hunits]
  constructor
  · intro heq
    have hcount := congrArg List.length heq
    simpa using hcount.symm
  · intro hone
    have hmore : more = [] := by simpa using hone
    subst hmore
    simp [annexb]

/-- The NALU tag of an access unit reads as the list of its NAL units if and
only if there is one. -/
theorem readNalUnits_writeVideoSample {m : SrsFlvMuxer} (h : Reachable m)
    (hsent : m.flv.h264_sps_pps_sent = true) (au : AccessUnit) :
    ∃ m' tag, (writeVideoSample (.wrap au.bytes) au.bufferInfo).run m = .ok () m' ∧
      m'.flv.video_tag = some tag ∧
      (readNalUnits (tagPayload tag) = some au.nalUnits ↔ au.units.length = 1) := by
  obtain ⟨m', tag, hrun, htag, hread⟩ := readNalUnits_joined h hsent au
  refine ⟨m', tag, hrun, htag, ?_⟩
  rw [hread, Option.some.injEq, au.joined_eq_iff]

/-- After a configuration sample the sequence header is sent. -/
theorem exists_sent (c : Config) :
    ∃ m, Reachable m ∧ m.flv.h264_sps_pps_sent = true := by
  have hplain : SpsPlain {} := by
    intro sps hsps
    cases hsps
  obtain ⟨tag, -, hrun⟩ := run_config_newPps sound_new.videoPool hplain c rfl
  refine ⟨_, Reachable.call .new (.writeSampleData .VIDEO_TRACK (.wrap c.bytes) c.bufferInfo) hrun,
    ?_⟩
  rw [flv_packetWritten]
  rfl

/-- A configuration sample of the baseline profile. -/
def baseline : Config where
  sps := [0x67, 0x42, 0x00, 0x1f, 0x96]
  pps := [0x68, 0xce, 0x3c, 0x80]
  presentationTimeUs := 0
  flags := 2
  sps_isNalUnit := by decide
  sps_type := ⟨0x67, _, rfl, rfl⟩
  four_le_sps := by decide
  pps_isNalUnit := by decide
  pps_type := ⟨0x68, _, rfl, rfl⟩

instance (u : List UInt8) : Decidable (IsSlice u) :=
  match u with
  | [] => isFalse fun ⟨_, _, h, _⟩ => by cases h
  | b :: rest =>
      decidable_of_iff (b &&& 0x1f = NonIDR ∨ b &&& 0x1f = IDR)
        ⟨fun h => ⟨b, rest, rfl, h⟩, fun ⟨_, _, heq, h⟩ => by cases heq; exact h⟩

/-- A key frame in one slice. -/
def oneSlice : AccessUnit where
  units := [(.three, [0x65, 0x88, 0x84])]
  presentationTimeUs := 40000
  flags := 1
  nonempty := by decide
  isNalUnit := by decide
  isSlice := by decide
  two_le := by decide
  length_lt := by decide

/-- A key frame in two slices. -/
def twoSlices : AccessUnit where
  units := [(.four, [0x65, 0x88, 0x84]), (.three, [0x65, 0x05, 0x22])]
  presentationTimeUs := 40000
  flags := 1
  nonempty := by decide
  isNalUnit := by decide
  isSlice := by decide
  two_le := by decide
  length_lt := by decide

theorem readNalUnits_writeVideoSample_oneSlice :
    ∃ m, Reachable m ∧ m.flv.h264_sps_pps_sent = true ∧
      ∃ m' tag, (writeVideoSample (.wrap oneSlice.bytes) oneSlice.bufferInfo).run m = .ok () m' ∧
        m'.flv.video_tag = some tag ∧
        readNalUnits (tagPayload tag) = some [[0x65, 0x88, 0x84]] := by
  obtain ⟨m, hm, hsent⟩ := exists_sent baseline
  obtain ⟨m', tag, hrun, htag, hiff⟩ := readNalUnits_writeVideoSample hm hsent oneSlice
  exact ⟨m, hm, hsent, m', tag, hrun, htag, hiff.mpr rfl⟩

/-- The tag of the two slices holds one unit, with a start code inside. -/
theorem readNalUnits_twoSlices :
    ∃ m, Reachable m ∧ m.flv.h264_sps_pps_sent = true ∧
      ∃ m' tag, (writeVideoSample (.wrap twoSlices.bytes) twoSlices.bufferInfo).run m = .ok () m' ∧
        m'.flv.video_tag = some tag ∧
        readNalUnits (tagPayload tag) =
          some [[0x65, 0x88, 0x84, 0x00, 0x00, 0x01, 0x65, 0x05, 0x22]] ∧
        readNalUnits (tagPayload tag) ≠ some twoSlices.nalUnits := by
  obtain ⟨m, hm, hsent⟩ := exists_sent baseline
  obtain ⟨m', tag, hrun, htag, hread⟩ := readNalUnits_joined hm hsent twoSlices
  refine ⟨m, hm, hsent, m', tag, hrun, htag, hread, ?_⟩
  rw [hread]
  decide

end SrsFlvMuxer

end MediasoupDemo.Flv
