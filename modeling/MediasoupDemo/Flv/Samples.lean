import MediasoupDemo.Flv.Demux
import Mathlib.Data.List.Forall2

/-!
# What the muxer makes of the units of a sample

One lemma per function of `SrsRawH264Stream` that makes a tag.  `muxFlvTag_of_starts` says
which bytes a tag holds, for frames that stand for the front parts of their data.
-/

namespace MediasoupDemo.Flv

open ByteCodec Annexb MediasoupDemo.Runtime

/-- The frame stands for the front part of its data, which are these bytes. -/
def SrsFlvFrameBytes.Starts (frame : SrsFlvFrameBytes) (bytes : List UInt8) : Prop :=
  ∃ data rest, frame.data = some data ∧ data.content = bytes ++ rest ∧ frame.size = bytes.length

theorem SrsFlvFrameBytes.Starts.size_eq {frame : SrsFlvFrameBytes} {bytes : List UInt8}
    (h : frame.Starts bytes) : frame.size = bytes.length := by
  obtain ⟨_, _, -, -, hsize⟩ := h
  exact hsize

theorem starts_frameOf (bytes : List UInt8) : (frameOf bytes).Starts bytes :=
  ⟨.wrap bytes, [], rfl, by simp, rfl⟩

theorem starts_muxNaluHeader {frame : SrsFlvFrameBytes} {bytes : List UInt8}
    (h : frame.size = bytes.length) : (muxNaluHeader frame).Starts (beBytes 4 bytes.length) := by
  refine ⟨_, [], rfl, ?_, ?_⟩
  · rw [ByteBuffer.content_wrap, List.append_nil, h]
    exact putInt_natCast bytes.length
  · rw [beBytes_length]
    rfl

variable {frames : List SrsFlvFrameBytes} {contents : List (List UInt8)}

theorem sum_size_of_starts (h : List.Forall₂ SrsFlvFrameBytes.Starts frames contents) :
    (frames.map SrsFlvFrameBytes.size).sum = contents.flatten.length := by
  induction h with
  | nil => rfl
  | cons hframe _ ih =>
    rw [List.map_cons, List.sum_cons, ih, hframe.size_eq, List.flatten_cons, List.length_append]
    push_cast
    rfl

theorem putFrames_of_starts (h : List.Forall₂ SrsFlvFrameBytes.Starts frames contents) :
    ∀ {a : Allocation} {bytes : List UInt8} {room : Nat},
      a.Holds bytes (contents.flatten.length + room) →
      ∃ a', putFrames frames a = .ok a' ∧ a'.Holds (bytes ++ contents.flatten) room := by
  induction h with
  | nil =>
    intro a bytes room ha
    refine ⟨a, rfl, ?_⟩
    simpa using ha
  | @cons frame content frames contents hframe _ ih =>
    intro a bytes room ha
    obtain ⟨data, rest, hdata, hcontent, hsize⟩ := hframe
    have hroom : (content :: contents).flatten.length + room =
        content.length + (contents.flatten.length + room) := by
      rw [List.flatten_cons, List.length_append]
      omega
    rw [hroom] at ha
    obtain ⟨a₁, hget, ha₁⟩ := ha.getFrom_front hcontent
    obtain ⟨a', hput, ha'⟩ := ih ha₁
    refine ⟨a', ?_, ?_⟩
    · have hown : frame.getData = .ok data := by
        rw [SrsFlvFrameBytes.getData, hdata]
        rfl
      rw [putFrames, hown, hsize]
      show (do putFrames frames (← a.getFrom data content.length) : Except JavaException _) = _
      rw [hget]
      exact hput
    · simpa using ha'

theorem tagHeader_length (frame_type : AvcFrame) (avc_packet_type : AvcType) (dts pts : Int) :
    (tagHeader frame_type avc_packet_type dts pts).length = 5 := by
  simp [tagHeader]

/-- A tag is its header and the frames; it is a new allocation. -/
theorem muxFlvTag_of_starts {allocator : SrsAllocator} (hpool : allocator.Released)
    (h : List.Forall₂ SrsFlvFrameBytes.Starts frames contents) (frame_type : AvcFrame)
    (avc_packet_type : AvcType) (dts pts : Int) :
    ∃ tag, muxFlvTag allocator frames frame_type avc_packet_type dts pts = .ok (tag, allocator) ∧
      tag.content = tagHeader frame_type avc_packet_type dts pts ++ contents.flatten := by
  have hsize : tagSize frames = ((5 + contents.flatten.length : Nat) : Int) := by
    rw [tagSize, sum_size_of_starts h]
    push_cast
    rfl
  have hallocate := allocator.allocate_of_released hpool
    (show 0 < tagSize frames by rw [hsize]; omega)
  -- The allocation has room for the header, the frames and maybe more.
  obtain ⟨room, hroom⟩ : ∃ room, max (tagSize frames).toNat allocator.individualAllocationSize =
      5 + (contents.flatten.length + room) := by
    refine ⟨max (tagSize frames).toNat allocator.individualAllocationSize -
      (5 + contents.flatten.length), ?_⟩
    omega
  have hnew := Allocation.holds_new (max (tagSize frames).toNat allocator.individualAllocationSize)
  nth_rewrite 2 [hroom] at hnew
  rw [← tagHeader_length frame_type avc_packet_type dts pts] at hnew
  obtain ⟨a₁, hheader, ha₁⟩ := hnew.putAll
  obtain ⟨tag, hframes, htag⟩ := putFrames_of_starts h ha₁
  refine ⟨tag, ?_, htag.content_eq⟩
  rw [muxFlvTag, hallocate]
  show (do
    let allocation ← Allocation.putAll (tagHeader frame_type avc_packet_type dts pts) _
    let allocation ← putFrames frames allocation
    pure (allocation, allocator) : Except JavaException _) = _
  rw [hheader]
  show (do
    let allocation ← putFrames frames a₁
    pure (allocation, allocator) : Except JavaException _) = _
  rw [hframes]
  rfl

end MediasoupDemo.Flv
