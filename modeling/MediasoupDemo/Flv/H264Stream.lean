import MediasoupDemo.Flv.Allocator
import MediasoupDemo.Lib.Annexb

/-!
# `SrsRawH264Stream`: from Annex-B samples to tag bodies

`demuxAnnexb` finds a NAL unit in a sample.  The frame that it returns goes on
to the end of the sample: its size is what is left behind the start code, and
its data the whole rest of the buffer.  A caller that knows of a second unit
subtracts its size.  A frame without data has a `null` buffer.

`muxSequenceHeader` and `muxFlvTag` build the bodies of the tags.  The header
buffers that the class keeps between calls are rewound and written anew every
time, so they are values here.
-/

namespace MediasoupDemo.Flv

open ByteCodec Annexb MediasoupDemo.Runtime

/-- `SrsAvcNaluType`: the NAL unit types that the muxer tells apart. -/
def NonIDR : UInt8 := 1
@[inherit_doc NonIDR] def IDR : UInt8 := 5
@[inherit_doc NonIDR] def SEI : UInt8 := 6
@[inherit_doc NonIDR] def SPS : UInt8 := 7
@[inherit_doc NonIDR] def PPS : UInt8 := 8

/-- `SrsCodecVideoAVCFrame`: the frame types in use. -/
inductive AvcFrame where
  | Reserved
  | KeyFrame
  | InterFrame
  deriving DecidableEq

def AvcFrame.value : AvcFrame → UInt8
  | Reserved => 0
  | KeyFrame => 1
  | InterFrame => 2

/-- `SrsCodecVideoAVCType`, and the packet types of audio, which have the same
numbers. -/
inductive AvcType where
  | SequenceHeader
  | NALU
  deriving DecidableEq

/-- The number of a packet type. -/
def AvcType.value : AvcType → UInt8
  | SequenceHeader => 0
  | NALU => 1

structure SrsFlvFrameBytes where
  data : Option ByteBuffer := none
  size : Int := 0
  deriving DecidableEq

namespace SrsFlvFrameBytes

/-- `frame.data`, used as an object. -/
def getData (frame : SrsFlvFrameBytes) : Except JavaException ByteBuffer :=
  match frame.data with
  | none => throw .nullPointer
  | some data => pure data

/-- `frame.data.get(0) & 0x1f`. -/
def nalUnitType (frame : SrsFlvFrameBytes) : Except JavaException UInt8 := do
  let data ← frame.getData
  let b ← data.getAt 0
  pure (b &&& 0x1f)

/-- `byte[] bytes = new byte[frame.size]; frame.data.get(bytes)`. -/
def copyOut (frame : SrsFlvFrameBytes) : Except JavaException (List UInt8) :=
  if frame.size < 0 then throw .negativeArraySize
  else do
    let data ← frame.getData
    let (bytes, _) ← data.getBytes frame.size.toNat
    pure bytes

end SrsFlvFrameBytes

/-! ## Start codes -/

/-- Compare the bytes from an index on with a pattern, up to the first
difference. -/
def startsWith (bb : ByteBuffer) : (index : Nat) → List UInt8 → Except JavaException Bool
  | _, [] => pure true
  | index, b :: pattern => do
      let x ← bb.getAt index
      if x = b then startsWith bb (index + 1) pattern else pure false

/-- `searchStartcode`: the length of the start code at the beginning of the
buffer. -/
def searchStartcode (bb : ByteBuffer) (bi : BufferInfo) : Except JavaException (Option Nat) :=
  if (bi.size : Int) - 4 > 0 then do
    if ← startsWith bb 0 [0x00, 0x00, 0x00, 0x01] then pure (some 4)
    else if ← startsWith bb 0 [0x00, 0x00, 0x01] then pure (some 3)
    else pure none
  else pure none

/-- The loop of `searchAnnexb` with `left` positions to try. -/
def searchAnnexbLoop (bb : ByteBuffer) : (left i : Nat) → Except JavaException (Option Nat)
  | 0, _ => pure none
  | left + 1, i => do
      if ← startsWith bb i [0x00, 0x00, 0x01] then pure (some (i + 3 - bb.position))
      else if ← startsWith bb i [0x00, 0x00, 0x00, 0x01] then pure (some (i + 4 - bb.position))
      else searchAnnexbLoop bb left (i + 1)

/-- `searchAnnexb`: the bytes up to the end of the next start code. -/
def searchAnnexb (bb : ByteBuffer) (bi : BufferInfo) : Except JavaException (Option Nat) :=
  searchAnnexbLoop bb (bi.size - 4 - bb.position) bb.position

/-- The search of `demuxAnnexb`. -/
def search (bb : ByteBuffer) (bi : BufferInfo) (isOnlyChkHeader : Bool) :
    Except JavaException (Option Nat) :=
  if isOnlyChkHeader then searchStartcode bb bi else searchAnnexb bb bi

/-- `demuxAnnexb`: the frame, and the buffer behind the start code. -/
def demuxAnnexb (bb : ByteBuffer) (bi : BufferInfo) (isOnlyChkHeader : Bool) :
    Except JavaException (SrsFlvFrameBytes × ByteBuffer) :=
  if (bb.position : Int) < bi.size - 4 then do
    let tbbsc ← search bb bi isOnlyChkHeader
    if tbbsc.getD 0 < 3 then pure ({}, bb)
    else
      let bb ← bb.skip (tbbsc.getD 0)
      pure ({ data := some bb.slice, size := bi.size - bb.position }, bb)
  else pure ({}, bb)

/-! ## Tag bodies -/

def muxNaluHeader (frame : SrsFlvFrameBytes) : SrsFlvFrameBytes :=
  { data := some (.wrap (putInt frame.size)), size := 4 }

/-- A frame over an array of its own. -/
def frameOf (bytes : List UInt8) : SrsFlvFrameBytes :=
  { data := some (.wrap bytes), size := bytes.length }

def muxSequenceHeader (sps pps : ByteBuffer) : Except JavaException (List SrsFlvFrameBytes) := do
  let profile_idc ← sps.getAt 1
  let level_idc ← sps.getAt 3
  pure
    [frameOf [0x01, profile_idc, 0x00, level_idc, 0x03],
      frameOf (0x01 :: putShort sps.array.length),
      { data := some sps.duplicate, size := sps.array.length },
      frameOf (0x01 :: putShort pps.array.length),
      { data := some pps.duplicate, size := pps.array.length }]

/-- The five bytes in front of a tag body. -/
def tagHeader (frame_type : AvcFrame) (avc_packet_type : AvcType) (dts pts : Int) : List UInt8 :=
  (frame_type.value <<< 4 ||| 7) :: avc_packet_type.value ::
    beBytes 3 (int (pts - dts) % 2 ^ 32).toNat

/-- The loop of `muxFlvTag` over the frames. -/
def putFrames : List SrsFlvFrameBytes → Allocation → Except JavaException Allocation
  | [], allocation => pure allocation
  | frame :: frames, allocation => do
      let data ← frame.getData
      putFrames frames (← allocation.getFrom data frame.size)

/-- The size that `muxFlvTag` asks for.  It is not reduced to an `int`: a tag of `2 ^ 31` bytes,
for which the sum would wrap, has no array. -/
def tagSize (frames : List SrsFlvFrameBytes) : Int := 5 + (frames.map SrsFlvFrameBytes.size).sum

/-- `muxFlvTag`, with the allocator that it takes the tag from. -/
def muxFlvTag (allocator : SrsAllocator) (frames : List SrsFlvFrameBytes) (frame_type : AvcFrame)
    (avc_packet_type : AvcType) (dts pts : Int) :
    Except JavaException (Allocation × SrsAllocator) := do
  let (allocation, allocator) ← allocator.allocate (tagSize frames)
  let allocation ← allocation.putAll (tagHeader frame_type avc_packet_type dts pts)
  let allocation ← putFrames frames allocation
  pure (allocation, allocator)

end MediasoupDemo.Flv
