import MediasoupDemo.Flv.H264Stream
import MediasoupDemo.Mp4.MovieBox
import MediasoupDemo.Runtime.Method

/-!
# `SrsFlvMuxer`: samples to the tag queue

The muxer turns the samples of the encoder into FLV tags and queues them for
the worker, which hands them to the RTMP publisher.

* `writeVideoSample` sorts a sample by the type of its first NAL unit.  A
  slice becomes a NALU tag, once a sequence header was sent.  A sample with
  parameter sets updates `h264_sps` and `h264_pps`; the sequence header is
  written when the PPS is a new one.
* `start`, `stop` and `workerPoll` are the life of one session.

`history` is not a field of the class.  It lists every frame that was put in
the queue since the last `start`, also after the worker has polled it.
`published` lists what the publisher was given, and `videoFrameCacheNumber` is
the counter that the publisher keeps.
-/

namespace MediasoupDemo.Flv

open ByteCodec MediasoupDemo.Runtime

/-- `SrsCodecFlvTag`: the tag types in use. -/
inductive FlvTag where
  | Audio
  | Video
  deriving DecidableEq

structure SrsFlvFrame where
  flvTag : Allocation
  avc_aac_type : AvcType
  frame_type : AvcFrame
  type : FlvTag
  dts : Int
  deriving DecidableEq

variable (frame : SrsFlvFrame)

namespace SrsFlvFrame

def isVideo : Bool := frame.type == .Video

def isKeyFrame : Bool := frame.isVideo && frame.frame_type == .KeyFrame

def isSequenceHeader : Bool := frame.avc_aac_type == .SequenceHeader

end SrsFlvFrame

structure SrsFlv where
  videoTrack : Option Mp4.MediaFormat := none
  audioTrack : Option Mp4.MediaFormat := none
  achannel : Int := 0
  asample_rate : Int := 0
  ipbs : List SrsFlvFrameBytes := []
  audio_tag : Option Allocation := none
  video_tag : Option Allocation := none
  h264_sps : Option ByteBuffer := none
  h264_sps_changed : Bool := false
  h264_pps : Option ByteBuffer := none
  h264_pps_changed : Bool := false
  h264_sps_pps_sent : Bool := false
  aac_specific_config_got : Bool := false

def SrsFlv.setIpbs (ipbs : List SrsFlvFrameBytes) (flv : SrsFlv) : SrsFlv := { flv with ipbs }

def SrsFlv.setVideoTag (tag : Allocation) (flv : SrsFlv) : SrsFlv :=
  { flv with video_tag := some tag }

/-- Fill an array with zeros and clear its buffer. -/
def zeroFill (bb : ByteBuffer) : ByteBuffer := .wrap (List.replicate bb.array.length 0)

def SrsFlv.reset (flv : SrsFlv) : SrsFlv :=
  { flv with
    h264_sps_changed := false, h264_pps_changed := false, h264_sps_pps_sent := false
    aac_specific_config_got := false
    h264_sps := flv.h264_sps.map zeroFill, h264_pps := flv.h264_pps.map zeroFill }

structure SrsFlvMuxer where
  started : Bool := false
  flv : SrsFlv := {}
  needToFindKeyFrame : Bool := true
  mVideoSequenceHeader : Option SrsFlvFrame := none
  mAudioSequenceHeader : Option SrsFlvFrame := none
  mVideoAllocator : SrsAllocator := .new (128 * 1024)
  mAudioAllocator : SrsAllocator := .new (4 * 1024)
  mFlvTagCache : List SrsFlvFrame := []
  videoFrameCacheNumber : Int := 0
  published : List SrsFlvFrame := []
  history : List SrsFlvFrame := []

namespace SrsFlvMuxer

/-- The muxer with the fields of `flv` changed. -/
def onFlv (f : SrsFlv → SrsFlv) (m : SrsFlvMuxer) : SrsFlvMuxer := { m with flv := f m.flv }

/-- Change the fields of `flv`. -/
def modifyFlv (f : SrsFlv → SrsFlv) : Method SrsFlvMuxer Unit := modify (onFlv f)

def addTrack (format : Mp4.MediaFormat) : Method SrsFlvMuxer Mp4.TrackIndex := do
  if format.mime = Mp4.VCODEC then
    modifyFlv fun flv => { flv with videoTrack := some format }
    pure .VIDEO_TRACK
  else
    modifyFlv fun flv =>
      { flv with
        audioTrack := some format, achannel := format.channelCount
        asample_rate := format.sampleRate }
    pure .AUDIO_TRACK

/-! ## The queue -/

def flvTagCacheAdd : Method SrsFlvMuxer Unit := do
  if (← get).started then
    modify fun m =>
      { m with
        mFlvTagCache := m.mFlvTagCache ++ [frame], history := m.history ++ [frame]
        videoFrameCacheNumber :=
          if frame.isVideo then m.videoFrameCacheNumber + 1 else m.videoFrameCacheNumber }

/-- `writeRtmpPacket`: video waits for a key frame. -/
def writeRtmpPacket (type : FlvTag) (dts : Int) (frame_type : AvcFrame) (avc_aac_type : AvcType)
    (tag : Allocation) : Method SrsFlvMuxer Unit := do
  let frame : SrsFlvFrame := { flvTag := tag, type, dts, frame_type, avc_aac_type }
  if frame.isVideo && (← get).needToFindKeyFrame then
    if frame.isKeyFrame then
      modify fun m => { m with needToFindKeyFrame := false }
      flvTagCacheAdd frame
  else flvTagCacheAdd frame

/-! ## Video samples -/

/-- Build a video tag and hand it to the queue. -/
def writeVideoTag (frames : List SrsFlvFrameBytes) (frame_type : AvcFrame)
    (avc_packet_type : AvcType) (dts pts : Int) : Method SrsFlvMuxer Unit := do
  let m ← get
  let (video_tag, mVideoAllocator) ← MonadExcept.ofExcept
    (muxFlvTag m.mVideoAllocator frames frame_type avc_packet_type dts pts)
  set { m with mVideoAllocator, flv := m.flv.setVideoTag video_tag }
  writeRtmpPacket .Video dts frame_type avc_packet_type video_tag

def writeH264SpsPps (dts pts : Int) : Method SrsFlvMuxer Unit := do
  let flv := (← get).flv
  if flv.h264_sps_pps_sent && !flv.h264_sps_changed && !flv.h264_pps_changed then pure ()
  else
    match flv.h264_sps, flv.h264_pps with
    | some sps, some pps =>
        let frames ← MonadExcept.ofExcept (muxSequenceHeader sps pps)
        writeVideoTag frames .KeyFrame .SequenceHeader dts pts
        modifyFlv fun flv =>
          { flv with
            h264_sps_changed := false, h264_pps_changed := false, h264_sps_pps_sent := true }
    | _, _ => pure ()

def writeH264IpbFrame (frames : List SrsFlvFrameBytes) (type : AvcFrame) (dts pts : Int) :
    Method SrsFlvMuxer Unit := do
  -- Whether a parameter set has changed since then is not asked.
  if (← get).flv.h264_sps_pps_sent then writeVideoTag frames type .NALU dts pts

/-- The end of `writeVideoSample`: a slice and the length in front of it. -/
def writeSlice (frame : SrsFlvFrameBytes) (type : AvcFrame) (dts pts : Int) :
    Method SrsFlvMuxer Unit := do
  modifyFlv fun flv => flv.setIpbs (flv.ipbs ++ [muxNaluHeader frame, frame])
  writeH264IpbFrame (← get).flv.ipbs type dts pts
  modifyFlv (SrsFlv.setIpbs [])

/-- Keep a new SPS. -/
def takeSps (frame : SrsFlvFrameBytes) : Method SrsFlvMuxer Unit := do
  let data ← MonadExcept.ofExcept frame.getData
  if data.equals (← get).flv.h264_sps then pure ()
  else
    let sps ← MonadExcept.ofExcept frame.copyOut
    -- No sequence header is written here: the call is commented out.
    modifyFlv fun flv => { flv with h264_sps_changed := true, h264_sps := some (.wrap sps) }

/-- Keep a new PPS, and write the sequence header then. -/
def takePps (frame : SrsFlvFrameBytes) (dts pts : Int) : Method SrsFlvMuxer Unit := do
  let data ← MonadExcept.ofExcept frame.getData
  if data.equals (← get).flv.h264_pps then pure ()
  else
    let pps ← MonadExcept.ofExcept frame.copyOut
    modifyFlv fun flv => { flv with h264_pps_changed := true, h264_pps := some (.wrap pps) }
    writeH264SpsPps dts pts

/-- The PPS ends where an SEI behind a three byte start code begins. -/
def cutSei (frame_pps frame_sei : SrsFlvFrameBytes) : Except JavaException SrsFlvFrameBytes :=
  if frame_sei.size > 0 then do
    if SEI = (← frame_sei.nalUnitType) then
      pure { frame_pps with size := frame_pps.size - frame_sei.size - 3 }
    else pure frame_pps
  else pure frame_pps

/-- The parameter set branch of `writeVideoSample`.  The buffer stands behind
the first start code, and the start code of the PPS is taken to be four bytes
long. -/
def writeParameterSets (frame : SrsFlvFrameBytes) (bb : ByteBuffer) (bi : BufferInfo)
    (dts pts : Int) : Method SrsFlvMuxer Unit := do
  let (frame_pps, bb) ← MonadExcept.ofExcept (demuxAnnexb bb bi false)
  takeSps { frame with size := frame.size - frame_pps.size - 4 }
  let (frame_sei, _) ← MonadExcept.ofExcept (demuxAnnexb bb bi false)
  let frame_pps ← MonadExcept.ofExcept (cutSei frame_pps frame_sei)
  takePps frame_pps dts pts

/-- What a muxer takes a video sample for. -/
inductive SampleClass where
  | keyFrame
  | interFrame
  | parameterSet
  | other
  deriving DecidableEq

/-- The branches of `writeVideoSample` on the NAL unit type. -/
def classOf (nal_unit_type : UInt8) : SampleClass :=
  if nal_unit_type = IDR then .keyFrame
  else if nal_unit_type = SPS ∨ nal_unit_type = PPS then .parameterSet
  else if nal_unit_type ≠ NonIDR then .other
  else .interFrame

def writeVideoSample (bb : ByteBuffer) (bi : BufferInfo) : Method SrsFlvMuxer Unit := do
  if bi.size < 4 then pure ()
  else
    let pts := int (bi.presentationTimeUs.tdiv 1000)
    let dts := pts
    -- There is no loop over the units: this one runs to the end of the sample.
    let (frame, bb) ← MonadExcept.ofExcept (demuxAnnexb bb bi true)
    let nal_unit_type ← MonadExcept.ofExcept frame.nalUnitType
    match classOf nal_unit_type with
    | .keyFrame => writeSlice frame .KeyFrame dts pts
    | .parameterSet => writeParameterSets frame bb bi dts pts
    | .other => pure ()
    | .interFrame => writeSlice frame .InterFrame dts pts

/-! ## Audio samples -/

/-- The sampling frequency index of the decoder configuration. -/
def samplingFrequencyIndex (asample_rate : Int) : UInt8 :=
  if asample_rate = 22050 then 0x07
  else if asample_rate = 11025 then 0x0a
  else if asample_rate = 32000 then 0x05
  else if asample_rate = 16000 then 0x08
  else 0x04

/-- The first byte of an audio tag. -/
def audioHeader (achannel asample_rate : Int) : UInt8 :=
  let sound_type : UInt8 := if achannel = 2 then 1 else 0
  let sound_rate : UInt8 :=
    if asample_rate = 22050 then 2
    else if asample_rate = 11025 then 1
    else if asample_rate = 5512 then 0
    else 3
  let sound_size : UInt8 := 1
  let sound_format : UInt8 := 10
  (sound_type &&& (0x01 : UInt8)) ||| ((sound_size <<< 1) &&& (0x02 : UInt8)) |||
    ((sound_rate <<< 2) &&& (0x0c : UInt8)) ||| ((sound_format <<< 4) &&& (0xf0 : UInt8))

/-- `writeAdtsHeader`: the seven bytes for a frame array of this length. -/
def adtsHeader (length : Nat) : List UInt8 :=
  let n := (((length : Int) - 2) % 2 ^ 32).toNat
  [0xff, 0xf1, 0x50, 0x80 ||| UInt8.ofNat (n % 0x2000 / 0x800), UInt8.ofNat (n % 0x800 / 8),
    UInt8.ofNat (n % 8 * 32) ||| 0x1f, 0xfc]

/-- Put bytes at consecutive positions of the array; the fill count stays. -/
def putArray (a : Allocation) (pos : Nat) (bytes : List UInt8) :
    Except JavaException Allocation :=
  if pos + bytes.length ≤ a.data.length then
    pure { a with data := a.data.take pos ++ bytes ++ a.data.drop (pos + bytes.length) }
  else throw .indexOutOfBounds

/-- The body of an audio tag: the first sample makes the decoder
configuration. -/
def audioBody (flv : SrsFlv) (bb : ByteBuffer) (bi : BufferInfo) (tag : Allocation) :
    Except JavaException Allocation := do
  if flv.aac_specific_config_got then
    let (bytes, _) ← bb.getBytes bi.size
    let tag ← putArray tag 2 bytes
    pure (tag.appendOffset (bi.size + 2))
  else
    let b ← bb.getAt 0
    let index := samplingFrequencyIndex flv.asample_rate
    let channelConfiguration : UInt8 := if flv.achannel = 2 then 2 else 1
    let tag ← tag.putAt ((b &&& (0xf8 : UInt8)) ||| ((index >>> 1) &&& (0x07 : UInt8))) 2
    let tag ← tag.putAt
      (((index <<< 7) &&& (0x80 : UInt8)) ||| ((channelConfiguration <<< 3) &&& (0x78 : UInt8))) 3
    let tag ← putArray tag 4 (adtsHeader tag.data.length)
    pure (tag.appendOffset 7)

def writeAudioSample (bb : ByteBuffer) (bi : BufferInfo) : Method SrsFlvMuxer Unit := do
  let dts := int (bi.presentationTimeUs.tdiv 1000)
  let m ← get
  let (tag, mAudioAllocator) ← MonadExcept.ofExcept (m.mAudioAllocator.allocate (bi.size + 2))
  set { m with mAudioAllocator }
  let tag ← MonadExcept.ofExcept (audioBody m.flv bb bi tag)
  let aac_packet_type : AvcType := if m.flv.aac_specific_config_got then .NALU else .SequenceHeader
  let tag ← MonadExcept.ofExcept (tag.putAt (audioHeader m.flv.achannel m.flv.asample_rate) 0)
  let tag ← MonadExcept.ofExcept (tag.putAt aac_packet_type.value 1)
  modifyFlv fun flv => { flv with aac_specific_config_got := true, audio_tag := some tag }
  writeRtmpPacket .Audio dts .Reserved aac_packet_type tag

def writeSampleData (trackIndex : Mp4.TrackIndex) (bb : ByteBuffer) (bi : BufferInfo) :
    Method SrsFlvMuxer Unit :=
  match trackIndex with
  | .VIDEO_TRACK => writeVideoSample bb bi
  | .AUDIO_TRACK => writeAudioSample bb bi

/-! ## Sessions -/

/-- `start(rtmpUrl)`. -/
def start : Method SrsFlvMuxer Unit := modify fun m => { m with started := true, history := [] }

/-- The worker has connected, or failed to. -/
def workerConnect : Method SrsFlvMuxer Unit :=
  modify fun m => { m with mVideoSequenceHeader := none, mAudioSequenceHeader := none }

def sendFlvTag : Method SrsFlvMuxer Unit := do
  modify fun m => { m with published := m.published ++ [frame] }
  let m ← get
  match frame.type with
  | .Video =>
      let mVideoAllocator ← MonadExcept.ofExcept (m.mVideoAllocator.release frame.flvTag)
      set { m with mVideoAllocator }
  | .Audio =>
      let mAudioAllocator ← MonadExcept.ofExcept (m.mAudioAllocator.release frame.flvTag)
      set { m with mAudioAllocator }

/-- Keep the sequence header of a stream. -/
def storeHeader (m : SrsFlvMuxer) : SrsFlvMuxer :=
  match frame.type with
  | .Video => { m with mVideoSequenceHeader := some frame }
  | .Audio => { m with mAudioSequenceHeader := some frame }

/-- The sequence header of a stream, as far as the worker has seen one. -/
def storedHeader (m : SrsFlvMuxer) : FlvTag → Option SrsFlvFrame
  | .Video => m.mVideoSequenceHeader
  | .Audio => m.mAudioSequenceHeader

/-- The body of the worker's loop on a polled frame. -/
def workerFrame : Method SrsFlvMuxer Unit := do
  if frame.isSequenceHeader then
    modify (storeHeader frame)
    sendFlvTag frame
  else if ((← get).storedHeader frame.type).isSome then sendFlvTag frame

/-- One turn of the worker: poll the queue. -/
def workerPoll : Method SrsFlvMuxer Unit := do
  let m ← get
  match m.mFlvTagCache with
  | [] => pure ()
  | frame :: rest =>
      set { m with mFlvTagCache := rest }
      workerFrame frame

/-- `stop()`, up to the thread that disconnects. -/
def stop : Method SrsFlvMuxer Unit :=
  modify fun m =>
    { m with
      started := false, mFlvTagCache := [], flv := m.flv.reset
      needToFindKeyFrame := true }

def disconnect : Method SrsFlvMuxer Unit :=
  modify fun m => { m with mVideoSequenceHeader := none, mAudioSequenceHeader := none }

end SrsFlvMuxer

end MediasoupDemo.Flv
