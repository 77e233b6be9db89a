import MediasoupDemo.Mp4.IsoBox
import MediasoupDemo.Mp4.MovieBox
import MediasoupDemo.Runtime.Method

/-!
# `SrsMp4Muxer`: recording to a file

The muxer takes encoded samples, keeps the parameter sets of the video stream
aside, queues the frames, and has a worker write them into a file.  Every
method of the class is a `Method SrsMp4Muxer`.

* `writeSampleData` takes a sample from the encoder.  A slice or an audio
  frame goes to the queue (`writeFrameByte`), anything else is searched for
  parameter sets (`annexbDemux`).
* `record`, `stop` and `createMovie`, `writeFrame`, `finishMovie` are the life
  of one recording.  The overloaded private `writeSampleData` of the source,
  which writes a queued frame to the file, is `writeFrame` here.

`outcomes` is the script of the file system: each file operation takes the
next entry, and an operation after the last entry is done in full.  `events`
lists what the record handler was told.  A file position is a `long` and no
file gets near `2 ^ 63` bytes, so the three counters of the file are exact.

The bytes of the `moov` box are the business of the container library.  They
are a parameter `moov` of `finishMovie`, applied to the box that
`createMovieBox` makes.
-/

namespace MediasoupDemo.Mp4

open MediasoupDemo.Runtime

/-- `SrsMp4Muxer.SrsEsFrame`: a queued frame. -/
structure SrsEsFrame where
  bb : ByteBuffer
  bi : BufferInfo
  track : TrackIndex
  isKeyFrame : Bool
  deriving DecidableEq

def SrsEsFrame.isAudio (frame : SrsEsFrame) : Bool := frame.track == .AUDIO_TRACK

/-- What the record handler is told. -/
inductive RecordEvent where
  | recordStarted (path : String)
  | recordPause
  | recordResume
  | recordFinished (path : Option String)
  | recordIllegalArgumentException (size position : Nat)
  | recordIOException (e : JavaException)

/-- The fields of `SrsMp4Muxer`, and the file system that it writes to. -/
structure SrsMp4Muxer where
  mRecFile : Option String := none
  videoFormat : Option MediaFormat := none
  audioFormat : Option MediaFormat := none
  mp4Movie : Mp4Movie := {}
  aacSpecConfig : Bool := false
  h264_sps : Option ByteBuffer := none
  h264_pps : Option ByteBuffer := none
  spsList : List (List UInt8) := []
  ppsList : List (List UInt8) := []
  /-- Whether there is a worker thread to join. -/
  worker : Bool := false
  bRecording : Bool := false
  bPaused : Bool := false
  needToFindKeyFrame : Bool := true
  frameCache : List SrsEsFrame := []
  mdat : Option InterleaveChunkMdat := none
  fc : Option FileChannel := none
  recFileSize : Int := 0
  mdatOffset : Int := 0
  flushBytes : Int := 0
  events : List RecordEvent := []
  outcomes : List IoOutcome := []

namespace SrsMp4Muxer

/-! ## Samples from the encoder -/

/-- `SrsAvcNaluType`: the NAL unit types that the muxers tell apart. -/
def NonIDR : UInt8 := 1
@[inherit_doc NonIDR] def IDR : UInt8 := 5
@[inherit_doc NonIDR] def SPS : UInt8 := 7
@[inherit_doc NonIDR] def PPS : UInt8 := 8

/-- Tell the record handler. -/
def notify (event : RecordEvent) : Method SrsMp4Muxer Unit :=
  modify fun m => { m with events := m.events ++ [event] }

/-- `SrsMp4Muxer.SrsEsFrameBytes`: a demuxed NAL unit.  The data goes on to the
end of the sample. -/
structure SrsEsFrameBytes where
  data : Option ByteBuffer := none
  size : Nat := 0

/-- The type of the NAL unit that a frame starts with, `none` for a frame
without bytes. -/
def SrsEsFrameBytes.nalUnitType (frame : SrsEsFrameBytes) :
    Except JavaException (Option UInt8) :=
  if frame.size < 1 then pure none
  else
    match frame.data with
    | none => throw .nullPointer
    | some data => do
        let b ← data.getAt 0
        pure (some (b &&& 0x1f))

def isSps (frame : SrsEsFrameBytes) : Except JavaException Bool := do
  pure ((← frame.nalUnitType) == some SPS)

def isPps (frame : SrsEsFrameBytes) : Except JavaException Bool := do
  pure ((← frame.nalUnitType) == some PPS)

/-- The loop of `srs_avc_startswith_annexb` with `left` positions to try: the
length of the start code at the position of the buffer, `none` when there is
none. -/
def startswithAnnexbLoop (bb : ByteBuffer) : (left pos : Nat) → Except JavaException (Option Nat)
  | 0, _ => pure none
  | left + 1, pos => do
      let b0 ← bb.getAt pos
      if b0 ≠ 0x00 then pure none
      else
        let b1 ← bb.getAt (pos + 1)
        if b1 ≠ 0x00 then pure none
        else
          let b2 ← bb.getAt (pos + 2)
          if b2 = 0x01 then pure (some (pos + 3 - bb.position))
          else startswithAnnexbLoop bb left (pos + 1)

def srsAvcStartswithAnnexb (bb : ByteBuffer) (bi : BufferInfo) :
    Except JavaException (Option Nat) :=
  startswithAnnexbLoop bb (bi.size - 3 - bb.position) bb.position

/-- The inner loop of `annexb_demux`: move on to the next start code or to the
end of the sample, `left` bytes away. -/
def skipNalUnit (bi : BufferInfo) : (left : Nat) → ByteBuffer → Except JavaException ByteBuffer
  | 0, bb => pure bb
  | left + 1, bb => do
      match ← srsAvcStartswithAnnexb bb bi with
      | some _ => pure bb
      | none => skipNalUnit bi left (← bb.skip 1)

/-- Complain about a NAL unit without a start code. -/
def checkStartCode (bb : ByteBuffer) (bi : BufferInfo) (tbbsc : Option Nat) :
    Method SrsMp4Muxer Unit :=
  if tbbsc.getD 0 < 3 then notify (.recordIllegalArgumentException bi.size bb.position)
  else pure ()

/-- `annexb_demux`: the next NAL unit of the sample, and the buffer behind
it. -/
def annexbDemux (bb : ByteBuffer) (bi : BufferInfo) :
    Method SrsMp4Muxer (SrsEsFrameBytes × ByteBuffer) := do
  if bb.position < bi.size then
    let tbbsc ← MonadExcept.ofExcept (srsAvcStartswithAnnexb bb bi)
    checkStartCode bb bi tbbsc
    let start ← MonadExcept.ofExcept (bb.skip (tbbsc.getD 0))
    let next ← MonadExcept.ofExcept (skipNalUnit bi (bi.size - start.position) start)
    pure ({ data := some start.slice, size := next.position - start.position }, next)
  else pure ({}, bb)

/-- Copy a parameter set out of the sample unless it is the current one. -/
def copyIfChanged (frame : SrsEsFrameBytes) (current : Option ByteBuffer) :
    Except JavaException (Option (List UInt8)) :=
  match frame.data with
  | none => throw .nullPointer
  | some data =>
      if data.equals current then pure none
      else do
        let (bytes, _) ← data.getBytes frame.size
        pure (some bytes)

/-- The `is_sps` and `is_pps` branches of the loop of `writeVideoSample`. -/
def takeParameterSet (frame : SrsEsFrameBytes) : Method SrsMp4Muxer Unit := do
  if ← MonadExcept.ofExcept (isSps frame) then
    match ← MonadExcept.ofExcept (copyIfChanged frame (← get).h264_sps) with
    | none => pure ()
    | some sps => modify fun m => { m with h264_sps := some (.wrap sps), spsList := [sps] }
  else if ← MonadExcept.ofExcept (isPps frame) then
    match ← MonadExcept.ofExcept (copyIfChanged frame (← get).h264_pps) with
    | none => pure ()
    | some pps => modify fun m => { m with h264_pps := some (.wrap pps), ppsList := [pps] }

/-- The loop of `writeVideoSample` over the NAL units.  Each turn consumes at
least one byte, so there are at most as many turns as bytes. -/
def writeVideoSampleLoop (bi : BufferInfo) : (turns : Nat) → ByteBuffer → Method SrsMp4Muxer Unit
  | 0, _ => pure ()
  | turns + 1, bb => do
      if bb.position < bi.size then
        let (frame, bb) ← annexbDemux bb bi
        takeParameterSet frame
        writeVideoSampleLoop bi turns bb

/-- `writeFrameByte`: queue a frame while recording, from the first key frame
on. -/
def writeFrameByte (track : TrackIndex) (bb : ByteBuffer) (bi : BufferInfo)
    (isKeyFrame : Bool) : Method SrsMp4Muxer Unit := do
  let frame : SrsEsFrame := { bb, bi, track, isKeyFrame }
  let m ← get
  if m.bRecording && !m.bPaused then
    if m.needToFindKeyFrame then
      if frame.isKeyFrame then
        set { m with needToFindKeyFrame := false, frameCache := m.frameCache ++ [frame] }
    else set { m with frameCache := m.frameCache ++ [frame] }

def writeVideoSample (bb : ByteBuffer) (bi : BufferInfo) : Method SrsMp4Muxer Unit := do
  -- The byte behind a start code of four bytes, whichever the sample has.
  let b ← MonadExcept.ofExcept (bb.getAt 4)
  let nal_unit_type := b &&& 0x1f
  if nal_unit_type = IDR ∨ nal_unit_type = NonIDR then
    writeFrameByte .VIDEO_TRACK bb bi (nal_unit_type == IDR)
  else writeVideoSampleLoop bi bi.size bb

/-- `writeAudioSample`: the first sample is the decoder configuration. -/
def writeAudioSample (bb : ByteBuffer) (bi : BufferInfo) : Method SrsMp4Muxer Unit := do
  let m ← get
  if !m.aacSpecConfig then set { m with aacSpecConfig := true }
  else writeFrameByte .AUDIO_TRACK bb bi false

/-- The public `writeSampleData`. -/
def writeSampleData (trackIndex : TrackIndex) (bb : ByteBuffer) (bi : BufferInfo) :
    Method SrsMp4Muxer Unit :=
  match trackIndex with
  | .VIDEO_TRACK => writeVideoSample bb bi
  | .AUDIO_TRACK => writeAudioSample bb bi

def addTrack (format : MediaFormat) : Method SrsMp4Muxer TrackIndex := do
  if format.mime = VCODEC then
    modify fun m => { m with videoFormat := some format }
    pure .VIDEO_TRACK
  else
    modify fun m => { m with audioFormat := some format }
    pure .AUDIO_TRACK

/-! ## The file -/

/-- One operation on the file channel, with the next outcome of the script. -/
def channel {α : Type}
    (operation : FileChannel → IoOutcome → Except JavaException α × FileChannel) :
    Method SrsMp4Muxer α := do
  let m ← get
  match m.fc with
  | none => throw .nullPointer
  | some fc =>
      let (result, fc) := operation fc (m.outcomes.head?.getD .done)
      set { m with fc := some fc, outcomes := m.outcomes.tail }
      MonadExcept.ofExcept result

/-- `fc.write(src)`. -/
def fcWrite (src : List UInt8) : Method SrsMp4Muxer Nat :=
  channel fun fc outcome => fc.write outcome src

/-- `mdat`, used as an object. -/
def getMdat : Method SrsMp4Muxer InterleaveChunkMdat := do
  match (← get).mdat with
  | none => throw .nullPointer
  | some mdat => pure mdat

/-- `mdat.setContentSize(contentSize); mdat.getBox(fc)`.  The method catches the
exception of its write. -/
def writeMdatHeader (contentSize : Int) : Method SrsMp4Muxer Unit := do
  let mdat ← getMdat
  let mdat := { mdat with contentSize }
  modify fun m => { m with mdat := some mdat }
  Method.catchIoException (do let _ ← fcWrite mdat.getBox)
    fun e => notify (.recordIOException e)

def createMovie : Method SrsMp4Muxer Unit :=
  Method.catchIoException
    (do
      let m ← get
      match m.outcomes.head?.getD .done with
      | .failed _ =>
          set { m with outcomes := m.outcomes.tail }
          throw (.io "FileNotFoundException")
      | _ =>
          set
            { m with
              fc := some FileChannel.create, mdat := some {}, mdatOffset := 0
              outcomes := m.outcomes.tail }
          let _ ← fcWrite createFileTypeBox.getBox
          modify fun m => { m with recFileSize := m.recFileSize + createFileTypeBox.getSize })
    fun e => notify (.recordIOException e)

/-- The `mdat.first` block of the private `writeSampleData`. -/
def openMdat : Method SrsMp4Muxer Unit := do
  let mdat ← getMdat
  if mdat.first then
    writeMdatHeader 0
    modify fun m =>
      { m with
        mdatOffset := m.recFileSize
        recFileSize := m.recFileSize + InterleaveChunkMdat.getHeaderSize
        mdat := m.mdat.map fun mdat => { mdat with first := false } }

/-- The length in front of a video frame.  Its start code is taken to be four
bytes long. -/
def writeLength (bi : BufferInfo) (isAudio : Bool) : Method SrsMp4Muxer Unit :=
  if isAudio then pure ()
  else do
    let written ← fcWrite (putInt (bi.size - 4))
    modify fun m => { m with recFileSize := m.recFileSize + written }

/-- The rest of the private `writeSampleData`: list the sample, then write the
length of a video frame and the bytes of the frame. -/
def writeSampleBytes (trackIndex : TrackIndex) (bb : ByteBuffer) (bi : BufferInfo)
    (isAudio : Bool) : Method SrsMp4Muxer Unit := do
  let m ← get
  let movie ← MonadExcept.ofExcept (m.mp4Movie.addSample trackIndex m.recFileSize bi)
  set { m with mp4Movie := movie }
  let bb ← MonadExcept.ofExcept (bb.setPosition (bi.offset + if isAudio then 0 else 4))
  let bb ← MonadExcept.ofExcept (bb.setLimit (bi.offset + bi.size))
  writeLength bi isAudio
  let writeBytes ← fcWrite bb.content
  modify fun m =>
    { m with
      recFileSize := m.recFileSize + writeBytes
      flushBytes :=
        if m.flushBytes + writeBytes > 64 * 1024 then 0 else m.flushBytes + writeBytes }

/-- The private `writeSampleData` on a queued frame. -/
def writeFrame (frame : SrsEsFrame) : Method SrsMp4Muxer Unit := do
  let trackIndex := if frame.isAudio then .AUDIO_TRACK else .VIDEO_TRACK
  match (← get).mp4Movie.get trackIndex with
  | none => pure ()
  | some _ =>
      Method.catchIoException
        (do
          openMdat
          writeSampleBytes trackIndex frame.bb frame.bi frame.isAudio)
        fun e => notify (.recordIOException e)

/-- The frames that the worker polls in the course of a recording. -/
def writeFrames : List SrsEsFrame → Method SrsMp4Muxer Unit
  | [] => pure ()
  | frame :: frames => do
      writeFrame frame
      writeFrames frames

/-- The `mdat.getSize() != 0` block of `finishMovie`: go back and write the
header of the `mdat` box again, now with its size. -/
def completeMdat : Method SrsMp4Muxer Unit := do
  let mdat ← getMdat
  if mdat.getSize ≠ 0 then
    let oldPosition ← channel FileChannel.getPosition
    let m ← get
    channel fun fc outcome => fc.setPosition outcome m.mdatOffset.toNat
    writeMdatHeader (m.recFileSize - InterleaveChunkMdat.getHeaderSize - m.mdatOffset)
    channel fun fc outcome => fc.setPosition outcome oldPosition
    modify fun m => { m with mdat := m.mdat.map fun mdat => { mdat with contentSize := 0 } }

/-- The end of `finishMovie`: the `moov` box, and back to an empty movie. -/
def closeMovie (moov : MovieBox → List UInt8) : Method SrsMp4Muxer Unit := do
  let m ← get
  let _ ← fcWrite (moov (createMovieBox m.mp4Movie m.spsList m.ppsList))
  channel FileChannel.close
  channel FileChannel.close
  modify fun m => { m with mp4Movie := {}, recFileSize := 0, flushBytes := 0 }

/-- `finishMovie`, with the bytes that the container library makes of a `moov`
box. -/
def finishMovie (moov : MovieBox → List UInt8) : Method SrsMp4Muxer Unit :=
  Method.catchIoException
    (do
      modify fun m => { m with flushBytes := if m.flushBytes > 0 then 0 else m.flushBytes }
      completeMdat
      closeMovie moov)
    fun e => notify (.recordIOException e)

/-! ## The life of a recording -/

/-- `mp4Movie.addTrack(format, isAudio)`. -/
def movieAddTrack (format : Option MediaFormat) (isAudio : Bool) : Method SrsMp4Muxer Unit := do
  let m ← get
  let movie ← MonadExcept.ofExcept (m.mp4Movie.addTrack format isAudio m.h264_sps)
  set { m with mp4Movie := movie }

/-- The tracks of a new recording: no video track without parameter sets. -/
def addTracks : Method SrsMp4Muxer Unit := do
  let m ← get
  if !m.spsList.isEmpty && !m.ppsList.isEmpty then
    movieAddTrack m.videoFormat false
    movieAddTrack m.audioFormat true
  else movieAddTrack m.audioFormat true

/-- `record(outputFile)`, up to the start of the worker thread. -/
def record (outputFile : String) : Method SrsMp4Muxer Bool := do
  let m ← get
  if m.videoFormat.isNone && m.audioFormat.isNone then pure false
  else
    set { m with mRecFile := some outputFile }
    createMovie
    notify (.recordStarted outputFile)
    addTracks
    modify fun m => { m with worker := true }
    pure true

/-- The first statement of the worker thread. -/
def workerStart : Method SrsMp4Muxer Unit := modify fun m => { m with bRecording := true }

/-- One turn of the worker: poll the queue and write the frame. -/
def workerPoll : Method SrsMp4Muxer Unit := do
  let m ← get
  match m.frameCache with
  | [] => pure ()
  | frame :: rest =>
      set { m with frameCache := rest }
      writeFrame frame

def pause : Method SrsMp4Muxer Unit := do
  if (← get).bRecording then
    modify fun m => { m with bPaused := true }
    notify .recordPause

def resume : Method SrsMp4Muxer Unit := do
  if (← get).bRecording then
    modify fun m => { m with bPaused := false, needToFindKeyFrame := true }
    notify .recordResume

/-- `stop()`, the worker having left its loop. -/
def stop (moov : MovieBox → List UInt8) : Method SrsMp4Muxer Unit := do
  modify fun m =>
    { m with
      bRecording := false, bPaused := false, needToFindKeyFrame := true
      aacSpecConfig := false, frameCache := [] }
  if (← get).worker then
    modify fun m => { m with worker := false }
    finishMovie moov
    notify (.recordFinished (← get).mRecFile)

end SrsMp4Muxer

end MediasoupDemo.Mp4
