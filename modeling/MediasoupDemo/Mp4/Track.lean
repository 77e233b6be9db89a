import MediasoupDemo.Runtime.ByteBuffer
import Mathlib.Data.List.Basic

/-!
# `SrsMp4Muxer.Track`: the sample list of one track

`Track` is the inner class `Track` of `SrsMp4Muxer`.  It collects the samples
of one recording: where each sample lies in the file, how long it lasts, and
which samples are sync frames.  `newTrack` is the constructor and
`Track.addSample` the only method that changes a track during a recording.

The constructor seeds `sampleDurations` with the duration of the last sample.
Every later accepted sample inserts its own duration *before* that seed, so
the list is never empty.  This and the two other facts that the constructor
establishes and no method changes are fields of the structure.

Left out are the media header box and the creation time, which only the box
writers of the container library read.
-/

namespace MediasoupDemo.Mp4

open MediasoupDemo.Runtime

/-- The keys of `MediaFormat` that the constructor of a track reads. -/
structure MediaFormat where
  mime : String
  width : Int
  height : Int
  channelCount : Int
  sampleRate : Int

/-- `SrsEncoder.VCODEC`. -/
def VCODEC : String := "video/avc"

def samplingFrequencyIndexMap : List (Int × Int) :=
  [(96000, 0x0), (88200, 0x1), (64000, 0x2), (48000, 0x3), (44100, 0x4), (32000, 0x5),
    (24000, 0x6), (22050, 0x7), (16000, 0x8), (12000, 0x9), (11025, 0xa), (8000, 0xb)]

/-- The sample description box of a track: the `avc1` or `mp4a` sample entry
with its decoder configuration.  The parameter sets of an `avc1` entry are not
here: the box refers to the lists of the muxer, and what these hold when the
recording ends is what gets written. -/
inductive SampleDescription where
  | none
  | avc1 (width height : Int) (avcProfileIndication avcLevelIndication : UInt8)
  | mp4a (channelCount sampleRate samplingFrequencyIndex : Int)

/-- `SrsMp4Muxer.Sample`: where the bytes of one sample lie in the file. -/
structure Sample where
  offset : Int
  size : Int
  deriving DecidableEq

/-- `SrsMp4Muxer.Track`. -/
structure Track where
  trackId : Nat
  isAudio : Bool
  samples : List Sample
  duration : Int
  handler : String
  sampleDescription : SampleDescription
  /-- The 1-based numbers of the sync frames, `none` on an audio track. -/
  syncSamples : Option (List Nat)
  timeScale : Int
  height : Int
  width : Int
  volume : Nat
  sampleDurations : List Int
  lastPresentationTimeUs : Int
  first : Bool
  timeScale_pos : 0 < timeScale
  sampleDurations_ne : sampleDurations ≠ []
  syncSamples_eq_none : syncSamples = none ↔ isAudio = true

/-- The sample description of a video track.  The decoder configuration takes
the profile and level bytes of the current SPS, so the constructor throws when
there is none or it is too short. -/
def videoDescription (format : MediaFormat) (h264_sps : Option ByteBuffer) :
    Except JavaException SampleDescription := do
  if format.mime = VCODEC then
    match h264_sps with
    | none => throw .nullPointer
    | some h264_sps =>
        let avcProfileIndication ← h264_sps.getAt 1
        let avcLevelIndication ← h264_sps.getAt 3
        pure (.avc1 format.width format.height avcProfileIndication avcLevelIndication)
  else pure .none

/-- The constructor of a video track. -/
def newVideoTrack (id : Nat) (format : MediaFormat) (h264_sps : Option ByteBuffer) :
    Except JavaException Track := do
  let sampleDescription ← videoDescription format h264_sps
  pure
    { trackId := id, isAudio := false, samples := [], duration := 3015, handler := "vide"
      sampleDescription, syncSamples := some [], timeScale := 90000
      height := format.height, width := format.width, volume := 0, sampleDurations := [3015]
      lastPresentationTimeUs := 0, first := true
      timeScale_pos := by decide, sampleDurations_ne := by decide
      syncSamples_eq_none := by decide }

theorem sampleRate_pos {rate index : Int}
    (h : samplingFrequencyIndexMap.lookup rate = some index) : 0 < rate := by
  have hkeys : ∀ entry ∈ samplingFrequencyIndexMap, 0 < entry.1 := by decide
  obtain ⟨_, _, hsplit, _⟩ := List.lookup_eq_some_iff.mp h
  exact hkeys (rate, index) (by rw [hsplit]; simp)

/-- The constructor of an audio track.  A sample rate that is not a key of
`samplingFrequencyIndexMap` is a `null` that the code unboxes. -/
def newAudioTrack (id : Nat) (format : MediaFormat) : Except JavaException Track :=
  match h : samplingFrequencyIndexMap.lookup format.sampleRate with
  | none => throw .nullPointer
  | some index =>
    pure
      { trackId := id, isAudio := true, samples := [], duration := 1024, handler := "soun"
        sampleDescription := .mp4a format.channelCount format.sampleRate index
        syncSamples := none, timeScale := format.sampleRate
        height := 0, width := 0, volume := 1, sampleDurations := [1024]
        lastPresentationTimeUs := 0, first := true
        timeScale_pos := sampleRate_pos h, sampleDurations_ne := by decide
        syncSamples_eq_none := by decide }

/-- `new Track(id, format, audio)`. -/
def newTrack (id : Nat) (format : MediaFormat) (audio : Bool)
    (h264_sps : Option ByteBuffer) : Except JavaException Track :=
  if audio then newAudioTrack id format
  else newVideoTrack id format h264_sps

namespace Track

/-- Whether `addSample` takes the sample: its presentation time is not before
that of the last sample taken. -/
def accepts (t : Track) (bi : BufferInfo) : Bool :=
  !(long (bi.presentationTimeUs - t.lastPresentationTimeUs) < 0)

/-- The duration that `addSample` computes from a presentation time distance,
in ticks of the track. -/
def ticks (t : Track) (delta : Int) : Int :=
  (long (long (delta * t.timeScale) + 500000)).tdiv 1000000

def addSample (t : Track) (offset : Int) (bi : BufferInfo) : Track :=
  let delta := long (bi.presentationTimeUs - t.lastPresentationTimeUs)
  if delta < 0 then t
  else
    let isSyncFrame := !t.isAudio && bi.isSync
    let samples := t.samples ++ [{ offset, size := bi.size }]
    let delta := t.ticks delta
    { t with
      samples
      syncSamples := t.syncSamples.map fun sync =>
        if isSyncFrame then sync ++ [samples.length] else sync
      lastPresentationTimeUs := bi.presentationTimeUs
      sampleDurations :=
        if t.first then t.sampleDurations
        else t.sampleDurations.insertIdx (t.sampleDurations.length - 1) delta
      duration := if t.first then t.duration else long (t.duration + delta)
      first := false
      sampleDurations_ne := by
        split
        · exact t.sampleDurations_ne
        · apply List.ne_nil_of_length_pos
          have := List.length_pos_of_ne_nil t.sampleDurations_ne
          rw [List.length_insertIdx_of_le_length (by omega)]
          omega
      syncSamples_eq_none := by simpa using t.syncSamples_eq_none }

/-- `Track.getSyncSamples`: `none` when there is no sync frame to list. -/
def getSyncSamples (t : Track) : Option (List Nat) :=
  match t.syncSamples with
  | none => none
  | some [] => none
  | some sync => some sync

/-! ## What one `addSample` changes -/

section AddSample

variable {t : Track} {offset : Int} {bi : BufferInfo}

theorem addSample_of_refused (h : t.accepts bi = false) : t.addSample offset bi = t := by
  simp only [accepts, Bool.not_eq_eq_eq_not, Bool.not_false, decide_eq_true_eq] at h
  rw [addSample, if_pos h]

section

variable (h : t.accepts bi = true)
include h

theorem not_lt_of_accepts :
    ¬ long (bi.presentationTimeUs - t.lastPresentationTimeUs) < 0 := by
  simpa [accepts] using h

theorem addSample_samples :
    (t.addSample offset bi).samples = t.samples ++ [{ offset, size := bi.size }] := by
  rw [addSample, if_neg (not_lt_of_accepts h)]

theorem addSample_lastPresentationTimeUs :
    (t.addSample offset bi).lastPresentationTimeUs = bi.presentationTimeUs := by
  rw [addSample, if_neg (not_lt_of_accepts h)]

theorem addSample_first : (t.addSample offset bi).first = false := by
  rw [addSample, if_neg (not_lt_of_accepts h)]

theorem addSample_syncSamples :
    (t.addSample offset bi).syncSamples = t.syncSamples.map fun sync =>
      if !t.isAudio && bi.isSync then sync ++ [t.samples.length + 1] else sync := by
  rw [addSample, if_neg (not_lt_of_accepts h)]
  simp

theorem addSample_sampleDurations :
    (t.addSample offset bi).sampleDurations =
      if t.first then t.sampleDurations
      else t.sampleDurations.insertIdx (t.sampleDurations.length - 1)
        (t.ticks (long (bi.presentationTimeUs - t.lastPresentationTimeUs))) := by
  rw [addSample, if_neg (not_lt_of_accepts h)]

theorem addSample_duration :
    (t.addSample offset bi).duration =
      if t.first then t.duration
      else long (t.duration +
        t.ticks (long (bi.presentationTimeUs - t.lastPresentationTimeUs))) := by
  rw [addSample, if_neg (not_lt_of_accepts h)]

end

/-- `addSample` never changes the kind of a track. -/
@[simp] theorem addSample_isAudio : (t.addSample offset bi).isAudio = t.isAudio := by
  unfold addSample
  simp only
  split <;> rfl

@[simp] theorem addSample_timeScale : (t.addSample offset bi).timeScale = t.timeScale := by
  unfold addSample
  simp only
  split <;> rfl

end AddSample

end Track

end MediasoupDemo.Mp4
