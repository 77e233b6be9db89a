import MediasoupDemo.Mp4.SampleTables

/-!
# The movie and its `moov` box

`Mp4Movie` holds the tracks of a recording, and `createMovieBox` turns them
into the `moov` box when the recording ends.  The definitions give the numbers
and tables that the source hands to the boxes of the container library.  Left
out are the creation dates and the constants (matrix, language, layer, data
reference) that no field of a track decides.

The tracks live in a hash map with the keys 100 and 101, so the code always
meets the video track first.
-/

namespace MediasoupDemo.Mp4

open MediasoupDemo.Runtime

/-- The track indices `VIDEO_TRACK` and `AUDIO_TRACK`. -/
inductive TrackIndex where
  | VIDEO_TRACK
  | AUDIO_TRACK
  deriving DecidableEq

/-- `SrsMp4Muxer.Mp4Movie`: the tracks by their index. -/
structure Mp4Movie where
  video : Option Track := none
  audio : Option Track := none

namespace Mp4Movie

/-- `tracks.get(trackIndex)`. -/
def get (movie : Mp4Movie) : TrackIndex → Option Track
  | .VIDEO_TRACK => movie.video
  | .AUDIO_TRACK => movie.audio

/-- `tracks.put(trackIndex, track)`. -/
def put (movie : Mp4Movie) (index : TrackIndex) (track : Track) : Mp4Movie :=
  match index with
  | .VIDEO_TRACK => { movie with video := some track }
  | .AUDIO_TRACK => { movie with audio := some track }

/-- `tracks.values()`. -/
def values (movie : Mp4Movie) : List Track := movie.video.toList ++ movie.audio.toList

/-- `tracks.size()`. -/
def size (movie : Mp4Movie) : Nat := movie.values.length

/-- `Mp4Movie.addSample`: a missing track is a `null` that the code uses. -/
def addSample (movie : Mp4Movie) (index : TrackIndex) (offset : Int) (bi : BufferInfo) :
    Except JavaException Mp4Movie :=
  match movie.get index with
  | none => throw .nullPointer
  | some track => pure (movie.put index (track.addSample offset bi))

def addTrack (movie : Mp4Movie) (format : Option MediaFormat) (isAudio : Bool)
    (h264_sps : Option ByteBuffer) : Except JavaException Mp4Movie :=
  match format with
  | none => pure movie
  | some format => do
      let track ← newTrack movie.size format isAudio h264_sps
      pure (movie.put (if isAudio then .AUDIO_TRACK else .VIDEO_TRACK) track)

/-- A track is found again, and the other one is not touched. -/
@[simp] theorem get_put (movie : Mp4Movie) (index index' : TrackIndex) (track : Track) :
    (movie.put index track).get index' =
      if index = index' then some track else movie.get index' := by
  cases index <;> cases index' <;> rfl

end Mp4Movie

/-! ## The boxes -/

/-- `com.googlecode.mp4parser.util.Math.gcd`. -/
def gcd (a b : Int) : Int :=
  if 0 < b then gcd b (a.tmod b) else a
termination_by b.toNat
decreasing_by
  rename_i hb
  have h1 := Int.tmod_lt_of_pos a hb
  omega

def getTimescale (movie : Mp4Movie) : Int :=
  let timescale := (movie.values.head?.map Track.timeScale).getD 0
  movie.values.foldl (fun timescale track => gcd track.timeScale timescale) timescale

/-- The duration of a track in another time scale. -/
def rescale (track : Track) (timescale : Int) : Int :=
  (long (track.duration * timescale)).tdiv track.timeScale

/-- The `stbl` box that `createStbl` fills.  The parameter sets are those of
the muxer at this moment. -/
structure SampleTableBox where
  stsd : SampleDescription
  spsList : List (List UInt8)
  ppsList : List (List UInt8)
  stts : List TimeToSampleEntry
  stss : Option (List Nat)
  stsc : List SampleToChunkEntry
  stsz : List Int
  stco : List Int

/-- The `trak` box that `createTrackBox` fills. -/
structure TrackBox where
  trackId : Nat
  movieDuration : Int
  height : Int
  width : Int
  volume : Nat
  mediaDuration : Int
  mediaTimescale : Int
  handlerName : String
  handlerType : String
  stbl : SampleTableBox

/-- The `moov` box that `createMovieBox` fills. -/
structure MovieBox where
  duration : Int
  timescale : Int
  nextTrackId : Nat
  tracks : List TrackBox

def createStbl (track : Track) (spsList ppsList : List (List UInt8)) : SampleTableBox :=
  { stsd := track.sampleDescription, spsList, ppsList
    stts := createStts track, stss := createStss track, stsc := createStsc track
    stsz := createStsz track, stco := createStco track }

def createTrackBox (track : Track) (movie : Mp4Movie) (spsList ppsList : List (List UInt8)) :
    TrackBox :=
  { trackId := track.trackId + 1, movieDuration := rescale track (getTimescale movie)
    height := track.height, width := track.width, volume := track.volume
    mediaDuration := track.duration, mediaTimescale := track.timeScale
    handlerName := if track.isAudio then "SoundHandle" else "VideoHandle"
    handlerType := track.handler, stbl := createStbl track spsList ppsList }

/-- `createMovieBox`: the movie lasts as long as its longest track. -/
def createMovieBox (movie : Mp4Movie) (spsList ppsList : List (List UInt8)) : MovieBox :=
  let movieTimeScale := getTimescale movie
  { duration := movie.values.foldl (fun duration track =>
      if rescale track movieTimeScale > duration then rescale track movieTimeScale
      else duration) 0
    timescale := movieTimeScale, nextTrackId := movie.size + 1
    tracks := movie.values.map (createTrackBox · movie spsList ppsList) }

end MediasoupDemo.Mp4
