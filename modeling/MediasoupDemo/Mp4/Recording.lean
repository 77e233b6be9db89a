import MediasoupDemo.Mp4.Muxer
import MediasoupDemo.Mp4.TimeTables
import Mathlib.Data.List.Pairwise

/-!
# One recording, from `record` to the finished file

The worker of a recording writes every frame of an existing track to the file,
also a frame that `Track.addSample` refuses.  Three counters have to agree for
the sample lists to be right: the position of the file channel, `recFileSize`,
and the offsets that went into the sample lists.

* `RecordingAt` is the invariant of the loop.  It says what the file, the
  counters, the `mdat` box and the tracks are after the frames `kept`.  The frames
  need not fit their buffers, and `recFileSize` need not be 0 at the start.
* `opened_of_record` starts it, `writeFrame_kept` and `writeFrame_skipped`
  are the step, `recordingAt_run` is the run, and `finishMovie_recording` says
  what file comes out.
* In that file every sample of every track lies inside the `mdat` box, holds its
  own frame, and overlaps no other sample.

Nothing is assumed about presentation times.  `taken` is the choice that
`addSample` makes, with the wrapping difference that the code computes.
-/

namespace MediasoupDemo.Mp4

open ByteCodec ByteFile MediasoupDemo.Runtime

/-! ## The frames -/

variable {f : SrsEsFrame}

namespace SrsEsFrame

/-- The bytes of the frame in its buffer. -/
def bytes (f : SrsEsFrame) : List UInt8 := (f.bb.array.drop f.bi.offset).take f.bi.size

/-- What the recorder makes of a frame: an audio frame is taken as it is, and a
video frame has its start code replaced by the length of the rest. -/
def payload (f : SrsEsFrame) : List UInt8 :=
  if f.isAudio then f.bytes else beBytes 4 (f.bi.size - 4) ++ f.bytes.drop 4

/-- The frame lies in its buffer, and a video frame has room for a start
code. -/
structure Fits (f : SrsEsFrame) : Prop where
  inBuffer : f.bi.offset + f.bi.size ≤ f.bb.limit
  startCode : f.isAudio = false → 4 ≤ f.bi.size

theorem bytes_length (h : f.Fits) : f.bytes.length = f.bi.size := by
  have := h.inBuffer
  have := f.bb.limit_le
  simp only [bytes, List.length_take, List.length_drop]
  omega

theorem payload_length (h : f.Fits) : f.payload.length = f.bi.size := by
  cases haudio : f.isAudio with
  | true => simpa [payload, haudio] using bytes_length h
  | false =>
    have := h.startCode haudio
    simp [payload, haudio, bytes_length h]
    omega

theorem trackIndex_eq (f : SrsEsFrame) :
    (if f.isAudio then TrackIndex.AUDIO_TRACK else .VIDEO_TRACK) = f.track := by
  unfold isAudio
  cases f.track <;> rfl

end SrsEsFrame

/-! ## The choice of `addSample` -/

section Taken

variable {α β : Type}

/-- The items that `addSample` takes, with `last` the presentation time of the
last one before. -/
def taken (bi : α → BufferInfo) : (last : Int) → List α → List α
  | _, [] => []
  | last, a :: items =>
      if long ((bi a).presentationTimeUs - last) < 0 then taken bi last items
      else a :: taken bi (bi a).presentationTimeUs items

theorem taken_map (bi : β → BufferInfo) (g : α → β) (last : Int) (items : List α) :
    taken bi last (items.map g) = (taken (bi ∘ g) last items).map g := by
  induction items generalizing last with
  | nil => rfl
  | cons a items ih =>
    simp only [List.map_cons, taken, Function.comp_apply, ih]
    split <;> rfl

theorem taken_sublist (bi : α → BufferInfo) (last : Int) (items : List α) :
    (taken bi last items).Sublist items := by
  induction items generalizing last with
  | nil => exact List.Sublist.refl _
  | cons a items ih =>
    rw [taken]
    split
    · exact (ih last).cons a
    · exact (ih _).cons_cons a

/-- The sample list of a track grows by the calls that are taken. -/
theorem addSamples_samples (calls : List AddCall) (t : Track) :
    (addSamples t calls).samples =
      t.samples ++ (taken AddCall.bi t.lastPresentationTimeUs calls).map AddCall.sample := by
  induction calls generalizing t with
  | nil => simp [addSamples, taken]
  | cons call calls ih =>
    have hstep : addSamples t (call :: calls) =
        addSamples (t.addSample call.offset call.bi) calls := rfl
    rw [hstep, ih, taken]
    split
    · rename_i hlt
      have hrefused : t.accepts call.bi = false := by simpa [Track.accepts] using hlt
      rw [Track.addSample_of_refused hrefused]
    · rename_i hge
      have haccepted : t.accepts call.bi = true := by simpa [Track.accepts] using hge
      rw [Track.addSample_samples haccepted, Track.addSample_lastPresentationTimeUs haccepted]
      simp [AddCall.sample]

end Taken

/-! ## File operations that succeed -/

namespace SrsMp4Muxer

open Method

/-- A channel that is open at the end of its file. -/
def openAtEnd (bytes : List UInt8) : FileChannel :=
  { file := { bytes, position := bytes.length }, isOpen := true }

/-- A channel that was closed at the end of its file. -/
def closed (bytes : List UInt8) : FileChannel :=
  { file := { bytes, position := bytes.length }, isOpen := false }

variable {m m₁ : SrsMp4Muxer} {kept : List SrsEsFrame} {format : Option MediaFormat}
  {isAudio : Bool} {path : String}

section Done

variable {m : SrsMp4Muxer} {bytes : List UInt8}

theorem channel_done {α : Type} {fc fc' : FileChannel} {a : α}
    {operation : FileChannel → IoOutcome → Except JavaException α × FileChannel}
    (hfc : m.fc = some fc) (hout : m.outcomes = []) (hop : operation fc .done = (.ok a, fc')) :
    (channel operation).run m = .ok a { m with fc := some fc' } := by
  rw [channel, run_get_bind, hfc, hout]
  show EStateM.run (do
    set { m with fc := some (operation fc .done).2, outcomes := ([] : List IoOutcome).tail }
    MonadExcept.ofExcept (operation fc .done).1) m = _
  rw [hop, run_set_bind, List.tail_nil, ← hout]
  rfl

theorem write_openAtEnd (bytes src : List UInt8) :
    (openAtEnd bytes).write .done src = (.ok src.length, openAtEnd (bytes ++ src)) := by
  simp [FileChannel.write, ByteFile.write, openAtEnd]

theorem fcWrite_done (hfc : m.fc = some (openAtEnd bytes)) (hout : m.outcomes = [])
    (src : List UInt8) :
    (fcWrite src).run m = .ok src.length { m with fc := some (openAtEnd (bytes ++ src)) } :=
  channel_done hfc hout (write_openAtEnd bytes src)

theorem run_getMdat {mdat : InterleaveChunkMdat} (h : m.mdat = some mdat) :
    getMdat.run m = .ok mdat m := by
  simp [getMdat, h]

/-- The `mdat` header with a given content size. -/
def mdatHeader (contentSize : Int) : List UInt8 :=
  ({ contentSize } : InterleaveChunkMdat).getBox

variable {size : Int}

theorem writeMdatHeader_done {first : Bool} {fc fc' : FileChannel} {written : Nat}
    (hmdat : m.mdat = some { first, contentSize := size }) (hfc : m.fc = some fc)
    (hout : m.outcomes = []) (contentSize : Int)
    (hop : fc.write .done (mdatHeader contentSize) = (.ok written, fc')) :
    (writeMdatHeader contentSize).run m =
      .ok () { m with mdat := some { first, contentSize }, fc := some fc' } := by
  have hwrite : (fcWrite (mdatHeader contentSize)).run
      { m with mdat := some { first, contentSize } } =
        .ok written { m with mdat := some { first, contentSize }, fc := some fc' } :=
    channel_done hfc hout hop
  rw [writeMdatHeader, run_bind_ok (run_getMdat hmdat)]
  exact run_catchIoException_ok (run_bind_ok hwrite _) _

/-- The first frame of a recording opens the `mdat` box. -/
theorem openMdat_first (hmdat : m.mdat = some { first := true, contentSize := size })
    (hfc : m.fc = some (openAtEnd bytes)) (hout : m.outcomes = []) :
    openMdat.run m =
      .ok ()
        { m with
          mdat := some { first := false, contentSize := 0 }
          fc := some (openAtEnd (bytes ++ mdatHeader 0)), mdatOffset := m.recFileSize
          recFileSize := m.recFileSize + InterleaveChunkMdat.getHeaderSize } := by
  rw [openMdat, run_bind_ok (run_getMdat hmdat), if_pos rfl,
    run_bind_ok (writeMdatHeader_done hmdat hfc hout 0 (write_openAtEnd _ _))]
  rfl

theorem openMdat_later (hmdat : m.mdat = some { first := false, contentSize := size }) :
    openMdat.run m = .ok () m := by
  rw [openMdat, run_bind_ok (run_getMdat hmdat)]
  rfl

/-- The window that the code sets on the buffer of a frame. -/
def window (f : SrsEsFrame) : Except JavaException ByteBuffer := do
  let bb ← f.bb.setPosition (f.bi.offset + if f.isAudio then 0 else 4)
  bb.setLimit (f.bi.offset + f.bi.size)

/-- The bytes that the worker writes for a frame, whether it fits or not.  A
window that the buffer refuses is an exception before the first write. -/
def written (f : SrsEsFrame) : List UInt8 :=
  match window f with
  | .ok bb => (if f.isAudio then [] else putInt (f.bi.size - 4)) ++ bb.content
  | .error _ => []

theorem written_of_fits (hfits : f.Fits) :
    (∃ bb, window f = .ok bb) ∧ written f = f.payload := by
  have hstart (haudio : f.isAudio = false) : 4 ≤ f.bi.size := hfits.startCode haudio
  have hle : f.bi.offset + (if f.isAudio then 0 else 4) ≤ f.bi.offset + f.bi.size := by
    cases haudio : f.isAudio with
    | true => simp
    | false => simpa using hstart haudio
  obtain ⟨b', b'', hpos, hlim, hcontent⟩ :=
    ByteBuffer.setPosition_setLimit hle hfits.inBuffer
  have hwindow : window f = .ok b'' := by simp [window, hpos, hlim, bind, Except.bind]
  refine ⟨⟨b'', hwindow⟩, ?_⟩
  rw [written, hwindow]
  dsimp only
  rw [hcontent]
  cases haudio : f.isAudio with
  | true => simp [SrsEsFrame.payload, haudio, SrsEsFrame.bytes, List.drop_take]
  | false =>
    have hfield : putInt (f.bi.size - 4) = beBytes 4 (f.bi.size - 4) := by
      rw [← putInt_natCast, Nat.cast_sub (hstart haudio)]
      rfl
    simp [hfield, SrsEsFrame.payload, haudio, SrsEsFrame.bytes, List.drop_take,
      Nat.add_sub_add_left]

theorem writeLength_done (bi : BufferInfo) (isAudio : Bool)
    (hfc : m.fc = some (openAtEnd bytes)) (hout : m.outcomes = []) :
    (writeLength bi isAudio).run m =
      .ok ()
        { m with
          fc := some (openAtEnd (bytes ++ if isAudio then [] else putInt (bi.size - 4)))
          recFileSize :=
            m.recFileSize + (if isAudio then [] else putInt (bi.size - 4)).length } := by
  cases isAudio with
  | true => simp [writeLength, ← hfc]
  | false =>
    rw [writeLength, if_neg (by simp), run_bind_ok (fcWrite_done hfc hout _)]
    rfl

/-- A frame of an existing track is listed at the end of the file, and its bytes
are appended there. -/
theorem writeSampleBytes_done {t : Track} (htrack : m.mp4Movie.get f.track = some t)
    (hfc : m.fc = some (openAtEnd bytes)) (hout : m.outcomes = []) :
    ∃ m' flushBytes,
      m' =
        { m with
          mp4Movie := m.mp4Movie.put f.track (t.addSample m.recFileSize f.bi)
          fc := some (openAtEnd (bytes ++ written f))
          recFileSize := m.recFileSize + (written f).length, flushBytes } ∧
      ((writeSampleBytes f.track f.bb f.bi f.isAudio).run m = .ok () m' ∨
        ∃ e, window f = .error e ∧
          (writeSampleBytes f.track f.bb f.bi f.isAudio).run m = .error e m') := by
  have hadd : m.mp4Movie.addSample f.track m.recFileSize f.bi =
      .ok (m.mp4Movie.put f.track (t.addSample m.recFileSize f.bi)) := by
    simp [Mp4Movie.addSample, htrack, pure, Except.pure]
  rw [writeSampleBytes, run_get_bind, run_ofExcept_bind hadd, run_set_bind]
  -- Nothing is written when the buffer refuses the window.
  have hrefused {e : JavaException} (herror : window f = .error e) :
      { m with mp4Movie := m.mp4Movie.put f.track (t.addSample m.recFileSize f.bi) } =
        { m with
          mp4Movie := m.mp4Movie.put f.track (t.addSample m.recFileSize f.bi)
          fc := some (openAtEnd (bytes ++ written f))
          recFileSize := m.recFileSize + (written f).length, flushBytes := m.flushBytes } := by
    simp [written, herror, ← hfc]
  cases hpos : f.bb.setPosition (f.bi.offset + if f.isAudio then 0 else 4) with
  | error e =>
    have herror : window f = .error e := by simp [window, hpos, bind, Except.bind]
    exact ⟨_, _, hrefused herror, .inr ⟨e, herror, run_ofExcept_bind_error rfl _ _⟩⟩
  | ok b' =>
    rw [run_ofExcept_bind rfl]
    cases hlim : b'.setLimit (f.bi.offset + f.bi.size) with
    | error e =>
      have herror : window f = .error e := by simp [window, hpos, hlim, bind, Except.bind]
      exact ⟨_, _, hrefused herror, .inr ⟨e, herror, run_ofExcept_bind_error rfl _ _⟩⟩
    | ok b'' =>
      have hwritten : written f =
          (if f.isAudio then [] else putInt (f.bi.size - 4)) ++ b''.content := by
        simp [written, window, hpos, hlim, bind, Except.bind]
      refine ⟨_, if m.flushBytes + b''.content.length > 64 * 1024 then 0
        else m.flushBytes + b''.content.length, rfl, .inl ?_⟩
      rw [run_ofExcept_bind rfl, run_bind_ok (writeLength_done _ _ (by exact hfc) (by exact hout)),
        run_bind_ok (fcWrite_done rfl (by exact hout) _), run_modify]
      simp only [hwritten, List.append_assoc, List.length_append, Int.add_assoc, Int.natCast_add]

theorem writeSampleBytes_of_fits {t : Track} (hfits : f.Fits)
    (htrack : m.mp4Movie.get f.track = some t) (hfc : m.fc = some (openAtEnd bytes))
    (hout : m.outcomes = []) :
    ∃ m', (writeSampleBytes f.track f.bb f.bi f.isAudio).run m = .ok () m' ∧
      m'.fc = some (openAtEnd (bytes ++ f.payload)) := by
  obtain ⟨⟨bb, hwindow⟩, hwritten⟩ := written_of_fits hfits
  obtain ⟨m', flushBytes, hm', hrun⟩ := writeSampleBytes_done htrack hfc hout
  cases hrun with
  | inl hok => exact ⟨m', hok, by rw [hm', hwritten]⟩
  | inr herror =>
    obtain ⟨e, hrefused, -⟩ := herror
    rw [hwindow] at hrefused
    cases hrefused

end Done

/-! ## The start of a recording -/

/-- A muxer that has not recorded yet, on a file system that does all it is
asked for. -/
structure NoRecording (m : SrsMp4Muxer) : Prop where
  movie : m.mp4Movie = {}
  recFileSize : m.recFileSize = 0
  outcomes : m.outcomes = []

/-- A recording before its first frame, on a muxer whose `recFileSize` was `base`
when it started. -/
structure Opened (base : Int) (m : SrsMp4Muxer) : Prop where
  outcomes : m.outcomes = []
  fc : m.fc = some (openAtEnd createFileTypeBox.getBox)
  recFileSize : m.recFileSize = base + createFileTypeBox.getBox.length
  mdat : m.mdat = some {}
  mdatOffset : m.mdatOffset = 0

/-- The muxer between `createMovie` and the tracks. -/
def created (m : SrsMp4Muxer) (path : String) : SrsMp4Muxer :=
  { m with
    mRecFile := some path, fc := some (openAtEnd createFileTypeBox.getBox), mdat := some {}
    mdatOffset := 0, recFileSize := m.recFileSize + createFileTypeBox.getBox.length
    events := m.events ++ [.recordStarted path] }

theorem opened_created (hout : m.outcomes = []) (path : String) :
    Opened m.recFileSize (m.created path) :=
  ⟨hout, rfl, rfl, rfl, rfl⟩

theorem createMovie_done (hout : m.outcomes = []) :
    createMovie.run m =
      .ok ()
        { m with
          fc := some (openAtEnd createFileTypeBox.getBox), mdat := some {}, mdatOffset := 0
          recFileSize := m.recFileSize + createFileTypeBox.getBox.length } := by
  refine run_catchIoException_ok ?_ _
  rw [run_get_bind, hout]
  simp only [List.head?_nil, Option.getD_none, List.tail_nil, run_set_bind]
  have hempty : FileChannel.create = openAtEnd [] := rfl
  rw [hempty, run_bind_ok (fcWrite_done rfl rfl _), run_modify, createFileTypeBox_getBox_length]
  simp

/-- `addTrack` puts a new track into the movie, or does nothing without a format. -/
theorem addTrack_eq_ok {movie movie' : Mp4Movie} {h264_sps : Option ByteBuffer}
    (h : movie.addTrack format isAudio h264_sps = .ok movie') :
    (format = none ∧ movie' = movie) ∨
      ∃ format' track, format = some format' ∧
        newTrack movie.size format' isAudio h264_sps = .ok track ∧
        movie' = movie.put (if isAudio then .AUDIO_TRACK else .VIDEO_TRACK) track := by
  cases format with
  | none =>
    cases h
    exact .inl ⟨rfl, rfl⟩
  | some format =>
    cases hnew : newTrack movie.size format isAudio h264_sps with
    | error e => simp [Mp4Movie.addTrack, hnew, bind, Except.bind] at h
    | ok track =>
      simp only [Mp4Movie.addTrack, hnew, bind, Except.bind, pure, Except.pure,
        Except.ok.injEq] at h
      exact .inr ⟨format, track, rfl, hnew, h.symm⟩

theorem addTrack_fresh {movie movie' : Mp4Movie} {h264_sps : Option ByteBuffer}
    (hfresh : ∀ index t, movie.get index = some t → Fresh t)
    (h : movie.addTrack format isAudio h264_sps = .ok movie') :
    ∀ index t, movie'.get index = some t → Fresh t := by
  rcases addTrack_eq_ok h with ⟨-, rfl⟩ | ⟨format', track, -, hnew, rfl⟩
  · exact hfresh
  · intro index t hget
    rw [Mp4Movie.get_put] at hget
    by_cases hindex : (if isAudio = true then TrackIndex.AUDIO_TRACK else .VIDEO_TRACK) = index
    · rw [if_pos hindex] at hget
      cases hget
      exact (fresh_newTrack hnew).1
    · rw [if_neg hindex] at hget
      exact hfresh index t hget

theorem movieAddTrack_eq_ok {m' : SrsMp4Muxer}
    (hrun : (movieAddTrack format isAudio).run m = .ok () m') :
    ∃ movie, m.mp4Movie.addTrack format isAudio m.h264_sps = .ok movie ∧
      m' = { m with mp4Movie := movie } := by
  rw [movieAddTrack, run_get_bind] at hrun
  obtain ⟨movie, hadd, hset⟩ := run_ofExcept_bind_eq_ok hrun
  cases hset
  exact ⟨movie, hadd, rfl⟩

/-- The video track is added if there are parameter sets, and then the audio track. -/
theorem addTracks_eq_ok {m' : SrsMp4Muxer} (hrun : addTracks.run m = .ok () m') :
    ∃ movie movie',
      (if !m.spsList.isEmpty && !m.ppsList.isEmpty then
        m.mp4Movie.addTrack m.videoFormat false m.h264_sps else .ok m.mp4Movie) = .ok movie ∧
      movie.addTrack m.audioFormat true m.h264_sps = .ok movie' ∧
      m' = { m with mp4Movie := movie' } := by
  rw [addTracks, run_get_bind] at hrun
  by_cases hsets : (!m.spsList.isEmpty && !m.ppsList.isEmpty) = true
  · rw [if_pos hsets] at hrun
    obtain ⟨_, m'', hvideo, haudio⟩ := run_bind_eq_ok hrun
    obtain ⟨movie, hadd, rfl⟩ := movieAddTrack_eq_ok hvideo
    obtain ⟨movie', hadd', rfl⟩ := movieAddTrack_eq_ok haudio
    exact ⟨movie, movie', by rw [if_pos hsets]; exact hadd, hadd', rfl⟩
  · rw [if_neg hsets] at hrun
    obtain ⟨movie', hadd', rfl⟩ := movieAddTrack_eq_ok hrun
    exact ⟨m.mp4Movie, movie', by rw [if_neg hsets], hadd', rfl⟩

/-- A successful `record` creates the movie and adds the tracks. -/
theorem record_eq_ok (hout : m.outcomes = []) (hrun : (record path).run m = .ok true m₁) :
    ∃ m', addTracks.run (m.created path) = .ok () m' ∧ m₁ = { m' with worker := true } := by
  rw [record, run_get_bind] at hrun
  split at hrun
  · cases hrun
  · rw [run_set_bind, run_bind_ok (createMovie_done (by exact hout)), notify,
      run_modify_bind] at hrun
    obtain ⟨_, m', htracks, hworker⟩ := run_bind_eq_ok hrun
    cases hworker
    exact ⟨m', htracks, rfl⟩

theorem opened_of_record (hout : m.outcomes = []) (hrun : (record path).run m = .ok true m₁) :
    Opened m.recFileSize m₁ := by
  obtain ⟨m', htracks, rfl⟩ := record_eq_ok hout hrun
  obtain ⟨movie, movie', -, -, rfl⟩ := addTracks_eq_ok htracks
  have hopened := opened_created hout path
  exact ⟨hopened.outcomes, hopened.fc, hopened.recFileSize, hopened.mdat, hopened.mdatOffset⟩

/-- A muxer that has not recorded starts with new tracks. -/
theorem fresh_of_record (h : m.NoRecording) (hrun : (record path).run m = .ok true m₁) :
    ∀ index t, m₁.mp4Movie.get index = some t → Fresh t := by
  obtain ⟨m', htracks, rfl⟩ := record_eq_ok h.outcomes hrun
  obtain ⟨movie, movie', hvideo, haudio, rfl⟩ := addTracks_eq_ok htracks
  have hempty : ∀ index t, m.mp4Movie.get index = some t → Fresh t := by
    intro index t hget
    rw [h.movie] at hget
    cases index <;> cases hget
  have hfresh : ∀ index t, movie.get index = some t → Fresh t := by
    by_cases hsets : (!m.spsList.isEmpty && !m.ppsList.isEmpty) = true
    · exact addTrack_fresh hempty ((if_pos hsets).symm.trans hvideo)
    · cases (if_neg hsets).symm.trans hvideo
      exact hempty
  exact addTrack_fresh hfresh haudio

/-! ## The frames of a recording -/

/-- The bytes of the file before the first frame. -/
def fileHead : List UInt8 := createFileTypeBox.getBox ++ mdatHeader 0

/-- The calls of `addSample` that a track gets while the frames are written, in a recording that
started with `recFileSize = base`. -/
def callsAt (base : Int) (index : TrackIndex) (kept : List SrsEsFrame) : List AddCall :=
  ((place written fileHead.length kept).filter (·.1.track = index)).map
    fun p => { offset := base + p.2, bi := p.1.bi }

/-- The invariant of the worker loop after the frames `kept` of existing tracks, whether they fit
or not, in a recording that started in `m₁`. -/
structure RecordingAt (base : Int) (m₁ m : SrsMp4Muxer) (kept : List SrsEsFrame) : Prop where
  outcomes : m.outcomes = []
  fc : m.fc = some (openAtEnd (fileHead ++ kept.flatMap written))
  recFileSize : m.recFileSize = base + (fileHead ++ kept.flatMap written).length
  mdat : m.mdat = some { first := false, contentSize := 0 }
  mdatOffset : m.mdatOffset = base + createFileTypeBox.getBox.length
  track : ∀ index, m.mp4Movie.get index =
    (m₁.mp4Movie.get index).map fun t => addSamples t (callsAt base index kept)

section Steps

variable {base : Int} {m₁ m : SrsMp4Muxer} {kept : List SrsEsFrame} {f : SrsEsFrame}

theorem callsAt_concat (index : TrackIndex) :
    callsAt base index (kept ++ [f]) =
      if f.track = index then
        callsAt base index kept ++
          [{ offset := base + (fileHead ++ kept.flatMap written).length, bi := f.bi }]
      else callsAt base index kept := by
  unfold callsAt
  rw [place_concat, List.filter_append, List.map_append]
  split <;> simp_all

/-- The open `mdat` box takes one more frame. -/
theorem recordingAt_writeSampleBytes (h : RecordingAt base m₁ m kept)
    (htrack : (m₁.mp4Movie.get f.track).isSome = true) :
    ∃ m', RecordingAt base m₁ m' (kept ++ [f]) ∧
      ((writeSampleBytes f.track f.bb f.bi f.isAudio).run m = .ok () m' ∨
        ∃ e, window f = .error e ∧
          (writeSampleBytes f.track f.bb f.bi f.isAudio).run m = .error e m') := by
  obtain ⟨t₁, ht₁⟩ := Option.isSome_iff_exists.mp htrack
  have ht : m.mp4Movie.get f.track = some (addSamples t₁ (callsAt base f.track kept)) := by
    rw [h.track, ht₁]
    rfl
  obtain ⟨m', flushBytes, hm', hrun⟩ := writeSampleBytes_done ht h.fc h.outcomes
  refine ⟨m', ?_, hrun⟩
  subst hm'
  refine ⟨h.outcomes, ?_, ?_, h.mdat, h.mdatOffset, ?_⟩
  · simp
  · simp [h.recFileSize, Int.add_assoc]
  · intro index
    rw [Mp4Movie.get_put, callsAt_concat, h.recFileSize]
    by_cases hindex : f.track = index
    · subst hindex
      rw [if_pos rfl, if_pos rfl, ht₁]
      simp [addSamples]
    · rw [if_neg hindex, if_neg hindex]
      exact h.track index

/-- The first frame of an existing track opens the `mdat` box. -/
theorem recordingAt_openMdat (h : Opened base m₁) :
    ∃ m, openMdat.run m₁ = .ok () m ∧ RecordingAt base m₁ m [] := by
  refine ⟨_, openMdat_first h.mdat h.fc h.outcomes, h.outcomes, ?_, ?_, rfl, ?_, ?_⟩
  · simp [fileHead]
  · simp [fileHead, mdatHeader, h.recFileSize, Int.add_assoc]
  · exact h.recFileSize
  · intro index
    simp [callsAt, place, addSamples]

/-- The state before a frame of an existing track: the recording has just started, or
there are frames already. -/
def Before (base : Int) (m₁ m : SrsMp4Muxer) (kept : List SrsEsFrame) : Prop :=
  (Opened base m₁ ∧ m = m₁ ∧ kept = []) ∨ (kept ≠ [] ∧ RecordingAt base m₁ m kept)

theorem writeFrame_eq (htrack : (m.mp4Movie.get f.track).isSome = true) :
    (writeFrame f).run m =
      (catchIoException (openMdat >>= fun _ => writeSampleBytes f.track f.bb f.bi f.isAudio)
        fun e => notify (.recordIOException e)).run m := by
  obtain ⟨t, ht⟩ := Option.isSome_iff_exists.mp htrack
  rw [writeFrame, f.trackIndex_eq, run_get_bind, ht]

theorem window_error {e : JavaException} (h : window f = .error e) :
    ∃ message, e = .illegalArgument message := by
  rw [window] at h
  cases hpos : f.bb.setPosition (f.bi.offset + if f.isAudio then 0 else 4) with
  | error e' =>
    rw [hpos] at h
    cases h
    exact ByteBuffer.setPosition_error hpos
  | ok b' =>
    rw [hpos] at h
    exact ByteBuffer.setLimit_error h

theorem Before.hasTrack_iff (h : Before base m₁ m kept) :
    (m.mp4Movie.get f.track).isSome = (m₁.mp4Movie.get f.track).isSome := by
  rcases h with ⟨-, rfl, -⟩ | ⟨-, h⟩
  · rfl
  · simp [h.track]

/-- A frame of an existing track is recorded.  The worker ends with an exception if the
frame does not fit. -/
theorem writeFrame_kept (h : Before base m₁ m kept)
    (htrack : (m₁.mp4Movie.get f.track).isSome = true) :
    ∃ m', RecordingAt base m₁ m' (kept ++ [f]) ∧
      ((writeFrame f).run m = .ok () m' ∨
        ¬ f.Fits ∧ ∃ e, (writeFrame f).run m = .error e m') := by
  have hopen : ∃ m', openMdat.run m = .ok () m' ∧ RecordingAt base m₁ m' kept := by
    rcases h with ⟨hopened, rfl, rfl⟩ | ⟨-, h⟩
    · exact recordingAt_openMdat hopened
    · exact ⟨m, openMdat_later h.mdat, h⟩
  obtain ⟨m', hmdat, hrec⟩ := hopen
  obtain ⟨m'', hrec', hrun⟩ := recordingAt_writeSampleBytes hrec htrack
  refine ⟨m'', hrec', ?_⟩
  rw [writeFrame_eq (h.hasTrack_iff.trans htrack)]
  cases hrun with
  | inl hok => exact .inl (run_catchIoException_ok ((run_bind_ok hmdat _).trans hok) _)
  | inr herror =>
    obtain ⟨e, hwindow, herror⟩ := herror
    refine .inr ⟨fun hfits => ?_, e, ?_⟩
    · obtain ⟨bb, hok⟩ := (written_of_fits hfits).1
      rw [hok] at hwindow
      cases hwindow
    · obtain ⟨message, rfl⟩ := window_error hwindow
      exact run_catchIoException_illegalArgument ((run_bind_ok hmdat _).trans herror) _

theorem writeFrame_skipped (htrack : m.mp4Movie.get f.track = none) :
    (writeFrame f).run m = .ok () m := by
  rw [writeFrame, f.trackIndex_eq, run_get_bind, htrack]
  rfl

end Steps

/-- Whether the track of a frame exists. -/
def hasTrack (m : SrsMp4Muxer) (f : SrsEsFrame) : Bool := (m.mp4Movie.get f.track).isSome

/-- Any frames keep the invariant.  The worker comes to the end of the frames if they
fit. -/
theorem recordingAt_run {base : Int} (frames : List SrsEsFrame) :
    ∀ {m : SrsMp4Muxer} {kept : List SrsEsFrame}, Before base m₁ m kept →
      ∃ m' more, Before base m₁ m' (kept ++ more) ∧ more <+: frames.filter m₁.hasTrack ∧
        ((writeFrames frames).run m = .ok () m' ∧ more = frames.filter m₁.hasTrack ∨
          (∃ f ∈ frames, ¬ f.Fits) ∧ more ≠ [] ∧
            ∃ e, (writeFrames frames).run m = .error e m') := by
  induction frames with
  | nil => intro m kept h; exact ⟨m, [], by simpa using h, List.prefix_refl _, .inl ⟨rfl, rfl⟩⟩
  | cons f frames ih =>
    intro m kept h
    cases htrack : m₁.hasTrack f with
    | true =>
      obtain ⟨m', hrec, hrun⟩ := writeFrame_kept h htrack
      have hbefore : Before base m₁ m' (kept ++ [f]) := .inr ⟨by simp, hrec⟩
      cases hrun with
      | inl hok =>
        obtain ⟨m'', more, hbefore', hmore, hrest⟩ := ih hbefore
        refine ⟨m'', f :: more, by simpa using hbefore', by simpa [htrack] using hmore, ?_⟩
        rw [writeFrames, run_bind_ok hok]
        rcases hrest with ⟨hrest, rfl⟩ | ⟨⟨g, hg, hfits⟩, -, hrest⟩
        · exact .inl ⟨hrest, by simp [htrack]⟩
        · exact .inr ⟨⟨g, List.mem_cons_of_mem f hg, hfits⟩, by simp, hrest⟩
      | inr herror =>
        obtain ⟨hfits, e, herror⟩ := herror
        refine ⟨m', [f], hbefore, by simp [htrack], .inr ⟨⟨f, List.mem_cons_self, hfits⟩, ?_⟩⟩
        exact ⟨by simp, e, run_bind_error herror _⟩
    | false =>
      obtain ⟨m'', more, hbefore, hmore, hrest⟩ := ih h
      have hnone : m.mp4Movie.get f.track = none := by
        have hsome : (m.mp4Movie.get f.track).isSome = m₁.hasTrack f := h.hasTrack_iff
        simpa [htrack] using hsome
      refine ⟨m'', more, hbefore, by simpa [htrack] using hmore, ?_⟩
      rw [writeFrames, run_bind_ok (writeFrame_skipped hnone)]
      rcases hrest with ⟨hrest, rfl⟩ | ⟨⟨g, hg, hfits⟩, hne, hrest⟩
      · exact .inl ⟨hrest, by simp [htrack]⟩
      · exact .inr ⟨⟨g, List.mem_cons_of_mem f hg, hfits⟩, hne, hrest⟩

/-- The state after a worker that has come to the end of the frames or to an
exception. -/
theorem before_final_writeFrames {base : Int} (h : Opened base m₁) (frames : List SrsEsFrame) :
    ∃ kept, Before base m₁ (final (writeFrames frames) m₁) kept ∧
      kept <+: frames.filter m₁.hasTrack ∧
      ((∃ f ∈ frames, m₁.hasTrack f = true) ↔ kept ≠ []) := by
  obtain ⟨m', kept, hbefore, hkept, hrun⟩ := recordingAt_run frames (.inl ⟨h, rfl, rfl⟩)
  rw [List.nil_append] at hbefore
  refine ⟨kept, ?_, hkept, ?_⟩
  · rcases hrun with ⟨hok, -⟩ | ⟨-, -, e, herror⟩
    · rw [final, hok]
      exact hbefore
    · rw [final_of_error herror]
      exact hbefore
  · rcases hrun with ⟨-, rfl⟩ | ⟨-, hne, -⟩
    · simp [List.filter_eq_nil_iff]
    · refine iff_of_true ?_ hne
      obtain ⟨f, hf⟩ := List.exists_mem_of_ne_nil _ hne
      exact ⟨f, List.mem_filter.mp (hkept.subset hf)⟩

/-- A whole recording with at least one frame of an existing track. -/
theorem recording_of_started (h : Opened 0 m₁) (frames : List SrsEsFrame)
    (hfits : ∀ f ∈ frames, f.Fits) (hsome : ∃ f ∈ frames, m₁.hasTrack f = true) :
    ∃ m', (writeFrames frames).run m₁ = .ok () m' ∧
      RecordingAt 0 m₁ m' (frames.filter m₁.hasTrack) := by
  obtain ⟨m', more, hbefore, -, hrun⟩ := recordingAt_run frames (.inl ⟨h, rfl, rfl⟩)
  rcases hrun with ⟨hrun, rfl⟩ | ⟨⟨f, hf, hnot⟩, -⟩
  · refine ⟨m', hrun, ?_⟩
    rcases hbefore with ⟨-, -, hnone⟩ | ⟨-, hrec⟩
    · obtain ⟨f, hf, htrack⟩ := hsome
      have hmem : f ∈ frames.filter m₁.hasTrack := List.mem_filter.mpr ⟨hf, htrack⟩
      rw [List.nil_append] at hnone
      rw [hnone] at hmem
      cases hmem
    · exact hrec
  · exact absurd (hfits f hf) hnot

/-! ## The finished file -/

/-- A file with an `mdat` box that holds `content`, and a `moov` box. -/
def mdatFile (content moov : List UInt8) : List UInt8 :=
  createFileTypeBox.getBox ++ mdatHeader content.length ++ content ++ moov

/-- The file that `finishMovie` leaves: the `mdat` header goes to `offset`, and the `moov` box
behind the former end. -/
def finished (bytes : List UInt8) (offset : Nat) (contentSize : Int) (moov : List UInt8) :
    ByteFile :=
  ((({ bytes, position := offset } : ByteFile).write (mdatHeader contentSize)).seek
    bytes.length).write moov

/-- At its own place the second `mdat` header goes exactly over the first one. -/
theorem finished_mdatFile (content moov : List UInt8) :
    finished (fileHead ++ content) createFileTypeBox.getBox.length content.length moov =
      { bytes := mdatFile content moov, position := (mdatFile content moov).length } := by
  have hover := write_eq_overwrite createFileTypeBox.getBox (mdatHeader 0) content
    (mdatHeader content.length) (by simp [mdatHeader])
  have hlength : (fileHead ++ content).length =
      (createFileTypeBox.getBox ++ mdatHeader content.length ++ content).length := by
    simp [fileHead, mdatHeader]
  rw [finished, hlength, fileHead, hover, mdatFile]
  generalize createFileTypeBox.getBox ++ mdatHeader content.length ++ content = bytes
  simp [seek, write]

section Finish

variable {m : SrsMp4Muxer} {file : ByteFile}

theorem setPosition_done (hfc : m.fc = some { file, isOpen := true }) (hout : m.outcomes = [])
    (position : Nat) :
    (channel fun fc outcome => fc.setPosition outcome position).run m =
      .ok () { m with fc := some { file := file.seek position, isOpen := true } } :=
  channel_done hfc hout rfl

/-- `completeMdat` writes the size of the content into the header at `mdatOffset` and returns
to the end of the file. -/
theorem completeMdat_done {mdat : InterleaveChunkMdat} {bytes : List UInt8}
    (hmdat : m.mdat = some mdat) (hsize : mdat.getSize ≠ 0)
    (hfc : m.fc = some (openAtEnd bytes)) (hout : m.outcomes = []) :
    completeMdat.run m =
      .ok ()
        { m with
          mdat := some { mdat with contentSize := 0 }
          fc := some
            { file := (({ bytes, position := m.mdatOffset.toNat } : ByteFile).write (mdatHeader
                (m.recFileSize - InterleaveChunkMdat.getHeaderSize - m.mdatOffset))).seek
                  bytes.length
              isOpen := true } } := by
  have hposition : (channel FileChannel.getPosition).run m = .ok bytes.length m := by
    rw [channel_done hfc hout rfl, ← hfc]
    rfl
  rw [completeMdat, run_bind_ok (run_getMdat hmdat), if_pos hsize, run_bind_ok hposition,
    run_get_bind, run_bind_ok (setPosition_done hfc hout _),
    run_bind_ok (writeMdatHeader_done (by exact hmdat) rfl (by exact hout) _ rfl),
    run_bind_ok (setPosition_done rfl (by exact hout) _), run_modify]
  rfl

theorem closeMovie_done (hfc : m.fc = some { file, isOpen := true }) (hout : m.outcomes = [])
    (moov : MovieBox → List UInt8) :
    (closeMovie moov).run m =
      .ok ()
        { m with
          fc := some
            { file := file.write (moov (createMovieBox m.mp4Movie m.spsList m.ppsList))
              isOpen := false }
          mp4Movie := {}, recFileSize := 0, flushBytes := 0 } := by
  rw [closeMovie, run_get_bind, fcWrite, run_bind_ok (channel_done hfc hout rfl),
    run_bind_ok (channel_done rfl (by exact hout) rfl),
    run_bind_ok (channel_done rfl (by exact hout) rfl)]
  rfl

/-- `finishMovie` on a file that is open at its end. -/
theorem finishMovie_done {mdat : InterleaveChunkMdat} {bytes : List UInt8}
    (hmdat : m.mdat = some mdat) (hsize : mdat.getSize ≠ 0)
    (hfc : m.fc = some (openAtEnd bytes)) (hout : m.outcomes = [])
    (moov : MovieBox → List UInt8) :
    ∃ m', (finishMovie moov).run m = .ok () m' ∧
      m'.fc = some
        { file := finished bytes m.mdatOffset.toNat
            (m.recFileSize - InterleaveChunkMdat.getHeaderSize - m.mdatOffset)
            (moov (createMovieBox m.mp4Movie m.spsList m.ppsList))
          isOpen := false } ∧
      m'.NoRecording := by
  have hcomplete := @completeMdat_done
    { m with flushBytes := if m.flushBytes > 0 then 0 else m.flushBytes } mdat bytes hmdat hsize
    hfc hout
  have hbody := (run_bind_ok hcomplete fun _ => closeMovie moov).trans
    (closeMovie_done (by rfl) (by exact hout) moov)
  exact ⟨_, run_catchIoException_ok hbody _, rfl, rfl, rfl, hout⟩

end Finish

/-- `finishMovie` completes the `mdat` header and appends the `moov` box. -/
theorem finishMovie_recording (h : RecordingAt 0 m₁ m kept) (moov : MovieBox → List UInt8) :
    ∃ m', (finishMovie moov).run m = .ok () m' ∧
      m'.fc = some (closed (mdatFile (kept.flatMap written)
        (moov (createMovieBox m.mp4Movie m.spsList m.ppsList)))) ∧
      m'.NoRecording := by
  have hfinish := finishMovie_done h.mdat (by decide) h.fc h.outcomes moov
  have hsize : m.recFileSize - InterleaveChunkMdat.getHeaderSize - m.mdatOffset =
      (kept.flatMap written).length := by
    rw [h.recFileSize, h.mdatOffset]
    simp [fileHead, mdatHeader]
    omega
  have hoffset : m.mdatOffset.toNat = createFileTypeBox.getBox.length := by
    rw [h.mdatOffset]
    omega
  rw [hsize, hoffset, finished_mdatFile] at hfinish
  exact hfinish

/-! ## Where the samples are -/

/-- The sample `s` lies in the media data that ends at `mdatEnd`, and its range
holds the frame `f`. -/
structure Holds (file : List UInt8) (mdatEnd : Nat) (s : Sample) (f : SrsEsFrame) : Prop where
  start : (fileHead.length : Int) ≤ s.offset
  stop : s.offset + s.size ≤ mdatEnd
  size : s.size = f.bi.size
  bytes : region file s.offset.toNat s.size.toNat = f.payload

/-- The ranges of two samples have no byte in common. -/
def DisjointRanges (s s' : Sample) : Prop :=
  s.offset + s.size ≤ s'.offset ∨ s'.offset + s'.size ≤ s.offset

section Ranges

variable {m₁ m : SrsMp4Muxer} {kept : List SrsEsFrame} {index : TrackIndex} {t : Track}

/-- The frames of a track that are in its sample list, with the positions in the file
at which they were written. -/
def listed (index : TrackIndex) (kept : List SrsEsFrame) : List (SrsEsFrame × Nat) :=
  taken (fun p => p.1.bi) 0 ((place written fileHead.length kept).filter (·.1.track = index))

theorem listed_sublist : (listed index kept).Sublist (place written fileHead.length kept) :=
  (taken_sublist _ _ _).trans List.filter_sublist

theorem track_of_mem_listed {p : SrsEsFrame × Nat} (h : p ∈ listed index kept) :
    p.1.track = index := by
  have := (taken_sublist _ _ _).subset h
  simpa using (List.mem_filter.mp this).2

/-- The sample of a frame, with an offset that is too large by `base`. -/
def shiftedSample (base : Int) (p : SrsEsFrame × Nat) : Sample :=
  { offset := base + p.2, size := p.1.bi.size }

/-- The sample of a frame, with its own offset. -/
abbrev sampleOf : SrsEsFrame × Nat → Sample := shiftedSample 0

theorem samples_addSamples (hsamples : t.samples = []) (hlast : t.lastPresentationTimeUs = 0)
    (base : Int) (index : TrackIndex) (kept : List SrsEsFrame) :
    (addSamples t (callsAt base index kept)).samples =
      (listed index kept).map (shiftedSample base) := by
  rw [addSamples_samples, hsamples, hlast, List.nil_append, callsAt, taken_map, List.map_map]
  rfl

theorem samples_eq_listed (hfresh : ∀ index t, m₁.mp4Movie.get index = some t → Fresh t)
    (h : RecordingAt 0 m₁ m kept) (ht : m.mp4Movie.get index = some t) :
    t.samples = (listed index kept).map sampleOf := by
  rw [h.track] at ht
  obtain ⟨t₁, ht₁, rfl⟩ := Option.map_eq_some_iff.mp ht
  have hnew := hfresh index t₁ ht₁
  exact samples_addSamples hnew.samples hnew.last 0 index kept

theorem listed_map_fst :
    (listed index kept).map Prod.fst = taken SrsEsFrame.bi 0 (kept.filter (·.track = index)) := by
  have hplace := place_map_fst written fileHead.length kept
  conv_rhs => rw [← hplace, List.filter_map, taken_map]
  rfl

/-- A frame that was placed is one of the frames, and takes as many bytes as it has. -/
theorem length_written_of_mem {p : SrsEsFrame × Nat} {offset : Nat}
    (hfits : ∀ f ∈ kept, f.Fits) (hp : p ∈ place written offset kept) :
    written p.1 = p.1.payload ∧ (written p.1).length = p.1.bi.size := by
  have hmem : p.1 ∈ kept := by
    rw [← place_map_fst written offset kept]
    exact List.mem_map_of_mem hp
  have hpayload := (written_of_fits (hfits p.1 hmem)).2
  exact ⟨hpayload, hpayload ▸ SrsEsFrame.payload_length (hfits p.1 hmem)⟩

theorem holds_of_mem_listed {p : SrsEsFrame × Nat} (moov : List UInt8)
    (hfits : ∀ f ∈ kept, f.Fits) (hp : p ∈ listed index kept) :
    Holds (mdatFile (kept.flatMap written) moov) (fileHead ++ kept.flatMap written).length
      (sampleOf p) p.1 := by
  obtain ⟨f, offset⟩ := p
  have hplace := listed_sublist.subset hp
  obtain ⟨hpayload, hlen⟩ := length_written_of_mem hfits hplace
  -- Both forms of the header have the same length, so the offsets are the same.
  have hhead : (createFileTypeBox.getBox ++
      mdatHeader (kept.flatMap written).length).length = fileHead.length := by
    simp [fileHead, mdatHeader]
  have hstart := le_of_mem_place _ hplace
  rw [← hhead] at hplace
  obtain ⟨hregion, hstop⟩ := region_of_mem_place written moov hplace
  rw [List.length_append, hhead, hlen] at hstop
  rw [hlen, hpayload] at hregion
  have hoffset : (sampleOf (f, offset)).offset = offset := Int.zero_add _
  refine ⟨?_, ?_, rfl, ?_⟩
  · rw [hoffset]
    exact Int.ofNat_le.mpr hstart
  · rw [hoffset, List.length_append]
    exact Int.ofNat_le.mpr hstop
  · rw [hoffset]
    exact hregion

theorem pairwise_place_frames (hfits : ∀ f ∈ kept, f.Fits) :
    (place written fileHead.length kept).Pairwise fun p q =>
      (sampleOf p).offset + (sampleOf p).size ≤ (sampleOf q).offset := by
  refine List.Pairwise.imp_of_mem ?_ (pairwise_place written fileHead.length kept)
  intro p q hp _ hle
  have hlen := (length_written_of_mem hfits hp).2
  show 0 + (p.2 : Int) + p.1.bi.size ≤ 0 + q.2
  omega

theorem disjoint_of_ne_index (hfits : ∀ f ∈ kept, f.Fits) {i j : Nat} {s s' : Sample}
    (hs : ((listed index kept).map sampleOf)[i]? = some s)
    (hs' : ((listed index kept).map sampleOf)[j]? = some s') (hne : i ≠ j) :
    DisjointRanges s s' := by
  have hpair : ((listed index kept).map sampleOf).Pairwise
      fun s s' => s.offset + s.size ≤ s'.offset :=
    List.pairwise_map.mpr ((pairwise_place_frames hfits).sublist listed_sublist)
  obtain ⟨hi, rfl⟩ := List.getElem?_eq_some_iff.mp hs
  obtain ⟨hj, rfl⟩ := List.getElem?_eq_some_iff.mp hs'
  rcases Nat.lt_or_gt_of_ne hne with hlt | hgt
  · exact Or.inl (List.pairwise_iff_getElem.mp hpair i j hi hj hlt)
  · exact Or.inr (List.pairwise_iff_getElem.mp hpair j i hj hi hgt)

/-- Samples of different tracks have disjoint ranges. -/
theorem disjoint_of_ne_track (hfits : ∀ f ∈ kept, f.Fits) {index' : TrackIndex} {s s' : Sample}
    (hs : s ∈ (listed index kept).map sampleOf)
    (hs' : s' ∈ (listed index' kept).map sampleOf) (hne : index ≠ index') :
    DisjointRanges s s' := by
  obtain ⟨p, hp, rfl⟩ := List.mem_map.mp hs
  obtain ⟨q, hq, rfl⟩ := List.mem_map.mp hs'
  have hpq : p ≠ q := by
    rintro rfl
    exact hne ((track_of_mem_listed hp).symm.trans (track_of_mem_listed hq))
  have hpair : (place written fileHead.length kept).Pairwise
      fun p q => DisjointRanges (sampleOf p) (sampleOf q) :=
    (pairwise_place_frames hfits).imp Or.inl
  have hsymm : Std.Symm fun p q : SrsEsFrame × Nat => DisjointRanges (sampleOf p) (sampleOf q) :=
    ⟨fun _ _ => Or.symm⟩
  exact hpair.forall (listed_sublist.subset hp) (listed_sublist.subset hq) hpq

end Ranges

theorem readBoxHeader_mdatFile (content moov : List UInt8)
    (hsize : (mdatFile content moov).length < 2 ^ 63) :
    ∃ headerSize, createFileTypeBox.getBox.length + headerSize ≤ fileHead.length ∧
      readBoxHeader (mdatFile content moov) createFileTypeBox.getBox.length =
        some
          { type := fourCCtoBytes "mdat", headerSize
            size := (fileHead ++ content).length - createFileTypeBox.getBox.length } := by
  have hbox : ({ contentSize := content.length } : InterleaveChunkMdat).getSize < 2 ^ 63 := by
    simp [mdatFile, mdatHeader] at hsize
    simp only [InterleaveChunkMdat.getSize]
    omega
  obtain ⟨headerSize, hle, hread⟩ := readBoxHeader_mdat createFileTypeBox.getBox
    (content ++ moov) _ (Int.natCast_nonneg _) hbox
  have hlength : (fileHead ++ content).length - createFileTypeBox.getBox.length =
      ({ contentSize := content.length } : InterleaveChunkMdat).getSize.toNat := by
    simp [fileHead, mdatHeader, InterleaveChunkMdat.getSize]
    omega
  refine ⟨headerSize, ?_, ?_⟩
  · simpa [fileHead, mdatHeader] using hle
  · rw [hlength, ← hread, mdatFile, mdatHeader, List.append_assoc]

/-- The frames of a track that exists are among the kept ones. -/
theorem filter_hasTrack {index : TrackIndex} (h : (m.mp4Movie.get index).isSome = true)
    (frames : List SrsEsFrame) :
    (frames.filter m.hasTrack).filter (·.track = index) = frames.filter (·.track = index) := by
  rw [List.filter_filter]
  apply List.filter_congr
  intro f _
  by_cases hindex : f.track = index
  · simp [hasTrack, hindex, h]
  · simp [hindex]

/-- **The samples of a finished recording.**  For any frames written in one
recording of a new muxer, with at least one of an existing track: `finishMovie`
leaves a file whose `mdat` box ends where the `moov` box begins.  The samples of
each track are, in order, its frames that `addSample` takes.  Each lies inside
the `mdat` content and holds exactly its frame, and no two samples of any tracks
share a byte. -/
theorem sampleRanges_of_recording (moov : MovieBox → List UInt8) {m m₁ : SrsMp4Muxer}
    {path : String} (hnew : m.NoRecording) (hrecord : (record path).run m = .ok true m₁)
    (frames : List SrsEsFrame) (hfits : ∀ f ∈ frames, f.Fits)
    (hsome : ∃ f ∈ frames, m₁.hasTrack f = true) :
    ∃ m₂ m₃ file mdatEnd,
      (writeFrames frames).run m₁ = .ok () m₂ ∧ (finishMovie moov).run m₂ = .ok () m₃ ∧
      m₃.fc = some (closed file) ∧
      mdatEnd + (moov (createMovieBox m₂.mp4Movie m₂.spsList m₂.ppsList)).length = file.length ∧
      (file.length < 2 ^ 63 →
        ∃ headerSize, createFileTypeBox.getBox.length + headerSize ≤ fileHead.length ∧
          readBoxHeader file createFileTypeBox.getBox.length =
            some
              { type := fourCCtoBytes "mdat", headerSize
                size := mdatEnd - createFileTypeBox.getBox.length }) ∧
      (∀ index t, m₂.mp4Movie.get index = some t →
        List.Forall₂ (Holds file mdatEnd) t.samples
          (taken SrsEsFrame.bi 0 (frames.filter (·.track = index)))) ∧
      (∀ index t (i : Nat) s index' t' (i' : Nat) s',
        m₂.mp4Movie.get index = some t → t.samples[i]? = some s →
        m₂.mp4Movie.get index' = some t' → t'.samples[i']? = some s' →
        (index, i) ≠ (index', i') → DisjointRanges s s') := by
  have hfresh := fresh_of_record hnew hrecord
  have hopened : Opened 0 m₁ := hnew.recFileSize ▸ opened_of_record hnew.outcomes hrecord
  obtain ⟨m₂, hrun, hrec⟩ := recording_of_started hopened frames hfits hsome
  have hkept : ∀ f ∈ frames.filter m₁.hasTrack, f.Fits :=
    fun f hf => hfits f (List.mem_of_mem_filter hf)
  obtain ⟨m₃, hfinish, hfile, -⟩ := finishMovie_recording hrec moov
  refine ⟨m₂, m₃, _, (fileHead ++ (frames.filter m₁.hasTrack).flatMap written).length,
    hrun, hfinish, hfile, ?_, readBoxHeader_mdatFile _ _, ?_, ?_⟩
  · simp [mdatFile, fileHead, mdatHeader]
    omega
  · intro index t ht
    have htrack : (m₁.mp4Movie.get index).isSome = true := by
      have := hrec.track index
      rw [ht] at this
      obtain ⟨t₁, ht₁, _⟩ := Option.map_eq_some_iff.mp this.symm
      simp [ht₁]
    rw [samples_eq_listed hfresh hrec ht, ← filter_hasTrack htrack, ← listed_map_fst,
      List.forall₂_map_left_iff, List.forall₂_map_right_iff, List.forall₂_same]
    exact fun p hp => holds_of_mem_listed _ hkept hp
  · intro index t i s index' t' i' s' ht hs ht' hs' hne
    rw [samples_eq_listed hfresh hrec ht] at hs
    rw [samples_eq_listed hfresh hrec ht'] at hs'
    by_cases hindex : index = index'
    · subst hindex
      exact disjoint_of_ne_index hkept hs hs' (by simpa using hne)
    · exact disjoint_of_ne_track hkept (List.mem_of_getElem? hs) (List.mem_of_getElem? hs') hindex

/-- A recording with both tracks: an audio frame, a video frame, and an audio
frame that goes back in time. -/
theorem sampleRanges_of_recording_both :
    ∃ m₁ m₂ m₃ file,
      (record "rec.mp4").run
        { videoFormat := some ⟨"video/avc", 640, 480, 0, 0⟩
          audioFormat := some ⟨"audio/mp4a-latm", 0, 0, 2, 44100⟩
          h264_sps := some (.wrap [0x67, 0x42, 0x00, 0x1f])
          spsList := [[0x67, 0x42, 0x00, 0x1f]], ppsList := [[0x68, 0xce]] } = .ok true m₁ ∧
      (writeFrames
        [⟨.wrap [1, 2, 3], ⟨0, 3, 1000, 0⟩, .AUDIO_TRACK, false⟩,
          ⟨.wrap [0, 0, 0, 1, 0x65, 0x88], ⟨0, 6, 2000, 1⟩, .VIDEO_TRACK, true⟩,
          ⟨.wrap [4], ⟨0, 1, 500, 0⟩, .AUDIO_TRACK, false⟩]).run m₁ = .ok () m₂ ∧
      (finishMovie fun _ => []).run m₂ = .ok () m₃ ∧ m₃.fc = some (closed file) := by
  have hrecord : (record "rec.mp4").run
      { videoFormat := some ⟨"video/avc", 640, 480, 0, 0⟩
        audioFormat := some ⟨"audio/mp4a-latm", 0, 0, 2, 44100⟩
        h264_sps := some (.wrap [0x67, 0x42, 0x00, 0x1f])
        spsList := [[0x67, 0x42, 0x00, 0x1f]], ppsList := [[0x68, 0xce]] } = .ok true _ := rfl
  have hfits : ∀ f ∈ ([⟨.wrap [1, 2, 3], ⟨0, 3, 1000, 0⟩, .AUDIO_TRACK, false⟩,
      ⟨.wrap [0, 0, 0, 1, 0x65, 0x88], ⟨0, 6, 2000, 1⟩, .VIDEO_TRACK, true⟩,
      ⟨.wrap [4], ⟨0, 1, 500, 0⟩, .AUDIO_TRACK, false⟩] : List SrsEsFrame), f.Fits := by
    intro f hf
    simp only [List.mem_cons, List.not_mem_nil, or_false] at hf
    rcases hf with rfl | rfl | rfl <;> exact ⟨by decide, by decide⟩
  obtain ⟨m₂, m₃, file, _, hrun, hfinish, hfile, _⟩ :=
    sampleRanges_of_recording (fun _ => []) ⟨rfl, rfl, rfl⟩ hrecord _ hfits
      ⟨_, List.mem_cons_self, rfl⟩
  exact ⟨_, m₂, m₃, file, hrecord, hrun, hfinish, hfile⟩

end SrsMp4Muxer

end MediasoupDemo.Mp4
