import MediasoupDemo.Mp4.Tiling
import Mathlib.Data.List.Induction

/-!
# A recording after a failed one

The next recording starts from whatever a failed one has left.

* The tracks of a failed recording stay in the movie, but the next `record` replaces
  them all: a track that is there has a format and, if it is the video track, parameter
  sets, and these are never taken back (`Tracked`).
* `recFileSize` is set to 0 at the end of `finishMovie` only, and `createMovie` adds to
  it.  After a `finishMovie` that failed, all offsets of the next recording are too large
  by what is left (`callsAt`).
-/

namespace MediasoupDemo.Mp4.SrsMp4Muxer

open ByteCodec ByteFile MediasoupDemo.Runtime Method

/-! ## The tracks -/

/-- A track that is there would be made again by the next `record`. -/
structure Tracked (m : SrsMp4Muxer) : Prop where
  video : (m.mp4Movie.get .VIDEO_TRACK).isSome = true →
    m.videoFormat.isSome = true ∧ m.spsList ≠ [] ∧ m.ppsList ≠ []
  audio : (m.mp4Movie.get .AUDIO_TRACK).isSome = true → m.audioFormat.isSome = true

/-- The tracks are added with the formats of the muxer, and no method takes a format or a
parameter set back. -/
theorem stable_tracked : Stable Tracked where
  file := fun _ _ _ _ _ _ _ h => ⟨h.video, h.audio⟩
  grow := fun _ _ h => ⟨h.video, h.audio⟩
  addSample := fun m index t bi htrack h => by
    -- `addSample` makes no track.
    have hsame (other : TrackIndex) :
        ((m.mp4Movie.put index (t.addSample m.recFileSize bi)).get other).isSome =
          (m.mp4Movie.get other).isSome := by
      rw [Mp4Movie.get_put]
      by_cases hindex : index = other
      · rw [if_pos hindex, ← hindex, htrack]
        rfl
      · rw [if_neg hindex]
    exact ⟨fun hv => h.video ((hsame _).symm.trans hv), fun ha => h.audio ((hsame _).symm.trans ha)⟩
  empty := fun _ _ => ⟨fun hv => (by cases hv), fun ha => (by cases ha)⟩
  flags := fun _ _ _ _ _ _ _ _ h => ⟨h.video, h.audio⟩
  videoFormat := fun _ _ h => ⟨fun hv => ⟨rfl, (h.video hv).2⟩, h.audio⟩
  audioFormat := fun _ _ h => ⟨h.video, fun _ => rfl⟩
  sps := fun _ _ _ h =>
    ⟨fun hv => ⟨(h.video hv).1, List.cons_ne_nil _ _, (h.video hv).2.2⟩, h.audio⟩
  pps := fun _ _ _ h =>
    ⟨fun hv => ⟨(h.video hv).1, (h.video hv).2.1, List.cons_ne_nil _ _⟩, h.audio⟩
  addVideo := fun m format t hformat hsps hpps _ h =>
    ⟨fun _ => ⟨by simp [hformat], hsps, hpps⟩, fun ha => h.audio (by simpa using ha)⟩
  addAudio := fun m format t hformat _ h =>
    ⟨fun hv => h.video (by simpa using hv), fun _ => by simp [hformat]⟩

variable {m : SrsMp4Muxer}

theorem Reachable.tracked {moov : MovieBox → List UInt8} (h : Reachable moov m) : Tracked m :=
  stable_tracked.reachable ⟨fun hv => (by cases hv), fun ha => (by cases ha)⟩ h

/-- The format that a track is made of. -/
def formatOf (m : SrsMp4Muxer) : TrackIndex → Option MediaFormat
  | .VIDEO_TRACK => m.videoFormat
  | .AUDIO_TRACK => m.audioFormat

/-- The track is as `record` makes it from the formats of the muxer. -/
def MadeFor (m : SrsMp4Muxer) (index : TrackIndex) (t : Track) : Prop :=
  ∃ id format, m.formatOf index = some format ∧
    newTrack id format (index = .AUDIO_TRACK) m.h264_sps = .ok t

/-- After `record` all tracks are new ones. -/
theorem Tracked.madeFor_of_record {m₁ : SrsMp4Muxer} {path : String} (h : Tracked m)
    (hout : m.outcomes = []) (hrun : (record path).run m = .ok true m₁) :
    ∀ index t, m₁.mp4Movie.get index = some t → m.MadeFor index t := by
  obtain ⟨m', htracks, rfl⟩ := record_eq_ok hout hrun
  obtain ⟨movie, movie', hvideo, haudio, rfl⟩ := addTracks_eq_ok htracks
  have hfirst : (∀ t, movie.get .VIDEO_TRACK = some t → m.MadeFor .VIDEO_TRACK t) ∧
      movie.get .AUDIO_TRACK = m.mp4Movie.get .AUDIO_TRACK := by
    by_cases hsets : (!m.spsList.isEmpty && !m.ppsList.isEmpty) = true
    · rcases addTrack_eq_ok ((if_pos hsets).symm.trans hvideo) with
        ⟨hnone, rfl⟩ | ⟨format, track, hsome, hnew, rfl⟩
      · refine ⟨fun t ht => ?_, rfl⟩
        have hformat := (h.video (Option.isSome_iff_exists.mpr ⟨t, ht⟩)).1
        rw [show m.videoFormat = none from hnone] at hformat
        cases hformat
      · refine ⟨fun t ht => ?_, by simp [created]⟩
        have ht : track = t := by simpa using ht
        exact ht ▸ ⟨_, format, hsome, hnew⟩
    · cases (if_neg hsets).symm.trans hvideo
      refine ⟨fun t ht => absurd ?_ hsets, rfl⟩
      simpa using (h.video (Option.isSome_iff_exists.mpr ⟨t, ht⟩)).2
  rcases addTrack_eq_ok haudio with ⟨hnone, rfl⟩ | ⟨format, track, hsome, hnew, rfl⟩
  · intro index t ht
    cases index with
    | VIDEO_TRACK => exact hfirst.1 t ht
    | AUDIO_TRACK =>
      have hstale : m.mp4Movie.get .AUDIO_TRACK = some t := hfirst.2.symm.trans ht
      have hformat := h.audio (Option.isSome_iff_exists.mpr ⟨t, hstale⟩)
      rw [show m.audioFormat = none from hnone] at hformat
      cases hformat
  · intro index t ht
    cases index with
    | VIDEO_TRACK => exact hfirst.1 t (by simpa using ht)
    | AUDIO_TRACK =>
      have ht : track = t := by simpa using ht
      exact ht ▸ ⟨_, format, hsome, hnew⟩

/-! ## The next recording -/

/-- The recorded offsets are the positions at which the frames were written. -/
def TrueOffsets (m : SrsMp4Muxer) (kept : List SrsEsFrame) : Prop :=
  ∀ index t, m.mp4Movie.get index = some t → t.samples = (listed index kept).map sampleOf

/-- The movie has tracks of this recording only: `record` has made them, and their samples
are frames of this recording. -/
def OwnTracks (m m₁ m₂ : SrsMp4Muxer) (kept : List SrsEsFrame) : Prop :=
  ∀ index t, m₂.mp4Movie.get index = some t →
    ∃ t₁ base, m₁.mp4Movie.get index = some t₁ ∧ m.MadeFor index t₁ ∧
      t = addSamples t₁ (callsAt base index kept)

theorem MadeFor.fresh {index : TrackIndex} {t : Track} (h : m.MadeFor index t) :
    Fresh t := by
  obtain ⟨id, format, -, hnew⟩ := h
  exact (fresh_newTrack hnew).1

/-- All offsets are right if and only if nothing is added to them. -/
theorem shifted_eq_iff (base : Int) (frames : List (SrsEsFrame × Nat)) :
    frames.map (shiftedSample base) = frames.map sampleOf ↔ base = 0 ∨ frames = [] := by
  cases frames with
  | nil => simp
  | cons p frames =>
    constructor
    · intro h
      have hoffset : base + p.2 = 0 + p.2 := congrArg Sample.offset (List.cons.inj h).1
      exact .inl (by omega)
    · intro h
      have hbase : base = 0 := h.resolve_right (List.cons_ne_nil _ _)
      rw [hbase]

/-- What a recording leaves, on a muxer whose `recFileSize` was `base`. -/
theorem samples_of_recording {base : Int} {m₁ m₂ : SrsMp4Muxer} {kept : List SrsEsFrame}
    (hmade : ∀ index t, m₁.mp4Movie.get index = some t → m.MadeFor index t)
    (hbefore : Before base m₁ m₂ kept) {index : TrackIndex} {t : Track}
    (ht : m₂.mp4Movie.get index = some t) :
    ∃ t₁, m₁.mp4Movie.get index = some t₁ ∧ m.MadeFor index t₁ ∧
      t = addSamples t₁ (callsAt base index kept) := by
  rcases hbefore with ⟨-, rfl, rfl⟩ | ⟨-, hrec⟩
  · exact ⟨t, ht, hmade index t ht, rfl⟩
  · rw [hrec.track] at ht
    obtain ⟨t₁, ht₁, rfl⟩ := Option.map_eq_some_iff.mp ht
    exact ⟨t₁, ht₁, hmade index t₁ ht₁, rfl⟩

/-- **A recording after failed ones.**  Whatever has failed before, a recording whose
file operations all succeed has tracks of its own only.  Its offsets are right if and
only if `recFileSize` was 0 when it started, or no sample is listed. -/
theorem nextRecording_iff (moov : MovieBox → List UInt8) {m m₁ : SrsMp4Muxer} {path : String}
    (hreach : Reachable moov m)
    (hrecord : (record path).run { m with outcomes := [] } = .ok true m₁)
    (frames : List SrsEsFrame) :
    ∃ kept, kept <+: frames.filter m₁.hasTrack ∧
      (kept ≠ [] → (final (writeFrames frames) m₁).fc =
        some (openAtEnd (fileHead ++ kept.flatMap written))) ∧
      OwnTracks m m₁ (final (writeFrames frames) m₁) kept ∧
      (TrueOffsets (final (writeFrames frames) m₁) kept ↔
        m.recFileSize = 0 ∨
          ∀ index t, (final (writeFrames frames) m₁).mp4Movie.get index = some t →
            t.samples = []) := by
  have htracked : Tracked { m with outcomes := [] } :=
    ⟨hreach.tracked.video, hreach.tracked.audio⟩
  have hmade : ∀ index t, m₁.mp4Movie.get index = some t → m.MadeFor index t :=
    htracked.madeFor_of_record rfl hrecord
  have hopened : Opened m.recFileSize m₁ :=
    opened_of_record (m := { m with outcomes := [] }) rfl hrecord
  obtain ⟨kept, hbefore, hkept, -⟩ := before_final_writeFrames hopened frames
  generalize final (writeFrames frames) m₁ = m₂ at hbefore ⊢
  have hsamples {index : TrackIndex} {t : Track} (ht : m₂.mp4Movie.get index = some t) :
      t.samples = (listed index kept).map (shiftedSample m.recFileSize) := by
    obtain ⟨t₁, -, hmadeFor, rfl⟩ := samples_of_recording hmade hbefore ht
    exact samples_addSamples hmadeFor.fresh.samples hmadeFor.fresh.last _ _ _
  refine ⟨kept, hkept, ?_, ?_, ?_, ?_⟩
  · intro hne
    rcases hbefore with ⟨-, -, hnil⟩ | ⟨-, hrec⟩
    · exact absurd hnil hne
    · exact hrec.fc
  · intro index t ht
    obtain ⟨t₁, ht₁, hmadeFor, heq⟩ := samples_of_recording hmade hbefore ht
    exact ⟨t₁, _, ht₁, hmadeFor, heq⟩
  · intro htrue
    by_cases hbase : m.recFileSize = 0
    · exact .inl hbase
    · refine .inr fun index t ht => ?_
      have heq := (hsamples ht).symm.trans (htrue index t ht)
      have hnil := ((shifted_eq_iff _ _).mp heq).resolve_left hbase
      rw [hsamples ht, hnil]
      rfl
  · intro hcond index t ht
    rw [hsamples ht, shifted_eq_iff]
    cases hcond with
    | inl hbase => exact .inl hbase
    | inr hnone =>
      have hnil := hnone index t ht
      rw [hsamples ht] at hnil
      exact .inr (List.map_eq_nil_iff.mp hnil)

/-! ## A recording that could not be finished -/

/-- A sample with a sequence parameter set. -/
def spsSample : ByteBuffer := .wrap [0, 0, 0, 1, 0x67, 0x42, 0x00, 0x1f]

/-- A sample with a picture parameter set. -/
def ppsSample : ByteBuffer := .wrap [0, 0, 0, 1, 0x68, 0xce]

/-- A key frame of two bytes. -/
def keyFrame : SrsEsFrame := ⟨.wrap [0, 0, 0, 1, 0x65, 0x88], ⟨0, 6, 2000, 1⟩, .VIDEO_TRACK, true⟩

/-- The muxer knows a video format and its parameter sets, and records. -/
def firstRecording : List Call :=
  [.addTrack ⟨"video/avc", 640, 480, 0, 0⟩, .writeSampleData .VIDEO_TRACK spsSample ⟨0, 8, 0, 0⟩,
    .writeSampleData .VIDEO_TRACK ppsSample ⟨0, 6, 0, 0⟩, .record "first.mp4"]

/-- The state after calls whose file operations all succeed. -/
def afterCalls (calls : List Call) : SrsMp4Muxer :=
  calls.foldl (fun m c => final (c.method emptyMoov) { m with outcomes := [] }) {}

theorem reachable_afterCalls (calls : List Call) : Reachable emptyMoov (afterCalls calls) := by
  induction calls using List.reverseRecOn with
  | nil => exact .new
  | append_singleton calls c ih =>
    rw [afterCalls, List.foldl_append]
    exact ih.call c []

/-- `record` on a muxer with a working file system returns `true`. -/
def records (m : SrsMp4Muxer) (path : String) : Bool :=
  match (record path).run { m with outcomes := [] } with
  | .ok result _ => result
  | .error _ _ => false

theorem record_of_records {path : String} (h : m.records path = true) :
    (record path).run { m with outcomes := [] } =
      .ok true (final (record path) { m with outcomes := [] }) := by
  unfold records at h
  unfold final
  cases hrun : (record path).run { m with outcomes := [] } with
  | ok result m₁ =>
    rw [hrun] at h
    show EStateM.Result.ok result m₁ = .ok true m₁
    rw [show result = true from h]
  | error e m₁ =>
    rw [hrun] at h
    cases h

/-- The first recording is stopped in order. -/
theorem trueOffsets_afterStop :
    ∃ m₁ kept, (record "second.mp4").run
        { afterCalls (firstRecording ++ [.stop]) with outcomes := [] } = .ok true m₁ ∧
      TrueOffsets (final (writeFrames [keyFrame]) m₁) kept := by
  have hrecords : (afterCalls (firstRecording ++ [.stop])).records "second.mp4" = true := by
    decide +kernel
  have hzero : (afterCalls (firstRecording ++ [.stop])).recFileSize = 0 := by decide +kernel
  obtain ⟨kept, -, -, -, hiff⟩ := nextRecording_iff emptyMoov (reachable_afterCalls _)
    (record_of_records hrecords) [keyFrame]
  exact ⟨_, kept, record_of_records hrecords, hiff.mpr (.inl hzero)⟩

/-- `stop` with a file whose position cannot be read. -/
def failedStop : SrsMp4Muxer :=
  final (Call.stop.method emptyMoov) { afterCalls firstRecording with outcomes := [.failed 0] }

/-- The second recording writes its key frame at 40 and lists it at 64. -/
theorem not_trueOffsets_failedStop :
    ∃ m₁, Reachable emptyMoov failedStop ∧
      (record "second.mp4").run { failedStop with outcomes := [] } = .ok true m₁ ∧
      (final (writeFrames [keyFrame]) m₁).fc =
        some (openAtEnd (fileHead ++ [keyFrame].flatMap written)) ∧
      fileHead.length = 40 ∧
      ((final (writeFrames [keyFrame]) m₁).mp4Movie.get .VIDEO_TRACK).map Track.samples =
        some [{ offset := 64, size := 6 }] ∧
      ¬ TrueOffsets (final (writeFrames [keyFrame]) m₁) [keyFrame] := by
  have hrecords : failedStop.records "second.mp4" = true := by decide +kernel
  have hlisted : (listed .VIDEO_TRACK [keyFrame]).map sampleOf = [{ offset := 40, size := 6 }] := by
    decide +kernel
  have hsamples : ((final (writeFrames [keyFrame])
      (final (record "second.mp4") { failedStop with outcomes := [] })).mp4Movie.get
        .VIDEO_TRACK).map Track.samples = some [{ offset := 64, size := 6 }] := by decide +kernel
  refine ⟨_, (reachable_afterCalls firstRecording).call .stop [.failed 0],
    record_of_records hrecords, by decide +kernel, by decide +kernel, hsamples, fun htrue => ?_⟩
  obtain ⟨t, ht, hoffset⟩ := Option.map_eq_some_iff.mp hsamples
  have hcontra := (htrue .VIDEO_TRACK t ht).symm.trans hoffset
  rw [hlisted] at hcontra
  revert hcontra
  decide

end MediasoupDemo.Mp4.SrsMp4Muxer
