import MediasoupDemo.Mp4.Recording

/-!
# The states of a muxer between its calls

Any file operation of a recording may fail.  The muxer reports an `IOException` and
goes on, so that the next call starts from whatever the failed one has left.
`Reachable` are the states after any calls, with any outcomes of the file operations.

An invariant of these states is proved from the assignments of the class: `FileStable P`
has one field for each kind of assignment that writing a file makes, `CallStable P` adds
those of the other methods, and `Stable P` the parameter sets, which only the search of a
video sample assigns.  `preserves_call` says that every call then keeps `P`, wherever it
throws.
-/

namespace MediasoupDemo.Mp4.SrsMp4Muxer

open MediasoupDemo.Runtime Method

/-- The calls that a muxer gets, and the steps of its worker. -/
inductive Call where
  | addTrack (format : MediaFormat)
  | writeSampleData (trackIndex : TrackIndex) (bb : ByteBuffer) (bi : BufferInfo)
  | record (path : String)
  | workerStart
  | workerPoll
  | pause
  | resume
  | stop

def Call.method (moov : MovieBox → List UInt8) : Call → Method SrsMp4Muxer Unit
  | addTrack format => do let _ ← SrsMp4Muxer.addTrack format
  | writeSampleData trackIndex bb bi => SrsMp4Muxer.writeSampleData trackIndex bb bi
  | record path => do let _ ← SrsMp4Muxer.record path
  | workerStart => SrsMp4Muxer.workerStart
  | workerPoll => SrsMp4Muxer.workerPoll
  | pause => SrsMp4Muxer.pause
  | resume => SrsMp4Muxer.resume
  | stop => SrsMp4Muxer.stop moov

/-- The states between calls.  The file operations of a call may have any outcomes,
and the call may throw. -/
inductive Reachable (moov : MovieBox → List UInt8) : SrsMp4Muxer → Prop
  | new : Reachable moov {}
  | call {m : SrsMp4Muxer} (h : Reachable moov m) (c : Call) (outcomes : List IoOutcome) :
      Reachable moov (final (c.method moov) { m with outcomes })

/-! ## Assignments -/

/-- `P` survives what the methods that write the file assign. -/
structure FileStable (P : SrsMp4Muxer → Prop) : Prop where
  file : ∀ (m : SrsMp4Muxer) fc outcomes mdat mdatOffset flushBytes events, P m →
    P { m with fc, outcomes, mdat, mdatOffset, flushBytes, events }
  grow : ∀ (m : SrsMp4Muxer) (n : Nat), P m → P { m with recFileSize := m.recFileSize + n }
  addSample : ∀ (m : SrsMp4Muxer) index t bi, m.mp4Movie.get index = some t → P m →
    P { m with mp4Movie := m.mp4Movie.put index (t.addSample m.recFileSize bi) }
  empty : ∀ (m : SrsMp4Muxer), P m → P { m with mp4Movie := {}, recFileSize := 0 }

/-- `P` survives every assignment but those of the parameter sets. -/
structure CallStable (P : SrsMp4Muxer → Prop) : Prop extends FileStable P where
  flags : ∀ (m : SrsMp4Muxer) mRecFile worker bRecording bPaused needToFindKeyFrame aacSpecConfig
    frameCache, P m →
    P { m with
        mRecFile, worker, bRecording, bPaused, needToFindKeyFrame, aacSpecConfig, frameCache }
  videoFormat : ∀ (m : SrsMp4Muxer) format, P m → P { m with videoFormat := some format }
  audioFormat : ∀ (m : SrsMp4Muxer) format, P m → P { m with audioFormat := some format }
  addVideo : ∀ (m : SrsMp4Muxer) format t, m.videoFormat = some format → m.spsList ≠ [] →
    m.ppsList ≠ [] → newTrack m.mp4Movie.size format false m.h264_sps = .ok t → P m →
    P { m with mp4Movie := m.mp4Movie.put .VIDEO_TRACK t }
  addAudio : ∀ (m : SrsMp4Muxer) format t, m.audioFormat = some format →
    newTrack m.mp4Movie.size format true m.h264_sps = .ok t → P m →
    P { m with mp4Movie := m.mp4Movie.put .AUDIO_TRACK t }

/-- `P` survives every assignment of the class. -/
structure Stable (P : SrsMp4Muxer → Prop) : Prop extends CallStable P where
  sps : ∀ (m : SrsMp4Muxer) h264_sps sps, P m → P { m with h264_sps, spsList := [sps] }
  pps : ∀ (m : SrsMp4Muxer) h264_pps pps, P m → P { m with h264_pps, ppsList := [pps] }

/-- A video sample that `writeVideoSample` searches for parameter sets: its fifth byte is none of
a slice. -/
def Searched (bb : ByteBuffer) : Prop :=
  ∃ b, bb.getAt 4 = .ok b ∧ ¬ (b &&& 0x1f = IDR ∨ b &&& 0x1f = NonIDR)

theorem run_writeVideoSample_of_searched {bb : ByteBuffer} (h : Searched bb) (bi : BufferInfo)
    (m : SrsMp4Muxer) :
    (writeVideoSample bb bi).run m = (writeVideoSampleLoop bi bi.size bb).run m := by
  obtain ⟨b, hb, hslice⟩ := h
  rw [writeVideoSample, run_ofExcept_bind hb]
  dsimp only
  rw [if_neg hslice]

/-- The calls that search a sample. -/
def Call.Searches : Call → Prop
  | writeSampleData .VIDEO_TRACK bb _ => Searched bb
  | _ => False

theorem final_writeFrameByte_eq (m : SrsMp4Muxer) (f : SrsEsFrame) :
    final (writeFrameByte f.track f.bb f.bi f.isKeyFrame) m =
      if m.bRecording && !m.bPaused then
        if m.needToFindKeyFrame then
          if f.isKeyFrame then
            { m with needToFindKeyFrame := false, frameCache := m.frameCache ++ [f] }
          else m
        else { m with frameCache := m.frameCache ++ [f] }
      else m := by
  unfold writeFrameByte
  rw [final_get_bind]
  split_ifs <;> rfl

/-! ## The methods that write the file -/

variable (moov : MovieBox → List UInt8)

namespace FileStable

variable {P : SrsMp4Muxer → Prop} (hP : FileStable P)
include hP

theorem notify (event : RecordEvent) : Preserves P (notify event) :=
  preserves_modify fun m => hP.file m _ _ _ _ _ _

theorem channel {α : Type}
    (operation : FileChannel → IoOutcome → Except JavaException α × FileChannel) :
    Preserves P (channel operation) := by
  refine preserves_get_bind fun m h => ?_
  split
  · exact h
  · exact preserves_ofExcept _ _ (hP.file m _ _ _ _ _ _ h)

omit hP in
theorem getMdat : Preserves P getMdat := by
  refine preserves_get_bind fun m h => ?_
  split <;> exact h

theorem writeMdatHeader (contentSize : Int) : Preserves P (writeMdatHeader contentSize) := by
  refine getMdat.bind fun mdat => Preserves.bind ?_ fun _ => ?_
  · exact preserves_modify fun m => hP.file m _ _ _ _ _ _
  · exact ((hP.channel _).bind fun _ => preserves_pure _).catchIoException fun _ => hP.notify _

theorem grow_fileTypeBox (m : SrsMp4Muxer) (h : P m) :
    P { m with recFileSize := m.recFileSize + createFileTypeBox.getSize } := by
  rw [← createFileTypeBox_getBox_length]
  exact hP.grow m _ h

theorem createMovie : Preserves P createMovie := by
  refine Preserves.catchIoException ?_ fun _ => hP.notify _
  refine preserves_get_bind fun m h => ?_
  split
  · exact hP.file m _ _ _ _ _ _ h
  · rw [final_set_bind]
    refine Preserves.final_of ?_ (hP.file m _ _ _ _ _ _ h)
    exact (hP.channel _).bind fun _ => preserves_modify hP.grow_fileTypeBox

theorem openMdat : Preserves P openMdat := by
  refine getMdat.bind fun mdat => ?_
  split
  · refine (hP.writeMdatHeader 0).bind fun _ => preserves_modify fun m h => ?_
    exact hP.file _ _ _ _ _ _ _ (hP.grow m InterleaveChunkMdat.getHeaderSize h)
  · exact preserves_pure _

theorem writeLength (bi : BufferInfo) (isAudio : Bool) : Preserves P (writeLength bi isAudio) := by
  unfold SrsMp4Muxer.writeLength
  split
  · exact preserves_pure _
  · exact (hP.channel _).bind fun written => preserves_modify fun m => hP.grow m written

theorem writeSampleBytes (trackIndex : TrackIndex) (bb : ByteBuffer) (bi : BufferInfo)
    (isAudio : Bool) : Preserves P (writeSampleBytes trackIndex bb bi isAudio) := by
  refine preserves_get_bind fun m h => ?_
  cases htrack : m.mp4Movie.get trackIndex with
  | none =>
    have hadd : m.mp4Movie.addSample trackIndex m.recFileSize bi = .error .nullPointer := by
      simp [Mp4Movie.addSample, htrack, throw, throwThe, MonadExceptOf.throw]
    rw [final_of_error (run_ofExcept_bind_error hadd _ _)]
    exact h
  | some t =>
    have hadd : m.mp4Movie.addSample trackIndex m.recFileSize bi =
        .ok (m.mp4Movie.put trackIndex (t.addSample m.recFileSize bi)) := by
      simp [Mp4Movie.addSample, htrack, pure, Except.pure]
    rw [final_ofExcept_bind hadd, final_set_bind]
    refine Preserves.final_of ?_ (hP.addSample m trackIndex t bi htrack h)
    refine (preserves_ofExcept _).bind fun _ => (preserves_ofExcept _).bind fun _ =>
      (hP.writeLength bi isAudio).bind fun _ => (hP.channel _).bind fun writeBytes =>
        preserves_modify fun m h => ?_
    exact hP.file _ _ _ _ _ _ _ (hP.grow m writeBytes h)

theorem writeFrame (frame : SrsEsFrame) : Preserves P (writeFrame frame) := by
  refine preserves_get_bind fun m h => ?_
  split
  · exact h
  · exact (hP.openMdat.bind fun _ => hP.writeSampleBytes _ _ _ _).catchIoException
      (fun _ => hP.notify _) m h

theorem completeMdat : Preserves P completeMdat := by
  refine getMdat.bind fun mdat => ?_
  split
  · refine (hP.channel _).bind fun oldPosition => preserves_get_bind fun m h => ?_
    refine Preserves.final_of ?_ h
    exact (hP.channel _).bind fun _ => (hP.writeMdatHeader _).bind fun _ =>
      (hP.channel _).bind fun _ => preserves_modify fun m => hP.file m _ _ _ _ _ _
  · exact preserves_pure _

theorem finishMovie : Preserves P (finishMovie moov) := by
  have hclose : Preserves P (closeMovie moov) := by
    refine preserves_get_bind fun m h => ?_
    refine Preserves.final_of ?_ h
    refine (hP.channel _).bind fun _ => (hP.channel _).bind fun _ => (hP.channel _).bind fun _ =>
      preserves_modify fun m h => ?_
    exact hP.file _ _ _ _ _ _ _ (hP.empty m h)
  refine Preserves.catchIoException ?_ fun _ => hP.notify _
  exact (preserves_modify fun m => hP.file m _ _ _ _ _ _).bind fun _ =>
    hP.completeMdat.bind fun _ => hclose

end FileStable

/-! ## The methods that do not search a sample -/

namespace CallStable

variable {P : SrsMp4Muxer → Prop} (hP : CallStable P)
include hP

theorem writeFrameByte (track : TrackIndex) (bb : ByteBuffer) (bi : BufferInfo)
    (isKeyFrame : Bool) : Preserves P (writeFrameByte track bb bi isKeyFrame) := by
  unfold SrsMp4Muxer.writeFrameByte
  refine preserves_get_bind fun m h => ?_
  split_ifs
  · exact hP.flags m _ _ _ _ _ _ _ h
  · exact h
  · exact hP.flags m _ _ _ _ _ _ _ h
  · exact h

/-- A sample that is not searched is queued, or has no fifth byte. -/
theorem writeVideoSample {bb : ByteBuffer} (hbb : ¬ Searched bb) (bi : BufferInfo) :
    Preserves P (writeVideoSample bb bi) := by
  intro m h
  rw [SrsMp4Muxer.writeVideoSample]
  cases hb : bb.getAt 4 with
  | error e =>
    rw [final_of_error (run_ofExcept_bind_error rfl _ _)]
    exact h
  | ok b =>
    have hslice : b &&& 0x1f = IDR ∨ b &&& 0x1f = NonIDR := by
      by_contra hslice
      exact hbb ⟨b, hb, hslice⟩
    rw [final_ofExcept_bind rfl]
    dsimp only
    rw [if_pos hslice]
    exact hP.writeFrameByte _ _ _ _ m h

theorem writeAudioSample (bb : ByteBuffer) (bi : BufferInfo) :
    Preserves P (writeAudioSample bb bi) := by
  refine preserves_get_bind fun m h => ?_
  split
  · exact hP.flags m _ _ _ _ _ _ _ h
  · exact hP.writeFrameByte _ _ _ _ m h

/-- A track that `record` adds. -/
theorem addTrack {m : SrsMp4Muxer} (h : P m) {format : Option MediaFormat} {isAudio : Bool}
    {movie : Mp4Movie} (hadd : m.mp4Movie.addTrack format isAudio m.h264_sps = .ok movie)
    (hvideo : isAudio = false → format = m.videoFormat ∧ m.spsList ≠ [] ∧ m.ppsList ≠ [])
    (haudio : isAudio = true → format = m.audioFormat) : P { m with mp4Movie := movie } := by
  rcases addTrack_eq_ok hadd with ⟨-, rfl⟩ | ⟨format', track, rfl, hnew, rfl⟩
  · exact h
  · cases isAudio with
    | true => exact hP.addAudio m format' track (haudio rfl).symm hnew h
    | false =>
      obtain ⟨hformat, hsps, hpps⟩ := hvideo rfl
      exact hP.addVideo m format' track hformat.symm hsps hpps hnew h

/-- The tracks that `record` adds have their formats. -/
theorem addTracks : Preserves P addTracks := by
  refine preserves_get_bind fun m h => ?_
  -- Only the movie changes from here on.
  let Adding : SrsMp4Muxer → Prop := fun s => P s ∧ ∃ movie, s = { m with mp4Movie := movie }
  have hadd (format : Option MediaFormat) (isAudio : Bool)
      (hvideo : isAudio = false → format = m.videoFormat ∧ m.spsList ≠ [] ∧ m.ppsList ≠ [])
      (haudio : isAudio = true → format = m.audioFormat) :
      Preserves Adding (movieAddTrack format isAudio) := by
    refine preserves_get_bind fun s hs => ?_
    cases hmovie : s.mp4Movie.addTrack format isAudio s.h264_sps with
    | error e =>
      rw [final_of_error (run_ofExcept_bind_error rfl _ _)]
      exact hs
    | ok movie =>
      obtain ⟨hkept, movie', rfl⟩ := hs
      exact ⟨hP.addTrack hkept hmovie hvideo haudio, movie, rfl⟩
  have hsecond := hadd m.audioFormat true (fun hf => by cases hf) fun _ => rfl
  have hstart : Adding m := ⟨h, m.mp4Movie, rfl⟩
  split
  · rename_i hsets
    have hsets : m.spsList ≠ [] ∧ m.ppsList ≠ [] := by simpa using hsets
    have hfirst := hadd m.videoFormat false (fun _ => ⟨rfl, hsets⟩) fun ht => by cases ht
    exact ((hfirst.bind fun _ => hsecond) m hstart).1
  · exact (hsecond m hstart).1

theorem record (path : String) : Preserves P (record path) := by
  refine preserves_get_bind fun m h => ?_
  split
  · exact h
  · rw [final_set_bind]
    refine Preserves.final_of ?_ (hP.flags m _ _ _ _ _ _ _ h)
    refine hP.createMovie.bind fun _ => (hP.notify _).bind fun _ =>
      hP.addTracks.bind fun _ => Preserves.bind ?_ fun _ => preserves_pure _
    exact preserves_modify fun m => hP.flags m _ _ _ _ _ _ _

theorem preserves_call {c : Call} (hc : ¬ c.Searches) :
    Preserves P (c.method moov) := by
  cases c with
  | addTrack format =>
    refine Preserves.bind ?_ fun _ => preserves_pure _
    unfold SrsMp4Muxer.addTrack
    split
    · exact Preserves.bind (preserves_modify fun m => hP.videoFormat m format)
        fun _ => preserves_pure _
    · exact Preserves.bind (preserves_modify fun m => hP.audioFormat m format)
        fun _ => preserves_pure _
  | writeSampleData trackIndex bb bi =>
    cases trackIndex with
    | VIDEO_TRACK => exact hP.writeVideoSample hc bi
    | AUDIO_TRACK => exact hP.writeAudioSample bb bi
  | record path => exact (hP.record path).bind fun _ => preserves_pure _
  | workerStart => exact preserves_modify fun m => hP.flags m _ _ _ _ _ _ _
  | workerPoll =>
    refine preserves_get_bind fun m h => ?_
    split
    · exact h
    · rw [final_set_bind]
      exact (hP.writeFrame _).final_of (hP.flags m _ _ _ _ _ _ _ h)
  | pause | resume =>
    refine preserves_get_bind fun m h => ?_
    split
    · refine Preserves.final_of (Preserves.bind ?_ fun _ => hP.notify _) h
      exact preserves_modify fun m => hP.flags m _ _ _ _ _ _ _
    · exact h
  | stop =>
    refine Preserves.bind ?_ fun _ => preserves_get_bind fun m h => ?_
    · exact preserves_modify fun m => hP.flags m _ _ _ _ _ _ _
    · split
      · refine Preserves.final_of ?_ h
        refine Preserves.bind ?_ fun _ => (hP.finishMovie moov).bind fun _ =>
          preserves_get_bind fun s hs => (hP.notify _).final_of hs
        exact preserves_modify fun m => hP.flags m _ _ _ _ _ _ _
      · exact h

end CallStable

/-! ## All methods -/

namespace Stable

variable {P : SrsMp4Muxer → Prop} (hP : Stable P)
include hP

theorem annexbDemux (bb : ByteBuffer) (bi : BufferInfo) : Preserves P (annexbDemux bb bi) := by
  unfold SrsMp4Muxer.annexbDemux
  split
  · refine (preserves_ofExcept _).bind fun tbbsc => Preserves.bind ?_ fun _ => ?_
    · unfold checkStartCode
      split
      · exact hP.notify _
      · exact preserves_pure _
    · exact (preserves_ofExcept _).bind fun _ => (preserves_ofExcept _).bind fun _ =>
        preserves_pure _
  · exact preserves_pure _

theorem takeParameterSet (frame : SrsEsFrameBytes) : Preserves P (takeParameterSet frame) := by
  unfold SrsMp4Muxer.takeParameterSet
  refine (preserves_ofExcept _).bind fun sps => ?_
  split
  · refine preserves_get_bind fun m h => ?_
    refine (preserves_ofExcept _).bind (fun copy => ?_) m h
    split
    · exact preserves_pure _
    · exact preserves_modify fun m => hP.sps m _ _
  · refine (preserves_ofExcept _).bind fun pps => ?_
    split
    · refine preserves_get_bind fun m h => ?_
      refine (preserves_ofExcept _).bind (fun copy => ?_) m h
      split
      · exact preserves_pure _
      · exact preserves_modify fun m => hP.pps m _ _
    · exact preserves_pure _

theorem writeVideoSampleLoop (bi : BufferInfo) (turns : Nat) :
    ∀ bb, Preserves P (writeVideoSampleLoop bi turns bb) := by
  induction turns with
  | zero => exact fun _ => preserves_pure _
  | succ turns ih =>
    intro bb
    unfold SrsMp4Muxer.writeVideoSampleLoop
    split
    · exact (hP.annexbDemux bb bi).bind fun next =>
        (hP.takeParameterSet next.1).bind fun _ => ih next.2
    · exact preserves_pure _

theorem preserves_call (c : Call) :
    Preserves P (c.method moov) := by
  by_cases hc : c.Searches
  · cases c with
    | writeSampleData trackIndex bb bi =>
      cases trackIndex with
      | VIDEO_TRACK =>
        intro m h
        show P (final (writeVideoSample bb bi) m)
        rw [final, run_writeVideoSample_of_searched hc]
        exact hP.writeVideoSampleLoop _ _ _ m h
      | AUDIO_TRACK => exact hc.elim
    | addTrack | record | workerStart | workerPoll | pause | resume | stop => exact hc.elim
  · exact hP.toCallStable.preserves_call moov hc

/-- An invariant holds in every reachable state. -/
theorem reachable (hnew : P {}) {moov : MovieBox → List UInt8} {m : SrsMp4Muxer}
    (h : Reachable moov m) : P m := by
  induction h with
  | new => exact hnew
  | call _ c outcomes ih =>
    exact hP.preserves_call moov c _ (hP.file _ _ outcomes _ _ _ _ ih)

end Stable

/-! ## The places of the samples -/

/-- Nothing lies before the start of the file. -/
structure Placed (m : SrsMp4Muxer) : Prop where
  recFileSize : 0 ≤ m.recFileSize
  samples : ∀ index t, m.mp4Movie.get index = some t → ∀ s ∈ t.samples, 0 ≤ s.offset

variable {m : SrsMp4Muxer} {t : Track}

theorem Placed.put (h : Placed m) (index : TrackIndex) (ht : ∀ s ∈ t.samples, 0 ≤ s.offset) :
    Placed { m with mp4Movie := m.mp4Movie.put index t } := by
  refine ⟨h.recFileSize, fun other t' hget => ?_⟩
  have hget : (if index = other then some t else m.mp4Movie.get other) = some t' :=
    (Mp4Movie.get_put _ _ _ _).symm.trans hget
  by_cases hindex : index = other
  · rw [if_pos hindex] at hget
    cases hget
    exact ht
  · rw [if_neg hindex] at hget
    exact h.samples other t' hget

theorem Placed.put_new (h : Placed m) (index : TrackIndex) {id : Nat} {format : MediaFormat}
    {isAudio : Bool} {h264_sps : Option ByteBuffer}
    (hnew : newTrack id format isAudio h264_sps = .ok t) :
    Placed { m with mp4Movie := m.mp4Movie.put index t } := by
  refine h.put index fun s hs => ?_
  rw [(fresh_newTrack hnew).1.samples] at hs
  cases hs

theorem Placed.addSample (h : Placed m) {index : TrackIndex}
    (htrack : m.mp4Movie.get index = some t) (bi : BufferInfo) :
    Placed { m with mp4Movie := m.mp4Movie.put index (t.addSample m.recFileSize bi) } := by
  refine h.put index fun s hs => ?_
  cases haccepts : t.accepts bi with
  | false =>
    rw [Track.addSample_of_refused haccepts] at hs
    exact h.samples index t htrack s hs
  | true =>
    rw [Track.addSample_samples haccepts] at hs
    rcases List.mem_append.mp hs with hold | hnew
    · exact h.samples index t htrack s hold
    · rw [List.mem_singleton.mp hnew]
      exact h.recFileSize

theorem stable_placed : Stable Placed where
  file := fun _ _ _ _ _ _ _ h => ⟨h.recFileSize, h.samples⟩
  grow := fun m n h => by
    refine ⟨?_, h.samples⟩
    have := h.recFileSize
    show 0 ≤ m.recFileSize + n
    omega
  addSample := fun _ _ _ bi htrack h => h.addSample htrack bi
  empty := fun _ _ => by
    refine ⟨Int.le_refl 0, fun index t hget => ?_⟩
    cases index <;> cases hget
  flags := fun _ _ _ _ _ _ _ _ h => ⟨h.recFileSize, h.samples⟩
  videoFormat := fun _ _ h => ⟨h.recFileSize, h.samples⟩
  audioFormat := fun _ _ h => ⟨h.recFileSize, h.samples⟩
  sps := fun _ _ _ h => ⟨h.recFileSize, h.samples⟩
  pps := fun _ _ _ h => ⟨h.recFileSize, h.samples⟩
  addVideo := fun _ _ _ _ _ _ hnew h => h.put_new .VIDEO_TRACK hnew
  addAudio := fun _ _ _ _ hnew h => h.put_new .AUDIO_TRACK hnew

theorem Reachable.placed {moov : MovieBox → List UInt8} (h : Reachable moov m) : Placed m := by
  refine stable_placed.reachable ⟨Int.le_refl 0, fun index t hget => ?_⟩ h
  cases index <;> cases hget

end MediasoupDemo.Mp4.SrsMp4Muxer
