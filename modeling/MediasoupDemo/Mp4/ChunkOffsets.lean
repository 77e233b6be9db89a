import MediasoupDemo.Mp4.ChunkTables
import MediasoupDemo.Mp4.Failures

/-!
# The chunk offsets in the file

`createStco` computes the chunk offsets as `long` values, and `StaticChunkOffsetBox`
writes the low 32 bits of each.  The `mdat` box changes to a 64-bit size when its content
gets that long, but the muxer never changes to a `co64` box.

* `readChunkOffsets_getContent` says what a reader finds in the box, for any offsets.
* `Placed` is what all recordings keep: no file size and no offset is negative.
* `exists_longRecording` follows a recording of any length to the offset of its last
  frame.  Behind 4 GiB of video that offset needs more than 32 bits.
-/

namespace MediasoupDemo.Mp4

open ByteCodec ByteFile MediasoupDemo.Runtime

/-! ## The box -/

/-- `StaticChunkOffsetBox.getContent`: version and flags, the number of entries, and
`writeUInt32` of each offset. -/
def StaticChunkOffsetBox.getContent (chunkOffsets : List Int) : List UInt8 :=
  putInt 0 ++ putInt chunkOffsets.length ++ chunkOffsets.flatMap putInt

/-- The next unsigned 32-bit numbers. -/
def readUInt32s : (count : Nat) → List UInt8 → List Int
  | 0, _ => []
  | count + 1, bytes => (beNat (bytes.take 4) : Int) :: readUInt32s count (bytes.drop 4)

/-- The chunk offsets that a reader finds in the content of an `stco` box: the number of
entries, and that many unsigned 32-bit numbers. -/
def readChunkOffsets (content : List UInt8) : List Int :=
  readUInt32s (beNat ((content.drop 4).take 4)) (content.drop 8)

/-- `putInt` writes the low 32 bits. -/
theorem beNat_putInt (x : Int) : (beNat (putInt x) : Int) = x % 2 ^ 32 := by
  have hpos := Int.emod_nonneg x (b := 2 ^ 32) (by decide)
  have hlt := Int.emod_lt_of_pos x (b := 2 ^ 32) (by decide)
  rw [putInt, beNat_beBytes_of_lt (by omega)]
  omega

theorem readUInt32s_flatMap (values : List Int) (count : Nat) (h : count ≤ values.length) :
    readUInt32s count (values.flatMap putInt) = (values.take count).map (· % 2 ^ 32) := by
  induction values generalizing count with
  | nil =>
    obtain rfl : count = 0 := by simpa using h
    rfl
  | cons value values ih =>
    cases count with
    | zero => rfl
    | succ count =>
      have htake : (putInt value ++ values.flatMap putInt).take 4 = putInt value :=
        List.take_left' (putInt_length _)
      have hdrop : (putInt value ++ values.flatMap putInt).drop 4 = values.flatMap putInt :=
        List.drop_left' (putInt_length _)
      rw [List.flatMap_cons, readUInt32s, htake, hdrop, beNat_putInt,
        ih count (by simpa using h)]
      rfl

/-- The number of entries is cut to 32 bits as well. -/
theorem readChunkOffsets_getContent (offsets : List Int) :
    readChunkOffsets (StaticChunkOffsetBox.getContent offsets) =
      (offsets.take (offsets.length % 2 ^ 32)).map (· % 2 ^ 32) := by
  have hflags : (StaticChunkOffsetBox.getContent offsets).drop 4 =
      putInt offsets.length ++ offsets.flatMap putInt := by
    rw [StaticChunkOffsetBox.getContent, List.append_assoc]
    exact List.drop_left' (putInt_length _)
  have hentries : (StaticChunkOffsetBox.getContent offsets).drop 8 = offsets.flatMap putInt :=
    List.drop_left' (by simp)
  have hcount : beNat (putInt offsets.length) = offsets.length % 2 ^ 32 := by
    have := beNat_putInt offsets.length
    omega
  rw [readChunkOffsets, hflags, hentries, List.take_left' (putInt_length _), hcount]
  exact readUInt32s_flatMap offsets _ (Nat.mod_le _ _)

/-- A reader finds the offsets if and only if they, and their number, fit 32 bits. -/
theorem readChunkOffsets_eq_iff {offsets : List Int} (hpos : ∀ offset ∈ offsets, 0 ≤ offset) :
    readChunkOffsets (StaticChunkOffsetBox.getContent offsets) = offsets ↔
      offsets.length < 2 ^ 32 ∧ ∀ offset ∈ offsets, offset < 2 ^ 32 := by
  rw [readChunkOffsets_getContent]
  have hmod := Nat.mod_lt offsets.length (show 2 ^ 32 > 0 by decide)
  constructor
  · intro h
    have hlength := congrArg List.length h
    rw [List.length_map, List.length_take] at hlength
    have hlt : offsets.length < 2 ^ 32 := by omega
    rw [Nat.mod_eq_of_lt hlt, List.take_length] at h
    refine ⟨hlt, fun offset hmem => ?_⟩
    have heq : offset % 2 ^ 32 = offset := by
      have hall := List.map_inj_left.mp (h.trans (List.map_id offsets).symm)
      exact hall offset hmem
    omega
  · rintro ⟨hlt, hfit⟩
    rw [Nat.mod_eq_of_lt hlt, List.take_length]
    conv_rhs => rw [← List.map_id offsets]
    refine List.map_congr_left fun offset hmem => ?_
    exact Int.emod_eq_of_lt (hpos offset hmem) (hfit offset hmem)

namespace SrsMp4Muxer

open Method

/-! ## All recordings -/

variable {m : SrsMp4Muxer} {t : Track}

/-- The content of the `stco` box of a track, in the `moov` box that `finishMovie` writes. -/
def stcoContent (m : SrsMp4Muxer) (t : Track) : List UInt8 :=
  StaticChunkOffsetBox.getContent
    (createTrackBox t m.mp4Movie m.spsList m.ppsList).stbl.stco

theorem mem_chunks_offset (hpos : ∀ s ∈ t.samples, 0 ≤ s.offset) {chunk : List Sample}
    (h : chunk ∈ t.chunks) : 0 ≤ chunkOffset chunk := by
  cases chunk with
  | nil => exact Int.le_refl 0
  | cons s chunk =>
    refine hpos s ?_
    rw [← List.flatten_splitBy contiguous t.samples]
    exact List.mem_flatten.mpr ⟨_, h, List.mem_cons_self⟩

/-- **The chunk offsets in the file.**  For every recording, whatever its file operations
did: the offsets that a reader finds in the `stco` box of a track are those of its chunks
if and only if all of them are below 4 GiB, and there are fewer than 2^32 of them. -/
theorem chunkOffsets_iff (moov : MovieBox → List UInt8) {m : SrsMp4Muxer}
    (hreach : Reachable moov m) {index : TrackIndex} {t : Track}
    (ht : m.mp4Movie.get index = some t) :
    readChunkOffsets (m.stcoContent t) = t.chunks.map chunkOffset ↔
      t.chunks.length < 2 ^ 32 ∧ ∀ chunk ∈ t.chunks, chunkOffset chunk < 2 ^ 32 := by
  have hpos := hreach.placed.samples index t ht
  have hstco : (createTrackBox t m.mp4Movie m.spsList m.ppsList).stbl.stco =
      t.chunks.map chunkOffset :=
    createStco_eq t hpos
  have hoffsets : ∀ offset ∈ t.chunks.map chunkOffset, 0 ≤ offset := by
    intro offset hmem
    obtain ⟨chunk, hchunk, rfl⟩ := List.mem_map.mp hmem
    exact mem_chunks_offset hpos hchunk
  rw [stcoContent, hstco, readChunkOffsets_eq_iff hoffsets, List.length_map, List.forall_mem_map]

/-! ## A recording of any length -/

/-- The muxer queues every sample. -/
structure Listening (m : SrsMp4Muxer) : Prop where
  bRecording : m.bRecording = true
  bPaused : m.bPaused = false
  needToFindKeyFrame : m.needToFindKeyFrame = false
  aacSpecConfig : m.aacSpecConfig = true
  frameCache : m.frameCache = []

theorem fileStable_listening : FileStable Listening where
  file := fun _ _ _ _ _ _ _ h => ⟨h.1, h.2, h.3, h.4, h.5⟩
  grow := fun _ _ h => ⟨h.1, h.2, h.3, h.4, h.5⟩
  addSample := fun _ _ _ _ _ h => ⟨h.1, h.2, h.3, h.4, h.5⟩
  empty := fun _ h => ⟨h.1, h.2, h.3, h.4, h.5⟩

/-- A sample that becomes the frame: an IDR slice behind a start code of four bytes, or an
audio sample. -/
def SampleOf (f : SrsEsFrame) : Prop :=
  (f.track = .VIDEO_TRACK ∧ f.isKeyFrame = true ∧ ∃ b, f.bb.getAt 4 = .ok b ∧ b &&& 0x1f = IDR) ∨
    (f.track = .AUDIO_TRACK ∧ f.isKeyFrame = false)

/-- A key frame opens the gate, and any frame passes the open gate. -/
theorem final_writeFrameByte (f : SrsEsFrame)
    (hlisten : Listening { m with needToFindKeyFrame := false })
    (hgate : m.needToFindKeyFrame = true → f.isKeyFrame = true) :
    final (writeFrameByte f.track f.bb f.bi f.isKeyFrame) m =
      { m with needToFindKeyFrame := false, frameCache := [f] } := by
  have hrec : m.bRecording = true := hlisten.bRecording
  have hpaused : m.bPaused = false := hlisten.bPaused
  have hcache : m.frameCache = [] := hlisten.frameCache
  rw [final_writeFrameByte_eq, hrec, hpaused, hcache]
  cases hneed : m.needToFindKeyFrame with
  | true => simp [hgate hneed]
  | false => simp [← hneed]

theorem final_writeSampleData {f : SrsEsFrame} (hsample : SampleOf f)
    (hlisten : Listening { m with needToFindKeyFrame := false })
    (hgate : m.needToFindKeyFrame = true → f.isKeyFrame = true) :
    final (writeSampleData f.track f.bb f.bi) m =
      { m with needToFindKeyFrame := false, frameCache := [f] } := by
  have hbyte := final_writeFrameByte f hlisten hgate
  rcases hsample with ⟨htrack, hkey, b, hb, hidr⟩ | ⟨htrack, hkey⟩
  · rw [htrack, hkey] at hbyte
    rw [htrack]
    show final (writeVideoSample f.bb f.bi) m = _
    rw [writeVideoSample, final_ofExcept_bind hb, hidr]
    exact hbyte
  · rw [htrack, hkey] at hbyte
    rw [htrack]
    show final (writeAudioSample f.bb f.bi) m = _
    have hconfig : m.aacSpecConfig = true := hlisten.aacSpecConfig
    rw [writeAudioSample, final_get_bind, if_neg (by simp [hconfig])]
    exact hbyte

section Long

variable {moov : MovieBox → List UInt8} {base : Int} {m₁ m : SrsMp4Muxer} {f : SrsEsFrame}

/-- A sample is queued, and the worker writes it. -/
theorem Reachable.writeFrame (h : Reachable moov m) (hout : m.outcomes = []) (hsample : SampleOf f)
    (hlisten : Listening { m with needToFindKeyFrame := false })
    (hgate : m.needToFindKeyFrame = true → f.isKeyFrame = true) :
    Reachable moov (final (writeFrame f) { m with needToFindKeyFrame := false }) := by
  have hcache : m.frameCache = [] := hlisten.frameCache
  have hqueued := h.call (.writeSampleData f.track f.bb f.bi) []
  have hbefore : { m with outcomes := [] } = m := by rw [← hout]
  rw [hbefore] at hqueued
  have hwritten := hqueued.call .workerPoll []
  have hafter : { m with needToFindKeyFrame := false, frameCache := [], outcomes := [] } =
      { m with needToFindKeyFrame := false } := by rw [← hcache, ← hout]
  have hpoll : final workerPoll
      { m with needToFindKeyFrame := false, frameCache := [f], outcomes := [] } =
        final (SrsMp4Muxer.writeFrame f) { m with needToFindKeyFrame := false } := by
    rw [← hafter]
    rfl
  rw [← hpoll]
  rw [show final (Call.method moov (.writeSampleData f.track f.bb f.bi)) m =
    { m with needToFindKeyFrame := false, frameCache := [f] } from
      final_writeSampleData hsample hlisten hgate] at hwritten
  exact hwritten

theorem Before.outcomes {kept : List SrsEsFrame} (h : Before base m₁ m kept) :
    m.outcomes = [] := by
  rcases h with ⟨hopened, rfl, -⟩ | ⟨-, hrec⟩
  · exact hopened.outcomes
  · exact hrec.outcomes

theorem Before.writeFrame {kept : List SrsEsFrame} (h : Before base m₁ m kept) (hfits : f.Fits)
    (htrack : m₁.hasTrack f = true) :
    Before base m₁ (final (writeFrame f) m) (kept ++ [f]) := by
  obtain ⟨m', hrec, hrun⟩ := writeFrame_kept h htrack
  refine .inr ⟨by simp, ?_⟩
  rcases hrun with hok | ⟨hnot, -⟩
  · rwa [final, hok]
  · exact absurd hfits hnot

/-- All frames of a recording can be written, however many there are. -/
theorem Reachable.writeFrames (frames : List SrsEsFrame)
    (hframes : ∀ f ∈ frames, f.Fits ∧ SampleOf f ∧ m₁.hasTrack f = true) :
    ∀ {m : SrsMp4Muxer} {kept : List SrsEsFrame}, Reachable moov m → Listening m →
      Before base m₁ m kept → ∃ m', Reachable moov m' ∧ Before base m₁ m' (kept ++ frames) := by
  induction frames with
  | nil =>
    intro m kept h _ hbefore
    exact ⟨m, h, by rwa [List.append_nil]⟩
  | cons f frames ih =>
    intro m kept h hlisten hbefore
    obtain ⟨hfits, hsample, htrack⟩ := hframes f List.mem_cons_self
    have hsame : { m with needToFindKeyFrame := false } = m := by rw [← hlisten.needToFindKeyFrame]
    have hopen (hneed : m.needToFindKeyFrame = true) : f.isKeyFrame = true := by
      rw [hlisten.needToFindKeyFrame] at hneed
      cases hneed
    have hnext := h.writeFrame hbefore.outcomes hsample (hsame.symm ▸ hlisten) hopen
    rw [hsame] at hnext
    obtain ⟨m', hreach, hlast⟩ := ih (fun g hg => hframes g (List.mem_cons_of_mem f hg)) hnext
      (fileStable_listening.writeFrame f m hlisten) (hbefore.writeFrame hfits htrack)
    exact ⟨m', hreach, by simpa using hlast⟩

end Long

/-- An IDR slice of `n` bytes behind its header. -/
def idrSlice (n : Nat) : SrsEsFrame :=
  ⟨.wrap ([0, 0, 0, 1, 0x65] ++ List.replicate n 0), ⟨0, n + 5, 0, 1⟩, .VIDEO_TRACK, true⟩

theorem fits_idrSlice (n : Nat) : (idrSlice n).Fits := by
  refine ⟨?_, fun _ => ?_⟩
  · simp [idrSlice, ByteBuffer.wrap]
  · show 4 ≤ n + 5
    omega

theorem sampleOf_idrSlice (n : Nat) : SampleOf (idrSlice n) :=
  .inl ⟨rfl, rfl, 0x65, by simp [idrSlice, ByteBuffer.wrap, ByteBuffer.getAt, pure, Except.pure],
    by decide⟩

theorem length_written_idrSlices (n count : Nat) :
    ((List.replicate count (idrSlice n)).flatMap written).length = count * (n + 5) := by
  have hlength : (written (idrSlice n)).length = n + 5 := by
    rw [(written_of_fits (fits_idrSlice n)).2, SrsEsFrame.payload_length (fits_idrSlice n)]
    rfl
  rw [List.length_flatMap, List.map_replicate, hlength]
  simp

/-- An audio frame behind video frames is listed where they end. -/
theorem listed_audio_last (slices : List SrsEsFrame)
    (hvideo : ∀ f ∈ slices, f.track = .VIDEO_TRACK) :
    listed .AUDIO_TRACK (slices ++ [audioFrame]) =
      [(audioFrame, fileHead.length + (slices.flatMap written).length)] := by
  have hnone : (place written fileHead.length slices).filter (·.1.track = .AUDIO_TRACK) = [] := by
    refine List.filter_eq_nil_iff.mpr fun p hp => ?_
    have hmem : p.1 ∈ slices := by
      rw [← place_map_fst written fileHead.length slices]
      exact List.mem_map_of_mem hp
    simp [hvideo p.1 hmem]
  rw [listed, place_concat, List.filter_append, hnone, List.nil_append]
  rfl

/-- A muxer with both formats that records and has seen the audio configuration. -/
def bothRecording : SrsMp4Muxer :=
  afterCalls
    [.addTrack ⟨"video/avc", 640, 480, 0, 0⟩, .addTrack ⟨"audio/mp4a-latm", 0, 0, 2, 44100⟩,
      .writeSampleData .VIDEO_TRACK spsSample ⟨0, 8, 0, 0⟩,
      .writeSampleData .VIDEO_TRACK ppsSample ⟨0, 6, 0, 0⟩, .record "long.mp4", .workerStart,
      .writeSampleData .AUDIO_TRACK (.wrap [0x12, 0x10]) ⟨0, 2, 0, 0⟩]

/-- A recording of IDR slices and an audio frame: the audio frame lies behind all of
them. -/
theorem exists_longRecording (n count : Nat) :
    ∃ m t, Reachable emptyMoov m ∧ m.mp4Movie.get .AUDIO_TRACK = some t ∧
      t.samples = [{ offset := 40 + (count + 1) * (n + 5), size := 3 }] ∧
      m.recFileSize = 43 + (count + 1) * (n + 5) := by
  let m₁ : SrsMp4Muxer := { bothRecording with needToFindKeyFrame := false }
  have hopened : Opened 0 m₁ :=
    ⟨by decide +kernel, by decide +kernel, by decide +kernel, by decide +kernel, by decide +kernel⟩
  have hlisten : Listening m₁ :=
    ⟨by decide +kernel, by decide +kernel, rfl, by decide +kernel, by decide +kernel⟩
  have hvideo : (m₁.mp4Movie.get .VIDEO_TRACK).isSome = true := by decide +kernel
  have haudio : (m₁.mp4Movie.get .AUDIO_TRACK).map
      (fun t => (t.samples, t.lastPresentationTimeUs)) = some ([], 0) := by decide +kernel
  obtain ⟨t₁, ht₁, hempty⟩ := Option.map_eq_some_iff.mp haudio
  have hslice : m₁.hasTrack (idrSlice n) = true := hvideo
  -- The first slice opens the gate, and the other frames follow.
  have hfirst := (reachable_afterCalls _).writeFrame (m := bothRecording) hopened.outcomes
    (sampleOf_idrSlice n) hlisten fun _ => rfl
  have hrest : ∀ f ∈ List.replicate count (idrSlice n) ++ [audioFrame],
      f.Fits ∧ SampleOf f ∧ m₁.hasTrack f = true := by
    intro f hf
    rcases List.mem_append.mp hf with hf | hf
    · rw [List.eq_of_mem_replicate hf]
      exact ⟨fits_idrSlice n, sampleOf_idrSlice n, hslice⟩
    · rw [List.mem_singleton.mp hf]
      exact ⟨⟨by decide, by decide⟩, .inr ⟨rfl, rfl⟩, Option.isSome_iff_exists.mpr ⟨t₁, ht₁⟩⟩
  obtain ⟨m, hreach, hbefore⟩ := Reachable.writeFrames _ hrest hfirst
    (fileStable_listening.writeFrame _ m₁ hlisten)
    (Before.writeFrame (.inl ⟨hopened, rfl, rfl⟩) (fits_idrSlice n) hslice)
  have hkept : [] ++ [idrSlice n] ++ (List.replicate count (idrSlice n) ++ [audioFrame]) =
      List.replicate (count + 1) (idrSlice n) ++ [audioFrame] := by
    simp [List.replicate_succ]
  rw [hkept] at hbefore
  rcases hbefore with ⟨-, -, hnil⟩ | ⟨-, hrec⟩
  · simp at hnil
  have hlength := length_written_idrSlices n (count + 1)
  have hhead : fileHead.length = 40 := by decide
  have ht := hrec.track .AUDIO_TRACK
  rw [ht₁, Option.map_some] at ht
  refine ⟨m, _, hreach, ht, ?_, ?_⟩
  · obtain ⟨hsamples, hlast⟩ := Prod.mk.inj hempty
    rw [samples_addSamples hsamples hlast, listed_audio_last _ fun f hf => ?_, hlength, hhead]
    · simp [shiftedSample, audioFrame]
    · rw [List.eq_of_mem_replicate hf]
      rfl
  · have haudioLength : (written audioFrame).length = 3 := by decide
    rw [hrec.recFileSize, List.length_append, List.flatMap_append, List.length_append, hlength,
      hhead, List.flatMap_singleton, haudioLength]
    push_cast
    omega

theorem chunks_of_single {s : Sample} (h : t.samples = [s]) : t.chunks = [[s]] := by
  rw [Track.chunks, h]
  rfl

theorem chunkOffsets_shortRecording :
    ∃ m t, Reachable emptyMoov m ∧ m.mp4Movie.get .AUDIO_TRACK = some t ∧
      readChunkOffsets (m.stcoContent t) = [45] := by
  obtain ⟨m, t, hreach, ht, hsamples, -⟩ := exists_longRecording 0 0
  have hchunks := chunks_of_single hsamples
  refine ⟨m, t, hreach, ht, ?_⟩
  rw [(chunkOffsets_iff emptyMoov hreach ht).mpr (by rw [hchunks]; decide), hchunks]
  rfl

/-- Four key frames of 1 GiB each and an audio frame.  The audio frame lies at `2 ^ 32 + 40`,
and a reader looks for it at 40. -/
theorem not_chunkOffsets_fourGiB :
    ∃ m t, Reachable emptyMoov m ∧ m.mp4Movie.get .AUDIO_TRACK = some t ∧
      m.recFileSize = 2 ^ 32 + 43 ∧ t.chunks.map chunkOffset = [2 ^ 32 + 40] ∧
      readChunkOffsets (m.stcoContent t) = [40] := by
  obtain ⟨m, t, hreach, ht, hsamples, hsize⟩ := exists_longRecording (2 ^ 30 - 5) 3
  have hchunks := chunks_of_single hsamples
  have hoffsets : t.chunks.map chunkOffset = [2 ^ 32 + 40] := by
    rw [hchunks]
    decide
  refine ⟨m, t, hreach, ht, by rw [hsize]; decide, hoffsets, ?_⟩
  have hpos : createStco t = t.chunks.map chunkOffset :=
    createStco_eq t (hreach.placed.samples _ t ht)
  show readChunkOffsets (StaticChunkOffsetBox.getContent (createStco t)) = _
  rw [hpos, hoffsets, readChunkOffsets_getContent]
  decide

end SrsMp4Muxer

end MediasoupDemo.Mp4
