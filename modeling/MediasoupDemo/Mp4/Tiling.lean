import MediasoupDemo.Mp4.Reachable

/-!
# The boxes of a finished recording

A finished file should be a row of boxes: `ftyp`, then `mdat` if there is media data,
then `moov`.  The header of the `mdat` box is written again at the end, at the offset
where the box was opened.  Two things can go wrong.

* A recording that stops before the first frame of an existing track has no `mdat` box,
  but `finishMovie` does not look at `mdat.first`.  The content size of a new
  `InterleaveChunkMdat` is 1 GiB, so `mdat.getSize() != 0` holds, and the header goes to
  offset 0, over the `ftyp` box.
* `recFileSize` is not 0 if the recording before was not finished.  The offset of the
  box is then too large, and the header goes into the media data or behind it.  Only a
  recording that has written no media data gets away with it (`Hidden`).
-/

namespace MediasoupDemo.Mp4

open ByteCodec ByteFile MediasoupDemo.Runtime

/-- The file is the `ftyp` box, at most one `mdat` box whose size is what a reader
finds in its header, and the `moov` box. -/
def Tiles (file moov : List UInt8) : Prop :=
  file = createFileTypeBox.getBox ++ moov ∨
    ∃ mdat headerSize, file = createFileTypeBox.getBox ++ mdat ++ moov ∧
      headerSize ≤ mdat.length ∧
      readBoxHeader file createFileTypeBox.getBox.length =
        some { type := fourCCtoBytes "mdat", headerSize, size := mdat.length }

/-- The 32-bit header behind the `ftyp` box. -/
theorem readBoxHeader_second {size type : List UInt8} (hsize : size.length = 4)
    (htype : type.length = 4) (hlarge : 1 < beNat size) (rest : List UInt8) :
    readBoxHeader (createFileTypeBox.getBox ++ (size ++ (type ++ rest)))
        createFileTypeBox.getBox.length =
      some { type, headerSize := 8, size := beNat size } := by
  have hfirst := region_middle createFileTypeBox.getBox size (type ++ rest)
  have hsecond := region_middle (createFileTypeBox.getBox ++ size) type rest
  rw [List.length_append, List.append_assoc, htype, hsize] at hsecond
  rw [hsize] at hfirst
  simp only [readBoxHeader]
  rw [hfirst, hsecond, if_neg ?_, if_neg (by omega), if_neg (by omega)]
  simp only [List.length_append, hsize, htype]
  omega

theorem type_of_readBoxHeader {size type rest : List UInt8} {box : BoxHeader}
    (hsize : size.length = 4) (htype : type.length = 4)
    (hread : readBoxHeader (createFileTypeBox.getBox ++ (size ++ (type ++ rest)))
      createFileTypeBox.getBox.length = some box) : box.type = type := by
  have hsecond := region_middle (createFileTypeBox.getBox ++ size) type rest
  rw [List.length_append, List.append_assoc, htype, hsize] at hsecond
  simp only [readBoxHeader] at hread
  rw [hsecond] at hread
  split_ifs at hread <;> cases hread <;> rfl

namespace SrsMp4Muxer

open Method

theorem tiles_mdatFile (content moov : List UInt8)
    (hsize : (mdatFile content moov).length < 2 ^ 63) : Tiles (mdatFile content moov) moov := by
  obtain ⟨headerSize, hle, hread⟩ := readBoxHeader_mdatFile content moov hsize
  have hlength : (fileHead ++ content).length - createFileTypeBox.getBox.length =
      (mdatHeader content.length ++ content).length := by
    simp [fileHead, mdatHeader]
  refine .inr ⟨mdatHeader content.length ++ content, headerSize, ?_, ?_, ?_⟩
  · simp [mdatFile]
  · simp only [fileHead, mdatHeader, List.length_append, InterleaveChunkMdat.getBox_length] at hle ⊢
    omega
  · rw [← hlength]
    exact hread

/-- An `mdat` header has its type behind four bytes of size. -/
theorem mdatHeader_eq (contentSize : Int) :
    ∃ a b c d rest, mdatHeader contentSize =
      a :: b :: c :: d :: (fourCCtoBytes "mdat" ++ rest) := by
  have hfield : ∀ size : Int, ∃ a b c d, putInt size = [a, b, c, d] :=
    fun size => ⟨_, _, _, _, rfl⟩
  unfold mdatHeader InterleaveChunkMdat.getBox
  dsimp only
  split_ifs <;>
  · obtain ⟨a, b, c, d, hbytes⟩ := hfield _
    rw [hbytes]
    exact ⟨a, b, c, d, _, rfl⟩

/-! ## A recording without frames -/

/-- The header goes over the start of the `ftyp` box, which is then not intact. -/
theorem not_tiles_overwritten (contentSize : Int) (moov : List UInt8) :
    ¬ Tiles (finished createFileTypeBox.getBox 0 contentSize moov).bytes moov := by
  obtain ⟨a, b, c, d, rest, hheader⟩ := mdatHeader_eq contentSize
  have hstart : ∀ back, (finished createFileTypeBox.getBox 0 contentSize moov).bytes ≠
      createFileTypeBox.getBox ++ back := by
    intro back h
    rw [finished, hheader] at h
    -- the first byte of the type
    have hbyte : some (0x6d : UInt8) = some 0x66 := congrArg (·[4]?) h
    cases hbyte
  rintro (h | ⟨mdat, headerSize, h, -⟩)
  · exact hstart _ h
  · rw [List.append_assoc] at h
    exact hstart _ h

/-! ## A header in the wrong place -/

section Misplaced

variable (base : Nat) (content moov : List UInt8)

/-- What is behind the `ftyp` box if the `mdat` header goes `base` bytes too far. -/
def misplaced : List UInt8 :=
  (finished (mdatHeader 0 ++ content) base content.length moov).bytes

theorem finished_misplaced :
    (finished (fileHead ++ content) (createFileTypeBox.getBox.length + base) content.length
      moov).bytes = createFileTypeBox.getBox ++ misplaced base content moov := by
  rw [misplaced, finished, finished, fileHead, List.append_assoc, seek, bytes_write_append,
    List.length_append, bytes_write_append]
  rfl

theorem length_misplaced :
    (misplaced base content moov).length =
      max (16 + content.length + moov.length) (base + 16) := by
  rw [misplaced, finished, length_bytes_write, seek, length_bytes_write]
  simp only [mdatHeader, List.length_append, InterleaveChunkMdat.getBox_length,
    InterleaveChunkMdat.getHeaderSize]
  omega

/-- The header of the `mdat` box, as it is then: the rest of the first one in front of the
second. -/
theorem take_misplaced :
    (misplaced base content moov).take 8 =
      (mdatHeader 0).take (min 8 base) ++ (mdatHeader content.length).take (8 - base) := by
  have hfirst : (mdatHeader 0).length = 16 := InterleaveChunkMdat.getBox_length _
  have hsecond : (mdatHeader content.length).length = 16 := InterleaveChunkMdat.getBox_length _
  have hheader : 8 ≤ (mdatHeader 0 ++ content).length := by
    rw [List.length_append]
    omega
  -- the `moov` box is behind it
  have hmoov : (misplaced base content moov).take 8 =
      (write ⟨mdatHeader 0 ++ content, base⟩ (mdatHeader content.length)).bytes.take 8 := by
    rw [misplaced, finished, take_bytes_write, seek]
    · dsimp only
      rw [Nat.min_eq_left hheader, Nat.sub_eq_zero_of_le hheader, List.take_zero, List.append_nil]
    · rw [seek, length_bytes_write]
      exact Nat.le_trans hheader (Nat.le_max_left _ _)
    · rw [seek]
      exact Nat.le_trans hheader (Nat.le_add_right _ _)
  rw [hmoov, take_bytes_write hheader (by dsimp only; omega),
    List.take_append_of_le_length (by omega)]

/-- The size and the type that a reader finds there. -/
theorem misplaced_eq_header :
    ∃ size type rest, misplaced base content moov = size ++ (type ++ rest) ∧
      size.length = 4 ∧ type.length = 4 ∧ (4 ≤ base → beNat size = 16) ∧
      type = ((mdatHeader 0).take (min 8 base) ++
        (mdatHeader content.length).take (8 - base)).drop 4 := by
  have hlength := length_misplaced base content moov
  have height : ((misplaced base content moov).take 8).length = 8 := by
    rw [List.length_take]
    omega
  refine ⟨((misplaced base content moov).take 8).take 4,
    ((misplaced base content moov).take 8).drop 4, (misplaced base content moov).drop 8,
    ?_, ?_, ?_, fun hle => ?_, by rw [take_misplaced]⟩
  · rw [← List.append_assoc, List.take_append_drop, List.take_append_drop]
  · rw [List.length_take]
    omega
  · rw [List.length_drop]
    omega
  · -- the size is that of the first header
    have hfirst : (mdatHeader 0).length = 16 := InterleaveChunkMdat.getBox_length _
    rw [take_misplaced, List.take_append_of_le_length (by rw [List.length_take]; omega),
      List.take_take, Nat.min_eq_left (by omega)]
    decide

end Misplaced

/-- Without media data a `moov` box that is long enough reaches to the end of the file. -/
theorem misplaced_nil_eq {base : Nat} {moov : List UInt8} (hmoov : base ≤ moov.length) :
    ∃ mdat, mdat.length = 16 ∧ misplaced base [] moov = mdat ++ moov := by
  have hfirst : (mdatHeader 0 ++ []).length = 16 := by
    rw [List.append_nil]
    exact InterleaveChunkMdat.getBox_length _
  have hsecond : (mdatHeader ([] : List UInt8).length).length = 16 :=
    InterleaveChunkMdat.getBox_length _
  have hwritten := length_bytes_write ⟨mdatHeader 0 ++ [], base⟩
    (mdatHeader ([] : List UInt8).length)
  rw [hfirst, hsecond] at hwritten
  dsimp only at hwritten
  refine ⟨_, ?_, bytes_write_end ?_ ?_⟩
  · rw [seek, List.length_take, hwritten, hfirst]
    dsimp only
    omega
  · rw [seek, hwritten, hfirst]
    dsimp only
    omega
  · rw [seek, hwritten, hfirst]
    dsimp only
    omega

/-- A header that went too far does harm unless the `mdat` box is empty and the `moov` box
goes over what is behind it. -/
theorem tiles_misplaced_iff {base : Nat} (hbase : 0 < base) (content moov : List UInt8) :
    Tiles (createFileTypeBox.getBox ++ misplaced base content moov) moov ↔
      content = [] ∧ 8 ≤ base ∧ base ≤ moov.length := by
  have hlength := length_misplaced base content moov
  obtain ⟨size, type, rest, hsplit, hsize, htype, hsize16, htyped⟩ :=
    misplaced_eq_header base content moov
  constructor
  · rintro (h | ⟨mdat, headerSize, h, -, hread⟩)
    · have hshort := congrArg List.length (List.append_cancel_left h)
      omega
    · rw [List.append_assoc] at h
      have hparts := congrArg List.length (List.append_cancel_left h)
      rw [hlength, List.length_append] at hparts
      rw [hsplit] at hread
      have hmdat : fourCCtoBytes "mdat" = type := type_of_readBoxHeader hsize htype hread
      rw [htyped] at hmdat
      by_cases hle : 4 ≤ base
      · rw [readBoxHeader_second hsize htype (by rw [hsize16 hle]; decide), hsize16 hle] at hread
        have hbox : 16 = mdat.length := congrArg BoxHeader.size (Option.some.inj hread)
        have hnil : content = [] := List.length_eq_zero_iff.mp (by omega)
        refine ⟨hnil, ?_, by omega⟩
        by_contra hlt
        rw [hnil] at hmdat
        obtain rfl | rfl | rfl | rfl : base = 4 ∨ base = 5 ∨ base = 6 ∨ base = 7 := by omega
        all_goals revert hmdat; decide
      · obtain ⟨a, b, c, d, rest, hsecond⟩ := mdatHeader_eq content.length
        rw [hsecond] at hmdat
        obtain rfl | rfl | rfl : base = 1 ∨ base = 2 ∨ base = 3 := by omega
        all_goals cases hmdat
  · rintro ⟨rfl, hle, hmoov⟩
    obtain ⟨mdat, hmdat, hend⟩ := misplaced_nil_eq hmoov
    have hheader := readBoxHeader_second hsize htype (by rw [hsize16 (by omega)]; decide) rest
    rw [← hsplit, hsize16 (by omega), htyped, Nat.min_eq_left hle, Nat.sub_eq_zero_of_le hle]
      at hheader
    refine .inr ⟨mdat, 8, ?_, by omega, ?_⟩
    · rw [List.append_assoc, hend]
    · rw [hheader, hmdat]
      rfl

/-! ## All recordings -/

/-- A header that is too far by `base` is covered by the `moov` box: there is no media data
in the file. -/
def Hidden (m : SrsMp4Muxer) (base : Int) (moov : List UInt8) : Prop :=
  m.fc = some (openAtEnd fileHead) ∧ 8 ≤ base ∧ base ≤ moov.length

/-- What `finishMovie` leaves of a recording that has opened its `mdat` box. -/
theorem finishMovie_tiles_iff {base : Int} (hbase : 0 ≤ base) {m₁ m : SrsMp4Muxer}
    {kept : List SrsEsFrame} (h : RecordingAt base m₁ m kept) (moov : MovieBox → List UInt8) :
    ∃ m₃ file, (finishMovie moov).run m = .ok () m₃ ∧ m₃.NoRecording ∧
      m₃.fc = some { file, isOpen := false } ∧
      (file.bytes.length < 2 ^ 63 →
        (Tiles file.bytes (moov (createMovieBox m.mp4Movie m.spsList m.ppsList)) ↔
          base = 0 ∨ Hidden m base (moov (createMovieBox m.mp4Movie m.spsList m.ppsList)))) := by
  generalize hbox : moov (createMovieBox m.mp4Movie m.spsList m.ppsList) = box
  by_cases hzero : base = 0
  · subst hzero
    obtain ⟨m₃, hfinish, hfc, hready⟩ := finishMovie_recording h moov
    refine ⟨m₃, _, hfinish, hready, hfc, fun hsize => iff_of_true ?_ (.inl rfl)⟩
    rw [hbox] at hsize ⊢
    exact tiles_mdatFile _ _ hsize
  · obtain ⟨n, rfl⟩ := Int.eq_ofNat_of_zero_le hbase
    obtain ⟨m₃, hfinish, hfc, hready⟩ :=
      finishMovie_done h.mdat (by decide) h.fc h.outcomes moov
    have hsize : m.recFileSize - InterleaveChunkMdat.getHeaderSize - m.mdatOffset =
        (kept.flatMap written).length := by
      rw [h.recFileSize, h.mdatOffset]
      simp [fileHead, mdatHeader]
      omega
    have hoffset : m.mdatOffset.toNat = createFileTypeBox.getBox.length + n := by
      rw [h.mdatOffset]
      omega
    have hempty : m.fc = some (openAtEnd fileHead) ↔ kept.flatMap written = [] := by
      rw [h.fc]
      constructor
      · intro heq
        have hbytes := congrArg (fun fc : FileChannel => fc.file.bytes) (Option.some.inj heq)
        exact List.append_right_eq_self.mp hbytes
      · intro hnil
        rw [hnil, List.append_nil]
    rw [hsize, hoffset, hbox] at hfc
    refine ⟨m₃, _, hfinish, hready, hfc, fun _ => ?_⟩
    rw [finished_misplaced, tiles_misplaced_iff (by omega), or_iff_right hzero, Hidden, hempty]
    exact and_congr_right fun _ => by omega

/-- **The boxes of a finished recording.**  For any frames, written by a worker that
may end with an exception, in a recording that starts in any reachable state:
`finishMovie` leaves a row of boxes if and only if there was a frame of an existing
track and `recFileSize` was 0 at the start, or the harm is hidden.  The muxer is then
ready for the next recording. -/
theorem tiles_iff (moov : MovieBox → List UInt8) {m m₁ : SrsMp4Muxer} {path : String}
    (hreach : Reachable moov m)
    (hrecord : (record path).run { m with outcomes := [] } = .ok true m₁)
    (frames : List SrsEsFrame) :
    ∃ m₃ file, (finishMovie moov).run (final (writeFrames frames) m₁) = .ok () m₃ ∧
      m₃.NoRecording ∧ m₃.fc = some { file, isOpen := false } ∧
      (file.bytes.length < 2 ^ 63 →
        (Tiles file.bytes (moov (createMovieBox (final (writeFrames frames) m₁).mp4Movie
            (final (writeFrames frames) m₁).spsList (final (writeFrames frames) m₁).ppsList)) ↔
          (∃ f ∈ frames, m₁.hasTrack f = true) ∧
            (m.recFileSize = 0 ∨
              Hidden (final (writeFrames frames) m₁) m.recFileSize
                (moov (createMovieBox (final (writeFrames frames) m₁).mp4Movie
                  (final (writeFrames frames) m₁).spsList
                  (final (writeFrames frames) m₁).ppsList))))) := by
  have hopened : Opened m.recFileSize m₁ :=
    opened_of_record (m := { m with outcomes := [] }) rfl hrecord
  obtain ⟨kept, hbefore, -, hsome⟩ := before_final_writeFrames hopened frames
  rw [hsome]
  generalize final (writeFrames frames) m₁ = m₂ at hbefore ⊢
  rcases hbefore with ⟨-, rfl, rfl⟩ | ⟨hne, hrec⟩
  · obtain ⟨m₃, hfinish, hfc, hready⟩ :=
      finishMovie_done hopened.mdat (by decide) hopened.fc hopened.outcomes moov
    rw [hopened.mdatOffset] at hfc
    exact ⟨m₃, _, hfinish, hready, hfc, fun _ =>
      iff_of_false (not_tiles_overwritten _ _) fun h => h.1 rfl⟩
  · obtain ⟨m₃, file, hfinish, hready, hfc, hiff⟩ :=
      finishMovie_tiles_iff hreach.placed.recFileSize hrec moov
    exact ⟨m₃, file, hfinish, hready, hfc, fun hsize =>
      (hiff hsize).trans (and_iff_right hne).symm⟩

def audioMuxer : SrsMp4Muxer := { audioFormat := some ⟨"audio/mp4a-latm", 0, 0, 2, 44100⟩ }

/-- An audio frame of three bytes. -/
def audioFrame : SrsEsFrame := ⟨.wrap [1, 2, 3], ⟨0, 3, 1000, 0⟩, .AUDIO_TRACK, false⟩

/-- A `moov` box without content. -/
def emptyMoov : MovieBox → List UInt8 := fun _ => [0, 0, 0, 8, 0x6d, 0x6f, 0x6f, 0x76]

theorem reachable_audioMuxer : Reachable emptyMoov audioMuxer :=
  Reachable.new.call (.addTrack ⟨"audio/mp4a-latm", 0, 0, 2, 44100⟩) []

/-- A recording of one audio frame. -/
theorem tiles_oneFrame :
    ∃ m₁ m₃ file, (record "rec.mp4").run audioMuxer = .ok true m₁ ∧
      (finishMovie emptyMoov).run (final (writeFrames [audioFrame]) m₁) = .ok () m₃ ∧
      m₃.fc = some { file, isOpen := false } ∧
      Tiles file.bytes [0, 0, 0, 8, 0x6d, 0x6f, 0x6f, 0x76] := by
  have hrecord : (record "rec.mp4").run audioMuxer =
      .ok true (final (record "rec.mp4") audioMuxer) := rfl
  obtain ⟨m₃, file, hfinish, -, hfile, hiff⟩ :=
    tiles_iff emptyMoov reachable_audioMuxer hrecord [audioFrame]
  have hlength : ((final (finishMovie emptyMoov)
      (final (writeFrames [audioFrame]) (final (record "rec.mp4") audioMuxer))).fc.map
        fun fc => fc.file.bytes.length) = some 51 := by decide +kernel
  rw [final, hfinish, hfile] at hlength
  have hsize : file.bytes.length = 51 := Option.some.inj hlength
  exact ⟨_, m₃, file, hrecord, hfinish, hfile, (hiff (by omega)).mpr
    ⟨⟨audioFrame, List.mem_singleton_self _, rfl⟩, .inl rfl⟩⟩

/-- A recording that is stopped before its first frame starts with an `mdat` box. -/
theorem not_tiles_noFrame :
    ∃ m₁ m₃ file, (record "rec.mp4").run audioMuxer = .ok true m₁ ∧
      (finishMovie emptyMoov).run (final (writeFrames []) m₁) = .ok () m₃ ∧
      m₃.fc = some { file, isOpen := false } ∧
      ¬ Tiles file.bytes [0, 0, 0, 8, 0x6d, 0x6f, 0x6f, 0x76] ∧
      readBoxHeader file.bytes 0 =
        some { type := fourCCtoBytes "mdat", headerSize := 8, size := 24 } := by
  have hrecord : (record "rec.mp4").run audioMuxer = .ok true _ := rfl
  have hopened := opened_of_record rfl hrecord
  obtain ⟨m₃, hfinish, hfc, -⟩ :=
    finishMovie_done hopened.mdat (by decide) hopened.fc hopened.outcomes emptyMoov
  refine ⟨_, m₃, _, hrecord, hfinish, hfc, not_tiles_overwritten _ _, ?_⟩
  decide +kernel

end SrsMp4Muxer

end MediasoupDemo.Mp4
