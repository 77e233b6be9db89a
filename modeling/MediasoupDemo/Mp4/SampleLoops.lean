import MediasoupDemo.Lib.WhileLoop
import MediasoupDemo.Mp4.Samples

/-!
# The loops over a sample end

The search for parameter sets is three loops inside each other.  The model gives each of
them a number of turns.  Here they are loops without a bound, and the model computes their
results.

* `runs_startswithAnnexb` and `runs_skipNalUnit` are the two inner loops, which count a
  position up.
* The outer loop has nothing to count.  `position_lt_of_annexbDemux` is why it ends: a frame
  has a start code in front of it, or its first byte is passed over without one.
* `run_writeVideoSampleLoop_of_runs` says that the model has turns enough.

The loops also end if the buffer is shorter than the sample is said to be, with an exception.
-/

namespace MediasoupDemo.Mp4.SrsMp4Muxer

open MediasoupDemo.Runtime Method WhileLoop

/-! ## The inner loops -/

section Inner

variable (bb : ByteBuffer) (bi : BufferInfo)

/-- A turn of the loop of `srs_avc_startswith_annexb`. -/
def startswithAnnexbTurn (pos : Nat) : Except JavaException (Option Nat ⊕ Nat) :=
  if (pos : Int) < bi.size - 3 then do
    let b0 ← bb.getAt pos
    if b0 ≠ 0x00 then pure (.inl none)
    else
      let b1 ← bb.getAt (pos + 1)
      if b1 ≠ 0x00 then pure (.inl none)
      else
        let b2 ← bb.getAt (pos + 2)
        if b2 = 0x01 then pure (.inl (some (pos + 3 - bb.position)))
        else pure (.inr (pos + 1))
  else pure (.inl none)

/-- A turn of the inner loop of `annexb_demux`. -/
def skipNalUnitTurn (bb : ByteBuffer) : Except JavaException (ByteBuffer ⊕ ByteBuffer) :=
  if bb.position < bi.size then do
    match ← srsAvcStartswithAnnexb bb bi with
    | some _ => pure (.inl bb)
    | none => pure (.inr (← bb.skip 1))
  else pure (.inl bb)

variable {bb bi}

theorem startswithAnnexbTurn_next {pos pos' : Nat}
    (h : startswithAnnexbTurn bb bi pos = .ok (.inr pos')) : pos' = pos + 1 := by
  unfold startswithAnnexbTurn at h
  split at h
  · obtain ⟨b0, -, h⟩ := bind_eq_ok h
    split at h
    · cases h
    · obtain ⟨b1, -, h⟩ := bind_eq_ok h
      split at h
      · cases h
      · obtain ⟨b2, -, h⟩ := bind_eq_ok h
        split at h
        · cases h
        · cases h
          rfl
  · cases h

theorem startswithAnnexbLoop_succ_eq {n pos : Nat} (h : bi.size - 3 - pos = n + 1) :
    startswithAnnexbLoop bb (n + 1) pos =
      startswithAnnexbTurn bb bi pos >>= Sum.elim pure (startswithAnnexbLoop bb n) := by
  rw [startswithAnnexbTurn, if_pos (by omega), startswithAnnexbLoop, bind_assoc]
  refine bind_congr fun b0 => ?_
  by_cases h0 : b0 ≠ 0
  · rw [if_pos h0, if_pos h0]
    rfl
  · rw [if_neg h0, if_neg h0, bind_assoc]
    refine bind_congr fun b1 => ?_
    by_cases h1 : b1 ≠ 0
    · rw [if_pos h1, if_pos h1]
      rfl
    · rw [if_neg h1, if_neg h1, bind_assoc]
      refine bind_congr fun b2 => ?_
      by_cases h2 : b2 = 1
      · rw [if_pos h2, if_pos h2]
        rfl
      · rw [if_neg h2, if_neg h2]
        rfl

theorem runs_startswithAnnexb :
    Runs (startswithAnnexbTurn bb bi) bb.position (srsAvcStartswithAnnexb bb bi) := by
  refine runs_of_countdown (fun pos => bi.size - 3 - pos) ?_ ?_ ?_ _ _ rfl
  · intro pos hcount
    exact if_neg (by omega)
  · intro n pos hcount
    exact startswithAnnexbLoop_succ_eq hcount
  · intro n pos pos' hcount hturn
    rw [startswithAnnexbTurn_next hturn]
    omega

theorem skipNalUnitTurn_next {bb' : ByteBuffer} (h : skipNalUnitTurn bi bb = .ok (.inr bb')) :
    bb'.position = bb.position + 1 := by
  unfold skipNalUnitTurn at h
  split at h
  · obtain ⟨found, -, h⟩ := bind_eq_ok h
    cases found with
    | some _ => cases h
    | none =>
      obtain ⟨next, hskip, h⟩ := bind_eq_ok h
      cases h
      exact ByteBuffer.position_of_skip hskip
  · cases h

/-- The inner loop of `annexb_demux` on any buffer. -/
theorem runs_skipNalUnit :
    Runs (skipNalUnitTurn bi) bb (skipNalUnit bi (bi.size - bb.position) bb) := by
  refine runs_of_countdown (fun bb => bi.size - bb.position) ?_ ?_ ?_ _ _ rfl
  · intro bb hcount
    exact if_neg (by omega)
  · intro n bb hcount
    rw [skipNalUnitTurn, if_pos (by omega), skipNalUnit, bind_assoc]
    refine bind_congr fun found => ?_
    cases found with
    | some _ => rfl
    | none =>
      simp only [bind_assoc]
      rfl
  · intro n bb bb' hcount hturn
    rw [skipNalUnitTurn_next hturn]
    omega

end Inner

/-! ## Progress -/

variable {bb : ByteBuffer} {bi : BufferInfo}

/-- A start code has three bytes at least. -/
theorem three_le_of_startswithAnnexbLoop {n : Nat} (left : Nat) :
    ∀ {pos : Nat}, bb.position ≤ pos → startswithAnnexbLoop bb left pos = .ok (some n) → 3 ≤ n := by
  induction left with
  | zero =>
    intro pos _ h
    cases h
  | succ left ih =>
    intro pos hpos h
    unfold startswithAnnexbLoop at h
    obtain ⟨b0, -, h⟩ := bind_eq_ok h
    split at h
    · cases h
    · obtain ⟨b1, -, h⟩ := bind_eq_ok h
      split at h
      · cases h
      · obtain ⟨b2, -, h⟩ := bind_eq_ok h
        split at h
        · cases h
          omega
        · exact ih (Nat.le_succ_of_le hpos) h

theorem position_le_of_skipNalUnit {next : ByteBuffer} (left : Nat) :
    ∀ {bb : ByteBuffer}, skipNalUnit bi left bb = .ok next → bb.position ≤ next.position := by
  induction left with
  | zero =>
    intro bb h
    cases h
    exact Nat.le_refl _
  | succ left ih =>
    intro bb h
    unfold skipNalUnit at h
    obtain ⟨found, -, h⟩ := bind_eq_ok h
    cases found with
    | some _ =>
      cases h
      exact Nat.le_refl _
    | none =>
      obtain ⟨bb', hskip, h⟩ := bind_eq_ok h
      have hposition := ByteBuffer.position_of_skip hskip
      have := ih h
      omega

/-- Without a start code at its position the inner loop passes a byte over. -/
theorem position_lt_of_skipNalUnit {next : ByteBuffer} {left : Nat}
    (hnone : srsAvcStartswithAnnexb bb bi = .ok none)
    (h : skipNalUnit bi (left + 1) bb = .ok next) : bb.position < next.position := by
  unfold skipNalUnit at h
  rw [hnone] at h
  obtain ⟨bb', hskip, h⟩ := bind_eq_ok (x := bb.skip 1) h
  have hposition := ByteBuffer.position_of_skip hskip
  have := position_le_of_skipNalUnit left h
  omega

/-- `annexb_demux` moves the buffer on, whatever it finds. -/
theorem position_lt_of_annexbDemux {bb' : ByteBuffer} {frame : SrsEsFrameBytes} {m m' : SrsMp4Muxer}
    (hpos : bb.position < bi.size) (h : (annexbDemux bb bi).run m = .ok (frame, bb') m') :
    bb.position < bb'.position := by
  rw [annexbDemux, if_pos hpos] at h
  obtain ⟨tbbsc, hfound, h⟩ := run_ofExcept_bind_eq_ok h
  obtain ⟨_, _, -, h⟩ := run_bind_eq_ok h
  obtain ⟨start, hstart, h⟩ := run_ofExcept_bind_eq_ok h
  obtain ⟨next, hnext, h⟩ := run_ofExcept_bind_eq_ok h
  cases h
  have hposition := ByteBuffer.position_of_skip hstart
  cases tbbsc with
  | some n =>
    have hthree := three_le_of_startswithAnnexbLoop _ (Nat.le_refl _) hfound
    have hle := position_le_of_skipNalUnit _ hnext
    have hn : (some n).getD 0 = n := rfl
    omega
  | none =>
    have hsame : bb.skip ((none : Option Nat).getD 0) = .ok bb := dif_pos bb.position_le
    rw [hsame] at hstart
    cases hstart
    obtain ⟨left, hleft⟩ : ∃ left, bi.size - bb.position = left + 1 :=
      ⟨bi.size - bb.position - 1, by omega⟩
    rw [hleft] at hnext
    exact position_lt_of_skipNalUnit hfound hnext

/-! ## The outer loop -/

def SrsEsFrameBytes.bytes (frame : SrsEsFrameBytes) : List UInt8 :=
  (frame.data.map fun data => data.content.take frame.size).getD []

@[simp] theorem bytes_esFrameBefore (unit rest : List UInt8) :
    (esFrameBefore unit rest).bytes = unit := by
  show (ByteBuffer.wrap (unit ++ rest)).content.take unit.length = unit
  rw [ByteBuffer.content_wrap, List.take_left]

/-- The loop of `writeVideoSample` between two turns.  The frames so far are not kept by the
code. -/
structure SampleLoop where
  bb : ByteBuffer
  muxer : SrsMp4Muxer
  frames : List (List UInt8)

/-- The body of the loop of `writeVideoSample`: the bytes of the frame, and the buffer behind
it. -/
def writeVideoSampleBody (bi : BufferInfo) (bb : ByteBuffer) :
    Method SrsMp4Muxer (List UInt8 × ByteBuffer) := do
  let (frame, bb) ← annexbDemux bb bi
  takeParameterSet frame
  pure (frame.bytes, bb)

def writeVideoSampleTurn (bi : BufferInfo) (s : SampleLoop) :
    Except (JavaException × SrsMp4Muxer) (SampleLoop ⊕ SampleLoop) :=
  if s.bb.position < bi.size then
    match (writeVideoSampleBody bi s.bb).run s.muxer with
    | .error e muxer => .error (e, muxer)
    | .ok (bytes, bb) muxer => .ok (.inr { bb, muxer, frames := s.frames ++ [bytes] })
  else .ok (.inl s)

/-- What the call comes to. -/
def SampleLoop.outcome :
    Except (JavaException × SrsMp4Muxer) SampleLoop → EStateM.Result JavaException SrsMp4Muxer Unit
  | .ok s => .ok () s.muxer
  | .error (e, m) => .error e m

section Outer

variable {bi : BufferInfo} {s : SampleLoop}

theorem writeVideoSampleTurn_of_ok {bytes : List UInt8} {m : SrsMp4Muxer}
    (hpos : s.bb.position < bi.size)
    (hbody : (writeVideoSampleBody bi s.bb).run s.muxer = .ok (bytes, bb) m) :
    writeVideoSampleTurn bi s = .ok (.inr ⟨bb, m, s.frames ++ [bytes]⟩) := by
  rw [writeVideoSampleTurn, if_pos hpos, hbody]

theorem writeVideoSampleTurn_of_le (h : bi.size ≤ s.bb.position) :
    writeVideoSampleTurn bi s = .ok (.inl s) :=
  if_neg (Nat.not_lt.mpr h)

/-- What a turn can do: leave, throw, or take a frame. -/
theorem writeVideoSampleTurn_cases
    {out : Except (JavaException × SrsMp4Muxer) (SampleLoop ⊕ SampleLoop)}
    (h : writeVideoSampleTurn bi s = out) :
    (bi.size ≤ s.bb.position ∧ out = .ok (.inl s)) ∨
    (s.bb.position < bi.size ∧ ∃ e m,
      (writeVideoSampleBody bi s.bb).run s.muxer = .error e m ∧ out = .error (e, m)) ∨
    (s.bb.position < bi.size ∧ ∃ bytes bb m,
      (writeVideoSampleBody bi s.bb).run s.muxer = .ok (bytes, bb) m ∧
      out = .ok (.inr ⟨bb, m, s.frames ++ [bytes]⟩)) := by
  by_cases hpos : s.bb.position < bi.size
  · rw [writeVideoSampleTurn, if_pos hpos] at h
    cases hbody : (writeVideoSampleBody bi s.bb).run s.muxer with
    | error e m =>
      rw [hbody] at h
      exact .inr (.inl ⟨hpos, e, m, rfl, h.symm⟩)
    | ok out m =>
      rw [hbody] at h
      exact .inr (.inr ⟨hpos, out.1, out.2, m, rfl, h.symm⟩)
  · rw [writeVideoSampleTurn, if_neg hpos] at h
    exact .inl ⟨Nat.not_lt.mp hpos, h.symm⟩

theorem position_lt_of_body {bytes : List UInt8} {bb' : ByteBuffer} {m m' : SrsMp4Muxer}
    (hpos : bb.position < bi.size) (h : (writeVideoSampleBody bi bb).run m = .ok (bytes, bb') m') :
    bb.position < bb'.position := by
  obtain ⟨⟨frame, next⟩, m₁, hdemux, h⟩ := run_bind_eq_ok h
  obtain ⟨_, m₂, -, h⟩ := run_bind_eq_ok h
  cases h
  exact position_lt_of_annexbDemux hpos hdemux

theorem exists_runs_writeVideoSample (bi : BufferInfo) (s : SampleLoop) :
    ∃ result, Runs (writeVideoSampleTurn bi) s result := by
  refine exists_runs (fun s => bi.size - s.bb.position) ?_ s
  intro s s' hturn
  obtain ⟨-, heq⟩ | ⟨-, _, _, -, heq⟩ | ⟨hpos, bytes, bb, m, hbody, heq⟩ :=
    writeVideoSampleTurn_cases hturn
  · cases heq
  · cases heq
  · cases heq
    have := position_lt_of_body hpos hbody
    show bi.size - bb.position < bi.size - s.bb.position
    omega

theorem writeVideoSampleLoop_succ (hpos : bb.position < bi.size) (turns : Nat) :
    writeVideoSampleLoop bi (turns + 1) bb =
      writeVideoSampleBody bi bb >>= fun out => writeVideoSampleLoop bi turns out.2 := by
  rw [writeVideoSampleLoop, if_pos hpos, writeVideoSampleBody, bind_assoc]
  refine bind_congr fun out => ?_
  rw [bind_assoc]
  rfl

/-- The turns of the model are enough. -/
theorem run_writeVideoSampleLoop_of_runs {result : Except (JavaException × SrsMp4Muxer) SampleLoop}
    (h : Runs (writeVideoSampleTurn bi) s result) :
    ∀ {turns : Nat}, bi.size - s.bb.position ≤ turns →
      (writeVideoSampleLoop bi turns s.bb).run s.muxer = SampleLoop.outcome result := by
  induction h with
  | throws hturn =>
    intro turns hturns
    obtain ⟨-, heq⟩ | ⟨hpos, e, m, hbody, heq⟩ | ⟨-, _, _, _, -, heq⟩ :=
      writeVideoSampleTurn_cases hturn
    · cases heq
    · cases heq
      obtain ⟨turns, rfl⟩ : ∃ n, turns = n + 1 := ⟨turns - 1, by omega⟩
      rw [writeVideoSampleLoop_succ hpos, run_bind_error hbody]
      rfl
    · cases heq
  | leaves hturn =>
    intro turns _
    obtain ⟨hpos, heq⟩ | ⟨-, _, _, -, heq⟩ | ⟨-, _, _, _, -, heq⟩ :=
      writeVideoSampleTurn_cases hturn
    · cases heq
      rw [writeVideoSampleLoop_end hpos, run_pure]
      rfl
    · cases heq
    · cases heq
  | next hturn _ ih =>
    intro turns hturns
    obtain ⟨-, heq⟩ | ⟨-, _, _, -, heq⟩ | ⟨hpos, bytes, bb, m, hbody, heq⟩ :=
      writeVideoSampleTurn_cases hturn
    · cases heq
    · cases heq
    · cases heq
      have := position_lt_of_body hpos hbody
      obtain ⟨turns, rfl⟩ : ∃ n, turns = n + 1 := ⟨turns - 1, by omega⟩
      rw [writeVideoSampleLoop_succ hpos, run_bind_ok hbody]
      exact ih (show bi.size - bb.position ≤ turns by omega)

end Outer

end MediasoupDemo.Mp4.SrsMp4Muxer
