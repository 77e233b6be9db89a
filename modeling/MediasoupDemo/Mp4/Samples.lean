import MediasoupDemo.Lib.Annexb
import MediasoupDemo.Mp4.Muxer

/-!
# What the recorder finds in a sample

`srs_avc_startswith_annexb` takes any number of zeros, but at least two, and a
one for a start code, and it only looks at the position of the buffer.

* `startswithAnnexbLoop_found` and `startswithAnnexbLoop_none` say what it
  finds.
* `run_annexbDemux_coded` and `run_annexbDemux_uncoded` are `annexb_demux` on any
  bytes: the frame reaches up to the next start code that has a byte behind it
  (`Cut`).
* `run_annexbDemux_last` is `annexb_demux` on the last NAL unit of a sample,
  and `run_writeVideoSampleLoop_last` the loop of `writeVideoSample` there.
-/

namespace MediasoupDemo.Mp4.SrsMp4Muxer

open Annexb MediasoupDemo.Runtime Method

/-- The start codes of the recorder: two zeros or more, and a one. -/
def zerosOne (k : Nat) : List UInt8 := List.replicate (k + 2) 0 ++ [1]

variable {rest : List UInt8} (k : Nat)

@[simp] theorem zerosOne_length : (zerosOne k).length = k + 3 := by
  simp [zerosOne]

theorem zerosOne_succ : zerosOne (k + 1) = 0 :: zerosOne k := by
  simp [zerosOne, List.replicate_succ]

/-- Every start code ends in the three byte one. -/
theorem three_suffix_zerosOne : [0, 0, 1] <:+ zerosOne k := by
  refine ⟨List.replicate k 0, ?_⟩
  simp [zerosOne, List.replicate_add]

section Search

variable {bb : ByteBuffer}

/-- One turn of the search, on bytes that are there. -/
theorem startswithAnnexbLoop_succ {left pos : Nat} {b0 b1 b2 : UInt8}
    (h : bb.bytes.drop pos = b0 :: b1 :: b2 :: rest) :
    startswithAnnexbLoop bb (left + 1) pos =
      if b0 ≠ 0 then .ok none
      else if b1 ≠ 0 then .ok none
      else if b2 = 1 then .ok (some (pos + 3 - bb.position))
      else startswithAnnexbLoop bb left (pos + 1) := by
  have hbyte : ∀ j, bb.bytes[pos + j]? = (b0 :: b1 :: b2 :: rest)[j]? := by
    intro j
    rw [← h, List.getElem?_drop]
  have h0 : bb.getAt pos = .ok b0 := ByteBuffer.getAt_eq (hbyte 0)
  have h1 : bb.getAt (pos + 1) = .ok b1 := ByteBuffer.getAt_eq (hbyte 1)
  have h2 : bb.getAt (pos + 2) = .ok b2 := ByteBuffer.getAt_eq (hbyte 2)
  rw [startswithAnnexbLoop, h0, h1, h2]
  rfl

/-- The search finds a start code with all its zeros. -/
theorem startswithAnnexbLoop_found :
    ∀ {left pos : Nat}, zerosOne k <+: bb.bytes.drop pos → k < left →
      startswithAnnexbLoop bb left pos = .ok (some (pos + (k + 3) - bb.position)) := by
  induction k with
  | zero =>
    intro left pos hcode hleft
    obtain ⟨left, rfl⟩ : ∃ n, left = n + 1 := ⟨left - 1, by omega⟩
    obtain ⟨rest, hrest⟩ := hcode
    rw [startswithAnnexbLoop_succ hrest.symm]
    rfl
  | succ k ih =>
    intro left pos hcode hleft
    obtain ⟨left, rfl⟩ : ∃ n, left = n + 1 := ⟨left - 1, by omega⟩
    obtain ⟨rest, hrest⟩ := hcode
    have hnext : zerosOne k <+: bb.bytes.drop (pos + 1) := by
      rw [← List.drop_drop, ← hrest, zerosOne_succ]
      exact List.prefix_append _ _
    -- The third byte is a zero still, or the one of a code with fewer zeros.
    have hthird : bb.bytes.drop pos = 0 :: 0 :: 0 :: (List.replicate k 0 ++ [1] ++ rest) := by
      rw [← hrest]
      simp [zerosOne, List.replicate_succ]
    rw [startswithAnnexbLoop_succ hthird, if_neg (by simp), if_neg (by simp), if_neg (by decide),
      ih hnext (by omega)]
    have hsum : pos + 1 + (k + 3) = pos + (k + 1 + 3) := by omega
    rw [hsum]

/-- Without a start code that begins early enough the search fails. -/
theorem startswithAnnexbLoop_none (left : Nat) :
    ∀ {pos : Nat}, (∀ k < left, ¬ zerosOne k <+: bb.bytes.drop pos) →
      (left ≠ 0 → pos + left + 2 ≤ bb.limit) →
      startswithAnnexbLoop bb left pos = .ok none := by
  induction left with
  | zero =>
    intro pos _ _
    rfl
  | succ left ih =>
    intro pos hno hle
    have hlen : 3 ≤ (bb.bytes.drop pos).length := by
      rw [List.length_drop, bb.bytes_length]
      have := hle (by omega)
      omega
    obtain ⟨b0, b1, b2, rest, hbytes⟩ : ∃ b0 b1 b2 rest,
        bb.bytes.drop pos = b0 :: b1 :: b2 :: rest := by
      rcases hdrop : bb.bytes.drop pos with _ | ⟨b0, _ | ⟨b1, _ | ⟨b2, rest⟩⟩⟩
      · rw [hdrop] at hlen; simp at hlen
      · rw [hdrop] at hlen; simp at hlen
      · rw [hdrop] at hlen; simp at hlen
      · exact ⟨b0, b1, b2, rest, rfl⟩
    rw [startswithAnnexbLoop_succ hbytes]
    by_cases h0 : b0 = 0
    · by_cases h1 : b1 = 0
      · subst h0 h1
        have h2 : b2 ≠ 1 := by
          rintro rfl
          exact hno 0 (by omega) ⟨rest, hbytes.symm⟩
        have hnext : ∀ k < left, ¬ zerosOne k <+: bb.bytes.drop (pos + 1) := by
          rintro k hk ⟨tail, htail⟩
          apply hno (k + 1) (by omega)
          refine ⟨tail, ?_⟩
          rw [← List.drop_drop, hbytes] at htail
          rw [zerosOne_succ, hbytes, List.cons_append, htail]
          rfl
        rw [if_neg (by simp), if_neg (by simp), if_neg h2]
        exact ih hnext (fun _ => by have := hle (by omega); omega)
      · rw [if_neg (by simpa using h0), if_pos h1]
    · rw [if_pos h0]

end Search

/-! ## Up to the next start code -/

/-- A start code and at least one byte behind it. -/
def Coded (rest : List UInt8) : Prop := ∃ k, zerosOne k <+: rest ∧ k + 3 < rest.length

theorem not_coded_nil : ¬ Coded [] := by
  rintro ⟨k, -, hlen⟩
  cases hlen

/-- More bytes behind it do not hide a start code. -/
theorem Coded.append (h : Coded rest) (more : List UInt8) :
    Coded (rest ++ more) := by
  obtain ⟨k, hcode, hlen⟩ := h
  refine ⟨k, hcode.trans (List.prefix_append _ _), ?_⟩
  rw [List.length_append]
  omega

theorem coded_zerosOne_append (h : rest ≠ []) :
    Coded (zerosOne k ++ rest) := by
  have hpos := List.length_pos_iff.mpr h
  refine ⟨k, List.prefix_append _ _, ?_⟩
  rw [List.length_append, zerosOne_length]
  omega

/-- The bytes up to the next start code, and the bytes from there on. -/
structure Cut (unit rest : List UInt8) : Prop where
  unit : ∀ i < unit.length, ¬ Coded ((unit ++ rest).drop i)
  rest : rest = [] ∨ Coded rest

/-- The first start code is in one place. -/
theorem Cut.length_le {unit unit' rest' : List UInt8} (h : Cut unit rest) (h' : Cut unit' rest')
    (heq : unit ++ rest = unit' ++ rest') : unit.length ≤ unit'.length := by
  by_contra hlt
  have hdrop : (unit ++ rest).drop unit'.length = rest' := by rw [heq, List.drop_left]
  have hnot := h.unit unit'.length (by omega)
  rw [hdrop] at hnot
  rcases h'.rest with rfl | hcoded
  · have hlen := congrArg List.length heq
    simp only [List.length_append, List.length_nil] at hlen
    omega
  · exact hnot hcoded

theorem Cut.unique {unit unit' rest' : List UInt8} (h : Cut unit rest) (h' : Cut unit' rest')
    (heq : unit ++ rest = unit' ++ rest') : unit = unit' ∧ rest = rest' :=
  List.append_inj heq (Nat.le_antisymm (h.length_le h' heq) (h'.length_le h heq.symm))

/-- A NAL unit reaches up to the next start code. -/
theorem cut_of_isNalUnit {unit : List UInt8} (hunit : IsNalUnit unit)
    (hrest : rest = [] ∨ Coded rest) : Cut unit rest := by
  refine ⟨?_, hrest⟩
  rintro i hi ⟨k, hcode, -⟩
  refine hunit.not_prefix_drop rest (three_suffix_zerosOne k).isInfix ?_ hi hcode
  intro j hj
  rw [zerosOne_length] at hj
  rw [zerosOne, List.getElem?_append_left (by simp; omega),
    List.getElem?_replicate_of_lt (by omega)]

section Demux

variable {bi : BufferInfo} {bb : ByteBuffer} {front rest : List UInt8}

theorem srsAvcStartswithAnnexb_some {k : Nat} (h : bb.At front rest) (hsize : bi.size = bb.limit)
    (hcode : zerosOne k <+: rest) (hlen : k + 3 < rest.length) :
    srsAvcStartswithAnnexb bb bi = .ok (some (k + 3)) := by
  have hlimit := h.limit
  have hposition := h.position
  have hcode' : zerosOne k <+: bb.bytes.drop bb.position := by
    rw [show bb.bytes.drop bb.position = rest from h.content]
    exact hcode
  have hcount : bb.position + (k + 3) - bb.position = k + 3 := by omega
  rw [srsAvcStartswithAnnexb, startswithAnnexbLoop_found k hcode' (by omega), hcount]

theorem srsAvcStartswithAnnexb_none (h : bb.At front rest) (hsize : bi.size = bb.limit)
    (hno : ¬ Coded rest) : srsAvcStartswithAnnexb bb bi = .ok none := by
  have hlimit := h.limit
  have hposition := h.position
  apply startswithAnnexbLoop_none
  · intro k hk hcode
    rw [show bb.bytes.drop bb.position = rest from h.content] at hcode
    exact hno ⟨k, hcode, by omega⟩
  · omega

/-- The inner loop of `annexb_demux` runs to the next start code. -/
theorem skipNalUnit_eq (rest : List UInt8) :
    ∀ {bb : ByteBuffer} {front : List UInt8}, bb.At front rest → bi.size = bb.limit →
      ∃ unit rest' bb', unit ++ rest' = rest ∧ Cut unit rest' ∧
        skipNalUnit bi rest.length bb = .ok bb' ∧ bb'.At (front ++ unit) rest' := by
  induction rest with
  | nil =>
    intro bb front h _
    refine ⟨[], [], bb, rfl, ⟨by simp, .inl rfl⟩, rfl, ?_⟩
    rw [List.append_nil]
    exact h
  | cons b rest ih =>
    intro bb front h hsize
    by_cases hcoded : Coded (b :: rest)
    · obtain ⟨k, hcode, hlen⟩ := hcoded
      refine ⟨[], b :: rest, bb, rfl, ⟨by simp, .inr ⟨k, hcode, hlen⟩⟩, ?_, ?_⟩
      · rw [List.length_cons, skipNalUnit, srsAvcStartswithAnnexb_some h hsize hcode hlen]
        rfl
      · rw [List.append_nil]
        exact h
    · obtain ⟨bb₁, hskip, hat⟩ := @ByteBuffer.At.skip bb front rest [b] h
      have hlimit : bi.size = bb₁.limit := by
        rw [hat.limit, hsize, h.limit]
        simp only [List.length_append, List.length_cons, List.length_nil]
        omega
      obtain ⟨unit, rest', bb', rfl, hcut, hrun, hat'⟩ := ih hat hlimit
      refine ⟨b :: unit, rest', bb', rfl, ⟨?_, hcut.rest⟩, ?_, ?_⟩
      · intro i hi
        cases i with
        | zero => exact hcoded
        | succ i => exact hcut.unit i (Nat.lt_of_succ_lt_succ hi)
      · rw [List.length_cons, skipNalUnit, srsAvcStartswithAnnexb_none h hsize hcoded]
        show (do skipNalUnit bi (unit ++ rest').length (← bb.skip 1) : Except JavaException _) = _
        rw [show bb.skip 1 = .ok bb₁ from hskip]
        exact hrun
      · rw [List.append_assoc] at hat'
        exact hat'

/-- The frame of a unit in front of the rest of the sample. -/
def esFrameBefore (unit rest : List UInt8) : SrsEsFrameBytes :=
  { data := some (.wrap (unit ++ rest)), size := unit.length }

def nalType (unit : List UInt8) : Option UInt8 := unit.head?.map (· &&& 0x1f)

theorem isSps_esFrameBefore (unit rest : List UInt8) :
    isSps (esFrameBefore unit rest) = .ok (nalType unit == some SPS) := by
  cases unit with
  | nil => rfl
  | cons b unit => rfl

theorem isPps_esFrameBefore (unit rest : List UInt8) :
    isPps (esFrameBefore unit rest) = .ok (nalType unit == some PPS) := by
  cases unit with
  | nil => rfl
  | cons b unit => rfl

theorem takeParameterSet_other {unit : List UInt8} (hsps : nalType unit ≠ some SPS)
    (hpps : nalType unit ≠ some PPS) (rest : List UInt8) (m : SrsMp4Muxer) :
    (takeParameterSet (esFrameBefore unit rest)).run m = .ok () m := by
  rw [takeParameterSet, run_ofExcept_bind (isSps_esFrameBefore unit rest),
    if_neg (by simpa using hsps), run_ofExcept_bind (isPps_esFrameBefore unit rest),
    if_neg (by simpa using hpps), run_pure]

/-- The end of `annexb_demux`, from behind the start code on. -/
theorem skipNalUnit_frame {start : ByteBuffer} (h : start.At front rest)
    (hsize : bi.size = start.limit) :
    ∃ unit rest' next, unit ++ rest' = rest ∧ Cut unit rest' ∧
      skipNalUnit bi (bi.size - start.position) start = .ok next ∧
      next.At (front ++ unit) rest' ∧
      ({ data := some start.slice, size := next.position - start.position } : SrsEsFrameBytes) =
        esFrameBefore unit rest' := by
  have hturns : bi.size - start.position = rest.length := by
    rw [hsize, h.limit, h.position]
    omega
  obtain ⟨unit, rest', next, rfl, hcut, hrun, hat⟩ := skipNalUnit_eq rest h hsize
  refine ⟨unit, rest', next, rfl, hcut, hturns ▸ hrun, hat, ?_⟩
  have hlength : next.position - start.position = unit.length := by
    rw [hat.position, h.position, List.length_append]
    omega
  rw [esFrameBefore, ByteBuffer.slice, h.content, hlength]

/-- `annexb_demux`, when the search for a start code is known. -/
theorem run_annexbDemux_of_found {code : List UInt8} {found : Option Nat} {m m' : SrsMp4Muxer}
    (h : bb.At front (code ++ rest)) (hsize : bi.size = bb.limit) (hrest : rest ≠ [])
    (hfound : srsAvcStartswithAnnexb bb bi = .ok found) (hcode : found.getD 0 = code.length)
    (hcheck : (checkStartCode bb bi found).run m = .ok () m') :
    ∃ unit rest' bb', unit ++ rest' = rest ∧ Cut unit rest' ∧
      (annexbDemux bb bi).run m = .ok (esFrameBefore unit rest', bb') m' ∧
      bb'.At (front ++ code ++ unit) rest' := by
  have hpos : 0 < rest.length := List.length_pos_iff.mpr hrest
  have hlimit := h.limit
  have hposition := h.position
  rw [List.length_append] at hlimit
  obtain ⟨start, hskip, hstart⟩ := h.skip
  have hend : bi.size = start.limit := by
    rw [hstart.limit, List.length_append]
    omega
  obtain ⟨unit, rest', next, heq, hcut, hnext, hat, hframe⟩ := skipNalUnit_frame hstart hend
  refine ⟨unit, rest', next, heq, hcut, ?_, hat⟩
  rw [annexbDemux, if_pos (by omega), run_ofExcept_bind hfound, run_bind_ok hcheck, hcode,
    run_ofExcept_bind hskip, run_ofExcept_bind hnext, run_pure, hframe]

theorem run_annexbDemux_coded {k : Nat} (h : bb.At front (zerosOne k ++ rest))
    (hsize : bi.size = bb.limit) (hrest : rest ≠ []) (m : SrsMp4Muxer) :
    ∃ unit rest' bb', unit ++ rest' = rest ∧ Cut unit rest' ∧
      (annexbDemux bb bi).run m = .ok (esFrameBefore unit rest', bb') m ∧
      bb'.At (front ++ zerosOne k ++ unit) rest' := by
  have hpos : 0 < rest.length := List.length_pos_iff.mpr hrest
  have hfound : srsAvcStartswithAnnexb bb bi = .ok (some (k + 3)) := by
    refine srsAvcStartswithAnnexb_some h hsize (List.prefix_append _ _) ?_
    rw [List.length_append, zerosOne_length]
    omega
  have hlong : ¬ (some (k + 3)).getD 0 < 3 := by
    show ¬ k + 3 < 3
    omega
  refine run_annexbDemux_of_found h hsize hrest hfound (zerosOne_length k).symm ?_
  rw [checkStartCode, if_neg hlong, run_pure]

/-- `annexb_demux` where no start code is: it complains and takes the bytes up to the next. -/
theorem run_annexbDemux_uncoded (h : bb.At front rest) (hsize : bi.size = bb.limit)
    (hrest : rest ≠ []) (hno : ¬ Coded rest) (m : SrsMp4Muxer) :
    ∃ unit rest' bb', unit ++ rest' = rest ∧ Cut unit rest' ∧
      (annexbDemux bb bi).run m = .ok (esFrameBefore unit rest', bb')
        { m with events := m.events ++ [.recordIllegalArgumentException bi.size bb.position] } ∧
      bb'.At (front ++ unit) rest' := by
  have hdemux := @run_annexbDemux_of_found bi bb front rest [] none m _ h hsize hrest
    (srsAvcStartswithAnnexb_none h hsize hno) rfl rfl
  rwa [List.append_nil] at hdemux

end Demux

/-! ## The last unit of a sample -/

section Last

variable {bi : BufferInfo} {nal : List UInt8}

/-- The frame of a NAL unit that ends the sample. -/
def esFrameOf (nal : List UInt8) : SrsEsFrameBytes :=
  { data := some (.wrap nal), size := nal.length }

theorem esFrameBefore_nil (nal : List UInt8) : esFrameBefore nal [] = esFrameOf nal := by
  rw [esFrameBefore, esFrameOf, List.append_nil]

variable {bb : ByteBuffer}

/-- `annexb_demux` on the last unit of a sample, behind any start code. -/
theorem run_annexbDemux_last {front : List UInt8} {k : Nat} (h : bb.At front (zerosOne k ++ nal))
    (hsize : bi.size = bb.limit) (hnal : nal ≠ []) (hno : ¬ [0, 0, 1] <:+: nal) (m : SrsMp4Muxer) :
    ∃ bb', (annexbDemux bb bi).run m = .ok (esFrameOf nal, bb') m ∧
      bb'.At (front ++ zerosOne k ++ nal) [] := by
  have hlast : Cut nal [] := by
    refine ⟨?_, .inl rfl⟩
    rintro i - ⟨k, hcode, -⟩
    rw [List.append_nil] at hcode
    have hcode' := (three_suffix_zerosOne k).isInfix.trans hcode.isInfix
    exact hno (hcode'.trans (List.drop_suffix i nal).isInfix)
  obtain ⟨unit, rest', bb', heq, hcut, hrun, hat⟩ := run_annexbDemux_coded h hsize hnal m
  obtain ⟨rfl, rfl⟩ := hcut.unique hlast (by rw [heq, List.append_nil])
  refine ⟨bb', ?_, hat⟩
  rw [hrun, esFrameBefore_nil]

theorem writeVideoSampleLoop_end (h : bi.size ≤ bb.position) (turns : Nat) :
    writeVideoSampleLoop bi turns bb = pure () := by
  cases turns with
  | zero => rfl
  | succ turns => rw [writeVideoSampleLoop, if_neg (by omega)]

theorem run_writeVideoSampleLoop_last {front : List UInt8} {k : Nat}
    (h : bb.At front (zerosOne k ++ nal)) (hsize : bi.size = bb.limit) (hnal : nal ≠ [])
    (hno : ¬ [0, 0, 1] <:+: nal) {turns : Nat} (hturns : 0 < turns) (m : SrsMp4Muxer) :
    (writeVideoSampleLoop bi turns bb).run m = (takeParameterSet (esFrameOf nal)).run m := by
  obtain ⟨turns, rfl⟩ : ∃ n, turns = n + 1 := ⟨turns - 1, by omega⟩
  obtain ⟨bb', hdemux, hat⟩ := run_annexbDemux_last h hsize hnal hno m
  have hbefore : bb.position < bi.size := by
    rw [hsize, h.limit, h.position]
    simp
  have hend : bi.size ≤ bb'.position := by
    rw [hsize, h.limit, hat.position]
    simp only [List.length_append]
    omega
  rw [writeVideoSampleLoop, if_pos hbefore, run_bind_ok hdemux]
  show (takeParameterSet (esFrameOf nal) >>= fun _ => writeVideoSampleLoop bi turns bb').run m = _
  rw [writeVideoSampleLoop_end hend, bind_pure_unit]

end Last

end MediasoupDemo.Mp4.SrsMp4Muxer
