import MediasoupDemo.Mp4.Reachable
import MediasoupDemo.Mp4.SampleLoops

/-!
# The parameter sets of a recording

`writeVideoSample` compares a parameter set with the one that it has, and keeps the one that it
has if they are the same.  What it compares is not the set but the rest of the sample from the
set on.  This does no harm as long as samples end at their limit: a rest that goes on behind the
set holds a start code, and no set that was found before holds one (`HoldsLast.copy`).

`History` are the states of a muxer with all the units that it has seen.  `History.holds` says
that the lists of the muxer hold the last sets of all.
-/

namespace MediasoupDemo.Mp4.SrsMp4Muxer

open Annexb MediasoupDemo.Runtime Method WhileLoop

/-! ## The last unit of a type -/

/-- The last unit of a type. -/
def lastOf (type : UInt8) (seen : List (List UInt8)) : Option (List UInt8) :=
  (seen.filter (nalType · == some type)).getLast?

section LastOf

variable {type : UInt8} {seen : List (List UInt8)} {unit : List UInt8}

theorem lastOf_concat_of_eq (h : nalType unit = some type) :
    lastOf type (seen ++ [unit]) = some unit := by
  simp [lastOf, h]

theorem lastOf_concat_of_ne (h : nalType unit ≠ some type) :
    lastOf type (seen ++ [unit]) = lastOf type seen := by
  simp [lastOf, h]

theorem mem_of_lastOf (h : lastOf type seen = some unit) : unit ∈ seen :=
  (List.mem_filter.mp (List.mem_of_getLast? h)).1

end LastOf

/-! ## One unit -/

/-- No start code with a byte behind it stands in the unit. -/
def Uncoded (unit : List UInt8) : Prop := ∀ i, ¬ Coded (unit.drop i)

theorem Cut.uncoded {unit rest : List UInt8} (h : Cut unit rest) : Uncoded unit := by
  intro i hcoded
  by_cases hi : i < unit.length
  · have hmore := hcoded.append rest
    rw [← List.drop_append_of_le_length (Nat.le_of_lt hi)] at hmore
    exact h.unit i hi hmore
  · rw [List.drop_eq_nil_of_le (Nat.not_lt.mp hi)] at hcoded
    exact not_coded_nil hcoded

/-- The muxer has the last unit of a type, as a buffer and in a list. -/
structure HoldsLast (type : UInt8) (current : Option ByteBuffer) (list : List (List UInt8))
    (seen : List (List UInt8)) : Prop where
  current : current = (lastOf type seen).map .wrap
  list : list = (lastOf type seen).toList

section Copy

variable {type : UInt8} {current : Option ByteBuffer} {list seen : List (List UInt8)}
  {unit rest : List UInt8}

theorem HoldsLast.of_ne (h : HoldsLast type current list seen) (hne : nalType unit ≠ some type) :
    HoldsLast type current list (seen ++ [unit]) := by
  constructor
  · rw [lastOf_concat_of_ne hne]
    exact h.current
  · rw [lastOf_concat_of_ne hne]
    exact h.list

theorem holdsLast_concat (htype : nalType unit = some type) :
    HoldsLast type (some (.wrap unit)) [unit] (seen ++ [unit]) := by
  constructor
  · rw [lastOf_concat_of_eq htype]
    rfl
  · rw [lastOf_concat_of_eq htype]
    rfl

theorem copyIfChanged_of_not_equals
    (h : (ByteBuffer.wrap (unit ++ rest)).equals current = false) :
    copyIfChanged (esFrameBefore unit rest) current = .ok (some unit) := by
  obtain ⟨after, hget⟩ := @ByteBuffer.getBytes_eq (.wrap (unit ++ rest)) unit.length
    (by rw [← ByteBuffer.content_length, ByteBuffer.content_wrap, List.length_append]; omega)
  rw [ByteBuffer.content_wrap, List.take_left] at hget
  simp only [copyIfChanged, esFrameBefore, h, hget]
  rfl

/-- A unit of the type is copied, or is the one that the muxer has. -/
theorem HoldsLast.copy (h : HoldsLast type current list seen) (hseen : ∀ u ∈ seen, Uncoded u)
    (hcut : Cut unit rest) (htype : nalType unit = some type) :
    copyIfChanged (esFrameBefore unit rest) current = .ok (some unit) ∨
      copyIfChanged (esFrameBefore unit rest) current = .ok none ∧
        HoldsLast type current list (seen ++ [unit]) := by
  cases hequals : (ByteBuffer.wrap (unit ++ rest)).equals current with
  | false => exact .inl (copyIfChanged_of_not_equals hequals)
  | true =>
    refine .inr ⟨?_, ?_⟩
    · simp only [copyIfChanged, esFrameBefore, hequals]
      rfl
    · obtain ⟨hcurrent, hlist⟩ := h
      cases hlast : lastOf type seen with
      | none =>
        rw [hcurrent, hlast] at hequals
        cases hequals
      | some last =>
        rw [hcurrent, hlast] at hequals
        have hsame : unit ++ rest = last := by
          have hcontent := eq_of_beq hequals
          simpa using hcontent
        -- Behind the unit there is nothing: a start code there would stand in the old unit.
        have hrest : rest = [] := by
          refine hcut.rest.resolve_right fun hcoded => ?_
          refine hseen last (mem_of_lastOf hlast) unit.length ?_
          rw [← hsame, List.drop_left]
          exact hcoded
        rw [hrest, List.append_nil] at hsame
        rw [hcurrent, hlist, hlast, ← hsame]
        exact holdsLast_concat htype

end Copy

/-! ## Units of a sample -/

/-- The muxer has the last parameter sets of what it has seen. -/
def HoldsSets (m : SrsMp4Muxer) (seen : List (List UInt8)) : Prop :=
  HoldsLast SPS m.h264_sps m.spsList seen ∧ HoldsLast PPS m.h264_pps m.ppsList seen ∧
    ∀ unit ∈ seen, Uncoded unit

variable {bb : ByteBuffer}

section Unit

variable {m : SrsMp4Muxer} {seen : List (List UInt8)} {unit rest : List UInt8}

theorem HoldsSets.takeParameterSet (h : m.HoldsSets seen) (hcut : Cut unit rest) :
    ∃ m', (takeParameterSet (esFrameBefore unit rest)).run m = .ok () m' ∧
      m'.HoldsSets (seen ++ [unit]) := by
  obtain ⟨hsps, hpps, hseen⟩ := h
  have hseen' : ∀ u ∈ seen ++ [unit], Uncoded u := by
    intro u hu
    rcases List.mem_append.mp hu with hu | hu
    · exact hseen u hu
    · rw [List.mem_singleton.mp hu]
      exact hcut.uncoded
  by_cases htype : nalType unit = some SPS
  · have hno : nalType unit ≠ some PPS := by
      rw [htype]
      decide
    rw [SrsMp4Muxer.takeParameterSet, run_ofExcept_bind (isSps_esFrameBefore unit rest),
      if_pos (beq_iff_eq.mpr htype), run_get_bind]
    rcases hsps.copy hseen hcut htype with hcopy | ⟨hcopy, hsps'⟩
    · rw [run_ofExcept_bind hcopy]
      exact ⟨_, rfl, holdsLast_concat htype, hpps.of_ne hno, hseen'⟩
    · rw [run_ofExcept_bind hcopy]
      exact ⟨_, rfl, hsps', hpps.of_ne hno, hseen'⟩
  · by_cases htype' : nalType unit = some PPS
    · rw [SrsMp4Muxer.takeParameterSet, run_ofExcept_bind (isSps_esFrameBefore unit rest),
        if_neg (by simpa using htype), run_ofExcept_bind (isPps_esFrameBefore unit rest),
        if_pos (beq_iff_eq.mpr htype'), run_get_bind]
      rcases hpps.copy hseen hcut htype' with hcopy | ⟨hcopy, hpps'⟩
      · rw [run_ofExcept_bind hcopy]
        exact ⟨_, rfl, hsps.of_ne htype, holdsLast_concat htype', hseen'⟩
      · rw [run_ofExcept_bind hcopy]
        exact ⟨_, rfl, hsps.of_ne htype, hpps', hseen'⟩
    · exact ⟨m, takeParameterSet_other htype htype' rest m, hsps.of_ne htype, hpps.of_ne htype',
        hseen'⟩

variable {bi : BufferInfo}

/-- A turn that finds a unit. -/
theorem HoldsSets.body_of_demux {m' : SrsMp4Muxer} {bb' : ByteBuffer} (h : m'.HoldsSets seen)
    (hcut : Cut unit rest)
    (hdemux : (annexbDemux bb bi).run m = .ok (esFrameBefore unit rest, bb') m') :
    ∃ m'', (writeVideoSampleBody bi bb).run m = .ok (unit, bb') m'' ∧
      m''.HoldsSets (seen ++ [unit]) := by
  obtain ⟨m'', htake, hholds⟩ := h.takeParameterSet hcut
  refine ⟨m'', ?_, hholds⟩
  rw [writeVideoSampleBody, run_bind_ok hdemux, run_bind_ok htake, run_pure, bytes_esFrameBefore]

/-- A turn on a sample that ends at its limit. -/
theorem HoldsSets.body (h : m.HoldsSets seen) (hsize : bi.size = bb.limit)
    (hpos : bb.position < bi.size) :
    ∃ unit bb' m', (writeVideoSampleBody bi bb).run m = .ok (unit, bb') m' ∧
      m'.HoldsSets (seen ++ [unit]) ∧ bi.size = bb'.limit := by
  have hat := bb.at_position
  have hcontent : bb.content ≠ [] := by
    have hlength := bb.content_length
    intro hnil
    rw [hnil, ByteBuffer.remaining] at hlength
    simp only [List.length_nil] at hlength
    omega
  by_cases hcoded : Coded bb.content
  · obtain ⟨k, ⟨rest, hrest⟩, hlen⟩ := hcoded
    have hne : rest ≠ [] := by
      rintro rfl
      rw [← hrest, List.append_nil, zerosOne_length] at hlen
      omega
    rw [← hrest] at hat
    obtain ⟨unit, rest', bb', rfl, hcut, hdemux, hat'⟩ := run_annexbDemux_coded hat hsize hne m
    obtain ⟨m', hbody, hholds⟩ := h.body_of_demux hcut hdemux
    refine ⟨unit, bb', m', hbody, hholds, ?_⟩
    rw [hsize, hat.limit, hat'.limit]
    simp only [List.length_append]
    omega
  · obtain ⟨unit, rest', bb', heq, hcut, hdemux, hat'⟩ :=
      run_annexbDemux_uncoded hat hsize hcontent hcoded m
    obtain ⟨m', hbody, hholds⟩ := body_of_demux (by exact h) hcut hdemux
    refine ⟨unit, bb', m', hbody, hholds, ?_⟩
    rw [hsize, hat.limit, hat'.limit, ← heq]
    simp only [List.length_append]
    omega

end Unit

/-! ## Samples -/

/-- The bytes of units behind their start codes. -/
def codedUnits (units : List (Nat × List UInt8)) : List UInt8 :=
  units.flatMap fun p => zerosOne p.1 ++ p.2

theorem codedUnits_cons (k : Nat) (unit : List UInt8) (units : List (Nat × List UInt8)) :
    codedUnits ((k, unit) :: units) = zerosOne k ++ (unit ++ codedUnits units) := by
  simp [codedUnits]

/-- A sample of NAL units that starts at the position and ends at the limit, and is searched. -/
structure UnitSample (units : List (Nat × List UInt8)) (bb : ByteBuffer) (bi : BufferInfo) :
    Prop where
  nalUnits : ∀ p ∈ units, IsNalUnit p.2
  bytes : bb.bytes = codedUnits units
  position : bb.position = 0
  limit : bi.size = bb.limit
  searched : Searched bb

section Sample

variable {bi : BufferInfo}

/-- What stands behind a unit. -/
theorem codedUnits_eq_nil_or {units : List (Nat × List UInt8)}
    (h : ∀ p ∈ units, IsNalUnit p.2) : codedUnits units = [] ∨ Coded (codedUnits units) := by
  cases units with
  | nil => exact .inl rfl
  | cons p units =>
    refine .inr ?_
    rw [codedUnits_cons]
    refine coded_zerosOne_append _ fun hnil => ?_
    exact (h p List.mem_cons_self).nonempty (List.append_eq_nil_iff.mp hnil).1

/-- The loop takes the units one by one. -/
theorem runs_units (units : List (Nat × List UInt8)) :
    ∀ {bb : ByteBuffer} {front : List UInt8} {m : SrsMp4Muxer} {seen frames : List (List UInt8)},
      bb.At front (codedUnits units) → bi.size = bb.limit → (∀ p ∈ units, IsNalUnit p.2) →
      m.HoldsSets seen → ∃ bb' m',
        Runs (writeVideoSampleTurn bi) ⟨bb, m, frames⟩
          (.ok ⟨bb', m', frames ++ units.map Prod.snd⟩) ∧
        m'.HoldsSets (seen ++ units.map Prod.snd) := by
  induction units with
  | nil =>
    intro bb front m seen frames hat hsize _ hholds
    refine ⟨bb, m, ?_, ?_⟩
    · rw [List.map_nil, List.append_nil]
      refine .leaves (writeVideoSampleTurn_of_le ?_)
      rw [hsize, hat.limit, hat.position]
      exact Nat.le_refl _
    · rw [List.map_nil, List.append_nil]
      exact hholds
  | cons p units ih =>
    intro bb front m seen frames hat hsize hunits hholds
    obtain ⟨k, unit⟩ := p
    have hunit : IsNalUnit unit := hunits (k, unit) List.mem_cons_self
    have hunits' : ∀ p ∈ units, IsNalUnit p.2 := fun p hp => hunits p (List.mem_cons_of_mem _ hp)
    have hcut : Cut unit (codedUnits units) :=
      cut_of_isNalUnit hunit (codedUnits_eq_nil_or hunits')
    rw [codedUnits_cons] at hat
    have hne : unit ++ codedUnits units ≠ [] := fun hnil =>
      hunit.nonempty (List.append_eq_nil_iff.mp hnil).1
    have hpos : bb.position < bi.size := by
      rw [hsize, hat.limit, hat.position, List.length_append, zerosOne_length]
      omega
    obtain ⟨unit', rest', bb', heq, hcut', hdemux, hat'⟩ := run_annexbDemux_coded hat hsize hne m
    obtain ⟨rfl, rfl⟩ := hcut'.unique hcut heq
    obtain ⟨m', hbody, hholds'⟩ := hholds.body_of_demux hcut hdemux
    have hsize' : bi.size = bb'.limit := by
      rw [hsize, hat.limit, hat'.limit]
      simp only [List.length_append]
      omega
    obtain ⟨last, final, hruns, hfinal⟩ := @ih bb' _ m' (seen ++ [unit']) (frames ++ [unit'])
      hat' hsize' hunits' hholds'
    rw [List.append_assoc] at hruns hfinal
    exact ⟨last, final, .next (writeVideoSampleTurn_of_ok hpos hbody) hruns, hfinal⟩

/-- Whatever a sample that ends at its limit holds, its units have been seen after the loop. -/
theorem HoldsSets.of_runs {m : SrsMp4Muxer} {seen : List (List UInt8)} (h : m.HoldsSets seen)
    (hsize : bi.size = bb.limit) {s : SampleLoop}
    (hruns : Runs (writeVideoSampleTurn bi) ⟨bb, m, []⟩ (.ok s)) :
    s.muxer.HoldsSets (seen ++ s.frames) := by
  let Inv : SampleLoop → Prop := fun s =>
    bi.size = s.bb.limit ∧ s.muxer.HoldsSets (seen ++ s.frames)
  have hstart : Inv ⟨bb, m, []⟩ := ⟨hsize, by rw [List.append_nil]; exact h⟩
  have hnext : ∀ s s', Inv s → writeVideoSampleTurn bi s = .ok (.inr s') → Inv s' := by
    rintro s s' ⟨hlimit, hholds⟩ hturn
    obtain ⟨-, heq⟩ | ⟨-, _, _, -, heq⟩ | ⟨hpos, bytes, bb', m', hbody, heq⟩ :=
      writeVideoSampleTurn_cases hturn
    · cases heq
    · cases heq
    · cases heq
      obtain ⟨unit, bb'', m'', hbody', hholds', hlimit'⟩ := hholds.body hlimit hpos
      rw [hbody] at hbody'
      cases hbody'
      rw [List.append_assoc] at hholds'
      exact ⟨hlimit', hholds'⟩
  have hleave : ∀ s s', Inv s → writeVideoSampleTurn bi s = .ok (.inl s') → Inv s' := by
    intro s s' hinv hturn
    obtain ⟨-, heq⟩ | ⟨-, _, _, -, heq⟩ | ⟨-, _, _, _, -, heq⟩ := writeVideoSampleTurn_cases hturn
    · cases heq
      exact hinv
    · cases heq
    · cases heq
  exact (hruns.invariant hnext hleave hstart).2

end Sample

/-! ## All samples -/

/-- The states between calls, with the units seen.  The samples that are searched end at their
limit; they may hold anything. -/
inductive History (moov : MovieBox → List UInt8) : List (List UInt8) → SrsMp4Muxer → Prop
  | new : History moov [] {}
  | call {seen : List (List UInt8)} {m : SrsMp4Muxer} (h : History moov seen m) (c : Call)
      (hc : ¬ c.Searches) (outcomes : List IoOutcome) :
      History moov seen (final (c.method moov) { m with outcomes })
  | sample {seen : List (List UInt8)} {m : SrsMp4Muxer} (h : History moov seen m) (bb : ByteBuffer)
      (bi : BufferInfo) (hbb : Searched bb) (hsize : bi.size = bb.limit) {s : SampleLoop}
      (hruns : Runs (writeVideoSampleTurn bi) ⟨bb, m, []⟩ (.ok s)) :
      History moov (seen ++ s.frames)
        (final ((Call.writeSampleData .VIDEO_TRACK bb bi).method moov) m)

theorem callStable_holdsSets (seen : List (List UInt8)) : CallStable (HoldsSets · seen) where
  file := fun _ _ _ _ _ _ _ h => h
  grow := fun _ _ h => h
  addSample := fun _ _ _ _ _ h => h
  empty := fun _ h => h
  flags := fun _ _ _ _ _ _ _ _ h => h
  videoFormat := fun _ _ h => h
  audioFormat := fun _ _ h => h
  addVideo := fun _ _ _ _ _ _ _ h => h
  addAudio := fun _ _ _ _ _ h => h

/-- The lists hold the last sets of all units seen. -/
theorem History.holds {moov : MovieBox → List UInt8} {seen : List (List UInt8)} {m : SrsMp4Muxer}
    (h : History moov seen m) : m.HoldsSets seen := by
  induction h with
  | new => exact ⟨⟨rfl, rfl⟩, ⟨rfl, rfl⟩, by simp⟩
  | @call seen m _ c hc outcomes ih =>
    have hstable := callStable_holdsSets seen
    exact hstable.preserves_call moov hc _ (hstable.file m _ outcomes _ _ _ _ ih)
  | @sample seen m _ bb bi hbb hsize s hruns ih =>
    have hfinal : final ((Call.writeSampleData .VIDEO_TRACK bb bi).method moov) m = s.muxer := by
      show final (writeVideoSample bb bi) m = s.muxer
      rw [final, run_writeVideoSample_of_searched hbb,
        run_writeVideoSampleLoop_of_runs hruns (Nat.sub_le _ _)]
      rfl
    rw [hfinal]
    exact ih.of_runs hsize hruns

/-- The search for parameter sets.  In a sample of NAL units it finds these units in order, and
then the muxer has the last sets of all that it has seen.  On any buffer its three loops end, with
what the model computes. -/
theorem writeVideoSample_search (moov : MovieBox → List UInt8) :
    (∀ (seen : List (List UInt8)) (m : SrsMp4Muxer), History moov seen m →
      ∀ (units : List (Nat × List UInt8)) (bb : ByteBuffer) (bi : BufferInfo),
        UnitSample units bb bi → ∃ bb' m',
          Runs (writeVideoSampleTurn bi) ⟨bb, m, []⟩ (.ok ⟨bb', m', units.map Prod.snd⟩) ∧
          (writeVideoSample bb bi).run m = .ok () m' ∧
          m'.spsList = (lastOf SPS (seen ++ units.map Prod.snd)).toList ∧
          m'.ppsList = (lastOf PPS (seen ++ units.map Prod.snd)).toList) ∧
    ∀ (bb : ByteBuffer) (bi : BufferInfo),
      Runs (startswithAnnexbTurn bb bi) bb.position (srsAvcStartswithAnnexb bb bi) ∧
      Runs (skipNalUnitTurn bi) bb (skipNalUnit bi (bi.size - bb.position) bb) ∧
      ∀ m : SrsMp4Muxer, ∃ result, Runs (writeVideoSampleTurn bi) ⟨bb, m, []⟩ result ∧
        (writeVideoSampleLoop bi bi.size bb).run m = SampleLoop.outcome result := by
  refine ⟨?_, ?_⟩
  · intro seen m hm units bb bi hsample
    have hat : bb.At [] (codedUnits units) := ⟨hsample.bytes, hsample.position⟩
    obtain ⟨bb', m', hruns, hsps, hpps, -⟩ :=
      @runs_units bi units bb [] m seen [] hat hsample.limit hsample.nalUnits hm.holds
    rw [List.nil_append] at hruns
    refine ⟨bb', m', hruns, ?_, hsps.list, hpps.list⟩
    rw [run_writeVideoSample_of_searched hsample.searched,
      run_writeVideoSampleLoop_of_runs hruns (Nat.sub_le _ _)]
    rfl
  · intro bb bi
    refine ⟨runs_startswithAnnexb, runs_skipNalUnit, fun m => ?_⟩
    obtain ⟨result, hruns⟩ := exists_runs_writeVideoSample bi ⟨bb, m, []⟩
    exact ⟨result, hruns, run_writeVideoSampleLoop_of_runs hruns (Nat.sub_le _ _)⟩

/-- A new muxer takes both sets of a sample, behind start codes of different lengths. -/
theorem writeVideoSample_search_spsPps :
    ∃ m', (writeVideoSample (.wrap [0, 0, 0, 1, 0x67, 0x42, 0, 0, 1, 0x68, 0xce])
        { offset := 0, size := 11, presentationTimeUs := 0, flags := 0 }).run {} = .ok () m' ∧
      m'.spsList = [[0x67, 0x42]] ∧ m'.ppsList = [[0x68, 0xce]] := by
  have hsample : UnitSample [(1, [0x67, 0x42]), (0, [0x68, 0xce])]
      (.wrap [0, 0, 0, 1, 0x67, 0x42, 0, 0, 1, 0x68, 0xce])
      { offset := 0, size := 11, presentationTimeUs := 0, flags := 0 } :=
    ⟨by decide, by decide, rfl, rfl, 0x67, rfl, by decide⟩
  obtain ⟨bb', m', -, hrun, hsps, hpps⟩ :=
    (writeVideoSample_search fun _ => []).1 [] {} .new _ _ _ hsample
  exact ⟨m', hrun, hsps, hpps⟩

end MediasoupDemo.Mp4.SrsMp4Muxer
