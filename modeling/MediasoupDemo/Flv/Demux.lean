import MediasoupDemo.Flv.Muxer

/-!
# The units of a sample

`searchAnnexb` and `demuxAnnexb` on a buffer that holds a sample, and maybe more behind it.

* `splitUnit` is what `searchAnnexb` looks for in the rest of a sample: the first start code
  that has at least five bytes from its first byte on.
* `demuxAnnexb_some` and `demuxAnnexb_none` say what comes of the search, and
  `demuxAnnexb_true_some` and `demuxAnnexb_true_none` what comes of the check of the first
  bytes.
-/

namespace MediasoupDemo.Flv

open ByteCodec Annexb MediasoupDemo.Runtime

/-! ## The next start code -/

/-- The unit, the start code behind it and the rest, if the start code is one
that `searchAnnexb` finds. -/
def splitUnit : List UInt8 → Option (List UInt8 × StartCode × List UInt8)
  | [] => none
  | b :: bs =>
      if (b :: bs).length ≤ 4 then none
      else if [0, 0, 1] <+: b :: bs then some ([], .three, bs.drop 2)
      else if [0, 0, 0, 1] <+: b :: bs then some ([], .four, bs.drop 3)
      else (splitUnit bs).map fun split => (b :: split.1, split.2)

variable {code : StartCode} {u bs rest : List UInt8}

theorem startCodeAt_zero :
    StartCodeAt bs 0 ↔ [0, 0, 1] <+: bs ∨ [0, 0, 0, 1] <+: bs := by
  rw [StartCodeAt, List.drop_zero]

theorem startCodeAt_succ {b : UInt8} {i : Nat} :
    StartCodeAt (b :: bs) (i + 1) ↔ StartCodeAt bs i := by
  rw [StartCodeAt, StartCodeAt, List.drop_succ_cons]

theorem splitUnit_eq_none_iff :
    splitUnit bs = none ↔ ∀ i, i + 4 < bs.length → ¬ StartCodeAt bs i := by
  induction bs with
  | nil => simp [splitUnit]
  | cons b bs ih =>
    rw [splitUnit]
    by_cases hshort : (b :: bs).length ≤ 4
    · rw [if_pos hshort]
      simp only [true_iff]
      intro i hi
      omega
    rw [if_neg hshort]
    by_cases hthree : [0, 0, 1] <+: b :: bs
    · rw [if_pos hthree]
      simp only [reduceCtorEq, false_iff, not_forall, not_not]
      exact ⟨0, by omega, startCodeAt_zero.mpr (.inl hthree)⟩
    rw [if_neg hthree]
    by_cases hfour : [0, 0, 0, 1] <+: b :: bs
    · rw [if_pos hfour]
      simp only [reduceCtorEq, false_iff, not_forall, not_not]
      exact ⟨0, by omega, startCodeAt_zero.mpr (.inr hfour)⟩
    rw [if_neg hfour, Option.map_eq_none_iff, ih]
    constructor
    · intro h i hi
      cases i with
      | zero =>
        rw [startCodeAt_zero]
        exact fun hcode => hcode.elim hthree hfour
      | succ i =>
        rw [startCodeAt_succ]
        exact h i (by rw [List.length_cons] at hi; omega)
    · intro h i hi
      have := h (i + 1) (by rw [List.length_cons]; omega)
      rwa [startCodeAt_succ] at this

/-- What a split says about the bytes. -/
structure Split (bs u : List UInt8) (code : StartCode) (rest : List UInt8) : Prop where
  bytes : bs = u ++ (code.bytes ++ rest)
  long : 4 < (code.bytes ++ rest).length
  first : ∀ i < u.length, ¬ StartCodeAt bs i

theorem split_of_splitUnit (h : splitUnit bs = some (u, code, rest)) : Split bs u code rest := by
  induction bs generalizing u with
  | nil => simp [splitUnit] at h
  | cons b bs ih =>
    rw [splitUnit] at h
    by_cases hshort : (b :: bs).length ≤ 4
    · rw [if_pos hshort] at h
      cases h
    rw [if_neg hshort] at h
    by_cases hthree : [0, 0, 1] <+: b :: bs
    · rw [if_pos hthree] at h
      obtain ⟨tail, htail⟩ := hthree
      cases htail
      cases h
      exact ⟨rfl, Nat.not_le.mp hshort, by simp⟩
    rw [if_neg hthree] at h
    by_cases hfour : [0, 0, 0, 1] <+: b :: bs
    · rw [if_pos hfour] at h
      obtain ⟨tail, htail⟩ := hfour
      cases htail
      cases h
      exact ⟨rfl, Nat.not_le.mp hshort, by simp⟩
    rw [if_neg hfour] at h
    obtain ⟨⟨u', code', rest'⟩, hsplit, heq⟩ := Option.map_eq_some_iff.mp h
    cases heq
    obtain ⟨hbytes, hlong, hfirst⟩ := ih hsplit
    refine ⟨by rw [hbytes]; rfl, hlong, ?_⟩
    intro i hi
    cases i with
    | zero =>
      rw [startCodeAt_zero]
      exact fun hcode => hcode.elim hthree hfour
    | succ i =>
      rw [startCodeAt_succ]
      exact hfirst i (Nat.lt_of_succ_lt_succ hi)

theorem splitUnit_of_split (h : Split bs u code rest) : splitUnit bs = some (u, code, rest) := by
  obtain ⟨rfl, hlong, hfirst⟩ := h
  induction u with
  | nil =>
    cases code with
    | three =>
      have hshort : ¬ (0 :: 0 :: 1 :: rest).length ≤ 4 := Nat.not_le.mpr hlong
      show splitUnit (0 :: 0 :: 1 :: rest) = _
      rw [splitUnit, if_neg hshort, if_pos (by simp)]
      rfl
    | four =>
      have hshort : ¬ (0 :: 0 :: 0 :: 1 :: rest).length ≤ 4 := Nat.not_le.mpr hlong
      show splitUnit (0 :: 0 :: 0 :: 1 :: rest) = _
      rw [splitUnit, if_neg hshort, if_neg (by simp), if_pos (by simp)]
      rfl
  | cons b u ih =>
    have hhere : ¬ StartCodeAt (b :: u ++ (code.bytes ++ rest)) 0 := hfirst 0 (by simp)
    rw [List.cons_append, startCodeAt_zero, not_or] at hhere
    have hrest : splitUnit (u ++ (code.bytes ++ rest)) = some (u, code, rest) := by
      apply ih
      intro i hi
      have hnext := hfirst (i + 1) (by rw [List.length_cons]; omega)
      rwa [List.cons_append, startCodeAt_succ] at hnext
    have hshort : ¬ (b :: (u ++ (code.bytes ++ rest))).length ≤ 4 := by
      rw [List.length_cons, List.length_append]
      omega
    rw [List.cons_append, splitUnit, if_neg hshort, if_neg hhere.1, if_neg hhere.2, hrest]
    rfl

/-- A unit that can be delimited is split off. -/
theorem splitUnit_of_isNalUnit (hu : IsNalUnit u) (code : StartCode)
    (hlong : 4 < (code.bytes ++ rest).length) :
    splitUnit (u ++ (code.bytes ++ rest)) = some (u, code, rest) :=
  splitUnit_of_split ⟨rfl, hlong, fun _ hi => hu.not_startCodeAt _ hi⟩

theorem splitUnit_isNalUnit (hu : IsNalUnit u) : splitUnit u = none := by
  rw [splitUnit_eq_none_iff]
  intro i hi
  have hinside := hu.not_startCodeAt (i := i) [] (by omega)
  rwa [List.append_nil] at hinside

/-! ## Searching -/

/-- A comparison inside the buffer does not throw. -/
theorem startsWith_eq {bb : ByteBuffer} (pattern : List UInt8) :
    ∀ {index : Nat}, index + pattern.length ≤ bb.limit →
      startsWith bb index pattern = .ok (decide (pattern <+: bb.bytes.drop index)) := by
  induction pattern with
  | nil =>
    intro index _
    simp [startsWith]
    rfl
  | cons b pattern ih =>
    intro index hle
    rw [List.length_cons] at hle
    have hlt : index < bb.bytes.length := by
      rw [bb.bytes_length]
      omega
    have hget := ByteBuffer.getAt_eq (List.getElem?_eq_getElem hlt)
    rw [startsWith, hget, List.drop_eq_getElem_cons hlt]
    show (if bb.bytes[index] = b then startsWith bb (index + 1) pattern else pure false) = _
    by_cases hb : bb.bytes[index] = b
    · rw [if_pos hb, ih (by omega), hb]
      simp
    · have hno : ¬ b :: pattern <+: bb.bytes[index] :: bb.bytes.drop (index + 1) := by
        rw [List.cons_prefix_cons]
        rintro ⟨h, -⟩
        exact hb h.symm
      rw [if_neg hb, decide_eq_false hno]
      rfl

section Search

variable {bb : ByteBuffer} {front s : List UInt8}

/-- The search passes over positions without a start code. -/
theorem searchAnnexbLoop_skip (left : Nat) (k : Nat) :
    ∀ {i : Nat}, (∀ j, i ≤ j → j < i + k → ¬ StartCodeAt bb.bytes j) → i + k + 3 ≤ bb.limit →
      searchAnnexbLoop bb (k + left) i = searchAnnexbLoop bb left (i + k) := by
  induction k with
  | zero =>
    intro i _ _
    rw [Nat.zero_add, Nat.add_zero]
  | succ k ih =>
    intro i hnone hle
    have hhere : ¬ StartCodeAt bb.bytes i := hnone i (by omega) (by omega)
    unfold StartCodeAt at hhere
    have hthree : ¬ [0x00, 0x00, 0x01] <+: bb.bytes.drop i := fun h => hhere (.inl h)
    have hfour : ¬ [0x00, 0x00, 0x00, 0x01] <+: bb.bytes.drop i := fun h => hhere (.inr h)
    have hsum : k + 1 + left = k + left + 1 := by omega
    rw [hsum, searchAnnexbLoop, startsWith_eq _ (by simp; omega), startsWith_eq _ (by simp; omega),
      decide_eq_false hthree, decide_eq_false hfour]
    have hrest := @ih (i + 1) (fun j h1 h2 => hnone j (by omega) (by omega)) (by omega)
    have hpos : i + 1 + k = i + (k + 1) := by omega
    rw [hpos] at hrest
    exact hrest

/-- The search stops at a start code of either length. -/
theorem searchAnnexbLoop_code {left i : Nat} (code : StartCode)
    (h : code.bytes <+: bb.bytes.drop i) (hin : i + 4 ≤ bb.limit) :
    searchAnnexbLoop bb (left + 1) i = .ok (some (i + code.bytes.length - bb.position)) := by
  cases code with
  | three =>
    have hthree : [0x00, 0x00, 0x01] <+: bb.bytes.drop i := h
    rw [searchAnnexbLoop, startsWith_eq _ (by simp; omega), decide_eq_true hthree]
    rfl
  | four =>
    have hfour : [0x00, 0x00, 0x00, 0x01] <+: bb.bytes.drop i := h
    have hthree : ¬ [0x00, 0x00, 0x01] <+: bb.bytes.drop i := by
      obtain ⟨tail, htail⟩ := hfour
      rw [← htail]
      simp
    rw [searchAnnexbLoop, startsWith_eq _ (by simp; omega), startsWith_eq _ (by simp; omega),
      decide_eq_false hthree, decide_eq_true hfour]
    rfl

theorem startCodeAt_iff (h : bb.At front rest) (j : Nat) :
    StartCodeAt bb.bytes (front.length + j) ↔ StartCodeAt rest j := by
  rw [h.bytes, StartCodeAt, StartCodeAt, List.drop_length_add_append]

/-- Whether a start code stands at an index depends on four bytes. -/
theorem startCodeAt_append {i : Nat} (hi : i + 4 ≤ s.length) (extra : List UInt8) :
    StartCodeAt (s ++ extra) i ↔ StartCodeAt s i := by
  have hfront : ∀ pat : List UInt8, pat.length ≤ 4 →
      (pat <+: (s ++ extra).drop i ↔ pat <+: s.drop i) := by
    intro pat hpat
    rw [List.drop_append_of_le_length (by omega)]
    constructor
    · intro h
      apply List.prefix_of_prefix_length_le h (List.prefix_append _ _)
      rw [List.length_drop]
      omega
    · intro h
      exact h.trans (List.prefix_append _ _)
  rw [StartCodeAt, StartCodeAt, hfront _ (by decide), hfront _ (by decide)]

end Search

/-! ## Demuxing -/

section Demux

variable {bb : ByteBuffer} {bi : BufferInfo} {front s extra : List UInt8}

/-- The frame that `demuxAnnexb` makes of the rest of the sample.  Its data goes
on to the end of the buffer, which may hold more than the sample. -/
theorem demuxAnnexb_found (isOnlyChkHeader : Bool) {front middle rest extra : List UInt8}
    (h : bb.At front (middle ++ (rest ++ extra)))
    (hsize : bi.size = front.length + (middle ++ rest).length)
    (hmiddle : 3 ≤ middle.length) (hlong : 4 < (middle ++ rest).length)
    (hfound : search bb bi isOnlyChkHeader = .ok (some middle.length)) :
    ∃ bb', demuxAnnexb bb bi isOnlyChkHeader =
        .ok ({ data := some (.wrap (rest ++ extra)), size := rest.length }, bb') ∧
      bb'.At (front ++ middle) (rest ++ extra) := by
  obtain ⟨bb', hskip, hat⟩ := h.skip
  refine ⟨bb', ?_, hat⟩
  have hposition := h.position
  have hframe : ({ data := some bb'.slice, size := bi.size - bb'.position } : SrsFlvFrameBytes) =
      { data := some (.wrap (rest ++ extra)), size := rest.length } := by
    have hslice : bb'.slice = .wrap (rest ++ extra) := by
      rw [ByteBuffer.slice, hat.content]
    have hleft : (bi.size : Int) - bb'.position = rest.length := by
      have hposition' := hat.position
      rw [List.length_append] at hposition' hsize
      omega
    rw [hslice, hleft]
  have hbehind : (bb.position : Int) < bi.size - 4 := by omega
  rw [demuxAnnexb, if_pos hbehind, hfound]
  show (if middle.length < 3 then _ else _ : Except JavaException _) = _
  rw [if_neg (by omega)]
  have hcount : (some middle.length).getD 0 = middle.length := rfl
  rw [hcount, hskip, ← hframe]
  rfl

theorem searchAnnexb_eq (h : bb.At front (s ++ extra)) (hsize : bi.size = front.length + s.length) :
    searchAnnexb bb bi =
      .ok ((splitUnit s).map fun split => split.1.length + split.2.1.bytes.length) := by
  have hlimit := h.limit
  have hposition := h.position
  rw [List.length_append] at hlimit
  -- The positions that the loop tries are those of the sample.
  have hnone : ∀ k, k + 3 ≤ s.length → (∀ i < k, i + 4 ≤ s.length → ¬ StartCodeAt s i) →
      ∀ j, front.length ≤ j → j < front.length + k → ¬ StartCodeAt bb.bytes j := by
    intro k hk hfree j hj hlt
    have hsplit : j = front.length + (j - front.length) := by omega
    rw [hsplit, startCodeAt_iff h, startCodeAt_append (by omega)]
    exact hfree _ (by omega) (by omega)
  rw [searchAnnexb, hposition]
  cases hsplit : splitUnit s with
  | none =>
    rw [splitUnit_eq_none_iff] at hsplit
    have hturns : bi.size - 4 - front.length = s.length - 4 + 0 := by omega
    by_cases hlong : 4 ≤ s.length
    · rw [hturns, searchAnnexbLoop_skip 0 (s.length - 4)
        (hnone _ (by omega) fun i hi _ => hsplit i (by omega)) (by omega)]
      rfl
    · rw [hturns, show s.length - 4 + 0 = 0 by omega]
      rfl
  | some split =>
    obtain ⟨u, code, rest⟩ := split
    obtain ⟨rfl, hlong, hfirst⟩ := split_of_splitUnit hsplit
    rw [List.length_append] at hsize hlimit
    have hturns : bi.size - 4 - front.length =
        u.length + ((code.bytes ++ rest).length - 5 + 1) := by omega
    have hcode : code.bytes <+: bb.bytes.drop (front.length + u.length) := by
      rw [h.bytes, List.drop_length_add_append, List.append_assoc, List.drop_left,
        List.append_assoc]
      exact List.prefix_append _ _
    rw [hturns, searchAnnexbLoop_skip _ u.length
      (hnone _ (by rw [List.length_append]; omega) fun i hi _ => hfirst i hi) (by omega),
      searchAnnexbLoop_code code hcode (by omega), hposition]
    show Except.ok (some (front.length + u.length + code.bytes.length - front.length)) = _
    rw [show front.length + u.length + code.bytes.length - front.length =
      u.length + code.bytes.length by omega]
    rfl

/-- Without a start code there is no frame, and the buffer stays. -/
theorem demuxAnnexb_none (h : bb.At front (s ++ extra)) (hsize : bi.size = front.length + s.length)
    (hsplit : splitUnit s = none) : demuxAnnexb bb bi false = .ok ({}, bb) := by
  rw [demuxAnnexb]
  by_cases hlong : (bb.position : Int) < bi.size - 4
  · have hsearch : search bb bi false = .ok none := by
      show searchAnnexb bb bi = _
      rw [searchAnnexb_eq h hsize, hsplit]
      rfl
    rw [if_pos hlong, hsearch]
    rfl
  · rw [if_neg hlong]
    rfl

/-- The frame behind a start code. -/
theorem demuxAnnexb_some (h : bb.At front (s ++ extra)) (hsize : bi.size = front.length + s.length)
    (hsplit : splitUnit s = some (u, code, rest)) :
    ∃ bb', demuxAnnexb bb bi false =
        .ok ({ data := some (.wrap (rest ++ extra)), size := rest.length }, bb') ∧
      bb'.At (front ++ (u ++ code.bytes)) (rest ++ extra) := by
  have hsearch : search bb bi false = .ok (some (u ++ code.bytes).length) := by
    show searchAnnexb bb bi = _
    rw [searchAnnexb_eq h hsize, hsplit, List.length_append]
    rfl
  obtain ⟨rfl, hlong, -⟩ := split_of_splitUnit hsplit
  have hat : bb.At front ((u ++ code.bytes) ++ (rest ++ extra)) := by
    simpa [List.append_assoc] using h
  have hthree : 3 ≤ code.bytes.length := by
    cases code <;> decide
  apply demuxAnnexb_found false hat
  · rw [hsize, List.append_assoc]
  · rw [List.length_append]
    omega
  · rw [List.append_assoc, List.length_append]
    omega
  · exact hsearch

/-- The check of the first bytes needs a start code in front of the buffer and
five bytes from its position on. -/
theorem demuxAnnexb_true_none (hsize : bi.size ≤ bb.limit)
    (hnone : ¬ (bb.position + 4 < bi.size ∧ StartCodeAt bb.bytes 0)) :
    demuxAnnexb bb bi true = .ok ({}, bb) := by
  rw [demuxAnnexb]
  by_cases hlong : (bb.position : Int) < bi.size - 4
  · have hcode : ¬ StartCodeAt bb.bytes 0 := fun hcode => hnone ⟨by omega, hcode⟩
    rw [startCodeAt_zero, not_or] at hcode
    have hsearch : search bb bi true = .ok none := by
      show searchStartcode bb bi = _
      rw [searchStartcode, if_pos (by omega), startsWith_eq _ (by simp; omega),
        startsWith_eq _ (by simp; omega), List.drop_zero, decide_eq_false hcode.1,
        decide_eq_false hcode.2]
      rfl
    rw [if_pos hlong, hsearch]
    rfl
  · rw [if_neg hlong]
    rfl

/-- The frame behind the first start code: its length is skipped from the
position on, wherever that is. -/
theorem demuxAnnexb_true_some (h : bb.At front (s ++ extra))
    (hsize : bi.size = front.length + s.length) (hlong : 4 < s.length)
    (hcode : code.bytes <+: bb.bytes) :
    ∃ bb', demuxAnnexb bb bi true =
        .ok ({ data := some (.wrap (s.drop code.bytes.length ++ extra))
               size := (s.drop code.bytes.length).length }, bb') ∧
      bb'.At (front ++ s.take code.bytes.length) (s.drop code.bytes.length ++ extra) := by
  have hlimit := h.limit
  rw [List.length_append] at hlimit
  have hfour : code.bytes.length ≤ 4 := by
    cases code <;> decide
  have htaken : (s.take code.bytes.length).length = code.bytes.length := by
    rw [List.length_take]
    omega
  have hsearch : search bb bi true = .ok (some (s.take code.bytes.length).length) := by
    show searchStartcode bb bi = _
    rw [htaken, searchStartcode, if_pos (by omega), startsWith_eq _ (by simp; omega),
      startsWith_eq _ (by simp; omega), List.drop_zero]
    cases code with
    | three =>
      have hthree : [0x00, 0x00, 0x01] <+: bb.bytes := hcode
      have hnot : ¬ [0x00, 0x00, 0x00, 0x01] <+: bb.bytes := by
        obtain ⟨tail, htail⟩ := hthree
        rw [← htail]
        simp
      rw [decide_eq_true hthree, decide_eq_false hnot]
      rfl
    | four =>
      have hbytes : [0x00, 0x00, 0x00, 0x01] <+: bb.bytes := hcode
      rw [decide_eq_true hbytes]
      rfl
  have hat : bb.At front (s.take code.bytes.length ++ (s.drop code.bytes.length ++ extra)) := by
    rw [← List.append_assoc, List.take_append_drop]
    exact h
  apply demuxAnnexb_found true hat
  · rw [List.take_append_drop, hsize]
  · rw [htaken]
    cases code <;> decide
  · rw [List.take_append_drop]
    exact hlong
  · exact hsearch

/-- The unit behind the start code that a sample begins with. -/
theorem demuxAnnexb_first (startCode : StartCode) (h : bb.At [] (startCode.bytes ++ rest))
    (hsize : bi.size = bb.limit) (hlong : 4 < (startCode.bytes ++ rest).length) :
    ∃ bb', demuxAnnexb bb bi true = .ok (frameOf rest, bb') ∧ bb'.At startCode.bytes rest := by
  have hlimit := h.limit
  have hcode : startCode.bytes <+: bb.bytes := by
    rw [h.bytes]
    exact List.prefix_append _ _
  have hfull : bi.size = ([] : List UInt8).length + (startCode.bytes ++ rest).length := by omega
  rw [← List.append_nil (startCode.bytes ++ rest)] at h
  have hall := demuxAnnexb_true_some h hfull hlong hcode
  rw [List.drop_left, List.take_left, List.append_nil] at hall
  exact hall

end Demux

end MediasoupDemo.Flv
