import MediasoupDemo.Runtime.Basic

/-!
# `SrsCameraView.adaptFpsRange`

The camera offers ranges of frame rates.  `adaptFpsRange` keeps the nearest of the ranges that
contain the expected rate, but it starts from the first range of the list, whether that one
contains the rate or not.  A range that contains the rate and is further away than the first one
does not replace it.

`foldl_adapt` says what the loop leaves.
-/

namespace MediasoupDemo.Encoder

open MediasoupDemo.Runtime

/-- An entry of `getSupportedPreviewFpsRange()`, in frames per 1000 seconds. -/
structure FpsRange where
  lower : Int
  upper : Int
  deriving DecidableEq

namespace FpsRange

/-- `range[0] <= expectedFps && range[1] >= expectedFps`. -/
def Contains (range : FpsRange) (expectedFps : Int) : Prop :=
  range.lower ≤ expectedFps ∧ range.upper ≥ expectedFps

instance (range : FpsRange) (expectedFps : Int) : Decidable (range.Contains expectedFps) :=
  inferInstanceAs (Decidable (_ ∧ _))

/-- `Math.abs(range[0] - expectedFps) + Math.abs(range[1] - expectedFps)`. -/
def measure (range : FpsRange) (expectedFps : Int) : Int :=
  int (int (int (range.lower - expectedFps)).natAbs + int (int (range.upper - expectedFps)).natAbs)

/-- The measure in unbounded integers. -/
def distance (range : FpsRange) (expectedFps : Int) : Int :=
  (range.lower - expectedFps).natAbs + (range.upper - expectedFps).natAbs

end FpsRange

/-- One turn of the loop of `adaptFpsRange`. -/
def adapt (expectedFps : Int) : FpsRange × Int → FpsRange → FpsRange × Int
  | (closestRange, measure), range =>
      if range.Contains expectedFps then
        let curMeasure := range.measure expectedFps
        if curMeasure < measure then (range, curMeasure) else (closestRange, measure)
      else (closestRange, measure)

def adaptFpsRange (expectedFps : Int) : List FpsRange → Except JavaException FpsRange
  | [] => throw .indexOutOfBounds
  | first :: rest =>
      let expectedFps := int (expectedFps * 1000)
      pure ((first :: rest).foldl (adapt expectedFps) (first, first.measure expectedFps)).1

/-- The rate and all distances are `int` values. -/
structure NoOverflow (expectedFps : Int) (fpsRanges : List FpsRange) : Prop where
  expected : InInt (expectedFps * 1000)
  distance : ∀ range ∈ fpsRanges, InInt (range.distance (expectedFps * 1000))

/-- If there is a range that contains the rate, one is returned, and none of them is nearer. -/
def Adapts (expectedFps : Int) (fpsRanges : List FpsRange) : Prop :=
  (∃ range ∈ fpsRanges, range.Contains (expectedFps * 1000)) →
    ∃ range ∈ fpsRanges, adaptFpsRange expectedFps fpsRanges = .ok range ∧
      range.Contains (expectedFps * 1000) ∧
      ∀ other ∈ fpsRanges, other.Contains (expectedFps * 1000) →
        range.distance (expectedFps * 1000) ≤ other.distance (expectedFps * 1000)

variable {expectedFps : Int}

theorem measure_eq_distance {range : FpsRange} (h : InInt (range.distance expectedFps)) :
    range.measure expectedFps = range.distance expectedFps := by
  have hbound := h.2
  rw [FpsRange.distance] at h hbound
  have hlower : InInt (range.lower - expectedFps) := ⟨by omega, by omega⟩
  have hupper : InInt (range.upper - expectedFps) := ⟨by omega, by omega⟩
  have hlower' : InInt (range.lower - expectedFps).natAbs := ⟨by omega, by omega⟩
  have hupper' : InInt (range.upper - expectedFps).natAbs := ⟨by omega, by omega⟩
  rw [FpsRange.measure, int_eq_self hlower, int_eq_self hupper, int_eq_self hlower',
    int_eq_self hupper', int_eq_self h, FpsRange.distance]

theorem adapt_eq (best : FpsRange) {range : FpsRange} (h : InInt (range.distance expectedFps)) :
    adapt expectedFps (best, best.distance expectedFps) range =
      if range.Contains expectedFps ∧ range.distance expectedFps < best.distance expectedFps then
        (range, range.distance expectedFps)
      else (best, best.distance expectedFps) := by
  by_cases hcontains : range.Contains expectedFps
  · simp [adapt, hcontains, measure_eq_distance h]
  · simp [adapt, hcontains]

/-- The loop keeps its first range, or changes to one that contains the rate and is nearer.  None
of those that contain the rate is nearer than what it keeps. -/
theorem foldl_adapt {ranges : List FpsRange}
    (hranges : ∀ range ∈ ranges, InInt (range.distance expectedFps)) (best : FpsRange) :
    ∃ kept, ranges.foldl (adapt expectedFps) (best, best.distance expectedFps) =
        (kept, kept.distance expectedFps) ∧
      (kept = best ∨ kept ∈ ranges ∧ kept.Contains expectedFps ∧
        kept.distance expectedFps < best.distance expectedFps) ∧
      ∀ range ∈ ranges, range.Contains expectedFps →
        kept.distance expectedFps ≤ range.distance expectedFps := by
  induction ranges generalizing best with
  | nil => exact ⟨best, rfl, .inl rfl, by simp⟩
  | cons range ranges ih =>
    obtain ⟨hrange, hrest⟩ := List.forall_mem_cons.mp hranges
    rw [List.foldl_cons, adapt_eq best hrange]
    by_cases hnearer : range.Contains expectedFps ∧
        range.distance expectedFps < best.distance expectedFps
    · rw [if_pos hnearer]
      obtain ⟨kept, hfold, hkept, hall⟩ := ih hrest range
      exact ⟨kept, hfold, by grind, by grind⟩
    · rw [if_neg hnearer]
      obtain ⟨kept, hfold, hkept, hall⟩ := ih hrest best
      exact ⟨kept, hfold, by grind, by grind⟩

/-- A nearest range that contains the rate is returned just when the first one contains it, or is
further away than one that does, or none does. -/
theorem adapts_iff {first : FpsRange} {rest : List FpsRange}
    (h : NoOverflow expectedFps (first :: rest)) :
    Adapts expectedFps (first :: rest) ↔
      first.Contains (expectedFps * 1000) ∨
        (∃ range ∈ rest, range.Contains (expectedFps * 1000) ∧
          range.distance (expectedFps * 1000) < first.distance (expectedFps * 1000)) ∨
        ∀ range ∈ rest, ¬ range.Contains (expectedFps * 1000) := by
  obtain ⟨kept, hfold, hkept, hall⟩ := foldl_adapt h.distance first
  have hresult : adaptFpsRange expectedFps (first :: rest) = .ok kept := by
    rw [adaptFpsRange, int_eq_self h.expected,
      measure_eq_distance (h.distance first List.mem_cons_self), hfold]
    rfl
  constructor
  · intro hadapts
    by_cases hsome : ∃ range ∈ rest, range.Contains (expectedFps * 1000)
    · obtain ⟨range₀, hmem₀, hcontains₀⟩ := hsome
      obtain ⟨range, -, hrange, hcontains, -⟩ :=
        hadapts ⟨range₀, List.mem_cons_of_mem _ hmem₀, hcontains₀⟩
      cases hresult.symm.trans hrange
      rcases hkept with rfl | ⟨hmem, -, hlt⟩
      · exact .inl hcontains
      · rcases List.mem_cons.mp hmem with rfl | hmem
        · exact .inl hcontains
        · exact .inr (.inl ⟨kept, hmem, hcontains, hlt⟩)
    · exact .inr (.inr fun range hmem hcontains => hsome ⟨range, hmem, hcontains⟩)
  · rintro hfirst ⟨range₀, hmem₀, hcontains₀⟩
    have hcontains : kept.Contains (expectedFps * 1000) := by
      rcases hkept with rfl | ⟨-, hcontains, -⟩
      · rcases hfirst with hcontains | ⟨range, hmem, hcontains, hlt⟩ | hnone
        · exact hcontains
        · exact absurd (hall range (List.mem_cons_of_mem _ hmem) hcontains) (by omega)
        · rcases List.mem_cons.mp hmem₀ with rfl | hmem₀
          · exact hcontains₀
          · exact absurd hcontains₀ (hnone range₀ hmem₀)
      · exact hcontains
    exact ⟨kept, by grind, hresult, hcontains, hall⟩

/-- The first range contains the rate, and a nearer one that does comes later. -/
theorem adapts_nearer :
    Adapts 24 [⟨7000, 30000⟩, ⟨15000, 15000⟩, ⟨24000, 30000⟩] :=
  (adapts_iff ⟨by decide, by decide⟩).mpr (.inl (by decide))

/-- With the rate 24 of `SrsEncoder.VFPS` a camera is set to 15 frames per second, although it
offers a range up to 30. -/
theorem not_adapts_fixedRange :
    adaptFpsRange 24 [⟨15000, 15000⟩, ⟨7000, 30000⟩] = .ok ⟨15000, 15000⟩ ∧
      FpsRange.Contains ⟨7000, 30000⟩ (24 * 1000) ∧
      ¬ FpsRange.Contains ⟨15000, 15000⟩ (24 * 1000) := by
  decide

end MediasoupDemo.Encoder
