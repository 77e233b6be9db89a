import MediasoupDemo.Runtime.Basic

/-!
# `libenc`: the block of the rotated frame

`convert_to_i420` and `convert_to_i420_with_crop_scale` share one frame.  Its width and height
decide whether the block is allocated again, but after a crop they are those of the crop, and no
longer those that the block was allocated for.  `Covers` is what remains true: the planes of the
current width and height are no larger than those the block was allocated for.
-/

namespace MediasoupDemo.Encoder

open MediasoupDemo.Runtime

/-- `YuvFrame`.  `block` is the size of the block at `data`, and the planes are offsets in it. -/
structure YuvFrame where
  width : Int := 0
  height : Int := 0
  block : Int := 0
  y : Int := 0
  u : Int := 0
  v : Int := 0

namespace YuvFrame

/-- `free(data)`, `data = malloc(size)`, and the planes for `y_size`. -/
def malloc (frame : YuvFrame) (y_size size : Int) : YuvFrame :=
  { frame with block := size, y := 0, u := y_size, v := y_size + y_size.tdiv 4 }

/-- The frame at the call of `ConvertToI420` in `convert_to_i420`. -/
def convertToI420 (frame : YuvFrame) (src_width src_height rotate_degree : Int) : YuvFrame :=
  let y_size := int (src_width * src_height)
  if rotate_degree.tmod 180 = 0 then
    if frame.width ≠ src_width ∨ frame.height ≠ src_height then
      { frame with width := src_width, height := src_height }.malloc y_size
        ((int (y_size * 4)).tdiv 2)
    else frame
  else
    if frame.width ≠ src_height ∨ frame.height ≠ src_width then
      { frame with width := src_height, height := src_width }.malloc y_size
        ((int (y_size * 4)).tdiv 2)
    else frame

/-- The frame at the call of `ConvertToI420` in `convert_to_i420_with_crop_scale`. -/
def convertToI420WithCropScale (frame : YuvFrame)
    (src_width src_height crop_width crop_height rotate_degree : Int) : YuvFrame :=
  let y_size := int (src_width * src_height)
  if rotate_degree.tmod 180 = 0 then
    { if frame.width ≠ src_width ∨ frame.height ≠ src_height then
        frame.malloc y_size ((int (y_size * 3)).tdiv 2)
      else frame with
      width := crop_width, height := crop_height }
  else
    { if frame.width ≠ src_height ∨ frame.height ≠ src_width then
        frame.malloc y_size ((int (y_size * 3)).tdiv 2)
      else frame with
      width := crop_height, height := crop_width }

/-- A call of one of the two functions. -/
inductive Call where
  | convert (src_width src_height rotate_degree : Int)
  | crop (src_width src_height crop_width crop_height rotate_degree : Int)

/-- The frame that a call converts into, which is also what it leaves. -/
def step (frame : YuvFrame) : Call → YuvFrame
  | .convert src_width src_height rotate_degree =>
      frame.convertToI420 src_width src_height rotate_degree
  | .crop src_width src_height crop_width crop_height rotate_degree =>
      frame.convertToI420WithCropScale src_width src_height crop_width crop_height rotate_degree

/-- The size of the picture that a call makes, before it is rotated. -/
def Call.size : Call → Int × Int
  | .convert src_width src_height _ => (src_width, src_height)
  | .crop _ _ crop_width crop_height _ => (crop_width, crop_height)

/-- A size of a picture: positive, even, and with a product below 2^29. -/
structure IsSize (width height : Int) : Prop where
  width_pos : 0 < width
  height_pos : 0 < height
  width_even : 2 ∣ width
  height_even : 2 ∣ height
  product : width * height < 2 ^ 29

/-- The arguments of a call. -/
def Call.Valid : Call → Prop
  | .convert src_width src_height rotate_degree =>
      IsSize src_width src_height ∧ rotate_degree ∈ [0, 90, 180, 270]
  | .crop src_width src_height crop_width crop_height rotate_degree =>
      IsSize src_width src_height ∧ IsSize crop_width crop_height ∧
        crop_width ≤ src_width ∧ crop_height ≤ src_height ∧
        rotate_degree ∈ [0, 90, 180, 270]

/-- The planes for the current width and height lie in the block and do not overlap. -/
structure PlanesInBlock (frame : YuvFrame) : Prop where
  start : 0 ≤ frame.y
  luma : frame.y + frame.width * frame.height ≤ frame.u
  chroma : frame.u + frame.width * frame.height / 4 ≤ frame.v
  stop : frame.v + frame.width * frame.height / 4 ≤ frame.block

/-- The block was allocated for `area` pixels, and holds those of the current width and height. -/
structure Covers (area : Int) (frame : YuvFrame) : Prop where
  quarters : 4 ∣ area
  y_eq : frame.y = 0
  u_eq : frame.u = area
  v_eq : frame.v = area + area / 4
  block : area + area / 2 ≤ frame.block
  current : frame.width * frame.height ≤ area

variable {frame : YuvFrame} {width height area y_size size : Int}

theorem Covers.planesInBlock (h : Covers area frame) : PlanesInBlock frame := by
  obtain ⟨hquarters, hy, hu, hv, hblock, hcurrent⟩ := h
  constructor <;> omega

/-- A product of two even numbers. -/
theorem IsSize.quarters (h : IsSize width height) : 4 ∣ width * height :=
  Int.mul_dvd_mul h.width_even h.height_even

theorem IsSize.product_pos (h : IsSize width height) : 0 < width * height :=
  Int.mul_pos h.width_pos h.height_pos

/-- A new block covers what is no larger than `y_size`. -/
theorem covers_malloc (hquarters : 4 ∣ y_size) (hpos : 0 < y_size)
    (hblock : y_size + y_size / 2 ≤ size) (hcurrent : frame.width * frame.height ≤ y_size) :
    Covers y_size (frame.malloc y_size size) := by
  refine ⟨hquarters, rfl, rfl, ?_, hblock, hcurrent⟩
  show y_size + y_size.tdiv 4 = y_size + y_size / 4
  rw [Int.tdiv_eq_ediv_of_nonneg (Int.le_of_lt hpos)]

theorem covers_convert (h : Covers area frame) (hquarters : 4 ∣ y_size) (hpos : 0 < y_size)
    (hproduct : width * height = y_size) :
    ∃ area, Covers area
      (if frame.width ≠ width ∨ frame.height ≠ height then
        { frame with width, height }.malloc y_size ((y_size * 4).tdiv 2)
      else frame) := by
  split
  · refine ⟨y_size, covers_malloc hquarters hpos ?_ (Int.le_of_eq hproduct)⟩
    rw [Int.tdiv_eq_ediv_of_nonneg (by omega)]
    omega
  · exact ⟨area, h⟩

theorem covers_crop (h : Covers area frame) (hquarters : 4 ∣ y_size) (hpos : 0 < y_size)
    (hproduct : width * height = y_size) {crop_width crop_height : Int}
    (hcrop : crop_width * crop_height ≤ y_size) :
    ∃ area, Covers area
      { if frame.width ≠ width ∨ frame.height ≠ height then
          frame.malloc y_size ((y_size * 3).tdiv 2)
        else frame with
        width := crop_width, height := crop_height } := by
  split
  · refine ⟨y_size, ?_⟩
    show Covers y_size ({ frame with width := crop_width, height := crop_height }.malloc y_size
      ((y_size * 3).tdiv 2))
    refine covers_malloc hquarters hpos ?_ hcrop
    rw [Int.tdiv_eq_ediv_of_nonneg (by omega)]
    omega
  · rename_i hsame
    -- The frame has the size of the source, so the block covers the source, and the crop.
    have hkey : frame.width = width ∧ frame.height = height := by simpa using hsame
    have hsource : y_size ≤ area := by
      rw [← hproduct, ← hkey.1, ← hkey.2]
      exact h.current
    exact ⟨area, h.quarters, h.y_eq, h.u_eq, h.v_eq, h.block, Int.le_trans hcrop hsource⟩

/-- A call with valid arguments keeps the block large enough. -/
theorem Covers.step (h : Covers area frame) {call : Call} (hvalid : call.Valid) :
    ∃ area, Covers area (frame.step call) := by
  cases call with
  | convert src_width src_height rotate_degree =>
    have hsize : IsSize src_width src_height := hvalid.1
    have hpos := hsize.product_pos
    have hproduct := hsize.product
    simp only [YuvFrame.step, convertToI420]
    rw [int_eq_self ⟨by omega, by omega⟩, int_eq_self ⟨by omega, by omega⟩]
    split
    · exact covers_convert h hsize.quarters hpos rfl
    · exact covers_convert h hsize.quarters hpos (Int.mul_comm ..)
  | crop src_width src_height crop_width crop_height rotate_degree =>
    obtain ⟨hsize, hcrop, hwidth, hheight, -⟩ := hvalid
    have hpos := hsize.product_pos
    have hproduct := hsize.product
    have hle : crop_width * crop_height ≤ src_width * src_height :=
      Int.mul_le_mul hwidth hheight (Int.le_of_lt hcrop.height_pos) (Int.le_of_lt hsize.width_pos)
    simp only [YuvFrame.step, convertToI420WithCropScale]
    rw [int_eq_self ⟨by omega, by omega⟩, int_eq_self ⟨by omega, by omega⟩]
    split
    · exact covers_crop h hsize.quarters hpos rfl hle
    · refine covers_crop h hsize.quarters hpos (Int.mul_comm ..) ?_
      rwa [Int.mul_comm]

/-- At the conversion the frame has the size of the call. -/
theorem area_step (frame : YuvFrame) (call : Call) :
    (frame.step call).width * (frame.step call).height = call.size.1 * call.size.2 := by
  cases call with
  | convert src_width src_height rotate_degree =>
    simp only [step, convertToI420, Call.size]
    split_ifs with hturned hnew hnew
    · rfl
    · rw [not_or, not_not, not_not] at hnew
      rw [hnew.1, hnew.2]
    · exact Int.mul_comm ..
    · rw [not_or, not_not, not_not] at hnew
      rw [hnew.1, hnew.2, Int.mul_comm]
  | crop src_width src_height crop_width crop_height rotate_degree =>
    simp only [step, convertToI420WithCropScale, Call.size]
    split
    · rfl
    · exact Int.mul_comm ..

/-- In any sequence of calls with valid arguments, each call converts a picture of its size into
planes that lie in the block of the frame and do not overlap. -/
theorem planesInBlock_of_valid (calls : List Call) (hcalls : ∀ call ∈ calls, call.Valid)
    (call : Call) (hcall : call.Valid) :
    PlanesInBlock ((calls.foldl step {}).step call) ∧
      ((calls.foldl step {}).step call).width * ((calls.foldl step {}).step call).height =
        call.size.1 * call.size.2 := by
  have hcovers : ∃ area, Covers area (calls.foldl step {}) := by
    have hstart : ∃ area, Covers area {} :=
      ⟨0, by omega, rfl, rfl, rfl, Int.le_refl _, Int.le_refl _⟩
    refine List.foldlRecOn (motive := fun frame => ∃ area, Covers area frame) calls step hstart ?_
    rintro frame ⟨area, h⟩ call hmem
    exact h.step (hcalls call hmem)
  obtain ⟨area, h⟩ := hcovers
  obtain ⟨area', h'⟩ := h.step hcall
  exact ⟨h'.planesInBlock, area_step _ call⟩

/-- A crop of a larger picture, and a picture of the size of the crop in the same block. -/
theorem planesInBlock_afterCrop :
    PlanesInBlock (step (step {} (.crop 640 480 320 240 90)) (.convert 320 240 90)) :=
  (planesInBlock_of_valid [.crop 640 480 320 240 90]
    (by
      intro call hmem
      cases List.mem_singleton.mp hmem
      exact ⟨⟨by decide, by decide, by decide, by decide, by decide⟩,
        ⟨by decide, by decide, by decide, by decide, by decide⟩, by decide, by decide, by decide⟩)
    (.convert 320 240 90)
    ⟨⟨by decide, by decide, by decide, by decide, by decide⟩, by decide⟩).1

end YuvFrame

end MediasoupDemo.Encoder
