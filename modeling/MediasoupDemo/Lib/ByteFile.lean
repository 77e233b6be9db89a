import Mathlib.Data.List.Basic

/-!
# A byte file with a write position

`ByteFile` is a file that is open for writing: its bytes and the position at
which the next write goes.  A write at the end appends, and a write before the
end overwrites (`write_eq_overwrite`).  `region` is what a reader finds in a
range of the file.

`place` lays blocks one after another and gives each its offset.  A block is
found again at its offset (`region_of_mem_place`), and the ranges of the
blocks follow each other (`pairwise_place`).
-/

/-- A file open for writing. -/
structure ByteFile where
  bytes : List UInt8
  position : Nat
  deriving DecidableEq

namespace ByteFile

def empty : ByteFile := { bytes := [], position := 0 }

/-- Write `data` at the position and move the position behind it.  A position
behind the end first fills the gap with zeros. -/
def write (file : ByteFile) (data : List UInt8) : ByteFile where
  bytes := file.bytes.take file.position ++
    List.replicate (file.position - file.bytes.length) 0 ++ data ++
    file.bytes.drop (file.position + data.length)
  position := file.position + data.length

/-- Move the position. -/
def seek (file : ByteFile) (position : Nat) : ByteFile := { file with position }

/-- The bytes in the range of `size` bytes from `offset`. -/
def region (bytes : List UInt8) (offset size : Nat) : List UInt8 :=
  (bytes.drop offset).take size

/-- A write inside the file replaces as many bytes as it writes. -/
theorem write_eq_overwrite (front old back data : List UInt8) (h : data.length = old.length) :
    write { bytes := front ++ old ++ back, position := front.length } data =
      { bytes := front ++ data ++ back, position := front.length + data.length } := by
  have hdrop : (front ++ old ++ back).drop (front.length + data.length) = back := by
    rw [h, ← List.length_append, List.drop_left]
  have hgap : front.length - (front ++ old ++ back).length = 0 := by
    simp only [List.length_append]
    omega
  simp only [write, hdrop, hgap]
  simp

/-- A write behind the front of a file leaves the front. -/
theorem bytes_write_append (front bytes data : List UInt8) (position : Nat) :
    (write { bytes := front ++ bytes, position := front.length + position } data).bytes =
      front ++ (write { bytes, position } data).bytes := by
  dsimp only [write]
  rw [List.take_length_add_append, Nat.add_assoc, List.drop_length_add_append,
    List.length_append, Nat.add_sub_add_left]
  simp only [List.append_assoc]

theorem bytes_write_end {file : ByteFile} {data : List UInt8}
    (hin : file.position ≤ file.bytes.length)
    (hend : file.bytes.length ≤ file.position + data.length) :
    (file.write data).bytes = file.bytes.take file.position ++ data := by
  rw [write, Nat.sub_eq_zero_of_le hin, List.drop_eq_nil_of_le hend]
  simp

theorem length_bytes_write (file : ByteFile) (data : List UInt8) :
    (file.write data).bytes.length = max file.bytes.length (file.position + data.length) := by
  simp only [write, List.length_append, List.length_take, List.length_replicate, List.length_drop]
  omega

/-- The start of a file after a write: what was there up to the position, and then the data. -/
theorem take_bytes_write {file : ByteFile} {data : List UInt8} {n : Nat}
    (hn : n ≤ file.bytes.length) (hend : n ≤ file.position + data.length) :
    (file.write data).bytes.take n =
      file.bytes.take (min n file.position) ++ data.take (n - file.position) := by
  dsimp only [write]
  rw [List.append_assoc, List.append_assoc, List.take_append, List.take_append, List.take_append,
    List.take_take, List.length_take, List.length_replicate, List.take_replicate,
    show n - (min file.position file.bytes.length) - (file.position - file.bytes.length) =
      n - file.position by omega,
    show min (n - min file.position file.bytes.length) (file.position - file.bytes.length) = 0 by
      omega,
    show n - file.position - data.length = 0 by omega]
  simp

/-- The bytes between two others are their own region. -/
theorem region_middle (front middle back : List UInt8) :
    region (front ++ (middle ++ back)) front.length middle.length = middle := by
  simp [region]

/-! ## Blocks one after another -/

section Place

variable {α : Type} (bytes : α → List UInt8)

/-- The items with the offsets at which their bytes start. -/
def place : (offset : Nat) → List α → List (α × Nat)
  | _, [] => []
  | offset, a :: items => (a, offset) :: place (offset + (bytes a).length) items

variable (offset : Nat) (items : List α)

theorem place_concat (a : α) :
    place bytes offset (items ++ [a]) =
      place bytes offset items ++ [(a, offset + (items.flatMap bytes).length)] := by
  induction items generalizing offset with
  | nil => simp [place]
  | cons b items ih => simp [place, ih, Nat.add_assoc]

@[simp] theorem place_map_fst : (place bytes offset items).map Prod.fst = items := by
  induction items generalizing offset with
  | nil => rfl
  | cons a items ih => simp [place, ih]

/-- No block starts before the first offset. -/
theorem le_of_mem_place {offset start : Nat} {items : List α} {a : α}
    (h : (a, start) ∈ place bytes offset items) : offset ≤ start := by
  induction items generalizing offset with
  | nil => simp [place] at h
  | cons b items ih =>
    rcases List.mem_cons.mp h with heq | hmem
    · cases heq
      exact Nat.le_refl _
    · have := ih hmem
      omega

/-- The ranges of the blocks follow each other. -/
theorem pairwise_place :
    (place bytes offset items).Pairwise fun p q => p.2 + (bytes p.1).length ≤ q.2 := by
  induction items generalizing offset with
  | nil => exact List.Pairwise.nil
  | cons a items ih =>
    refine List.Pairwise.cons ?_ (ih _)
    rintro ⟨b, start⟩ hmem
    exact le_of_mem_place bytes hmem

/-- A block is found at its offset, inside the blocks. -/
theorem region_of_mem_place {front : List UInt8} {items : List α} {a : α} {start : Nat}
    (back : List UInt8) (h : (a, start) ∈ place bytes front.length items) :
    region (front ++ items.flatMap bytes ++ back) start (bytes a).length = bytes a ∧
      start + (bytes a).length ≤ (front ++ items.flatMap bytes).length := by
  induction items generalizing front with
  | nil => simp [place] at h
  | cons b items ih =>
    rcases List.mem_cons.mp h with heq | hmem
    · cases heq
      refine ⟨?_, by simp⟩
      simpa using region_middle front (bytes a) (items.flatMap bytes ++ back)
    · rw [← List.length_append] at hmem
      simpa using ih hmem

end Place

end ByteFile
