import MediasoupDemo.Lib.ByteCodec
import MediasoupDemo.Runtime.Basic
import Mathlib.Data.List.Basic

/-!
# `java.nio.ByteBuffer`

A buffer is an array with a position and a limit, and the two index bounds
that the Java class keeps are fields of the structure.  Relative operations
move the position and absolute ones do not; an access outside the bounds
throws what the Java method throws.

A buffer is a value here.  The modelled code shares the array of a sample
between several buffers and never writes into it, so nothing is lost: `slice`
and `duplicate` copy.

`content` is what is left between the position and the limit.  Comparing two
buffers compares their contents (`equals`), which is why a comparison can see
more than the frame that a caller has in mind.
-/

namespace MediasoupDemo.Runtime

open ByteCodec

/-- `java.nio.ByteBuffer`. -/
structure ByteBuffer where
  array : List UInt8
  position : Nat
  limit : Nat
  position_le : position ≤ limit
  limit_le : limit ≤ array.length
  deriving DecidableEq

variable {b : ByteBuffer}

namespace ByteBuffer

def wrap (bytes : List UInt8) : ByteBuffer where
  array := bytes
  position := 0
  limit := bytes.length
  position_le := Nat.zero_le _
  limit_le := Nat.le_refl _

/-- The bytes between the position and the limit. -/
def content (b : ByteBuffer) : List UInt8 := (b.array.take b.limit).drop b.position

def remaining (b : ByteBuffer) : Nat := b.limit - b.position

/-- `get(index)`. -/
def getAt (b : ByteBuffer) (index : Nat) : Except JavaException UInt8 :=
  if h : index < b.limit then
    pure (b.array.get ⟨index, Nat.lt_of_lt_of_le h b.limit_le⟩)
  else throw .indexOutOfBounds

/-- The relative bulk get of `size` bytes: the bytes and the buffer after
them. -/
def getBytes (b : ByteBuffer) (size : Nat) : Except JavaException (List UInt8 × ByteBuffer) :=
  if h : b.position + size ≤ b.limit then
    pure (b.content.take size,
      { b with position := b.position + size, position_le := h })
  else throw .bufferUnderflow

/-- `size` turns of the relative `get()` whose bytes are thrown away. -/
def skip (b : ByteBuffer) (size : Nat) : Except JavaException ByteBuffer :=
  if h : b.position + size ≤ b.limit then
    pure { b with position := b.position + size, position_le := h }
  else throw .bufferUnderflow

/-- `slice()`: a buffer of its own over the content. -/
def slice (b : ByteBuffer) : ByteBuffer := wrap b.content

def duplicate (b : ByteBuffer) : ByteBuffer := b

/-- `position(newPosition)`. -/
def setPosition (b : ByteBuffer) (newPosition : Nat) : Except JavaException ByteBuffer :=
  if h : newPosition ≤ b.limit then
    pure { b with position := newPosition, position_le := h }
  else throw (.illegalArgument "newPosition > limit")

/-- `limit(newLimit)`: a position behind the new limit moves back to it. -/
def setLimit (b : ByteBuffer) (newLimit : Nat) : Except JavaException ByteBuffer :=
  if h : newLimit ≤ b.array.length then
    pure
      { b with
        position := min b.position newLimit, limit := newLimit
        position_le := Nat.min_le_right _ _, limit_le := h }
  else throw (.illegalArgument "newLimit > capacity")

/-- `equals(ob)`: the contents are the same.  `none` is Java's `null`. -/
def equals (b : ByteBuffer) (ob : Option ByteBuffer) : Bool :=
  match ob with
  | none => false
  | some ob => b.content == ob.content

@[simp] theorem content_length (b : ByteBuffer) : b.content.length = b.remaining := by
  have := b.limit_le
  simp only [content, remaining, List.length_drop, List.length_take]
  omega

@[simp] theorem content_wrap (bytes : List UInt8) : (wrap bytes).content = bytes := by
  simp [content, wrap]

theorem equals_wrap_iff {bytes : List UInt8} {ob : Option ByteBuffer} :
    (wrap bytes).equals ob = true ↔ ob.map content = some bytes := by
  cases ob with
  | none => simp [equals]
  | some ob => rw [equals, content_wrap, beq_iff_eq, Option.map_some, Option.some.injEq, eq_comm]

theorem setPosition_error {newPosition : Nat} {e : JavaException}
    (h : b.setPosition newPosition = .error e) : ∃ message, e = .illegalArgument message := by
  by_cases hle : newPosition ≤ b.limit
  · rw [setPosition, dif_pos hle] at h
    cases h
  · rw [setPosition, dif_neg hle] at h
    cases h
    exact ⟨_, rfl⟩

theorem setLimit_error {newLimit : Nat} {e : JavaException} (h : b.setLimit newLimit = .error e) :
    ∃ message, e = .illegalArgument message := by
  by_cases hle : newLimit ≤ b.array.length
  · rw [setLimit, dif_pos hle] at h
    cases h
  · rw [setLimit, dif_neg hle] at h
    cases h
    exact ⟨_, rfl⟩

/-- `position(start)` and then `limit(stop)` leave the bytes in between. -/
theorem setPosition_setLimit {start stop : Nat} (h : start ≤ stop) (hstop : stop ≤ b.limit) :
    ∃ b' b'', b.setPosition start = .ok b' ∧ b'.setLimit stop = .ok b'' ∧
      b''.content = (b.array.take stop).drop start := by
  have hstart : start ≤ b.limit := Nat.le_trans h hstop
  have hcap : stop ≤ b.array.length := Nat.le_trans hstop b.limit_le
  refine ⟨{ b with position := start, position_le := hstart },
    { b with
      position := min start stop, limit := stop
      position_le := Nat.min_le_right _ _, limit_le := hcap }, ?_, ?_, ?_⟩
  · rw [setPosition, dif_pos hstart]
    rfl
  · rw [setLimit, dif_pos hcap]
    rfl
  · simp [content, Nat.min_eq_left h]

/-- The bytes that the absolute operations see. -/
def bytes (b : ByteBuffer) : List UInt8 := b.array.take b.limit

@[simp] theorem bytes_wrap (bytes : List UInt8) : (wrap bytes).bytes = bytes := by
  simp [ByteBuffer.bytes, wrap]

theorem bytes_length (b : ByteBuffer) : b.bytes.length = b.limit := by
  rw [bytes, List.length_take, Nat.min_eq_left b.limit_le]

theorem getAt_eq {index : Nat} {x : UInt8} (h : b.bytes[index]? = some x) :
    b.getAt index = .ok x := by
  obtain ⟨hlt, hget⟩ := List.getElem?_eq_some_iff.mp h
  have hlimit : index < b.limit := by
    rw [b.bytes_length] at hlt
    exact hlt
  have hbyte : b.array.get ⟨index, Nat.lt_of_lt_of_le hlimit b.limit_le⟩ = x := by
    rw [← hget]
    simp [bytes]
  rw [getAt, dif_pos hlimit, hbyte]
  rfl

variable {size : Nat}

theorem getBytes_eq (h : size ≤ b.remaining) :
    ∃ b', b.getBytes size = .ok (b.content.take size, b') := by
  have hle := b.position_le
  have hin : b.position + size ≤ b.limit := by
    rw [remaining] at h
    omega
  rw [getBytes, dif_pos hin]
  exact ⟨_, rfl⟩

theorem skip_eq (h : size ≤ b.remaining) :
    ∃ b', b.skip size = .ok b' ∧ b'.bytes = b.bytes ∧ b'.position = b.position + size ∧
      b'.content = b.content.drop size := by
  have hle := b.position_le
  have hin : b.position + size ≤ b.limit := by
    rw [remaining] at h
    omega
  refine ⟨{ b with position := b.position + size, position_le := hin }, ?_, rfl, rfl, ?_⟩
  · rw [skip, dif_pos hin]
    rfl
  · simp [content]

theorem position_of_skip {b' : ByteBuffer} (h : b.skip size = .ok b') :
    b'.position = b.position + size := by
  unfold skip at h
  split at h
  · cases h
    rfl
  · cases h

/-! ## Reading through a sample -/

/-- The bytes are `front`, up to the position, and `rest`. -/
structure At (b : ByteBuffer) (front rest : List UInt8) : Prop where
  bytes : b.bytes = front ++ rest
  position : b.position = front.length

section At

variable {b : ByteBuffer} {front rest : List UInt8}

theorem At.content (h : b.At front rest) : b.content = rest := by
  show b.bytes.drop b.position = rest
  rw [h.bytes, h.position, List.drop_left]

theorem At.limit (h : b.At front rest) : b.limit = front.length + rest.length := by
  rw [← b.bytes_length, h.bytes, List.length_append]

theorem At.remaining (h : b.At front rest) : b.remaining = rest.length := by
  rw [← b.content_length, h.content]

theorem at_position (b : ByteBuffer) : b.At (b.bytes.take b.position) b.content := by
  refine ⟨(List.take_append_drop _ _).symm, ?_⟩
  rw [List.length_take, b.bytes_length, Nat.min_eq_left b.position_le]

theorem at_wrap (sample : List UInt8) : (wrap sample).At [] sample :=
  ⟨by simp, rfl⟩

theorem At.skip {middle : List UInt8} (h : b.At front (middle ++ rest)) :
    ∃ b', b.skip middle.length = .ok b' ∧ b'.At (front ++ middle) rest := by
  obtain ⟨b', hskip, hbytes, hposition, -⟩ := @skip_eq b middle.length
    (by rw [h.remaining, List.length_append]; omega)
  refine ⟨b', hskip, ?_, ?_⟩
  · rw [hbytes, h.bytes, List.append_assoc]
  · rw [hposition, h.position, List.length_append]

end At

end ByteBuffer

/-- The four bytes of `putInt`, most significant first. -/
def putInt (x : Int) : List UInt8 := beBytes 4 (x % 2 ^ 32).toNat

/-- The eight bytes of `putLong`, most significant first. -/
def putLong (x : Int) : List UInt8 := beBytes 8 (x % 2 ^ 64).toNat

/-- The two bytes of `putShort`, most significant first. -/
def putShort (x : Int) : List UInt8 := beBytes 2 (x % 2 ^ 16).toNat

/-- A number that is not negative is written modulo the size of the field. -/
theorem putInt_natCast (n : Nat) : putInt n = beBytes 4 n := by
  have hmod : ((n : Int) % 2 ^ 32).toNat = n % 256 ^ 4 := by omega
  rw [putInt, hmod, beBytes_mod]

@[simp] theorem putInt_length (x : Int) : (putInt x).length = 4 := beBytes_length _ _

@[simp] theorem putLong_length (x : Int) : (putLong x).length = 8 := beBytes_length _ _

@[simp] theorem putShort_length (x : Int) : (putShort x).length = 2 := beBytes_length _ _

/-- The cast of `putShort` loses nothing below `2 ^ 16`, the upper half of the
range being written as negative numbers. -/
theorem beNat_putShort {n : Nat} (h : n < 2 ^ 16) : beNat (putShort n) = n := by
  have hmod : ((n : Int) % 2 ^ 16).toNat = n := by omega
  rw [putShort, hmod, beNat_beBytes_of_lt h]

/-! ## Writing -/

namespace ByteBuffer

def allocate (capacity : Nat) : ByteBuffer := wrap (List.replicate capacity 0)

def rewind (b : ByteBuffer) : ByteBuffer := { b with position := 0, position_le := Nat.zero_le _ }

/-- `put(src)` of an array: all of its bytes or none. -/
def putBytes (b : ByteBuffer) (src : List UInt8) : Except JavaException ByteBuffer :=
  if h : b.position + src.length ≤ b.limit then
    pure
      { array := b.array.take b.position ++ src ++ b.array.drop (b.position + src.length)
        position := b.position + src.length, limit := b.limit, position_le := h
        limit_le := by
          have := b.limit_le
          simp only [List.length_append, List.length_take, List.length_drop]
          omega }
  else throw .bufferOverflow

def put (b : ByteBuffer) (x : UInt8) : Except JavaException ByteBuffer := b.putBytes [x]

/-- The buffer holds these bytes up to its position, and has room for more up
to its capacity. -/
structure Holds (b : ByteBuffer) (bytes : List UInt8) (room : Nat) : Prop where
  front : b.array.take b.position = bytes
  position : b.position = bytes.length
  limit : b.limit = b.array.length
  capacity : b.array.length = bytes.length + room

theorem holds_rewind (h : b.limit = b.array.length) :
    b.rewind.Holds [] b.array.length :=
  ⟨rfl, rfl, h, by simp [rewind]⟩

/-- Writing goes on behind the bytes that are there. -/
theorem Holds.putBytes {bytes src : List UInt8} {room : Nat}
    (h : b.Holds bytes (src.length + room)) :
    ∃ b', b.putBytes src = .ok b' ∧ b'.Holds (bytes ++ src) room := by
  have hfits : b.position + src.length ≤ b.limit := by
    have := h.position
    have := h.limit
    have := h.capacity
    omega
  rw [ByteBuffer.putBytes, dif_pos hfits]
  refine ⟨_, rfl, ?_, ?_, ?_, ?_⟩
  · have htaken : (b.array.take b.position ++ src).length = b.position + src.length := by
      rw [h.front, List.length_append, h.position]
    show (b.array.take b.position ++ src ++ b.array.drop (b.position + src.length)).take
      (b.position + src.length) = bytes ++ src
    rw [← htaken, List.take_left, h.front]
  · show b.position + src.length = (bytes ++ src).length
    rw [h.position, List.length_append]
  · have := h.limit
    simp only [List.length_append, List.length_take, List.length_drop]
    omega
  · have := h.capacity
    have := h.limit
    simp only [List.length_append, List.length_take, List.length_drop]
    omega

/-- A full buffer, rewound, is the array of its bytes. -/
theorem Holds.rewind_eq {bytes : List UInt8} (h : b.Holds bytes 0) :
    b.rewind = wrap bytes := by
  obtain ⟨array, position, limit, _, _⟩ := b
  obtain ⟨hfront, hposition, hlimit, hcapacity⟩ := h
  dsimp only at hfront hposition hlimit hcapacity
  have harray : array = bytes := by
    rw [← hfront, List.take_of_length_le (by omega)]
  subst harray
  subst hlimit
  rfl

end ByteBuffer

end MediasoupDemo.Runtime
