import MediasoupDemo.Runtime.ByteBuffer

/-!
# `SrsAllocator`: the buffers of the FLV tags

A tag is built in an `Allocation`, an array with a fill count.  The allocator
keeps a pool of them.  `allocate` looks in the pool for an allocation whose
*fill count* is large enough, and what comes into the pool has been cleared,
so the pool is never used (`allocate_of_released`).

A slot of the pool that was handed out is `null`, and the loops would throw on
it.
-/

namespace MediasoupDemo.Flv

open MediasoupDemo.Runtime

/-- `SrsAllocator.Allocation`. -/
structure Allocation where
  data : List UInt8
  size : Nat
  deriving DecidableEq

variable (a : Allocation)

namespace Allocation

def new (size : Nat) : Allocation := { data := List.replicate size 0, size := 0 }

/-- The bytes that were put in. -/
def content : List UInt8 := a.data.take a.size

def clear : Allocation := { a with size := 0 }

def put (b : UInt8) : Except JavaException Allocation :=
  if a.size < a.data.length then pure { data := a.data.set a.size b, size := a.size + 1 }
  else throw .indexOutOfBounds

/-- `put(b, pos)`. -/
def putAt (b : UInt8) (pos : Nat) : Except JavaException Allocation :=
  if pos < a.data.length then pure { data := a.data.set pos b, size := max (pos + 1) a.size }
  else throw .indexOutOfBounds

/-- `put` of several bytes, one after another. -/
def putAll : List UInt8 → Allocation → Except JavaException Allocation
  | [], a => pure a
  | b :: bytes, a => do putAll bytes (← a.put b)

def appendOffset (offset : Nat) : Allocation := { a with size := a.size + offset }

/-- `data.get(a.array(), a.size(), size); a.appendOffset(size)`. -/
def getFrom (data : ByteBuffer) (size : Int) : Except JavaException Allocation :=
  if size < 0 ∨ (a.size : Int) + size > a.data.length then throw .indexOutOfBounds
  else do
    let (bytes, _) ← data.getBytes size.toNat
    pure
      (appendOffset
        { a with data := a.data.take a.size ++ bytes ++ a.data.drop (a.size + bytes.length) }
        size.toNat)

/-- The allocation holds these bytes and has room for more. -/
def Holds (bytes : List UInt8) (room : Nat) : Prop :=
  ∃ free, a.data = bytes ++ free ∧ free.length = room ∧ a.size = bytes.length

theorem holds_new (size : Nat) : (new size).Holds [] size :=
  ⟨List.replicate size 0, rfl, List.length_replicate, rfl⟩

variable {room : Nat} {a : Allocation} {bytes : List UInt8}

theorem Holds.content_eq (h : a.Holds bytes room) : a.content = bytes := by
  obtain ⟨free, hdata, -, hsize⟩ := h
  rw [content, hdata, hsize, List.take_left]

theorem Holds.put (h : a.Holds bytes (room + 1)) (b : UInt8) :
    ∃ a', a.put b = .ok a' ∧ a'.Holds (bytes ++ [b]) room := by
  obtain ⟨free, hdata, hfree, hsize⟩ := h
  cases free with
  | nil => simp at hfree
  | cons x free =>
    have hlt : a.size < a.data.length := by
      rw [hdata, hsize, List.length_append, List.length_cons]
      omega
    refine ⟨{ data := a.data.set a.size b, size := a.size + 1 }, ?_, free, ?_, ?_, ?_⟩
    · rw [Allocation.put, if_pos hlt]
      rfl
    · rw [hdata, hsize, List.set_append_right _ _ (Nat.le_refl _), Nat.sub_self]
      simp
    · simpa using hfree
    · simp [hsize]

theorem Holds.putAll (more : List UInt8) :
    ∀ {a : Allocation} {bytes : List UInt8}, a.Holds bytes (more.length + room) →
      ∃ a', Allocation.putAll more a = .ok a' ∧ a'.Holds (bytes ++ more) room := by
  induction more with
  | nil =>
    intro a bytes h
    refine ⟨a, rfl, ?_⟩
    simpa using h
  | cons b more ih =>
    intro a bytes h
    have hsum : (b :: more).length + room = more.length + room + 1 := by
      rw [List.length_cons]
      omega
    rw [hsum] at h
    obtain ⟨a₁, hput, h₁⟩ := h.put b
    obtain ⟨a', hall, h'⟩ := ih h₁
    refine ⟨a', ?_, ?_⟩
    · rw [Allocation.putAll, hput]
      exact hall
    · simpa using h'

theorem Holds.getFrom_front {front rest : List UInt8} {data : ByteBuffer}
    (h : a.Holds bytes (front.length + room)) (hcontent : data.content = front ++ rest) :
    ∃ a', a.getFrom data front.length = .ok a' ∧ a'.Holds (bytes ++ front) room := by
  obtain ⟨free, hdata, hfree, hfill⟩ := h
  have hlen : a.data.length = bytes.length + (front.length + room) := by
    rw [hdata, List.length_append, hfree]
  have hfits : ¬ ((front.length : Int) < 0 ∨ (a.size : Int) + front.length > a.data.length) := by
    omega
  obtain ⟨data', hget⟩ := @ByteBuffer.getBytes_eq data front.length
    (by rw [← data.content_length, hcontent, List.length_append]; omega)
  rw [hcontent, List.take_left] at hget
  refine ⟨appendOffset
    { a with data := a.data.take a.size ++ front ++ a.data.drop (a.size + front.length) }
    front.length, ?_, free.drop front.length, ?_, ?_, ?_⟩
  · rw [Allocation.getFrom, if_neg hfits, Int.toNat_natCast, hget]
    rfl
  · show a.data.take a.size ++ front ++ a.data.drop (a.size + front.length) = _
    rw [hfill, hdata, List.take_left, ← List.drop_drop, List.drop_left]
  · rw [List.length_drop]
    omega
  · show a.size + front.length = (bytes ++ front).length
    rw [List.length_append]
    omega

end Allocation

/-- `SrsAllocator`.  A `none` is a slot that is `null`. -/
structure SrsAllocator where
  individualAllocationSize : Nat
  availableAllocations : List (Option Allocation)

namespace SrsAllocator

def new (individualAllocationSize : Nat) : SrsAllocator where
  individualAllocationSize := individualAllocationSize
  availableAllocations := List.replicate 10 (some (Allocation.new individualAllocationSize))

/-- The loop of `allocate`: the first allocation that is filled enough, and
the pool without it. -/
def takeFilled (size : Int) :
    List (Option Allocation) → Except JavaException (Option Allocation × List (Option Allocation))
  | [] => pure (none, [])
  | none :: _ => throw .nullPointer
  | some a :: slots =>
      if a.size ≥ size then pure (some a, none :: slots)
      else do
        let (found, slots) ← takeFilled size slots
        pure (found, some a :: slots)

def allocate (allocator : SrsAllocator) (size : Int) :
    Except JavaException (Allocation × SrsAllocator) := do
  match ← takeFilled size allocator.availableAllocations with
  | (some a, availableAllocations) => pure (a, { allocator with availableAllocations })
  | (none, _) => pure (.new (max size.toNat allocator.individualAllocationSize), allocator)

/-- The loop of `release`: the first slot with an empty allocation is
overwritten. -/
def putReleased (a : Allocation) :
    List (Option Allocation) → Except JavaException (List (Option Allocation))
  | [] => pure [some a]
  | none :: _ => throw .nullPointer
  | some b :: slots =>
      if b.size = 0 then pure (some a :: slots)
      else do
        let slots ← putReleased a slots
        pure (some b :: slots)

def release (allocator : SrsAllocator) (a : Allocation) : Except JavaException SrsAllocator := do
  let availableAllocations ← putReleased a.clear allocator.availableAllocations
  pure { allocator with availableAllocations }

/-- Everything in the pool is there and cleared. -/
def Released (allocator : SrsAllocator) : Prop :=
  ∀ slot ∈ allocator.availableAllocations, ∃ a, slot = some a ∧ a.size = 0

theorem released_new (individualAllocationSize : Nat) :
    (new individualAllocationSize).Released := by
  intro slot hslot
  exact ⟨_, List.eq_of_mem_replicate hslot, rfl⟩

theorem takeFilled_of_released {size : Int} (hsize : 0 < size) {slots : List (Option Allocation)}
    (h : ∀ slot ∈ slots, ∃ a, slot = some a ∧ a.size = 0) :
    takeFilled size slots = .ok (none, slots) := by
  induction slots with
  | nil => rfl
  | cons slot slots ih =>
    obtain ⟨a, rfl, ha⟩ := h slot (by simp)
    have hrest := ih fun s hs => h s (by simp [hs])
    have hempty : ¬ (a.size : Int) ≥ size := by omega
    rw [takeFilled, if_neg hempty, hrest]
    rfl

theorem allocate_of_released {allocator : SrsAllocator} (h : allocator.Released) {size : Int}
    (hsize : 0 < size) :
    allocator.allocate size =
      .ok (.new (max size.toNat allocator.individualAllocationSize), allocator) := by
  rw [allocate, takeFilled_of_released hsize h]
  rfl

theorem putReleased_of_released {slots : List (Option Allocation)}
    (h : ∀ slot ∈ slots, ∃ b, slot = some b ∧ b.size = 0) :
    putReleased a slots = .ok (some a :: slots.tail) := by
  cases slots with
  | nil => rfl
  | cons slot slots =>
    obtain ⟨b, rfl, hb⟩ := h slot (by simp)
    rw [putReleased, if_pos hb]
    rfl

/-- A release keeps the pool cleared. -/
theorem release_of_released {allocator : SrsAllocator} (h : allocator.Released) (a : Allocation) :
    ∃ allocator', allocator.release a = .ok allocator' ∧ allocator'.Released := by
  refine ⟨{ allocator with
    availableAllocations := some a.clear :: allocator.availableAllocations.tail }, ?_, ?_⟩
  · rw [release, putReleased_of_released _ h]
    rfl
  · intro slot hslot
    rcases List.mem_cons.mp hslot with rfl | hold
    · exact ⟨_, rfl, rfl⟩
    · exact h slot (List.mem_of_mem_tail hold)

end SrsAllocator

end MediasoupDemo.Flv
