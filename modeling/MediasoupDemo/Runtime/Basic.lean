import Mathlib.Algebra.Ring.Int.Defs
import Mathlib.Algebra.Ring.Nat

/-!
# The Java runtime: numbers, exceptions and `MediaCodec.BufferInfo`

The modelled classes are Java classes.  This file holds what they take from
the language and from the Android framework and what no class of the
repository defines:

* `long` and `int`: Java's 64-bit and 32-bit arithmetic.  Both are `Int`s, and
  every result that can leave the range is reduced.  The lengths of lists that
  stand for arrays and samples are not bounded, nor are the sizes of FLV tags;
* `JavaException`: the exceptions that a modelled function can throw;
* `BufferInfo`: the meta data of one encoded sample.
-/

namespace MediasoupDemo.Runtime

/-- The value that a 64-bit Java `long` holds after an exact result `x`. -/
def long (x : Int) : Int := x.bmod (2 ^ 64)

/-- The range of a Java `long`. -/
def InLong (x : Int) : Prop := -2 ^ 63 ≤ x ∧ x < 2 ^ 63

/-- A result inside the range is not changed. -/
theorem long_eq_self {x : Int} (h : InLong x) : long x = x := by
  obtain ⟨hlo, hhi⟩ := h
  exact Int.bmod_eq_of_le (by omega) (by omega)

/-- The sum of two non-negative `long`s that meets a non-negative `long` did
not wrap. -/
theorem add_eq_of_long_add_eq {x y z : Int} (hx : InLong x) (hy : InLong y)
    (hx0 : 0 ≤ x) (hy0 : 0 ≤ y) (hz0 : 0 ≤ z) (h : long (x + y) = z) : x + y = z := by
  unfold long InLong at *
  rw [Int.bmod_def] at h
  split at h <;> omega

/-- The value that a 32-bit Java `int` holds after an exact result `x`. -/
def int (x : Int) : Int := x.bmod (2 ^ 32)

/-- The range of a Java `int`. -/
def InInt (x : Int) : Prop := -2 ^ 31 ≤ x ∧ x < 2 ^ 31

instance (x : Int) : Decidable (InInt x) := by unfold InInt; infer_instance

theorem int_eq_self {x : Int} (h : InInt x) : int x = x := by
  obtain ⟨hlo, hhi⟩ := h
  exact Int.bmod_eq_of_le (by omega) (by omega)

theorem inInt_int (x : Int) : InInt (int x) := by
  unfold int InInt
  have hle := Int.le_bmod (x := x) (m := 2 ^ 32) (by decide)
  have hlt := Int.bmod_lt (x := x) (m := 2 ^ 32) (by decide)
  omega

/-- The four bytes of an `int` determine it. -/
theorem int_emod {x : Int} (h : InInt x) : int (x % 2 ^ 32) = x := by
  have hmod : int (x % 2 ^ 32) = int x := Int.emod_bmod x (2 ^ 32)
  rw [hmod, int_eq_self h]

/-- A sum may be cut to an `int` at any time. -/
theorem int_add (x y : Int) : int (int x + y) = int (x + y) := Int.bmod_add_bmod

theorem int_add_int (x y : Int) : int (x + int y) = int (x + y) := Int.add_bmod_bmod

theorem int_eq_iff (x y : Int) : int x = int y ↔ 2 ^ 32 ∣ x - y := by
  simp only [int, Int.bmod]
  omega

/-- The exceptions that the modelled code can throw. -/
inductive JavaException where
  | nullPointer
  | indexOutOfBounds
  | bufferUnderflow
  | bufferOverflow
  | negativeArraySize
  | illegalArgument (message : String)
  | illegalState (message : String)
  | io (message : String)
  | eof (message : String)
  | classCast
  /-- `SocketException`, which is an `IOException` -/
  | socket (message : String)
  deriving DecidableEq

/-- `MediaCodec.BufferInfo`: where a sample lies in its buffer, its
presentation time in microseconds and its flags. -/
structure BufferInfo where
  offset : Nat
  size : Nat
  presentationTimeUs : Int
  flags : BitVec 32
  deriving DecidableEq

/-- `MediaCodec.BUFFER_FLAG_SYNC_FRAME`. -/
def BUFFER_FLAG_SYNC_FRAME : BitVec 32 := 1

/-- Whether the encoder flagged the sample as a sync frame. -/
def BufferInfo.isSync (bi : BufferInfo) : Bool :=
  (bi.flags &&& BUFFER_FLAG_SYNC_FRAME) != 0

end MediasoupDemo.Runtime
