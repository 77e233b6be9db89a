import MediasoupDemo.Lib.ByteCodec
import Mathlib.Data.List.Infix

/-!
# NAL units in a byte stream

A byte stream carries NAL units in one of two forms.  In the first, a start
code of three or four bytes stands in front of every unit.  In the second, the
length of the unit does, as four bytes.

* `IsNalUnit` is what a stream of the first form relies on: a unit holds no
  start code and does not end in a zero byte.  `not_startCodeAt` says that a
  search from the start of a unit finds no start code inside the unit,
  whatever follows it.
* `annexb` and `readNalUnits` are the writer of the first form and the reader
  of the second.
-/

namespace Annexb

open ByteCodec

/-- The two start codes. -/
inductive StartCode where
  | three
  | four
  deriving DecidableEq

def StartCode.bytes : StartCode → List UInt8
  | three => [0, 0, 1]
  | four => [0, 0, 0, 1]

/-- Some start code stands at an index. -/
def StartCodeAt (bs : List UInt8) (i : Nat) : Prop :=
  [0, 0, 1] <+: bs.drop i ∨ [0, 0, 0, 1] <+: bs.drop i

/-- A unit that can be delimited by start codes. -/
structure IsNalUnit (u : List UInt8) : Prop where
  nonempty : u ≠ []
  noStartCode : ¬ [0, 0, 1] <:+: u
  last_ne_zero : u.getLast? ≠ some 0

instance (u : List UInt8) : Decidable (IsNalUnit u) :=
  decidable_of_iff (u ≠ [] ∧ ¬ [0, 0, 1] <:+: u ∧ u.getLast? ≠ some 0)
    ⟨fun h => ⟨h.1, h.2.1, h.2.2⟩, fun h => ⟨h.nonempty, h.noStartCode, h.last_ne_zero⟩⟩

variable {u : List UInt8} {i : Nat}

/-- The bytes of a pattern that stands at an index. -/
theorem getElem?_of_prefix_drop {pat bs : List UInt8} (h : pat <+: bs.drop i) {j : Nat}
    (hj : j < pat.length) : bs[i + j]? = pat[j]? := by
  obtain ⟨tail, htail⟩ := h
  rw [← List.getElem?_drop, ← htail, List.getElem?_append_left hj]

/-- A pattern that lies inside the front part is found in it. -/
theorem infix_of_prefix_drop {pat v : List UInt8} (h : pat <+: (u ++ v).drop i)
    (hin : i + pat.length ≤ u.length) : pat <:+: u := by
  rw [List.drop_append_of_le_length (by omega)] at h
  have hfront : pat <+: u.drop i := by
    apply List.prefix_of_prefix_length_le h (List.prefix_append _ _)
    rw [List.length_drop]
    omega
  exact hfront.isInfix.trans (List.drop_suffix i u).isInfix

/-- The last byte of a unit is not one of the zeros of a pattern. -/
theorem IsNalUnit.not_zero_at_last {v : List UInt8} (hu : IsNalUnit u) :
    (u ++ v)[u.length - 1]? ≠ some 0 := by
  have hpos : 0 < u.length := List.length_pos_iff.mpr hu.nonempty
  rw [List.getElem?_append_left (by omega), ← List.getLast?_eq_getElem?]
  exact hu.last_ne_zero

/-- A code of zeros and a last byte does not begin inside a unit. -/
theorem IsNalUnit.not_prefix_drop (hu : IsNalUnit u) (v : List UInt8) {pat : List UInt8}
    (hcode : [0, 0, 1] <:+: pat) (hzeros : ∀ j < pat.length - 1, pat[j]? = some 0)
    (hi : i < u.length) :
    ¬ pat <+: (u ++ v).drop i := by
  intro hpat
  -- Either the code lies in the unit, or one of its zeros is the last byte.
  by_cases hin : i + pat.length ≤ u.length
  · exact hu.noStartCode (hcode.trans (infix_of_prefix_drop hpat hin))
  · have hlast := hu.not_zero_at_last (v := v)
    have hindex : u.length - 1 = i + (u.length - 1 - i) := by omega
    rw [hindex, getElem?_of_prefix_drop hpat (by omega), hzeros _ (by omega)] at hlast
    exact hlast rfl

theorem IsNalUnit.not_startCodeAt (hu : IsNalUnit u) (v : List UInt8) (hi : i < u.length) :
    ¬ StartCodeAt (u ++ v) i := by
  rintro (hthree | hfour)
  · exact hu.not_prefix_drop v (by decide) (by decide) hi hthree
  · exact hu.not_prefix_drop v (by decide) (by decide) hi hfour

/-- The stream of units behind their start codes. -/
def annexb (units : List (StartCode × List UInt8)) : List UInt8 :=
  units.flatMap fun p => p.1.bytes ++ p.2

/-! ## Units behind their length -/

/-- Read units behind four bytes of length, at most `fuel` of them. -/
def readUnits : (fuel : Nat) → List UInt8 → Option (List (List UInt8))
  | _, [] => some []
  | 0, _ :: _ => none
  | fuel + 1, b :: bs =>
      let length := beNat ((b :: bs).take 4)
      let rest := (b :: bs).drop 4
      if (b :: bs).length < 4 ∨ rest.length < length then none
      else (readUnits fuel (rest.drop length)).map (rest.take length :: ·)

/-- Read a stream of units behind their lengths; each takes at least four
bytes. -/
def readNalUnits (bs : List UInt8) : Option (List (List UInt8)) := readUnits bs.length bs

theorem readNalUnits_single (h : u.length < 2 ^ 32) :
    readNalUnits (beBytes 4 u.length ++ u) = some [u] := by
  have hlen : (beBytes 4 u.length).length = 4 := beBytes_length 4 _
  have htake : (beBytes 4 u.length ++ u).take 4 = beBytes 4 u.length := List.take_left' hlen
  have hdrop : (beBytes 4 u.length ++ u).drop 4 = u := List.drop_left' hlen
  have hback : beNat (beBytes 4 u.length) = u.length := beNat_beBytes_of_lt (by omega)
  have htotal : (beBytes 4 u.length ++ u).length = u.length + 3 + 1 := by
    rw [List.length_append, hlen]
    omega
  rw [readNalUnits, htotal]
  cases hbs : beBytes 4 u.length ++ u with
  | nil => rw [hbs] at htotal; simp at htotal
  | cons b bs =>
    rw [hbs] at htake hdrop htotal
    have hshort : ¬ ((b :: bs).length < 4 ∨ u.length < u.length) := by omega
    rw [readUnits, htake, hdrop, hback, if_neg hshort, List.drop_length, List.take_length]
    cases hfuel : u.length + 3 <;> rfl

end Annexb
