import Mathlib.Data.Nat.ModEq
import Mathlib.Tactic.Ring

/-!
# Fixed-width byte codecs

A field of a binary format is a number written in a fixed number of bytes,
most significant byte first in the MPEG-4 and FLV formats, and once least
significant byte first in the RTMP chunk header.  `beBytes w n` is the
big-endian image of `n` in `w` bytes, `beNat` reads such an image back, and
`leBytes` and `leNat` are the same for the other byte order.

A field of `w` bytes keeps a number modulo `256 ^ w` only.  That bound is not
hidden in a definition: `beNat_beBytes` states the residue, and
`beNat_beBytes_of_lt` is the round trip below the bound.
-/

namespace ByteCodec

/-- The `w` low bytes of `n`, most significant byte first. -/
def beBytes : (w : Nat) → (n : Nat) → List UInt8
  | 0, _ => []
  | w + 1, n => UInt8.ofNat (n / 256 ^ w) :: beBytes w n

/-- The number that a byte list spells, most significant byte first. -/
def beNat : List UInt8 → Nat
  | [] => 0
  | b :: bs => b.toNat * 256 ^ bs.length + beNat bs

variable (w n : Nat)

/-- The `w` low bytes of `n`, least significant byte first. -/
def leBytes : List UInt8 := (beBytes w n).reverse

/-- The number that a byte list spells, least significant byte first. -/
def leNat (bs : List UInt8) : Nat := beNat bs.reverse

@[simp] theorem beBytes_length : (beBytes w n).length = w := by
  induction w with
  | zero => rfl
  | succ w ih => simp [beBytes, ih]

@[simp] theorem leBytes_length : (leBytes w n).length = w := by
  simp [leBytes]

/-- Multiples of `256 ^ w` are not seen in a field of `w` bytes. -/
theorem beBytes_add_mul (w n m : Nat) : beBytes w (n + m * 256 ^ w) = beBytes w n := by
  induction w generalizing m with
  | zero => rfl
  | succ w ih =>
    have hpow : m * 256 ^ (w + 1) = m * 256 * 256 ^ w := by rw [Nat.pow_succ]; ring
    have hdigit : (n + m * 256 * 256 ^ w) / 256 ^ w = n / 256 ^ w + m * 256 :=
      Nat.add_mul_div_right _ _ (Nat.pow_pos (by decide))
    have hbyte : UInt8.ofNat (n / 256 ^ w + m * 256) = UInt8.ofNat (n / 256 ^ w) := by
      apply UInt8.toNat_inj.mp
      simp [UInt8.toNat_ofNat']
    rw [beBytes, beBytes, hpow, hdigit, hbyte, ih]

theorem beBytes_mod : beBytes w (n % 256 ^ w) = beBytes w n := by
  have hsplit := beBytes_add_mul w (n % 256 ^ w) (n / 256 ^ w)
  rw [Nat.mul_comm, Nat.mod_add_div] at hsplit
  exact hsplit.symm

/-- A field splits into its upper and its lower bytes. -/
theorem beBytes_add (v w n : Nat) :
    beBytes (v + w) n = beBytes v (n / 256 ^ w) ++ beBytes w n := by
  induction v with
  | zero => rw [Nat.zero_add, beBytes, List.nil_append]
  | succ v ih =>
    have hdigit : n / 256 ^ w / 256 ^ v = n / 256 ^ (v + w) := by
      rw [Nat.div_div_eq_div_mul, ← Nat.pow_add, Nat.add_comm]
    rw [Nat.succ_add, beBytes, beBytes, List.cons_append, ih, hdigit]

/-- Reading back a field of `w` bytes gives the number modulo `256 ^ w`. -/
theorem beNat_beBytes : beNat (beBytes w n) = n % 256 ^ w := by
  induction w with
  | zero => simp [beBytes, beNat, Nat.mod_one]
  | succ w ih =>
    have hdigit : (UInt8.ofNat (n / 256 ^ w)).toNat = n / 256 ^ w % 256 := by
      simp [UInt8.toNat_ofNat']
    have hsplit : n % 256 ^ (w + 1) = n % 256 ^ w + 256 ^ w * (n / 256 ^ w % 256) := by
      rw [Nat.pow_succ, Nat.mod_mul]
    simp only [beBytes, beNat, beBytes_length, ih, hdigit, hsplit]
    rw [Nat.mul_comm, Nat.add_comm]

/-- The round trip of a number that fits its field. -/
theorem beNat_beBytes_of_lt {w n : Nat} (h : n < 256 ^ w) :
    beNat (beBytes w n) = n := by
  rw [beNat_beBytes, Nat.mod_eq_of_lt h]

/-- The round trip of a number that fits its field, in the other byte order. -/
theorem leNat_leBytes_of_lt {w n : Nat} (h : n < 256 ^ w) :
    leNat (leBytes w n) = n := by
  simp [leNat, leBytes, beNat_beBytes_of_lt h]

end ByteCodec
