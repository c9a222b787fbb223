import Mathlib

namespace VibeDPN.Bytes

variable {α : Type}

def wide (a b : UInt8) : Nat := a.toNat * 256 + b.toNat

def packed (n : Nat) : List UInt8 := [UInt8.ofNat (n / 256), UInt8.ofNat n]

@[simp] theorem length_packed (n : Nat) : (packed n).length = 2 := rfl

theorem wide_packed {n : Nat} (h : n < 65536) : wide (UInt8.ofNat (n / 256)) (UInt8.ofNat n) = n := by
  rw [wide, UInt8.toNat_ofNat', UInt8.toNat_ofNat']
  omega

def slice (l : List α) (a b : Nat) : List α := (l.take b).drop a

theorem length_slice (l : List α) (a b : Nat) : (slice l a b).length = min b l.length - a := by
  rw [slice, List.length_drop, List.length_take]

theorem slice_append (pre l rest : List α) :
    slice (pre ++ (l ++ rest)) pre.length (pre.length + l.length) = l := by
  rw [slice, ← List.append_assoc, List.take_left' (by simp), List.drop_left]

end VibeDPN.Bytes
