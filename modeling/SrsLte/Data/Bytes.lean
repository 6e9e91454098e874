import Mathlib.Data.Fin.Tuple.Basic
import SrsLte.Data.Numerals

/-!
This module contains byte arrays of a fixed size and the numbers they stand for when the most
significant byte comes first.
-/

abbrev Bytes (n : Nat) := Fin n → UInt8

namespace Bytes

variable {n m : Nat}

def xor (a b : Bytes n) : Bytes n :=
  fun i => a i ^^^ b i

def slice (a : Bytes n) (start len : Nat) (h : start + len ≤ n) : Bytes len :=
  fun i => a ⟨start + i, by omega⟩

/--
The number whose bytes are those of `a`, the most significant one first.
-/
def toNat {n : Nat} (a : Bytes n) : Nat :=
  match n with
  | 0 => 0
  | n + 1 => 256 * toNat (fun i : Fin n => a i.castSucc) + (a (Fin.last n)).toNat

def ofNat (n v : Nat) : Bytes n :=
  fun i => UInt8.ofNat (v / 256 ^ (n - 1 - i))

@[simp]
theorem xor_xor_cancel (a b : Bytes n) : xor (xor a b) b = a := by
  funext i
  simp only [xor, UInt8.xor_assoc, UInt8.xor_self, UInt8.xor_zero]

theorem ofNat_castSucc (v : Nat) (i : Fin n) : ofNat (n + 1) v i.castSucc = ofNat n (v / 256) i := by
  have hexp : n + 1 - 1 - i.castSucc.val = (n - 1 - i.val) + 1 := by
    have := i.isLt
    rw [Fin.val_castSucc]
    omega
  unfold ofNat
  rw [hexp, Nat.pow_succ, Nat.mul_comm, Nat.div_div_eq_div_mul]

theorem ofNat_last (v : Nat) : ofNat (n + 1) v (Fin.last n) = UInt8.ofNat v := by
  simp [ofNat]

@[simp]
theorem toNat_ofNat (n v : Nat) : (ofNat n v).toNat = v % 256 ^ n := by
  induction n generalizing v with
  | zero => simp [toNat, Nat.mod_one]
  | succ n ih =>
    have hinit : (fun i : Fin n => ofNat (n + 1) v i.castSucc) = ofNat n (v / 256) := by
      funext i
      exact ofNat_castSucc v i
    have hpow : 256 ^ (n + 1) = 256 * 256 ^ n := by
      rw [Nat.pow_succ, Nat.mul_comm]
    rw [toNat, hinit, ofNat_last, ih, UInt8.toNat_ofNat', hpow, Nat.mod_mul]
    omega

end Bytes
