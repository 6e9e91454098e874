import Mathlib.Data.Nat.Bitwise
import SrsLte.Data.Numerals
import Mathlib.Tactic.Ring

/-!
This module contains the arithmetic of bit masks and shifts on `Nat`, and the most significant bit
first reading of a list of bits as a number.
-/

namespace Bits

open List

/--
The number that a list of bits denotes, most significant bit first.
-/
def toNat (bits : List Bool) : Nat :=
  bits.foldl (fun value bit => 2 * value + bit.toNat) 0

def ofNat (value : Nat) (n : Nat) : List Bool :=
  match n with
  | 0 => []
  | n + 1 => value.testBit n :: ofNat value n

variable (value : Nat) (bits : List Bool) {mask : Nat}

@[simp]
theorem length_ofNat (n : Nat) : (ofNat value n).length = n := by
  induction n with
  | zero => rfl
  | succ n ih => simp [ofNat, ih]

theorem foldl_eq (acc : Nat)
    : bits.foldl (fun value bit => 2 * value + bit.toNat) acc
        =
      acc * 2 ^ bits.length + toNat bits := by
  unfold toNat
  induction bits generalizing acc with
  | nil => simp
  | cons bit bits ih =>
    simp only [foldl_cons, length_cons]
    rw [ih, ih (2 * 0 + bit.toNat)]
    ring

theorem toNat_cons (bit : Bool) (bits : List Bool)
    : toNat (bit :: bits) = bit.toNat * 2 ^ bits.length + toNat bits := by
  conv_lhs => unfold toNat
  rw [foldl_cons, foldl_eq]
  simp

theorem toNat_append (a b : List Bool) : toNat (a ++ b) = toNat a * 2 ^ b.length + toNat b := by
  rw [← foldl_eq]
  unfold toNat
  rw [foldl_append]

theorem toNat_lt : toNat bits < 2 ^ bits.length := by
  induction bits with
  | nil => simp [toNat]
  | cons bit bits ih =>
    rw [toNat_cons, length_cons, Nat.pow_succ]
    cases bit <;> simp <;> omega

theorem ofNat_add (m n : Nat) : ofNat value (m + n) = ofNat (value >>> n) m ++ ofNat value n := by
  induction m with
  | zero => rw [Nat.zero_add, ofNat, nil_append]
  | succ m ih =>
    have hbit : (value >>> n).testBit m = value.testBit (m + n) := by
      rw [Nat.testBit_shiftRight, Nat.add_comm]
    rw [Nat.add_right_comm, ofNat, ofNat, ih, hbit, cons_append]

theorem ofNat_mod (n : Nat) {m : Nat} (h : n ≤ m) : ofNat (value % 2 ^ m) n = ofNat value n := by
  induction n with
  | zero => rfl
  | succ n ih =>
    have hbit : (value % 2 ^ m).testBit n = value.testBit n := by
      rw [Nat.testBit_mod_two_pow, decide_eq_true (show n < m from h), Bool.true_and]
    rw [ofNat, ofNat, ih (Nat.le_of_lt h), hbit]

theorem toNat_ofNat (n : Nat) : toNat (ofNat value n) = value % 2 ^ n := by
  induction n with
  | zero => simp [ofNat, toNat, Nat.mod_one]
  | succ n ih =>
    rw [ofNat, toNat_cons, ih, length_ofNat, Nat.mod_pow_succ]
    rw [Nat.toNat_testBit]
    ring

theorem toNat_replicate_true (n : Nat) : toNat (List.replicate n true) = 2 ^ n - 1 := by
  induction n with
  | zero => rfl
  | succ n ih =>
    have := Nat.two_pow_pos n
    rw [replicate_succ, toNat_cons, ih, length_replicate, Nat.pow_succ]
    simp only [Bool.toNat_true, Nat.one_mul]
    omega

theorem ofNat_toNat (m : Nat)
    : ofNat (m * 2 ^ bits.length + toNat bits) bits.length = bits := by
  induction bits generalizing m with
  | nil => rfl
  | cons bit bits ih =>
    have hlt := toNat_lt bits
    rw [toNat_cons, length_cons, ofNat]
    have hsplit : m * 2 ^ (bits.length + 1) + (bit.toNat * 2 ^ bits.length + toNat bits)
        = (2 * m + bit.toNat) * 2 ^ bits.length + toNat bits := by
      ring
    rw [hsplit, ih]
    congr 1
    rw [Nat.testBit_eq_decide_div_mod_eq]
    have hdiv : ((2 * m + bit.toNat) * 2 ^ bits.length + toNat bits) / 2 ^ bits.length
        = 2 * m + bit.toNat := by
      rw [Nat.mul_comm, Nat.mul_add_div (Nat.two_pow_pos _), Nat.div_eq_of_lt hlt]
      simp
    rw [hdiv]
    cases bit <;> simp

theorem and_mask (x k : Nat) (hmask : mask = 2 ^ k - 1) : x &&& mask = x % 2 ^ k := by
  rw [hmask, Nat.and_two_pow_sub_one_eq_mod]

theorem and_mask_shiftRight (x k s : Nat) (hmask : mask >>> s = 2 ^ k - 1)
    : (x &&& mask) >>> s = x / 2 ^ s % 2 ^ k := by
  rw [Nat.shiftRight_and_distrib, hmask, Nat.and_two_pow_sub_one_eq_mod, Nat.shiftRight_eq_div_pow]

theorem shiftLeft_or (a k : Nat) {b : Nat} (hb : b < 2 ^ k) : a <<< k ||| b = a * 2 ^ k + b := by
  rw [← Nat.shiftLeft_add_eq_or_of_lt hb, Nat.shiftLeft_eq]

theorem mod_and {k : Nat} (hmask : mask < 2 ^ k) (a : Nat) : a % 2 ^ k &&& mask = a &&& mask := by
  apply Nat.eq_of_testBit_eq
  intro i
  rw [Nat.testBit_and, Nat.testBit_and, Nat.testBit_mod_two_pow]
  by_cases hi : i < k
  . simp [hi]
  . have hbit : mask.testBit i = false :=
      Nat.testBit_lt_two_pow (Nat.lt_of_lt_of_le hmask (Nat.pow_le_pow_right (by decide) (Nat.le_of_not_lt hi)))
    rw [hbit, Bool.and_false, Bool.and_false]

end Bits
