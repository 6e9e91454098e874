import SrsLte.Data.Bits
import Mathlib.Algebra.Field.ZMod
import Mathlib.RingTheory.AdjoinRoot

/-!
This module contains the reading of numbers as polynomials over the field with two elements. A shift register
with feedback computes in the ring of the remainders, see `Gf2.val`.
-/

namespace Gf2

open Polynomial

/--
The polynomial whose coefficients are the bits of `n`.
-/
noncomputable def poly (n : Nat) : (ZMod 2)[X] :=
  ∑ i ∈ Finset.range n, if n.testBit i then X ^ i else 0

theorem coeff_poly (n i : Nat) : (poly n).coeff i = if n.testBit i then 1 else 0 := by
  unfold poly
  rw [finsetSum_coeff]
  have hterm : ∀ j ∈ Finset.range n, (if n.testBit j then (X : (ZMod 2)[X]) ^ j else 0).coeff i
      = if i = j then (if n.testBit i then 1 else 0) else 0 := by
    intro j _
    split
    next hj =>
      rw [coeff_X_pow]
      split
      next heq => rw [heq, if_pos hj]
      next => rfl
    next hj =>
      rw [coeff_zero]
      split
      next heq => rw [heq, if_neg hj]
      next => rfl
  rw [Finset.sum_congr rfl hterm, Finset.sum_ite_eq]
  split
  next => rfl
  next hi =>
    have hlt : n.testBit i = false := by
      apply Nat.testBit_lt_two_pow
      have hle : n ≤ i := Nat.le_of_not_lt (fun h => hi (Finset.mem_range.mpr h))
      exact Nat.lt_of_le_of_lt hle Nat.lt_two_pow_self
    rw [hlt, if_neg Bool.false_ne_true]

theorem poly_injective : Function.Injective poly := by
  intro a b h
  apply Nat.eq_of_testBit_eq
  intro i
  have hcoeff := congrArg (fun p => p.coeff i) h
  simp only [coeff_poly] at hcoeff
  cases ha : a.testBit i
  all_goals
    cases hb : b.testBit i
    all_goals simp_all

@[simp]
theorem poly_zero : poly 0 = 0 := rfl

theorem poly_xor (a b : Nat) : poly (a ^^^ b) = poly a + poly b := by
  ext i
  rw [coeff_add, coeff_poly, coeff_poly, coeff_poly, Nat.testBit_xor]
  cases a.testBit i
  all_goals
    cases b.testBit i
    all_goals decide

theorem poly_mul_add (a k : Nat) {b : Nat} (hb : b < 2 ^ k) : poly (a * 2 ^ k + b) = poly a * X ^ k + poly b := by
  ext i
  rw [coeff_add, coeff_mul_X_pow', coeff_poly, coeff_poly, coeff_poly, Nat.mul_comm,
    Nat.testBit_two_pow_mul_add a hb]
  cases Nat.lt_or_ge i k with
  | inl hlt => rw [if_pos hlt, if_neg (Nat.not_le_of_lt hlt), zero_add]
  | inr hge =>
    have hbit : b.testBit i = false :=
      Nat.testBit_lt_two_pow (Nat.lt_of_lt_of_le hb (Nat.pow_le_pow_right Nat.two_pos hge))
    rw [if_neg (Nat.not_lt_of_le hge), if_pos hge, hbit, if_neg Bool.false_ne_true, add_zero]

theorem poly_mul_two_pow (a k : Nat) : poly (a * 2 ^ k) = poly a * X ^ k := by
  rw [← Nat.add_zero (a * 2 ^ k), poly_mul_add a k (Nat.two_pow_pos k), poly_zero, add_zero]

@[simp]
theorem poly_one : poly 1 = 1 := by
  unfold poly
  rw [Finset.sum_range_one]
  rfl

theorem degree_poly_lt {n k : Nat} (h : n < 2 ^ k) : (poly n).degree < k := by
  rw [degree_lt_iff_coeff_zero]
  intro i hi
  rw [coeff_poly, Nat.testBit_lt_two_pow (Nat.lt_of_lt_of_le h (Nat.pow_le_pow_right Nat.two_pos hi)),
    if_neg Bool.false_ne_true]

def IsGenerator (p n : Nat) : Prop :=
  2 ^ n ≤ p ∧ p < 2 ^ (n + 1)

section

variable {p n : Nat}

theorem IsGenerator.poly_eq (h : IsGenerator p n) : poly p = X ^ n + poly (p - 2 ^ n) := by
  have hlt : p - 2 ^ n < 2 ^ n := by
    have := h.2
    omega
  have hp : p = 1 * 2 ^ n + (p - 2 ^ n) := by
    have := h.1
    omega
  nth_rewrite 1 [hp]
  rw [poly_mul_add 1 n hlt, poly_one, one_mul]

theorem IsGenerator.degree_tail_lt (h : IsGenerator p n) : (poly (p - 2 ^ n)).degree < n := by
  apply degree_poly_lt
  have := h.2
  omega

theorem IsGenerator.monic (h : IsGenerator p n) : (poly p).Monic := by
  rw [h.poly_eq]
  exact monic_X_pow_add h.degree_tail_lt

theorem IsGenerator.degree (h : IsGenerator p n) : (poly p).degree = n := by
  have hlead : (X ^ n : (ZMod 2)[X]).degree = n := degree_X_pow n
  rw [h.poly_eq, degree_add_eq_left_of_degree_lt, hlead]
  rw [hlead]
  exact h.degree_tail_lt

theorem IsGenerator.testBit (h : IsGenerator p n) : p.testBit n = true := by
  have hcoeff : (poly p).coeff n = 1 := by
    rw [h.poly_eq, coeff_add, coeff_X_pow_self, coeff_eq_zero_of_degree_lt h.degree_tail_lt, add_zero]
  rw [coeff_poly] at hcoeff
  split at hcoeff
  next hbit => exact hbit
  next => cases hcoeff

theorem IsGenerator.testBit_of_lt (h : IsGenerator p n) {i : Nat} (hi : n < i) : p.testBit i = false :=
  Nat.testBit_lt_two_pow (Nat.lt_of_lt_of_le h.2 (Nat.pow_le_pow_right Nat.two_pos hi))

noncomputable def val (p a : Nat) : AdjoinRoot (poly p) :=
  AdjoinRoot.mk (poly p) (poly a)

theorem poly_eq_modByMonic (h : IsGenerator p n) {r : Nat} (hr : r < 2 ^ n) {f : (ZMod 2)[X]}
    (hval : val p r = AdjoinRoot.mk (poly p) f)
    : poly r = f %ₘ poly p := by
  have hself : poly r %ₘ poly p = poly r := by
    apply (modByMonic_eq_self_iff h.monic).mpr
    rw [h.degree]
    exact degree_poly_lt hr
  rw [← hself]
  exact modByMonic_eq_of_dvd_sub h.monic (AdjoinRoot.mk_eq_mk.mp hval)

theorem val_xor (p a b : Nat) : val p (a ^^^ b) = val p a + val p b := by
  unfold val
  rw [poly_xor, map_add]

theorem val_mul_add (p a k : Nat) {b : Nat} (hb : b < 2 ^ k)
    : val p (a * 2 ^ k + b) = val p a * AdjoinRoot.root (poly p) ^ k + val p b := by
  unfold val
  rw [poly_mul_add a k hb, map_add, map_mul, map_pow, AdjoinRoot.mk_X]

theorem val_mul_two_pow (p a k : Nat) : val p (a * 2 ^ k) = val p a * AdjoinRoot.root (poly p) ^ k := by
  unfold val
  rw [poly_mul_two_pow, map_mul, map_pow, AdjoinRoot.mk_X]

@[simp]
theorem val_zero (p : Nat) : val p 0 = 0 := by
  unfold val
  rw [poly_zero, map_zero]

@[simp]
theorem val_self (p : Nat) : val p p = 0 :=
  AdjoinRoot.mk_self

theorem val_add_val (p a : Nat) : val p a + val p a = 0 := by
  rw [← val_xor, Nat.xor_self, val_zero]

def shift (p n c : Nat) : Nat :=
  if c.testBit (n - 1) then (c <<< 1) ^^^ p else c <<< 1

theorem shift_lt (h : IsGenerator p n) (hn : 0 < n) {c : Nat} (hc : c < 2 ^ n) : shift p n c < 2 ^ n := by
  apply Nat.lt_pow_two_of_testBit
  intro i hi
  have hhigh : ∀ j, n ≤ j → c.testBit j = false := fun j hj =>
    Nat.testBit_lt_two_pow (Nat.lt_of_lt_of_le hc (Nat.pow_le_pow_right Nat.two_pos hj))
  have hone : 1 ≤ i := Nat.le_trans hn hi
  unfold shift
  -- The bit that leaves the register is the one that the leading bit of `p` takes away
  cases Nat.lt_or_eq_of_le hi with
  | inl hlt =>
    have hbit : (c <<< 1).testBit i = false := by
      rw [Nat.testBit_shiftLeft, hhigh (i - 1) (by omega), Bool.and_false]
    split
    next => rw [Nat.testBit_xor, hbit, h.testBit_of_lt hlt, Bool.xor_false]
    next => exact hbit
  | inr heq =>
    subst heq
    have hbit : (c <<< 1).testBit n = c.testBit (n - 1) := by
      rw [Nat.testBit_shiftLeft, decide_eq_true hone, Bool.true_and]
    split
    next hset => rw [Nat.testBit_xor, hbit, hset, h.testBit, Bool.xor_self]
    next hclear =>
      rw [hbit]
      exact Bool.eq_false_iff.mpr hclear

theorem val_shift (p n c : Nat) : val p (shift p n c) = val p c * AdjoinRoot.root (poly p) := by
  have hdouble : val p (c <<< 1) = val p c * AdjoinRoot.root (poly p) := by
    rw [Nat.shiftLeft_eq, val_mul_two_pow, pow_one]
  unfold shift
  split
  next => rw [val_xor, hdouble, val_self, add_zero]
  next => exact hdouble

def unshift (p c : Nat) : Nat :=
  if c % 2 = 1 then (c ^^^ p) >>> 1 else c >>> 1

theorem unshift_lt (h : IsGenerator p n) {c : Nat} (hc : c < 2 ^ n) : unshift p c < 2 ^ n := by
  have hxor : c ^^^ p < 2 ^ (n + 1) := by
    apply Nat.xor_lt_two_pow _ h.2
    rw [Nat.pow_succ]
    omega
  unfold unshift
  rw [Nat.shiftRight_eq_div_pow, Nat.shiftRight_eq_div_pow]
  split
  next => omega
  next => omega

theorem val_unshift (p : Nat) (hp : p % 2 = 1) (c : Nat)
    : val p (unshift p c) * AdjoinRoot.root (poly p) = val p c := by
  have hhalf : ∀ a, a % 2 = 0 → val p (a >>> 1) * AdjoinRoot.root (poly p) = val p a := by
    intro a ha
    have heq : a = (a >>> 1) * 2 ^ 1 := by
      rw [Nat.shiftRight_eq_div_pow]
      omega
    nth_rewrite 2 [heq]
    rw [val_mul_two_pow, pow_one]
  unfold unshift
  split
  next hodd =>
    have heven : (c ^^^ p) % 2 = 0 := by
      rw [Nat.xor_mod_two_eq]
      omega
    rw [hhalf _ heven, val_xor, val_self, add_zero]
  next heven => exact hhalf c (by omega)

theorem root_cancel (hp : p % 2 = 1) {k : Nat} {a b : AdjoinRoot (poly p)}
    (h : a * AdjoinRoot.root (poly p) ^ k = b * AdjoinRoot.root (poly p) ^ k)
    : a = b := by
  have hinv : val p (unshift p 1) * AdjoinRoot.root (poly p) = 1 := by
    rw [val_unshift p hp]
    unfold val
    rw [poly_one, map_one]
  have hcancel : ∀ c : AdjoinRoot (poly p), c = c * AdjoinRoot.root (poly p) ^ k * val p (unshift p 1) ^ k := by
    intro c
    rw [mul_assoc, ← mul_pow, mul_comm (AdjoinRoot.root (poly p)), hinv, one_pow, mul_one]
  rw [hcancel a, hcancel b, h]

end

end Gf2
