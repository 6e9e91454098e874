import Mathlib.Data.Finset.Card
import Mathlib.Data.Finset.Range
import SrsLte.Data.Numerals

/-!
This module contains counters modulo `m`: the distance from one counter to another in counting
direction and the half open interval between two counters.
-/

namespace Cyclic

/--
How often `a` has to be counted up to reach `b`.
-/
def dist (m a b : Nat) : Nat :=
  (b + m - a) % m

def Ico (m a b : Nat) : Finset Nat :=
  (Finset.range m).filter (fun x => dist m a x < dist m a b)

variable {m a b x : Nat}

/--
Adding the distance either reaches `b` directly or wraps around once. Facts about distances follow
from this by linear arithmetic.
-/
theorem dist_spec (ha : a < m) (hb : b < m)
    : dist m a b < m ∧ (a + dist m a b = b ∨ a + dist m a b = b + m) := by
  unfold dist
  by_cases h : a ≤ b
  . have hsub : b + m - a = b - a + m := by omega
    rw [hsub, Nat.add_mod_right, Nat.mod_eq_of_lt] <;> omega
  . rw [Nat.mod_eq_of_lt] <;> omega

theorem succ_spec (ha : a < m) : (a + 1) % m = a + 1 ∧ a + 1 < m ∨ (a + 1) % m = 0 ∧ a + 1 = m := by
  by_cases h : a + 1 = m
  . right
    rw [h, Nat.mod_self]
    trivial
  . left
    rw [Nat.mod_eq_of_lt] <;> omega

theorem succ_lt (ha : a < m) : (a + 1) % m < m := by
  apply Nat.mod_lt
  omega

@[simp]
theorem dist_self (m a : Nat) : dist m a a = 0 := by
  unfold dist
  rw [Nat.add_sub_cancel_left, Nat.mod_self]

theorem dist_eq_zero (ha : a < m) (hb : b < m) : dist m a b = 0 ↔ a = b := by
  have := dist_spec ha hb
  omega

theorem dist_succ_left (ha : a < m) (hb : b < m) (hne : a ≠ b)
    : dist m ((a + 1) % m) b + 1 = dist m a b := by
  have := dist_spec ha hb
  have := dist_spec (succ_lt ha) hb
  have := succ_spec ha
  omega

theorem dist_succ_right (ha : a < m) (hb : b < m) (hlt : dist m a b + 1 < m)
    : dist m a ((b + 1) % m) = dist m a b + 1 := by
  have := dist_spec ha hb
  have := dist_spec ha (succ_lt hb)
  have := succ_spec hb
  omega

theorem dist_add_mod {k : Nat} (ha : a < m) (hk : k < m) : dist m a ((a + k) % m) = k := by
  have hlt : (a + k) % m < m := by
    apply Nat.mod_lt
    omega
  have hdist := dist_spec ha hlt
  by_cases h : a + k < m
  . rw [Nat.mod_eq_of_lt h] at hdist ⊢
    omega
  . have hmod : (a + k) % m = a + k - m := by
      rw [Nat.mod_eq_sub_mod (by omega), Nat.mod_eq_of_lt (by omega)]
    rw [hmod] at hdist ⊢
    omega

theorem add_dist_mod (ha : a < m) (hb : b < m) : (a + dist m a b) % m = b := by
  have hdist := dist_spec ha hb
  by_cases h : a + dist m a b = b
  . rw [h, Nat.mod_eq_of_lt hb]
  . have : a + dist m a b = b + m := by omega
    rw [this, Nat.add_mod_right, Nat.mod_eq_of_lt hb]

theorem dist_add {c : Nat} (ha : a < m) (hb : b < m) (hc : c < m) (hle : dist m a b ≤ dist m a c)
    : dist m a b + dist m b c = dist m a c := by
  have := dist_spec ha hb
  have := dist_spec ha hc
  have := dist_spec hb hc
  omega

theorem dist_shift {k : Nat} (ha : a < m) (hb : b < m) (hk : k < m)
    : dist m ((a + k) % m) b + k = if dist m a b < k then dist m a b + m else dist m a b := by
  have hc : (a + k) % m < m := by
    apply Nat.mod_lt
    omega
  have hac := dist_add_mod ha hk
  have := dist_spec ha hc
  have := dist_spec ha hb
  have := dist_spec hc hb
  split <;> omega

theorem mem_Ico : x ∈ Ico m a b ↔ x < m ∧ dist m a x < dist m a b := by
  simp only [Ico, Finset.mem_filter, Finset.mem_range]

theorem left_mem_Ico (ha : a < m) (hb : b < m) : a ∈ Ico m a b ↔ a ≠ b := by
  have := dist_eq_zero ha hb
  rw [mem_Ico, dist_self]
  omega

theorem right_not_mem_Ico : b ∉ Ico m a b := by
  rw [mem_Ico]
  omega

theorem insert_Ico (ha : a < m) (hb : b < m) (hlt : dist m a b + 1 < m)
    : insert b (Ico m a b) = Ico m a ((b + 1) % m) := by
  ext x
  rw [Finset.mem_insert, mem_Ico, mem_Ico, dist_succ_right ha hb hlt]
  constructor
  . rintro (rfl | h) <;> omega
  . rintro ⟨hx, h⟩
    have := dist_spec ha hb
    have := dist_spec ha hx
    omega

theorem erase_Ico (ha : a < m) (hb : b < m) (hne : a ≠ b)
    : (Ico m a b).erase a = Ico m ((a + 1) % m) b := by
  ext x
  have hab := dist_succ_left ha hb hne
  rw [Finset.mem_erase, mem_Ico, mem_Ico]
  constructor
  . rintro ⟨hxa, hx, h⟩
    have := dist_succ_left ha hx (Ne.symm hxa)
    omega
  . rintro ⟨hx, h⟩
    have hax := dist_spec (succ_lt ha) hx
    have := succ_spec ha
    have hxa : a ≠ x := by
      rintro rfl
      have := dist_spec (succ_lt ha) hb
      omega
    have := dist_succ_left ha hx hxa
    exact ⟨hxa.symm, hx, by omega⟩

theorem mem_Ico_iff_of_le {c : Nat} (ha : a < m) (hb : b < m) (hc : c < m)
    (hle : dist m a b ≤ dist m a c)
    : x ∈ Ico m b c ↔ x ∈ Ico m a c ∧ x ∉ Ico m a b := by
  rw [mem_Ico, mem_Ico, mem_Ico]
  by_cases hx : x < m
  . have := dist_spec ha hx
    have := dist_spec hb hx
    have := dist_spec ha hc
    have := dist_spec hb hc
    have := dist_spec ha hb
    omega
  . simp [hx]

theorem Ico_self (m a : Nat) : Ico m a a = ∅ := by
  ext x
  simp [mem_Ico]

theorem card_Ico (ha : a < m) (hb : b < m) : (Ico m a b).card = dist m a b := by
  generalize hn : dist m a b = n
  induction n generalizing a with
  | zero =>
    rw [dist_eq_zero ha hb] at hn
    rw [hn, Ico_self, Finset.card_empty]
  | succ n ih =>
    have hne : a ≠ b := by
      rintro rfl
      simp at hn
    have hdist := dist_succ_left ha hb hne
    have hcard := ih (succ_lt ha) (by omega)
    rw [← erase_Ico ha hb hne] at hcard
    rw [← Finset.card_erase_add_one ((left_mem_Ico ha hb).mpr hne), hcard]

end Cyclic
