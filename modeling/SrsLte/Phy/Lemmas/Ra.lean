import SrsLte.Phy.Impl.Dci

/-!
This module contains the round trip of resource indication values.
-/

namespace SrsLte

theorem le_two_pow_ceilLog2 (x : Nat) : x ≤ 2 ^ ceilLog2 x := by
  unfold ceilLog2
  split
  next h => exact h
  next h =>
    have := Nat.lt_log2_self (n := x - 1)
    omega

namespace RaType2

structure Within (LCrb RBStart n : Nat) : Prop where
  pos : 1 ≤ LCrb
  le : RBStart + LCrb ≤ n

variable {LCrb RBStart n nofVrb riv : Nat}

def rivValue (LCrb RBStart n : Nat) : Nat :=
  if LCrb - 1 ≤ n / 2 then n * (LCrb - 1) + RBStart else n * (n - LCrb + 1) + (n - 1 - RBStart)

section

variable (h : Within LCrb RBStart n)

include h

theorem toRiv_eq_mod (hn : n < 2 ^ 32)
    : srslteRaType2ToRiv LCrb RBStart n = rivValue LCrb RBStart n % 2 ^ 32 := by
  have hpos := h.pos
  have hle := h.le
  unfold srslteRaType2ToRiv rivValue
  rw [u32Sub_of_le hpos (by omega), u32Sub_of_le (show LCrb ≤ n by omega) hn]
  split
  next => rfl
  next =>
    unfold u32Sub
    omega

/-- The value is the smaller one of the two that stand for the allocation. -/
theorem rivValue_le
    : rivValue LCrb RBStart n ≤ n * (LCrb - 1) + RBStart ∧
      rivValue LCrb RBStart n ≤ n * (n - LCrb + 1) + (n - 1 - RBStart) := by
  have hpos := h.pos
  have hle := h.le
  unfold rivValue
  split
  next hshort =>
    refine ⟨Nat.le_refl _, ?_⟩
    cases Nat.lt_or_ge (LCrb - 1) (n - LCrb + 1) with
    | inl hlt =>
      have hrow : n * (LCrb - 1 + 1) ≤ n * (n - LCrb + 1) := Nat.mul_le_mul_left n hlt
      rw [Nat.mul_add_one] at hrow
      omega
    | inr hge =>
      have heq : LCrb - 1 = n - LCrb + 1 := by omega
      rw [heq]
      omega
  next hlong =>
    refine ⟨?_, Nat.le_refl _⟩
    have hrow : n * (n - LCrb + 1 + 1) ≤ n * (LCrb - 1) := Nat.mul_le_mul_left n (by omega)
    rw [Nat.mul_add_one] at hrow
    omega

theorem rivValue_lt : rivValue LCrb RBStart n < n * (n + 1) / 2 := by
  have hpos := h.pos
  have hle := h.le
  have ⟨hshort, hlong⟩ := rivValue_le h
  -- the two values add up to `n * n + n - 1`
  have hsum : n * (LCrb - 1) + n * (n - LCrb + 1) = n * n := by
    rw [← Nat.mul_add]
    congr 1
    omega
  have heven := Nat.even_iff.mp (Nat.even_mul_succ_self n)
  rw [Nat.mul_add_one n n] at heven ⊢
  omega

theorem rivValue_lt_of_lt (hn : n < 2 ^ 15) : rivValue LCrb RBStart n < 2 ^ 32 := by
  have hlt := rivValue_lt h
  have hsq : n * (n + 1) ≤ 2 ^ 15 * 2 ^ 15 := Nat.mul_le_mul (by omega) (by omega)
  omega

theorem toRiv_eq (hn : n < 2 ^ 15)
    : srslteRaType2ToRiv LCrb RBStart n = rivValue LCrb RBStart n := by
  rw [toRiv_eq_mod h (by omega), Nat.mod_eq_of_lt (rivValue_lt_of_lt h hn)]

theorem toRiv_lt (hn : n < 2 ^ 32)
    : srslteRaType2ToRiv LCrb RBStart n < n * (n + 1) / 2 := by
  rw [toRiv_eq_mod h hn]
  exact Nat.lt_of_le_of_lt (Nat.mod_le _ _) (rivValue_lt h)

end

theorem fromRiv_mul_add {q r : Nat} (hr : r < n)
    : srslteRaType2FromRiv (n * q + r) n nofVrb
        =
      if q + 1 > u32Sub nofVrb r then ((u32Sub n q + 1) % 2 ^ 32, n - r - 1) else (q + 1, r) := by
  have hdiv : (n * q + r) / n = q := by
    rw [Nat.mul_add_div (by omega), Nat.div_eq_of_lt hr, Nat.add_zero]
  have hmod : (n * q + r) % n = r := by
    rw [Nat.mul_add_mod, Nat.mod_eq_of_lt hr]
  unfold srslteRaType2FromRiv
  dsimp only
  rw [hdiv, hmod]

section

variable (h : Within LCrb RBStart n)

include h

theorem fromRiv_rivValue (hn : n < 2 ^ 32) (hvrb : nofVrb < 2 ^ 32)
    (hle : RBStart + LCrb ≤ nofVrb)
    (hmirror : LCrb - 1 ≤ n / 2 ∨ (n ≤ RBStart + nofVrb + 1 ∧ nofVrb + RBStart + LCrb ≤ 2 * n))
    : srslteRaType2FromRiv (rivValue LCrb RBStart n) n nofVrb = (LCrb, RBStart) := by
  have hpos := h.pos
  have hle' := h.le
  unfold rivValue
  split
  next hshort =>
    rw [fromRiv_mul_add (by omega), u32Sub_of_le (by omega) hvrb, if_neg (by omega), Nat.sub_add_cancel hpos]
  next hlong =>
    rw [fromRiv_mul_add (by omega), u32Sub_of_le (by omega) hvrb, if_pos (by omega), u32Sub_of_le (by omega) hn]
    apply Prod.ext
    . dsimp only
      omega
    . dsimp only
      omega

theorem fromRiv_toRiv (hn : n < 2 ^ 15) (hvrb : nofVrb < 2 ^ 15)
    (hle : RBStart + LCrb ≤ nofVrb)
    (hmirror : LCrb - 1 ≤ n / 2 ∨ (n ≤ RBStart + nofVrb + 1 ∧ nofVrb + RBStart + LCrb ≤ 2 * n))
    : srslteRaType2FromRiv (srslteRaType2ToRiv LCrb RBStart n) n nofVrb = (LCrb, RBStart) := by
  rw [toRiv_eq h hn]
  exact fromRiv_rivValue h (by omega) (by omega) hle hmirror

theorem fromRiv_toRiv_self (hn : n < 2 ^ 15)
    : srslteRaType2FromRiv (srslteRaType2ToRiv LCrb RBStart n) n n = (LCrb, RBStart) := by
  have hle := h.le
  exact fromRiv_toRiv h hn hn hle (by omega)

theorem rivValue_le_of_fromRiv (hn : n < 2 ^ 32) (hriv : riv ≤ rivValue LCrb RBStart n)
    (hfrom : srslteRaType2FromRiv riv n nofVrb = (LCrb, RBStart))
    : rivValue LCrb RBStart n ≤ riv := by
  have hpos := h.pos
  have hle := h.le
  have ⟨hshort, hlong⟩ := rivValue_le h
  have hr : riv % n < n := Nat.mod_lt riv (by omega)
  have hq : riv / n ≤ n := by
    have hmul : n * (LCrb - 1) ≤ n * n := Nat.mul_le_mul_left n (by omega)
    rw [Nat.div_le_iff_le_mul_add_pred (by omega)]
    omega
  rw [← Nat.div_add_mod riv n, fromRiv_mul_add hr] at hfrom
  rw [← Nat.div_add_mod riv n]
  generalize riv / n = q, riv % n = r at hq hr hfrom
  split at hfrom
  next =>
    rw [u32Sub_of_le hq hn, Prod.mk.injEq] at hfrom
    have heq : q = n - LCrb + 1 := by omega
    rw [heq]
    omega
  next =>
    rw [Prod.mk.injEq] at hfrom
    have heq : q = LCrb - 1 := by omega
    rw [heq]
    omega

end

structure RivCodec (n nofVrb LCrb RBStart : Nat) : Prop where
  decodes : srslteRaType2FromRiv (srslteRaType2ToRiv LCrb RBStart n) n nofVrb = (LCrb, RBStart)
  lt : srslteRaType2ToRiv LCrb RBStart n < n * (n + 1) / 2
  within : nofVrb = n → ∀ riv < n * (n + 1) / 2, riv < 2 ^ 32 →
    Within (srslteRaType2FromRiv riv n n).1 (srslteRaType2FromRiv riv n n).2 n

theorem within_fromRiv (hn : n < 2 ^ 32) (hlt : riv < n * (n + 1) / 2)
    : Within (srslteRaType2FromRiv riv n n).1 (srslteRaType2FromRiv riv n n).2 n := by
  have hpos : 0 < n := by
    apply Nat.pos_of_ne_zero
    rintro rfl
    cases hlt
  have hr : riv % n < n := Nat.mod_lt riv hpos
  have hq : riv / n < n := by
    have hsq : n * (n + 1) ≤ n * (2 * n) := Nat.mul_le_mul_left n (by omega)
    have hassoc : n * (2 * n) = 2 * (n * n) := by ring
    exact Nat.div_lt_of_lt_mul (by omega)
  rw [← Nat.div_add_mod riv n, fromRiv_mul_add hr, u32Sub_of_le (by omega) hn, u32Sub_of_le (by omega) hn]
  generalize riv / n = q, riv % n = r at hq hr
  split
  next => constructor <;> dsimp only <;> omega
  next => constructor <;> dsimp only <;> omega

theorem rivCodec_iff (hn : n < 2 ^ 32) (hpos : 1 ≤ LCrb) (hle : RBStart + LCrb ≤ nofVrb) (hvrb : nofVrb ≤ n)
    : RivCodec n nofVrb LCrb RBStart
        ↔
      rivValue LCrb RBStart n < 2 ^ 32 ∧ (LCrb - 1 ≤ n / 2 ∨ n ≤ RBStart + nofVrb + 1) := by
  have h : Within LCrb RBStart n := ⟨hpos, by omega⟩
  constructor
  . intro hcodec
    have hdecodes := hcodec.decodes
    rw [toRiv_eq_mod h hn] at hdecodes
    have hlt : rivValue LCrb RBStart n < 2 ^ 32 :=
      Nat.lt_of_le_of_lt (rivValue_le_of_fromRiv h hn (Nat.mod_le _ _) hdecodes) (Nat.mod_lt _ (by decide))
    refine ⟨hlt, ?_⟩
    rw [Nat.mod_eq_of_lt hlt] at hdecodes
    -- a long allocation whose mirror image starts after the virtual resource blocks is not recognised
    by_contra hmirror
    have hne : ¬ LCrb - 1 ≤ n / 2 := fun hshort => hmirror (Or.inl hshort)
    have hwrap : u32Sub nofVrb (n - 1 - RBStart) = 2 ^ 32 + nofVrb - (n - 1 - RBStart) := by
      unfold u32Sub
      omega
    unfold rivValue at hdecodes
    rw [if_neg hne, fromRiv_mul_add (by omega), hwrap, if_neg (by omega), Prod.mk.injEq] at hdecodes
    omega
  . rintro ⟨hlt, hmirror⟩
    constructor
    . rw [toRiv_eq_mod h hn, Nat.mod_eq_of_lt hlt]
      exact fromRiv_rivValue h hn (by omega) hle (by omega)
    . exact toRiv_lt h hn
    . intro _ riv hriv _
      exact within_fromRiv hn hriv

theorem rivCodec_25Prb : RivCodec 25 24 20 2 :=
  (rivCodec_iff (by decide) (by decide) (by decide) (by decide)).mpr (by decide)

theorem not_rivCodec_50Prb : ¬ RivCodec 50 46 27 0 := by
  intro h
  exact absurd h.decodes (by decide)

end RaType2

end SrsLte
