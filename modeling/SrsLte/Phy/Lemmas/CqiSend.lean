import Mathlib.Data.Nat.ModEq
import Mathlib.Tactic.IntervalCases
import SrsLte.Phy.Impl.Cqi

/-!
This module contains the TTIs in which periodic CQI and RI reports are sent.
-/

namespace SrsLte.CqiSchedule

def riTable (IRi : Nat) : Option (Nat × Nat) :=
  if IRi ≤ 160 then
    some (1, IRi)
  else if IRi ≤ 965 then
    some (2 ^ (IRi / 161), IRi % 161)
  else
    none

def Due (K NOffset off tti : Nat) : Prop :=
  (K : Int) ∣ tti + off - NOffset

/--
The CQI reports are sent when they are due and thus `Np` TTIs apart, and so are the RI reports. The TTIs wrap
around at 10240, this is looked at if `Np` divides 10240.
-/
structure Kept (ICqiPmi IRi Np NOffset : Nat) : Prop where
  cqi : ∀ tti < 10240, srslteCqiSend ICqiPmi tti ↔ Due Np NOffset 0 tti
  apart : ∀ tti < 10240, srslteCqiSend ICqiPmi tti → ∀ k, tti + k < 10240 ∨ Np ∣ 10240 →
    (srslteCqiSend ICqiPmi ((tti + k) % 10240) ↔ Np ∣ k)
  ri : ∀ MRi off, riTable IRi = some (MRi, off) →
    ∀ tti < 10240, srslteRiSend ICqiPmi IRi tti ↔ Due (Np * MRi) NOffset off tti

/--
The difference of the TTI and the offset is computed modulo `2 ^ 32`: either `K` divides this number or the offset
is too small for a difference that would be wrong.
-/
def Exact (K NOffset off : Nat) : Prop :=
  2 ^ 32 % K = 0 ∨ NOffset < off + 2 ^ 32 % K

variable {ICqiPmi IRi Np NOffset K off tti : Nat}

theorem getN_spec (h : srslteCqiGetN ICqiPmi = some (Np, NOffset)) (hpos : 0 < Np) : NOffset < Np ∧ Np ≤ 160 := by
  have htable : ∀ ICqiPmi < 1024, ∀ N ∈ srslteCqiGetN ICqiPmi, N.2 < N.1 ∧ N.1 ≤ 160 := by decide +kernel
  cases Nat.lt_or_ge ICqiPmi 1024 with
  | inl hlt => exact htable ICqiPmi hlt _ h
  | inr hge =>
    unfold srslteCqiGetN at h
    repeat rw [if_neg (by omega)] at h
    cases h
    cases hpos

def sends (K NOffset off tti : Nat) : Bool :=
  (u32Sub tti NOffset + off) % 2 ^ 32 % K = 0

theorem sends_iff_of_le (htti : tti < 10240) (hoff : off ≤ 160) (hle : NOffset ≤ tti + off)
    : sends K NOffset off tti ↔ Due K NOffset off tti := by
  have heq : (u32Sub tti NOffset + off) % 2 ^ 32 = tti + off - NOffset := by
    unfold u32Sub
    omega
  unfold sends Due
  rw [decide_eq_true_iff, heq, ← Nat.dvd_iff_mod_eq_zero, ← Int.natCast_dvd_natCast, Nat.cast_sub hle, Nat.cast_add]

theorem sends_iff_of_lt (hK : NOffset < K) (hNOffset : NOffset < 2 ^ 32) (hlt : tti + off < NOffset)
    : (sends K NOffset off tti ↔ Due K NOffset off tti) ↔ NOffset - off - tti ≠ 2 ^ 32 % K := by
  have heq : (u32Sub tti NOffset + off) % 2 ^ 32 = 2 ^ 32 - (NOffset - off - tti) := by
    unfold u32Sub
    omega
  have hdue : ¬ Due K NOffset off tti := by
    intro hdvd
    have := Int.eq_zero_of_abs_lt_dvd hdvd (abs_lt.mpr ⟨by omega, by omega⟩)
    omega
  unfold sends
  rw [decide_eq_true_iff, heq, ← Nat.dvd_iff_mod_eq_zero, ← Nat.modEq_iff_dvd' (by omega), Nat.ModEq,
    Nat.mod_eq_of_lt (by omega)]
  simp only [hdue, iff_false]

theorem exact_iff (hK : NOffset < K) (hNOffset : NOffset ≤ 160) (hoff : off ≤ 160)
    : (∀ tti < 10240, sends K NOffset off tti ↔ Due K NOffset off tti) ↔ Exact K NOffset off := by
  constructor
  . intro h
    by_contra hexact
    have hwrong := h (NOffset - off - 2 ^ 32 % K) (by omega)
    unfold Exact at hexact
    rw [sends_iff_of_lt hK (by omega) (by omega)] at hwrong
    omega
  . intro hexact tti htti
    cases Nat.lt_or_ge (tti + off) NOffset with
    | inl hlt =>
      rw [sends_iff_of_lt hK (by omega) hlt]
      unfold Exact at hexact
      omega
    | inr hge => exact sends_iff_of_le htti hoff hge

theorem exists_due (hK : 0 < K) (NOffset off : Nat) : ∃ tti, 321 ≤ tti ∧ tti < 321 + K ∧ Due K NOffset off tti := by
  have hnonneg := Int.emod_nonneg (NOffset - off - 321 : Int) (show (K : Int) ≠ 0 by omega)
  have hlt := Int.emod_lt_of_pos (NOffset - off - 321 : Int) (show (0 : Int) < K by omega)
  have hmod := Int.emod_add_mul_ediv (NOffset - off - 321 : Int) K
  refine ⟨321 + ((NOffset - off - 321 : Int) % K).toNat, by omega, by omega, ?_⟩
  refine ⟨-((NOffset - off - 321 : Int) / K), ?_⟩
  rw [Nat.cast_add, Int.toNat_of_nonneg hnonneg, mul_neg]
  omega

theorem not_sends_of_double {c : Nat} (hK : 0 < K) (hK' : K ≤ 2560) (hNOffset : NOffset ≤ 160) (hc : c ≤ 161)
    : ¬ ∀ tti < 10240, sends (2 * K) NOffset (2 ^ 32 - c) tti ↔ Due K NOffset off tti := by
  intro h
  have hsends : ∀ tti < 10240, 321 ≤ tti → Due K NOffset off tti → 2 * K ∣ tti - NOffset - c := by
    intro tti htti hge hdue
    have heq : (u32Sub tti NOffset + (2 ^ 32 - c)) % 2 ^ 32 = tti - NOffset - c := by
      unfold u32Sub
      omega
    have hsent := (h tti htti).mpr hdue
    unfold sends at hsent
    rw [decide_eq_true_iff, heq] at hsent
    exact Nat.dvd_of_mod_eq_zero hsent
  have ⟨tti, hge, hlt, hdue⟩ := exists_due hK NOffset off
  have hdue' : Due K NOffset off (tti + K) := by
    have heq : ((tti + K : Nat) + off - NOffset : Int) = (tti + off - NOffset) + K := by omega
    rw [Due, heq]
    exact Int.dvd_add hdue (Int.dvd_refl _)
  have hdvd := Nat.dvd_sub (hsends (tti + K) (by omega) (by omega) hdue') (hsends tti (by omega) hge hdue)
  have hle := Nat.le_of_dvd (by omega) hdvd
  omega

theorem cqiSend_eq (h : srslteCqiGetN ICqiPmi = some (Np, NOffset)) (hpos : 0 < Np) (tti : Nat)
    : srslteCqiSend ICqiPmi tti = sends Np NOffset 0 tti := by
  have hlt : u32Sub tti NOffset < 2 ^ 32 := Nat.mod_lt _ (by decide)
  unfold srslteCqiSend sends
  rw [h, Nat.add_zero, Nat.mod_eq_of_lt hlt]
  simp only [Nat.ne_of_gt hpos, ne_eq, not_false_eq_true, true_and]

theorem riSend_eq (h : srslteCqiGetN ICqiPmi = some (Np, NOffset)) (hpos : 0 < Np) {MRi : Nat}
    (hrow : srslteRiSend.MRi IRi = (MRi, off)) (hM : 0 < MRi) (tti : Nat)
    : srslteRiSend ICqiPmi IRi tti = sends (Np * MRi) NOffset off tti := by
  unfold srslteRiSend sends
  rw [h, hrow]
  simp only [Nat.ne_of_gt hpos, Nat.ne_of_gt hM, ne_eq, not_false_eq_true, true_and]

variable {k : Nat}

theorem MRi_mul (hk : 1 ≤ k) (hk' : k ≤ 5) : srslteRiSend.MRi (161 * k) = (2 ^ k, 0) := by
  interval_cases k <;> rfl

theorem MRi_mul_add {c : Nat} (hk : 1 ≤ k) (hk' : k ≤ 4) (hc : 1 ≤ c) (hc' : c ≤ 160)
    : srslteRiSend.MRi (161 * k + c) = (2 * 2 ^ k, 2 ^ 32 - (161 - c)) := by
  unfold srslteRiSend.MRi u32Sub
  interval_cases k <;> repeat rw [if_neg (by omega)]
  all_goals
    rw [if_pos (by omega), Prod.mk.injEq]
    omega

theorem not_riSend (h : 806 ≤ IRi) (ICqiPmi tti : Nat) : srslteRiSend ICqiPmi IRi tti = false := by
  have hrow : srslteRiSend.MRi IRi = (0, 0) := by
    unfold srslteRiSend.MRi
    repeat rw [if_neg (by omega)]
  unfold srslteRiSend
  rw [hrow]
  split <;> simp

theorem ri_iff (h : srslteCqiGetN ICqiPmi = some (Np, NOffset)) (hpos : 0 < Np) {MRi : Nat}
    (hrow : riTable IRi = some (MRi, off))
    : (∀ tti < 10240, srslteRiSend ICqiPmi IRi tti ↔ Due (Np * MRi) NOffset off tti)
        ↔
      (IRi ≤ 160 ∨ 161 ∣ IRi) ∧ Exact (Np * MRi) NOffset off := by
  have ⟨hlt, hle⟩ := getN_spec h hpos
  unfold riTable at hrow
  split at hrow
  next hsmall =>
    cases hrow
    have hM : srslteRiSend.MRi IRi = (1, IRi) := if_pos hsmall
    simp only [riSend_eq h hpos hM Nat.one_pos, Nat.mul_one, hsmall, true_or, true_and]
    exact exact_iff hlt (by omega) hsmall
  next hsmall =>
    split at hrow
    next hlarge =>
      cases hrow
      have hk : 1 ≤ IRi / 161 := by omega
      have hc : IRi % 161 ≤ 160 := by omega
      have heq := Nat.div_add_mod IRi 161
      rw [or_iff_right hsmall, Nat.dvd_iff_mod_eq_zero]
      generalize IRi / 161 = k, IRi % 161 = c at hk hc heq ⊢
      subst heq
      have hpow : 2 ^ k ≤ 2 ^ 5 := Nat.pow_le_pow_right (by decide) (by omega)
      have hK : 0 < Np * 2 ^ k := Nat.mul_pos hpos (Nat.two_pow_pos k)
      cases Nat.eq_zero_or_pos c with
      | inl hzero =>
        subst hzero
        have hK' : NOffset < Np * 2 ^ k := Nat.lt_of_lt_of_le hlt (Nat.le_mul_of_pos_right Np (Nat.two_pow_pos k))
        simp only [Nat.add_zero, riSend_eq h hpos (MRi_mul hk (by omega)) (Nat.two_pow_pos k), true_and]
        exact exact_iff hK' (by omega) (by omega)
      | inr hc' =>
        have hne : ¬ c = 0 := Nat.ne_of_gt hc'
        simp only [hne, false_and, iff_false]
        cases Nat.lt_or_ge k 5 with
        | inl hk' =>
          have hpow' : 2 ^ k ≤ 2 ^ 4 := Nat.pow_le_pow_right (by decide) (by omega)
          have hle' : Np * 2 ^ k ≤ 160 * 2 ^ 4 := Nat.mul_le_mul hle hpow'
          have hdouble : Np * (2 * 2 ^ k) = 2 * (Np * 2 ^ k) := Nat.mul_left_comm Np 2 (2 ^ k)
          have hM : 0 < 2 * 2 ^ k := Nat.mul_pos (by decide) (Nat.two_pow_pos k)
          simp only [riSend_eq h hpos (MRi_mul_add hk (by omega) hc' hc) hM, hdouble]
          exact not_sends_of_double hK hle' (by omega) (by omega)
        | inr hk' =>
          intro hnever
          have hle' : Np * 2 ^ k ≤ 160 * 2 ^ 5 := Nat.mul_le_mul hle hpow
          have ⟨tti, _, htti, hdue⟩ := exists_due hK NOffset c
          have hsent := (hnever tti (by omega)).mpr hdue
          rw [not_riSend (by omega)] at hsent
          cases hsent
    next => cases hrow

theorem apart (h : ∀ tti < 10240, srslteCqiSend ICqiPmi tti ↔ Due Np NOffset 0 tti) (htti : tti < 10240)
    (hsent : srslteCqiSend ICqiPmi tti) (hk : tti + k < 10240 ∨ Np ∣ 10240)
    : srslteCqiSend ICqiPmi ((tti + k) % 10240) ↔ Np ∣ k := by
  have hdue : (Np : Int) ∣ _ := (h tti htti).mp hsent
  have hwrap : (Np : Int) ∣ ((tti + k : Nat) - ((tti + k) % 10240 : Nat) : Int) := by
    cases hk with
    | inl hlt =>
      rw [Nat.mod_eq_of_lt hlt, Int.sub_self]
      exact Int.dvd_zero _
    | inr hdvd => exact Int.dvd_trans (Int.natCast_dvd_natCast.mpr hdvd) (by omega)
  have heq : (((tti + k) % 10240 : Nat) + (0 : Nat) - NOffset : Int)
      = tti + (0 : Nat) - NOffset - ((tti + k : Nat) - ((tti + k) % 10240 : Nat)) + k := by omega
  rw [h _ (Nat.mod_lt _ (by decide)), Due, heq, Int.dvd_add_right (Int.dvd_sub hdue hwrap), Int.natCast_dvd_natCast]

theorem kept_iff (h : srslteCqiGetN ICqiPmi = some (Np, NOffset)) (hpos : 0 < Np)
    : Kept ICqiPmi IRi Np NOffset
        ↔
      Exact Np NOffset 0 ∧
        ∀ MRi off, riTable IRi = some (MRi, off) → (IRi ≤ 160 ∨ 161 ∣ IRi) ∧ Exact (Np * MRi) NOffset off := by
  have ⟨hlt, hle⟩ := getN_spec h hpos
  have hcqi : (∀ tti < 10240, srslteCqiSend ICqiPmi tti ↔ Due Np NOffset 0 tti) ↔ Exact Np NOffset 0 := by
    simp only [cqiSend_eq h hpos]
    exact exact_iff hlt (by omega) (by decide)
  rw [← hcqi]
  constructor
  . intro hkept
    exact ⟨hkept.cqi, fun MRi off hrow => (ri_iff h hpos hrow).mp (hkept.ri MRi off hrow)⟩
  . rintro ⟨hcqi, hri⟩
    refine ⟨hcqi, ?_, fun MRi off hrow => (ri_iff h hpos hrow).mpr (hri MRi off hrow)⟩
    intro tti htti hsent k hk
    exact apart hcqi htti hsent hk

theorem kept_nineteen : Kept 19 161 20 2 := by
  refine (kept_iff rfl (by decide)).mpr ⟨Or.inr (by decide), ?_⟩
  intro MRi off h
  cases h
  exact ⟨Or.inr (by decide), Or.inr (by decide)⟩

theorem not_kept_three : ¬ Kept 3 0 5 1 := by
  intro h
  have hdue := (h.cqi 0 (by decide)).mp (by decide)
  unfold Due at hdue
  exact absurd hdue (by decide)

end SrsLte.CqiSchedule
