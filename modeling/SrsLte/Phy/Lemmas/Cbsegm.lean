import SrsLte.Phy.Impl.Cbsegm
import Mathlib.Data.List.Chain
import Mathlib.Tactic.Ring

/-!
This module contains the theory of the code block segmentation.
-/

namespace SrsLte.Cbsegm

open List

def Consecutive (smaller larger : Nat) : Prop :=
  ∃ i, tcCbSizes[i]? = some smaller ∧ tcCbSizes[i + 1]? = some larger

def blockSize (s : Cbsegm) (i : Nat) : Nat :=
  if i < s.C2 then s.K2 else s.K1

def payloadBits (s : Cbsegm) (i : Nat) : Int :=
  s.blockSize i - (if s.C > 1 then 24 else 0) - (if i = 0 then s.F else 0) - (if i + 1 = s.C then 24 else 0)

structure Segments (tbs : Nat) (s : Cbsegm) : Prop where
  tbs_eq : s.tbs = tbs
  c_pos : 1 ≤ s.C
  c1_add_c2 : s.C1 + s.C2 = s.C
  sizes : s.C1 * s.K1 + s.C2 * s.K2 = tbs + 24 + (if s.C > 1 then 24 * s.C else 0) + s.F
  f_lt_k1 : s.C = 1 → s.F < s.K1
  f_lt : s.C > 1 → s.F < s.K1 - s.K2
  k1_get : tcCbSizes[s.K1Idx]? = some s.K1
  k1_le : s.K1 ≤ 6144
  k2_of_one : s.C = 1 → s.K2 = 0
  consecutive : s.C > 1 → Consecutive s.K2 s.K1
  payload : ∀ i < s.C, 1 ≤ s.payloadBits i

theorem le_of_mem_tcCbSizes : ∀ size ∈ tcCbSizes, size ≤ 6144 := by
  decide +kernel

theorem ge_of_mem_tcCbSizes : ∀ size ∈ tcCbSizes, 40 ≤ size ∧ 8 ∣ size := by
  decide +kernel

theorem isChain_tcCbSizes : tcCbSizes.IsChain (fun smaller larger => larger ≤ smaller + 64) := by
  decide +kernel

theorem Consecutive.le_add {smaller larger : Nat} (h : Consecutive smaller larger) : larger ≤ smaller + 64 := by
  have ⟨i, hsmaller, hlarger⟩ := h
  have ⟨hlt, hlarger⟩ := List.getElem?_eq_some_iff.mp hlarger
  have ⟨hlt', hsmaller⟩ := List.getElem?_eq_some_iff.mp hsmaller
  rw [← hsmaller, ← hlarger]
  exact isChain_iff_getElem.mp isChain_tcCbSizes i hlt

theorem exists_cbindex {n : Nat} (hn : n ≤ 6144)
    : ∃ idx K1, srslteCbsegmCbindex n = some idx ∧ srslteCbsegmCbsize idx = some K1 ∧ n ≤ K1 ∧
        (0 < idx → ∃ K2, srslteCbsegmCbsize (idx - 1) = some K2 ∧ K2 < n) := by
  generalize hidx : tcCbSizes.findIdx (fun size => ¬ size < n) = idx
  have hlt : idx < tcCbSizes.length := by
    rw [← hidx]
    apply findIdx_lt_length_of_exists
    refine ⟨6144, by decide +kernel, ?_⟩
    simpa using hn
  refine ⟨idx, tcCbSizes[idx], ?_, getElem?_eq_getElem hlt, ?_, ?_⟩
  . unfold srslteCbsegmCbindex
    rw [hidx]
    exact if_neg (Nat.ne_of_lt hlt)
  . subst hidx
    simpa using findIdx_getElem (w := hlt)
  . intro hpos
    have hlt' : idx - 1 < tcCbSizes.length := by omega
    refine ⟨tcCbSizes[idx - 1], getElem?_eq_getElem hlt', ?_⟩
    subst hidx
    simpa using not_of_lt_findIdx (p := fun size => decide (¬ size < n)) (Nat.sub_one_lt_of_lt hpos)

variable {tbs C Bp K1 K2 : Nat}

theorem fill_blocks {C1 C2 : Nat} (hlt : C * K2 < Bp) (hle : Bp ≤ C * K1)
    (hC2 : C2 = (C * K1 - Bp) / (K1 - K2)) (hC1 : C1 = C - C2)
    : C2 < C ∧ C1 * K1 + C2 * K2 = Bp + (C * K1 - Bp) % (K1 - K2) ∧ (C * K1 - Bp) % (K1 - K2) < K1 - K2 := by
  have hK : K2 < K1 := by
    apply Nat.lt_of_mul_lt_mul_left (a := C)
    omega
  have hmod := Nat.mod_lt (C * K1 - Bp) (Nat.sub_pos_of_lt hK)
  have hdiv : (K1 - K2) * C2 + (C * K1 - Bp) % (K1 - K2) = C * K1 - Bp := by
    rw [hC2]
    exact Nat.div_add_mod (C * K1 - Bp) (K1 - K2)
  have hC2lt : C2 < C := by
    rw [hC2]
    apply Nat.div_lt_of_lt_mul
    rw [Nat.mul_comm (K1 - K2) C, Nat.mul_sub]
    omega
  refine ⟨hC2lt, ?_, hmod⟩
  have hsplit : C1 * K1 + C2 * K2 + (K1 - K2) * C2 = C * K1 := by
    have ⟨d, hd⟩ := Nat.exists_eq_add_of_lt hK
    have hdiff : K1 - K2 = d + 1 := by omega
    have hC : C = C1 + C2 := by omega
    rw [hdiff, hC, hd]
    ring
  omega

theorem ofSizes_spec (hC : 1 < C) (hC' : C < 2 ^ 20) (hlt : C * K2 < Bp) (hle : Bp ≤ C * K1)
    (hK : K1 ≤ K2 + 64) (tbs K1Idx : Nat)
    : let s := ofSizes tbs C Bp K1 K1Idx K2
      s.tbs = tbs ∧ s.C = C ∧ s.K1 = K1 ∧ s.K1Idx = K1Idx ∧ s.K2 = K2 ∧ s.C1 + s.C2 = C ∧
        s.C1 * K1 + s.C2 * K2 = Bp + s.F ∧ s.F < K1 - K2 := by
  have hsurplus : C * K1 - Bp < 2 ^ 26 := by
    have : C * K1 ≤ C * K2 + C * 64 := by
      rw [← Nat.mul_add]
      exact Nat.mul_le_mul_left C hK
    omega
  have ⟨hC2, hsum, hmod⟩ := fill_blocks hlt hle rfl rfl
  have hF : (C * K1 - Bp) % (K1 - K2) < 2 ^ 32 := by
    have := Nat.mod_le (C * K1 - Bp) (K1 - K2)
    omega
  unfold ofSizes
  rw [if_neg (Nat.ne_of_gt hC)]
  dsimp only
  rw [u32Sub_eq hle (by omega), u32Sub_of_le (Nat.le_of_lt hC2) (by omega), hsum, u32Sub_add_left Bp hF]
  refine ⟨rfl, rfl, rfl, rfl, rfl, ?_, rfl, hmod⟩
  omega

theorem segments_one {K1Idx : Nat} (hpos : 1 ≤ tbs) (hle : tbs + 24 ≤ K1)
    (hget : tcCbSizes[K1Idx]? = some K1) (K2 : Nat)
    : Segments tbs (ofSizes tbs 1 (tbs + 24) K1 K1Idx K2) := by
  have hK1 := le_of_mem_tcCbSizes K1 (mem_of_getElem? hget)
  have hF : u32Sub K1 (tbs + 24) = K1 - (tbs + 24) := u32Sub_of_le hle (by omega)
  have hs : ofSizes tbs 1 (tbs + 24) K1 K1Idx K2
      = { tbs, C := 1, K1, K1Idx, K2 := 0, K2Idx := 0, C2 := 0, C1 := 1, F := K1 - (tbs + 24) } := by
    unfold ofSizes
    rw [if_pos rfl, hF]
  rw [hs]
  constructor
  case payload =>
    intro i hi
    have hi : i = 0 := Nat.lt_one_iff.mp hi
    subst hi
    unfold payloadBits blockSize
    simp only [Nat.lt_irrefl, ↓reduceIte, gt_iff_lt]
    omega
  all_goals
    simp only [Nat.lt_irrefl, ↓reduceIte, gt_iff_lt, le_refl, IsEmpty.forall_iff, forall_const]
    first | done | assumption | omega

theorem segments_of_lt {K1Idx : Nat} (hC : 1 < C) (hC' : C < 2 ^ 20)
    (hBp : Bp = tbs + 24 + 24 * C) (hlt : C * K2 < Bp) (hle : Bp ≤ C * K1) (hK2 : 200 ≤ K2)
    (hconsecutive : Consecutive K2 K1) (hget : tcCbSizes[K1Idx]? = some K1)
    : Segments tbs (ofSizes tbs C Bp K1 K1Idx K2) := by
  have hK := hconsecutive.le_add
  have ⟨htbs, hCeq, hK1eq, hidx, hK2eq, hsum, hsizes, hF⟩ := ofSizes_spec hC hC' hlt hle hK tbs K1Idx
  generalize ofSizes tbs C Bp K1 K1Idx K2 = s at htbs hCeq hK1eq hidx hK2eq hsum hsizes hF ⊢
  subst hCeq hK1eq hidx hK2eq
  have hone : s.C ≠ 1 := Nat.ne_of_gt hC
  constructor
  case sizes => rw [hsizes, if_pos hC, hBp]
  case payload =>
    intro i _
    unfold payloadBits
    have hsize : 200 ≤ s.blockSize i := by
      unfold blockSize
      split
      next => exact hK2
      next => omega
    rw [if_pos hC]
    split
    all_goals
      split
      all_goals omega
  case tbs_eq => exact htbs
  case c_pos => exact Nat.le_of_lt hC
  case c1_add_c2 => exact hsum
  case f_lt_k1 => exact fun h => absurd h hone
  case f_lt => exact fun _ => hF
  case k1_get => exact hget
  case k1_le => exact le_of_mem_tcCbSizes _ (mem_of_getElem? hget)
  case k2_of_one => exact fun h => absurd h hone
  case consecutive => exact fun _ => hconsecutive

theorem ceil_spec (hC : 0 < C) (hBp : 0 < Bp)
    : Bp ≤ C * ((Bp - 1) / C + 1) ∧ C * ((Bp - 1) / C) < Bp := by
  have hdiv := Nat.div_add_mod (Bp - 1) C
  have hmod := Nat.mod_lt (Bp - 1) hC
  rw [Nat.mul_add]
  omega

theorem srslteCbsegm_eq (hpos : 1 ≤ tbs) (hB : tbs + 24 < 2 ^ 32)
    (hC : nofCodeBlocks (tbs + 24) = C) (hBp : withCodeBlockCrcs (tbs + 24) = Bp) (hBp' : 0 < Bp)
    (hlt : Bp < 2 ^ 32) (hn : (Bp - 1) / C + 1 ≤ 6144)
    : ∃ K1Idx K1, tcCbSizes[K1Idx]? = some K1 ∧ (Bp - 1) / C + 1 ≤ K1 ∧
        (K1Idx = 0 ∧ K1 = 40 ∧ srslteCbsegm tbs = some (ofSizes tbs C Bp K1 K1Idx K1) ∨
          ∃ K2, K2 < (Bp - 1) / C + 1 ∧ Consecutive K2 K1 ∧
            srslteCbsegm tbs = some (ofSizes tbs C Bp K1 K1Idx K2)) := by
  have ⟨idx, K1, hidx, hK1, hle, hK2⟩ := exists_cbindex hn
  refine ⟨idx, K1, hK1, hle, ?_⟩
  have hrec : ∀ K2, (if idx > 0 then srslteCbsegmCbsize (idx - 1) else some K1) = some K2 →
      srslteCbsegm tbs = some (ofSizes tbs C Bp K1 idx K2) := by
    intro K2 hK2
    have hn : (u32Sub Bp 1 / C + 1) % 2 ^ 32 = (Bp - 1) / C + 1 := by
      rw [u32Sub_of_le (show 1 ≤ Bp from hBp') hlt]
      exact Nat.mod_eq_of_lt (by omega)
    unfold srslteCbsegm
    rw [if_neg (Nat.ne_of_gt hpos)]
    simp only [Nat.mod_eq_of_lt hB, hC, hBp, hn, hidx, hK1, hK2]
  cases Nat.eq_zero_or_pos idx with
  | inl hzero =>
    left
    subst hzero
    refine ⟨rfl, ?_, hrec K1 rfl⟩
    have hfirst : srslteCbsegmCbsize 0 = some 40 := by decide +kernel
    rw [hfirst] at hK1
    exact (Option.some.inj hK1).symm
  | inr hidx =>
    right
    have ⟨K2, hcbsize, hlt⟩ := hK2 hidx
    refine ⟨K2, hlt, ⟨idx - 1, hcbsize, ?_⟩, hrec K2 ?_⟩
    . rw [Nat.sub_add_cancel hidx]
      exact hK1
    . rw [if_pos hidx, hcbsize]

theorem exists_segmentation (hpos : 1 ≤ tbs) (hbound : tbs + 24 + 24 * nofCodeBlocks (tbs + 24) < 2 ^ 32)
    : ∃ s, srslteCbsegm tbs = some s ∧ Segments tbs s := by
  have hC : nofCodeBlocks (tbs + 24) = if tbs + 24 ≤ 6144 then 1 else (tbs + 24 + 6119) / 6120 := rfl
  have hBp : withCodeBlockCrcs (tbs + 24)
      = if tbs + 24 ≤ 6144 then tbs + 24 else (tbs + 24 + 24 * nofCodeBlocks (tbs + 24)) % 2 ^ 32 := rfl
  cases Nat.lt_or_ge 6144 (tbs + 24) with
  | inr hone =>
    rw [if_pos hone] at hC hBp
    have ⟨K1Idx, K1, hget, hle, hsizes⟩ := srslteCbsegm_eq hpos (by omega) hC hBp (by omega) (by omega) (by omega)
    have hle : tbs + 24 ≤ K1 := by omega
    cases hsizes with
    | inl hsizes => exact ⟨_, hsizes.2.2, segments_one hpos hle hget K1⟩
    | inr hsizes =>
      have ⟨K2, _, _, heq⟩ := hsizes
      exact ⟨_, heq, segments_one hpos hle hget K2⟩
  | inl hmany =>
    rw [if_neg (Nat.not_le_of_lt hmany)] at hC hBp
    rw [Nat.mod_eq_of_lt hbound] at hBp
    generalize hCeq : nofCodeBlocks (tbs + 24) = C at *
    generalize hBpeq : tbs + 24 + 24 * C = Bp at *
    have hceil : Bp ≤ C * ((Bp - 1) / C + 1) ∧ C * ((Bp - 1) / C) < Bp := ceil_spec (by omega) (by omega)
    have hn : (Bp - 1) / C < 6144 := by
      apply Nat.div_lt_of_lt_mul
      omega
    -- The blocks are not small, since two of them hold more than 6144 bits
    have hn' : 1000 ≤ (Bp - 1) / C := by
      rw [Nat.le_div_iff_mul_le (by omega)]
      omega
    have ⟨K1Idx, K1, hget, hle, hsizes⟩ := srslteCbsegm_eq hpos (by omega) hCeq hBp (by omega) (by omega) hn
    cases hsizes with
    | inl hsizes => omega
    | inr hsizes =>
      have ⟨K2, hlt, hconsecutive, heq⟩ := hsizes
      have hK := hconsecutive.le_add
      refine ⟨_, heq, segments_of_lt (by omega) (by omega) hBpeq.symm ?_ ?_ (by omega) hconsecutive hget⟩
      . exact Nat.lt_of_le_of_lt (Nat.mul_le_mul_left C (Nat.le_of_lt_succ hlt)) hceil.2
      . exact Nat.le_trans hceil.1 (Nat.mul_le_mul_left C hle)

theorem exists_segments {tbs : Nat} (hpos : 1 ≤ tbs) (hbound : tbs + 24 + 24 * nofCodeBlocks (tbs + 24) < 2 ^ 32)
    : (∃ s, srslteCbsegm tbs = some s) ∧ ∀ s, srslteCbsegm tbs = some s → Segments tbs s := by
  have ⟨s, hs, hsegments⟩ := exists_segmentation hpos hbound
  refine ⟨⟨s, hs⟩, ?_⟩
  intro s' hs'
  rw [hs] at hs'
  cases hs'
  exact hsegments

theorem exists_segments_two_sizes
    : (∃ s, srslteCbsegm 6136 = some s) ∧ ∀ s, srslteCbsegm 6136 = some s → Segments 6136 s :=
  exists_segments (by decide) (by decide)

theorem srslteCbsegm_inv {s : Cbsegm} (hpos : 1 ≤ tbs) (h : srslteCbsegm tbs = some s)
    : ∃ idx K1 K2, srslteCbsegmCbsize idx = some K1 ∧
        s = ofSizes tbs (nofCodeBlocks ((tbs + 24) % 2 ^ 32)) (withCodeBlockCrcs ((tbs + 24) % 2 ^ 32)) K1 idx K2 := by
  unfold srslteCbsegm at h
  rw [if_neg (Nat.ne_of_gt hpos)] at h
  dsimp only at h
  split at h
  next idx _ =>
    split at h
    next K1 hK1 =>
      split at h
      next K2 _ =>
        cases h
        exact ⟨idx, K1, K2, hK1, rfl⟩
      next => cases h
    next => cases h
  next => cases h

theorem c_ofSizes (tbs C Bp K1 K1Idx K2 : Nat) : (ofSizes tbs C Bp K1 K1Idx K2).C = C := by
  unfold ofSizes
  split
  next => rfl
  next => rfl

theorem segments_of_eq {s : Cbsegm} (hpos : 1 ≤ tbs) (hlt : tbs < 2 ^ 32)
    (h : srslteCbsegm tbs = some s) (hF : s.F = 0) (hC : s.C ≤ 32)
    : Segments tbs s := by
  have ⟨idx, K1, K2, hK1, hs⟩ := srslteCbsegm_inv hpos h
  have hsC : s.C = nofCodeBlocks ((tbs + 24) % 2 ^ 32) := by rw [hs, c_ofSizes]
  have hdef : ∀ B, nofCodeBlocks B = if B ≤ 6144 then 1 else (B + 6119) / 6120 := fun _ => rfl
  have hfits : tbs + 24 < 2 ^ 32 := by
    apply Nat.lt_of_not_le
    intro hge
    have hB : (tbs + 24) % 2 ^ 32 = tbs + 24 - 2 ^ 32 := by omega
    have hone : nofCodeBlocks (tbs + 24 - 2 ^ 32) = 1 := by
      rw [hdef, if_pos (by omega)]
    have hBp : withCodeBlockCrcs (tbs + 24 - 2 ^ 32) = tbs + 24 - 2 ^ 32 := if_pos (by unfold tcodMaxLenCb; omega)
    have hK1' := (ge_of_mem_tcCbSizes K1 (mem_of_getElem? hK1)).1
    have hK1'' := le_of_mem_tcCbSizes K1 (mem_of_getElem? hK1)
    have hF' : s.F = u32Sub K1 (tbs + 24 - 2 ^ 32) := by
      rw [hs, hB, hone, hBp]
      rfl
    rw [hF', u32Sub_of_le (by omega) (by omega)] at hF
    omega
  rw [Nat.mod_eq_of_lt hfits] at hsC
  have hbound : tbs + 24 + 24 * nofCodeBlocks (tbs + 24) < 2 ^ 32 := by
    rw [← hsC]
    rw [hdef] at hsC
    split at hsC
    next => omega
    next => omega
  have ⟨s', hs', hsegments⟩ := exists_segmentation hpos hbound
  rw [h] at hs'
  cases hs'
  exact hsegments

theorem exists_not_segments
    : (∃ s, srslteCbsegm 16 = some s ∧ ¬ Consecutive s.K2 s.K1) ∧
      (∃ s, srslteCbsegm (2 ^ 32 - 24) = some s ∧ s.C1 * s.K1 + s.C2 * s.K2 ≠ (2 ^ 32 - 24) + 24 + s.F) := by
  constructor
  . refine ⟨{ tbs := 16, C := 1, K1 := 40, C1 := 1 }, by decide +kernel, ?_⟩
    rintro ⟨i, hK2, _⟩
    have hmem := mem_of_getElem? hK2
    revert hmem
    decide +kernel
  . exact ⟨{ tbs := 2 ^ 32 - 24, C := 1, K1 := 40, C1 := 1, F := 40 }, by decide +kernel, by decide⟩

end SrsLte.Cbsegm
