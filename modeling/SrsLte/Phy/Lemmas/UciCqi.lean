import SrsLte.Data.Lists
import SrsLte.Phy.Impl.UciCqi
import Mathlib.Algebra.BigOperators.Ring.Finset
import Mathlib.Algebra.Order.BigOperators.Group.Finset
import Mathlib.Data.Fin.VecNotation
import Mathlib.Algebra.Field.ZMod

/-!
This module contains the decoding of short CQI reports: the maximum correlation is the one of the word sent.
-/

namespace SrsLte

open Finset

/-! ### The block code -/

def checkRows : Fin 11 → Finset Nat :=
  ![{31}, {0, 1, 10, 25}, {0, 2, 14, 30}, {7, 22}, {0, 1, 4, 8}, {0, 1, 4, 13}, {0, 1, 2, 3}, {0, 1, 4, 21},
    {0, 4, 8, 23}, {0, 2, 9, 23}, {0, 6, 13, 29}]

theorem sum_checkRows (n k : Fin 11) : ∑ i ∈ checkRows n, (mBasis i k : ZMod 2) = if k = n then 1 else 0 := by
  decide +revert +kernel

theorem checkRows_lt {n : Fin 11} {i : Nat} (h : i ∈ checkRows n) : i < 32 := by
  have hall : ∀ n, ∀ i ∈ checkRows n, i < 32 := by decide +kernel
  exact hall n i h

theorem cast_encodeCqiPuschBlock (data : List Bool) (nofBits i : Nat)
    : (encodeCqiPuschBlock data nofBits i : ZMod 2)
        =
      ∑ n ∈ range nofBits, ((data.getD n false).toNat : ZMod 2) * mBasis i n := by
  unfold encodeCqiPuschBlock
  induction nofBits with
  | zero => rfl
  | succ nofBits ih =>
    rw [List.range_succ, List.foldl_concat, ZMod.natCast_mod, Nat.cast_add, ih, sum_range_succ, Nat.cast_mul]

theorem encodeCqiPuschBlock_lt (data : List Bool) (nofBits i : Nat) : encodeCqiPuschBlock data nofBits i < 2 := by
  unfold encodeCqiPuschBlock
  cases nofBits with
  | zero => exact Nat.two_pos
  | succ nofBits =>
    rw [List.range_succ, List.foldl_concat]
    exact Nat.mod_lt _ (by decide)

-- the check rows add up to one data bit
theorem sum_encodeCqiPuschBlock (data : List Bool) {nofBits : Nat} (hle : nofBits ≤ 11) {n : Fin 11} (hn : n < nofBits)
    : ∑ i ∈ checkRows n, (encodeCqiPuschBlock data nofBits i : ZMod 2) = (data.getD n false).toNat := by
  simp only [cast_encodeCqiPuschBlock]
  rw [sum_comm]
  have hterm : ∀ k ∈ range nofBits, ∑ i ∈ checkRows n, ((data.getD k false).toNat : ZMod 2) * mBasis i k
      = if k = n then ((data.getD n false).toNat : ZMod 2) else 0 := by
    intro k hk
    have hrows := sum_checkRows n ⟨k, by have := mem_range.mp hk; omega⟩
    rw [← mul_sum, hrows]
    simp only [Fin.ext_iff]
    split
    next heq => rw [heq, mul_one]
    next => rw [mul_zero]
  rw [sum_congr rfl hterm, sum_ite_eq', if_pos (mem_range.mpr hn)]

theorem cqiTable_injective {nofBits w v : Nat} (hle : nofBits ≤ 11) (hw : w < 2 ^ nofBits) (hv : v < 2 ^ nofBits)
    (h : ∀ i < 32, cqiTable nofBits w i = cqiTable nofBits v i) : w = v := by
  have hbits : srslteBitUnpack w nofBits = srslteBitUnpack v nofBits := by
    apply List.ext_getElem
    . rw [length_srslteBitUnpack, length_srslteBitUnpack]
    . intro n hn _
      rw [length_srslteBitUnpack] at hn
      have hsum := fun u => sum_encodeCqiPuschBlock (srslteBitUnpack u nofBits) hle (n := ⟨n, by omega⟩) hn
      have hbool : ∀ a b : Bool, (a.toNat : ZMod 2) = b.toNat → a = b := by decide
      have hget := hbool _ _ ((hsum w).symm.trans
        ((sum_congr rfl (fun i hi => congrArg Nat.cast (h i (checkRows_lt hi)))).trans (hsum v)))
      rwa [List.getD_eq_getElem, List.getD_eq_getElem] at hget
  have hnat := congrArg Bits.toNat hbits
  unfold srslteBitUnpack at hnat
  rwa [Bits.toNat_ofNat, Bits.toNat_ofNat, Nat.mod_eq_of_lt hw, Nat.mod_eq_of_lt hv] at hnat

theorem cqiTableS_cases (nofBits w i : Nat)
    : cqiTable nofBits w i = 0 ∧ (cqiTableS nofBits w i).toInt = -1
        ∨ cqiTable nofBits w i = 1 ∧ (cqiTableS nofBits w i).toInt = 1 := by
  unfold cqiTableS
  have hlt : cqiTable nofBits w i < 2 := encodeCqiPuschBlock_lt _ _ _
  cases Nat.le_one_iff_eq_zero_or_eq_one.mp (Nat.le_of_lt_succ hlt) with
  | inl hzero =>
    rw [hzero]
    exact .inl ⟨rfl, rfl⟩
  | inr hone =>
    rw [hone]
    exact .inr ⟨rfl, rfl⟩

/-! ### Accumulated copies -/

theorem bmod_of_fits {x : Int} (hle : -2 ^ 15 ≤ x) (hlt : x < 2 ^ 15) : x.bmod (2 ^ 16) = x := by
  apply Int.bmod_eq_of_le
  all_goals omega

def positionSum (soft : Nat → Int16) (Q j : Nat) : Int :=
  ∑ p ∈ range Q with p % 32 = j, (soft p).toInt

theorem positionSum_add (soft : Nat → Int16) (m : Nat) {r j : Nat} (hr : r ≤ 32) (hj : j < 32)
    : positionSum soft (m * 32 + r) j
        =
      positionSum soft (m * 32) j + if j < r then (soft (m * 32 + j)).toInt else 0 := by
  unfold positionSum
  rw [sum_filter, sum_filter, sum_range_add]
  congr 1
  have hterm : ∀ x ∈ range r, (if (m * 32 + x) % 32 = j then (soft (m * 32 + x)).toInt else 0)
      = if x = j then (soft (m * 32 + j)).toInt else 0 := by
    intro x hx
    have := mem_range.mp hx
    have hmod : (m * 32 + x) % 32 = j ↔ x = j := by omega
    simp only [hmod]
    split
    next heq => rw [heq]
    next => rfl
  rw [sum_congr rfl hterm, sum_ite_eq']
  simp only [mem_range]

/-- The first `n` values are added up in the first copy. -/
structure Accumulated (soft : Nat → Int16) (n : Nat) (qBits : Nat → Int16) : Prop where
  sums : ∀ j < 32, (qBits j).toInt = (positionSum soft n j).bmod (2 ^ 16)
  rest : ∀ j ≥ 32, qBits j = soft j

theorem accumulated_first (soft : Nat → Int16) : Accumulated soft (1 * 32) soft := by
  constructor
  . intro j hj
    have hsum := positionSum_add soft 0 (Nat.le_refl 32) hj
    rw [Nat.zero_mul, Nat.zero_add, if_pos hj, Nat.zero_add] at hsum
    have hzero : positionSum soft 0 j = 0 := rfl
    rw [Nat.one_mul, hsum, hzero, Int.zero_add, bmod_of_fits (soft j).le_toInt (soft j).toInt_lt]
  . intro j _
    rfl

theorem Accumulated.addCopy {soft qBits : Nat → Int16} {m r : Nat} (h : Accumulated soft (m * 32) qBits) (hm : 1 ≤ m)
    (hr : r ≤ 32) : Accumulated soft (m * 32 + r) (addCopy qBits m r) := by
  constructor
  . intro j hj
    unfold SrsLte.addCopy
    rw [positionSum_add soft m hr hj]
    split
    next =>
      rw [Int16.toInt_add, h.sums j hj, h.rest _ (by omega), Int.add_bmod_bmod, Int.add_comm]
    next => rw [Int.add_zero, h.sums j hj]
  . intro j hj
    unfold SrsLte.addCopy
    rw [if_neg (by omega), h.rest j hj]

theorem accumulated_addCopies (soft : Nat → Int16) {Q : Nat} (hQ : 32 ≤ Q) : Accumulated soft Q (addCopies soft Q) := by
  have hloop : ∀ n, Accumulated soft ((n + 1) * 32)
      ((List.range' 1 n).foldl (fun qBits i => addCopy qBits i 32) soft) := by
    intro n
    induction n with
    | zero => exact accumulated_first soft
    | succ n ih =>
      rw [List.range'_concat, List.foldl_concat, Nat.one_mul, Nat.add_comm 1, Nat.succ_mul (n + 1)]
      exact ih.addCopy (Nat.le_add_left 1 n) (Nat.le_refl 32)
  unfold addCopies
  split
  next hgt =>
    have hblocks : Q / 32 - 1 + 1 = Q / 32 := by omega
    have hrest := hloop (Q / 32 - 1)
    rw [hblocks] at hrest
    have hlast := hrest.addCopy (r := Q % 32) (by omega) (by omega)
    rwa [Nat.div_add_mod'] at hlast
  next hgt =>
    have heq : Q = 1 * 32 := by omega
    rw [heq]
    exact accumulated_first soft

/-! ### Correlation -/

theorem toInt_lane (x y : Nat → Int16) (n : Nat)
    : ((List.range n).foldl (fun sum t => sum + x t * y t) 0).toInt
        =
      (∑ t ∈ range n, (x t).toInt * (y t).toInt).bmod (2 ^ 16) := by
  induction n with
  | zero => rfl
  | succ n ih =>
    rw [List.range_succ, List.foldl_concat, Int16.toInt_add, Int16.toInt_mul, ih, Int.bmod_add_bmod,
      Int.add_bmod_bmod, sum_range_succ]

theorem sum_range_mul (f : Nat → Int) (n m : Nat)
    : ∑ i ∈ range (n * m), f i = ∑ k ∈ range m, ∑ t ∈ range n, f (t * m + k) := by
  induction n with
  | zero => simp
  | succ n ih => simp only [Nat.succ_mul, sum_range_add _ (n * m), ih, sum_range_succ, sum_add_distrib]

theorem srslteVecDotProdSss_eq {simd len : Nat} {x y : Nat → Int16} (hx : ∀ i, |(x i).toInt| = 1)
    (hlanes : ∀ k < simd, ∑ t ∈ range (len / simd), |(y (t * simd + k)).toInt| < 2 ^ 15)
    : srslteVecDotProdSss simd x y len = ∑ i ∈ range len, (x i).toInt * (y i).toInt := by
  have hlane : ∀ k ∈ range simd, ((List.range (len / simd)).foldl
      (fun sum t => sum + x (t * simd + k) * y (t * simd + k)) 0).toInt
      = ∑ t ∈ range (len / simd), (x (t * simd + k)).toInt * (y (t * simd + k)).toInt := by
    intro k hk
    have habs := abs_sum_le_sum_abs
      (fun t => (x (t * simd + k)).toInt * (y (t * simd + k)).toInt) (range (len / simd))
    simp only [abs_mul, hx, one_mul] at habs
    have ⟨hge, hle⟩ := abs_lt.mp (Int.lt_of_le_of_lt habs (hlanes k (mem_range.mp hk)))
    rw [toInt_lane (fun t => x (t * simd + k)) (fun t => y (t * simd + k)), bmod_of_fits (Int.le_of_lt hge) hle]
  simp only [srslteVecDotProdSss]
  rw [sum_congr rfl hlane, ← sum_range_mul (fun i => (x i).toInt * (y i).toInt), ← sum_range_add, Nat.div_add_mod']

/-! ### Decoding -/

/-- Soft values for coded bits whose sums the decoder can hold. -/
structure Received (simd Q : Nat) (coded : List Nat) (soft : Nat → Int16) : Prop where
  signs : ∀ p < Q, if coded[p]? = some 1 then 0 ≤ (soft p).toInt else (soft p).toInt ≤ 0
  fits : ∀ j < 32, -2 ^ 15 ≤ positionSum soft Q j ∧ positionSum soft Q j < 2 ^ 15
  lanes : ∀ k < simd, ∑ t ∈ range (32 / simd), |positionSum soft Q (t * simd + k)| < 2 ^ 15
  nonzero : ∀ j < 32, ∃ p < Q, p % 32 = j ∧ (soft p).toInt ≠ 0

section

variable {simd nofBits w Q : Nat} {soft : Nat → Int16}
variable (h : Received simd Q ((List.range Q).map (fun i => cqiTable nofBits w (i % 32))) soft)
include h

theorem Received.mul_positionSum_pos {j : Nat} (hj : j < 32)
    : 0 < (cqiTableS nofBits w j).toInt * positionSum soft Q j := by
  unfold positionSum
  rw [mul_sum]
  have hterm : ∀ p ∈ (range Q).filter (· % 32 = j), 0 ≤ (cqiTableS nofBits w j).toInt * (soft p).toInt := by
    intro p hp
    have ⟨hmem, hmod⟩ := mem_filter.mp hp
    have hlt := mem_range.mp hmem
    have hsign := h.signs p hlt
    rw [List.getElem?_map, List.getElem?_range hlt, Option.map_some, hmod] at hsign
    cases cqiTableS_cases nofBits w j with
    | inl hzero =>
      rw [hzero.1, if_neg (by decide)] at hsign
      rw [hzero.2]
      omega
    | inr hone =>
      rw [hone.1, if_pos rfl] at hsign
      rw [hone.2]
      omega
  have ⟨p, hp, hmod, hne⟩ := h.nonzero j hj
  have hmem : p ∈ (range Q).filter (· % 32 = j) := mem_filter.mpr ⟨mem_range.mpr hp, hmod⟩
  apply sum_pos' hterm ⟨p, hmem, lt_of_le_of_ne (hterm p hmem) (Ne.symm (mul_ne_zero _ hne))⟩
  cases cqiTableS_cases nofBits w j
  all_goals omega

theorem Received.corr_eq (hQ : 32 ≤ Q) (v : Nat)
    : cqiCorr simd (addCopies soft Q) Q nofBits v
        =
      ∑ j ∈ range 32, (cqiTableS nofBits v j).toInt * positionSum soft Q j := by
  have hsum : ∀ j < 32, (addCopies soft Q j).toInt = positionSum soft Q j := by
    intro j hj
    rw [(accumulated_addCopies soft hQ).sums j hj, bmod_of_fits (h.fits j hj).1 (h.fits j hj).2]
  have hindex : ∀ k < simd, ∀ t ∈ range (32 / simd), t * simd + k < 32 := by
    intro k hk t ht
    calc
      t * simd + k < (t + 1) * simd := by rw [Nat.succ_mul]; omega
      _ ≤ 32 / simd * simd := Nat.mul_le_mul_right _ (mem_range.mp ht)
      _ ≤ 32 := Nat.div_mul_le_self 32 simd
  unfold cqiCorr
  rw [Nat.min_eq_left hQ, srslteVecDotProdSss_eq]
  . exact sum_congr rfl (fun j hj => by rw [hsum j (mem_range.mp hj)])
  . intro j
    cases cqiTableS_cases nofBits v j with
    | inl hzero =>
      rw [hzero.2]
      rfl
    | inr hone =>
      rw [hone.2]
      rfl
  . intro k hk
    rw [sum_congr rfl (fun t ht => by rw [hsum _ (hindex k hk t ht)])]
    exact h.lanes k hk

-- a word with another bit has a smaller term there, and no greater one elsewhere
theorem Received.corr_lt (hQ : 32 ≤ Q) (hle : nofBits ≤ 11) (hw : w < 2 ^ nofBits) {v : Nat} (hv : v < 2 ^ nofBits)
    (hne : v ≠ w)
    : cqiCorr simd (addCopies soft Q) Q nofBits v < cqiCorr simd (addCopies soft Q) Q nofBits w := by
  rw [h.corr_eq hQ, h.corr_eq hQ]
  have hterm : ∀ j < 32, cqiTable nofBits v j = cqiTable nofBits w j
        ∧ (cqiTableS nofBits v j).toInt * positionSum soft Q j
          = (cqiTableS nofBits w j).toInt * positionSum soft Q j
      ∨ (cqiTableS nofBits v j).toInt * positionSum soft Q j
        < (cqiTableS nofBits w j).toInt * positionSum soft Q j := by
    intro j hj
    have hpos := h.mul_positionSum_pos hj
    cases cqiTableS_cases nofBits v j
    all_goals
      cases cqiTableS_cases nofBits w j
      all_goals simp_all
  apply sum_lt_sum
  . intro j hj
    cases hterm j (mem_range.mp hj) with
    | inl heq => exact Int.le_of_eq heq.2
    | inr hlt => exact Int.le_of_lt hlt
  . by_contra hall
    apply hne
    apply cqiTable_injective hle hv hw
    intro j hj
    cases hterm j hj with
    | inl heq => exact heq.1
    | inr hlt => exact absurd ⟨j, mem_range.mpr hj, hlt⟩ hall

end

theorem decodeCqiShort_encodeCqiShort (simd : Nat) {nofBits Q : Nat} {data : List Bool} (hpos : 1 ≤ nofBits)
    (hle : nofBits ≤ 11) (hdata : data.length = nofBits) (hQ : 32 ≤ Q)
    : ∃ coded, encodeCqiShort data nofBits Q = some coded
        ∧ ∀ soft, Received simd Q coded soft → decodeCqiShort simd soft Q nofBits = some data := by
  have hbits : nofBits ≤ 11 ∧ 0 < nofBits := ⟨hle, hpos⟩
  have hw := Bits.toNat_lt data
  have hunpack := Bits.ofNat_toNat data 0
  rw [Nat.zero_mul, Nat.zero_add] at hunpack
  rw [hdata] at hw hunpack
  have hencode : encodeCqiShort data nofBits Q = some ((List.range Q).map
      (fun i => cqiTable nofBits (Bits.toNat data) (i % 32))) := by
    unfold encodeCqiShort srslteBitPack
    rw [if_pos hbits, if_pos (Nat.le_of_eq hdata.symm), List.take_of_length_le (Nat.le_of_eq hdata), Option.map_some]
  refine ⟨_, hencode, ?_⟩
  . intro soft h
    simp only [decodeCqiShort, if_pos hbits]
    have hpos : (-2 ^ 31 : Int) < cqiCorr simd (addCopies soft Q) Q nofBits (Bits.toNat data) := by
      rw [h.corr_eq hQ]
      have hnonneg := sum_nonneg (fun j hj => Int.le_of_lt (h.mul_positionSum_pos (mem_range.mp hj)))
      omega
    rw [Lists.foldl_max_eq hpos (fun _ => h.corr_lt hQ hle hw) hw]
    exact congrArg some hunpack

def fourBits (i : Nat) : Int16 :=
  if cqiTable 4 11 (i % 32) = 1 then 1 else -1

theorem decodeCqiShort_encodeCqiShort_fourBits
    : encodeCqiShort [true, false, true, true] 4 40 = some ((List.range 40).map fun i => cqiTable 4 11 (i % 32))
        ∧ decodeCqiShort 8 fourBits 40 4 = some [true, false, true, true] := by
  have ⟨coded, hcoded, hdecode⟩ := decodeCqiShort_encodeCqiShort 8 (by decide : 1 ≤ 4) (by decide)
    (rfl : [true, false, true, true].length = 4) (by decide : 32 ≤ 40)
  have heq : encodeCqiShort [true, false, true, true] 4 40
      = some ((List.range 40).map fun i => cqiTable 4 11 (i % 32)) := by decide +kernel
  refine ⟨heq, hdecode _ ?_⟩
  rw [← Option.some.inj (heq.symm.trans hcoded)]
  constructor
  all_goals decide +kernel

end SrsLte
