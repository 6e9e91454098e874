import Mathlib.Tactic.FinCases
import SrsLte.Mac.Lemmas.Basic

/-!
This module contains the verification of the buffer status report codec.
-/

namespace SrsLte

open List

def level (i : Nat) : Nat :=
  btable.getD i 0

theorem length_btable : btable.length = 64 := by
  rfl

theorem level_lt_succ : ∀ i < 63, level i < level (i + 1) := by
  decide

variable {i j : Nat}

theorem level_lt_level (hij : i < j) (hj : j < 64) : level i < level j := by
  induction j with
  | zero => omega
  | succ j ih =>
    have hstep := level_lt_succ j (by omega)
    cases Nat.lt_succ_iff_lt_or_eq.mp hij with
    | inl hlt =>
      have := ih hlt (by omega)
      omega
    | inr heq =>
      rw [heq]
      exact hstep

theorem level_le_level (hij : i ≤ j) (hj : j < 64) : level i ≤ level j := by
  cases Nat.lt_or_eq_of_le hij with
  | inl hlt => exact Nat.le_of_lt (level_lt_level hlt hj)
  | inr heq => rw [heq]

theorem level_inj (hi : i < 64) (hj : j < 64) : level i = level j ↔ i = j := by
  constructor
  . intro h
    cases Nat.lt_trichotomy i j with
    | inl hlt =>
      have := level_lt_level hlt hj
      omega
    | inr h' =>
      cases h' with
      | inl heq => exact heq
      | inr hgt =>
        have := level_lt_level hgt hi
        omega
  . intro h
    rw [h]

theorem mem_btable_iff (v : Nat) : v ∈ btable ↔ ∃ i < 64, v = level i := by
  rw [mem_iff_getElem]
  constructor
  . rintro ⟨i, hi, rfl⟩
    exact ⟨i, hi, (getD_eq_getElem _ _ hi).symm⟩
  . rintro ⟨i, hi, rfl⟩
    exact ⟨i, hi, (getD_eq_getElem _ _ hi).symm⟩

def IsLevel (size : Nat) : Prop :=
  size ∈ btable.tail.dropLast

instance (size : Nat) : Decidable (IsLevel size) :=
  inferInstanceAs (Decidable (size ∈ btable.tail.dropLast))

theorem isLevel_iff (size : Nat) : IsLevel size ↔ ∃ i, 1 ≤ i ∧ i ≤ 62 ∧ size = level i := by
  unfold IsLevel
  rw [mem_iff_getElem]
  constructor
  . rintro ⟨i, hi, rfl⟩
    have hi' : i < 62 := hi
    refine ⟨i + 1, by omega, by omega, ?_⟩
    rw [getElem_dropLast, getElem_tail]
    exact (getD_eq_getElem _ _ (by rw [length_btable]; omega)).symm
  . rintro ⟨i, hi, hi', rfl⟩
    refine ⟨i - 1, by simp [length_btable]; omega, ?_⟩
    rw [getElem_dropLast, getElem_tail]
    have hsucc : i - 1 + 1 = i := by omega
    simp only [hsucc]
    exact (getD_eq_getElem _ _ (by rw [length_btable]; omega)).symm

namespace SchSubh

theorem buffSizeTable_of_gt {size : Nat} (h : size > 150000) : buffSizeTable size = 63 := by
  have hne : size ≠ 0 := by omega
  simp only [buffSizeTable, hne, h, ↓reduceIte]

theorem buffSizeTable_spec {size : Nat} (hpos : 0 < size) (hle : size ≤ 150000)
    : 1 ≤ buffSizeTable size
        ∧
      buffSizeTable size ≤ 62
        ∧
      level (buffSizeTable size) ≤ size
        ∧
      (buffSizeTable size < 62 → size < level (buffSizeTable size + 1)) := by
  have hne : size ≠ 0 := by omega
  have hgt : ¬ size > 150000 := by omega
  simp only [buffSizeTable, hne, hgt, ↓reduceIte]
  split
  . next i hfind =>
    rw [find?_range_eq_some] at hfind
    have hlt : size < level (i + 2) := of_decide_eq_true hfind.1
    have hi : i < 61 := by simpa using hfind.2.1
    have hbelow := hfind.2.2
    refine ⟨by omega, by omega, ?_, ?_⟩
    . cases i with
      | zero => exact hpos
      | succ i =>
        have := hbelow i (by omega)
        simp only [Bool.not_eq_true', decide_eq_false_iff_not, Nat.not_lt] at this
        rw [Nat.add_comm 1]
        exact this
    . intro _
      rw [Nat.add_comm 1]
      exact hlt
  . next hfind =>
    rw [find?_range_eq_none] at hfind
    have := hfind 60 (by decide)
    simp only [Bool.not_eq_true', decide_eq_false_iff_not, Nat.not_lt] at this
    exact ⟨by decide, by decide, this, fun h => absurd h (by decide)⟩

variable (size : Nat) (buffSize : Fin 4 → Nat) {s : SchSubh} {payload : List UInt8}

theorem buffSizeTable_lt : buffSizeTable size < 64 := by
  by_cases hzero : size = 0
  . rw [hzero]
    decide
  . by_cases hgt : size > 150000
    . rw [buffSizeTable_of_gt hgt]
      decide
    . have := @buffSizeTable_spec size (by omega) (by omega)
      omega

structure Reported (size value : Nat) : Prop where
  zero : value = 0 ↔ size = 0
  mem : value ∈ btable
  le : min size 150000 ≤ value
  least : ∀ v ∈ btable, min size 150000 ≤ v → value ≤ v

def target (size : Nat) : Nat :=
  if size = 0 then
    0
  else if 150000 ≤ size then
    63
  else if IsLevel size then
    buffSizeTable size
  else
    buffSizeTable size + 1

def answer (index : Nat) : Nat :=
  if index = 0 then 0 else min (index + 1) 63

theorem bsrValue_eq (index : Nat) : bsrValue index = level (answer index) := by
  unfold bsrValue answer
  split
  . rfl
  . split
    . have hmin : min (index + 1) 63 = 1 + index := by omega
      rw [hmin]
      rfl
    . have hmin : min (index + 1) 63 = 63 := by omega
      rw [hmin]
      rfl

theorem answer_lt (index : Nat) : answer index < 64 := by
  unfold answer
  split <;> omega

theorem target_lt : target size < 64 := by
  unfold target
  by_cases hzero : size = 0
  . simp [hzero]
  . by_cases hmax : 150000 ≤ size
    . simp [hzero, hmax]
    . have := @buffSizeTable_spec size (by omega) (by omega)
      simp only [hzero, hmax, ↓reduceIte]
      split <;> omega

theorem target_eq_zero_iff : target size = 0 ↔ size = 0 := by
  by_cases hzero : size = 0
  . simp [target, hzero]
  . by_cases hmax : 150000 ≤ size
    . simp [target, hzero, hmax]
    . have hspec := @buffSizeTable_spec size (by omega) (by omega)
      have hne : buffSizeTable size ≠ 0 := by omega
      by_cases hlevel : IsLevel size <;> simp [target, hzero, hmax, hlevel, hne]

theorem level_buffSizeTable_of_isLevel {size : Nat} (h : IsLevel size)
    : level (buffSizeTable size) = size ∧ size < 150000 := by
  have ⟨i, hi, hi', hsize⟩ := (isLevel_iff size).mp h
  have hpos : 0 < size := by
    rw [hsize]
    exact Nat.lt_of_le_of_lt (Nat.zero_le _) (level_lt_level hi (by omega))
  have hmax : size < 150000 := by
    have hlast := level_lt_level (Nat.lt_of_le_of_lt hi' (by decide : 62 < 63)) (by decide)
    rw [hsize]
    exact hlast
  have hspec := buffSizeTable_spec hpos (Nat.le_of_lt hmax)
  refine ⟨?_, hmax⟩
  have hi64 : i < 64 := by omega
  have hk : i = buffSizeTable size := by
    cases Nat.lt_trichotomy i (buffSizeTable size) with
    | inl hlt =>
      have := level_lt_level hlt (by omega)
      omega
    | inr h' =>
      cases h' with
      | inl heq => exact heq
      | inr hgt =>
        have hle := level_le_level (Nat.succ_le_of_lt hgt) hi64
        have := hspec.2.2.2 (by omega)
        simp only [Nat.succ_eq_add_one] at hle
        omega
  rw [← hk, ← hsize]

theorem min_le_level_iff {i : Nat} (hi : i < 64)
    : min size 150000 ≤ level i ↔ target size ≤ i := by
  by_cases hzero : size = 0
  . simp [hzero, target]
  . by_cases hmax : 150000 ≤ size
    . have hmin : min size 150000 = level 63 := by
        rw [Nat.min_eq_right hmax]
        rfl
      have htarget : target size = 63 := by simp [target, hzero, hmax]
      rw [hmin, htarget]
      constructor
      . intro hle
        apply Nat.le_of_not_lt
        intro hlt
        have := level_lt_level hlt (by decide)
        omega
      . intro hle
        exact level_le_level hle hi
    . have hmin : min size 150000 = size := by omega
      have hspec := @buffSizeTable_spec size (by omega) (by omega)
      rw [hmin]
      by_cases hlevel : IsLevel size
      . have heq := (level_buffSizeTable_of_isLevel hlevel).1
        have htarget : target size = buffSizeTable size := by simp [target, hzero, hmax, hlevel]
        rw [htarget]
        constructor
        . intro hle
          apply Nat.le_of_not_lt
          intro hlt
          have := level_lt_level hlt (by omega)
          omega
        . intro hle
          have := level_le_level hle hi
          omega
      . have htarget : target size = buffSizeTable size + 1 := by
          simp [target, hzero, hmax, hlevel]
        have hne : size ≠ level (buffSizeTable size) := by
          intro heq
          exact hlevel ((isLevel_iff size).mpr ⟨_, hspec.1, hspec.2.1, heq⟩)
        have hlt : size < level (buffSizeTable size + 1) := by
          by_cases hk : buffSizeTable size < 62
          . exact hspec.2.2.2 hk
          . have hk' : buffSizeTable size = 62 := by omega
            rw [hk']
            exact Nat.lt_of_not_le hmax
        rw [htarget]
        constructor
        . intro hle
          apply Nat.le_of_not_lt
          intro hi'
          have := level_le_level (Nat.le_of_lt_succ hi') (by omega)
          omega
        . intro hle
          have := level_le_level hle hi
          omega

theorem reported_bsrValue_iff (index : Nat)
    : Reported size (bsrValue index) ↔ answer index = target size := by
  have ha := answer_lt index
  have ht := target_lt size
  rw [bsrValue_eq]
  constructor
  . intro h
    have hle := (min_le_level_iff size ha).mp h.le
    have hge := h.least (level (target size)) ((mem_btable_iff _).mpr ⟨_, ht, rfl⟩)
      ((min_le_level_iff size ht).mpr (Nat.le_refl _))
    apply Nat.le_antisymm
    . apply Nat.le_of_not_lt
      intro hlt
      have := level_lt_level hlt ha
      omega
    . exact hle
  . intro h
    rw [h]
    constructor
    . have hzero := level_inj ht (by decide : 0 < 64)
      rw [target_eq_zero_iff] at hzero
      exact hzero
    . exact (mem_btable_iff _).mpr ⟨_, ht, rfl⟩
    . exact (min_le_level_iff size ht).mpr (Nat.le_refl _)
    . intro v hv hle
      have ⟨i, hi, hvi⟩ := (mem_btable_iff v).mp hv
      rw [hvi] at hle ⊢
      exact level_le_level ((min_le_level_iff size hi).mp hle) hi

theorem bsrPayload_long
    : (bsrPayload buffSize longBsr).map UInt8.toNat
        =
      [
        4 * buffSizeTable (buffSize 0),
        16 * (buffSizeTable (buffSize 1) % 16) + buffSizeTable (buffSize 2) / 16,
        64 * (buffSizeTable (buffSize 2) % 4) + buffSizeTable (buffSize 3)
      ] := by
  have h0 := buffSizeTable_lt (buffSize 0)
  have h1 := buffSizeTable_lt (buffSize 1)
  have h2 := buffSizeTable_lt (buffSize 2)
  have h3 := buffSizeTable_lt (buffSize 3)
  simp only [bsrPayload, ↓reduceIte]
  generalize buffSizeTable (buffSize 0) = t0 at *
  generalize buffSizeTable (buffSize 1) = t1 at *
  generalize buffSizeTable (buffSize 2) = t2 at *
  generalize buffSizeTable (buffSize 3) = t3 at *
  have hlow : (t0 &&& 0x3f) <<< 2 ||| (t1 &&& 0xc0) >>> 6 = 4 * t0 := by
    rw [Bits.and_mask t0 6 (by decide), Bits.and_mask_shiftRight t1 2 6 (by decide),
      Bits.shiftLeft_or _ 2 (Nat.mod_lt _ (by decide))]
    omega
  have hmid : (t1 &&& 0xf) <<< 4 ||| (t2 &&& 0xf0) >>> 4 = 16 * (t1 % 16) + t2 / 16 := by
    rw [Bits.and_mask t1 4 (by decide), Bits.and_mask_shiftRight t2 4 4 (by decide),
      Bits.shiftLeft_or _ 4 (Nat.mod_lt _ (by decide))]
    omega
  have hhigh : (t2 &&& 0x3) <<< 6 ||| (t3 &&& 0x3f) = 64 * (t2 % 4) + t3 := by
    rw [Bits.and_mask t2 2 (by decide), Bits.and_mask t3 6 (by decide),
      Bits.shiftLeft_or _ 6 (Nat.mod_lt _ (by decide))]
    omega
  rw [hlow, hmid, hhigh]
  simp only [map_cons, map_nil, UInt8.toNat_ofNat']
  congr 1
  . omega
  . congr 1
    . omega
    . congr 1
      omega

theorem bsrPayload_short {format : Nat} (h : format ≠ longBsr)
    : (bsrPayload buffSize format).map UInt8.toNat
        =
      [64 * (nonzeroLcg buffSize).val + buffSizeTable (buffSize (nonzeroLcg buffSize))] := by
  have hlcg := (nonzeroLcg buffSize).isLt
  have ht := buffSizeTable_lt (buffSize (nonzeroLcg buffSize))
  simp only [bsrPayload, h, ↓reduceIte]
  generalize buffSizeTable (buffSize (nonzeroLcg buffSize)) = t at *
  generalize (nonzeroLcg buffSize).val = lcg at *
  have hbyte : (lcg &&& 0x3) <<< 6 ||| (t &&& 0x3f) = 64 * lcg + t := by
    rw [Bits.and_mask lcg 2 (by decide), Bits.and_mask t 6 (by decide),
      Bits.shiftLeft_or _ 6 (Nat.mod_lt _ (by decide))]
    omega
  rw [hbyte, map_cons, map_nil, UInt8.toNat_ofNat']
  congr 1
  omega

theorem length_bsrPayload (format : Nat)
    : (bsrPayload buffSize format).length = if format = longBsr then 3 else 1 := by
  unfold bsrPayload
  split <;> rfl

def IsBsrFormat (format : Nat) : Prop :=
  format = shortBsr ∨ format = truncBsr ∨ format = longBsr

instance (format : Nat) : Decidable (IsBsrFormat format) :=
  inferInstanceAs (Decidable (_ ∨ _))

def BsrRecovered (buffSize : Fin 4 → Nat) (format : Nat) (result : Fin 4 × (Fin 4 → Nat)) : Prop :=
  if format = longBsr then
    ∀ i, Reported (buffSize i) (result.2 i)
  else
    result.1 = nonzeroLcg buffSize
      ∧ Reported (buffSize (nonzeroLcg buffSize)) (result.2 (nonzeroLcg buffSize))

/--
The buffer sizes that survive. The search in `buff_size_table` misses a size that is a level by one,
and the bits of a LONG BSR that are lost have to be the ones that `get_bsr` fills in.
-/
def BsrExact (buffSize : Fin 4 → Nat) (format : Nat) : Prop :=
  let t i := buffSizeTable (buffSize i)
  if format = longBsr then
    ¬ IsLevel (buffSize 0)
      ∧ (buffSize 1 < level 16 ∧ ¬ IsLevel (buffSize 1))
      ∧ (if IsLevel (buffSize 2) then t 2 ≠ 1 ∧ t 2 % 16 = t 1 / 4 + 1 else t 2 % 16 = t 1 / 4)
      ∧ ¬ IsLevel (buffSize 3)
  else
    ¬ IsLevel (buffSize (nonzeroLcg buffSize))

theorem target_cases
    : (¬ IsLevel size ∧ (size = 0 ∧ buffSizeTable size = 0 ∧ target size = 0
          ∨ 150000 ≤ size ∧ 62 ≤ buffSizeTable size ∧ target size = 63
          ∨ 1 ≤ buffSizeTable size ∧ buffSizeTable size ≤ 62 ∧ target size = buffSizeTable size + 1))
        ∨
      (IsLevel size ∧ 1 ≤ buffSizeTable size ∧ buffSizeTable size ≤ 62
        ∧ target size = buffSizeTable size) := by
  by_cases hlevel : IsLevel size
  . right
    have hmax := (level_buffSizeTable_of_isLevel hlevel).2
    have hne : size ≠ 0 := by
      intro hzero
      rw [hzero] at hlevel
      exact absurd hlevel (by decide)
    have hspec := @buffSizeTable_spec size (by omega) (by omega)
    have htarget : target size = buffSizeTable size := by
      simp only [target, hne, Nat.not_le.mpr hmax, hlevel, ↓reduceIte]
    exact ⟨hlevel, hspec.1, hspec.2.1, htarget⟩
  . left
    refine ⟨hlevel, ?_⟩
    by_cases hzero : size = 0
    . left
      exact ⟨hzero, by rw [hzero]; rfl, by rw [hzero]; rfl⟩
    . right
      by_cases hmax : 150000 ≤ size
      . left
        have htarget : target size = 63 := by
          simp only [target, hzero, hmax, ↓reduceIte]
        refine ⟨hmax, ?_, htarget⟩
        by_cases hgt : size > 150000
        . rw [buffSizeTable_of_gt hgt]
          decide
        . have heq : size = 150000 := by omega
          rw [heq]
          decide
      . right
        have hspec := @buffSizeTable_spec size (by omega) (by omega)
        have htarget : target size = buffSizeTable size + 1 := by
          simp only [target, hzero, hmax, hlevel, ↓reduceIte]
        exact ⟨hspec.1, hspec.2.1, htarget⟩

theorem buffSizeTable_lt_iff : buffSizeTable size < 16 ↔ size < level 16 := by
  by_cases hzero : size = 0
  . rw [hzero]
    decide
  . by_cases hgt : size > 150000
    . have hlevel : level 16 < 150000 := by decide
      rw [buffSizeTable_of_gt hgt]
      omega
    . have hspec := @buffSizeTable_spec size (by omega) (by omega)
      constructor
      . intro hlt
        have hle := level_le_level (show buffSizeTable size + 1 ≤ 16 by omega) (by decide)
        have := hspec.2.2.2 (by omega)
        omega
      . intro hlt
        apply Nat.lt_of_not_le
        intro hle
        have := level_le_level hle (by omega)
        omega

theorem answer_buffSizeTable_iff
    : answer (buffSizeTable size) = target size ↔ ¬ IsLevel size := by
  have hlt := buffSizeTable_lt size
  cases target_cases size with
  | inl h =>
    have hright : answer (buffSizeTable size) = target size := by
      unfold answer
      split <;> omega
    simp only [hright, h.1, not_false_eq_true]
  | inr h =>
    have hwrong : answer (buffSizeTable size) ≠ target size := by
      unfold answer
      split <;> omega
    simp only [hwrong, h.1, not_true_eq_false]

theorem answer_second_iff
    : answer (buffSizeTable size % 16) = target size ↔ size < level 16 ∧ ¬ IsLevel size := by
  have hlt := buffSizeTable_lt size
  have hiff := buffSizeTable_lt_iff size
  by_cases hsmall : buffSizeTable size < 16
  . rw [Nat.mod_eq_of_lt hsmall, answer_buffSizeTable_iff]
    simp only [hiff.mp hsmall, true_and]
  . have hlarge : ¬ size < level 16 := fun h => hsmall (hiff.mpr h)
    have hcases := target_cases size
    have hwrong : answer (buffSizeTable size % 16) ≠ target size := by
      cases hcases with
      | inl h =>
        unfold answer
        split <;> omega
      | inr h =>
        unfold answer
        split <;> omega
    simp only [hwrong, hlarge, false_and]

theorem answer_third_iff {t : Nat} (ht : t < 16) (size : Nat)
    : answer (16 * (buffSizeTable size / 16) + t / 4) = target size
        ↔
      if IsLevel size then
        buffSizeTable size ≠ 1 ∧ buffSizeTable size % 16 = t / 4 + 1
      else
        buffSizeTable size % 16 = t / 4 := by
  have hlt := buffSizeTable_lt size
  cases target_cases size with
  | inl h =>
    have hlevel := h.1
    simp only [hlevel, ↓reduceIte]
    unfold answer
    split <;> omega
  | inr h =>
    have hlevel := h.1
    simp only [hlevel, ↓reduceIte]
    unfold answer
    split <;> omega

theorem getBsr_long (hs : s.ceType = longBsr) {p0 p1 p2 : Nat}
    (hpayload : payload.map UInt8.toNat = [p0, p1, p2]) (h0 : p0 < 256) (h1 : p1 < 256)
    (caller : Fin 4 → Nat)
    : (s.getBsr payload caller).2
        =
      fun
        | 0 => bsrValue (p0 / 4)
        | 1 => bsrValue (16 * (p0 % 4) + p1 / 16)
        | 2 => bsrValue (16 * (p1 % 16) + p1 / 64)
        | 3 => bsrValue (p2 % 64) := by
  obtain ⟨b0, b1, b2, rfl⟩ := length_eq_three.mp (by rw [← length_map, hpayload]; rfl)
  simp only [map_cons, map_nil, List.cons.injEq, and_true] at hpayload
  funext i
  simp only [getBsr, hs, ↓reduceIte, getD_cons_zero, getD_cons_succ, hpayload.1,
    hpayload.2.1, hpayload.2.2]
  fin_cases i
  . simp only
    rw [Bits.and_mask_shiftRight p0 6 2 (by decide)]
    congr 1
    omega
  . simp only
    rw [Bits.and_mask p0 2 (by decide), Bits.and_mask_shiftRight p1 4 4 (by decide),
      Bits.shiftLeft_or _ 4 (Nat.mod_lt _ (by decide))]
    congr 1
    omega
  . simp only
    rw [Bits.and_mask p1 4 (by decide), Bits.and_mask_shiftRight p1 2 6 (by decide),
      Bits.shiftLeft_or _ 4 (Nat.lt_of_lt_of_le (Nat.mod_lt _ (by decide)) (by decide))]
    congr 1
    omega
  . simp only
    rw [Bits.and_mask p2 6 (by decide)]
    rfl

theorem getBsr_short (hs : s.ceType ≠ longBsr) {lcg : Fin 4}
    {t : Nat} (ht : t < 64) (hpayload : payload.map UInt8.toNat = [64 * lcg.val + t])
    (caller : Fin 4 → Nat)
    : (s.getBsr payload caller).1 = lcg ∧ (s.getBsr payload caller).2 lcg = bsrValue t := by
  cases payload with
  | nil => simp at hpayload
  | cons b0 rest =>
    have hbyte : b0.toNat = 64 * lcg.val + t := by
      simp only [map_cons, List.cons.injEq] at hpayload
      exact hpayload.1
    have hfin : Fin.ofNat 4 (((64 * lcg.val + t) &&& 0xc0) >>> 6) = lcg := by
      rw [Bits.and_mask_shiftRight _ 2 6 (by decide)]
      apply Fin.ext
      simp only [Fin.val_ofNat]
      omega
    simp only [getBsr, hs, ↓reduceIte, getD_cons_zero, hbyte, hfin, true_and,
      Function.update_self]
    rw [Bits.and_mask _ 6 (by decide)]
    congr 1
    omega

theorem getBsr_bsrPayload_long (hs : s.ceType = longBsr) (buffSize caller : Fin 4 → Nat)
    : (s.getBsr (bsrPayload buffSize longBsr) caller).2
        =
      fun
        | 0 => bsrValue (buffSizeTable (buffSize 0))
        | 1 => bsrValue (buffSizeTable (buffSize 1) % 16)
        | 2 => bsrValue (16 * (buffSizeTable (buffSize 2) / 16) + buffSizeTable (buffSize 1) % 16 / 4)
        | 3 => bsrValue (buffSizeTable (buffSize 3)) := by
  have h0 := buffSizeTable_lt (buffSize 0)
  have h2 := buffSizeTable_lt (buffSize 2)
  have h3 := buffSizeTable_lt (buffSize 3)
  rw [getBsr_long hs (bsrPayload_long buffSize) (by omega) (by omega)]
  funext i
  match i with
  | 0 =>
    simp only
    congr 1
    omega
  | 1 =>
    simp only
    congr 1
    omega
  | 2 =>
    simp only
    congr 1
    omega
  | 3 =>
    simp only
    congr 1
    omega

theorem bsrRecovered_long_iff (hs : s.ceType = longBsr) (buffSize caller : Fin 4 → Nat)
    : BsrRecovered buffSize longBsr (s.getBsr (bsrPayload buffSize longBsr) caller)
        ↔
      BsrExact buffSize longBsr := by
  have hsecond := answer_second_iff (buffSize 1)
  simp only [BsrRecovered, BsrExact, ↓reduceIte, getBsr_bsrPayload_long hs]
  constructor
  . intro h
    have h0 := (reported_bsrValue_iff _ _).mp (h 0)
    have h1 := (reported_bsrValue_iff _ _).mp (h 1)
    have h2 := (reported_bsrValue_iff _ _).mp (h 2)
    have h3 := (reported_bsrValue_iff _ _).mp (h 3)
    have hsmall := (buffSizeTable_lt_iff (buffSize 1)).mpr (hsecond.mp h1).1
    rw [Nat.mod_eq_of_lt hsmall, answer_third_iff hsmall] at h2
    exact ⟨(answer_buffSizeTable_iff _).mp h0, hsecond.mp h1, h2, (answer_buffSizeTable_iff _).mp h3⟩
  . rintro ⟨h0, h1, h2, h3⟩ i
    have hsmall := (buffSizeTable_lt_iff (buffSize 1)).mpr h1.1
    match i with
    | 0 => exact (reported_bsrValue_iff _ _).mpr ((answer_buffSizeTable_iff _).mpr h0)
    | 1 => exact (reported_bsrValue_iff _ _).mpr (hsecond.mpr h1)
    | 2 =>
      apply (reported_bsrValue_iff _ _).mpr
      rw [Nat.mod_eq_of_lt hsmall, answer_third_iff hsmall]
      exact h2
    | 3 => exact (reported_bsrValue_iff _ _).mpr ((answer_buffSizeTable_iff _).mpr h3)

theorem bsrRecovered_short_iff (hs : s.ceType ≠ longBsr) (buffSize caller : Fin 4 → Nat)
    {format : Nat} (hformat : format ≠ longBsr)
    : BsrRecovered buffSize format (s.getBsr (bsrPayload buffSize format) caller)
        ↔
      BsrExact buffSize format := by
  have ht := buffSizeTable_lt (buffSize (nonzeroLcg buffSize))
  have hread := getBsr_short hs ht (bsrPayload_short buffSize hformat) caller
  simp only [BsrRecovered, BsrExact, hformat, ↓reduceIte]
  rw [hread.1, hread.2, reported_bsrValue_iff, answer_buffSizeTable_iff]
  simp only [true_and]

end SchSubh

namespace SchPdu

open SchSubh

def readBsr (p : SchPdu) (caller : Fin 4 → Nat) : Fin 4 × (Fin 4 → Nat) :=
  p.get.getBsr (p.get.writePayload true) caller

theorem bsrRecovered_iff {p : SchPdu} (hused : p.used ≠ []) (htype : p.get.type = .sch)
    (buffSize : Fin 4 → Nat) {format : Nat} (hformat : IsBsrFormat format)
    (hset : (p.setBsr buffSize format).2 = true) (caller : Fin 4 → Nat)
    : BsrRecovered buffSize format ((p.setBsr buffSize format).1.readBsr caller)
        ↔
      BsrExact buffSize format := by
  have hspace := (setCe_eq_true_iff p format _).mp hset
  have hsplit : p.used = p.used.dropLast ++ [p.used.getLast hused] := by
    rw [dropLast_append_getLast]
  have htype' : (p.used.getLast hused).type = .sch := by
    rw [← get_eq hsplit]
    exact htype
  have hget : (p.setBsr buffSize format).1.get
      = fillCe (p.used.getLast hused) format (bsrPayload buffSize format) := by
    rw [setBsr, setCe_of_space hsplit format hspace]
    exact get_eq rfl
  have hce : (fillCe (p.used.getLast hused) format (bsrPayload buffSize format)).ceType = format := by
    have hge : format ≥ phrReport := by
      unfold IsBsrFormat shortBsr truncBsr longBsr at hformat
      unfold phrReport
      omega
    simp only [ceType, fillCe, hge, htype', and_self, ↓reduceIte]
  have hwrite : (fillCe (p.used.getLast hused) format (bsrPayload buffSize format)).writePayload true
      = bsrPayload buffSize format := by
    apply writePayload_fillCe
    . rw [isSdu, hce]
      cases hformat with
      | inl h => rw [h]; rfl
      | inr h =>
        cases h with
        | inl h => rw [h]; rfl
        | inr h => rw [h]; rfl
    . have hsize := length_bsrPayload buffSize format
      simp only [sizeofCe, fillCe, htype', hsize, ↓reduceIte]
      cases hformat with
      | inl h => rw [h]; rfl
      | inr h =>
        cases h with
        | inl h => rw [h]; rfl
        | inr h => rw [h]; rfl
  unfold readBsr
  rw [hget, hwrite]
  by_cases hlong : format = longBsr
  . subst hlong
    exact bsrRecovered_long_iff hce buffSize caller
  . exact bsrRecovered_short_iff (by rw [hce]; exact hlong) buffSize caller hlong

def oneSubheader : SchPdu :=
  { used := [{}], spare := List.replicate 19 {}, pduLen := 10, remLen := 10, pduIsUl := true }

theorem bsrRecovered_short_11
    : BsrRecovered (fun _ => 11) shortBsr ((oneSubheader.setBsr (fun _ => 11) shortBsr).1.readBsr fun _ => 0) :=
  (bsrRecovered_iff (by decide) rfl (fun _ => 11) (by decide) rfl fun _ => 0).mpr (show ¬ IsLevel 11 by decide)

theorem not_bsrRecovered_level
    : ¬ BsrRecovered (fun _ => 10) shortBsr ((oneSubheader.setBsr (fun _ => 10) shortBsr).1.readBsr fun _ => 0)
        ∧
      ¬ BsrRecovered (fun i => if i = 1 then 100 else 0) longBsr
        ((oneSubheader.setBsr (fun i => if i = 1 then 100 else 0) longBsr).1.readBsr fun _ => 0) := by
  constructor
  . intro h
    exact absurd (h.2.least 10 (by decide) (by decide)) (by decide)
  . intro h
    exact absurd (h 1).le (by decide)

end SchPdu

end SrsLte
