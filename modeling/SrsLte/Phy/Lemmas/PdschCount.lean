import Mathlib.Algebra.BigOperators.Group.Finset.Sigma
import Mathlib.Algebra.BigOperators.Ring.Finset
import Mathlib.Algebra.Order.BigOperators.Group.Finset
import SrsLte.Phy.Lemmas.PdschElements

/-!
This module contains the proof of when the PDSCH has the number of resource elements that the codeword is sized with.
-/

namespace SrsLte.PdschMapping

open List

variable {m : PdschMapping}

/-! ### Counting the mapping -/

def symbolRes (m : PdschMapping) (t : PrbSymbol) : Nat :=
  if m.prbIdx t.s t.n then
    if m.isNormal t then
      if symbolHasRef t.l m.cell.cp m.cell.nofPorts then 12 - m.cell.nofRefs else 12
    else if m.isHalf t then
      if symbolHasRef t.l m.cell.cp m.cell.nofPorts then 6 - m.cell.nofRefs / 2 else 6
    else
      0
  else
    0

variable {offset s n : Nat} {x : Nat × Nat}

theorem length_dataRes {cell : Cell} (h : offset < nre / cell.nofRefs) (l : Nat)
    : (cell.dataRes l offset 12).length
          = (if symbolHasRef l cell.cp cell.nofPorts then 12 - cell.nofRefs else 12) ∧
        (cell.dataRes l offset 6).length
          = (if symbolHasRef l cell.cp cell.nofPorts then 6 - cell.nofRefs / 2 else 6) := by
  unfold Cell.dataRes
  cases symbolHasRef l cell.cp cell.nofPorts with
  | false => simp
  | true =>
    obtain h2 | h4 := cell.nofRefs_eq
    . rw [h2] at h ⊢
      revert offset
      decide
    . rw [h4] at h ⊢
      revert offset
      decide

theorem length_blockPositions (h : offset < nre / m.cell.nofRefs) (t : PrbSymbol)
    : (m.blockPositions offset t).length = m.symbolRes t := by
  unfold blockPositions symbolRes
  split
  . split
    . rw [length_map, (length_dataRes (m.cell.refOffset_lt t.l) t.l).1]
    . split
      . rw [length_map, (length_dataRes h t.l).2]
      . rfl
  . rfl

theorem length_carried (h : offset < nre / m.cell.nofRefs) (ts : List PrbSymbol)
    : ((m.carried ts offset).flatMap fun t => m.blockPositions t.2 t.1).length = (ts.map m.symbolRes).sum := by
  induction ts generalizing offset with
  | nil => rfl
  | cons t ts ih =>
    have hafter : m.offsetAfter offset t < nre / m.cell.nofRefs := by
      unfold offsetAfter
      split
      . exact m.cell.refOffset_lt t.l
      . exact h
    rw [carried, flatMap_cons, length_append, ih hafter, length_blockPositions h, map_cons, sum_cons]

def prbRes (m : PdschMapping) (s n : Nat) : Nat :=
  ∑ l ∈ Finset.range m.cell.cp.nsymb, m.symbolRes ⟨s, l, n⟩

theorem sum_map_range (f : Nat → Nat) (k : Nat) : ((List.range k).map f).sum = ∑ i ∈ Finset.range k, f i := rfl

theorem sum_slotSymbols (s : Nat)
    : ((m.slotSymbols s).map m.symbolRes).sum = ∑ n ∈ Finset.range m.cell.nofPrb, m.prbRes s n := by
  unfold slotSymbols prbRes
  rw [Finset.sum_comm, map_flatMap, flatMap_def, sum_flatten]
  simp only [map_map, Function.comp_def]
  exact sum_map_range _ _

theorem length_positions
    : m.positions.length
        =
      ∑ n ∈ Finset.range m.cell.nofPrb, m.prbRes 0 n + ∑ n ∈ Finset.range m.cell.nofPrb, m.prbRes 1 n := by
  have hpos : 0 < nre / m.cell.nofRefs := Nat.lt_of_le_of_lt (Nat.zero_le _) (m.cell.refOffset_lt 0)
  unfold positions
  rw [length_carried hpos]
  unfold symbols
  rw [map_append, sum_append, sum_slotSymbols, sum_slotSymbols]

/-! ### Counting a resource block -/

structure PrbClass where
  isSf0 : Bool
  isSf5 : Bool
  central : Bool
  half : Bool

def prbClass (m : PdschMapping) (n : Nat) : PrbClass where
  isSf0 := m.nsubframe == 0
  isSf5 := m.nsubframe == 5
  central := m.cell.isCentral n
  half := m.cell.nofPrb % 2 == 1 && (n == m.cell.nofPrb / 2 - 3 || n == m.cell.nofPrb / 2 + 3)

namespace PrbClass

variable (c : PrbClass)

def Possible : Prop :=
  ¬ (c.isSf0 = true ∧ c.isSf5 = true) ∧ (c.half = true → c.central = true)

def symbolRes (cp : Cp) (nofPorts lstartGrant s l : Nat) : Nat :=
  let nofRefs := if nofPorts = 1 then 2 else 4
  let isPbch := s == 1 && c.isSf0 && c.central
  let isSss := s == 0 && (c.isSf0 || c.isSf5) && c.central
  let lstart := if isPbch then 4 else if s = 0 then lstartGrant else 0
  let lend := if isSss then cp.nsymb - 2 else cp.nsymb
  if lstart ≤ l ∧ l < lend then
    if symbolHasRef l cp nofPorts then 12 - nofRefs else 12
  else if c.half && ((isPbch && decide (l < lstart)) || (isSss && decide (l ≥ lend))) then
    if symbolHasRef l cp nofPorts then 6 - nofRefs / 2 else 6
  else
    0

def prbRes (cp : Cp) (nofPorts lstartGrant s : Nat) : Nat :=
  ((List.range cp.nsymb).map (c.symbolRes cp nofPorts lstartGrant s)).sum

def raRes (cp : Cp) (nofPorts nofCtrlSymbols slot : Nat) : Nat :=
  raReXPrb.count c.isSf0 ((c.isSf0 || c.isSf5) && c.central) c.half slot nofPorts nofCtrlSymbols cp

end PrbClass

theorem possible_prbClass (m : PdschMapping) (n : Nat) : (m.prbClass n).Possible := by
  unfold PrbClass.Possible prbClass Cell.isCentral
  simp only [beq_iff_eq, Bool.and_eq_true, Bool.or_eq_true, decide_eq_true_eq]
  omega

theorem raReXPrb_eq (m : PdschMapping) (nofCtrlSymbols s n : Nat)
    : raReXPrb m.nsubframe s n m.cell.nofPrb m.cell.nofPorts nofCtrlSymbols m.cell.cp
        =
      (m.prbClass n).raRes m.cell.cp m.cell.nofPorts nofCtrlSymbols s := by
  unfold raReXPrb PrbClass.raRes prbClass Cell.isCentral
  simp only [Bool.decide_and, Bool.decide_or]
  rfl

theorem symbolRes_eq (hprb : m.prbIdx s n = true) (l : Nat)
    : m.symbolRes ⟨s, l, n⟩ = (m.prbClass n).symbolRes m.cell.cp m.cell.nofPorts m.lstartGrant s l := by
  have hhalf : m.isHalf ⟨s, l, n⟩ = ((m.prbClass n).half &&
      ((m.cell.isPbch m.nsubframe s n && decide (l < m.cell.lstart m.lstartGrant m.nsubframe s n)) ||
        (m.cell.isSss m.nsubframe s n && decide (l ≥ m.cell.lend m.nsubframe s n)))) := by
    unfold isHalf prbClass
    exact Bool.and_right_comm ..
  have hnormal : m.isNormal ⟨s, l, n⟩ = true ↔ m.cell.lstart m.lstartGrant m.nsubframe s n ≤ l ∧
      l < m.cell.lend m.nsubframe s n := by
    unfold isNormal
    rw [Bool.and_eq_true, decide_eq_true_eq, decide_eq_true_eq]
  unfold symbolRes
  dsimp only
  rw [if_pos hprb, hhalf]
  simp only [hnormal]
  rfl

theorem prbRes_eq (hprb : m.prbIdx s n = true)
    : m.prbRes s n = (m.prbClass n).prbRes m.cell.cp m.cell.nofPorts m.lstartGrant s := by
  unfold prbRes PrbClass.prbRes
  rw [sum_map_range]
  exact Finset.sum_congr rfl fun l _ => symbolRes_eq hprb l

theorem prbRes_of_not (hprb : m.prbIdx s n = false) : m.prbRes s n = 0 := by
  unfold prbRes
  refine Finset.sum_eq_zero fun l _ => ?_
  unfold symbolRes
  rw [if_neg]
  dsimp only
  rw [hprb]
  exact Bool.false_ne_true

/-! ### Comparing a resource block -/

namespace PrbClass

def surplus (c : PrbClass) (cp : Cp) (nofPorts nofCtrlSymbols s : Nat) : Int :=
  u32ToInt (u32Sub (c.raRes cp nofPorts nofCtrlSymbols s) (c.prbRes cp nofPorts nofCtrlSymbols s))

/--
The references that `ra_re_x_prb` removes are the ones that are not copied. With four control symbols and the extended
cyclic prefix the second symbol with references is in the control region.
-/
def CountsRefs (c : PrbClass) (cp : Cp) (nofPorts nofCtrlSymbols s : Nat) : Prop :=
  if nofPorts = 1 ∨ nofPorts = 2 ∨ nofPorts = 4 then
    ¬ (cp = .ext ∧ nofCtrlSymbols = 4 ∧ s = 0)
  else
    cp = .ext ∧ (if s = 0 then nofCtrlSymbols = 4 else c.isSf0 = true ∧ c.central = true ∧ c.half = false)

instance (c : PrbClass) (cp : Cp) (nofPorts nofCtrlSymbols s : Nat)
    : Decidable (c.CountsRefs cp nofPorts nofCtrlSymbols s) := by
  unfold CountsRefs
  infer_instance

def SurplusSpec (c : PrbClass) (cp : Cp) (nofPorts nofCtrlSymbols s : Nat) : Prop :=
  (c.surplus cp nofPorts nofCtrlSymbols s = 0 ↔ c.CountsRefs cp nofPorts nofCtrlSymbols s) ∧
    -16 ≤ c.surplus cp nofPorts nofCtrlSymbols s ∧ c.surplus cp nofPorts nofCtrlSymbols s ≤ 16 ∧
    c.prbRes cp nofPorts nofCtrlSymbols s ≤ 84 ∧
    if nofPorts = 1 ∨ nofPorts = 2 ∨ nofPorts = 4 then
      c.surplus cp nofPorts nofCtrlSymbols s ≤ 0
    else
      (c.surplus cp nofPorts nofCtrlSymbols s = -1 ∧ s = 1 ∧ c.half = true) ∨
        c.surplus cp nofPorts nofCtrlSymbols s = 0 ∨ 4 ≤ c.surplus cp nofPorts nofCtrlSymbols s

instance (c : PrbClass) (cp : Cp) (nofPorts nofCtrlSymbols s : Nat)
    : Decidable (c.SurplusSpec cp nofPorts nofCtrlSymbols s) := by
  unfold SurplusSpec
  infer_instance

theorem surplusSpec_of_finite
    : ∀ isSf0 isSf5 central half : Bool, (isSf0 && isSf5) = false → (half && !central) = false →
      ∀ s < 2, ∀ nofPorts < 5, ∀ nofCtrlSymbols ∈ [1, 2, 3, 4], ∀ cp ∈ [Cp.norm, Cp.ext],
        PrbClass.SurplusSpec ⟨isSf0, isSf5, central, half⟩ cp nofPorts nofCtrlSymbols s := by
  decide +kernel

theorem surplusSpec {c : PrbClass} (hposs : c.Possible) (cp : Cp) {nofPorts nofCtrlSymbols s : Nat} (hs : s < 2)
    (hports : nofPorts ≤ 4) (hctrl : 1 ≤ nofCtrlSymbols ∧ nofCtrlSymbols ≤ 4)
    : c.SurplusSpec cp nofPorts nofCtrlSymbols s := by
  have ⟨isSf0, isSf5, central, half⟩ := c
  have hsf : (isSf0 && isSf5) = false := by
    rw [Bool.eq_false_iff, ne_eq, Bool.and_eq_true]
    exact hposs.1
  have hhalf : (half && !central) = false := by
    cases half with
    | false => rfl
    | true =>
      have hcentral : central = true := hposs.2 rfl
      rw [hcentral]
      rfl
  have hmem : nofCtrlSymbols ∈ [1, 2, 3, 4] := by
    simp only [mem_cons, not_mem_nil, or_false]
    omega
  have hcp : cp ∈ [Cp.norm, Cp.ext] := by
    cases cp <;> simp
  exact surplusSpec_of_finite isSf0 isSf5 central half hsf hhalf s hs nofPorts (by omega) nofCtrlSymbols hmem cp hcp

theorem raRes_emod (c : PrbClass) (cp : Cp) (nofPorts nofCtrlSymbols s : Nat)
    : (c.raRes cp nofPorts nofCtrlSymbols s : Int) % 2 ^ 32
        =
      (c.prbRes cp nofPorts nofCtrlSymbols s + c.surplus cp nofPorts nofCtrlSymbols s) % 2 ^ 32 := by
  unfold surplus u32ToInt u32Sub
  split <;> omega

end PrbClass

/-! ### Comparing the totals -/

def surplusAt (m : PdschMapping) (x : Nat × Nat) : Int :=
  if m.prbIdx x.1 x.2 then (m.prbClass x.2).surplus m.cell.cp m.cell.nofPorts m.lstartGrant x.1 else 0

def slotPrbs (m : PdschMapping) : Finset (Nat × Nat) :=
  Finset.range 2 ×ˢ Finset.range m.cell.nofPrb

theorem foldl_add_mod (p : Nat → Bool) (f : Nat → Nat) (a k : Nat) (h : a < 2 ^ 32)
    : (List.range k).foldl (fun acc n => if p n then (acc + f n) % 2 ^ 32 else acc) a
        =
      (a + ∑ n ∈ Finset.range k, if p n then f n else 0) % 2 ^ 32 := by
  induction k with
  | zero => exact (Nat.mod_eq_of_lt h).symm
  | succ k ih =>
    rw [range_succ, foldl_append, ih, Finset.sum_range_succ, ← Nat.add_assoc, foldl_cons,
      foldl_nil]
    split
    . rw [Nat.mod_add_mod]
    . rfl

theorem srslteRaDlGrantNofRe_eq
    : srslteRaDlGrantNofRe m.cell m.prbIdx m.lstartGrant m.nsubframe
        =
      (∑ x ∈ m.slotPrbs, if m.prbIdx x.1 x.2 then
        (m.prbClass x.2).raRes m.cell.cp m.cell.nofPorts m.lstartGrant x.1 else 0) % 2 ^ 32 := by
  unfold srslteRaDlGrantNofRe slotPrbs
  simp only [raReXPrb_eq]
  rw [show List.range 2 = [0, 1] from rfl, foldl_cons, foldl_cons, foldl_nil,
    foldl_add_mod _ _ 0 _ (by decide), foldl_add_mod _ _ (_ % 2 ^ 32) _ (Nat.mod_lt _ (by decide)),
    Finset.sum_product, Finset.sum_range_succ, Finset.sum_range_one, Nat.zero_add, Nat.mod_add_mod]

theorem length_positions_eq
    : m.positions.length
        =
      ∑ x ∈ m.slotPrbs, if m.prbIdx x.1 x.2 then
        (m.prbClass x.2).prbRes m.cell.cp m.cell.nofPorts m.lstartGrant x.1 else 0 := by
  have hprb (s n : Nat) : m.prbRes s n
      = if m.prbIdx s n then (m.prbClass n).prbRes m.cell.cp m.cell.nofPorts m.lstartGrant s else 0 := by
    cases h : m.prbIdx s n with
    | true => exact prbRes_eq h
    | false => exact prbRes_of_not h
  unfold slotPrbs
  rw [length_positions, Finset.sum_product, Finset.sum_range_succ, Finset.sum_range_one]
  simp only [hprb]

theorem raTotal_emod
    : (srslteRaDlGrantNofRe m.cell m.prbIdx m.lstartGrant m.nsubframe : Int)
        =
      (m.positions.length + ∑ x ∈ m.slotPrbs, m.surplusAt x) % 2 ^ 32 := by
  rw [srslteRaDlGrantNofRe_eq, length_positions_eq, Int.natCast_mod, Nat.cast_sum, Nat.cast_sum,
    ← Finset.sum_add_distrib, Nat.cast_pow, Nat.cast_ofNat, Finset.sum_int_mod, eq_comm, Finset.sum_int_mod]
  congr 1
  refine Finset.sum_congr rfl fun x _ => ?_
  unfold surplusAt
  cases m.prbIdx x.1 x.2 with
  | false => rfl
  | true => exact (PrbClass.raRes_emod ..).symm

theorem mem_slotPrbs : x ∈ m.slotPrbs ↔ x.1 < 2 ∧ x.2 < m.cell.nofPrb := by
  unfold slotPrbs
  rw [Finset.mem_product, Finset.mem_range, Finset.mem_range]

theorem surplusSpec_at (hports : m.cell.nofPorts ≤ 4) (hctrl : 1 ≤ m.lstartGrant ∧ m.lstartGrant ≤ 4)
    (hx : x ∈ m.slotPrbs)
    : (m.prbClass x.2).SurplusSpec m.cell.cp m.cell.nofPorts m.lstartGrant x.1 :=
  PrbClass.surplusSpec (m.possible_prbClass x.2) m.cell.cp (mem_slotPrbs.mp hx).1 hports hctrl

theorem sum_eq_zero_iff {ι : Type} {P : Finset ι} {f : ι → Int} {half : ι → Prop} [DecidablePred half]
    (h : (∀ x ∈ P, f x ≤ 0) ∨
      ((P.filter half).card ≤ 2 ∧ ∀ x ∈ P, (f x = -1 ∧ half x) ∨ f x = 0 ∨ 4 ≤ f x))
    : ∑ x ∈ P, f x = 0 ↔ ∀ x ∈ P, f x = 0 := by
  constructor
  . intro hsum
    have hnonpos : ∀ x ∈ P, f x ≤ 0 := by
      cases h with
      | inl h => exact h
      | inr h =>
        intro x hx
        by_contra hpos
        have hlow : ∀ y ∈ P, 0 ≤ f y + if half y then 1 else 0 := by
          intro y hy
          split
          . have := h.2 y hy
            omega
          . next hhalf =>
            obtain ⟨_, hh⟩ | hy := h.2 y hy
            . exact absurd hh hhalf
            . omega
        have hx4 : 4 ≤ f x + if half x then 1 else 0 := by
          have := h.2 x hx
          split <;> omega
        have hle := Finset.single_le_sum hlow hx
        have hcard : ∑ y ∈ P, (if half y then (1 : Int) else 0) = (P.filter half).card :=
          (Finset.natCast_card_filter half P).symm
        rw [Finset.sum_add_distrib, hsum, hcard] at hle
        omega
    exact (Finset.sum_eq_zero_iff_of_nonpos hnonpos).mp hsum
  . exact Finset.sum_eq_zero

theorem card_half_le : (m.slotPrbs.filter fun x => x.1 = 1 ∧ (m.prbClass x.2).half = true).card ≤ 2 := by
  have hsub : (m.slotPrbs.filter fun x => x.1 = 1 ∧ (m.prbClass x.2).half = true)
      ⊆ {(1, m.cell.nofPrb / 2 - 3), (1, m.cell.nofPrb / 2 + 3)} := by
    intro x hx
    have ⟨_, hs, hhalf⟩ := Finset.mem_filter.mp hx
    unfold prbClass at hhalf
    simp only [Bool.and_eq_true, Bool.or_eq_true, beq_iff_eq] at hhalf
    rw [Finset.mem_insert, Finset.mem_singleton, Prod.ext_iff, Prod.ext_iff]
    exact hhalf.2.imp (⟨hs, ·⟩) (⟨hs, ·⟩)
  exact Nat.le_trans (Finset.card_le_card hsub) Finset.card_le_two

theorem sum_surplusAt_eq_zero_iff (hports : m.cell.nofPorts ≤ 4) (hctrl : 1 ≤ m.lstartGrant ∧ m.lstartGrant ≤ 4)
    : ∑ x ∈ m.slotPrbs, m.surplusAt x = 0 ↔ ∀ x ∈ m.slotPrbs, m.surplusAt x = 0 := by
  apply @sum_eq_zero_iff _ _ _ fun x : Nat × Nat => x.1 = 1 ∧ (m.prbClass x.2).half = true
  by_cases h : m.cell.nofPorts = 1 ∨ m.cell.nofPorts = 2 ∨ m.cell.nofPorts = 4
  . left
    intro x hx
    have hspec := (surplusSpec_at hports hctrl hx).2.2.2.2
    rw [if_pos h] at hspec
    unfold surplusAt
    split
    . exact hspec
    . exact Int.le_refl 0
  . right
    refine ⟨card_half_le, fun x hx => ?_⟩
    have hspec := (surplusSpec_at hports hctrl hx).2.2.2.2
    rw [if_neg h] at hspec
    unfold surplusAt
    split
    . exact hspec
    . exact Or.inr (Or.inl rfl)

theorem card_slotPrbs : m.slotPrbs.card = 2 * m.cell.nofPrb := by
  unfold slotPrbs
  rw [Finset.card_product, Finset.card_range, Finset.card_range]

theorem abs_sum_surplusAt_le (hports : m.cell.nofPorts ≤ 4) (hctrl : 1 ≤ m.lstartGrant ∧ m.lstartGrant ≤ 4)
    : -(32 * (m.cell.nofPrb : Int)) ≤ ∑ x ∈ m.slotPrbs, m.surplusAt x ∧
        ∑ x ∈ m.slotPrbs, m.surplusAt x ≤ 32 * m.cell.nofPrb := by
  have hterm : ∀ x ∈ m.slotPrbs, -16 ≤ m.surplusAt x ∧ m.surplusAt x ≤ 16 := by
    intro x hx
    have ⟨_, hlow, hhigh, _⟩ := surplusSpec_at hports hctrl hx
    unfold surplusAt
    split
    . exact ⟨hlow, hhigh⟩
    . decide
  have hlow := Finset.card_nsmul_le_sum m.slotPrbs m.surplusAt (-16) fun x hx => (hterm x hx).1
  have hhigh := Finset.sum_le_card_nsmul m.slotPrbs m.surplusAt 16 fun x hx => (hterm x hx).2
  rw [card_slotPrbs, nsmul_eq_mul] at hlow hhigh
  push_cast at hlow hhigh
  refine ⟨le_trans ?_ hlow, le_trans hhigh ?_⟩
  . omega
  . omega

theorem length_positions_le (hports : m.cell.nofPorts ≤ 4) (hctrl : 1 ≤ m.lstartGrant ∧ m.lstartGrant ≤ 4)
    : m.positions.length ≤ 168 * m.cell.nofPrb := by
  have hterm : ∀ x ∈ m.slotPrbs, (if m.prbIdx x.1 x.2 then
      (m.prbClass x.2).prbRes m.cell.cp m.cell.nofPorts m.lstartGrant x.1 else 0) ≤ 84 := by
    intro x hx
    have ⟨_, _, _, hres, _⟩ := surplusSpec_at hports hctrl hx
    split
    . exact hres
    . exact Nat.zero_le _
  have hle := Finset.sum_le_card_nsmul m.slotPrbs _ 84 hterm
  rw [← length_positions_eq, card_slotPrbs, nsmul_eq_mul, Nat.cast_id] at hle
  omega

def PermittedCtrlSymbols (nofPrb nofCtrlSymbols : Nat) : Prop :=
  if nofPrb ≤ 10 then 2 ≤ nofCtrlSymbols ∧ nofCtrlSymbols ≤ 4 else 1 ≤ nofCtrlSymbols ∧ nofCtrlSymbols ≤ 3

instance (nofPrb nofCtrlSymbols : Nat) : Decidable (PermittedCtrlSymbols nofPrb nofCtrlSymbols) := by
  unfold PermittedCtrlSymbols
  infer_instance

theorem put_count (α : Type) (data grid : Nat → α)
    : (srsltePdschPut m.cell data grid m.prbIdx m.lstartGrant m.nsubframe).2 = m.positions.length :=
  (@mapped_srsltePdschCp m true).2

theorem pdsch_count_iff {m : PdschMapping} (hvalid : m.cell.isvalid = true)
    (hctrl : PermittedCtrlSymbols m.cell.nofPrb m.lstartGrant) {α : Type} (data grid : Nat → α)
    : (srsltePdschPut m.cell data grid m.prbIdx m.lstartGrant m.nsubframe).2
          = srslteRaDlGrantNofRe m.cell m.prbIdx m.lstartGrant m.nsubframe
        ↔
      ∀ s < 2, ∀ n < m.cell.nofPrb, m.prbIdx s n = true →
        (m.prbClass n).CountsRefs m.cell.cp m.cell.nofPorts m.lstartGrant s := by
  have hports := Cell.nofPorts_of_isvalid hvalid
  have hprb := Cell.nofPrb_of_isvalid hvalid
  have hctrl : 1 ≤ m.lstartGrant ∧ m.lstartGrant ≤ 4 := by
    unfold PermittedCtrlSymbols at hctrl
    split at hctrl <;> omega
  have htotal := @raTotal_emod m
  have hsum := abs_sum_surplusAt_le hports hctrl
  have hlen := length_positions_le hports hctrl
  have hagree : m.positions.length = srslteRaDlGrantNofRe m.cell m.prbIdx m.lstartGrant m.nsubframe ↔
      ∑ x ∈ m.slotPrbs, m.surplusAt x = 0 := by
    omega
  rw [put_count, hagree, sum_surplusAt_eq_zero_iff hports hctrl]
  constructor
  . intro h s hs n hn hidx
    have hx : (s, n) ∈ m.slotPrbs := mem_slotPrbs.mpr ⟨hs, hn⟩
    have hzero := h (s, n) hx
    unfold surplusAt at hzero
    rw [if_pos hidx] at hzero
    exact (surplusSpec_at hports hctrl hx).1.mp hzero
  . intro h x hx
    have ⟨hs, hn⟩ := mem_slotPrbs.mp hx
    unfold surplusAt
    split
    . next hidx => exact (surplusSpec_at hports hctrl hx).1.mpr (h x.1 hs x.2 hn hidx)
    . rfl

def cellExt (nofCtrlSymbols : Nat) : PdschMapping where
  cell := { nofPrb := 6, nofPorts := 1, id := 0, cp := .ext }
  prbIdx _ n := n == 0
  lstartGrant := nofCtrlSymbols
  nsubframe := 1

theorem pdsch_count_threeCtrlSymbols
    : (srsltePdschPut (cellExt 3).cell id id (cellExt 3).prbIdx 3 1).2
        = srslteRaDlGrantNofRe (cellExt 3).cell (cellExt 3).prbIdx 3 1 :=
  (@pdsch_count_iff (cellExt 3) (by decide) (by decide) Nat id id).mpr (by decide)

theorem not_pdsch_count_fourCtrlSymbols
    : (cellExt 4).cell.isvalid = true ∧ PermittedCtrlSymbols (cellExt 4).cell.nofPrb 4 ∧
        (srsltePdschPut (cellExt 4).cell id id (cellExt 4).prbIdx 4 1).2 = 92 ∧
        srslteRaDlGrantNofRe (cellExt 4).cell (cellExt 4).prbIdx 4 1 = 90 := by
  decide +kernel

end SrsLte.PdschMapping
