import Mathlib.Tactic.IntervalCases
import SrsLte.Phy.Lemmas.Pdsch

/-!
This module contains the proof of when the PDSCH leaves the resource elements of the reference signals, the PBCH and the
synchronization signals alone.
-/

namespace SrsLte

open List

namespace Cell

variable {cell : Cell}
variable {s l n r : Nat}

theorem reIdx_eq_iff {a x : Nat} (hx : x < cell.nofPrb * nre) (hn : n < cell.nofPrb) (hr : r < 12)
    : reIdx cell.nofPrb a x = cell.rePtr s l n + r ↔ a = l + s * cell.cp.nsymb ∧ x = 12 * n + r := by
  have hlt : 12 * n + r < cell.nofPrb * nre := by
    unfold nre
    omega
  have hptr : cell.rePtr s l n + r = (l + s * cell.cp.nsymb) * (cell.nofPrb * nre) + (12 * n + r) := by
    unfold rePtr nre
    rw [Nat.add_mul _ n 12, Nat.mul_assoc]
    omega
  have hidx : reIdx cell.nofPrb a x = a * (cell.nofPrb * nre) + x := by
    unfold reIdx
    rw [Nat.mul_assoc]
  rw [hptr, hidx]
  constructor
  . intro h
    have hdiv := congrArg (· / (cell.nofPrb * nre)) h
    have hmod := congrArg (· % (cell.nofPrb * nre)) h
    simp only [Nat.add_comm _ x, Nat.add_comm _ (12 * n + r), Nat.add_mul_div_right _ _ (Nat.zero_lt_of_lt hx),
      Nat.div_eq_of_lt hx, Nat.div_eq_of_lt hlt, Nat.zero_add] at hdiv
    simp only [Nat.add_comm _ x, Nat.add_comm _ (12 * n + r), Nat.add_mul_mod_self_right, Nat.mod_eq_of_lt hx,
      Nat.mod_eq_of_lt hlt] at hmod
    exact ⟨hdiv, hmod⟩
  . rintro ⟨rfl, rfl⟩
    rfl

theorem mem_refsignals (hn : n < cell.nofPrb) (hr : r < 12)
    : cell.rePtr s l n + r ∈ cell.refsignals
        ↔
      ∃ portId < cell.nofPorts, ∃ i < srslteRefsignalCsNofSymbols portId,
        srslteRefsignalCsNsymbol i cell.cp portId = l + s * cell.cp.nsymb ∧
        (srslteRefsignalCsV portId i + cell.id % 6) % 6 = r % 6 := by
  unfold refsignals
  simp only [mem_flatMap, mem_map, mem_range]
  constructor
  . rintro ⟨portId, hport, i, hi, m, hm, heq⟩
    have hfidx : srslteRefsignalCsFidx cell i portId m < cell.nofPrb * nre := by
      unfold srslteRefsignalCsFidx nre
      omega
    have ⟨hsymbol, hsample⟩ := (reIdx_eq_iff hfidx hn hr).mp heq
    refine ⟨portId, hport, i, hi, hsymbol, ?_⟩
    unfold srslteRefsignalCsFidx at hsample
    omega
  . rintro ⟨portId, hport, i, hi, hsymbol, hsample⟩
    refine ⟨portId, hport, i, hi, 2 * n + r / 6, by omega, ?_⟩
    have hfidx : srslteRefsignalCsFidx cell i portId (2 * n + r / 6) = 12 * n + r := by
      unfold srslteRefsignalCsFidx
      omega
    exact (reIdx_eq_iff (by rw [hfidx]; unfold nre; omega) hn hr).mpr ⟨hsymbol, hfidx⟩

theorem exists_refsymbol_low {portId s l r id : Nat} {cp : Cp} (hport : portId < 2) (hs : s < 2) (hl : l < cp.nsymb)
    : (∃ i < srslteRefsignalCsNofSymbols portId, srslteRefsignalCsNsymbol i cp portId = l + s * cp.nsymb ∧
        (srslteRefsignalCsV portId i + id % 6) % 6 = r % 6)
        ↔
      (l = 0 ∧ (srslteRefsignalCsV portId 0 + id % 6) % 6 = r % 6) ∨
        (l = cp.nsymb - 3 ∧ (srslteRefsignalCsV portId 1 + id % 6) % 6 = r % 6) := by
  have hv (i : Nat) : srslteRefsignalCsV portId i = srslteRefsignalCsV portId (i % 2) := by
    unfold srslteRefsignalCsV
    have hcases : portId = 0 ∨ portId = 1 := by omega
    obtain rfl | rfl := hcases <;> simp
  have hnsymb : cp.nsymb = 7 ∨ cp.nsymb = 6 := by cases cp <;> simp [Cp.nsymb]
  unfold srslteRefsignalCsNofSymbols srslteRefsignalCsNsymbol
  simp only [hport, ↓reduceIte]
  constructor
  . rintro ⟨i, hi, hsymbol, hsample⟩
    rw [hv] at hsample
    interval_cases i
    all_goals simp only [Nat.reduceMod, Nat.reduceDiv, ↓reduceIte, Nat.reduceEqDiff] at hsymbol hsample
    . exact Or.inl ⟨by obtain h | h := hnsymb <;> rw [h] at hsymbol hl <;> omega, hsample⟩
    . exact Or.inr ⟨by obtain h | h := hnsymb <;> rw [h] at hsymbol hl ⊢ <;> omega, hsample⟩
    . exact Or.inl ⟨by obtain h | h := hnsymb <;> rw [h] at hsymbol hl <;> omega, hsample⟩
    . exact Or.inr ⟨by obtain h | h := hnsymb <;> rw [h] at hsymbol hl ⊢ <;> omega, hsample⟩
  . rintro (⟨rfl, hsample⟩ | ⟨rfl, hsample⟩)
    . refine ⟨2 * s, by omega, ?_, ?_⟩
      . rw [if_neg (by omega), show 2 * s / 2 = s by omega, Nat.zero_add]
      . rw [hv, show 2 * s % 2 = 0 by omega]
        exact hsample
    . refine ⟨2 * s + 1, by omega, ?_, ?_⟩
      . rw [if_pos (by omega), show (2 * s + 1) / 2 = s by omega, Nat.succ_mul]
        obtain h | h := hnsymb <;> rw [h] <;> omega
      . rw [hv, show (2 * s + 1) % 2 = 1 by omega]
        exact hsample

theorem exists_refsymbol_high {portId s l r id : Nat} {cp : Cp} (hport : ¬ portId < 2) (hs : s < 2) (hl : l < cp.nsymb)
    : (∃ i < srslteRefsignalCsNofSymbols portId, srslteRefsignalCsNsymbol i cp portId = l + s * cp.nsymb ∧
        (srslteRefsignalCsV portId i + id % 6) % 6 = r % 6)
        ↔
      l = 1 ∧ (srslteRefsignalCsV portId s + id % 6) % 6 = r % 6 := by
  have hnsymb : cp.nsymb = 7 ∨ cp.nsymb = 6 := by cases cp <;> simp [Cp.nsymb]
  unfold srslteRefsignalCsNofSymbols srslteRefsignalCsNsymbol
  simp only [hport, ↓reduceIte]
  constructor
  . rintro ⟨i, hi, hsymbol, hsample⟩
    have hi' : i = s := by
      obtain h | h := hnsymb <;> rw [h] at hsymbol hl <;> omega
    subst hi'
    exact ⟨by omega, hsample⟩
  . rintro ⟨rfl, hsample⟩
    exact ⟨s, hs, rfl, hsample⟩

theorem mem_refsignals_iff (hports : cell.nofPorts = 1 ∨ cell.nofPorts = 2 ∨ cell.nofPorts = 4)
    (hs : s < 2) (hl : l < cell.cp.nsymb) (hn : n < cell.nofPrb) (hr : r < 12)
    : cell.rePtr s l n + r ∈ cell.refsignals
        ↔
      symbolHasRef l cell.cp cell.nofPorts = true ∧ r % (nre / cell.nofRefs) = cell.refOffset l := by
  have hnsymb : cell.cp.nsymb = 7 ∨ cell.cp.nsymb = 6 := by cases cell.cp <;> simp [Cp.nsymb]
  have hs' : s = 0 ∨ s = 1 := by omega
  have hlow (portId : Nat) (hport : portId < 2) := @exists_refsymbol_low portId s l r cell.id cell.cp hport hs hl
  have hhigh (portId : Nat) (hport : ¬ portId < 2) := @exists_refsymbol_high portId s l r cell.id cell.cp hport hs hl
  rw [mem_refsignals hn hr]
  unfold refOffset nofRefs symbolHasRef nre
  simp only [Bool.or_eq_true, Bool.and_eq_true, beq_iff_eq]
  obtain h | h | h := hports
  . rw [h]
    simp only [Nat.exists_lt_succ_right, Nat.not_lt_zero, false_and, exists_false, false_or, hlow 0 (by decide)]
    simp only [srslteRefsignalCsV, Nat.reduceMod, ↓reduceIte, Nat.reduceEqDiff, Nat.reduceDiv, and_false, false_or,
      one_ne_zero]
    obtain h7 | h6 := hnsymb
    . rw [h7]
      split <;> omega
    . rw [h6]
      split <;> omega
  . rw [h]
    simp only [Nat.exists_lt_succ_right, Nat.not_lt_zero, false_and, exists_false, false_or, hlow 0 (by decide),
      hlow 1 (by decide)]
    simp only [srslteRefsignalCsV, Nat.reduceMod, ↓reduceIte, Nat.reduceEqDiff, Nat.reduceDiv, and_false, false_or,
      one_ne_zero]
    omega
  . rw [h]
    simp only [Nat.exists_lt_succ_right, Nat.not_lt_zero, false_and, exists_false, false_or, hlow 0 (by decide),
      hlow 1 (by decide), hhigh 2 (by decide), hhigh 3 (by decide)]
    simp only [srslteRefsignalCsV, Nat.reduceMod, ↓reduceIte, Nat.reduceEqDiff, Nat.reduceDiv, and_true, one_ne_zero]
    obtain rfl | rfl := hs'
    . simp only [↓reduceIte]
      omega
    . simp only [one_ne_zero, ↓reduceIte]
      omega

end Cell

namespace PdschMapping

variable {m : PdschMapping}

/-! ### Elements of a symbol -/

def IsCentralRe (m : PdschMapping) (k : Nat) : Prop :=
  6 * m.cell.nofPrb ≤ k + 36 ∧ k < 6 * m.cell.nofPrb + 36

def IsPbchElement (m : PdschMapping) (p : Nat) : Prop :=
  m.nsubframe = 0 ∧ ∃ l < 4, ∃ k, m.IsCentralRe k ∧ k < m.cell.nofPrb * nre ∧
    p = reIdx m.cell.nofPrb (m.cell.cp.nsymb + l) k

def IsSyncElement (m : PdschMapping) (p : Nat) : Prop :=
  (m.nsubframe = 0 ∨ m.nsubframe = 5) ∧ ∃ l, (l = m.cell.cp.nsymb - 1 ∨ l = m.cell.cp.nsymb - 2) ∧
    ∃ k, m.IsCentralRe k ∧ k < m.cell.nofPrb * nre ∧ p = reIdx m.cell.nofPrb l k

structure InGrid (m : PdschMapping) (t : PrbSymbol) : Prop where
  s : t.s < 2
  l : t.l < m.cell.cp.nsymb
  n : t.n < m.cell.nofPrb

variable {offset l s p k : Nat} {t : PrbSymbol}

theorem inGrid_of_mem_carried {t : PrbSymbol × Nat} (h : t ∈ m.carried m.symbols offset)
    : m.InGrid t.1 := by
  have hmem : t.1 ∈ m.symbols := by
    rw [← @map_fst_carried m m.symbols offset]
    exact mem_map_of_mem h
  unfold symbols slotSymbols at hmem
  simp only [mem_append, mem_flatMap, mem_map, mem_range] at hmem
  obtain ⟨l, hl, n, hn, heq⟩ | ⟨l, hl, n, hn, heq⟩ := hmem
  . rw [← heq]
    exact ⟨Nat.zero_lt_two, hl, hn⟩
  . rw [← heq]
    exact ⟨Nat.one_lt_two, hl, hn⟩

theorem nsymb_eq (cp : Cp) : cp.nsymb = 7 ∨ cp.nsymb = 6 := by
  cases cp
  . exact Or.inl rfl
  . exact Or.inr rfl

theorem isHalf_iff
    : m.isHalf t = true
        ↔
      m.cell.nofPrb % 2 = 1 ∧ (t.n = m.cell.nofPrb / 2 - 3 ∨ t.n = m.cell.nofPrb / 2 + 3) ∧
        ((t.s = 1 ∧ m.nsubframe = 0 ∧ t.l < 4) ∨
          (t.s = 0 ∧ (m.nsubframe = 0 ∨ m.nsubframe = 5) ∧ t.l ≥ m.cell.cp.nsymb - 2)) := by
  have hcentral (h : t.n = m.cell.nofPrb / 2 - 3 ∨ t.n = m.cell.nofPrb / 2 + 3) (hodd : m.cell.nofPrb % 2 = 1)
      : m.cell.isCentral t.n = true := by
    simp only [Cell.isCentral, Bool.and_eq_true, decide_eq_true_eq]
    omega
  unfold isHalf Cell.lstart Cell.lend Cell.isPbch Cell.isSss
  simp only [Bool.and_eq_true, Bool.or_eq_true, beq_iff_eq, decide_eq_true_eq]
  constructor
  . rintro ⟨⟨hodd, hsignal⟩, hn⟩
    refine ⟨hodd, hn, ?_⟩
    obtain ⟨hpbch, hl⟩ | ⟨hsss, hl⟩ := hsignal
    . rw [if_pos hpbch] at hl
      exact Or.inl ⟨hpbch.1.1, hpbch.1.2, hl⟩
    . rw [if_pos hsss] at hl
      exact Or.inr ⟨hsss.1.1, hsss.1.2, hl⟩
  . rintro ⟨hodd, hn, ⟨hs, hsf, hl⟩ | ⟨hs, hsf, hl⟩⟩
    . refine ⟨⟨hodd, Or.inl ⟨⟨⟨hs, hsf⟩, hcentral hn hodd⟩, ?_⟩⟩, hn⟩
      rw [if_pos ⟨⟨hs, hsf⟩, hcentral hn hodd⟩]
      exact hl
    . refine ⟨⟨hodd, Or.inr ⟨⟨⟨hs, hsf⟩, hcentral hn hodd⟩, ?_⟩⟩, hn⟩
      rw [if_pos ⟨⟨hs, hsf⟩, hcentral hn hodd⟩]
      exact hl

theorem isNormal_iff
    : m.isNormal t = true
        ↔
      (if t.s = 1 ∧ m.nsubframe = 0 ∧ m.cell.isCentral t.n = true then
        4
      else if t.s = 0 then m.lstartGrant else 0) ≤ t.l ∧
      t.l < (if t.s = 0 ∧ (m.nsubframe = 0 ∨ m.nsubframe = 5) ∧ m.cell.isCentral t.n = true then
        m.cell.cp.nsymb - 2
      else
        m.cell.cp.nsymb) := by
  unfold isNormal Cell.lstart Cell.lend Cell.isPbch Cell.isSss
  simp only [Bool.and_eq_true, Bool.or_eq_true, beq_iff_eq, decide_eq_true_eq, and_assoc, ge_iff_le]

theorem isHalf_eq_false_of_isNormal (h : m.isNormal t = true) : m.isHalf t = false := by
  rw [Bool.eq_false_iff]
  intro hhalf
  unfold isNormal at h
  unfold isHalf at hhalf
  simp only [Bool.and_eq_true, Bool.or_eq_true, decide_eq_true_eq] at h hhalf
  omega

inductive Copied (m : PdschMapping) (offset : Nat) (t : PrbSymbol) (r : Nat) : Prop
  | normal (hprb : m.prbIdx t.s t.n = true) (hnormal : m.isNormal t = true)
      (href : symbolHasRef t.l m.cell.cp m.cell.nofPorts = true → r % (nre / m.cell.nofRefs) ≠ m.cell.refOffset t.l)
  | half (hprb : m.prbIdx t.s t.n = true) (hhalf : m.isHalf t = true)
      (hside : if t.n = m.cell.nofPrb / 2 - 3 then r < 6 else 6 ≤ r)
      (href : symbolHasRef t.l m.cell.cp m.cell.nofPorts = true → r % (nre / m.cell.nofRefs) ≠ offset)

theorem six_mod (cell : Cell) (r : Nat) : (6 + r) % (nre / cell.nofRefs) = r % (nre / cell.nofRefs) := by
  obtain h | h := cell.nofRefs_eq
  . rw [h]
    unfold nre
    omega
  . rw [h]
    unfold nre
    omega

theorem mem_blockPositions_iff
    : p ∈ m.blockPositions offset t ↔ ∃ r < 12, p = m.cell.rePtr t.s t.l t.n + r ∧ m.Copied offset t r := by
  have hres {l offset width r : Nat} : r ∈ m.cell.dataRes l offset width
      ↔ r < width ∧ (symbolHasRef l m.cell.cp m.cell.nofPorts = true → r % (nre / m.cell.nofRefs) ≠ offset) := by
    unfold Cell.dataRes
    simp only [mem_filter, mem_range, Bool.not_eq_true', Bool.and_eq_false_iff, beq_eq_false_iff_ne]
    cases symbolHasRef l m.cell.cp m.cell.nofPorts <;> simp
  constructor
  . intro h
    unfold blockPositions at h
    split at h
    . next hprb =>
      split at h
      . next hnormal =>
        obtain ⟨r, hr, rfl⟩ := mem_map.mp h
        rw [hres] at hr
        exact ⟨r, hr.1, rfl, .normal hprb hnormal hr.2⟩
      . split at h
        . next hhalf =>
          obtain ⟨r, hr, rfl⟩ := mem_map.mp h
          rw [hres] at hr
          split
          . next hlo => exact ⟨r, by omega, rfl, .half hprb hhalf (by rw [if_pos hlo]; exact hr.1) hr.2⟩
          . next hlo =>
            refine ⟨6 + r, by omega, by omega, .half hprb hhalf (by rw [if_neg hlo]; omega) fun href => ?_⟩
            rw [six_mod]
            exact hr.2 href
        . cases h
    . cases h
  . rintro ⟨r, hr, rfl, hcopied⟩
    unfold blockPositions
    cases hcopied with
    | normal hprb hnormal href =>
      rw [if_pos hprb, if_pos hnormal]
      exact mem_map_of_mem (hres.mpr ⟨hr, href⟩)
    | half hprb hhalf hside href =>
      have hnormal : ¬ m.isNormal t = true := fun h => by
        rw [isHalf_eq_false_of_isNormal h] at hhalf
        cases hhalf
      rw [if_pos hprb, if_neg hnormal, if_pos hhalf]
      split at hside
      . next hlo =>
        rw [if_pos hlo]
        exact mem_map_of_mem (hres.mpr ⟨hside, href⟩)
      . next hlo =>
        rw [if_neg hlo]
        refine mem_map.mpr ⟨r - 6, hres.mpr ⟨by omega, fun h => ?_⟩, by omega⟩
        rw [← six_mod, show 6 + (r - 6) = r by omega]
        exact href h

theorem Copied.not_isCentralRe {r : Nat} (h : m.Copied offset t r) (hr : r < 12) (hprb : 6 ≤ m.cell.nofPrb)
    (hsignal : (t.s = 1 ∧ m.nsubframe = 0 ∧ t.l < 4) ∨
      (t.s = 0 ∧ (m.nsubframe = 0 ∨ m.nsubframe = 5) ∧ t.l ≥ m.cell.cp.nsymb - 2))
    : ¬ m.IsCentralRe (12 * t.n + r) := by
  unfold IsCentralRe
  cases h with
  | normal _ hnormal _ =>
    have hcentral : m.cell.isCentral t.n = false := by
      rw [Bool.eq_false_iff]
      intro hcentral
      rw [isNormal_iff] at hnormal
      obtain ⟨hs, hsf, hl⟩ | ⟨hs, hsf, hl⟩ := hsignal
      . rw [if_pos ⟨hs, hsf, hcentral⟩] at hnormal
        omega
      . rw [if_pos (show t.s = 0 ∧ _ ∧ _ from ⟨hs, hsf, hcentral⟩)] at hnormal
        omega
    simp only [Cell.isCentral, Bool.and_eq_false_iff, decide_eq_false_iff_not] at hcentral
    omega
  | half _ hhalf hside _ =>
    have ⟨hodd, hn, _⟩ := isHalf_iff.mp hhalf
    split at hside
    . omega
    . omega

theorem not_isPbchElement_of_mem (hgrid : m.InGrid t) (hprb : 6 ≤ m.cell.nofPrb) (h : p ∈ m.blockPositions offset t)
    : ¬ m.IsPbchElement p := by
  rintro ⟨hsf, l, hl, k, hcentral, hk, heq⟩
  obtain ⟨r, hr, rfl, hcopied⟩ := mem_blockPositions_iff.mp h
  obtain ⟨hsymbol, rfl⟩ := (Cell.reIdx_eq_iff hk hgrid.n hr).mp heq.symm
  have hs := hgrid.s
  have htl := hgrid.l
  refine hcopied.not_isCentralRe hr hprb (Or.inl ?_) hcentral
  have hs' : t.s = 0 ∨ t.s = 1 := by omega
  obtain h0 | h1 := hs'
  . rw [h0] at hsymbol
    omega
  . rw [h1] at hsymbol
    exact ⟨h1, hsf, by omega⟩

theorem not_isSyncElement_of_mem (hgrid : m.InGrid t) (hprb : 6 ≤ m.cell.nofPrb) (h : p ∈ m.blockPositions offset t)
    : ¬ m.IsSyncElement p := by
  rintro ⟨hsf, l, hl, k, hcentral, hk, heq⟩
  obtain ⟨r, hr, rfl, hcopied⟩ := mem_blockPositions_iff.mp h
  obtain ⟨hsymbol, rfl⟩ := (Cell.reIdx_eq_iff hk hgrid.n hr).mp heq.symm
  have hs := hgrid.s
  have hnsymb := nsymb_eq m.cell.cp
  refine hcopied.not_isCentralRe hr hprb (Or.inr ?_) hcentral
  have hs' : t.s = 0 ∨ t.s = 1 := by omega
  obtain h0 | h1 := hs'
  . rw [h0] at hsymbol
    exact ⟨h0, hsf, by omega⟩
  . rw [h1] at hsymbol
    omega

def HalfRef (m : PdschMapping) (t : PrbSymbol) : Prop :=
  m.prbIdx t.s t.n = true ∧ m.isHalf t = true ∧ symbolHasRef t.l m.cell.cp m.cell.nofPorts = true

theorem not_mem_refsignals_iff (hports : m.cell.nofPorts = 1 ∨ m.cell.nofPorts = 2 ∨ m.cell.nofPorts = 4)
    (hgrid : m.InGrid t)
    : (∀ p ∈ m.blockPositions offset t, p ∉ m.cell.refsignals) ↔ (m.HalfRef t → offset = m.cell.refOffset t.l) := by
  constructor
  . rintro h ⟨hprb, hhalf, href⟩
    by_contra hne
    have hlt := m.cell.refOffset_lt t.l
    have hbound : nre / m.cell.nofRefs ≤ 6 := by
      obtain h | h := m.cell.nofRefs_eq <;> rw [h] <;> decide
    -- the reference in this half of the symbol
    let r := if t.n = m.cell.nofPrb / 2 - 3 then m.cell.refOffset t.l else 6 + m.cell.refOffset t.l
    have hr : r < 12 := by
      dsimp only [r]
      split <;> omega
    have hmod : r % (nre / m.cell.nofRefs) = m.cell.refOffset t.l := by
      dsimp only [r]
      split
      . exact Nat.mod_eq_of_lt hlt
      . rw [six_mod]
        exact Nat.mod_eq_of_lt hlt
    have hcopied : m.Copied offset t r := by
      refine .half hprb hhalf ?_ fun _ => ?_
      . dsimp only [r]
        split <;> omega
      . rw [hmod]
        exact Ne.symm hne
    refine h _ (mem_blockPositions_iff.mpr ⟨r, hr, rfl, hcopied⟩) ?_
    exact (Cell.mem_refsignals_iff hports hgrid.s hgrid.l hgrid.n hr).mpr ⟨href, hmod⟩
  . intro h p hp hmem
    obtain ⟨r, hr, rfl, hcopied⟩ := mem_blockPositions_iff.mp hp
    have ⟨href, hmod⟩ := (Cell.mem_refsignals_iff hports hgrid.s hgrid.l hgrid.n hr).mp hmem
    cases hcopied with
    | normal _ _ hno => exact hno href hmod
    | half hprb hhalf _ hno =>
      apply hno href
      rw [h ⟨hprb, hhalf, href⟩]
      exact hmod

/-! ### The offset that is left -/

def anySets (m : PdschMapping) (s l k : Nat) : Bool :=
  (List.range k).any fun n => m.setsOffset ⟨s, l, n⟩

def rowOffset (m : PdschMapping) (s : Nat) (offset l : Nat) : Nat :=
  if m.anySets s l m.cell.nofPrb then m.cell.refOffset l else offset

def offsetAt (m : PdschMapping) (s l offset : Nat) : Nat :=
  (List.range l).foldl (m.rowOffset s) offset

theorem foldl_row (s l offset k : Nat)
    : ((List.range k).map fun n => (⟨s, l, n⟩ : PrbSymbol)).foldl m.offsetAfter offset
        =
      if m.anySets s l k then m.cell.refOffset l else offset := by
  unfold anySets
  induction k with
  | zero => rfl
  | succ k ih =>
    rw [range_succ, map_append, foldl_append, ih, any_append]
    simp only [map_cons, map_nil, foldl_cons, foldl_nil, any_cons, any_nil,
      Bool.or_false, offsetAfter]
    cases m.setsOffset ⟨s, l, k⟩ <;> cases (List.range k).any fun n => m.setsOffset ⟨s, l, n⟩ <;> rfl

theorem mem_carried_row {t : PrbSymbol × Nat} (h : t ∈ m.carried ((List.range k).map fun n => ⟨s, l, n⟩) offset)
    : t.1.s = s ∧ t.1.l = l ∧ t.2 = if m.anySets s l t.1.n then m.cell.refOffset l else offset := by
  induction k with
  | zero => cases h
  | succ k ih =>
    rw [range_succ, map_append, carried_append, mem_append, foldl_row] at h
    cases h with
    | inl h => exact ih h
    | inr h =>
      have heq := mem_singleton.mp h
      rw [heq]
      exact ⟨rfl, rfl, rfl⟩

theorem foldl_rows (s offset k : Nat)
    : ((List.range k).flatMap fun l => (List.range m.cell.nofPrb).map fun n => (⟨s, l, n⟩ : PrbSymbol)).foldl
        m.offsetAfter offset
        =
      m.offsetAt s k offset := by
  unfold offsetAt
  rw [foldl_flatMap]
  congr 1
  funext offset l
  exact foldl_row s l offset m.cell.nofPrb

theorem mem_carried_rows {t : PrbSymbol × Nat}
    (h : t ∈ m.carried ((List.range k).flatMap fun l => (List.range m.cell.nofPrb).map fun n => ⟨s, l, n⟩) offset)
    : t.1.s = s ∧ t.2 = if m.anySets s t.1.l t.1.n then m.cell.refOffset t.1.l else m.offsetAt s t.1.l offset := by
  induction k with
  | zero => cases h
  | succ k ih =>
    rw [range_succ, flatMap_append, carried_append, mem_append, foldl_rows] at h
    cases h with
    | inl h => exact ih h
    | inr h =>
      rw [flatMap_singleton] at h
      have ⟨hs, hl, hoffset⟩ := mem_carried_row h
      rw [hl]
      exact ⟨hs, hoffset⟩

def slot0Offset (m : PdschMapping) : Nat :=
  m.offsetAt 0 m.cell.cp.nsymb 0

theorem carried_slot1_iff (hgrid : m.InGrid t) (hs : t.s = 1)
    : (t, offset) ∈ m.carried m.symbols 0
        ↔
      offset = if m.anySets 1 t.l t.n then m.cell.refOffset t.l else m.offsetAt 1 t.l m.slot0Offset := by
  have hvalue {offset : Nat} (h : (t, offset) ∈ m.carried m.symbols 0)
      : offset = if m.anySets 1 t.l t.n then m.cell.refOffset t.l else m.offsetAt 1 t.l m.slot0Offset := by
    unfold symbols slotSymbols at h
    rw [carried_append, mem_append, foldl_rows] at h
    cases h with
    | inl h =>
      exact absurd (hs.symm.trans (mem_carried_rows h).1) (by decide)
    | inr h => exact (mem_carried_rows h).2
  constructor
  . exact hvalue
  . rintro rfl
    have hmem : t ∈ m.symbols := by
      unfold symbols slotSymbols
      simp only [mem_append, mem_flatMap, mem_map, mem_range]
      refine Or.inr ⟨t.l, hgrid.l, t.n, hgrid.n, ?_⟩
      rw [← hs]
    rw [← @map_fst_carried m m.symbols 0] at hmem
    obtain ⟨u, hu, rfl⟩ := mem_map.mp hmem
    rw [← hvalue hu]
    exact hu

theorem anySets_iff
    : m.anySets s l k = true
        ↔
      ∃ n < k, m.prbIdx s n = true ∧ m.isNormal ⟨s, l, n⟩ = true ∧
        symbolHasRef l m.cell.cp m.cell.nofPorts = true := by
  unfold anySets setsOffset
  simp only [any_eq_true, mem_range, Bool.and_eq_true, and_assoc]

theorem rowOffset_of_noRef (h : symbolHasRef l m.cell.cp m.cell.nofPorts = false) (offset : Nat)
    : m.rowOffset s offset l = offset := by
  unfold rowOffset
  rw [if_neg]
  rw [anySets_iff]
  rintro ⟨n, _, _, _, href⟩
  rw [h] at href
  cases href

def Slot0Refs (m : PdschMapping) : Prop :=
  m.lstartGrant ≤ m.cell.cp.nsymb - 3 ∧ ∃ n < m.cell.nofPrb, m.prbIdx 0 n = true

theorem symbolHasRef_of_ge {cp : Cp} {nofPorts : Nat} (h : l > cp.nsymb - 3) : symbolHasRef l cp nofPorts = false := by
  unfold symbolHasRef
  have hnsymb := nsymb_eq cp
  simp only [Bool.or_eq_false_iff, Bool.and_eq_false_iff, beq_eq_false_iff_ne]
  omega

theorem anySets_slot0_last : m.anySets 0 (m.cell.cp.nsymb - 3) m.cell.nofPrb = true ↔ m.Slot0Refs := by
  have hnsymb := nsymb_eq m.cell.cp
  have href : symbolHasRef (m.cell.cp.nsymb - 3) m.cell.cp m.cell.nofPorts = true := by simp [symbolHasRef]
  rw [anySets_iff]
  unfold Slot0Refs
  constructor
  . rintro ⟨n, hn, hprb, hnormal, _⟩
    rw [isNormal_iff] at hnormal
    exact ⟨by simpa using hnormal.1, n, hn, hprb⟩
  . rintro ⟨hl, n, hn, hprb⟩
    refine ⟨n, hn, hprb, isNormal_iff.mpr ⟨by simpa using hl, ?_⟩, href⟩
    dsimp only
    split <;> omega

theorem slot0Refs_of_anySets (h : m.anySets 0 l m.cell.nofPrb = true) : m.Slot0Refs := by
  have ⟨n, hn, hprb, hnormal, href⟩ := anySets_iff.mp h
  rw [isNormal_iff] at hnormal
  have hstart : m.lstartGrant ≤ l := by simpa using hnormal.1
  refine ⟨?_, n, hn, hprb⟩
  by_contra hlt
  rw [symbolHasRef_of_ge (by omega)] at href
  cases href

theorem slot0Offset_eq (m : PdschMapping)
    : (m.Slot0Refs → m.slot0Offset = m.cell.refOffset (m.cell.cp.nsymb - 3)) ∧ (¬ m.Slot0Refs → m.slot0Offset = 0) := by
  have hnsymb := nsymb_eq m.cell.cp
  have hrange : List.range m.cell.cp.nsymb = List.range (m.cell.cp.nsymb - 3) ++
      [m.cell.cp.nsymb - 3, m.cell.cp.nsymb - 2, m.cell.cp.nsymb - 1] := by
    obtain h | h := hnsymb <;> rw [h] <;> decide
  constructor
  . intro hrefs
    unfold slot0Offset offsetAt
    rw [hrange, foldl_append]
    simp only [foldl_cons, foldl_nil]
    rw [rowOffset_of_noRef (symbolHasRef_of_ge (by omega)), rowOffset_of_noRef (symbolHasRef_of_ge (by omega))]
    exact if_pos (anySets_slot0_last.mpr hrefs)
  . intro hno
    unfold slot0Offset offsetAt
    induction List.range m.cell.cp.nsymb with
    | nil => rfl
    | cons l ls ih =>
      rw [foldl_cons]
      have hrow : m.rowOffset 0 0 l = 0 := if_neg fun h => hno (slot0Refs_of_anySets h)
      rw [hrow]
      exact ih

/--
The reference signals are left alone: only the halves of a symbol next to the PBCH use an offset that was left by another
one, which is right if a resource block before them has set it.
-/
def KeepsRefsignals (m : PdschMapping) : Prop :=
  m.cell.nofPrb % 2 = 1 → m.nsubframe = 0 →
  (m.prbIdx 1 (m.cell.nofPrb / 2 - 3) = true ∨ m.prbIdx 1 (m.cell.nofPrb / 2 + 3) = true) →
    (∃ n < m.cell.nofPrb / 2 - 3, m.prbIdx 1 n = true) ∨
    if m.cell.nofPorts = 1 then
      m.cell.cp = .norm ∧ m.cell.id % 6 = 0 ∧ ¬ m.Slot0Refs
    else
      m.Slot0Refs ∨ m.cell.id % 3 = 0

theorem anySets_pbch_iff (hodd : m.cell.nofPrb % 2 = 1) (hprb : 6 ≤ m.cell.nofPrb) (hsf : m.nsubframe = 0) {n : Nat}
    (hl : l < 4) (href : symbolHasRef l m.cell.cp m.cell.nofPorts = true)
    (hn : n = m.cell.nofPrb / 2 - 3 ∨ n = m.cell.nofPrb / 2 + 3)
    : m.anySets 1 l n = true ↔ ∃ n < m.cell.nofPrb / 2 - 3, m.prbIdx 1 n = true := by
  have hnsymb := nsymb_eq m.cell.cp
  rw [anySets_iff]
  constructor
  . rintro ⟨k, hk, hidx, hnormal, _⟩
    refine ⟨k, ?_, hidx⟩
    by_contra hge
    rw [isNormal_iff] at hnormal
    have hcentral : m.cell.isCentral k = true := by
      simp only [Cell.isCentral, Bool.and_eq_true, decide_eq_true_eq]
      omega
    rw [if_pos ⟨rfl, hsf, hcentral⟩] at hnormal
    exact absurd hnormal.1 (Nat.not_le_of_lt hl)
  . rintro ⟨k, hk, hidx⟩
    have hcentral : ¬ m.cell.isCentral k = true := by
      simp only [Cell.isCentral, Bool.and_eq_true, decide_eq_true_eq]
      omega
    refine ⟨k, by omega, hidx, isNormal_iff.mpr ?_, href⟩
    dsimp only
    rw [if_neg fun h => hcentral h.2.2, if_neg one_ne_zero, if_neg fun h => hcentral h.2.2]
    omega

theorem refOffset_eq (cell : Cell) (l : Nat)
    : cell.refOffset l
        =
      if cell.nofPorts = 1 then (if l = 0 then cell.id % 6 else (cell.id + 3) % 6) else cell.id % 3 := by
  unfold Cell.refOffset Cell.nofRefs
  by_cases h : cell.nofPorts = 1
  . simp only [h, ↓reduceIte]
  . simp only [h, ↓reduceIte, Nat.reduceEqDiff]

theorem offsetAt_of_ports (hports : m.cell.nofPorts ≠ 1) (h : offset = m.cell.id % 3)
    : m.offsetAt s l offset = m.cell.id % 3 := by
  unfold offsetAt
  induction List.range l generalizing offset with
  | nil => exact h
  | cons l ls ih =>
    rw [foldl_cons]
    apply ih
    unfold rowOffset
    split
    . rw [refOffset_eq, if_neg hports]
    . exact h

theorem offset_right_iff (hprb : 6 ≤ m.cell.nofPrb)
    : (∀ t ∈ m.carried m.symbols 0, m.HalfRef t.1 → t.2 = m.cell.refOffset t.1.l) ↔ m.KeepsRefsignals := by
  have hnsymb := nsymb_eq m.cell.cp
  have hslot0 := m.slot0Offset_eq
  constructor
  . intro h hodd hsf hhalf
    by_contra hno
    rw [not_or] at hno
    have ⟨hbelow, hcond⟩ := hno
    obtain ⟨n, hn, hidx⟩ : ∃ n, (n = m.cell.nofPrb / 2 - 3 ∨ n = m.cell.nofPrb / 2 + 3) ∧ m.prbIdx 1 n = true := by
      cases hhalf with
      | inl h => exact ⟨_, Or.inl rfl, h⟩
      | inr h => exact ⟨_, Or.inr rfl, h⟩
    -- what the halves in symbol `l` say about the offset
    have hsymbol {l : Nat} (hl : l < 4) (href : symbolHasRef l m.cell.cp m.cell.nofPorts = true)
        : m.offsetAt 1 l m.slot0Offset = m.cell.refOffset l := by
      have hgrid : m.InGrid ⟨1, l, n⟩ := ⟨Nat.one_lt_two, by dsimp only; omega, by dsimp only; omega⟩
      have hright := h (⟨1, l, n⟩, _) ((carried_slot1_iff hgrid rfl).mpr rfl)
        ⟨hidx, isHalf_iff.mpr ⟨hodd, hn, Or.inl ⟨rfl, hsf, hl⟩⟩, href⟩
      rw [if_neg fun hsets => hbelow ((anySets_pbch_iff hodd hprb hsf hl href hn).mp hsets)] at hright
      exact hright
    have h0 := @hsymbol 0 (by decide) (by simp [symbolHasRef])
    rw [show m.offsetAt 1 0 m.slot0Offset = m.slot0Offset from rfl, refOffset_eq] at h0
    by_cases hone : m.cell.nofPorts = 1
    . rw [if_pos hone] at hcond h0
      rw [if_pos rfl] at h0
      have hno : ¬ m.Slot0Refs := by
        intro hrefs
        rw [hslot0.1 hrefs, refOffset_eq, if_pos hone, if_neg (by omega)] at h0
        omega
      rw [hslot0.2 hno] at h0
      have hext : m.cell.cp = .ext := by
        cases hcp : m.cell.cp with
        | norm => exact absurd ⟨hcp, h0.symm, hno⟩ hcond
        | ext => rfl
      -- in symbol 3 the offset is still that of symbol 0
      have h3 := @hsymbol 3 (by decide) (by simp [symbolHasRef, hext, Cp.nsymb])
      have hrows : m.offsetAt 1 3 m.slot0Offset = 0 := by
        unfold offsetAt
        simp only [show List.range 3 = [0, 1, 2] from rfl, foldl_cons, foldl_nil]
        rw [rowOffset_of_noRef (by simp [symbolHasRef, hext, Cp.nsymb]),
          rowOffset_of_noRef (by simp [symbolHasRef, hext, Cp.nsymb, hone]), hslot0.2 hno]
        unfold rowOffset
        rw [refOffset_eq, if_pos hone, if_pos rfl, ← h0]
        split <;> rfl
      rw [hrows, refOffset_eq, if_pos hone, if_neg (by decide)] at h3
      omega
    . rw [if_neg hone] at hcond h0
      rw [not_or] at hcond
      rw [hslot0.2 hcond.1] at h0
      exact hcond.2 h0.symm
  . rintro h ⟨t, offset⟩ hmem ⟨hidx, hhalf, href⟩
    have hgrid := inGrid_of_mem_carried hmem
    dsimp only at hidx hhalf href hgrid ⊢
    obtain ⟨hodd, hn, ⟨hs, hsf, hl⟩ | ⟨_, _, hl⟩⟩ := isHalf_iff.mp hhalf
    . rw [(carried_slot1_iff hgrid hs).mp hmem]
      split
      . rfl
      . next hsets =>
        rw [hs] at hidx
        have hhalf' : m.prbIdx 1 (m.cell.nofPrb / 2 - 3) = true ∨ m.prbIdx 1 (m.cell.nofPrb / 2 + 3) = true := by
          cases hn with
          | inl hn => exact Or.inl (hn ▸ hidx)
          | inr hn => exact Or.inr (hn ▸ hidx)
        cases h hodd hsf hhalf' with
        | inl hbelow => exact absurd ((anySets_pbch_iff hodd hprb hsf hl href hn).mpr hbelow) hsets
        | inr hcond =>
          rw [refOffset_eq]
          by_cases hone : m.cell.nofPorts = 1
          . rw [if_pos hone] at hcond ⊢
            have ⟨hnorm, hid, hno⟩ := hcond
            have hl0 : t.l = 0 := by
              simp [symbolHasRef, hnorm, hone, Cp.nsymb] at href
              omega
            rw [hl0, if_pos rfl, hid]
            exact hslot0.2 hno
          . rw [if_neg hone] at hcond ⊢
            apply offsetAt_of_ports hone
            by_cases hrefs : m.Slot0Refs
            . rw [hslot0.1 hrefs, refOffset_eq, if_neg hone]
            . rw [hslot0.2 hrefs]
              cases hcond with
              | inl h => exact absurd h hrefs
              | inr h => exact h.symm
    . rw [symbolHasRef_of_ge (by omega)] at href
      cases href

def written (m : PdschMapping) : List Nat :=
  (srsltePdschCp m.cell m.prbIdx m.lstartGrant m.nsubframe true).ptrs.copies.map Prod.fst

theorem written_eq : m.written = m.positions := by
  unfold written
  rw [(@mapped_srsltePdschCp m true).1, zipIdx_map_fst]

theorem pdsch_elements_iff {m : PdschMapping} (hvalid : m.cell.isvalid = true)
    (hports : m.cell.nofPorts = 1 ∨ m.cell.nofPorts = 2 ∨ m.cell.nofPorts = 4)
    : (m.written.Nodup ∧
        (∀ p ∈ m.written, p ∉ m.cell.refsignals ∧ ¬ m.IsPbchElement p ∧ ¬ m.IsSyncElement p) ∧
        ∀ (α : Type) (data grid out : Nat → α),
          (srsltePdschGet m.cell (srsltePdschPut m.cell data grid m.prbIdx m.lstartGrant m.nsubframe).1 out m.prbIdx
              m.lstartGrant m.nsubframe).2
            = (srsltePdschPut m.cell data grid m.prbIdx m.lstartGrant m.nsubframe).2 ∧
          ∀ j < (srsltePdschPut m.cell data grid m.prbIdx m.lstartGrant m.nsubframe).2,
            (srsltePdschGet m.cell (srsltePdschPut m.cell data grid m.prbIdx m.lstartGrant m.nsubframe).1 out
              m.prbIdx m.lstartGrant m.nsubframe).1 j = data j)
        ↔
      m.KeepsRefsignals := by
  have hprb := (Cell.nofPrb_of_isvalid hvalid).1
  rw [← offset_right_iff hprb, written_eq]
  constructor
  . rintro ⟨_, helements, _⟩ t ht
    refine (not_mem_refsignals_iff hports (inGrid_of_mem_carried ht)).mp fun p hp => (helements p ?_).1
    exact mem_flatMap.mpr ⟨t, ht, hp⟩
  . intro h
    refine ⟨nodup_positions, fun p hp => ?_, fun _ data grid out => srsltePdschGet_put data grid out⟩
    have ⟨t, ht, hmem⟩ := mem_flatMap.mp hp
    have hgrid := inGrid_of_mem_carried ht
    exact ⟨(not_mem_refsignals_iff hports hgrid).mpr (h t ht) p hmem, not_isPbchElement_of_mem hgrid hprb hmem,
      not_isSyncElement_of_mem hgrid hprb hmem⟩

def cell15 (prbs : Nat → Bool) : PdschMapping where
  cell := { nofPrb := 15, nofPorts := 1, id := 1, cp := .norm }
  prbIdx _ n := prbs n
  lstartGrant := 2
  nsubframe := 0

theorem pdsch_elements_allPrbs
    : (cell15 fun _ => true).written.Nodup ∧
        (cell15 fun _ => true).written.Disjoint (cell15 fun _ => true).cell.refsignals := by
  have h := (@pdsch_elements_iff (cell15 fun _ => true) (by decide) (Or.inl rfl)).mpr
    fun _ _ _ => Or.inl ⟨0, by decide, rfl⟩
  exact ⟨h.1, fun p hp => (h.2.1 p hp).1⟩

theorem not_pdsch_elements_onePrb
    : (cell15 (· == 4)).cell.isvalid = true ∧ 1309 ∈ (cell15 (· == 4)).written ∧
        1309 ∈ (cell15 (· == 4)).cell.refsignals := by
  decide +kernel

end PdschMapping

end SrsLte
