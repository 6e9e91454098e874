import SrsLte.Phy.Impl.Pdsch

/-!
This module contains the proof of which resource elements the PDSCH is mapped to, and that the mapping can be undone.
-/

namespace SrsLte

open Scatter List

/-! ### Copying -/

namespace CopyState

def ptr (put : Bool) (s : CopyState) : Nat :=
  if put then s.outPtr else s.inPtr

def Mapped (put : Bool) (positions : List Nat) (s : CopyState) : Prop :=
  if put then
    s.copies = positions.zipIdx ∧ s.inPtr = positions.length
  else
    s.copies = positions.zipIdx.map Prod.swap ∧ s.outPtr = positions.length

variable {put : Bool} {positions : List Nat} {s : CopyState}

theorem Mapped.start (put : Bool) : Mapped put [] {} := by
  cases put <;> exact ⟨rfl, rfl⟩

theorem ptr_copy (n : Nat) (s : CopyState) : (s.copy n).ptr put = s.ptr put + n := by
  cases put <;> rfl

theorem ptr_skip (n : Nat) (s : CopyState) : (s.skip n put).ptr put = s.ptr put + n := by
  cases put <;> rfl

theorem ptr_seek (p : Nat) (s : CopyState) : (s.seek p put).ptr put = p := by
  cases put <;> rfl

theorem Mapped.skip (h : Mapped put positions s) (n : Nat) : Mapped put positions (s.skip n put) := by
  cases put <;> exact h

theorem Mapped.seek (h : Mapped put positions s) (p : Nat) : Mapped put positions (s.seek p put) := by
  cases put <;> exact h

theorem zipIdx_append_range (positions : List Nat) (p n : Nat)
    : (positions ++ (List.range n).map (p + ·)).zipIdx
        =
      positions.zipIdx ++ (List.range n).map fun i => (p + i, positions.length + i) := by
  rw [zipIdx_append, Nat.zero_add]
  congr 1
  apply ext_getElem
  . simp
  . simp

theorem Mapped.copy (h : Mapped put positions s) (n : Nat)
    : Mapped put (positions ++ (List.range n).map (s.ptr put + ·)) (s.copy n) := by
  cases put with
  | true =>
    have ⟨hcopies, hptr⟩ := h
    refine ⟨?_, ?_⟩
    . rw [zipIdx_append_range]
      unfold CopyState.copy
      dsimp only
      rw [hcopies, hptr]
      rfl
    . unfold CopyState.copy
      simp [hptr]
  | false =>
    have ⟨hcopies, hptr⟩ := h
    refine ⟨?_, ?_⟩
    . rw [zipIdx_append_range, map_append, map_map]
      unfold CopyState.copy
      dsimp only
      rw [hcopies, hptr]
      rfl
    . unfold CopyState.copy
      simp [hptr]

def refPattern (offset refInterval nofIntervals : Nat) : List Nat :=
  List.range offset ++
    (List.range (nofIntervals - 1)).flatMap (fun i => (List.range refInterval).map
      (offset + i * (refInterval + 1) + 1 + ·)) ++
    (List.range (refInterval - offset)).map (offset + (nofIntervals - 1) * (refInterval + 1) + 1 + ·)

theorem Mapped.intervals (h : Mapped put positions s) (refInterval n : Nat)
    : Mapped put
        (positions ++ (List.range n).flatMap fun i => (List.range refInterval).map
          (s.ptr put + i * (refInterval + 1) + 1 + ·))
        ((List.range n).foldl (fun s _ => (s.skip 1 put).copy refInterval) s) ∧
      ((List.range n).foldl (fun s _ => (s.skip 1 put).copy refInterval) s).ptr put
        = s.ptr put + n * (refInterval + 1) := by
  induction n with
  | zero => simpa using h
  | succ n ih =>
    have ⟨hmapped, hptr⟩ := ih
    rw [range_succ, foldl_append, foldl_cons, foldl_nil, flatMap_append, ← append_assoc]
    constructor
    . have hcopy := (hmapped.skip 1).copy refInterval
      rw [ptr_skip, hptr] at hcopy
      simpa using hcopy
    . rw [ptr_copy, ptr_skip, hptr, Nat.succ_mul]
      omega

theorem Mapped.prbCpRef (h : Mapped put positions s) (offset nofRefs nofIntervals : Nat)
    : Mapped put (positions ++ (refPattern offset (nre / nofRefs - 1) nofIntervals).map (s.ptr put + ·))
        (s.prbCpRef offset nofRefs nofIntervals put) := by
  unfold CopyState.prbCpRef refPattern
  dsimp only
  generalize nre / nofRefs - 1 = refInterval
  have ⟨hmapped, hptr⟩ := (h.copy offset).intervals refInterval (nofIntervals - 1)
  rw [ptr_copy] at hmapped hptr
  rw [map_append, map_append, ← append_assoc, ← append_assoc, map_flatMap]
  simp only [map_map, Function.comp_def, ← Nat.add_assoc]
  split
  . have hcopy := (hmapped.skip 1).copy (refInterval - offset)
    rw [ptr_skip, hptr] at hcopy
    exact hcopy
  . next hle =>
    rw [show refInterval - offset = 0 by omega]
    simpa using hmapped

end CopyState

/-! ### Symbols of resource blocks -/

structure PdschMapping where
  cell : Cell
  prbIdx : PrbIdx
  lstartGrant : Nat
  nsubframe : Nat

structure PrbSymbol where
  s : Nat
  l : Nat
  n : Nat
deriving DecidableEq, Repr

namespace Cell

theorem nofRefs_eq (cell : Cell) : cell.nofRefs = 2 ∨ cell.nofRefs = 4 := by
  unfold nofRefs
  split
  . exact Or.inl rfl
  . exact Or.inr rfl

theorem refOffset_lt (cell : Cell) (l : Nat) : cell.refOffset l < nre / cell.nofRefs := by
  unfold refOffset
  obtain h | h := cell.nofRefs_eq
  . rw [h, if_pos rfl]
    unfold nre
    split <;> omega
  . rw [h, if_neg (by decide)]
    unfold nre
    omega

def dataRes (cell : Cell) (l offset width : Nat) : List Nat :=
  (List.range width).filter fun r =>
    !(symbolHasRef l cell.cp cell.nofPorts && r % (nre / cell.nofRefs) == offset)

theorem refPattern_eq (cell : Cell) {offset : Nat} (h : offset < nre / cell.nofRefs)
    : CopyState.refPattern offset (nre / cell.nofRefs - 1) cell.nofRefs
        = (List.range 12).filter (fun r => !(r % (nre / cell.nofRefs) == offset)) ∧
      CopyState.refPattern offset (nre / cell.nofRefs - 1) (cell.nofRefs / 2)
        = (List.range 6).filter (fun r => !(r % (nre / cell.nofRefs) == offset)) := by
  obtain h2 | h4 := cell.nofRefs_eq
  . rw [h2] at h ⊢
    revert offset
    decide
  . rw [h4] at h ⊢
    revert offset
    decide

end Cell

namespace PdschMapping

variable (m : PdschMapping)

def isNormal (t : PrbSymbol) : Bool :=
  t.l ≥ m.cell.lstart m.lstartGrant m.nsubframe t.s t.n && t.l < m.cell.lend m.nsubframe t.s t.n

def isHalf (t : PrbSymbol) : Bool :=
  m.cell.nofPrb % 2 == 1 &&
    ((m.cell.isPbch m.nsubframe t.s t.n && t.l < m.cell.lstart m.lstartGrant m.nsubframe t.s t.n) ||
      (m.cell.isSss m.nsubframe t.s t.n && t.l ≥ m.cell.lend m.nsubframe t.s t.n)) &&
    (t.n == m.cell.nofPrb / 2 - 3 || t.n == m.cell.nofPrb / 2 + 3)

def blockPositions (offset : Nat) (t : PrbSymbol) : List Nat :=
  if m.prbIdx t.s t.n then
    if m.isNormal t then
      (m.cell.dataRes t.l (m.cell.refOffset t.l) 12).map (m.cell.rePtr t.s t.l t.n + ·)
    else if m.isHalf t then
      (m.cell.dataRes t.l offset 6).map
        (m.cell.rePtr t.s t.l t.n + (if t.n = m.cell.nofPrb / 2 - 3 then 0 else 6) + ·)
    else
      []
  else
    []

def setsOffset (t : PrbSymbol) : Bool :=
  m.prbIdx t.s t.n && m.isNormal t && symbolHasRef t.l m.cell.cp m.cell.nofPorts

def offsetAfter (offset : Nat) (t : PrbSymbol) : Nat :=
  if m.setsOffset t then m.cell.refOffset t.l else offset

end PdschMapping

namespace PdschCp

variable {m : PdschMapping} {put : Bool} {positions : List Nat} {st : PdschCp}

theorem normal_spec (h : st.ptrs.Mapped put positions) (l : Nat)
    : (st.normal m.cell put l).ptrs.Mapped put
        (positions ++ (m.cell.dataRes l (m.cell.refOffset l) 12).map (st.ptrs.ptr put + ·)) ∧
      (st.normal m.cell put l).offset
        = if symbolHasRef l m.cell.cp m.cell.nofPorts then m.cell.refOffset l else st.offset := by
  unfold normal Cell.dataRes
  cases hasRef : symbolHasRef l m.cell.cp m.cell.nofPorts with
  | true =>
    have hcopy := h.prbCpRef (m.cell.refOffset l) m.cell.nofRefs m.cell.nofRefs
    rw [(m.cell.refPattern_eq (m.cell.refOffset_lt l)).1] at hcopy
    simp only [↓reduceIte, Bool.true_and]
    exact ⟨hcopy, trivial⟩
  | false =>
    have hcopy := h.copy 12
    simp only [Bool.false_eq_true, ↓reduceIte, Bool.false_and, Bool.not_false, filter_true]
    exact ⟨hcopy, trivial⟩

theorem half_spec (h : st.ptrs.Mapped put positions) (hoffset : st.offset < nre / m.cell.nofRefs) (l : Nat)
    : (st.half m.cell put l).ptrs.Mapped put
        (positions ++ (m.cell.dataRes l st.offset 6).map (st.ptrs.ptr put + ·)) ∧
      (st.half m.cell put l).offset = st.offset := by
  unfold half Cell.dataRes
  cases hasRef : symbolHasRef l m.cell.cp m.cell.nofPorts with
  | true =>
    have hcopy := h.prbCpRef st.offset m.cell.nofRefs (m.cell.nofRefs / 2)
    rw [(m.cell.refPattern_eq hoffset).2] at hcopy
    simp only [↓reduceIte, Bool.true_and]
    exact ⟨hcopy, trivial⟩
  | false =>
    have hcopy := h.copy 6
    simp only [Bool.false_eq_true, ↓reduceIte, Bool.false_and, Bool.not_false, filter_true]
    exact ⟨hcopy, trivial⟩

variable {t : PrbSymbol}

theorem assigned_of_normal (st : PdschCp) (hnormal : m.isNormal t = true)
    : st.assigned m.cell m.lstartGrant m.nsubframe put t.s t.l t.n
        =
      { st with ptrs := st.ptrs.seek (m.cell.rePtr t.s t.l t.n) put }.normal m.cell put t.l := by
  simp only [PdschMapping.isNormal, Bool.and_eq_true, decide_eq_true_eq] at hnormal
  unfold assigned
  dsimp only
  rw [if_pos hnormal, if_neg (by omega)]

theorem assigned_of_half (st : PdschCp) (hhalf : m.isHalf t = true)
    : st.assigned m.cell m.lstartGrant m.nsubframe put t.s t.l t.n
        =
      if t.n = m.cell.nofPrb / 2 - 3 then
        { st with ptrs := st.ptrs.seek (m.cell.rePtr t.s t.l t.n) put }.half m.cell put t.l
      else
        { st with ptrs := (st.ptrs.seek (m.cell.rePtr t.s t.l t.n) put).skip 6 put }.half m.cell put t.l := by
  simp only [PdschMapping.isHalf, Bool.and_eq_true, Bool.or_eq_true, decide_eq_true_eq, beq_iff_eq] at hhalf
  have hnot : ¬ (t.l ≥ m.cell.lstart m.lstartGrant m.nsubframe t.s t.n ∧ t.l < m.cell.lend m.nsubframe t.s t.n) := by
    omega
  unfold assigned
  dsimp only
  rw [if_neg hnot, if_pos hhalf.1]
  split
  . rfl
  . next hlo =>
    rw [if_pos (by omega)]

theorem assigned_of_skipped (st : PdschCp) (hnormal : m.isNormal t = false) (hhalf : m.isHalf t = false)
    : st.assigned m.cell m.lstartGrant m.nsubframe put t.s t.l t.n
        =
      { st with ptrs := st.ptrs.seek (m.cell.rePtr t.s t.l t.n) put } := by
  simp only [PdschMapping.isNormal, Bool.and_eq_false_iff, decide_eq_false_iff_not] at hnormal
  have hnot : ¬ (t.l ≥ m.cell.lstart m.lstartGrant m.nsubframe t.s t.n ∧ t.l < m.cell.lend m.nsubframe t.s t.n) := by
    omega
  unfold assigned
  dsimp only
  rw [if_neg hnot]
  split
  . next hcond =>
    simp only [PdschMapping.isHalf, Bool.and_eq_false_iff, Bool.or_eq_false_iff, beq_eq_false_iff_ne] at hhalf
    have hn : t.n ≠ m.cell.nofPrb / 2 - 3 ∧ t.n ≠ m.cell.nofPrb / 2 + 3 := by
      have ⟨hodd, hsignal⟩ := hcond
      obtain (h | h) | h := hhalf
      . exact absurd (beq_iff_eq.mpr hodd) (by simpa using h)
      . obtain ⟨hpbch, hl⟩ | ⟨hsss, hl⟩ := hsignal
        . simp [hpbch, hl] at h
        . simp [hsss, hl] at h
      . exact h
    rw [if_neg hn.1, if_neg hn.2]
  . rfl

theorem prb_spec (h : st.ptrs.Mapped put positions) (hoffset : st.offset < nre / m.cell.nofRefs) (t : PrbSymbol)
    : (st.prb m.cell m.prbIdx m.lstartGrant m.nsubframe put t.s t.l t.n).ptrs.Mapped put
        (positions ++ m.blockPositions st.offset t) ∧
      (st.prb m.cell m.prbIdx m.lstartGrant m.nsubframe put t.s t.l t.n).offset = m.offsetAfter st.offset t := by
  unfold prb PdschMapping.blockPositions PdschMapping.offsetAfter PdschMapping.setsOffset
  cases hprb : m.prbIdx t.s t.n with
  | false => simpa using h
  | true =>
    simp only [↓reduceIte, Bool.true_and]
    have hseek := h.seek (m.cell.rePtr t.s t.l t.n)
    cases hnormal : m.isNormal t with
    | true =>
      rw [assigned_of_normal st hnormal]
      have hspec := @normal_spec m put positions { st with ptrs := st.ptrs.seek (m.cell.rePtr t.s t.l t.n) put } hseek t.l
      rw [CopyState.ptr_seek] at hspec
      simpa using hspec
    | false =>
      cases hhalf : m.isHalf t with
      | true =>
        rw [assigned_of_half st hhalf]
        simp only [Bool.false_eq_true, ↓reduceIte, Bool.false_and]
        split
        . have hspec := @half_spec m put positions { st with ptrs := st.ptrs.seek (m.cell.rePtr t.s t.l t.n) put }
            hseek hoffset t.l
          rw [CopyState.ptr_seek] at hspec
          simpa using hspec
        . have hspec := @half_spec m put positions
            { st with ptrs := (st.ptrs.seek (m.cell.rePtr t.s t.l t.n) put).skip 6 put } (hseek.skip 6) hoffset t.l
          rw [CopyState.ptr_skip, CopyState.ptr_seek] at hspec
          exact hspec
      | false =>
        rw [assigned_of_skipped st hnormal hhalf]
        simpa using hseek

end PdschCp

/-! ### Runs -/

namespace PdschMapping

variable (m : PdschMapping)

def slotSymbols (s : Nat) : List PrbSymbol :=
  (List.range m.cell.cp.nsymb).flatMap fun l => (List.range m.cell.nofPrb).map fun n => ⟨s, l, n⟩

def symbols : List PrbSymbol :=
  m.slotSymbols 0 ++ m.slotSymbols 1

def carried : List PrbSymbol → Nat → List (PrbSymbol × Nat)
  | [], _ => []
  | t :: ts, offset => (t, offset) :: carried ts (m.offsetAfter offset t)

def positions : List Nat :=
  (m.carried m.symbols 0).flatMap fun t => m.blockPositions t.2 t.1

variable {m}

theorem carried_append (ts ts' : List PrbSymbol) (offset : Nat)
    : m.carried (ts ++ ts') offset = m.carried ts offset ++ m.carried ts' (ts.foldl m.offsetAfter offset) := by
  induction ts generalizing offset with
  | nil => rfl
  | cons t ts ih => rw [cons_append, carried, carried, cons_append, ih, foldl_cons]

theorem map_fst_carried (ts : List PrbSymbol) (offset : Nat) : (m.carried ts offset).map Prod.fst = ts := by
  induction ts generalizing offset with
  | nil => rfl
  | cons t ts ih => rw [carried, map_cons, ih]

theorem foldl_prb {put : Bool} {positions : List Nat} {st : PdschCp} (h : st.ptrs.Mapped put positions)
    (hoffset : st.offset < nre / m.cell.nofRefs) (ts : List PrbSymbol)
    : (ts.foldl (fun st t => st.prb m.cell m.prbIdx m.lstartGrant m.nsubframe put t.s t.l t.n) st).ptrs.Mapped put
        (positions ++ (m.carried ts st.offset).flatMap fun t => m.blockPositions t.2 t.1) := by
  induction ts generalizing positions st with
  | nil => simpa [carried] using h
  | cons t ts ih =>
    have ⟨hmapped, hafter⟩ := PdschCp.prb_spec h hoffset t
    have hlt : (st.prb m.cell m.prbIdx m.lstartGrant m.nsubframe put t.s t.l t.n).offset < nre / m.cell.nofRefs := by
      rw [hafter]
      unfold offsetAfter
      split
      . exact m.cell.refOffset_lt t.l
      . exact hoffset
    have hrest := ih hmapped hlt
    rw [hafter] at hrest
    rw [foldl_cons, carried, flatMap_cons, ← append_assoc]
    exact hrest

theorem srsltePdschCp_eq (put : Bool)
    : srsltePdschCp m.cell m.prbIdx m.lstartGrant m.nsubframe put
        =
      m.symbols.foldl (fun st t => st.prb m.cell m.prbIdx m.lstartGrant m.nsubframe put t.s t.l t.n) {} := by
  unfold srsltePdschCp symbols slotSymbols
  simp only [foldl_append, foldl_flatMap, foldl_map]
  rfl

theorem mapped_srsltePdschCp (put : Bool)
    : (srsltePdschCp m.cell m.prbIdx m.lstartGrant m.nsubframe put).ptrs.Mapped put m.positions := by
  rw [srsltePdschCp_eq]
  have hpos : 0 < nre / m.cell.nofRefs := Nat.lt_of_le_of_lt (Nat.zero_le _) (m.cell.refOffset_lt 0)
  exact @foldl_prb m put [] {} (CopyState.Mapped.start put) hpos m.symbols

end PdschMapping

/-! ### The mapping can be undone -/

namespace PdschMapping

variable {m : PdschMapping}

def key (m : PdschMapping) (t : PrbSymbol) : Nat :=
  (t.l + t.s * m.cell.cp.nsymb) * m.cell.nofPrb + t.n

variable {t : PrbSymbol}

theorem exists_of_mem_blockPositions {offset p : Nat} (h : p ∈ m.blockPositions offset t)
    : ∃ r < 12, p = m.cell.rePtr t.s t.l t.n + r := by
  unfold blockPositions Cell.dataRes at h
  split at h
  . split at h
    . obtain ⟨r, hr, rfl⟩ := mem_map.mp h
      exact ⟨r, mem_range.mp (mem_filter.mp hr).1, rfl⟩
    . split at h
      . obtain ⟨r, hr, rfl⟩ := mem_map.mp h
        have hlt := mem_range.mp (mem_filter.mp hr).1
        split
        . exact ⟨r, by omega, rfl⟩
        . exact ⟨6 + r, by omega, by omega⟩
      . cases h
  . cases h

theorem key_of_mem_blockPositions {offset p : Nat} (h : p ∈ m.blockPositions offset t)
    : p / 12 = m.key t := by
  obtain ⟨r, hr, rfl⟩ := exists_of_mem_blockPositions h
  unfold Cell.rePtr key nre
  omega

theorem nodup_blockPositions (offset : Nat) (t : PrbSymbol) : (m.blockPositions offset t).Nodup := by
  have hnodup (l offset width start : Nat) : ((m.cell.dataRes l offset width).map (start + ·)).Nodup :=
    (nodup_range.filter _).map fun a b h => Nat.add_left_cancel h
  unfold blockPositions
  split
  . split
    . exact hnodup ..
    . split
      . exact hnodup ..
      . exact nodup_nil
  . exact nodup_nil

theorem flatMap_range_mul (a b : Nat) : ((List.range a).flatMap fun i => (List.range b).map (i * b + ·)) = List.range (a * b) := by
  induction a with
  | zero => simp
  | succ a ih => rw [range_succ, flatMap_append, ih, Nat.succ_mul, range_add, flatMap_singleton]

theorem nodup_map_key : (m.symbols.map m.key).Nodup := by
  have hslot (s : Nat) : (m.slotSymbols s).map m.key
      = (List.range (m.cell.cp.nsymb * m.cell.nofPrb)).map (s * m.cell.cp.nsymb * m.cell.nofPrb + ·) := by
    rw [← flatMap_range_mul]
    unfold slotSymbols
    rw [map_flatMap, map_flatMap]
    congr 1
    funext l
    rw [map_map, map_map]
    congr 1
    funext n
    simp only [Function.comp_apply, key, Nat.add_mul]
    omega
  unfold symbols
  rw [map_append, hslot, hslot, Nat.zero_mul, Nat.zero_mul, Nat.one_mul]
  rw [show ((0 + ·) : Nat → Nat) = id from funext Nat.zero_add, map_id, ← range_add]
  exact nodup_range

theorem nodup_positions : m.positions.Nodup := by
  have hgeneral (ts : List PrbSymbol) (offset : Nat) (hts : (ts.map m.key).Nodup)
      : ((m.carried ts offset).flatMap fun t => m.blockPositions t.2 t.1).Nodup := by
    induction ts generalizing offset with
    | nil => exact nodup_nil
    | cons t ts ih =>
      rw [map_cons, nodup_cons] at hts
      rw [carried, flatMap_cons, nodup_append]
      refine ⟨nodup_blockPositions offset t, ih _ hts.2, fun p hp p' hp' heq => hts.1 ?_⟩
      subst heq
      have ⟨u, hu, hmem⟩ := mem_flatMap.mp hp'
      rw [← key_of_mem_blockPositions hp, key_of_mem_blockPositions hmem]
      refine mem_map_of_mem ?_
      rw [← map_fst_carried ts (m.offsetAfter offset t)]
      exact mem_map_of_mem hu
  exact hgeneral m.symbols 0 nodup_map_key

theorem srsltePdschGet_put {α : Type} (data grid out : Nat → α)
    : (srsltePdschGet m.cell (srsltePdschPut m.cell data grid m.prbIdx m.lstartGrant m.nsubframe).1 out m.prbIdx
          m.lstartGrant m.nsubframe).2
        = (srsltePdschPut m.cell data grid m.prbIdx m.lstartGrant m.nsubframe).2 ∧
      ∀ j < (srsltePdschPut m.cell data grid m.prbIdx m.lstartGrant m.nsubframe).2,
        (srsltePdschGet m.cell (srsltePdschPut m.cell data grid m.prbIdx m.lstartGrant m.nsubframe).1 out m.prbIdx
          m.lstartGrant m.nsubframe).1 j = data j := by
  have ⟨hput, hputLen⟩ := @mapped_srsltePdschCp m true
  have ⟨hget, hgetLen⟩ := @mapped_srsltePdschCp m false
  unfold srsltePdschGet srsltePdschPut CopyState.apply
  dsimp only
  rw [hput, hputLen, hget, hgetLen]
  refine ⟨rfl, fun j hj => ?_⟩
  have hzip : (m.positions.get ⟨j, hj⟩, j) ∈ m.positions.zipIdx := by
    rw [mem_zipIdx_iff_getElem?]
    exact getElem?_eq_getElem hj
  have hgrid := @writeAll_of_mem _ grid (m.positions.zipIdx.map fun c => (c.1, data c.2))
    (m.positions.get ⟨j, hj⟩, data j) (by simpa [Function.comp_def] using nodup_positions) (mem_map_of_mem hzip)
  generalize writeAll grid (m.positions.zipIdx.map fun c => (c.1, data c.2)) = filled at hgrid ⊢
  rw [map_map]
  calc
    _ = filled (m.positions.get ⟨j, hj⟩) := @writeAll_of_mem _ out
      (m.positions.zipIdx.map ((fun c => (c.1, filled c.2)) ∘ Prod.swap)) (j, filled (m.positions.get ⟨j, hj⟩))
      (by simp [Function.comp_def, nodup_range']) (mem_map_of_mem hzip)
    _ = data j := hgrid

end PdschMapping

end SrsLte
