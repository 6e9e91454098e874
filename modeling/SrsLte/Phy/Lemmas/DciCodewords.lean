import SrsLte.Phy.Lemmas.Dci

/-!
This module contains the round trip of DCI formats 1, 1C, 2, 2A and 2B, which is about the codewords that the enabled
transport blocks are mapped to.
-/

namespace SrsLte

open List

/-! ### Sizes -/

theorem skipAmbiguous_spec (n : Nat) : n ≤ skipAmbiguous n ∧ ¬ isAmbiguousSize (skipAmbiguous n) = true := by
  have hlt : ∀ m, isAmbiguousSize m = true → m < 57 := by
    intro m hm
    simp only [isAmbiguousSize, ambiguousSizes, contains_iff_mem, mem_cons, not_mem_nil, or_false] at hm
    omega
  apply Loop.whileDo_spec (fun m => 57 - m)
  . intro m hm hcond
    have := hlt m hcond
    exact ⟨Nat.le_succ_of_le hm, by omega⟩
  . exact Nat.le_refl n
  . omega

theorem le_dciFormat1Sizeof (nofPrb : Nat)
    : RaDlDci.allocSize nofPrb + 13 + (if nofPrb > 10 then 1 else 0) ≤ dciFormat1Sizeof nofPrb := by
  unfold dciFormat1Sizeof
  apply Loop.whileDo_invariant
  . intro n hn _
    exact Nat.le_succ_of_le hn
  . unfold RaDlDci.allocSize harqPidLen
    split <;> omega

theorem le_dciFormat2XSizeof (nofPrb precodingBits : Nat)
    : RaDlDci.allocSize nofPrb + 22 + precodingBits + (if nofPrb > 10 then 1 else 0)
        ≤ dciFormat2XSizeof nofPrb precodingBits := by
  refine Nat.le_trans ?_ (skipAmbiguous_spec _).1
  unfold RaDlDci.allocSize harqPidLen
  split <;> omega

structure TransportBlock where
  mcsIdx : Nat
  rvIdx : Int
  ndi : Bool
deriving DecidableEq, Repr

structure TransportBlock.InRange (block : TransportBlock) : Prop where
  mcsIdx : block.mcsIdx < 2 ^ 5
  rvIdx_nonneg : 0 ≤ block.rvIdx
  rvIdx_lt : block.rvIdx < 4

namespace TransportBlock

structure Says (enabled : Bool) (block : TransportBlock) : Prop where
  inRange : block.InRange
  enabled_eq : (!(decide (block.mcsIdx = 0) && decide (block.rvIdx.toNat = 1))) = enabled

theorem says_disabled (ndi : Bool) : Says false ⟨0, 1, ndi⟩ :=
  ⟨⟨Nat.two_pow_pos 5, Int.one_nonneg, show (1 : Int) < 4 by decide⟩, rfl⟩

theorem InRange.says_enabled {block : TransportBlock} (h : block.InRange)
    (hne : ¬ (block.mcsIdx = 0 ∧ block.rvIdx = 1)) : block.Says true := by
  refine ⟨h, ?_⟩
  have hrv : block.rvIdx.toNat = 1 ↔ block.rvIdx = 1 := by omega
  simp only [hrv, ← Bool.decide_and, hne, decide_false, Bool.not_false]

end TransportBlock

namespace RaDlDci

def block0 (data : RaDlDci) : TransportBlock :=
  ⟨data.mcsIdx, data.rvIdx, data.ndi⟩

def block1 (data : RaDlDci) : TransportBlock :=
  ⟨data.mcsIdx1, data.rvIdx1, data.ndi1⟩

def codewords (data : RaDlDci) : List TransportBlock :=
  (if data.tbEn0 then [data.block0] else []) ++ (if data.tbEn1 then [data.block1] else [])

def mappedBlocks (format : DciFormat) (data : RaDlDci) : List TransportBlock :=
  match data.tbEn0, data.tbEn1 with
  | true, true =>
    if data.tbCwSwap ∧ format ≠ .format2B then [data.block1, data.block0] else [data.block0, data.block1]
  | true, false => [data.block0]
  | false, true => [data.block1]
  | false, false => []

/-! ### Allocations of type 0 and 1 -/

def AllocInRange (nofPrb : Nat) (data : RaDlDci) : Prop :=
  match data.allocType with
  | .type0 => data.type0Alloc.rbgBitmask < 2 ^ allocSize nofPrb
  | .type1 =>
    10 < nofPrb ∧ data.type1Alloc.rbgSubset < 2 ^ subsetSize nofPrb ∧
      data.type1Alloc.vrbBitmask < 2 ^ (allocSize nofPrb - subsetSize nofPrb - 1)
  | .type2 => False

def SameAlloc (result data : RaDlDci) : Prop :=
  result.allocType = data.allocType ∧
    match data.allocType with
    | .type0 => result.type0Alloc = data.type0Alloc
    | .type1 => result.type1Alloc = data.type1Alloc
    | .type2 =>
      result.type2Alloc.mode = data.type2Alloc.mode ∧ result.type2Alloc.nGap = data.type2Alloc.nGap ∧
        result.type2Alloc.LCrb = data.type2Alloc.LCrb ∧ result.type2Alloc.RBStart = data.type2Alloc.RBStart

def withAlloc (target data : RaDlDci) : RaDlDci :=
  match data.allocType with
  | .type0 => { target with allocType := .type0, type0Alloc := data.type0Alloc }
  | .type1 => { target with allocType := .type1, type1Alloc := data.type1Alloc }
  | .type2 => target

variable {nofPrb : Nat} {data : RaDlDci}

theorem subsetSize_lt_allocSize (h10 : 10 < nofPrb) : subsetSize nofPrb < allocSize nofPrb := by
  have h2 : ceilLog2 2 = 1 := by decide
  have h3 : ceilLog2 3 = 2 := by decide +kernel
  have h4 : ceilLog2 4 = 2 := by decide +kernel
  unfold subsetSize allocSize ceilDiv srslteRaType0P
  rw [if_neg (by omega)]
  split
  next =>
    rw [h2]
    omega
  next =>
    split
    next =>
      rw [h3]
      omega
    next =>
      rw [h4]
      omega

theorem unpackAlloc_packAlloc (h : data.AllocInRange nofPrb)
    : ∃ bits, data.packAlloc nofPrb = some bits ∧
        bits.length = allocSize nofPrb + (if nofPrb > 10 then 1 else 0) ∧
        ∀ target y, unpackAlloc target nofPrb (bits ++ y) = some (target.withAlloc data, y) := by
  unfold AllocInRange at h
  unfold packAlloc withAlloc
  cases htype : data.allocType with
  | type0 =>
    rw [htype] at h
    refine ⟨_, rfl, ?_, ?_⟩
    . unfold packAlloc.header
      split <;> simp [Nat.add_comm]
    . intro target y
      by_cases h10 : nofPrb > 10
      all_goals simp [unpackAlloc, packAlloc.header, h10, srslteBitPack_unpack_of_lt h]
  | type1 =>
    rw [htype] at h
    have ⟨h10, hsubset, hbitmask⟩ := h
    have hlt := subsetSize_lt_allocSize h10
    refine ⟨_, rfl, ?_, ?_⟩
    . simp only [packAlloc.header, if_pos h10, length_append, length_singleton, length_srslteBitUnpack]
      omega
    . intro target y
      simp [unpackAlloc, packAlloc.header, h10, srslteBitPack_unpack_of_lt hsubset,
        srslteBitPack_unpack_of_lt hbitmask]
  | type2 =>
    rw [htype] at h
    exact h.elim

theorem tbCwSwap_withAlloc (target data : RaDlDci) : (target.withAlloc data).tbCwSwap = target.tbCwSwap := by
  unfold withAlloc
  split <;> rfl

theorem sameAlloc_of_type2 {result : RaDlDci} (hresult : result.allocType = .type2) (hdata : data.allocType = .type2)
    (h : result.type2Alloc.mode = data.type2Alloc.mode ∧ result.type2Alloc.nGap = data.type2Alloc.nGap ∧
      result.type2Alloc.LCrb = data.type2Alloc.LCrb ∧ result.type2Alloc.RBStart = data.type2Alloc.RBStart)
    : result.SameAlloc data := by
  unfold SameAlloc
  rw [hresult, hdata]
  exact ⟨rfl, h⟩

theorem sameAlloc_withAlloc (target : RaDlDci) (h : data.AllocInRange nofPrb)
    : (target.withAlloc data).SameAlloc data := by
  unfold AllocInRange at h
  unfold SameAlloc withAlloc
  cases htype : data.allocType with
  | type0 => exact ⟨rfl, rfl⟩
  | type1 => exact ⟨rfl, rfl⟩
  | type2 =>
    rw [htype] at h
    exact h.elim

/-! ### Format 1 -/

structure InRange1 (nofPrb : Nat) (data : RaDlDci) : Prop where
  alloc : data.AllocInRange nofPrb
  block0 : data.block0.InRange
  harqProcess : data.harqProcess < 2 ^ harqPidLen
  tbEn0 : data.tbEn0 = true
  tbEn1 : data.tbEn1 = false

structure SameGrant (format : DciFormat) (result data : RaDlDci) : Prop where
  alloc : result.SameAlloc data
  codewords : result.codewords = data.mappedBlocks format
  harqProcess : result.harqProcess = data.harqProcess
  pinfo : format = .format2 ∨ format = .format2A → result.pinfo = data.pinfo

theorem length_packRv (rvIdx : Int) : (packRv rvIdx).length = 2 :=
  length_srslteBitUnpack _ _

theorem length_fields1 (data : RaDlDci) : (dciFormat1Pack.fields data).length = 13 := by
  simp [dciFormat1Pack.fields, length_packRv, harqPidLen]

theorem dciFormat1Unpack_pack (h : data.InRange1 nofPrb) (msg : DciMsg) (target : RaDlDci)
    : ∃ msg', dciFormat1Pack data msg nofPrb = some (data, msg') ∧
        msg'.nofBits = srslteDciFormatSizeof .format1 nofPrb 1 ∧
        msg'.format = msg.format ∧
        ∃ result, dciFormat1Unpack msg' target nofPrb = some result ∧ result.SameGrant .format1 data := by
  have ⟨alloc, hpack, hlength, hunpack⟩ := unpackAlloc_packAlloc h.alloc
  have hsize : (alloc ++ dciFormat1Pack.fields data).length ≤ srslteDciFormatSizeof .format1 nofPrb 1 := by
    have := le_dciFormat1Sizeof nofPrb
    rw [length_append, hlength, length_fields1]
    dsimp only [srslteDciFormatSizeof]
    omega
  have ⟨rest, hwrite⟩ := msg.exists_write_padTo hsize
  have hmcs : data.mcsIdx < 2 ^ 5 := h.block0.mcsIdx
  have hrv : 0 ≤ data.rvIdx := h.block0.rvIdx_nonneg
  have hpacked : dciFormat1Pack data msg nofPrb = some (data, {
      msg with
      data := alloc ++ dciFormat1Pack.fields data ++ rest
      nofBits := srslteDciFormatSizeof .format1 nofPrb 1
    }) := by
    unfold dciFormat1Pack
    rw [hpack, ← hwrite]
    rfl
  refine ⟨_, hpacked, rfl, rfl, {
    target.withAlloc data with
    mcsIdx := data.mcsIdx
    harqProcess := data.harqProcess
    ndi := data.ndi
    rvIdx := data.rvIdx.toNat
    tbEn0 := true
    tbEn1 := false
  }, ?_, ?_⟩
  . simp [dciFormat1Unpack, dciFormat1Pack.fields, hunpack, srslteBitPack_unpack_of_lt hmcs,
      srslteBitPack_unpack_of_lt h.harqProcess, srslteBitPack_packRv hrv h.block0.rvIdx_lt]
  . refine ⟨sameAlloc_withAlloc target h.alloc, ?_, rfl, nofun⟩
    simp [codewords, mappedBlocks, block0, h.tbEn0, h.tbEn1, hrv]

/-! ### Formats 2, 2A and 2B -/

structure InRange2 (format : DciFormat) (nofPrb nofPorts : Nat) (data : RaDlDci) : Prop where
  alloc : data.AllocInRange nofPrb
  block0 : data.tbEn0 = true → data.block0.InRange ∧ ¬ (data.mcsIdx = 0 ∧ data.rvIdx = 1)
  block1 : data.tbEn1 = true → data.block1.InRange ∧ ¬ (data.mcsIdx1 = 0 ∧ data.rvIdx1 = 1)
  nonempty : data.tbEn0 = true ∨ data.tbEn1 = true
  harqProcess : data.harqProcess < 2 ^ harqPidLen
  pinfo : data.pinfo < 2 ^ format.precodingBits nofPorts

variable {format : DciFormat} {nofPorts : Nat}

theorem block0_forceDisabled (data : RaDlDci)
    : data.forceDisabled.block0 = if data.tbEn0 then data.block0 else ⟨0, 1, data.ndi⟩ := by
  unfold forceDisabled
  cases htb0 : data.tbEn0 <;> cases htb1 : data.tbEn1
  all_goals simp [htb1, block0]

theorem block1_forceDisabled (data : RaDlDci)
    : data.forceDisabled.block1 = if data.tbEn1 then data.block1 else ⟨0, 1, data.ndi1⟩ := by
  unfold forceDisabled
  cases htb0 : data.tbEn0 <;> cases htb1 : data.tbEn1
  all_goals simp [htb1, block1]

theorem InRange2.says_block0 (h : data.InRange2 format nofPrb nofPorts)
    : data.forceDisabled.block0.Says data.tbEn0 := by
  rw [block0_forceDisabled]
  cases htb0 : data.tbEn0 with
  | false => exact TransportBlock.says_disabled data.ndi
  | true => exact (h.block0 htb0).1.says_enabled (h.block0 htb0).2

theorem InRange2.says_block1 (h : data.InRange2 format nofPrb nofPorts)
    : data.forceDisabled.block1.Says data.tbEn1 := by
  rw [block1_forceDisabled]
  cases htb1 : data.tbEn1 with
  | false => exact TransportBlock.says_disabled data.ndi1
  | true => exact (h.block1 htb1).1.says_enabled (h.block1 htb1).2

theorem exists_forceDisabled (data : RaDlDci)
    : ∃ mcsIdx rvIdx mcsIdx1 rvIdx1, data.forceDisabled = { data with mcsIdx, rvIdx, mcsIdx1, rvIdx1 } := by
  unfold forceDisabled
  dsimp only
  split <;> split
  all_goals exact ⟨_, _, _, _, rfl⟩

theorem mappedBlocks_forceDisabled (format : DciFormat) (data : RaDlDci)
    : data.forceDisabled.mappedBlocks format = data.mappedBlocks format := by
  have h0 := block0_forceDisabled data
  have h1 := block1_forceDisabled data
  have ⟨_, _, _, _, hforce⟩ := exists_forceDisabled data
  unfold mappedBlocks
  rw [h0, h1, hforce]
  cases htb0 : data.tbEn0 <;> cases htb1 : data.tbEn1
  all_goals simp only [↓reduceIte]

theorem codewords_of_tbEn0 (data : RaDlDci) (htb0 : data.tbEn0 = true)
    : data.swapCodewords.moveCodeword.codewords
        =
      if data.tbEn1 = true then
        if data.tbCwSwap then [data.block1, data.block0] else [data.block0, data.block1]
      else
        [data.block0] := by
  unfold swapCodewords
  cases htb1 : data.tbEn1 <;> cases hswap : data.tbCwSwap
  all_goals simp [moveCodeword, codewords, block0, block1, htb0, htb1]

theorem exists_moveCodeword (data : RaDlDci)
    : ∃ mcsIdx rvIdx ndi mcsIdx1 rvIdx1 ndi1 tbEn1,
        data.swapCodewords.moveCodeword = { data with mcsIdx, rvIdx, ndi, mcsIdx1, rvIdx1, ndi1, tbEn1 } := by
  unfold moveCodeword swapCodewords
  split <;> split
  all_goals exact ⟨_, _, _, _, _, _, _, rfl⟩

theorem length_fields2AB (data : RaDlDci) (msg : DciMsg) (nofPorts : Nat)
    : (dciFormat2ABPack.fields msg nofPorts data).length = 22 + msg.format.precodingBits nofPorts := by
  simp [dciFormat2ABPack.fields, length_packRv, harqPidLen]
  omega

theorem le_sizeof (hformat : format = .format2 ∨ format = .format2A ∨ format = .format2B) (nofPrb nofPorts : Nat)
    : allocSize nofPrb + 22 + format.precodingBits nofPorts + (if nofPrb > 10 then 1 else 0)
        ≤ srslteDciFormatSizeof format nofPrb nofPorts := by
  obtain rfl | rfl | rfl := hformat
  all_goals exact le_dciFormat2XSizeof nofPrb _

def unpacked2AB (format : DciFormat) (target data : RaDlDci) : RaDlDci :=
  {
    target with
    harqProcess := data.harqProcess
    sramId := if format = .format2B then data.sramId else target.sramId
    tbCwSwap := if format = .format2B then target.tbCwSwap else data.tbCwSwap
    mcsIdx := data.mcsIdx
    ndi := data.ndi
    rvIdx := data.rvIdx
    mcsIdx1 := data.mcsIdx1
    ndi1 := data.ndi1
    rvIdx1 := data.rvIdx1
    tbEn0 := data.tbEn0
    tbEn1 := data.tbEn1
    pinfo := if format = .format2 ∨ format = .format2A then data.pinfo else target.pinfo
  }

theorem precodingBits_le (format : DciFormat) (nofPorts : Nat) : format.precodingBits nofPorts ≤ 6 := by
  cases format
  case format2 =>
    change precodingBitsF2 nofPorts ≤ 6
    unfold precodingBitsF2
    split <;> decide
  case format2A =>
    change precodingBitsF2a nofPorts ≤ 6
    unfold precodingBitsF2a
    split <;> decide
  all_goals exact Nat.zero_le 6

variable {target : RaDlDci}

theorem dciFormat2ABUnpack_fields {msg : DciMsg} {alloc rest : List Bool}
    (halloc : ∀ y, target.unpackAlloc nofPrb (alloc ++ y) = some (target.withAlloc data, y))
    (h0 : data.block0.Says data.tbEn0) (h1 : data.block1.Says data.tbEn1)
    (hharq : data.harqProcess < 2 ^ harqPidLen) (hpinfo : data.pinfo < 2 ^ msg.format.precodingBits nofPorts)
    (hdata : msg.data = alloc ++ dciFormat2ABPack.fields msg nofPorts data ++ rest)
    : dciFormat2ABUnpack msg target nofPrb nofPorts
        = some (unpacked2AB msg.format (target.withAlloc data) data).swapCodewords.moveCodeword := by
  have hmcs : data.mcsIdx < 2 ^ 5 := h0.inRange.mcsIdx
  have hmcs1 : data.mcsIdx1 < 2 ^ 5 := h1.inRange.mcsIdx
  have hrv : 0 ≤ data.rvIdx := h0.inRange.rvIdx_nonneg
  have hrv1 : 0 ≤ data.rvIdx1 := h1.inRange.rvIdx_nonneg
  have hrv4 : data.rvIdx < 4 := h0.inRange.rvIdx_lt
  have hrv14 : data.rvIdx1 < 4 := h1.inRange.rvIdx_lt
  have hen0 : (!(decide (data.mcsIdx = 0) && decide (data.rvIdx.toNat = 1))) = data.tbEn0 := h0.enabled_eq
  have hen1 : (!(decide (data.mcsIdx1 = 0) && decide (data.rvIdx1.toNat = 1))) = data.tbEn1 := h1.enabled_eq
  have hpinfo8 : data.pinfo % 2 ^ 8 = data.pinfo := by
    have := Nat.pow_le_pow_right (show 0 < 2 by decide) (precodingBits_le msg.format nofPorts)
    exact Nat.mod_eq_of_lt (by omega)
  have htpc := length_srslteBitUnpack data.tpcPucch 2
  unfold dciFormat2ABPack.fields at hdata
  unfold dciFormat2ABUnpack
  rw [hdata]
  simp only [append_assoc, cons_append, nil_append, halloc, Option.bind_eq_bind, Option.bind_some,
    drop_left' htpc, srslteBitPack_unpack_of_lt hharq, nextBit_cons, srslteBitPack_unpack_of_lt hmcs,
    srslteBitPack_packRv hrv hrv4, srslteBitPack_unpack_of_lt hmcs1, srslteBitPack_packRv hrv1 hrv14,
    srslteBitPack_unpack_of_lt hpinfo, hpinfo8, hen0, hen1, Int.toNat_of_nonneg hrv, Int.toNat_of_nonneg hrv1]
  unfold unpacked2AB
  by_cases hB : msg.format = .format2B
  . simp [hB]
  . simp [hB]

theorem sameGrant_unpacked2AB (format : DciFormat) (target data : RaDlDci) (h : data.AllocInRange nofPrb)
    (htb0 : data.tbEn0 = true) (htarget : target.tbCwSwap = false)
    : (unpacked2AB format (target.withAlloc data) data).swapCodewords.moveCodeword.SameGrant format data := by
  have hcodewords := codewords_of_tbEn0 (unpacked2AB format (target.withAlloc data) data) htb0
  have halloc := sameAlloc_withAlloc target h
  have ⟨_, _, _, _, _, _, _, hmove⟩ := exists_moveCodeword (unpacked2AB format (target.withAlloc data) data)
  refine ⟨?_, ?_, ?_, ?_⟩
  . rw [hmove]
    exact halloc
  . have hblock0 : (unpacked2AB format (target.withAlloc data) data).block0 = data.block0 := rfl
    have hblock1 : (unpacked2AB format (target.withAlloc data) data).block1 = data.block1 := rfl
    have htb1 : (unpacked2AB format (target.withAlloc data) data).tbEn1 = data.tbEn1 := rfl
    have hswap : (unpacked2AB format (target.withAlloc data) data).tbCwSwap
        = if format = .format2B then false else data.tbCwSwap := by
      rw [← htarget, ← tbCwSwap_withAlloc target data]
      rfl
    rw [hcodewords, hblock0, hblock1, htb1, hswap]
    unfold mappedBlocks
    rw [htb0]
    cases data.tbEn1 with
    | false => rfl
    | true => by_cases hB : format = .format2B <;> simp [hB]
  . rw [hmove]
    rfl
  . intro hformat
    rw [hmove]
    exact if_pos hformat

theorem dciFormat2ABUnpack_pack (hformat : format = .format2 ∨ format = .format2A ∨ format = .format2B)
    (h : data.InRange2 format nofPrb nofPorts) (htb0 : data.tbEn0 = true) {msg : DciMsg} (hmsg : msg.format = format)
    (htarget : target.tbCwSwap = false)
    : ∃ data' msg', dciFormat2ABPack data msg nofPrb nofPorts = some (data', msg') ∧
        msg'.nofBits = srslteDciFormatSizeof format nofPrb nofPorts ∧
        msg'.format = format ∧
        ∃ result, dciFormat2ABUnpack msg' target nofPrb nofPorts = some result ∧ result.SameGrant format data := by
  subst hmsg
  have ⟨alloc, hpack, hlength, hunpack⟩ := unpackAlloc_packAlloc h.alloc
  have hblocks := mappedBlocks_forceDisabled msg.format data
  have h0 := h.says_block0
  have h1 := h.says_block1
  have ⟨mcsIdx, rvIdx, mcsIdx1, rvIdx1, hforce⟩ := exists_forceDisabled data
  have hsize : (alloc ++ dciFormat2ABPack.fields msg nofPorts data.forceDisabled).length
      ≤ srslteDciFormatSizeof msg.format nofPrb nofPorts := by
    have := le_sizeof hformat nofPrb nofPorts
    rw [length_append, hlength, length_fields2AB]
    omega
  have ⟨rest, hwrite⟩ := msg.exists_write_padTo hsize
  have hpacked : dciFormat2ABPack data msg nofPrb nofPorts = some (data.forceDisabled, {
      msg with
      data := alloc ++ dciFormat2ABPack.fields msg nofPorts data.forceDisabled ++ rest
      nofBits := srslteDciFormatSizeof msg.format nofPrb nofPorts
    }) := by
    unfold dciFormat2ABPack
    rw [hpack, ← hwrite]
    rfl
  refine ⟨_, _, hpacked, rfl, rfl,
    (unpacked2AB msg.format (target.withAlloc data.forceDisabled) data.forceDisabled).swapCodewords.moveCodeword,
    ?_, ?_⟩
  . rw [hforce] at h0 h1 ⊢
    exact dciFormat2ABUnpack_fields (hunpack target) h0 h1 h.harqProcess h.pinfo rfl
  . rw [hforce] at hblocks ⊢
    have ⟨halloc, hcodewords, hharq, hpinfo⟩ :=
      sameGrant_unpacked2AB msg.format target { data with mcsIdx, rvIdx, mcsIdx1, rvIdx1 } h.alloc htb0 htarget
    exact ⟨halloc, hcodewords.trans hblocks, hharq, hpinfo⟩

/-! ### Format 1C -/

structure InRange1C (nofPrb : Nat) (data : RaDlDci) : Prop where
  allocType : data.allocType = .type2
  mode : data.type2Alloc.mode = .dist
  LCrb_mod : data.type2Alloc.LCrb % srslteRaType2NRbStep nofPrb = 0
  RBStart_mod : data.type2Alloc.RBStart % srslteRaType2NRbStep nofPrb = 0
  within : RaType2.Within data.type2Alloc.LCrb data.type2Alloc.RBStart
    (data.type2Alloc.nVrbDl nofPrb / srslteRaType2NRbStep nofPrb * srslteRaType2NRbStep nofPrb)
  mcsIdx : data.mcsIdx < 2 ^ 5
  tbEn0 : data.tbEn0 = true
  tbEn1 : data.tbEn1 = false

structure SameGrant1C (result data : RaDlDci) : Prop where
  alloc : result.SameAlloc data
  codewords : result.codewords.map (·.mcsIdx) = [data.mcsIdx]
  rvIdx : result.rvIdx = -1

theorem nRbStep_pos (nofPrb : Nat) : 0 < srslteRaType2NRbStep nofPrb := by
  unfold srslteRaType2NRbStep
  split <;> decide

theorem within_steps {LCrb RBStart n step : Nat} (hstep : 0 < step) (hL : LCrb % step = 0) (hRB : RBStart % step = 0)
    (h : RaType2.Within LCrb RBStart (n * step)) : RaType2.Within (LCrb / step) (RBStart / step) n := by
  have hdivL := Nat.div_mul_cancel (Nat.dvd_of_mod_eq_zero hL)
  have hdivRB := Nat.div_mul_cancel (Nat.dvd_of_mod_eq_zero hRB)
  constructor
  . apply Nat.div_pos
    . exact Nat.le_of_dvd h.pos (Nat.dvd_of_mod_eq_zero hL)
    . exact hstep
  . apply Nat.le_of_mul_le_mul_right _ hstep
    rw [Nat.add_mul, hdivL, hdivRB]
    exact h.le

theorem length_fields1C (data : RaDlDci) (nofPrb riv : Nat)
    : (dciFormat1CsPack.fields data nofPrb riv (srslteRaType2NVrbDl nofPrb true / srslteRaType2NRbStep nofPrb)).length
        = srslteDciFormatSizeof .format1C nofPrb 1 := by
  dsimp only [srslteDciFormatSizeof, dciFormat1CSizeof, dciFormat1CsPack.fields]
  rw [length_append, length_append, length_srslteBitUnpack, length_srslteBitUnpack]
  split
  . rw [length_singleton]
    omega
  . rw [length_nil]
    omega

theorem nVrbDl_of_ng1 {alloc : RaType2} (hgap : alloc.nGap = .ng1)
    : alloc.nVrbDl nofPrb = srslteRaType2NVrbDl nofPrb true := by
  unfold RaType2.nVrbDl
  rw [hgap]
  rfl

namespace InRange1C

def riv (nofPrb : Nat) (data : RaDlDci) : Nat :=
  srslteRaType2ToRiv (data.type2Alloc.LCrb / srslteRaType2NRbStep nofPrb)
    (data.type2Alloc.RBStart / srslteRaType2NRbStep nofPrb)
    (srslteRaType2NVrbDl nofPrb true / srslteRaType2NRbStep nofPrb)

theorem pack_eq (h : data.InRange1C nofPrb) (hgap : data.type2Alloc.nGap = .ng1) (msg : DciMsg)
    : dciFormat1CsPack data msg nofPrb = some ({ data with dciIs1c := true },
        msg.write (dciFormat1CsPack.fields data nofPrb (riv nofPrb data)
          (srslteRaType2NVrbDl nofPrb true / srslteRaType2NRbStep nofPrb))) := by
  have hmax := h.within
  rw [nVrbDl_of_ng1 hgap] at hmax
  have hpos := hmax.pos
  have hle := hmax.le
  unfold dciFormat1CsPack
  dsimp only
  rw [nVrbDl_of_ng1 hgap, if_neg (by simp [h.allocType, h.mode]), if_neg (by omega), if_neg (by simp [h.LCrb_mod]),
    if_neg (by simp [h.RBStart_mod]), if_pos (by omega)]
  rfl

theorem riv_spec (h : data.InRange1C nofPrb) (h110 : nofPrb ≤ 110) (hgap : data.type2Alloc.nGap = .ng1)
    : riv nofPrb data < 2 ^ rivNbits (srslteRaType2NVrbDl nofPrb true / srslteRaType2NRbStep nofPrb) ∧
      srslteRaType2FromRiv (riv nofPrb data) (srslteRaType2NVrbDl nofPrb true / srslteRaType2NRbStep nofPrb)
        (srslteRaType2NVrbDl nofPrb true / srslteRaType2NRbStep nofPrb)
        = (data.type2Alloc.LCrb / srslteRaType2NRbStep nofPrb,
            data.type2Alloc.RBStart / srslteRaType2NRbStep nofPrb) := by
  have hle := data.type2Alloc.nVrbDl_le nofPrb
  have hwithin := within_steps (nRbStep_pos nofPrb) h.LCrb_mod h.RBStart_mod h.within
  rw [nVrbDl_of_ng1 hgap] at hle hwithin
  have hn : srslteRaType2NVrbDl nofPrb true / srslteRaType2NRbStep nofPrb < 2 ^ 15 :=
    Nat.lt_of_le_of_lt (Nat.div_le_self _ _) (by omega)
  constructor
  . exact Nat.lt_of_lt_of_le (RaType2.toRiv_lt hwithin (by omega)) (le_two_pow_ceilLog2 _)
  . exact RaType2.fromRiv_toRiv_self hwithin hn

end InRange1C

theorem dciFormat1CsUnpack_pack (h : data.InRange1C nofPrb) (h110 : nofPrb ≤ 110)
    (hgap : data.type2Alloc.nGap = .ng1) (msg : DciMsg) (htarget : target.type2Alloc.nGap = .ng1)
    : ∃ data' msg', dciFormat1CsPack data msg nofPrb = some (data', msg') ∧
        msg'.nofBits = srslteDciFormatSizeof .format1C nofPrb 1 ∧
        msg'.format = msg.format ∧
        ∃ result, dciFormat1CsUnpack msg' target nofPrb = some result ∧ result.SameGrant1C data := by
  have hL := Nat.div_mul_cancel (Nat.dvd_of_mod_eq_zero h.LCrb_mod)
  have hRB := Nat.div_mul_cancel (Nat.dvd_of_mod_eq_zero h.RBStart_mod)
  have hpack := h.pack_eq hgap msg
  have hbits := length_fields1C data nofPrb (InRange1C.riv nofPrb data)
  have ⟨hriv, hfrom⟩ := h.riv_spec h110 hgap
  generalize InRange1C.riv nofPrb data = riv at *
  have hwrite : (msg.write (dciFormat1CsPack.fields data nofPrb riv
      (srslteRaType2NVrbDl nofPrb true / srslteRaType2NRbStep nofPrb))).nofBits
      = srslteDciFormatSizeof .format1C nofPrb 1 := hbits
  refine ⟨_, _, hpack, hwrite, rfl, {
    target with
    dciIs1c := true
    allocType := .type2
    type2Alloc := {
      target.type2Alloc with
      mode := .dist
      nGap := .ng1
      riv
      LCrb := data.type2Alloc.LCrb / srslteRaType2NRbStep nofPrb * srslteRaType2NRbStep nofPrb
      RBStart := data.type2Alloc.RBStart / srslteRaType2NRbStep nofPrb * srslteRaType2NRbStep nofPrb
    }
    mcsIdx := data.mcsIdx
    rvIdx := -1
    tbEn0 := true
    tbEn1 := false
  }, ?_, ?_⟩
  . unfold dciFormat1CsUnpack
    rw [if_neg (not_not_intro hwrite)]
    dsimp only [DciMsg.write, dciFormat1CsPack.fields]
    by_cases h50 : nofPrb ≥ 50
    . simp [h50, hgap, nVrbDl_of_ng1, srslteBitPack_unpack_of_lt hriv, hfrom,
        srslteBitPack_unpack_of_lt h.mcsIdx, RaNGap.toBool, RaNGap.ofBool]
    . simp [h50, htarget, nVrbDl_of_ng1, srslteBitPack_unpack_of_lt hriv, hfrom,
        srslteBitPack_unpack_of_lt h.mcsIdx]
  . exact ⟨sameAlloc_of_type2 rfl h.allocType ⟨h.mode.symm, hgap.symm, hL, hRB⟩, rfl, rfl⟩

end RaDlDci

theorem unpack_pack_codewords (nofPrb nofPorts : Nat) (h110 : nofPrb ≤ 110) (msg : DciMsg) (crcIsCrnti : Bool)
    : (∀ data target : RaDlDci, data.InRange1 nofPrb →
        ∃ data' msg', srslteDciMsgPackPdsch data .format1 msg nofPrb nofPorts crcIsCrnti = some (data', msg') ∧
          msg'.nofBits = srslteDciFormatSizeof .format1 nofPrb nofPorts ∧
          ∃ result, srslteDciMsgUnpackPdsch msg' target nofPrb nofPorts crcIsCrnti = some result ∧
            result.SameGrant .format1 data) ∧
      (∀ data target : RaDlDci, data.InRange1C nofPrb → data.type2Alloc.nGap = .ng1 →
        target.type2Alloc.nGap = .ng1 →
        ∃ data' msg', srslteDciMsgPackPdsch data .format1C msg nofPrb nofPorts crcIsCrnti = some (data', msg') ∧
          msg'.nofBits = srslteDciFormatSizeof .format1C nofPrb nofPorts ∧
          ∃ result, srslteDciMsgUnpackPdsch msg' target nofPrb nofPorts crcIsCrnti = some result ∧
            result.SameGrant1C data) ∧
      (∀ (format : DciFormat) (data target : RaDlDci),
        (format = .format2 ∨ format = .format2A ∨ format = .format2B) → data.InRange2 format nofPrb nofPorts →
        data.tbEn0 = true → target.tbCwSwap = false →
        ∃ data' msg', srslteDciMsgPackPdsch data format msg nofPrb nofPorts crcIsCrnti = some (data', msg') ∧
          msg'.nofBits = srslteDciFormatSizeof format nofPrb nofPorts ∧
          ∃ result, srslteDciMsgUnpackPdsch msg' target nofPrb nofPorts crcIsCrnti = some result ∧
            result.SameGrant format data) := by
  refine ⟨?_, ?_, ?_⟩
  . intro data target hrange
    have ⟨msg', hpack, hbits, hformat, result, hunpack, hsame⟩ :=
      RaDlDci.dciFormat1Unpack_pack hrange { msg with format := .format1 } target
    refine ⟨data, msg', hpack, hbits, result, ?_, hsame⟩
    unfold srslteDciMsgUnpackPdsch
    rw [hformat]
    exact hunpack
  . intro data target hrange hgap htarget
    have ⟨data', msg', hpack, hbits, hformat, result, hunpack, hsame⟩ :=
      RaDlDci.dciFormat1CsUnpack_pack hrange h110 hgap { msg with format := .format1C } htarget
    refine ⟨data', msg', hpack, hbits, result, ?_, hsame⟩
    unfold srslteDciMsgUnpackPdsch
    rw [hformat]
    exact hunpack
  . intro format data target hformat hrange htb0 htarget
    have ⟨data', msg', hpack, hbits, hformat', result, hunpack, hsame⟩ :=
      RaDlDci.dciFormat2ABUnpack_pack hformat hrange htb0 (show { msg with format := format }.format = format from rfl)
        htarget
    refine ⟨data', msg', ?_, hbits, result, ?_, hsame⟩
    . obtain rfl | rfl | rfl := hformat
      all_goals exact hpack
    . unfold srslteDciMsgUnpackPdsch
      rw [hformat']
      obtain rfl | rfl | rfl := hformat
      all_goals exact hunpack

def dlGrant2 (tbEn0 tbEn1 : Bool) : RaDlDci where
  type0Alloc := { rbgBitmask := 5 }
  harqProcess := 3
  mcsIdx := 10
  rvIdx := 2
  ndi := true
  mcsIdx1 := 20
  rvIdx1 := 0
  tbCwSwap := true
  pinfo := 1
  tbEn0
  tbEn1

theorem inRange2_dlGrant2 {tbEn0 tbEn1 : Bool} (h : tbEn0 = true ∨ tbEn1 = true)
    : (dlGrant2 tbEn0 tbEn1).InRange2 .format2 25 2 where
  alloc := show 5 < 2 ^ RaDlDci.allocSize 25 by decide
  block0 _ := ⟨⟨show 10 < 2 ^ 5 by decide, show (0 : Int) ≤ 2 by decide, show (2 : Int) < 4 by decide⟩, nofun⟩
  block1 _ := ⟨⟨show 20 < 2 ^ 5 by decide, show (0 : Int) ≤ 0 by decide, show (0 : Int) < 4 by decide⟩, nofun⟩
  nonempty := h
  harqProcess := show 3 < 2 ^ harqPidLen by decide
  pinfo := show 1 < 2 ^ DciFormat.format2.precodingBits 2 by decide

theorem unpack_pack_codewords_twoBlocks
    : ∃ data' msg', srslteDciMsgPackPdsch (dlGrant2 true true) .format2 ⟨[], 0, .format0⟩ 25 2 true
        = some (data', msg') ∧
        ∃ result, srslteDciMsgUnpackPdsch msg' {} 25 2 true = some result ∧
          result.codewords = [⟨20, 0, false⟩, ⟨10, 2, true⟩] := by
  have ⟨data', msg', hpack, _, result, hunpack, hsame⟩ :=
    (unpack_pack_codewords 25 2 (by decide) ⟨[], 0, .format0⟩ true).2.2 .format2 (dlGrant2 true true) {} (Or.inl rfl)
      (inRange2_dlGrant2 (Or.inl rfl)) rfl rfl
  exact ⟨data', msg', hpack, result, hunpack, hsame.codewords⟩

def roundTrip (format : DciFormat) (data : RaDlDci) (nofPrb : Nat) : Option RaDlDci := do
  let (_, msg) ← srslteDciMsgPackPdsch data format ⟨List.replicate 128 false, 0, format⟩ nofPrb 2 true
  srslteDciMsgUnpackPdsch msg {} nofPrb 2 true

def dlGrant1C (nGap : RaNGap) : RaDlDci where
  allocType := .type2
  type2Alloc := { LCrb := 4, RBStart := 0, mode := .dist, nGap }
  mcsIdx := 10
  tbEn0 := true

theorem not_unpack_pack_codewords
    : ((dlGrant1C .ng1).InRange1C 25 ∧ (dlGrant1C .ng1).rvIdx = 0 ∧
        (roundTrip .format1C (dlGrant1C .ng1) 25).map (·.rvIdx) = some (-1)) ∧
      (roundTrip .format1 { dlGrant2 true false with allocType := .type1 } 6).map (·.allocType) = some .type0 ∧
      (roundTrip .format1 (dlGrant2 true true) 25).map (·.codewords.length) = some 1 ∧
      ((dlGrant1C .ng2).InRange1C 50 ∧ roundTrip .format1C (dlGrant1C .ng2) 50 = none) ∧
      ((dlGrant2 false true).InRange2 .format2 25 2 ∧
        (roundTrip .format2 (dlGrant2 false true) 25).map (·.codewords) = some []) := by
  refine ⟨⟨⟨rfl, rfl, by decide, by decide, ⟨by decide, by decide⟩, by decide, rfl, rfl⟩, rfl, by decide +kernel⟩,
    by decide +kernel, by decide +kernel,
    ⟨⟨rfl, rfl, by decide, by decide, ⟨by decide, by decide⟩, by decide, rfl, rfl⟩, by decide +kernel⟩,
    ⟨inRange2_dlGrant2 (Or.inr rfl), by decide +kernel⟩⟩

end SrsLte
