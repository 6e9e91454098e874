import SrsLte.Phy.Lemmas.Ra

/-!
This module contains the round trip of DCI formats 0 and 1A.
-/

namespace SrsLte

open List

@[simp]
theorem nextBit_cons (bit : Bool) (y : List Bool) : nextBit (bit :: y) = some (bit, y) := rfl

theorem length_padTo (n : Nat) (bits : List Bool) : (padTo n bits).length = max n bits.length := by
  unfold padTo
  rw [length_append, length_replicate]
  omega

theorem DciMsg.exists_write_padTo (msg : DciMsg) {n : Nat} {bits : List Bool} (h : bits.length ≤ n)
    : ∃ rest, msg.write (padTo n bits) = { msg with data := bits ++ rest, nofBits := n } := by
  refine ⟨List.replicate (n - bits.length) false ++ msg.data.drop (padTo n bits).length, ?_⟩
  unfold DciMsg.write
  rw [length_padTo, Nat.max_eq_left h]
  unfold padTo
  rw [append_assoc]

/-! ### Sizes -/

variable {nofPrb RBStart : Nat}

theorem lt_two_pow_rivNbits (h6 : 6 ≤ nofPrb) (h110 : nofPrb ≤ 110)
    : nofPrb * (nofPrb + 1) / 2 < 2 ^ rivNbits nofPrb := by
  have : ∀ n < 111, 6 ≤ n → n * (n + 1) / 2 < 2 ^ rivNbits n := by decide +kernel
  exact this nofPrb (by omega) h6

theorem five_le_rivNbits (h6 : 6 ≤ nofPrb) (h110 : nofPrb ≤ 110) : 5 ≤ rivNbits nofPrb := by
  have : ∀ n < 111, 6 ≤ n → 5 ≤ rivNbits n := by decide +kernel
  exact this nofPrb (by omega) h6

theorem RaType2.toRiv_lt_two_pow {LCrb : Nat} (h : Within LCrb RBStart nofPrb) (h6 : 6 ≤ nofPrb)
    (h110 : nofPrb ≤ 110) : srslteRaType2ToRiv LCrb RBStart nofPrb + 1 < 2 ^ rivNbits nofPrb := by
  have hlt := toRiv_lt h (by omega)
  have hpow := lt_two_pow_rivNbits h6 h110
  omega

theorem RaType2.toRiv_of_within {alloc : RaType2} (h : Within alloc.LCrb alloc.RBStart nofPrb)
    : alloc.toRiv nofPrb = srslteRaType2ToRiv alloc.LCrb alloc.RBStart nofPrb :=
  if_pos (Nat.ne_of_gt h.pos)

/-! ### Format 0 -/

namespace RaPuschHop

def InRange (nofPrb : Nat) (hop : RaPuschHop) : Prop :=
  hop ≠ .disabled → nofPrb < 50 → hop.bit1 = false

variable {hop : RaPuschHop}

theorem ofBits_eq (h : hop ≠ .disabled) : ofBits hop.bit1 hop.bit0 = hop := by
  cases hop
  case disabled => exact absurd rfl h
  all_goals rfl

theorem nUlHop_le (nofPrb : Nat) (hop : RaPuschHop) : hop.nUlHop nofPrb ≤ 2 := by
  unfold nUlHop
  split
  . decide
  . split <;> decide

theorem length_pack (nofPrb : Nat) (hop : RaPuschHop) : (hop.pack nofPrb).length = 1 + hop.nUlHop nofPrb := by
  unfold pack nUlHop
  split
  next => rfl
  next => split <;> rfl

theorem unpack_pack {nofPrb : Nat} (h : hop.InRange nofPrb) (y : List Bool)
    : unpack nofPrb (hop.pack nofPrb ++ y) = some (hop, hop.nUlHop nofPrb, y) := by
  unfold pack nUlHop
  split
  next hdisabled =>
    rw [hdisabled]
    rfl
  next henabled =>
    split
    next hlt =>
      have heq := ofBits_eq henabled
      rw [h henabled hlt] at heq
      simp [unpack, hlt, heq]
    next hge => simp [unpack, hge, ofBits_eq henabled]

end RaPuschHop

namespace RaUlDci

structure InRange (nofPrb : Nat) (data : RaUlDci) : Prop where
  within : RaType2.Within data.type2Alloc.LCrb data.type2Alloc.RBStart nofPrb
  hop : data.freqHopFl.InRange nofPrb
  mcsIdx : data.mcsIdx < 2 ^ 5
  nDmrs : data.nDmrs < 2 ^ 3

def RivFits (nofPrb : Nat) (data : RaUlDci) : Prop :=
  data.freqHopFl = .disabled ∨
    data.type2Alloc.toRiv nofPrb < 2 ^ (rivNbits nofPrb - data.freqHopFl.nUlHop nofPrb)

structure SameFields (result data : RaUlDci) : Prop where
  freqHopFl : result.freqHopFl = data.freqHopFl
  LCrb : result.type2Alloc.LCrb = data.type2Alloc.LCrb
  RBStart : result.type2Alloc.RBStart = data.type2Alloc.RBStart
  mcsIdx : result.mcsIdx = data.mcsIdx
  ndi : result.ndi = data.ndi
  nDmrs : result.nDmrs = data.nDmrs
  cqiRequest : result.cqiRequest = data.cqiRequest

variable {nofPrb : Nat} {data : RaUlDci}

theorem InRange.toRiv_lt (h : data.InRange nofPrb) (h6 : 6 ≤ nofPrb) (h110 : nofPrb ≤ 110) (hfits : data.RivFits nofPrb)
    : data.type2Alloc.toRiv nofPrb < 2 ^ (rivNbits nofPrb - data.freqHopFl.nUlHop nofPrb) := by
  cases hfits with
  | inl hdisabled =>
    have hlt := RaType2.toRiv_lt_two_pow h.within h6 h110
    rw [RaType2.toRiv_of_within h.within, hdisabled]
    exact Nat.lt_of_succ_lt hlt
  | inr hlt => exact hlt

theorem length_fields (data : RaUlDci) (h6 : 6 ≤ nofPrb) (h110 : nofPrb ≤ 110)
    : (dciFormat0Pack.fields data nofPrb).length = dciFormat0SizeofUnpadded nofPrb := by
  have hbits := five_le_rivNbits h6 h110
  have hhop := data.freqHopFl.nUlHop_le nofPrb
  unfold dciFormat0Pack.fields dciFormat0SizeofUnpadded
  simp only [length_append, length_singleton, RaPuschHop.length_pack, length_srslteBitUnpack]
  omega

theorem dciFormat0Unpack_pack (h : data.InRange nofPrb) (h6 : 6 ≤ nofPrb) (h110 : nofPrb ≤ 110)
    (hfits : data.RivFits nofPrb) (msg : DciMsg) (target : RaUlDci)
    : (dciFormat0Pack data msg nofPrb).nofBits = srslteDciFormatSizeof .format0 nofPrb 1 ∧
      ∃ result, dciFormat0Unpack (dciFormat0Pack data msg nofPrb) target nofPrb = some result ∧
        result.SameFields data := by
  have hriv := h.toRiv_lt h6 h110 hfits
  have hfrom := RaType2.fromRiv_toRiv_self h.within (by omega)
  rw [← RaType2.toRiv_of_within h.within] at hfrom
  have hlength : (dciFormat0Pack.fields data nofPrb).length ≤ srslteDciFormatSizeof .format0 nofPrb 1 := by
    rw [length_fields data h6 h110]
    exact Nat.le_max_left _ _
  have ⟨rest, hwrite⟩ := msg.exists_write_padTo hlength
  unfold dciFormat0Pack
  rw [hwrite]
  refine ⟨rfl, {
    data with
    tpcPusch := data.tpcPusch % 2 ^ 2
    type2Alloc := {
      target.type2Alloc with
      riv := data.type2Alloc.toRiv nofPrb
      LCrb := data.type2Alloc.LCrb
      RBStart := data.type2Alloc.RBStart
    }
  }, ?_, ⟨rfl, rfl, rfl, rfl, rfl, rfl, rfl⟩⟩
  simp [dciFormat0Unpack, dciFormat0Pack.fields, RaPuschHop.unpack_pack h.hop, srslteBitPack_unpack_of_lt hriv, hfrom,
    srslteBitPack_unpack_of_lt h.mcsIdx, srslteBitPack_unpack_of_lt h.nDmrs, srslteBitPack_unpack_append]

end RaUlDci

/-! ### Format 1A -/

@[simp]
theorem RaMode.ofBool_toBool (mode : RaMode) : RaMode.ofBool mode.toBool = mode := by
  cases mode <;> rfl

@[simp]
theorem RaNGap.ofBool_toBool (nGap : RaNGap) : RaNGap.ofBool nGap.toBool = nGap := by
  cases nGap <;> rfl

namespace RaType2

/--
The resource block assignments of format 1A that come back. A distributed one is packed only if it has at most 16
resource blocks in a cell with more than 50 of them. One with more than half of the resource blocks has its RIV
counted from the end, this is noticed if the comparison with `nof_vrb - RB_start` does not wrap around.
-/
structure Readable (nofPrb : Nat) (alloc : RaType2) : Prop where
  within : Within alloc.LCrb alloc.RBStart nofPrb
  withinVrb : Within alloc.LCrb alloc.RBStart (alloc.nofVrb nofPrb)
  nGap : alloc.mode = .dist → nofPrb < 50 → alloc.nGap = .ng1
  short : alloc.mode = .dist → 50 < nofPrb → alloc.LCrb ≤ 16
  fits : alloc.mode = .dist → nofPrb = 50 → alloc.toRiv nofPrb < 2 ^ (rivNbits nofPrb - 1)
  mirror : alloc.mode = .dist → alloc.LCrb - 1 ≤ nofPrb / 2 ∨
    (nofPrb ≤ alloc.RBStart + alloc.nofVrb nofPrb + 1 ∧ alloc.nofVrb nofPrb + alloc.RBStart + alloc.LCrb ≤ 2 * nofPrb)

variable {nofPrb : Nat} {alloc : RaType2}

theorem nofVrb_of_loc (hmode : alloc.mode = .loc) : alloc.nofVrb nofPrb = nofPrb := by
  unfold nofVrb
  rw [hmode]

theorem nofVrb_of_dist (hmode : alloc.mode = .dist) : alloc.nofVrb nofPrb = alloc.nVrbDl nofPrb := by
  unfold nofVrb
  rw [hmode]

theorem nVrbDl_le (alloc : RaType2) (nofPrb : Nat) : alloc.nVrbDl nofPrb ≤ 2 * nofPrb := by
  unfold nVrbDl srslteRaType2NVrbDl
  dsimp only
  split
  next => split <;> omega
  next =>
    have := Nat.div_mul_le_self nofPrb (srslteRaType2Ngap nofPrb (decide (alloc.nGap = .ng1)))
    rw [Nat.mul_assoc, Nat.mul_comm 2, ← Nat.mul_assoc]
    omega

theorem length_packRba (alloc : RaType2) (h6 : 6 ≤ nofPrb) (h110 : nofPrb ≤ 110)
    : (alloc.packRba nofPrb true).length = rivNbits nofPrb := by
  have := five_le_rivNbits h6 h110
  unfold packRba
  split
  next =>
    rw [length_append, length_singleton, length_srslteBitUnpack]
    omega
  next => exact length_srslteBitUnpack _ _

theorem toRiv_lt_of_short (h : Within alloc.LCrb alloc.RBStart nofPrb) (hshort : alloc.LCrb ≤ 16) (h50 : 50 < nofPrb)
    (h110 : nofPrb ≤ 110) : alloc.toRiv nofPrb < 2 ^ (rivNbits nofPrb - 1) := by
  have hpow : ∀ n < 111, 50 < n → 16 * n ≤ 2 ^ (rivNbits n - 1) := by decide +kernel
  have hpow := hpow nofPrb (by omega) h50
  have hpos := h.pos
  have hle := h.le
  rw [toRiv_of_within h, toRiv_eq h (by omega), rivValue, if_pos (by omega)]
  have hrow : nofPrb * (alloc.LCrb - 1) ≤ nofPrb * 15 := Nat.mul_le_mul_left nofPrb (by omega)
  omega

namespace Readable

section

variable (h : alloc.Readable nofPrb)

include h

theorem toRiv_lt (h6 : 6 ≤ nofPrb) (h110 : nofPrb ≤ 110)
    : alloc.toRiv nofPrb < 2 ^ (rivNbits nofPrb - if alloc.gapInRba nofPrb true then 1 else 0) := by
  split
  next hgap =>
    have ⟨_, hdist, h50⟩ := of_decide_eq_true hgap
    cases Nat.eq_or_lt_of_le h50 with
    | inl heq => exact h.fits hdist heq.symm
    | inr hlt => exact toRiv_lt_of_short h.within (h.short hdist hlt) hlt h110
  next =>
    rw [toRiv_of_within h.within]
    exact Nat.lt_of_succ_lt (toRiv_lt_two_pow h.within h6 h110)

theorem fromRiv_eq (h110 : nofPrb ≤ 110)
    : srslteRaType2FromRiv (alloc.toRiv nofPrb) nofPrb (alloc.nofVrb nofPrb) = (alloc.LCrb, alloc.RBStart) := by
  have hvrb := alloc.nVrbDl_le nofPrb
  rw [toRiv_of_within h.within]
  cases hmode : alloc.mode with
  | loc =>
    rw [nofVrb_of_loc hmode]
    exact fromRiv_toRiv_self h.within (by omega)
  | dist =>
    have hlt : alloc.nofVrb nofPrb < 2 ^ 15 := by
      rw [nofVrb_of_dist hmode]
      omega
    exact fromRiv_toRiv h.within (by omega) hlt h.withinVrb.le (h.mirror hmode)

theorem nofVrb_ng1 (hgap : ¬ alloc.gapInRba nofPrb true = true)
    : { alloc with nGap := .ng1 }.nofVrb nofPrb = alloc.nofVrb nofPrb ∧ (alloc.mode = .dist → .ng1 = alloc.nGap) := by
  have h50 : alloc.mode = .dist → nofPrb < 50 := by
    intro hmode
    simpa [gapInRba, hmode] using hgap
  unfold nofVrb
  cases hmode : alloc.mode with
  | loc => exact ⟨rfl, nofun⟩
  | dist =>
    have heq := h.nGap hmode (h50 hmode)
    unfold nVrbDl
    rw [heq]
    exact ⟨rfl, fun _ => rfl⟩

theorem unpackRba_packRba (h6 : 6 ≤ nofPrb) (h110 : nofPrb ≤ 110) (target : RaType2)
    (y : List Bool)
    : ∃ nGap, { target with mode := alloc.mode }.unpackRba nofPrb true (alloc.packRba nofPrb true ++ y)
        = some ({
            target with
            mode := alloc.mode
            nGap
            riv := alloc.toRiv nofPrb
            LCrb := alloc.LCrb
            RBStart := alloc.RBStart
          }, y) ∧
        (alloc.mode = .dist → nGap = alloc.nGap) := by
  have hriv := h.toRiv_lt h6 h110
  have hfrom := h.fromRiv_eq h110
  have hgap : { target with mode := alloc.mode }.gapInRba nofPrb true = alloc.gapInRba nofPrb true := rfl
  -- the number of virtual resource blocks depends on the mode and the gap only
  have hvrb : ∀ nGap, { target with mode := alloc.mode, nGap }.nofVrb nofPrb = { alloc with nGap }.nofVrb nofPrb :=
    fun _ => rfl
  unfold unpackRba packRba
  rw [hgap]
  split at hriv
  next h50 =>
    refine ⟨alloc.nGap, ?_, fun _ => rfl⟩
    simp [h50, srslteBitPack_unpack_of_lt hriv, hvrb, hfrom]
  next h50 =>
    have ⟨hsame, hnGap⟩ := h.nofVrb_ng1 h50
    refine ⟨.ng1, ?_, hnGap⟩
    rw [Nat.sub_zero] at hriv
    simp [h50, srslteBitPack_unpack_of_lt hriv, hvrb, hsame, hfrom]

end

end Readable

end RaType2

theorem RaDlDci.srslteBitPack_packRv {rvIdx : Int} (h0 : 0 ≤ rvIdx) (h4 : rvIdx < 4) (y : List Bool)
    : srslteBitPack (RaDlDci.packRv rvIdx ++ y) 2 = some (rvIdx.toNat, y) := by
  unfold RaDlDci.packRv
  rw [Int.emod_eq_of_lt h0 (by omega)]
  exact srslteBitPack_unpack_of_lt (by omega) y

namespace RaDlDci

structure InRange1A (nofPrb : Nat) (data : RaDlDci) : Prop where
  allocType : data.allocType = .type2
  alloc : RaType2.Within data.type2Alloc.LCrb data.type2Alloc.RBStart (data.type2Alloc.nofVrb nofPrb)
  mcsIdx : data.mcsIdx < 2 ^ 5
  harqProcess : data.harqProcess < 2 ^ harqPidLen
  rvIdx_nonneg : 0 ≤ data.rvIdx
  rvIdx_lt : data.rvIdx < 4

structure SameFields1A (result data : RaDlDci) : Prop where
  isRaOrder : result.isRaOrder = false
  allocType : result.allocType = .type2
  mode : result.type2Alloc.mode = data.type2Alloc.mode
  nGap : data.type2Alloc.mode = .dist → result.type2Alloc.nGap = data.type2Alloc.nGap
  LCrb : result.type2Alloc.LCrb = data.type2Alloc.LCrb
  RBStart : result.type2Alloc.RBStart = data.type2Alloc.RBStart
  mcsIdx : result.mcsIdx = data.mcsIdx
  harqProcess : result.harqProcess = data.harqProcess
  rvIdx : result.rvIdx = data.rvIdx
  tbEn0 : result.tbEn0 = true
  tbEn1 : result.tbEn1 = false

variable {nofPrb : Nat} {data : RaDlDci}

theorem exists_fields1A (data : RaDlDci) (msg : DciMsg) (nofPrb : Nat)
    : ∃ bit, dciFormat1AsPack.fields data msg nofPrb true
        = [true, data.type2Alloc.mode.toBool] ++ data.type2Alloc.packRba nofPrb true
            ++ srslteBitUnpack data.mcsIdx 5 ++ srslteBitUnpack data.harqProcess harqPidLen
            ++ [bit] ++ packRv data.rvIdx ++ [false, false] := by
  unfold dciFormat1AsPack.fields
  dsimp only
  simp only [↓reduceIte]
  split
  next => exact ⟨_, rfl⟩
  next => exact ⟨_, rfl⟩

theorem length_fields1A (data : RaDlDci) (msg : DciMsg) (h6 : 6 ≤ nofPrb) (h110 : nofPrb ≤ 110)
    : (dciFormat1AsPack.fields data msg nofPrb true).length ≤ srslteDciFormatSizeof .format1A nofPrb 1 := by
  have ⟨bit, hfields⟩ := exists_fields1A data msg nofPrb
  rw [hfields]
  simp only [length_append, RaType2.length_packRba _ h6 h110, length_srslteBitUnpack, packRv, length_cons,
    length_nil, srslteDciFormatSizeof, dciFormat1ASizeof]
  split <;> omega

theorem not_isRaOrder {alloc : RaType2} (h : alloc.Readable nofPrb) (h6 : 6 ≤ nofPrb) (h110 : nofPrb ≤ 110)
    (y : List Bool) (nofBits : Nat)
    : SrsLte.isRaOrder (alloc.mode.toBool :: (alloc.packRba nofPrb true ++ y)) nofBits nofPrb = false := by
  unfold SrsLte.isRaOrder
  apply decide_eq_false
  intro ⟨hmode, hones, _⟩
  have hloc : alloc.mode = .loc := by
    cases hmode' : alloc.mode with
    | loc => rfl
    | dist =>
      rw [hmode'] at hmode
      cases hmode
  have hlength := alloc.length_packRba h6 h110
  rw [drop_succ_cons, drop_zero, take_left' hlength] at hones
  have hriv := RaType2.toRiv_lt_two_pow h.within h6 h110
  rw [← RaType2.toRiv_of_within h.within] at hriv
  have hgap : ¬ alloc.gapInRba nofPrb true = true := by simp [RaType2.gapInRba, hloc]
  have hvalue := congrArg Bits.toNat hones
  rw [RaType2.packRba, if_neg hgap, srslteBitUnpack, Bits.toNat_ofNat, Bits.toNat_replicate_true,
    Nat.mod_eq_of_lt (by omega)] at hvalue
  omega

theorem dciFormat1AsUnpack_pack (h : data.InRange1A nofPrb) (halloc : data.type2Alloc.Readable nofPrb)
    (h6 : 6 ≤ nofPrb) (h110 : nofPrb ≤ 110) (msg : DciMsg) (target : RaDlDci)
    : ∃ data' msg', dciFormat1AsPack data msg nofPrb true = some (data', msg') ∧
        msg'.nofBits = srslteDciFormatSizeof .format1A nofPrb 1 ∧
        msg'.format = msg.format ∧
        ∃ result, dciFormat1AsUnpack msg' target nofPrb true = some result ∧ result.SameFields1A data := by
  have hmax : ¬ data.type2Alloc.LCrb > data.type2Alloc.maxLCrb nofPrb true := by
    have hvrb := h.alloc.le
    unfold RaType2.maxLCrb
    cases hmode : data.type2Alloc.mode with
    | loc =>
      rw [RaType2.nofVrb_of_loc hmode] at hvrb
      dsimp only
      omega
    | dist =>
      have hshort := halloc.short hmode
      rw [RaType2.nofVrb_of_dist hmode] at hvrb
      dsimp only
      split
      next h50 =>
        have := hshort h50.2
        omega
      next => omega
  have ⟨rest, hwrite⟩ := msg.exists_write_padTo (length_fields1A data msg h6 h110)
  have ⟨bit, hfields⟩ := exists_fields1A data msg nofPrb
  refine ⟨{ data with dciIs1a := true },
    { msg with
      data := dciFormat1AsPack.fields data msg nofPrb true ++ rest
      nofBits := srslteDciFormatSizeof .format1A nofPrb 1 }, ?_, rfl, rfl, ?_⟩
  . unfold dciFormat1AsPack
    rw [if_neg (not_not_intro h.allocType), if_neg hmax, hwrite]
  . have ⟨nGap, hrba, hnGap⟩ := halloc.unpackRba_packRba h6 h110 target.type2Alloc
      (srslteBitUnpack data.mcsIdx 5 ++ (srslteBitUnpack data.harqProcess harqPidLen
        ++ (bit :: (packRv data.rvIdx ++ (false :: false :: rest)))))
    have horder := not_isRaOrder halloc h6 h110
    refine ⟨{
      target with
      dciIs1a := true
      isRaOrder := false
      allocType := .type2
      type2Alloc := {
        target.type2Alloc with
        mode := data.type2Alloc.mode
        nGap
        riv := data.type2Alloc.toRiv nofPrb
        LCrb := data.type2Alloc.LCrb
        RBStart := data.type2Alloc.RBStart
      }
      ndi := bit
      mcsIdx := data.mcsIdx
      harqProcess := data.harqProcess
      rvIdx := data.rvIdx.toNat
      tbEn0 := true
      tbEn1 := false
    }, ?_, ⟨rfl, rfl, rfl, hnGap, rfl, rfl, rfl, rfl, Int.toNat_of_nonneg h.rvIdx_nonneg, rfl, rfl⟩⟩
    unfold dciFormat1AsUnpack
    simp [hfields, horder, hrba, srslteBitPack_unpack_of_lt h.mcsIdx, srslteBitPack_unpack_of_lt h.harqProcess,
      srslteBitPack_packRv h.rvIdx_nonneg h.rvIdx_lt]

end RaDlDci

theorem unpack_pack_format0_format1A (nofPrb : Nat) (h6 : 6 ≤ nofPrb) (h110 : nofPrb ≤ 110) (msg : DciMsg)
    : (∀ data target : RaUlDci, data.InRange nofPrb → data.RivFits nofPrb →
        (srslteDciMsgPackPusch data msg nofPrb).nofBits = srslteDciFormatSizeof .format0 nofPrb 1 ∧
        ∃ result, srslteDciMsgUnpackPusch (srslteDciMsgPackPusch data msg nofPrb) target nofPrb = some result ∧
          result.SameFields data) ∧
      (∀ (data target : RaDlDci) (nofPorts : Nat), data.InRange1A nofPrb → data.type2Alloc.Readable nofPrb →
        ∃ data' msg', srslteDciMsgPackPdsch data .format1A msg nofPrb nofPorts true = some (data', msg') ∧
          msg'.nofBits = srslteDciFormatSizeof .format1A nofPrb nofPorts ∧
          ∃ result, srslteDciMsgUnpackPdsch msg' target nofPrb nofPorts true = some result ∧
            result.SameFields1A data) := by
  constructor
  . intro data target hrange hfits
    exact RaUlDci.dciFormat0Unpack_pack hrange h6 h110 hfits msg target
  . intro data target nofPorts hrange halloc
    have ⟨data', msg', hpack, hbits, hformat, result, hunpack, hsame⟩ :=
      RaDlDci.dciFormat1AsUnpack_pack hrange halloc h6 h110 { msg with format := .format1A } target
    refine ⟨data', msg', hpack, hbits, result, ?_, hsame⟩
    unfold srslteDciMsgUnpackPdsch
    rw [hformat]
    exact hunpack

def ulGrantOfFour : RaUlDci where
  freqHopFl := .disabled
  type2Alloc := { LCrb := 4, RBStart := 2 }
  mcsIdx := 10
  nDmrs := 3
  ndi := true
  cqiRequest := true
  tpcPusch := 1

def dlGrant1A (mode : RaMode) (nGap : RaNGap) (LCrb RBStart : Nat) : RaDlDci where
  allocType := .type2
  type2Alloc := { LCrb, RBStart, mode, nGap }
  mcsIdx := 10
  harqProcess := 3
  rvIdx := 2
  ndi := true

theorem unpack_pack_format0_format1A_25Prb
    : (∃ result, srslteDciMsgUnpackPusch (srslteDciMsgPackPusch ulGrantOfFour ⟨[], 0, .format0⟩ 25) ulGrantOfFour 25
        = some result ∧ result.SameFields ulGrantOfFour) ∧
      (∃ data' msg',
        srslteDciMsgPackPdsch (dlGrant1A .dist .ng1 4 2) .format1A ⟨[], 0, .format0⟩ 25 1 true = some (data', msg') ∧
        ∃ result, srslteDciMsgUnpackPdsch msg' {} 25 1 true = some result ∧
          result.SameFields1A (dlGrant1A .dist .ng1 4 2)) := by
  have h := unpack_pack_format0_format1A 25 (by decide) (by decide) ⟨[], 0, .format0⟩
  constructor
  . have hrange : ulGrantOfFour.InRange 25 := ⟨⟨by decide, by decide⟩, nofun, by decide, by decide⟩
    exact (h.1 ulGrantOfFour ulGrantOfFour hrange (Or.inl rfl)).2
  . have hrange : (dlGrant1A .dist .ng1 4 2).InRange1A 25 :=
      ⟨rfl, ⟨by decide, by decide⟩, by decide, by decide, by decide, by decide⟩
    have halloc : (dlGrant1A .dist .ng1 4 2).type2Alloc.Readable 25 :=
      ⟨⟨by decide, by decide⟩, ⟨by decide, by decide⟩, fun _ _ => rfl, nofun, nofun, fun _ => Or.inl (by decide)⟩
    have ⟨data', msg', hpack, _, hunpack⟩ := h.2 _ {} 1 hrange halloc
    exact ⟨data', msg', hpack, hunpack⟩

def roundTrip1A (data : RaDlDci) (nofPrb : Nat) : Option RaDlDci := do
  let (_, msg) ← srslteDciMsgPackPdsch data .format1A ⟨List.replicate 128 false, 0, .format1A⟩ nofPrb 1 true
  srslteDciMsgUnpackPdsch msg {} nofPrb 1 true

def roundTrip0 (data : RaUlDci) (nofPrb : Nat) : Option RaUlDci :=
  srslteDciMsgUnpackPusch (srslteDciMsgPackPusch data ⟨List.replicate 128 false, 0, .format0⟩ nofPrb) data nofPrb

theorem inRange1A_dlGrant1A {mode : RaMode} {nGap : RaNGap} {LCrb : Nat}
    (h : RaType2.Within LCrb RBStart ((dlGrant1A mode nGap LCrb RBStart).type2Alloc.nofVrb nofPrb))
    : (dlGrant1A mode nGap LCrb RBStart).InRange1A nofPrb :=
  ⟨rfl, h, show 10 < 2 ^ 5 by decide, show 3 < 2 ^ harqPidLen by decide, show (0 : Int) ≤ 2 by decide,
    show (2 : Int) < 4 by decide⟩

theorem not_unpack_pack_format0_format1A
    : ((dlGrant1A .dist .ng1 17 0).InRange1A 75 ∧ roundTrip1A (dlGrant1A .dist .ng1 17 0) 75 = none) ∧
      (∃ data : RaUlDci, data.InRange 25 ∧ data.type2Alloc.LCrb = 11 ∧
        (roundTrip0 data 25).map (·.type2Alloc.LCrb) = some 1) ∧
      ((dlGrant1A .loc .ng1 4 2).InRange1A 25 ∧ (dlGrant1A .loc .ng1 4 2).ndi = true ∧
        (roundTrip1A (dlGrant1A .loc .ng1 4 2) 25).map (·.ndi) = some false) ∧
      ((dlGrant1A .dist .ng1 8 0).InRange1A 12 ∧
        (roundTrip1A (dlGrant1A .dist .ng1 8 0) 12).map (·.type2Alloc.LCrb) = some 6) ∧
      ((dlGrant1A .dist .ng1 21 24).InRange1A 50 ∧
        (roundTrip1A (dlGrant1A .dist .ng1 21 24) 50).map (·.type2Alloc.LCrb) = some 1) ∧
      ((dlGrant1A .dist .ng2 1 70).InRange1A 60 ∧
        (roundTrip1A (dlGrant1A .dist .ng2 1 70) 60).map (·.type2Alloc.LCrb) = some 2) ∧
      ((dlGrant1A .dist .ng2 1 0).InRange1A 25 ∧
        (roundTrip1A (dlGrant1A .dist .ng2 1 0) 25).map (·.type2Alloc.nGap) = some .ng1) := by
  refine ⟨⟨inRange1A_dlGrant1A ⟨by decide, by decide⟩, by decide +kernel⟩, ?_,
    ⟨inRange1A_dlGrant1A ⟨by decide, by decide⟩, rfl, by decide +kernel⟩,
    ⟨inRange1A_dlGrant1A ⟨by decide, by decide⟩, by decide +kernel⟩,
    ⟨inRange1A_dlGrant1A ⟨by decide, by decide⟩, by decide +kernel⟩,
    ⟨inRange1A_dlGrant1A ⟨by decide, by decide⟩, by decide +kernel⟩,
    ⟨inRange1A_dlGrant1A ⟨by decide, by decide⟩, by decide +kernel⟩⟩
  refine ⟨{ ulGrantOfFour with freqHopFl := .quart, type2Alloc := { LCrb := 11, RBStart := 10 } }, ?_, rfl,
    by decide +kernel⟩
  exact ⟨⟨by decide, by decide⟩, fun _ _ => rfl, by decide, by decide⟩

end SrsLte
