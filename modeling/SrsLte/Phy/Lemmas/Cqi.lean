import SrsLte.Phy.Impl.Cqi
import Mathlib.Data.Nat.Basic

/-!
This module contains the round trip of CQI reports and the reports for which it fails.
-/

namespace SrsLte

open Option

def reportField (value width : Nat) : List (Nat × Nat) :=
  if width = 0 then [] else [(value, width)]

def Fits (fields : List (Nat × Nat)) : Prop :=
  ∀ field ∈ fields, field.1 < 2 ^ field.2

@[simp]
theorem fits_append (fields fields' : List (Nat × Nat)) : Fits (fields ++ fields') ↔ Fits fields ∧ Fits fields' :=
  List.forall_mem_append

@[simp]
theorem fits_reportField (value width : Nat) : Fits (reportField value width) ↔ (width ≠ 0 → value < 2 ^ width) := by
  unfold Fits reportField
  split <;> simp_all

@[simp]
theorem reportField_zero (value : Nat) : reportField value 0 = [] := rfl

theorem reportField_mod {value width : Nat} (h : width ≠ 0 → value < 2 ^ width)
    : reportField (value % 2 ^ width) width = reportField value width := by
  unfold reportField
  split
  next => rfl
  next hwidth => rw [Nat.mod_eq_of_lt (h hwidth)]

def pmiWidth (fourAntennaPorts rankIsNotOne : Bool) : Nat :=
  if fourAntennaPorts then 4 else if rankIsNotOne then 1 else 2

theorem pmiWidth_bounds (fourAntennaPorts rankIsNotOne : Bool)
    : pmiWidth fourAntennaPorts rankIsNotOne ≠ 0 ∧ pmiWidth fourAntennaPorts rankIsNotOne ≤ 8 := by
  revert fourAntennaPorts rankIsNotOne
  decide

namespace CqiFormat2Wideband

def fields (msg : CqiFormat2Wideband) : List (Nat × Nat) :=
  reportField msg.widebandCqi 4
    ++ reportField msg.spatialDiffCqi (if msg.pmiPresent && msg.rankIsNotOne then 3 else 0)
    ++ reportField msg.pmi (if msg.pmiPresent then pmiWidth msg.fourAntennaPorts msg.rankIsNotOne else 0)

theorem length_pack (msg : CqiFormat2Wideband)
    : (srslteCqiFormat2WidebandPack msg).1.length = srslteCqiSize (.wideband msg) := by
  unfold srslteCqiFormat2WidebandPack srslteCqiSize
  cases hp : msg.pmiPresent <;> cases hf : msg.fourAntennaPorts <;> cases hr : msg.rankIsNotOne
  all_goals simp [hp, hf, hr]

theorem size_eq_iff {msg : CqiFormat2Wideband} : srslteCqiSize (.wideband msg) = 4 ↔ msg.pmiPresent = false := by
  unfold srslteCqiSize
  cases hp : msg.pmiPresent <;> cases hf : msg.fourAntennaPorts <;> cases hr : msg.rankIsNotOne
  all_goals simp [hp, hf, hr]

theorem unpack_pack (msg target : CqiFormat2Wideband) (rest : List Bool) (hfits : Fits msg.fields)
    (hpresent : target.pmiPresent = msg.pmiPresent) (hports : target.fourAntennaPorts = msg.fourAntennaPorts)
    (hrank : target.rankIsNotOne = msg.rankIsNotOne)
    : ∃ result,
        srslteCqiFormat2WidebandUnpack ((srslteCqiFormat2WidebandPack msg).1 ++ rest) target = some (4, result, rest) ∧
        result.fields = msg.fields := by
  simp only [fields, fits_append, fits_reportField] at hfits
  have ⟨⟨hcqi, hdiff⟩, hpmi⟩ := hfits
  have hcqi := hcqi (by decide)
  refine ⟨{
    target with
    widebandCqi := msg.widebandCqi
    spatialDiffCqi := if msg.pmiPresent && msg.rankIsNotOne then msg.spatialDiffCqi else target.spatialDiffCqi
    pmi := if msg.pmiPresent then msg.pmi else target.pmi
  }, ?_, ?_⟩
  . unfold srslteCqiFormat2WidebandUnpack srslteCqiFormat2WidebandPack
    cases hp : msg.pmiPresent <;> cases hf : msg.fourAntennaPorts <;> cases hr : msg.rankIsNotOne
    all_goals
      simp [hp, hf, hr, pmiWidth] at hdiff hpmi
      simp (disch := omega) [hpresent, hports, hrank, hp, hf, hr, srslteBitPack_unpack_of_lt, Nat.mod_eq_of_lt,
        srslteCqiFormat2WidebandUnpack.readPmi, srslteCqiFormat2WidebandUnpack.readSpatialDiffCqi]
  . unfold fields
    cases hp : msg.pmiPresent <;> cases hr : msg.rankIsNotOne
    all_goals simp [hpresent, hports, hrank, hp, hr, reportField]

end CqiFormat2Wideband

namespace CqiFormat2Subband

def fields (msg : CqiFormat2Subband) : List (Nat × Nat) :=
  reportField msg.subbandCqi 4 ++ reportField msg.subbandLabel (if msg.subbandLabel2Bits then 2 else 1)

end CqiFormat2Subband

namespace CqiUeSubband

def fields (msg : CqiUeSubband) : List (Nat × Nat) :=
  reportField msg.widebandCqi 4 ++ reportField msg.subbandDiffCqi 2 ++ reportField msg.positionSubband msg.L

theorem unpack_pack (msg target : CqiUeSubband) (rest : List Bool) (hcqi : msg.widebandCqi < 2 ^ 4)
    (hL : target.L = msg.L)
    : srslteCqiUeSubbandUnpack ((srslteCqiUeSubbandPack msg).1 ++ rest) target
        = some (4 + 2 + msg.L, {
            target with
            widebandCqi := msg.widebandCqi
            subbandDiffCqi := msg.subbandDiffCqi % 2 ^ msg.L % 2 ^ 8
          }, rest) := by
  unfold srslteCqiUeSubbandUnpack srslteCqiUeSubbandPack
  simp (disch := omega) [hL, srslteBitPack_unpack_of_lt, srslteBitPack_unpack_append, Nat.mod_eq_of_lt]

end CqiUeSubband

namespace CqiHlSubband

def fields (msg : CqiHlSubband) : List (Nat × Nat) :=
  reportField msg.widebandCqiCw0 4
    ++ reportField msg.subbandDiffCqiCw0 (2 * msg.N)
    ++ reportField msg.widebandCqiCw1 (if msg.rankIsNotOne then 4 else 0)
    ++ reportField msg.subbandDiffCqiCw1 (if msg.rankIsNotOne then 2 * msg.N else 0)
    ++ reportField msg.pmi (if msg.pmiPresent then pmiWidth msg.fourAntennaPorts msg.rankIsNotOne else 0)

variable (msg : CqiHlSubband) {target : CqiHlSubband}

theorem length_pack
    : (srslteCqiHlSubbandPack msg).1.length = (srslteCqiHlSubbandPack msg).2 := by
  unfold srslteCqiHlSubbandPack
  cases msg.pmiPresent <;> cases msg.fourAntennaPorts <;> cases msg.rankIsNotOne
  all_goals simp <;> omega

theorem size_eq_iff
    : (srslteCqiHlSubbandPack msg).2 = srslteCqiSize (.subbandHl msg)
        ↔
      (msg.rankIsNotOne = true → msg.pmiPresent = true) := by
  unfold srslteCqiHlSubbandPack srslteCqiSize
  cases hp : msg.pmiPresent <;> cases hf : msg.fourAntennaPorts <;> cases hr : msg.rankIsNotOne
  all_goals simp [hp, hf, hr]

def codeword1Bits (msg : CqiHlSubband) : List Bool :=
  if msg.rankIsNotOne then
    srslteBitUnpack msg.widebandCqiCw1 4 ++ srslteBitUnpack msg.subbandDiffCqiCw1 (2 * msg.N)
  else
    []

def pmiBits (msg : CqiHlSubband) : List Bool :=
  if msg.pmiPresent then srslteBitUnpack msg.pmi (pmiWidth msg.fourAntennaPorts msg.rankIsNotOne) else []

theorem pack_eq
    : (srslteCqiHlSubbandPack msg).1
        =
      srslteBitUnpack msg.widebandCqiCw0 4 ++ (srslteBitUnpack msg.subbandDiffCqiCw0 (2 * msg.N) ++
        (msg.codeword1Bits ++ msg.pmiBits)) := by
  unfold srslteCqiHlSubbandPack codeword1Bits pmiBits pmiWidth
  cases msg.pmiPresent <;> cases msg.fourAntennaPorts <;> cases msg.rankIsNotOne
  all_goals simp

theorem length_codeword1Bits
    : msg.codeword1Bits.length = if msg.rankIsNotOne then 4 + 2 * msg.N else 0 := by
  unfold codeword1Bits
  split <;> simp

theorem length_pmiBits
    : msg.pmiBits.length = if msg.pmiPresent then pmiWidth msg.fourAntennaPorts msg.rankIsNotOne else 0 := by
  unfold pmiBits
  split <;> simp

theorem readCodeword1_eq {msg : CqiHlSubband} (hcqi : msg.rankIsNotOne = true → msg.widebandCqiCw1 < 2 ^ 4)
    (hN : target.N = msg.N) (hrank : target.rankIsNotOne = msg.rankIsNotOne) (bitCount : Nat) (rest : List Bool)
    : srslteCqiHlSubbandUnpack.readCodeword1 bitCount target (msg.codeword1Bits ++ rest)
        = some (bitCount + msg.codeword1Bits.length, {
            target with
            widebandCqiCw1 := if msg.rankIsNotOne then msg.widebandCqiCw1 else target.widebandCqiCw1
            subbandDiffCqiCw1 :=
              if msg.rankIsNotOne then msg.subbandDiffCqiCw1 % 2 ^ (2 * msg.N) else target.subbandDiffCqiCw1
          }, rest) := by
  rw [length_codeword1Bits]
  unfold srslteCqiHlSubbandUnpack.readCodeword1 codeword1Bits
  cases target
  subst hN hrank
  cases hr : msg.rankIsNotOne with
  | false => rfl
  | true =>
    have hcqi := hcqi hr
    simp only [↓reduceIte, List.append_assoc, srslteBitPack_unpack_of_lt hcqi, srslteBitPack_unpack_append,
      bind_eq_bind, bind_some]
    rw [Nat.mod_eq_of_lt (Nat.lt_trans hcqi (by decide))]
    rfl

theorem readPmi_eq {msg : CqiHlSubband}
    (hpmi : msg.pmiPresent = true → msg.pmi < 2 ^ pmiWidth msg.fourAntennaPorts msg.rankIsNotOne)
    (hpresent : target.pmiPresent = msg.pmiPresent) (hports : target.fourAntennaPorts = msg.fourAntennaPorts)
    (hrank : target.rankIsNotOne = msg.rankIsNotOne) (bitCount : Nat) (rest : List Bool)
    : srslteCqiHlSubbandUnpack.readPmi bitCount target (msg.pmiBits ++ rest)
        = some (bitCount + msg.pmiBits.length,
            { target with pmi := if msg.pmiPresent then msg.pmi else target.pmi }, rest) := by
  rw [length_pmiBits]
  unfold srslteCqiHlSubbandUnpack.readPmi pmiBits
  cases target
  subst hpresent hports hrank
  cases hp : msg.pmiPresent with
  | false => rfl
  | true =>
    have hpmi := hpmi hp
    have hbyte : msg.pmi % 2 ^ 8 = msg.pmi := by
      apply Nat.mod_eq_of_lt
      exact Nat.lt_of_lt_of_le hpmi (Nat.pow_le_pow_right (by decide) (pmiWidth_bounds _ _).2)
    -- each width has a branch of its own
    have hread := srslteBitPack_unpack_of_lt hpmi rest
    unfold pmiWidth at hread ⊢
    cases hf : msg.fourAntennaPorts <;> cases hr : msg.rankIsNotOne
    all_goals
      rw [hf, hr] at hread
      simp only [Bool.false_eq_true, ↓reduceIte] at hread ⊢
      rw [hread, bind_eq_bind, bind_some, hbyte]
      rfl

theorem unpack_pack (target : CqiHlSubband) (rest : List Bool) (hfits : Fits msg.fields) (hN : target.N = msg.N)
    (hpresent : target.pmiPresent = msg.pmiPresent) (hports : target.fourAntennaPorts = msg.fourAntennaPorts)
    (hrank : target.rankIsNotOne = msg.rankIsNotOne)
    : ∃ result,
        srslteCqiHlSubbandUnpack ((srslteCqiHlSubbandPack msg).1 ++ rest) target
          = some ((srslteCqiHlSubbandPack msg).2, result, rest) ∧
        result.fields = msg.fields := by
  simp only [fields, fits_append, fits_reportField] at hfits
  have ⟨⟨⟨⟨hcqi0, hdiff0⟩, hcqi1⟩, hdiff1⟩, hpmi⟩ := hfits
  have hcqi0 := hcqi0 (by decide)
  have hcqi1 : msg.rankIsNotOne = true → msg.widebandCqiCw1 < 2 ^ 4 := by
    intro hr
    simpa [hr] using hcqi1
  have hpmi : msg.pmiPresent = true → msg.pmi < 2 ^ pmiWidth msg.fourAntennaPorts msg.rankIsNotOne := by
    intro hp
    rw [hp, if_pos rfl] at hpmi
    exact hpmi (pmiWidth_bounds _ _).1
  refine ⟨{
    target with
    widebandCqiCw0 := msg.widebandCqiCw0
    subbandDiffCqiCw0 := msg.subbandDiffCqiCw0 % 2 ^ (2 * msg.N)
    widebandCqiCw1 := if msg.rankIsNotOne then msg.widebandCqiCw1 else target.widebandCqiCw1
    subbandDiffCqiCw1 :=
      if msg.rankIsNotOne then msg.subbandDiffCqiCw1 % 2 ^ (2 * msg.N) else target.subbandDiffCqiCw1
    pmi := if msg.pmiPresent then msg.pmi else target.pmi
  }, ?_, ?_⟩
  . unfold srslteCqiHlSubbandUnpack
    rw [← length_pack, pack_eq]
    simp only [List.append_assoc, List.length_append, length_srslteBitUnpack, srslteBitPack_unpack_of_lt hcqi0,
      bind_eq_bind, bind_some]
    rw [hN, srslteBitPack_unpack_append, bind_some, Nat.mod_eq_of_lt (Nat.lt_trans hcqi0 (by decide)),
      readCodeword1_eq hcqi1, bind_some, readPmi_eq hpmi, Nat.add_assoc, Nat.add_assoc]
    . exact hpresent
    . exact hports
    . exact hrank
    . rfl
    . exact hrank
  . unfold fields
    dsimp only
    rw [hN, hpresent, hports, hrank, reportField_mod hdiff0]
    cases hr : msg.rankIsNotOne with
    | false => cases hp : msg.pmiPresent <;> simp
    | true =>
      rw [hr, if_pos rfl] at hdiff1
      rw [if_pos rfl, if_pos rfl, if_pos rfl, if_pos rfl, reportField_mod hdiff1]
      cases hp : msg.pmiPresent <;> simp

end CqiHlSubband

namespace CqiValue

def fields : CqiValue → List (Nat × Nat)
  | .wideband msg => msg.fields
  | .subband msg => msg.fields
  | .subbandUe msg => msg.fields
  | .subbandHl msg => msg.fields

structure InRange (value : CqiValue) : Prop where
  fits : Fits value.fields
  subbands : ∀ msg, value = .subbandHl msg → 2 * msg.N ≤ 32

def SameConfig : CqiValue → CqiValue → Prop
  | .wideband msg, .wideband msg' =>
    msg.pmiPresent = msg'.pmiPresent ∧ msg.fourAntennaPorts = msg'.fourAntennaPorts ∧
      msg.rankIsNotOne = msg'.rankIsNotOne
  | .subband msg, .subband msg' => msg.subbandLabel2Bits = msg'.subbandLabel2Bits
  | .subbandUe msg, .subbandUe msg' => msg.L = msg'.L
  | .subbandHl msg, .subbandHl msg' =>
    msg.N = msg'.N ∧ msg.pmiPresent = msg'.pmiPresent ∧ msg.fourAntennaPorts = msg'.fourAntennaPorts ∧
      msg.rankIsNotOne = msg'.rankIsNotOne
  | _, _ => False

/--
Packing writes `srslte_cqi_size` bits and returns this number, unpacking into a value of the same configuration
consumes as many, returns the same number and gives back the fields.
-/
structure RoundTrips (value : CqiValue) : Prop where
  written : (srslteCqiValuePack value).1.length = srslteCqiSize value
  returned : (srslteCqiValuePack value).2 = srslteCqiSize value
  read : ∀ target rest, target.SameConfig value →
    ∃ result, srslteCqiValueUnpack ((srslteCqiValuePack value).1 ++ rest) target
        = some (srslteCqiSize value, result, rest) ∧
      result.fields = value.fields

def Consistent : CqiValue → Prop
  | .wideband msg => msg.pmiPresent = false
  | .subband _ => False
  | .subbandUe msg => msg.L = 0 ∧ msg.subbandDiffCqi = 0
  | .subbandHl msg => msg.rankIsNotOne = true → msg.pmiPresent = true

theorem roundTrips_wideband_iff {msg : CqiFormat2Wideband} (hfits : Fits msg.fields)
    : RoundTrips (.wideband msg) ↔ msg.pmiPresent = false := by
  have hunpack := fun target rest => msg.unpack_pack target rest hfits
  have hpack : (srslteCqiFormat2WidebandPack msg).2 = (srslteCqiFormat2WidebandPack msg).1.length := rfl
  have hsize := CqiFormat2Wideband.length_pack msg
  constructor
  . intro h
    have ⟨_, hread, _⟩ := h.read (.wideband msg) [] ⟨rfl, rfl, rfl⟩
    have ⟨_, hread', _⟩ := hunpack msg [] rfl rfl rfl
    simp only [srslteCqiValueUnpack, srslteCqiValuePack, hread', map_some, Option.some.injEq, Prod.mk.injEq]
      at hread
    rw [← CqiFormat2Wideband.size_eq_iff]
    exact hread.1.symm
  . intro hpresent
    refine ⟨hsize, hpack.trans hsize, ?_⟩
    intro target rest hconfig
    cases target with
    | wideband target =>
      have ⟨result, hread, hfields⟩ := hunpack target rest hconfig.1 hconfig.2.1 hconfig.2.2
      rw [CqiFormat2Wideband.size_eq_iff.mpr hpresent]
      refine ⟨.wideband result, ?_, hfields⟩
      simp only [srslteCqiValueUnpack, srslteCqiValuePack, hread, map_some]
    | _ => cases hconfig

theorem not_roundTrips_subband (msg : CqiFormat2Subband) : ¬ RoundTrips (.subband msg) := by
  intro h
  have hwritten := h.written
  cases hlabel : msg.subbandLabel2Bits
  all_goals simp [srslteCqiValuePack, srslteCqiFormat2SubbandPack, srslteCqiSize, hlabel] at hwritten

theorem roundTrips_subbandUe_iff {msg : CqiUeSubband} (hfits : Fits msg.fields)
    : RoundTrips (.subbandUe msg) ↔ msg.L = 0 ∧ msg.subbandDiffCqi = 0 := by
  have hcqi : msg.widebandCqi < 2 ^ 4 := by
    simp only [CqiUeSubband.fields, fits_append, fits_reportField] at hfits
    exact hfits.1.1 (by decide)
  have hunpack := fun target rest => msg.unpack_pack target rest hcqi
  constructor
  . intro h
    -- the target differs from the report in the field that is not read
    obtain ⟨_, hread, hfields⟩ := h.read (.subbandUe { msg with positionSubband := msg.positionSubband + 1 }) [] rfl
    simp only [srslteCqiValueUnpack, srslteCqiValuePack, hunpack, map_some, Option.some.injEq,
      Prod.mk.injEq] at hread
    rw [← hread.2.1] at hfields
    by_cases hL : msg.L = 0
    . simp [fields, CqiUeSubband.fields, reportField, hL, Nat.mod_one] at hfields
      exact ⟨hL, hfields.symm⟩
    . simp [fields, CqiUeSubband.fields, reportField, hL] at hfields
  . rintro ⟨hL, hdiff⟩
    refine ⟨?_, rfl, ?_⟩
    . simp [srslteCqiValuePack, srslteCqiUeSubbandPack, srslteCqiSize]
      omega
    . intro target rest hconfig
      cases target with
      | subbandUe target =>
        refine ⟨_, by simp only [srslteCqiValueUnpack, srslteCqiValuePack, hunpack target rest hconfig, map_some]; rfl,
          ?_⟩
        simp [fields, CqiUeSubband.fields, hdiff, hL, show target.L = 0 from hconfig.trans hL]
      | _ => cases hconfig

theorem roundTrips_subbandHl_iff {msg : CqiHlSubband} (hfits : Fits msg.fields)
    : RoundTrips (.subbandHl msg) ↔ (msg.rankIsNotOne = true → msg.pmiPresent = true) := by
  constructor
  . intro h
    exact msg.size_eq_iff.mp h.returned
  . intro hpmi
    have hsize := msg.size_eq_iff.mpr hpmi
    refine ⟨msg.length_pack.trans hsize, hsize, ?_⟩
    intro target rest hconfig
    cases target with
    | subbandHl target =>
      have ⟨hN, hpresent, hports, hrank⟩ := hconfig
      have ⟨result, hread, hfields⟩ := msg.unpack_pack target rest hfits hN hpresent hports hrank
      refine ⟨.subbandHl result, ?_, hfields⟩
      simp only [srslteCqiValueUnpack, srslteCqiValuePack, hread, map_some, hsize]
    | _ => cases hconfig

theorem roundTrips_iff (value : CqiValue) (hrange : value.InRange) : value.RoundTrips ↔ value.Consistent := by
  cases value with
  | wideband msg => exact roundTrips_wideband_iff hrange.fits
  | subband msg => exact iff_of_false (not_roundTrips_subband msg) not_false
  | subbandUe msg => exact roundTrips_subbandUe_iff hrange.fits
  | subbandHl msg => exact roundTrips_subbandHl_iff hrange.fits

theorem roundTrips_iff_widebandCqi
    : RoundTrips (.wideband ⟨7, 0, 0, false, false, false⟩) ∧
      ¬ RoundTrips (.wideband ⟨7, 0, 3, true, false, false⟩) := by
  constructor
  . have hrange : InRange (.wideband ⟨7, 0, 0, false, false, false⟩) :=
      ⟨by simp [fields, CqiFormat2Wideband.fields], nofun⟩
    exact (roundTrips_iff _ hrange).mpr rfl
  . have hrange : InRange (.wideband ⟨7, 0, 3, true, false, false⟩) :=
      ⟨by simp [fields, CqiFormat2Wideband.fields, pmiWidth], nofun⟩
    intro h
    cases (roundTrips_iff _ hrange).mp h

theorem exists_not_roundTrips
    : (InRange (.wideband ⟨7, 0, 3, true, false, false⟩) ∧ ¬ RoundTrips (.wideband ⟨7, 0, 3, true, false, false⟩)) ∧
      (InRange (.subband ⟨7, 1, false⟩) ∧ ¬ RoundTrips (.subband ⟨7, 1, false⟩)) ∧
      (InRange (.subbandUe ⟨7, 1, 2, 2⟩) ∧ ¬ RoundTrips (.subbandUe ⟨7, 1, 2, 2⟩)) ∧
      (InRange (.subbandHl ⟨7, 1, 5, 2, 0, 1, false, false, true⟩) ∧
        ¬ RoundTrips (.subbandHl ⟨7, 1, 5, 2, 0, 1, false, false, true⟩)) := by
  refine ⟨⟨⟨?_, nofun⟩, ?_⟩, ⟨⟨?_, nofun⟩, ?_⟩, ⟨⟨?_, nofun⟩, ?_⟩, ⟨⟨?_, ?_⟩, ?_⟩⟩
  . simp [fields, CqiFormat2Wideband.fields, pmiWidth]
  . intro h
    have ⟨_, hread, _⟩ := h.read (.wideband ⟨7, 0, 3, true, false, false⟩) [] ⟨rfl, rfl, rfl⟩
    cases hread
  . simp [fields, CqiFormat2Subband.fields]
  . intro h
    cases h.written
  . simp [fields, CqiUeSubband.fields]
  . intro h
    have ⟨_, hread, hfields⟩ := h.read (.subbandUe ⟨0, 0, 0, 2⟩) [] rfl
    cases hread
    cases hfields
  . simp [fields, CqiHlSubband.fields]
  . intro msg hmsg
    cases hmsg
    decide
  . intro h
    cases h.written

end CqiValue

end SrsLte
