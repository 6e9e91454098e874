import SrsLte.Rlc.Am.Impl.Basic

/-!
This module contains the round trips of the AM data and status PDU headers.
-/

namespace SrsLte

open List Option

namespace RlcAmdPduHeader

structure Fits (header : RlcAmdPduHeader) : Prop where
  dc : header.dc = .dataPdu
  sn : header.sn < 1024
  li : ∀ l ∈ header.li, l < 2048
  so : header.so < 32768
  noSegment : header.rf = false → header.lsf = false ∧ header.so = 0

variable (header : RlcAmdPduHeader)

theorem fixedByte_eq
    : header.fixedByte
        =
      header.dc.toNat * 128 + header.rf.toNat * 64 + header.p.toNat * 32 + header.fi.toNat * 8
        + (if header.li.length > 0 then 1 else 0) * 4 + header.sn / 256 % 4 := by
  have hp := header.p.toNat_lt
  have hrf := header.rf.toNat_lt
  have hfi := header.fi.toNat_lt
  unfold fixedByte
  dsimp only
  generalize hext : (if header.li.length > 0 then 1 else 0) = ext
  have hext : ext < 2 := by
    rw [← hext]
    split <;> omega
  rw [Bits.and_mask_shiftRight header.sn 2 8 (by decide)]
  rw [Bits.shiftLeft_or ext 2 (by omega)]
  rw [Bits.shiftLeft_or header.fi.toNat 3 (by omega)]
  rw [Bits.shiftLeft_or header.p.toNat 5 (by omega)]
  rw [Bits.shiftLeft_or header.rf.toNat 6 (by omega)]
  rw [Bits.shiftLeft_or header.dc.toNat 7 (by omega)]
  omega

theorem fixedByte_lt : header.fixedByte < 256 := by
  have hp := header.p.toNat_lt
  have hrf := header.rf.toNat_lt
  have hfi := header.fi.toNat_lt
  rw [fixedByte_eq]
  cases header.dc <;> simp only [RlcDcField.toNat] <;> split <;> omega

theorem length_writeDataPduHeader
    : (rlcAmWriteDataPduHeader header).length = header.packedLength := by
  unfold rlcAmWriteDataPduHeader packedLength
  simp only [length_append, length_writeExtension]
  split <;> simp

end RlcAmdPduHeader

namespace rlcAmWriteDataPduHeader

theorem sn_lo (n : Nat) : (UInt8.ofNat (n &&& 0xFF)).toNat = n % 256 := by
  rw [Bits.and_mask n 8 (by decide), UInt8.toNat_ofNat']
  omega

theorem so_hi (lsf : Bool) (so : Nat)
    : (UInt8.ofNat (lsf.toNat <<< 7 ||| (so &&& 0x7F00) >>> 8)).toNat
        =
      lsf.toNat * 128 + so / 256 % 128 := by
  have hlsf := lsf.toNat_lt
  rw [Bits.and_mask_shiftRight so 7 8 (by decide)]
  rw [Bits.shiftLeft_or _ 7 (by omega)]
  rw [UInt8.toNat_ofNat']
  omega

end rlcAmWriteDataPduHeader

namespace rlcAmReadDataPduHeader

theorem bit_eq {b s : Nat} (k : Nat) (flag : Bool) (h : b / 2 ^ s = 2 * k + flag.toNat)
    : ((b >>> s) &&& 0x01 == 1) = flag := by
  rw [readExtension.ext_eq, h]
  cases flag <;> simp

theorem word_eq {hi lo : Nat} (k m : Nat) {mask : Nat} (hmask : mask = 2 ^ k - 1) (hlo : lo < 256) (h : hi % 2 ^ k = m)
    : (hi &&& mask) <<< 8 ||| (lo &&& 0xFF) = m * 256 + lo := by
  rw [Bits.and_mask hi k hmask, Bits.and_mask lo 8 (by decide), h]
  rw [Bits.shiftLeft_or _ 8 (by apply Nat.mod_lt; decide)]
  omega

theorem readFixed_eq (header : RlcAmdPduHeader) (hfits : header.Fits)
    : readFixed (UInt8.ofNat header.fixedByte) (UInt8.ofNat (header.sn &&& 0xFF))
        =
      { header with lsf := false, so := 0, li := [] } := by
  have hp := header.p.toNat_lt
  have hfi := header.fi.toNat_lt
  have hsn := hfits.sn
  have hb0 : (UInt8.ofNat header.fixedByte).toNat = header.fixedByte := by
    rw [UInt8.toNat_ofNat', Nat.mod_eq_of_lt header.fixedByte_lt]
  have hfixed := header.fixedByte_eq
  have hext : (if header.li.length > 0 then 1 else 0) < 2 := by split <;> omega
  simp only [hfits.dc, RlcDcField.toNat] at hfixed
  have hfi' : RlcFiField.ofBits ((header.fixedByte >>> 3) &&& 0x03) = header.fi := by
    rw [Bits.and_mask _ 2 (by decide), Nat.shiftRight_eq_div_pow]
    have : header.fixedByte / 2 ^ 3 % 2 ^ 2 = header.fi.toNat := by omega
    rw [this, RlcFiField.ofBits_toNat]
  unfold readFixed
  rw [hb0, hfi']
  rw [bit_eq 1 header.rf (by omega)]
  rw [bit_eq (2 + header.rf.toNat) header.p (by omega)]
  rw [word_eq 2 (header.sn / 256) (by decide)
    (by rw [rlcAmWriteDataPduHeader.sn_lo]; omega) (by omega)]
  rw [rlcAmWriteDataPduHeader.sn_lo]
  have hsn' : header.sn / 256 * 256 + header.sn % 256 = header.sn := by omega
  rw [hsn', ← hfits.dc]

end rlcAmReadDataPduHeader

theorem rlcAmIsControlPdu_write (header : RlcAmdPduHeader) (payload : List UInt8) (hdc : header.dc = .dataPdu)
    : rlcAmIsControlPdu (rlcAmWriteDataPduHeader header ++ payload) = false := by
  have hp := header.p.toNat_lt
  have hrf := header.rf.toNat_lt
  have hfi := header.fi.toNat_lt
  have hext : (if header.li.length > 0 then 1 else 0) < 2 := by split <;> omega
  have hb0 : (UInt8.ofNat header.fixedByte).toNat = header.fixedByte := by
    rw [UInt8.toNat_ofNat', Nat.mod_eq_of_lt header.fixedByte_lt]
  unfold rlcAmWriteDataPduHeader rlcAmIsControlPdu
  simp only [cons_append, hb0]
  rw [readExtension.ext_eq, header.fixedByte_eq, hdc]
  simp only [RlcDcField.toNat, beq_eq_false_iff_ne, ne_eq]
  omega

theorem rlcAmReadDataPduHeader_of_control {payload : List UInt8} (h : rlcAmIsControlPdu payload = true)
    : rlcAmReadDataPduHeader payload = some ({ dc := .controlPdu }, payload) := by
  cases payload with
  | nil => cases h
  | cons b0 payload =>
    have hzero : (b0.toNat >>> 7) &&& 0x01 = 0 := beq_iff_eq.mp h
    simp [rlcAmReadDataPduHeader, hzero, RlcDcField.toNat]

theorem rlcAmReadDataPduHeader_of_data {b0 : UInt8} {payload : List UInt8}
    (h : rlcAmIsControlPdu (b0 :: payload) = false)
    : rlcAmReadDataPduHeader (b0 :: payload) = rlcAmReadDataPduHeader.readData (b0 :: payload) := by
  have hne : (b0.toNat >>> 7) &&& 0x01 ≠ 0 := beq_eq_false_iff_ne.mp h
  apply if_pos
  rw [readExtension.ext_eq] at hne ⊢
  change _ = 1
  omega

open rlcAmReadDataPduHeader in
theorem rlcAmReadDataPduHeader_write (header : RlcAmdPduHeader) (payload : List UInt8) (hfits : header.Fits)
    : rlcAmReadDataPduHeader (rlcAmWriteDataPduHeader header ++ payload) = some (header, payload) := by
  have hso := hfits.so
  have hread : _ = some (header, payload) := readLi_write (fun li => { header with li }) payload hfits.li
  have hext : (header.fixedByte >>> 2) &&& 0x01 = if header.li.length > 0 then 1 else 0 := by
    rw [readExtension.ext_eq, header.fixedByte_eq]
    have : (if header.li.length > 0 then 1 else 0) < 2 := by split <;> omega
    omega
  have hb0 : (UInt8.ofNat header.fixedByte).toNat = header.fixedByte := by
    rw [UInt8.toNat_ofNat', Nat.mod_eq_of_lt header.fixedByte_lt]
  have hdata : rlcAmReadDataPduHeader (rlcAmWriteDataPduHeader header ++ payload)
      = readData (rlcAmWriteDataPduHeader header ++ payload) :=
    rlcAmReadDataPduHeader_of_data (rlcAmIsControlPdu_write header payload hfits.dc)
  rw [hdata]
  unfold rlcAmWriteDataPduHeader readData
  by_cases hrf : header.rf = true
  . simp only [hrf, ↓reduceIte, cons_append, nil_append, hb0, hext,
      readFixed_eq header hfits]
    rw [bit_eq 0 header.lsf (by rw [rlcAmWriteDataPduHeader.so_hi]; omega)]
    rw [word_eq 7 (header.so / 256) (by decide)
      (by rw [rlcAmWriteDataPduHeader.sn_lo]; omega)
      (by rw [rlcAmWriteDataPduHeader.so_hi]; omega)]
    rw [rlcAmWriteDataPduHeader.sn_lo]
    have hso' : header.so / 256 * 256 + header.so % 256 = header.so := by omega
    rw [hso']
    rw [hrf] at hread
    exact hread
  . have hrf : header.rf = false := by simpa using hrf
    have hnone := hfits.noSegment hrf
    simp only [hrf, Bool.false_eq_true, ↓reduceIte, cons_append, nil_append,
      append_nil, hb0, hext, readFixed_eq header hfits]
    rw [hrf, hnone.1, hnone.2] at hread
    exact hread

theorem sn_readFixed_lt (b0 b1 : UInt8) : (rlcAmReadDataPduHeader.readFixed b0 b1).sn < 1024 := by
  have hlo : b1.toNat &&& 0xFF < 2 ^ 8 := by
    rw [Bits.and_mask _ 8 (by decide)]
    omega
  show (b0.toNat &&& 0x03) <<< 8 ||| (b1.toNat &&& 0xFF) < 1024
  rw [Bits.shiftLeft_or _ 8 hlo, Bits.and_mask _ 2 (by decide)]
  omega

variable (nacks : List RlcStatusNack) (status : RlcStatusPdu) {header : RlcAmdPduHeader} {payload rest : List UInt8}

theorem sn_readData_lt (h : rlcAmReadDataPduHeader.readData payload = some (header, rest)) : header.sn < 1024 := by
  unfold rlcAmReadDataPduHeader.readData at h
  split at h
  . dsimp only at h
    split at h
    . split at h
      . have ⟨li, hheader⟩ := exists_of_readLi h
        rw [hheader]
        exact sn_readFixed_lt _ _
      . cases h
    . have ⟨li, hheader⟩ := exists_of_readLi h
      rw [hheader]
      exact sn_readFixed_lt _ _
  . cases h

theorem rlcAmReadDataPduHeader_sn_lt (h : rlcAmReadDataPduHeader payload = some (header, rest))
    : header.sn < 1024 := by
  unfold rlcAmReadDataPduHeader at h
  split at h
  . cases h
  . split at h
    . exact sn_readData_lt h
    . cases h
      decide

def RlcAmdPduHeader.truncate (header : RlcAmdPduHeader) : RlcAmdPduHeader :=
  {
    header with
    sn := header.sn % 2 ^ 10
    li := header.li.map (· % 2 ^ 11)
    lsf := header.rf && header.lsf
    so := if header.rf then header.so % 2 ^ 15 else 0
  }

theorem RlcAmdPduHeader.truncate_fits (hdc : header.dc = .dataPdu)
    : header.truncate.Fits where
  dc := hdc
  sn := Nat.mod_lt _ (by decide)
  li := by
    intro l hl
    obtain ⟨l', -, rfl⟩ := mem_map.mp hl
    exact Nat.mod_lt _ (by decide)
  so := by
    unfold truncate
    dsimp only
    split
    . exact Nat.mod_lt _ (by decide)
    . decide
  noSegment := by
    intro hrf
    have hrf : header.rf = false := hrf
    simp [truncate, hrf]

theorem rlcAmWriteDataPduHeader_truncate (header : RlcAmdPduHeader)
    : rlcAmWriteDataPduHeader header.truncate = rlcAmWriteDataPduHeader header := by
  have hfixed : header.truncate.fixedByte = header.fixedByte := by
    unfold RlcAmdPduHeader.fixedByte RlcAmdPduHeader.truncate
    dsimp only
    rw [length_map, Bits.mod_and (by decide)]
  unfold rlcAmWriteDataPduHeader
  rw [hfixed]
  unfold RlcAmdPduHeader.truncate
  dsimp only
  rw [writeExtension_mod, Bits.mod_and (by decide)]
  by_cases hrf : header.rf
  . simp only [hrf, Bool.true_and, ↓reduceIte]
    rw [Bits.mod_and (by decide), Bits.mod_and (by decide)]
  . simp only [hrf]
    rfl

theorem rlcAmReadDataPduHeader_write_truncate (payload : List UInt8) (hdc : header.dc = .dataPdu)
    : rlcAmReadDataPduHeader (rlcAmWriteDataPduHeader header ++ payload) = some (header.truncate, payload) := by
  rw [← rlcAmWriteDataPduHeader_truncate]
  exact rlcAmReadDataPduHeader_write header.truncate payload (header.truncate_fits hdc)

structure RlcStatusNack.Fits (nack : RlcStatusNack) : Prop where
  nackSn : nack.nackSn < 1024
  soStart : nack.soStart < 32768
  soEnd : nack.soEnd < 32768
  noSo : nack.hasSo = false → nack.soStart = 0 ∧ nack.soEnd = 0

structure RlcStatusPdu.Fits (status : RlcStatusPdu) : Prop where
  ackSn : status.ackSn < 1024
  nacks : ∀ nack ∈ status.nacks, nack.Fits

theorem rlcAmReadStatusNack_write (nack : RlcStatusNack) (nacks : List RlcStatusNack)
    (bits : List Bool) (hfits : nack.Fits)
    : rlcAmReadStatusNack (rlcAmWriteStatusNacks (nack :: nacks) ++ bits)
        =
      some (nack, if nacks.isEmpty then 0 else 1, rlcAmWriteStatusNacks nacks ++ bits) := by
  have hsn := hfits.nackSn
  have hext : (if nacks.isEmpty then 0 else 1) % 2 ^ 1 = if nacks.isEmpty then 0 else 1 := by
    split <;> rfl
  unfold rlcAmReadStatusNack
  rw [rlcAmWriteStatusNacks]
  simp only [append_assoc]
  rw [srslteBitPack_unpack_append]
  simp only [bind_eq_bind, bind_some]
  rw [srslteBitPack_unpack_append, hext]
  simp only [bind_some]
  cases hso : nack.hasSo with
  | false =>
    have hnone := hfits.noSo hso
    simp only [Bool.false_eq_true, ↓reduceIte]
    rw [srslteBitPack_unpack_append]
    simp only [bind_some, Nat.zero_mod, ↓reduceIte, Option.pure_def, Option.some.injEq,
      Prod.mk.injEq, and_true]
    rcases nack with ⟨nackSn, hasSo, soStart, soEnd⟩
    simp_all
  | true =>
    have hstart := hfits.soStart
    have hend := hfits.soEnd
    simp only [↓reduceIte, append_assoc]
    rw [srslteBitPack_unpack_append]
    simp only [bind_some]
    rw [srslteBitPack_unpack_append]
    simp only [bind_some]
    rw [srslteBitPack_unpack_append]
    rcases nack with ⟨nackSn, hasSo, soStart, soEnd⟩
    simp_all

theorem rlcAmReadStatusNacks_write (bits : List Bool) (fuel : Nat)
    (hne : nacks ≠ []) (hfits : ∀ nack ∈ nacks, nack.Fits) (hfuel : nacks.length ≤ fuel)
    : rlcAmReadStatusNacks fuel (rlcAmWriteStatusNacks nacks ++ bits) = some nacks := by
  induction nacks generalizing fuel with
  | nil => contradiction
  | cons nack nacks ih =>
    cases fuel with
    | zero => simp at hfuel
    | succ fuel =>
      rw [rlcAmReadStatusNacks, rlcAmReadStatusNack_write nack nacks bits (hfits nack (by simp))]
      cases nacks with
      | nil => simp
      | cons nack' nacks =>
        have hstep := ih fuel (by simp) (by intro n hn; exact hfits n (by simp [hn]))
          (by simpa using hfuel)
        simp [hstep]

theorem length_le_rlcAmWriteStatusNacks
    : nacks.length ≤ (rlcAmWriteStatusNacks nacks).length := by
  induction nacks with
  | nil => simp
  | cons nack nacks ih =>
    simp only [rlcAmWriteStatusNacks, length_append, length_srslteBitUnpack, length_cons]
    omega

theorem length_rlcAmWriteStatusNacks
    : (rlcAmWriteStatusNacks nacks).length = (nacks.map RlcStatusNack.packedBits).sum := by
  induction nacks with
  | nil => rfl
  | cons nack nacks ih =>
    simp only [rlcAmWriteStatusNacks, length_append, length_srslteBitUnpack, map_cons,
      sum_cons, RlcStatusNack.packedBits, ih]
    split <;> simp

theorem length_rlcAmWriteStatusPdu
    : (rlcAmWriteStatusPdu status).length = status.packedLength := by
  have heven : (status.nacks.map RlcStatusNack.packedBits).sum % 2 = 0 := by
    induction status.nacks with
    | nil => rfl
    | cons nack nacks ih =>
      rw [map_cons, sum_cons, RlcStatusNack.packedBits]
      split <;> omega
  unfold rlcAmWriteStatusPdu
  dsimp only
  rw [length_srslteBitPackVector]
  simp only [length_append, length_srslteBitUnpack, length_rlcAmWriteStatusNacks,
    RlcStatusPdu.packedLength]
  omega

def statusBits (status : RlcStatusPdu) : List Bool :=
  srslteBitUnpack 0 1 ++ srslteBitUnpack 0 3 ++ srslteBitUnpack status.ackSn 10
    ++ srslteBitUnpack (if status.nacks.isEmpty then 0 else 1) 1 ++ rlcAmWriteStatusNacks status.nacks

theorem rlcAmReadStatusPdu_of_bits {status : RlcStatusPdu} {rest : List Bool}
    (hbits : srslteBitUnpackVector payload = statusBits status ++ rest) (hfits : status.Fits)
    : rlcAmReadStatusPdu payload = some status := by
  have hack := hfits.ackSn
  unfold rlcAmReadStatusPdu
  dsimp only
  rw [hbits, statusBits]
  simp only [append_assoc]
  rw [srslteBitPack_unpack_append]
  simp only [RlcDcField.toNat, Nat.zero_mod, bind_eq_bind, bind_some, ↓reduceIte]
  rw [srslteBitPack_unpack_append]
  simp only [Nat.zero_mod, bind_some, ↓reduceIte]
  rw [srslteBitPack_unpack_append]
  simp only [bind_some]
  rw [srslteBitPack_unpack_append]
  simp only [bind_some]
  rcases status with ⟨ackSn, nacks⟩
  cases nacks with
  | nil => simp_all
  | cons nack nacks =>
    rw [rlcAmReadStatusNacks_write (nack :: nacks) _ _ (by simp) hfits.nacks]
    . simp_all
    . have := length_le_rlcAmWriteStatusNacks (nack :: nacks)
      dsimp only
      rw [length_append]
      omega

theorem rlcAmReadStatusPdu_write (hfits : status.Fits)
    : rlcAmReadStatusPdu (rlcAmWriteStatusPdu status) = some status := by
  apply rlcAmReadStatusPdu_of_bits _ hfits
  . exact srslteBitUnpack 0 (8 - (statusBits status).length % 8)
  . apply srslteBitUnpackVector_packVector
    rw [length_append, length_srslteBitUnpack]
    omega

/--
What is written of a NACK: its segment offsets only if it has them.
-/
def RlcStatusNack.carried (nack : RlcStatusNack) : RlcStatusNack :=
  if nack.hasSo then nack else { nackSn := nack.nackSn }

theorem rlcAmWriteStatusNacks_carried
    : rlcAmWriteStatusNacks (nacks.map RlcStatusNack.carried) = rlcAmWriteStatusNacks nacks := by
  induction nacks with
  | nil => rfl
  | cons nack nacks ih =>
    rw [map_cons, rlcAmWriteStatusNacks, rlcAmWriteStatusNacks, ih, isEmpty_map, RlcStatusNack.carried]
    cases hso : nack.hasSo <;> simp [hso]

theorem statusPdu_readBack (status : RlcStatusPdu) (hack : status.ackSn < 1024)
    (hnacks : ∀ nack ∈ status.nacks,
      nack.nackSn < 1024 ∧ (nack.hasSo → nack.soStart < 32768 ∧ nack.soEnd < 32768))
    : (rlcAmWriteStatusPdu status).length = status.packedLength
        ∧
      rlcAmReadStatusPdu (rlcAmWriteStatusPdu status)
        =
      some { status with nacks := status.nacks.map RlcStatusNack.carried } := by
  refine ⟨length_rlcAmWriteStatusPdu status, ?_⟩
  rw [← rlcAmReadStatusPdu_write { status with nacks := status.nacks.map RlcStatusNack.carried }]
  . unfold rlcAmWriteStatusPdu
    dsimp only
    rw [rlcAmWriteStatusNacks_carried, isEmpty_map]
  . refine ⟨hack, ?_⟩
    intro carried hmem
    obtain ⟨nack, hnack, rfl⟩ := mem_map.mp hmem
    obtain ⟨hsn, hso⟩ := hnacks nack hnack
    unfold RlcStatusNack.carried
    split
    . next h => exact ⟨hsn, (hso h).1, (hso h).2, fun hnone => by simp [h] at hnone⟩
    . exact ⟨hsn, Nat.zero_lt_succ _, Nat.zero_lt_succ _, fun _ => ⟨rfl, rfl⟩⟩

theorem statusPdu_readBack_twoNacks
    : rlcAmReadStatusPdu (rlcAmWriteStatusPdu ⟨7, [{ nackSn := 1 }, ⟨2, true, 3, 32767⟩]⟩)
        =
      some ⟨7, [{ nackSn := 1 }, ⟨2, true, 3, 32767⟩]⟩ :=
  (statusPdu_readBack ⟨7, [{ nackSn := 1 }, ⟨2, true, 3, 32767⟩]⟩ (by decide) (by decide)).2

theorem rlcAmIsControlPdu_packVector (bits : List Bool) (hlen : 7 ≤ bits.length)
    : rlcAmIsControlPdu (srslteBitPackVector (false :: bits)) = true := by
  have hbytes : (false :: bits).length / 8 = (bits.length - 7) / 8 + 1 := by
    rw [length_cons]
    omega
  have hlt := Bits.toNat_lt (bits.take 7)
  have htake : (bits.take 7).length = 7 := by
    rw [length_take]
    omega
  rw [htake] at hlt
  unfold srslteBitPackVector
  rw [hbytes, srslteBitPackVector.go, take_succ_cons, Bits.toNat_cons, rlcAmIsControlPdu]
  rw [readExtension.ext_eq, UInt8.toNat_ofNat']
  simp only [Bool.toNat_false, beq_iff_eq]
  omega

theorem rlcAmIsControlPdu_writeStatusPdu
    : rlcAmIsControlPdu (rlcAmWriteStatusPdu status) = true := by
  unfold rlcAmWriteStatusPdu
  dsimp only
  have hdc : srslteBitUnpack RlcDcField.controlPdu.toNat 1 = [false] := rfl
  rw [hdc]
  simp only [append_assoc, cons_append, nil_append]
  apply rlcAmIsControlPdu_packVector
  simp only [length_append, length_srslteBitUnpack]
  omega

end SrsLte
