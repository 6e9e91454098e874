import SrsLte.Rlc.Um.Impl

/-!
This module contains the round trip of the UM data PDU header.
-/

namespace SrsLte

open List

def RlcUmdSnSize.mod (snSize : RlcUmdSnSize) : Nat :=
  match snSize with
  | .size5Bits => 32
  | .size10Bits => 1024

namespace RlcUmdPduHeader

structure Fits (header : RlcUmdPduHeader) : Prop where
  sn : header.sn < header.snSize.mod
  li : ∀ l ∈ header.li, l < 2048

theorem length_writeDataPduHeader (header : RlcUmdPduHeader)
    : (rlcUmWriteDataPduHeader header).length = header.packedLength := by
  unfold rlcUmWriteDataPduHeader packedLength
  rw [length_append, length_writeExtension]
  cases header.snSize with
  | size5Bits => rfl
  | size10Bits => rfl

end RlcUmdPduHeader

namespace rlcUmReadDataPduHeader

theorem fixed_eq (fi : RlcFiField) {ext hi : Nat} (k : Nat) (hk : k ≤ 5) (hext : ext < 2) (hhi : hi < 2 ^ k)
    : (UInt8.ofNat ((fi.toNat &&& 0x03) <<< (k + 1) ||| ((ext &&& 0x01) <<< k ||| hi))).toNat
        =
      (2 * fi.toNat + ext) * 2 ^ k + hi := by
  have hfi := fi.toNat_lt
  have hpow : 2 ^ k ≤ 2 ^ 5 := Nat.pow_le_pow_right (by decide) hk
  have hsum : ext * 2 ^ k + hi < 2 ^ (k + 1) := by
    rw [Nat.pow_succ]
    have : ext * 2 ^ k ≤ 1 * 2 ^ k := Nat.mul_le_mul_right _ (by omega)
    omega
  have hall : fi.toNat * 2 ^ (k + 1) + (ext * 2 ^ k + hi) < 256 := by
    have : fi.toNat * 2 ^ (k + 1) ≤ 3 * 2 ^ (k + 1) := Nat.mul_le_mul_right _ (by omega)
    rw [Nat.pow_succ] at hsum this ⊢
    omega
  rw [Bits.and_mask fi.toNat 2 (by decide), Bits.and_mask ext 1 (by decide)]
  rw [Nat.mod_eq_of_lt (show fi.toNat < 2 ^ 2 from hfi), Nat.mod_eq_of_lt (show ext < 2 ^ 1 from hext)]
  rw [Bits.shiftLeft_or ext k hhi, Bits.shiftLeft_or fi.toNat (k + 1) hsum, UInt8.toNat_ofNat']
  rw [Nat.mod_eq_of_lt hall]
  ring

theorem fields_eq (fi : RlcFiField) {ext hi b : Nat} (k : Nat) (hext : ext < 2) (hhi : hi < 2 ^ k)
    (hb : b = (2 * fi.toNat + ext) * 2 ^ k + hi)
    : RlcFiField.ofBits ((b >>> (k + 1)) &&& 0x03) = fi ∧ (b >>> k) &&& 0x01 = ext ∧ b % 2 ^ k = hi := by
  have hfi := fi.toNat_lt
  have hdiv : b / 2 ^ k = 2 * fi.toNat + ext := by
    rw [hb, Nat.mul_comm, Nat.mul_add_div (Nat.two_pow_pos k), Nat.div_eq_of_lt hhi]
    rfl
  have hdiv' : b / 2 ^ (k + 1) = fi.toNat := by
    rw [Nat.pow_succ, ← Nat.div_div_eq_div_mul, hdiv]
    omega
  refine ⟨?_, ?_, ?_⟩
  . rw [Bits.and_mask _ 2 (by decide), Nat.shiftRight_eq_div_pow, hdiv',
      Nat.mod_eq_of_lt (show fi.toNat < 2 ^ 2 from hfi), RlcFiField.ofBits_toNat]
  . rw [Bits.and_mask _ 1 (by decide), Nat.shiftRight_eq_div_pow, hdiv]
    omega
  . rw [hb, Nat.mul_comm, Nat.mul_add_mod, Nat.mod_eq_of_lt hhi]

end rlcUmReadDataPduHeader

open rlcUmReadDataPduHeader in
theorem rlcUmReadDataPduHeader_write (header : RlcUmdPduHeader) (payload : List UInt8) (hfits : header.Fits)
    : rlcUmReadDataPduHeader (rlcUmWriteDataPduHeader header ++ payload) header.snSize
        =
      some (header, payload) := by
  have hread := readLi_write (fun li => { header with li }) payload hfits.li
  have hext : (if header.li.length > 0 then 1 else 0) < 2 := by
    split
    . omega
    . omega
  have hsn := hfits.sn
  obtain ⟨fi, snSize, sn, li⟩ := header
  unfold rlcUmWriteDataPduHeader rlcUmReadDataPduHeader
  dsimp only at hread hext hsn ⊢
  generalize (if li.length > 0 then 1 else 0) = ext at *
  cases snSize with
  | size5Bits =>
    simp only [RlcUmdSnSize.mod] at hsn
    have hlow : sn &&& 0x1F = sn := by
      rw [Bits.and_mask sn 5 (by decide)]
      exact Nat.mod_eq_of_lt hsn
    have ⟨hfi, hext', hsn'⟩ := fields_eq fi 5 hext hsn (fixed_eq fi 5 (by decide) hext hsn)
    dsimp only [cons_append, nil_append]
    rw [hlow, hfi, hext', Bits.and_mask _ 5 (by decide), hsn']
    exact hread
  | size10Bits =>
    simp only [RlcUmdSnSize.mod] at hsn
    have hhi : sn / 256 < 2 ^ 2 := by omega
    have hhi' : (sn &&& 0x300) >>> 8 = sn / 256 := by
      rw [Bits.and_mask_shiftRight sn 2 8 (by decide)]
      omega
    have hlo : (UInt8.ofNat (sn &&& 0xFF)).toNat = sn % 256 := writeExtension.odd_lo sn
    have ⟨hfi, hext', hsn'⟩ := fields_eq fi 2 hext hhi (fixed_eq fi 2 (by decide) hext hhi)
    dsimp only [cons_append, nil_append]
    rw [hhi', hfi, hext', hlo, Bits.and_mask _ 2 (by decide), hsn', Bits.and_mask _ 8 (by decide)]
    have hsplit : (sn / 256) <<< 8 ||| sn % 256 % 2 ^ 8 = sn := by
      rw [Bits.shiftLeft_or _ 8 (by omega)]
      omega
    rw [hsplit]
    exact hread

open rlcUmReadDataPduHeader in
theorem sn_rlcUmReadDataPduHeader_lt {payload payload' : List UInt8} {snSize : RlcUmdSnSize} {header : RlcUmdPduHeader}
    (h : rlcUmReadDataPduHeader payload snSize = some (header, payload'))
    : header.sn < snSize.mod := by
  unfold rlcUmReadDataPduHeader at h
  split at h
  next b0 rest =>
    have ⟨li, hheader⟩ := exists_of_readLi h
    rw [hheader]
    dsimp only [RlcUmdSnSize.mod]
    rw [Bits.and_mask _ 5 (by decide)]
    omega
  next b0 b1 rest =>
    have ⟨li, hheader⟩ := exists_of_readLi h
    rw [hheader]
    dsimp only [RlcUmdSnSize.mod]
    rw [Bits.and_mask _ 2 (by decide), Bits.and_mask _ 8 (by decide), Bits.shiftLeft_or _ 8 (by omega)]
    omega
  . cases h

end SrsLte
