import SrsLte.Data.Bits
import Mathlib.Data.List.Basic

/-!
This module contains the bit vector helpers of `lib/src/phy/utils/bit.c` that the upper layers
use. A buffer of unpacked bits is a `List Bool`, advancing its pointer is dropping a prefix.
-/

namespace SrsLte

open List

def srslteBitUnpack (value : Nat) (nofBits : Nat) : List Bool :=
  Bits.ofNat value nofBits

def srslteBitPack (bits : List Bool) (nofBits : Nat) : Option (Nat × List Bool) :=
  if nofBits ≤ bits.length then
    some (Bits.toNat (bits.take nofBits), bits.drop nofBits)
  else
    none

def srslteBitUnpackVector (packed : List UInt8) : List Bool :=
  packed.flatMap (fun byte => srslteBitUnpack byte.toNat 8)

def srslteBitPackVector (unpacked : List Bool) : List UInt8 :=
  go (unpacked.length / 8) unpacked
where
  go (nbytes : Nat) (unpacked : List Bool) : List UInt8 :=
    match nbytes with
    | 0 => []
    | nbytes + 1 => UInt8.ofNat (Bits.toNat (unpacked.take 8)) :: go nbytes (unpacked.drop 8)

@[simp]
theorem length_srslteBitUnpack (value nofBits : Nat) : (srslteBitUnpack value nofBits).length = nofBits := by
  apply Bits.length_ofNat

theorem srslteBitPack_unpack_append (value nofBits : Nat) (bits : List Bool)
    : srslteBitPack (srslteBitUnpack value nofBits ++ bits) nofBits = some (value % 2 ^ nofBits, bits) := by
  unfold srslteBitPack
  have hlen := length_srslteBitUnpack value nofBits
  have hle : nofBits ≤ (srslteBitUnpack value nofBits ++ bits).length := by
    rw [length_append, hlen]
    omega
  simp only [hle, ↓reduceIte]
  rw [take_left' hlen, drop_left' hlen]
  unfold srslteBitUnpack
  rw [Bits.toNat_ofNat]

theorem srslteBitPack_unpack_of_lt {value nofBits : Nat} (h : value < 2 ^ nofBits) (bits : List Bool)
    : srslteBitPack (srslteBitUnpack value nofBits ++ bits) nofBits = some (value, bits) := by
  rw [srslteBitPack_unpack_append, Nat.mod_eq_of_lt h]

theorem length_srslteBitPackVector (unpacked : List Bool)
    : (srslteBitPackVector unpacked).length = unpacked.length / 8 := by
  have hgo : ∀ nbytes bits, (srslteBitPackVector.go nbytes bits).length = nbytes := by
    intro nbytes
    induction nbytes with
    | zero =>
      intro bits
      rfl
    | succ nbytes ih =>
      intro bits
      rw [srslteBitPackVector.go, length_cons, ih]
  exact hgo _ _

theorem srslteBitPackVector.go_eq (nbytes : Nat) (unpacked : List Bool) (h : unpacked.length = 8 * nbytes)
    : srslteBitUnpackVector (go nbytes unpacked) = unpacked := by
  induction nbytes generalizing unpacked with
  | zero =>
    have : unpacked = [] := by
      apply length_eq_zero_iff.mp
      omega
    rw [this]
    rfl
  | succ nbytes ih =>
    have htake : (unpacked.take 8).length = 8 := by
      rw [length_take]
      omega
    have hlt := Bits.toNat_lt (unpacked.take 8)
    rw [htake] at hlt
    have hdrop : (unpacked.drop 8).length = 8 * nbytes := by
      rw [length_drop]
      omega
    have hbyte : srslteBitUnpack (UInt8.ofNat (Bits.toNat (unpacked.take 8))).toNat 8 = unpacked.take 8 := by
      unfold srslteBitUnpack
      rw [UInt8.toNat_ofNat', Nat.mod_eq_of_lt hlt]
      have := Bits.ofNat_toNat (unpacked.take 8) 0
      rw [htake] at this
      simpa using this
    unfold go srslteBitUnpackVector
    rw [flatMap_cons, hbyte]
    have := ih _ hdrop
    unfold srslteBitUnpackVector at this
    rw [this, take_append_drop]

theorem srslteBitUnpackVector_packVector (unpacked : List Bool) (h : unpacked.length % 8 = 0)
    : srslteBitUnpackVector (srslteBitPackVector unpacked) = unpacked := by
  unfold srslteBitPackVector
  apply srslteBitPackVector.go_eq
  omega

theorem srslteBitPackVector_unpackVector (packed : List UInt8)
    : srslteBitPackVector (srslteBitUnpackVector packed) = packed := by
  have hgo : ∀ packed : List UInt8, srslteBitPackVector.go packed.length (srslteBitUnpackVector packed) = packed := by
    intro packed
    induction packed with
    | nil => rfl
    | cons byte packed ih =>
      have hlen := length_srslteBitUnpack byte.toNat 8
      have hunpack : srslteBitUnpackVector (byte :: packed) = srslteBitUnpack byte.toNat 8 ++ srslteBitUnpackVector packed :=
        rfl
      have hbyte : Bits.toNat (srslteBitUnpack byte.toNat 8) = byte.toNat := by
        unfold srslteBitUnpack
        rw [Bits.toNat_ofNat]
        exact Nat.mod_eq_of_lt byte.toNat_lt
      rw [length_cons, hunpack, srslteBitPackVector.go, take_left' hlen, drop_left' hlen, ih, hbyte,
        UInt8.ofNat_toNat]
  have hlen : (srslteBitUnpackVector packed).length / 8 = packed.length := by
    unfold srslteBitUnpackVector
    rw [length_flatMap]
    simp
  unfold srslteBitPackVector
  rw [hlen, hgo]

end SrsLte
