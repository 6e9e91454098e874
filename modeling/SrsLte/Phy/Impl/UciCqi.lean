import SrsLte.Phy.Bit
import Mathlib.Algebra.BigOperators.Group.Finset.Basic

/-!
This module contains the block code for CQI reports of at most 11 bits on the PUSCH in `uci.c`.
-/

namespace SrsLte

/-- The rows of Table 5.2.2.6.4-1, from column 0 on. -/
def mBasisSeq : List Nat :=
  [0b11000000001, 0b11100000011, 0b10010010111, 0b10110000101, 0b11110001001, 0b11001011101, 0b10101010111,
    0b10011001101, 0b11011001011, 0b10111010011, 0b10100111011, 0b11100110101, 0b10010101111, 0b11010101011,
    0b10001101001, 0b11001111011, 0b11101110010, 0b10011100100, 0b11011111000, 0b10000110000, 0b10100010001,
    0b11010000011, 0b10001001101, 0b11101000111, 0b11111011110, 0b11000111001, 0b10110100110, 0b11110101110,
    0b10101110100, 0b10111111100, 0b11111111111, 0b10000000000]

def mBasis (i n : Nat) : Nat :=
  ((mBasisSeq.getD i 0).testBit (10 - n)).toNat

def encodeCqiPuschBlock (data : List Bool) (nofBits i : Nat) : Nat :=
  (List.range nofBits).foldl (fun output n => (output + (data.getD n false).toNat * mBasis i n) % 2) 0

def cqiTable (nofBits w i : Nat) : Nat :=
  encodeCqiPuschBlock (srslteBitUnpack w nofBits) nofBits i

def cqiTableS (nofBits w i : Nat) : Int16 :=
  2 * Int16.ofNat (cqiTable nofBits w i) - 1

def encodeCqiShort (data : List Bool) (nofBits Q : Nat) : Option (List Nat) :=
  if nofBits ≤ 11 ∧ 0 < nofBits then
    (srslteBitPack data nofBits).map (fun (w, _) => (List.range Q).map (fun i => cqiTable nofBits w (i % 32)))
  else
    none

/-! ### Decoder -/

/-- `srslte_vec_sum_sss(&q_bits[i * 32], q_bits, q_bits, len)` -/
def addCopy (qBits : Nat → Int16) (i len : Nat) : Nat → Int16 :=
  fun j => if j < len then qBits (i * 32 + j) + qBits j else qBits j

def addCopies (qBits : Nat → Int16) (Q : Nat) : Nat → Int16 :=
  if Q > 32 then
    addCopy ((List.range' 1 (Q / 32 - 1)).foldl (fun qBits i => addCopy qBits i 32) qBits) (Q / 32) (Q % 32)
  else
    qBits

/-- `simd` is `SRSLTE_SIMD_S_SIZE`, a lane is a sum of 16 bits. Without SIMD there is only the loop over the rest. -/
def srslteVecDotProdSss (simd : Nat) (x y : Nat → Int16) (len : Nat) : Int :=
  let lane (k : Nat) : Int16 :=
    (List.range (len / simd)).foldl (fun sum t => sum + x (t * simd + k) * y (t * simd + k)) 0
  ∑ k ∈ Finset.range simd, (lane k).toInt
    + ∑ i ∈ Finset.range (len % simd), (x (len / simd * simd + i)).toInt * (y (len / simd * simd + i)).toInt

def cqiCorr (simd : Nat) (qBits : Nat → Int16) (Q nofBits w : Nat) : Int :=
  srslteVecDotProdSss simd (cqiTableS nofBits w) qBits (min 32 Q)

def decodeCqiShort (simd : Nat) (qBits : Nat → Int16) (Q nofBits : Nat) : Option (List Bool) :=
  if nofBits ≤ 11 ∧ 0 < nofBits then
    let corr := cqiCorr simd (addCopies qBits Q) Q nofBits
    let max := (List.range (2 ^ nofBits)).foldl
      (fun (max : Nat × Int) w => if corr w > max.2 then (w, corr w) else max) (0, -2 ^ 31)
    some (srslteBitUnpack max.1 nofBits)
  else
    none

end SrsLte
