import SrsLte.Common.Basic
import SrsLte.Phy.Common
import Mathlib.Algebra.Order.Ring.Rat
import Mathlib.Data.Fin.VecNotation
import SrsLte.Data.Scatter

/-!
This module contains the coding of HARQ-ACK and RI on the PUSCH in `uci.c` and the channel interleaver of the UL-SCH
in `sch.c`.
-/

namespace SrsLte

inductive UciBitType where
  | bit1
  | bit0
  | repetition
  | placeholder
deriving DecidableEq, Repr

structure UciBit where
  position : Nat
  type : UciBitType
deriving DecidableEq, Repr

structure PuschCfg where
  C1 : Nat
  K1 : Nat
  C2 : Nat
  K2 : Nat
  Qm : Nat
  MSc : Nat
  MSc_le : MSc ≤ maxPrb * nre
  MScInit : Nat
  nofSymb : Nat
  cp : Cp
  ceilf : (O MScInit nofSymb : Nat) → (beta : Rat) → (K : Nat) → Nat

def PuschCfg.qPrimeRiAck (cfg : PuschCfg) (O OCqi : Nat) (beta : Rat) : Nat :=
  let K := cfg.C1 * cfg.K1 + cfg.C2 * cfg.K2
  -- If not carrying UL-SCH, get Q_prime according to 5.2.4.1
  let K := if K = 0 then (if OCqi ≤ 11 then OCqi else OCqi + 8) else K
  min (cfg.ceilf O cfg.MScInit cfg.nofSymb beta K) (4 * cfg.MSc)

/-! ### Positions -/

theorem colidx_lt (i : Nat) : (3 * i) % 4 < 4 := Nat.mod_lt _ (by decide)

def uciUlschInterleaveGen (columnSet : Fin 4 → Nat) (qBitIdx Qm HPrimeTotal NPuschSymbs start : Nat)
    (bits : Nat → UciBit) : Nat → UciBit :=
  let rows := HPrimeTotal / NPuschSymbs
  if rows ≥ 1 + qBitIdx / 4 then
    let row := rows - 1 - qBitIdx / 4
    let colidx : Fin 4 := ⟨(3 * qBitIdx) % 4, colidx_lt qBitIdx⟩
    let col := columnSet colidx
    fun j =>
      if start ≤ j ∧ j < start + Qm then
        { bits j with position := row * Qm + rows * col * Qm + (j - start) }
      else
        bits j
  else
    bits

def ackColumnSet : Cp → Fin 4 → Nat
  | .norm => ![2, 3, 8, 9]
  | .ext => ![1, 2, 6, 7]

def riColumnSet : Cp → Fin 4 → Nat
  | .norm => ![1, 4, 7, 10]
  | .ext => ![0, 3, 5, 8]

def PuschCfg.columnSet (cfg : PuschCfg) (isRi : Bool) : Fin 4 → Nat :=
  if isRi then riColumnSet cfg.cp else ackColumnSet cfg.cp

def uciUlschInterleavePut (ackCodedBits : List UciBitType) (Qm start : Nat) (bits : Nat → UciBit) : Nat → UciBit :=
  fun j =>
    if start ≤ j ∧ j < start + Qm then
      { bits j with type := ackCodedBits.getD (j - start) .bit1 }
    else
      bits j

/-! ### Encoder -/

def UciBitType.ofBool (b : Bool) : UciBitType :=
  if b then .bit1 else .bit0

def encodeRiAck (data : Bool × Bool) (dataLen Qm : Nat) : List UciBitType :=
  if dataLen = 1 then
    [.ofBool data.1, .repetition] ++ List.replicate (Qm - 2) .placeholder
  else if dataLen = 2 then
    [.ofBool data.1, .ofBool data.2] ++ List.replicate (Qm - 2) .placeholder ++
      ([.ofBool (data.1 ^^ data.2), .ofBool data.1] ++ List.replicate (Qm - 2) .placeholder) ++
      ([.ofBool data.2, .ofBool (data.1 ^^ data.2)] ++ List.replicate (Qm - 2) .placeholder)
  else
    []

def srslteUciEncodeAckRi (cfg : PuschCfg) (data : Bool × Bool) (dataLen OCqi : Nat) (beta : Rat) (HPrimeTotal : Nat)
    (bits : Nat → UciBit) (isRi : Bool) : Option ((Nat → UciBit) × Nat) :=
  if beta < 0 then
    none
  else
    let Qprime := cfg.qPrimeRiAck dataLen OCqi beta
    let qEncodedBits := encodeRiAck data dataLen cfg.Qm
    if qEncodedBits.length > 0 then
      some ((List.range Qprime).foldl (encodeSymbol qEncodedBits) bits, Qprime)
    else
      some (bits, Qprime)
where
  encodeSymbol (qEncodedBits : List UciBitType) (bits : Nat → UciBit) (i : Nat) : Nat → UciBit :=
    let bits := uciUlschInterleaveGen (cfg.columnSet isRi) i cfg.Qm HPrimeTotal cfg.nofSymb (cfg.Qm * i) bits
    uciUlschInterleavePut (qEncodedBits.drop (i * cfg.Qm % qEncodedBits.length)) cfg.Qm (cfg.Qm * i) bits

/-! ### Decoder -/

def descrambled (qBits : Nat → Int) (cSeq : Nat → Bool) (p c : Nat) : Int :=
  if cSeq c then qBits p else -qBits p

def decodeRiAck1bit (qBits : Nat → Int) (cSeq : Nat → Bool) (pos : Nat → UciBit) : Int :=
  let p0 := (pos 0).position
  let p1 := (pos 1).position
  let q0 := descrambled qBits cSeq p0 p0
  -- the second bit repeats the first one, which has the scrambling bit of the first one
  let q1 := descrambled qBits cSeq p1 p0
  toInt32 (-(q0 + q1))

structure UciSum where
  sum0 : Int := 0
  sum1 : Int := 0
  sum2 : Int := 0
deriving DecidableEq, Repr

def decodeRiAck2bits (qBits : Nat → Int) (cSeq : Nat → Bool) (pos : Nat → UciBit) (Qm : Nat) (data : UciSum)
    : UciSum :=
  let q (j : Nat) : Int := descrambled qBits cSeq (pos j).position (pos j).position
  let q0 := q (Qm * 0 + 0)
  let q1 := q (Qm * 0 + 1)
  let q2 := q (Qm * 1 + 0)
  let q3 := q (Qm * 1 + 1)
  let q4 := q (Qm * 2 + 0)
  let q5 := q (Qm * 2 + 1)
  {
    sum0 := toInt32 (data.sum0 - (q0 + q3))
    sum1 := toInt32 (data.sum1 - (q1 + q4))
    sum2 := toInt32 (data.sum2 - (q2 + q5))
  }

def srslteUciDecodeAckRi (cfg : PuschCfg) (qBits : Nat → Int) (cSeq : Nat → Bool) (beta : Rat) (HPrimeTotal OCqi : Nat)
    (ackRiBits : Nat → UciBit) (data : Bool × Bool) (nofBits : Nat) (isRi : Bool)
    : Option ((Bool × Bool) × (Nat → UciBit) × Nat) :=
  if beta < 0 then
    none
  else
    let Qprime := cfg.qPrimeRiAck nofBits OCqi beta
    let (ackRiBits, sum) := (List.range Qprime).foldl decodeSymbol (ackRiBits, {})
    some ((decide (sum.sum0 > 0), if nofBits = 2 then decide (sum.sum1 > 0) else data.2), ackRiBits, Qprime)
where
  decodeSymbol (s : (Nat → UciBit) × UciSum) (i : Nat) : (Nat → UciBit) × UciSum :=
    let bits := uciUlschInterleaveGen (cfg.columnSet isRi) i cfg.Qm HPrimeTotal cfg.nofSymb (cfg.Qm * i) s.1
    if nofBits = 2 ∧ i % 3 = 0 ∧ i > 0 then
      (bits, decodeRiAck2bits qBits cSeq (fun j => bits (cfg.Qm * (i - 3) + j)) cfg.Qm s.2)
    else if nofBits = 1 then
      (bits, { s.2 with
        sum0 := toInt32 (s.2.sum0 + decodeRiAck1bit qBits cSeq (fun j => bits (cfg.Qm * i + j))) })
    else
      (bits, s.2)


structure UlInterleaver where
  riPresent : Nat → Bool
  interleaverLut : Nat → Nat

def ulschInterleaveGen (HPrimeTotal NPuschSymbs Qm : Nat) (riPresent : Nat → Bool) (interleaverLut : Nat → Nat)
    : Nat → Nat :=
  let rows := HPrimeTotal / NPuschSymbs
  let cols := NPuschSymbs
  let (lut, _) := (List.range rows).foldl (fun s j =>
    (List.range cols).foldl (fun s i =>
      (List.range Qm).foldl (fun s k => entry s (j * Qm + i * rows * Qm + k)) s) s) (interleaverLut, 0)
  lut
where
  entry (s : (Nat → Nat) × Nat) (p : Nat) : (Nat → Nat) × Nat :=
    let (lut, idx) := s
    if riPresent p then
      (Function.update lut p 0, idx)
    else
      (Function.update lut p idx, idx + 1)

def srslteBitInterleaveI (input output : Nat → Bool) (interleaver : Nat → Nat) (nofBits : Nat) : Nat → Bool :=
  (List.range nofBits).foldl (fun output i => Function.update output i (input (interleaver i))) output

def srslteVecLutSis (x : Nat → Int) (lut : Nat → Nat) (y : Nat → Int) (len : Nat) : Nat → Int :=
  (List.range len).foldl (fun y i => Function.update y (lut i) (x i)) y

namespace UlInterleaver

def setRi (riBits : List UciBit) (present : Bool) (riPresent : Nat → Bool) : Nat → Bool :=
  riBits.foldl (fun riPresent bit => Function.update riPresent bit.position present) riPresent

def generate (q : UlInterleaver) (HPrimeTotal NPuschSymbs Qm : Nat) (riBits : List UciBit) : UlInterleaver :=
  let riPresent := setRi riBits true q.riPresent
  {
    riPresent := setRi riBits false riPresent
    interleaverLut := ulschInterleaveGen HPrimeTotal NPuschSymbs Qm riPresent q.interleaverLut
  }

def ulschInterleave (q : UlInterleaver) (gBits : Nat → Bool) (Qm HPrimeTotal NPuschSymbs : Nat) (qBits : Nat → Bool)
    (riBits : List UciBit) : (Nat → Bool) × UlInterleaver :=
  let q := q.generate HPrimeTotal NPuschSymbs Qm riBits
  (srslteBitInterleaveI gBits qBits q.interleaverLut (HPrimeTotal * Qm), q)

def ulschDeinterleave (q : UlInterleaver) (qBits : Nat → Int) (Qm HPrimeTotal NPuschSymbs : Nat) (gBits : Nat → Int)
    (riBits : List UciBit) : (Nat → Int) × UlInterleaver :=
  let q := q.generate HPrimeTotal NPuschSymbs Qm riBits
  (srslteVecLutSis qBits q.interleaverLut gBits (HPrimeTotal * Qm), q)

end UlInterleaver

end SrsLte
