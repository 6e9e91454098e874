import SrsLte.Common.Basic
import Mathlib.Data.List.Basic

/-!
This module contains the code block segmentation in `cbsegm.c`, the receive soft buffers in `softbuffer.c` and what
the decoder of the shared channels does to them. The soft bits of a code block are represented by the transport blocks,
which are numbered, that have been combined into it.
-/

namespace SrsLte

def tcodMaxLenCb : Nat := 6144

def tcCbSizes : List Nat :=
  [40, 48, 56, 64, 72, 80, 88, 96, 104, 112, 120, 128, 136, 144, 152, 160, 168, 176, 184, 192, 200,
    208, 216, 224, 232, 240, 248, 256, 264, 272, 280, 288, 296, 304, 312, 320, 328, 336, 344, 352,
    360, 368, 376, 384, 392, 400, 408, 416, 424, 432, 440, 448, 456, 464, 472, 480, 488, 496, 504,
    512, 528, 544, 560, 576, 592, 608, 624, 640, 656, 672, 688, 704, 720, 736, 752, 768, 784, 800,
    816, 832, 848, 864, 880, 896, 912, 928, 944, 960, 976, 992, 1008, 1024, 1056, 1088, 1120, 1152,
    1184, 1216, 1248, 1280, 1312, 1344, 1376, 1408, 1440, 1472, 1504, 1536, 1568, 1600, 1632, 1664,
    1696, 1728, 1760, 1792, 1824, 1856, 1888, 1920, 1952, 1984, 2016, 2048, 2112, 2176, 2240, 2304,
    2368, 2432, 2496, 2560, 2624, 2688, 2752, 2816, 2880, 2944, 3008, 3072, 3136, 3200, 3264, 3328,
    3392, 3456, 3520, 3584, 3648, 3712, 3776, 3840, 3904, 3968, 4032, 4096, 4160, 4224, 4288, 4352,
    4416, 4480, 4544, 4608, 4672, 4736, 4800, 4864, 4928, 4992, 5056, 5120, 5184, 5248, 5312, 5376,
    5440, 5504, 5568, 5632, 5696, 5760, 5824, 5888, 5952, 6016, 6080, 6144]

structure Cbsegm where
  F : Nat := 0
  C : Nat := 0
  K1 : Nat := 0
  K2 : Nat := 0
  K1Idx : Nat := 0
  K2Idx : Nat := 0
  C1 : Nat := 0
  C2 : Nat := 0
  tbs : Nat := 0
  deriving DecidableEq

def srslteCbsegmCbindex (longCb : Nat) : Option Nat :=
  let j := tcCbSizes.findIdx (fun size => ¬ size < longCb)
  if j = tcCbSizes.length then none else some j

def srslteCbsegmCbsize (index : Nat) : Option Nat :=
  tcCbSizes[index]?

def nofCodeBlocks (B : Nat) : Nat :=
  if B ≤ tcodMaxLenCb then 1 else (B + (tcodMaxLenCb - 24 - 1)) / (tcodMaxLenCb - 24)

def withCodeBlockCrcs (B : Nat) : Nat :=
  if B ≤ tcodMaxLenCb then B else (B + 24 * nofCodeBlocks B) % 2 ^ 32

def Cbsegm.ofSizes (tbs C Bp K1 K1Idx K2 : Nat) : Cbsegm :=
  if C = 1 then
    let F := u32Sub K1 Bp
    { tbs, C, K1, K1Idx, K2 := 0, K2Idx := 0, C2 := 0, C1 := 1, F }
  else
    let C2 := u32Sub (C * K1) Bp / (K1 - K2)
    let C1 := u32Sub C C2
    let F := u32Sub (C1 * K1 + C2 * K2) Bp
    { tbs, C, K1, K1Idx, K2, K2Idx := K1Idx - 1, C2, C1, F }

def srslteCbsegm (tbs : Nat) : Option Cbsegm :=
  if tbs = 0 then
    some {}
  else
    let B := (tbs + 24) % 2 ^ 32
    let C := nofCodeBlocks B
    let Bp := withCodeBlockCrcs B
    match srslteCbsegmCbindex ((u32Sub Bp 1 / C + 1) % 2 ^ 32) with
    | some idx1 =>
      match srslteCbsegmCbsize idx1 with
      | some K1 =>
        match if idx1 > 0 then srslteCbsegmCbsize (idx1 - 1) else some K1 with
        | some K2 => some (Cbsegm.ofSizes tbs C Bp K1 idx1 K2)
        | none => none
      | none => none
    | none => none


structure SoftbufferRx where
  maxCb : Nat
  bufferF : Nat → List Nat := fun _ => []
  data : Nat → Nat := fun _ => 0
  cbCrc : Nat → Bool := fun _ => false

/--
The code blocks of a reception that the decoder combines with what it has and the ones that then pass
their CRC.
-/
structure Reception where
  combined : Nat → Bool
  decoded : Nat → Bool

namespace SoftbufferRx

def resetCb (q : SoftbufferRx) (nofCb : Nat) : SoftbufferRx :=
  let nofCb := if nofCb > q.maxCb then q.maxCb else nofCb
  { q with bufferF := fun i => if i < nofCb then [] else q.bufferF i, cbCrc := fun _ => false }

def resetTbs (q : SoftbufferRx) (tbs : Nat) : SoftbufferRx :=
  let nofCb := (tbs + 24) / (tcodMaxLenCb - 24) + 1
  q.resetCb nofCb

def reset (q : SoftbufferRx) : SoftbufferRx :=
  q.resetCb q.maxCb

def nofCb (tbs : Nat) : Nat :=
  if tbs = 0 then 0 else nofCodeBlocks (tbs + 24)

def decodeTb (q : SoftbufferRx) (tb tbs : Nat) (rx : Reception) : SoftbufferRx :=
  if nofCb tbs > q.maxCb then
    -- Number of CB exceeds soft buffer size
    q
  else
    {
      q with
      bufferF := fun i => if i < nofCb tbs ∧ rx.combined i then q.bufferF i ++ [tb] else q.bufferF i,
      data := fun i => if i < nofCb tbs ∧ rx.decoded i then tb else q.data i,
      cbCrc := fun i => q.cbCrc i || decide (i < nofCb tbs ∧ rx.decoded i)
    }

end SoftbufferRx

end SrsLte
