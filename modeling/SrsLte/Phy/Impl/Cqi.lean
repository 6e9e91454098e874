import SrsLte.Common.Basic
import SrsLte.Phy.Bit

/-!
This module contains the packing of CQI reports and the TTIs they are sent in of `lib/src/phy/phch/cqi.c`. The fields of type `uint8_t` and
`uint32_t` are natural numbers, storing a read value in a `uint8_t` reduces it modulo `2 ^ 8`. A report is packed into
a buffer that has room for it.
-/

namespace SrsLte

structure CqiHlSubband where
  widebandCqiCw0 : Nat
  subbandDiffCqiCw0 : Nat
  widebandCqiCw1 : Nat
  subbandDiffCqiCw1 : Nat
  pmi : Nat
  N : Nat
  pmiPresent : Bool
  fourAntennaPorts : Bool
  rankIsNotOne : Bool
deriving DecidableEq, Repr

structure CqiUeSubband where
  widebandCqi : Nat
  subbandDiffCqi : Nat
  positionSubband : Nat
  L : Nat
deriving DecidableEq, Repr

structure CqiFormat2Wideband where
  widebandCqi : Nat
  spatialDiffCqi : Nat
  pmi : Nat
  pmiPresent : Bool
  fourAntennaPorts : Bool
  rankIsNotOne : Bool
deriving DecidableEq, Repr

structure CqiFormat2Subband where
  subbandCqi : Nat
  subbandLabel : Nat
  subbandLabel2Bits : Bool
deriving DecidableEq, Repr

inductive CqiValue where
  | wideband (msg : CqiFormat2Wideband)
  | subband (msg : CqiFormat2Subband)
  | subbandUe (msg : CqiUeSubband)
  | subbandHl (msg : CqiHlSubband)
deriving DecidableEq, Repr

def srslteCqiHlSubbandPack (msg : CqiHlSubband) : List Bool × Nat :=
  let bits := srslteBitUnpack msg.widebandCqiCw0 4 ++ srslteBitUnpack msg.subbandDiffCqiCw0 (2 * msg.N)
  let bitCount := 4 + 2 * msg.N
  let (bits, bitCount) :=
    if msg.rankIsNotOne then
      (bits ++ srslteBitUnpack msg.widebandCqiCw1 4 ++ srslteBitUnpack msg.subbandDiffCqiCw1 (2 * msg.N),
        bitCount + (4 + 2 * msg.N))
    else
      (bits, bitCount)
  if msg.pmiPresent then
    if msg.fourAntennaPorts then
      (bits ++ srslteBitUnpack msg.pmi 4, bitCount + 4)
    else if msg.rankIsNotOne then
      (bits ++ srslteBitUnpack msg.pmi 1, bitCount + 1)
    else
      (bits ++ srslteBitUnpack msg.pmi 2, bitCount + 2)
  else
    (bits, bitCount)

def srslteCqiUeSubbandPack (msg : CqiUeSubband) : List Bool × Nat :=
  (srslteBitUnpack msg.widebandCqi 4 ++ srslteBitUnpack msg.subbandDiffCqi 2 ++ srslteBitUnpack msg.subbandDiffCqi msg.L,
    4 + 2 + msg.L)

def srslteCqiFormat2WidebandPack (msg : CqiFormat2Wideband) : List Bool × Nat :=
  let bits := srslteBitUnpack msg.widebandCqi 4
  let bits :=
    if msg.pmiPresent then
      if msg.fourAntennaPorts then
        let bits := if msg.rankIsNotOne then bits ++ srslteBitUnpack msg.spatialDiffCqi 3 else bits
        bits ++ srslteBitUnpack msg.pmi 4
      else if msg.rankIsNotOne then
        bits ++ srslteBitUnpack msg.spatialDiffCqi 3 ++ srslteBitUnpack msg.pmi 1
      else
        bits ++ srslteBitUnpack msg.pmi 2
    else
      bits
  (bits, bits.length)

def srslteCqiFormat2SubbandPack (msg : CqiFormat2Subband) : List Bool × Nat :=
  (srslteBitUnpack msg.subbandCqi 4 ++ srslteBitUnpack msg.subbandLabel (if msg.subbandLabel2Bits then 2 else 1),
    if 4 + msg.subbandLabel2Bits.toNat ≠ 0 then 2 else 1)

def srslteCqiValuePack (value : CqiValue) : List Bool × Nat :=
  match value with
  | .wideband msg => srslteCqiFormat2WidebandPack msg
  | .subband msg => srslteCqiFormat2SubbandPack msg
  | .subbandUe msg => srslteCqiUeSubbandPack msg
  | .subbandHl msg => srslteCqiHlSubbandPack msg

def srslteCqiHlSubbandUnpack (buff : List Bool) (msg : CqiHlSubband)
    : Option (Nat × CqiHlSubband × List Bool) := do
  let (widebandCqiCw0, body) ← srslteBitPack buff 4
  let (subbandDiffCqiCw0, body) ← srslteBitPack body (2 * msg.N)
  let msg := { msg with widebandCqiCw0 := widebandCqiCw0 % 2 ^ 8, subbandDiffCqiCw0 }
  let (bitCount, msg, body) ← readCodeword1 (4 + 2 * msg.N) msg body
  readPmi bitCount msg body
where
  readCodeword1 (bitCount : Nat) (msg : CqiHlSubband) (body : List Bool)
      : Option (Nat × CqiHlSubband × List Bool) := do
    if msg.rankIsNotOne then
      let (widebandCqiCw1, body) ← srslteBitPack body 4
      let (subbandDiffCqiCw1, body) ← srslteBitPack body (2 * msg.N)
      return (bitCount + (4 + 2 * msg.N),
        { msg with widebandCqiCw1 := widebandCqiCw1 % 2 ^ 8, subbandDiffCqiCw1 }, body)
    else
      return (bitCount, msg, body)
  readPmi (bitCount : Nat) (msg : CqiHlSubband) (body : List Bool)
      : Option (Nat × CqiHlSubband × List Bool) := do
    if msg.pmiPresent then
      if msg.fourAntennaPorts then
        let (pmi, body) ← srslteBitPack body 4
        return (bitCount + 4, { msg with pmi := pmi % 2 ^ 8 }, body)
      else if msg.rankIsNotOne then
        let (pmi, body) ← srslteBitPack body 1
        return (bitCount + 1, { msg with pmi := pmi % 2 ^ 8 }, body)
      else
        let (pmi, body) ← srslteBitPack body 2
        return (bitCount + 2, { msg with pmi := pmi % 2 ^ 8 }, body)
    else
      return (bitCount, msg, body)

def srslteCqiUeSubbandUnpack (buff : List Bool) (msg : CqiUeSubband) : Option (Nat × CqiUeSubband × List Bool) := do
  let (widebandCqi, body) ← srslteBitPack buff 4
  let msg := { msg with widebandCqi := widebandCqi % 2 ^ 8 }
  let (subbandDiffCqi, body) ← srslteBitPack body 2
  let msg := { msg with subbandDiffCqi := subbandDiffCqi % 2 ^ 8 }
  let (subbandDiffCqi, body) ← srslteBitPack body msg.L
  let msg := { msg with subbandDiffCqi := subbandDiffCqi % 2 ^ 8 }
  return (4 + 2 + msg.L, msg, body)

def srslteCqiFormat2WidebandUnpack (buff : List Bool) (msg : CqiFormat2Wideband)
    : Option (Nat × CqiFormat2Wideband × List Bool) := do
  let (widebandCqi, body) ← srslteBitPack buff 4
  let msg := { msg with widebandCqi := widebandCqi % 2 ^ 8 }
  if msg.pmiPresent then
    if msg.fourAntennaPorts then
      let (msg, body) ← if msg.rankIsNotOne then readSpatialDiffCqi msg body else some (msg, body)
      let (msg, body) ← readPmi 4 msg body
      return (4, msg, body)
    else if msg.rankIsNotOne then
      let (msg, body) ← readSpatialDiffCqi msg body
      let (msg, body) ← readPmi 1 msg body
      return (4, msg, body)
    else
      let (msg, body) ← readPmi 2 msg body
      return (4, msg, body)
  else
    return (4, msg, body)
where
  readSpatialDiffCqi (msg : CqiFormat2Wideband) (body : List Bool) : Option (CqiFormat2Wideband × List Bool) := do
    let (spatialDiffCqi, body) ← srslteBitPack body 3
    return ({ msg with spatialDiffCqi := spatialDiffCqi % 2 ^ 8 }, body)
  readPmi (nofBits : Nat) (msg : CqiFormat2Wideband) (body : List Bool)
      : Option (CqiFormat2Wideband × List Bool) := do
    let (pmi, body) ← srslteBitPack body nofBits
    return ({ msg with pmi := pmi % 2 ^ 8 }, body)

def srslteCqiFormat2SubbandUnpack (buff : List Bool) (msg : CqiFormat2Subband)
    : Option (Nat × CqiFormat2Subband × List Bool) := do
  let (subbandCqi, body) ← srslteBitPack buff 4
  let (subbandLabel, body) ← srslteBitPack body (if msg.subbandLabel2Bits then 2 else 1)
  return (if 4 + msg.subbandLabel2Bits.toNat ≠ 0 then 2 else 1,
    { msg with subbandCqi := subbandCqi % 2 ^ 8, subbandLabel := subbandLabel % 2 ^ 8 }, body)

def srslteCqiValueUnpack (buff : List Bool) (value : CqiValue) : Option (Nat × CqiValue × List Bool) :=
  match value with
  | .wideband msg => (srslteCqiFormat2WidebandUnpack buff msg).map fun (n, msg, body) => (n, .wideband msg, body)
  | .subband msg => (srslteCqiFormat2SubbandUnpack buff msg).map fun (n, msg, body) => (n, .subband msg, body)
  | .subbandUe msg => (srslteCqiUeSubbandUnpack buff msg).map fun (n, msg, body) => (n, .subbandUe msg, body)
  | .subbandHl msg => (srslteCqiHlSubbandUnpack buff msg).map fun (n, msg, body) => (n, .subbandHl msg, body)

def srslteCqiSize (value : CqiValue) : Nat :=
  match value with
  | .wideband msg =>
    4 + (if msg.pmiPresent then
      if msg.fourAntennaPorts then
        (if msg.rankIsNotOne then 3 else 0) + 4
      else if msg.rankIsNotOne then
        3 + 1
      else
        0 + 2
    else
      0)
  | .subband msg => if 4 + msg.subbandLabel2Bits.toNat ≠ 0 then 2 else 1
  | .subbandUe msg => 4 + 2 + msg.L
  | .subbandHl msg =>
    let size := 4 + 2 * msg.N
    let size := if msg.rankIsNotOne && msg.pmiPresent then size + (4 + 2 * msg.N) else size
    if msg.pmiPresent then
      if msg.fourAntennaPorts then
        size + 4
      else if msg.rankIsNotOne then
        size + 1
      else
        size + 2
    else
      size

def srslteCqiGetN (ICqiPmi : Nat) : Option (Nat × Nat) :=
  if ICqiPmi ≤ 1 then
    some (2, ICqiPmi)
  else if ICqiPmi ≤ 6 then
    some (5, ICqiPmi - 2)
  else if ICqiPmi ≤ 16 then
    some (10, ICqiPmi - 7)
  else if ICqiPmi ≤ 36 then
    some (20, ICqiPmi - 17)
  else if ICqiPmi ≤ 76 then
    some (40, ICqiPmi - 37)
  else if ICqiPmi ≤ 156 then
    some (80, ICqiPmi - 77)
  else if ICqiPmi ≤ 316 then
    some (160, ICqiPmi - 157)
  else if ICqiPmi = 317 then
    none
  else if ICqiPmi ≤ 349 then
    some (32, ICqiPmi - 318)
  else if ICqiPmi ≤ 413 then
    some (64, ICqiPmi - 350)
  else if ICqiPmi ≤ 541 then
    some (128, ICqiPmi - 414)
  else if ICqiPmi ≤ 1023 then
    none
  else
    some (0, 0)

def srslteCqiSend (ICqiPmi tti : Nat) : Bool :=
  match srslteCqiGetN ICqiPmi with
  | none => false
  | some (Np, NOffset) => Np ≠ 0 ∧ u32Sub tti NOffset % Np = 0

def srslteRiSend.MRi (IRi : Nat) : Nat × Nat :=
  if IRi ≤ 160 then
    (1, IRi)
  else if IRi ≤ 161 then
    (2, u32Sub IRi 161)
  else if IRi ≤ 322 then
    (4, u32Sub IRi 322)
  else if IRi ≤ 483 then
    (8, u32Sub IRi 483)
  else if IRi ≤ 644 then
    (16, u32Sub IRi 644)
  else if IRi ≤ 805 then
    (32, u32Sub IRi 805)
  else
    (0, 0)

def srslteRiSend (ICqiPmi IRi tti : Nat) : Bool :=
  match srslteCqiGetN ICqiPmi with
  | none => false
  | some (Np, NOffsetP) =>
    let (MRi, NOffsetRi) := srslteRiSend.MRi IRi
    MRi ≠ 0 ∧ Np ≠ 0 ∧ (u32Sub tti NOffsetP + NOffsetRi) % 2 ^ 32 % (Np * MRi) = 0

end SrsLte
