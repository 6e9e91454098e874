import SrsLte.Common.Basic
import SrsLte.Data.Trace
import SrsLte.Phy.Bit

/-!
This module contains the resource allocation types of `ra.h`, the allocation arithmetic of `lib/src/phy/phch/ra.c` and
the packing of DCI messages of `lib/src/phy/phch/dci.c`. The arithmetic is that of `uint32_t`. The bytes of
`srslte_dci_msg_t`, which hold one bit each, are a `List Bool` with the whole content of the buffer, and `none` is
`SRSLTE_ERROR`. The allocations of the union in `srslte_ra_dl_dci_t` are fields of their own.
-/

namespace SrsLte

def ceilLog2 (x : Nat) : Nat :=
  if x ≤ 1 then 0 else Nat.log2 (x - 1) + 1

def ceilDiv (a b : Nat) : Nat :=
  (a + b - 1) / b

inductive RaType where
  | type0
  | type1
  | type2
deriving DecidableEq, Repr

structure RaType0 where
  rbgBitmask : Nat := 0
deriving DecidableEq, Repr

structure RaType1 where
  vrbBitmask : Nat := 0
  rbgSubset : Nat := 0
  shift : Bool := false
deriving DecidableEq, Repr

inductive RaNPrb1a where
  | nPrb1a2
  | nPrb1a3
deriving DecidableEq, Repr

inductive RaNGap where
  | ng1
  | ng2
deriving DecidableEq, Repr

inductive RaMode where
  | loc
  | dist
deriving DecidableEq, Repr

structure RaType2 where
  riv : Nat := 0
  LCrb : Nat := 0
  RBStart : Nat := 0
  nPrb1a : RaNPrb1a := .nPrb1a2
  nGap : RaNGap := .ng1
  mode : RaMode := .loc
deriving DecidableEq, Repr

def RaNPrb1a.toBool : RaNPrb1a → Bool
  | .nPrb1a2 => false
  | .nPrb1a3 => true

def RaNPrb1a.ofBool : Bool → RaNPrb1a
  | false => .nPrb1a2
  | true => .nPrb1a3

def RaNGap.toBool : RaNGap → Bool
  | .ng1 => false
  | .ng2 => true

def RaNGap.ofBool : Bool → RaNGap
  | false => .ng1
  | true => .ng2

def RaMode.toBool : RaMode → Bool
  | .loc => false
  | .dist => true

def RaMode.ofBool : Bool → RaMode
  | false => .loc
  | true => .dist

def srslteRaType0P (nofPrb : Nat) : Nat :=
  if nofPrb ≤ 10 then
    1
  else if nofPrb ≤ 26 then
    2
  else if nofPrb ≤ 63 then
    3
  else
    4

def srslteRaType2ToRiv (LCrb RBStart nofPrb : Nat) : Nat :=
  if u32Sub LCrb 1 ≤ nofPrb / 2 then
    (nofPrb * u32Sub LCrb 1 + RBStart) % 2 ^ 32
  else
    u32Sub (nofPrb * (u32Sub nofPrb LCrb + 1) + nofPrb - 1) RBStart

def srslteRaType2FromRiv (riv nofPrb nofVrb : Nat) : Nat × Nat :=
  let LCrb := riv / nofPrb + 1
  let RBStart := riv % nofPrb
  if LCrb > u32Sub nofVrb RBStart then
    ((u32Sub nofPrb (riv / nofPrb) + 1) % 2 ^ 32, nofPrb - riv % nofPrb - 1)
  else
    (LCrb, RBStart)

def srslteRaType2Ngap (nofPrb : Nat) (ngapIs1 : Bool) : Nat :=
  if nofPrb ≤ 10 then
    nofPrb / 2
  else if nofPrb = 11 then
    4
  else if nofPrb ≤ 19 then
    8
  else if nofPrb ≤ 26 then
    12
  else if nofPrb ≤ 44 then
    18
  else if nofPrb ≤ 49 then
    27
  else if nofPrb ≤ 63 then
    if ngapIs1 then 27 else 9
  else if nofPrb ≤ 79 then
    if ngapIs1 then 32 else 16
  else
    if ngapIs1 then 48 else 16

def srslteRaType2NRbStep (nofPrb : Nat) : Nat :=
  if nofPrb < 50 then 2 else 4

def srslteRaType2NVrbDl (nofPrb : Nat) (ngapIs1 : Bool) : Nat :=
  let ngap := srslteRaType2Ngap nofPrb ngapIs1
  if ngapIs1 then
    2 * (if ngap < nofPrb - ngap then ngap else nofPrb - ngap)
  else
    nofPrb / ngap * 2 * ngap


def harqPidLen : Nat := 3

inductive DciFormat where
  | format0
  | format1
  | format1A
  | format1C
  | format1B
  | format1D
  | format2
  | format2A
  | format2B
deriving DecidableEq, Repr

structure DciMsg where
  data : List Bool
  nofBits : Nat
  format : DciFormat
deriving DecidableEq, Repr

inductive RaPuschHop where
  | disabled
  | quart
  | quartNeg
  | half
  | type2
deriving DecidableEq, Repr

structure RaUlDci where
  freqHopFl : RaPuschHop
  type2Alloc : RaType2
  mcsIdx : Nat
  nDmrs : Nat
  ndi : Bool
  cqiRequest : Bool
  tpcPusch : Nat
deriving DecidableEq, Repr

structure RaDlDci where
  allocType : RaType := .type0
  type0Alloc : RaType0 := {}
  type1Alloc : RaType1 := {}
  type2Alloc : RaType2 := {}
  harqProcess : Nat := 0
  mcsIdx : Nat := 0
  rvIdx : Int := 0
  ndi : Bool := false
  mcsIdx1 : Nat := 0
  rvIdx1 : Int := 0
  ndi1 : Bool := false
  tbCwSwap : Bool := false
  sramId : Bool := false
  pinfo : Nat := 0
  pconf : Bool := false
  powerOffset : Bool := false
  tpcPucch : Nat := 0
  tbEn0 : Bool := false
  tbEn1 : Bool := false
  isRaOrder : Bool := false
  raPreamble : Nat := 0
  raMaskIdx : Nat := 0
  dciIs1a : Bool := false
  dciIs1c : Bool := false
deriving DecidableEq, Repr

/-! ### Sizes -/

def rivNbits (nofPrb : Nat) : Nat :=
  ceilLog2 (nofPrb * (nofPrb + 1) / 2)

def ambiguousSizes : List Nat :=
  [12, 14, 16, 20, 24, 26, 32, 40, 44, 56]

def isAmbiguousSize (size : Nat) : Bool :=
  ambiguousSizes.contains size

def skipAmbiguous (n : Nat) : Nat :=
  Loop.whileDo (fun n => isAmbiguousSize n = true) (· + 1) 57 n

def dciFormat0SizeofUnpadded (nofPrb : Nat) : Nat :=
  1 + 1 + rivNbits nofPrb + 5 + 1 + 2 + 3 + 1

def dciFormat1ASizeof (nofPrb : Nat) : Nat :=
  let n := 1 + 1 + rivNbits nofPrb + 5 + harqPidLen + 1 + 2 + 2
  let n := max n (dciFormat0SizeofUnpadded nofPrb)
  if isAmbiguousSize n then n + 1 else n

def dciFormat0Sizeof (nofPrb : Nat) : Nat :=
  max (dciFormat0SizeofUnpadded nofPrb) (dciFormat1ASizeof nofPrb)

def dciFormat1Sizeof (nofPrb : Nat) : Nat :=
  let n := ceilDiv nofPrb (srslteRaType0P nofPrb) + 5 + harqPidLen + 1 + 2 + 2
  let n := if nofPrb > 10 then n + 1 else n
  Loop.whileDo
    (fun n => n = dciFormat0Sizeof nofPrb ∨ n = dciFormat1ASizeof nofPrb ∨ isAmbiguousSize n = true) (· + 1)
    (57 + dciFormat0Sizeof nofPrb + dciFormat1ASizeof nofPrb) n

def dciFormat1CSizeof (nofPrb : Nat) : Nat :=
  let nVrbDlGap1 := srslteRaType2NVrbDl nofPrb true
  let nStep := srslteRaType2NRbStep nofPrb
  let n := rivNbits (nVrbDlGap1 / nStep) + 5
  if nofPrb ≥ 50 then n + 1 else n

def tpmiBits (nofPorts : Nat) : Nat :=
  if nofPorts ≤ 2 then 2 else 4

def dciFormat1BSizeof (nofPrb nofPorts : Nat) : Nat :=
  skipAmbiguous (dciFormat1ASizeof nofPrb - 1 + tpmiBits nofPorts + 1)

def dciFormat1DSizeof (nofPrb nofPorts : Nat) : Nat :=
  dciFormat1BSizeof nofPrb nofPorts

def precodingBitsF2 (nofPorts : Nat) : Nat :=
  if nofPorts ≤ 2 then 3 else 6

def precodingBitsF2a (nofPorts : Nat) : Nat :=
  if nofPorts ≤ 2 then 0 else 2

def dciFormat2XSizeof (nofPrb precodingBits : Nat) : Nat :=
  let n := ceilDiv nofPrb (srslteRaType0P nofPrb) + 2 + harqPidLen + 1 + 2 * (5 + 1 + 2) + precodingBits
  skipAmbiguous (if nofPrb > 10 then n + 1 else n)

def dciFormat2Sizeof (nofPrb nofPorts : Nat) : Nat :=
  dciFormat2XSizeof nofPrb (precodingBitsF2 nofPorts)

def dciFormat2ASizeof (nofPrb nofPorts : Nat) : Nat :=
  dciFormat2XSizeof nofPrb (precodingBitsF2a nofPorts)

def dciFormat2BSizeof (nofPrb _nofPorts : Nat) : Nat :=
  dciFormat2XSizeof nofPrb 0

def srslteDciFormatSizeof (format : DciFormat) (nofPrb nofPorts : Nat) : Nat :=
  match format with
  | .format0 => dciFormat0Sizeof nofPrb
  | .format1 => dciFormat1Sizeof nofPrb
  | .format1A => dciFormat1ASizeof nofPrb
  | .format1C => dciFormat1CSizeof nofPrb
  | .format1B => dciFormat1BSizeof nofPrb nofPorts
  | .format1D => dciFormat1DSizeof nofPrb nofPorts
  | .format2 => dciFormat2Sizeof nofPrb nofPorts
  | .format2A => dciFormat2ASizeof nofPrb nofPorts
  | .format2B => dciFormat2BSizeof nofPrb nofPorts

/-! ### Reading and writing -/

def nextBit (y : List Bool) : Option (Bool × List Bool) :=
  match y with
  | [] => none
  | bit :: y => some (bit, y)

def padTo (n : Nat) (bits : List Bool) : List Bool :=
  bits ++ List.replicate (n - bits.length) false

namespace DciMsg

def skip (msg : DciMsg) (bits : List Bool) : List Bool :=
  bits ++ [msg.data[bits.length]?.getD false]

def write (msg : DciMsg) (bits : List Bool) : DciMsg :=
  { msg with data := bits ++ msg.data.drop bits.length, nofBits := bits.length }

end DciMsg

def RaType2.toRiv (alloc : RaType2) (nofPrb : Nat) : Nat :=
  if alloc.LCrb ≠ 0 then srslteRaType2ToRiv alloc.LCrb alloc.RBStart nofPrb else alloc.riv

/-! ### Format 0 -/

namespace RaPuschHop

def bit0 (hop : RaPuschHop) : Bool :=
  match hop with
  | .quart | .half => false
  | .quartNeg | .type2 | .disabled => true

def bit1 (hop : RaPuschHop) : Bool :=
  match hop with
  | .quart | .quartNeg => false
  | .half | .type2 | .disabled => true

def ofBits (bit1 bit0 : Bool) : RaPuschHop :=
  match bit1, bit0 with
  | false, false => .quart
  | false, true => .quartNeg
  | true, false => .half
  | true, true => .type2

def nUlHop (nofPrb : Nat) (hop : RaPuschHop) : Nat :=
  if hop = .disabled then 0 else if nofPrb < 50 then 1 else 2

def pack (nofPrb : Nat) (hop : RaPuschHop) : List Bool :=
  if hop = .disabled then
    [false]
  else if nofPrb < 50 then
    [true, hop.bit0]
  else
    [true, hop.bit1, hop.bit0]

def unpack (nofPrb : Nat) (y : List Bool) : Option (RaPuschHop × Nat × List Bool) := do
  let (flag, y) ← nextBit y
  if flag then
    if nofPrb < 50 then
      let (bit0, y) ← nextBit y
      return (ofBits false bit0, 1, y)
    else
      let (bit1, y) ← nextBit y
      let (bit0, y) ← nextBit y
      return (ofBits bit1 bit0, 2, y)
  else
    return (.disabled, 0, y)

end RaPuschHop

def dciFormat0Pack (data : RaUlDci) (msg : DciMsg) (nofPrb : Nat) : DciMsg :=
  msg.write (padTo (srslteDciFormatSizeof .format0 nofPrb 1) fields)
where
  fields : List Bool :=
    [false]
      ++ data.freqHopFl.pack nofPrb
      ++ srslteBitUnpack (data.type2Alloc.toRiv nofPrb) (rivNbits nofPrb - data.freqHopFl.nUlHop nofPrb)
      ++ srslteBitUnpack data.mcsIdx 5
      ++ [data.ndi]
      ++ srslteBitUnpack data.tpcPusch 2
      ++ srslteBitUnpack data.nDmrs 3
      ++ [data.cqiRequest]

def dciFormat0Unpack (msg : DciMsg) (data : RaUlDci) (nofPrb : Nat) : Option RaUlDci := do
  if msg.nofBits ≠ srslteDciFormatSizeof .format0 nofPrb 1 then
    none
  else
    let (differentiation, y) ← nextBit msg.data
    if differentiation then
      none
    else
      let (freqHopFl, nUlHop, y) ← RaPuschHop.unpack nofPrb y
      let (riv, y) ← srslteBitPack y (rivNbits nofPrb - nUlHop)
      let (LCrb, RBStart) := srslteRaType2FromRiv riv nofPrb nofPrb
      let (mcsIdx, y) ← srslteBitPack y 5
      let (ndi, y) ← nextBit y
      let (tpcPusch, y) ← srslteBitPack y 2
      let (nDmrs, y) ← srslteBitPack y 3
      let (cqiRequest, _) ← nextBit y
      return {
        data with
        freqHopFl, mcsIdx, ndi, tpcPusch, nDmrs, cqiRequest
        type2Alloc := { data.type2Alloc with riv, LCrb, RBStart }
      }

def srslteDciMsgPackPusch (data : RaUlDci) (msg : DciMsg) (nofPrb : Nat) : DciMsg :=
  dciFormat0Pack data msg nofPrb

def srslteDciMsgUnpackPusch (msg : DciMsg) (data : RaUlDci) (nofPrb : Nat) : Option RaUlDci :=
  dciFormat0Unpack msg data nofPrb

/-! ### Format 1 -/

namespace RaDlDci

def allocSize (nofPrb : Nat) : Nat :=
  ceilDiv nofPrb (srslteRaType0P nofPrb)

def subsetSize (nofPrb : Nat) : Nat :=
  ceilLog2 (srslteRaType0P nofPrb)

def packAlloc (data : RaDlDci) (nofPrb : Nat) : Option (List Bool) :=
  match data.allocType with
  | .type0 =>
    some (header false ++ srslteBitUnpack data.type0Alloc.rbgBitmask (allocSize nofPrb))
  | .type1 =>
    some (header true
      ++ srslteBitUnpack data.type1Alloc.rbgSubset (subsetSize nofPrb)
      ++ [data.type1Alloc.shift]
      ++ srslteBitUnpack data.type1Alloc.vrbBitmask (allocSize nofPrb - subsetSize nofPrb - 1))
  | .type2 => none
where
  header (allocType : Bool) : List Bool :=
    if nofPrb > 10 then [allocType] else []

def unpackAlloc (data : RaDlDci) (nofPrb : Nat) (y : List Bool) : Option (RaDlDci × List Bool) := do
  let (allocType, y) ← if nofPrb > 10 then nextBit y else some (false, y)
  if allocType then
    let (rbgSubset, y) ← srslteBitPack y (subsetSize nofPrb)
    let (shift, y) ← nextBit y
    let (vrbBitmask, y) ← srslteBitPack y (allocSize nofPrb - subsetSize nofPrb - 1)
    return ({ data with allocType := .type1, type1Alloc := { rbgSubset, shift, vrbBitmask } }, y)
  else
    let (rbgBitmask, y) ← srslteBitPack y (allocSize nofPrb)
    return ({ data with allocType := .type0, type0Alloc := { rbgBitmask } }, y)

def packRv (rvIdx : Int) : List Bool :=
  srslteBitUnpack (rvIdx % 2 ^ 32).toNat 2

end RaDlDci

def dciFormat1Pack (data : RaDlDci) (msg : DciMsg) (nofPrb : Nat) : Option (RaDlDci × DciMsg) := do
  let alloc ← data.packAlloc nofPrb
  return (data, msg.write (padTo (srslteDciFormatSizeof .format1 nofPrb 1) (alloc ++ fields)))
where
  fields : List Bool :=
    srslteBitUnpack data.mcsIdx 5
      ++ srslteBitUnpack data.harqProcess harqPidLen
      ++ [data.ndi]
      ++ RaDlDci.packRv data.rvIdx
      ++ srslteBitUnpack data.tpcPucch 2

def dciFormat1Unpack (msg : DciMsg) (data : RaDlDci) (nofPrb : Nat) : Option RaDlDci := do
  if msg.nofBits ≠ srslteDciFormatSizeof .format1 nofPrb 1 then
    none
  else
    let (data, y) ← data.unpackAlloc nofPrb msg.data
    let (mcsIdx, y) ← srslteBitPack y 5
    let (harqProcess, y) ← srslteBitPack y harqPidLen
    let (ndi, y) ← nextBit y
    let (rvIdx, _) ← srslteBitPack y 2
    return { data with mcsIdx, harqProcess, ndi, rvIdx, tbEn0 := true, tbEn1 := false }

/-! ### Format 1A -/

namespace RaType2

def nVrbDl (alloc : RaType2) (nofPrb : Nat) : Nat :=
  srslteRaType2NVrbDl nofPrb (alloc.nGap = .ng1)

def nofVrb (alloc : RaType2) (nofPrb : Nat) : Nat :=
  match alloc.mode with
  | .loc => nofPrb
  | .dist => alloc.nVrbDl nofPrb

def maxLCrb (alloc : RaType2) (nofPrb : Nat) (crcIsCrnti : Bool) : Nat :=
  match alloc.mode with
  | .loc => nofPrb
  | .dist => if crcIsCrnti ∧ nofPrb > 50 then 16 else alloc.nVrbDl nofPrb

def gapInRba (alloc : RaType2) (nofPrb : Nat) (crcIsCrnti : Bool) : Bool :=
  crcIsCrnti ∧ alloc.mode = .dist ∧ nofPrb ≥ 50

def packRba (alloc : RaType2) (nofPrb : Nat) (crcIsCrnti : Bool) : List Bool :=
  if alloc.gapInRba nofPrb crcIsCrnti then
    [alloc.nGap.toBool] ++ srslteBitUnpack (alloc.toRiv nofPrb) (rivNbits nofPrb - 1)
  else
    srslteBitUnpack (alloc.toRiv nofPrb) (rivNbits nofPrb)

def unpackRba (alloc : RaType2) (nofPrb : Nat) (crcIsCrnti : Bool) (y : List Bool) : Option (RaType2 × List Bool) := do
  let (nGap, nbGap, y) ←
    if alloc.gapInRba nofPrb crcIsCrnti then do
      let (nGap, y) ← nextBit y
      some (RaNGap.ofBool nGap, 1, y)
    else
      some (RaNGap.ng1, 0, y)
  let alloc := { alloc with nGap }
  let (riv, y) ← srslteBitPack y (rivNbits nofPrb - nbGap)
  let (LCrb, RBStart) := srslteRaType2FromRiv riv nofPrb (alloc.nofVrb nofPrb)
  return ({ alloc with riv, LCrb, RBStart }, y)

end RaType2

def dciFormat1AsPack (data : RaDlDci) (msg : DciMsg) (nofPrb : Nat) (crcIsCrnti : Bool)
    : Option (RaDlDci × DciMsg) :=
  if data.allocType ≠ .type2 then
    none
  else if data.type2Alloc.LCrb > data.type2Alloc.maxLCrb nofPrb crcIsCrnti then
    none
  else
    some ({ data with dciIs1a := true }, msg.write (padTo (srslteDciFormatSizeof .format1A nofPrb 1) fields))
where
  fields : List Bool :=
    let alloc := data.type2Alloc
    let bits := [true, alloc.mode.toBool]
    let bits := bits ++ alloc.packRba nofPrb crcIsCrnti
    let bits := bits ++ srslteBitUnpack data.mcsIdx 5 ++ srslteBitUnpack data.harqProcess harqPidLen
    let bits :=
      if crcIsCrnti then
        if nofPrb ≥ 50 ∧ alloc.mode = .dist then bits ++ [alloc.nGap.toBool] else msg.skip bits
      else
        bits ++ [data.ndi]
    let bits := bits ++ RaDlDci.packRv data.rvIdx
    if crcIsCrnti then bits ++ [false, false] else msg.skip bits ++ [alloc.nPrb1a.toBool]

def isRaOrder (y : List Bool) (nofBits nofPrb : Nat) : Bool :=
  let rba := rivNbits nofPrb
  y.head? = some false ∧
    (y.drop 1).take rba = List.replicate rba true ∧
    1 + 10 + rba ≤ nofBits - 1 ∧
    (y.drop (1 + 10 + rba)).take (nofBits - 1 - (1 + 10 + rba))
      = List.replicate (nofBits - 1 - (1 + 10 + rba)) false

def dciFormat1AsUnpack (msg : DciMsg) (data : RaDlDci) (nofPrb : Nat) (crcIsCrnti : Bool) : Option RaDlDci := do
  if msg.nofBits ≠ srslteDciFormatSizeof .format1A nofPrb 1 then
    none
  else
    let (differentiation, y) ← nextBit msg.data
    if !differentiation then
      none
    else
      let data := { data with dciIs1a := true }
      if isRaOrder y msg.nofBits nofPrb then
        let (raPreamble, y) ← srslteBitPack (y.drop (1 + rivNbits nofPrb)) 6
        let (raMaskIdx, _) ← srslteBitPack y 4
        return { data with isRaOrder := true, raPreamble, raMaskIdx }
      else
        let (mode, y) ← nextBit y
        let (alloc, y) ← { data.type2Alloc with mode := .ofBool mode }.unpackRba nofPrb crcIsCrnti y
        let (mcsIdx, y) ← srslteBitPack y 5
        let (harqProcess, y) ← srslteBitPack y harqPidLen
        let (bit, y) ← nextBit y
        let alloc :=
          if !crcIsCrnti && nofPrb ≥ 50 && alloc.mode = .dist then { alloc with nGap := .ofBool bit } else alloc
        let (rvIdx, y) ← srslteBitPack y 2
        let (_, y) ← nextBit y
        let (bit', _) ← nextBit y
        let alloc := if crcIsCrnti then alloc else { alloc with nPrb1a := .ofBool bit' }
        return {
          data with
          isRaOrder := false
          allocType := .type2
          type2Alloc := alloc
          ndi := if crcIsCrnti then bit else data.ndi
          mcsIdx, harqProcess, rvIdx
          tbEn0 := true
          tbEn1 := false
        }

/-! ### Formats 1B and 1D -/

def dciFormat1XUnpack (setLast : RaDlDci → Bool → RaDlDci) (msg : DciMsg) (data : RaDlDci) (nofPrb nofPorts : Nat)
    : Option RaDlDci := do
  let (mode, y) ← nextBit msg.data
  let (type2Alloc, y) ← { data.type2Alloc with mode := .ofBool mode }.unpackRba nofPrb true y
  let (mcsIdx, y) ← srslteBitPack y 5
  let (harqProcess, y) ← srslteBitPack y harqPidLen
  let (ndi, y) ← nextBit y
  let (rvIdx, y) ← srslteBitPack y 2
  let (pinfo, y) ← srslteBitPack (y.drop 2) (tpmiBits nofPorts)
  let (last, _) ← nextBit y
  return setLast {
    data with
    allocType := .type2
    type2Alloc, mcsIdx, harqProcess, ndi, rvIdx
    pinfo := pinfo % 2 ^ 8
    tbEn0 := true
    tbEn1 := false
  } last

def dciFormat1BUnpack : DciMsg → RaDlDci → Nat → Nat → Option RaDlDci :=
  dciFormat1XUnpack fun data pconf => { data with pconf }

def dciFormat1DUnpack : DciMsg → RaDlDci → Nat → Nat → Option RaDlDci :=
  dciFormat1XUnpack fun data powerOffset => { data with powerOffset }

/-! ### Format 1C -/

def dciFormat1CsPack (data : RaDlDci) (msg : DciMsg) (nofPrb : Nat) : Option (RaDlDci × DciMsg) :=
  let alloc := data.type2Alloc
  let nStep := srslteRaType2NRbStep nofPrb
  let nVrbDl := alloc.nVrbDl nofPrb
  if data.allocType ≠ .type2 ∨ alloc.mode ≠ .dist then
    none
  else if alloc.LCrb > nVrbDl / nStep * nStep then
    none
  else if alloc.LCrb % nStep ≠ 0 then
    none
  else if alloc.RBStart % nStep ≠ 0 then
    none
  else
    let riv :=
      if alloc.LCrb ≠ 0 then
        srslteRaType2ToRiv (alloc.LCrb / nStep) (alloc.RBStart / nStep) (nVrbDl / nStep)
      else
        alloc.riv
    some ({ data with dciIs1c := true }, msg.write (fields riv (nVrbDl / nStep)))
where
  fields (riv nVrbP : Nat) : List Bool :=
    (if nofPrb ≥ 50 then [data.type2Alloc.nGap.toBool] else [])
      ++ srslteBitUnpack riv (rivNbits nVrbP)
      ++ srslteBitUnpack data.mcsIdx 5

def dciFormat1CsUnpack (msg : DciMsg) (data : RaDlDci) (nofPrb : Nat) : Option RaDlDci := do
  if msg.nofBits ≠ srslteDciFormatSizeof .format1C nofPrb 1 then
    none
  else
    let (nGap, y) ←
      if nofPrb ≥ 50 then do
        let (nGap, y) ← nextBit msg.data
        some (RaNGap.ofBool nGap, y)
      else
        some (data.type2Alloc.nGap, msg.data)
    let alloc := { data.type2Alloc with mode := .dist, nGap }
    let nStep := srslteRaType2NRbStep nofPrb
    let nVrbP := alloc.nVrbDl nofPrb / nStep
    let (riv, y) ← srslteBitPack y (rivNbits nVrbP)
    let (LP, RBP) := srslteRaType2FromRiv riv nVrbP nVrbP
    let (mcsIdx, _) ← srslteBitPack y 5
    return {
      data with
      dciIs1c := true
      allocType := .type2
      type2Alloc := { alloc with riv, LCrb := LP * nStep, RBStart := RBP * nStep }
      mcsIdx
      rvIdx := -1
      tbEn0 := true
      tbEn1 := false
    }

/-! ### Formats 2, 2A and 2B -/

def DciFormat.precodingBits (format : DciFormat) (nofPorts : Nat) : Nat :=
  match format with
  | .format2 => precodingBitsF2 nofPorts
  | .format2A => precodingBitsF2a nofPorts
  | _ => 0

namespace RaDlDci

def forceDisabled (data : RaDlDci) : RaDlDci :=
  let data := if data.tbEn0 then data else { data with mcsIdx := 0, rvIdx := 1 }
  if data.tbEn1 then data else { data with mcsIdx1 := 0, rvIdx1 := 1 }

def swapCodewords (data : RaDlDci) : RaDlDci :=
  if data.tbEn0 ∧ data.tbEn1 ∧ data.tbCwSwap then
    {
      data with
      rvIdx := data.rvIdx1
      rvIdx1 := data.rvIdx
      mcsIdx := data.mcsIdx1
      mcsIdx1 := data.mcsIdx
      ndi := data.ndi1
      ndi1 := data.ndi
    }
  else
    data

def moveCodeword (data : RaDlDci) : RaDlDci :=
  if data.tbEn0 then
    data
  else
    { data with rvIdx := data.rvIdx1, mcsIdx := data.mcsIdx1, ndi := data.ndi1, tbEn1 := false }

end RaDlDci

def dciFormat2ABPack (data : RaDlDci) (msg : DciMsg) (nofPrb nofPorts : Nat) : Option (RaDlDci × DciMsg) := do
  let alloc ← data.packAlloc nofPrb
  let data := data.forceDisabled
  return (data, msg.write (padTo (srslteDciFormatSizeof msg.format nofPrb nofPorts) (alloc ++ fields data)))
where
  fields (data : RaDlDci) : List Bool :=
    srslteBitUnpack data.tpcPucch 2
      ++ srslteBitUnpack data.harqProcess harqPidLen
      ++ [if msg.format = .format2B then data.sramId else data.tbCwSwap]
      ++ srslteBitUnpack data.mcsIdx 5 ++ [data.ndi] ++ RaDlDci.packRv data.rvIdx
      ++ srslteBitUnpack data.mcsIdx1 5 ++ [data.ndi1] ++ RaDlDci.packRv data.rvIdx1
      ++ srslteBitUnpack data.pinfo (msg.format.precodingBits nofPorts)

def dciFormat2ABUnpack (msg : DciMsg) (data : RaDlDci) (nofPrb nofPorts : Nat) : Option RaDlDci := do
  let (data, y) ← data.unpackAlloc nofPrb msg.data
  let (harqProcess, y) ← srslteBitPack (y.drop 2) harqPidLen
  let (flag, y) ← nextBit y
  let data := if msg.format = .format2B then { data with sramId := flag } else { data with tbCwSwap := flag }
  let (mcsIdx, y) ← srslteBitPack y 5
  let (ndi, y) ← nextBit y
  let (rvIdx, y) ← srslteBitPack y 2
  let (mcsIdx1, y) ← srslteBitPack y 5
  let (ndi1, y) ← nextBit y
  let (rvIdx1, y) ← srslteBitPack y 2
  let (pinfo, _) ← srslteBitPack y (msg.format.precodingBits nofPorts)
  let data := {
    data with
    harqProcess, mcsIdx, ndi, rvIdx, mcsIdx1, ndi1, rvIdx1
    tbEn0 := !(mcsIdx = 0 && rvIdx = 1)
    tbEn1 := !(mcsIdx1 = 0 && rvIdx1 = 1)
    pinfo := if msg.format = DciFormat.format2 ∨ msg.format = DciFormat.format2A then pinfo % 2 ^ 8 else data.pinfo
  }
  return data.swapCodewords.moveCodeword

/-! ### PDSCH -/

def srslteDciMsgPackPdsch (data : RaDlDci) (format : DciFormat) (msg : DciMsg) (nofPrb nofPorts : Nat)
    (crcIsCrnti : Bool) : Option (RaDlDci × DciMsg) :=
  let msg := { msg with format }
  match format with
  | .format1 => dciFormat1Pack data msg nofPrb
  | .format1A => dciFormat1AsPack data msg nofPrb crcIsCrnti
  | .format1C => dciFormat1CsPack data msg nofPrb
  | .format2 | .format2A | .format2B => dciFormat2ABPack data msg nofPrb nofPorts
  | .format0 | .format1B | .format1D => none

def srslteDciMsgUnpackPdsch (msg : DciMsg) (data : RaDlDci) (nofPrb nofPorts : Nat) (crcIsCrnti : Bool)
    : Option RaDlDci :=
  match msg.format with
  | .format1 => dciFormat1Unpack msg data nofPrb
  | .format1A => dciFormat1AsUnpack msg data nofPrb crcIsCrnti
  | .format1B => dciFormat1BUnpack msg data nofPrb nofPorts
  | .format1C => dciFormat1CsUnpack msg data nofPrb
  | .format1D => dciFormat1DUnpack msg data nofPrb nofPorts
  | .format2 | .format2A | .format2B => dciFormat2ABUnpack msg data nofPrb nofPorts
  | .format0 => none

end SrsLte
