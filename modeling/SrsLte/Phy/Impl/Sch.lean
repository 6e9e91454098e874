import SrsLte.Phy.Bit
import SrsLte.Phy.Impl.Cbsegm

/-!
This module contains the cyclic redundancy check in `crc.c` and the coding of transport blocks for the shared channels
in `sch.c`, over the turbo code and the rate matching of single code blocks.
-/

namespace SrsLte

structure Crc where
  table : Nat → Nat
  polynom : Nat
  order : Nat
  crcmask : Nat
  crchighbit : Nat

namespace Crc

def genCrcTable (polynom order crcmask crchighbit i : Nat) : Nat :=
  let ord := order - 8
  let shift := fun crc =>
    let bit := crc &&& crchighbit
    let crc := crc <<< 1
    if bit ≠ 0 then crc ^^^ polynom else crc
  shift^[8] (i <<< ord) &&& crcmask

def init (crcPoly crcOrder : Nat) : Option Crc :=
  let crcmask := ((1 <<< (crcOrder - 1)) - 1) <<< 1 ||| 1
  let crchighbit := 1 <<< (crcOrder - 1)
  if crcOrder % 8 ≠ 0 then
    none
  else
    some {
      table := genCrcTable crcPoly crcOrder crcmask crchighbit,
      polynom := crcPoly,
      order := crcOrder,
      crcmask,
      crchighbit
    }

def crctable (h : Crc) (crcinit byte : Nat) : Nat :=
  let ord := h.order - 8
  (crcinit <<< 8) % 2 ^ 64 ^^^ h.table (((crcinit >>> ord) &&& 0xff) ^^^ byte)

def reversecrcbit (h : Crc) (crc nbits : Nat) : Nat :=
  let unshift := fun crc => if 1 &&& crc = 1 then (crc ^^^ h.polynom) >>> 1 else crc >>> 1
  unshift^[nbits] crc &&& h.crcmask

def packByte (data : List Bool) (len8 res8 i : Nat) : Nat :=
  let pter := data.drop (8 * i)
  if i = len8 then
    (List.range res8).foldl (fun byte k => byte ||| (pter[k]?.getD false).toNat <<< (7 - k)) 0
  else
    Bits.toNat (pter.take 8)

def checksumOf (h : Crc) (bytes : List Nat) : Nat :=
  bytes.foldl h.crctable 0 &&& h.crcmask

def checksum (h : Crc) (data : List Bool) : Nat :=
  let len8 := data.length >>> 3
  let res8 := data.length - len8 <<< 3
  let a := if res8 > 0 then 1 else 0
  -- Calculate CRC
  let crc := h.checksumOf ((List.range (len8 + a)).map (packByte data len8 res8))
  -- Reverse CRC res8 positions
  if a = 1 then h.reversecrcbit crc (8 - res8) else crc

def checksumByte (h : Crc) (data : List UInt8) : Nat :=
  h.checksumOf (data.map UInt8.toNat)

def attachByte (h : Crc) (data : List UInt8) : List UInt8 :=
  let checksum := h.checksumByte data
  data ++ ((List.range (h.order / 8)).map fun i => UInt8.ofNat ((checksum &&& 0xff <<< (8 * i)) >>> (8 * i))).reverse

def attach (h : Crc) (data : List Bool) : List Bool :=
  data ++ srslteBitUnpack (h.checksum data) h.order

end Crc

def lteCrc24A : Nat := 0x1864CFB

def lteCrc24B : Nat := 0x1800063


structure TurboCodec where
  coded : (cbLenIdx rv : Nat) → List UInt8 → Nat → Bool
  decision : (cbLenIdx rv : Nat) → List Bool → (iterations : Nat) → List UInt8

structure Sch where
  codec : TurboCodec
  crcTb : Crc
  crcCb : Crc
  crcTb_eq : Crc.init lteCrc24A 24 = some crcTb
  crcCb_eq : Crc.init lteCrc24B 24 = some crcCb
  maxIterations : Nat
  ceilf : Nat → Nat → Nat
  maxCb : Nat
  nofParallel : Nat
  nofParallel_pos : 0 < nofParallel
  stack : Nat → Bool

def maxCodeblocks : Nat := 32

namespace Sch

def nE (q : Sch) (C Qm Gp i : Nat) : Nat :=
  let gamma := if C > 0 then Gp % C else Gp
  if i ≤ C - gamma - 1 then Qm * (Gp / C) else Qm * q.ceilf Gp C

def readLength (s : Cbsegm) (cbLen : Nat) : Nat :=
  if s.C > 1 then cbLen - 24 else cbLen

def parity (par : Nat) : List UInt8 :=
  [
    UInt8.ofNat ((par &&& 0xff <<< 16) >>> 16),
    UInt8.ofNat ((par &&& 0xff <<< 8) >>> 8),
    UInt8.ofNat (par &&& 0xff)
  ]

def cbIn (q : Sch) (s : Cbsegm) (data : List UInt8) (par i rlen rp : Nat) : List UInt8 :=
  let cbIn := if i < s.C - 1 then
      -- Copy data
      (data.drop (rp / 8)).take (rlen / 8)
    else
      -- Append Transport Block parity bits to the last CB
      (data.drop (rp / 8)).take ((rlen - 24) / 8) ++ parity par
  -- Attach Codeblock CRC
  if s.C > 1 then q.crcCb.attachByte cbIn else cbIn

structure Encoding where
  rp : Nat := 0
  wp : Nat := 0
  writes : List (Nat × List Bool) := []

def encodeCb (q : Sch) (s : Cbsegm) (Qm rv Gp : Nat) (data : List UInt8) (par : Nat) (st : Encoding) (i : Nat)
    : Encoding :=
  let (cbLen, cblenIdx) := if i < s.C2 then (s.K2, s.K2Idx) else (s.K1, s.K1Idx)
  let rlen := readLength s cbLen
  let nE := q.nE s.C Qm Gp i
  let cbIn := q.cbIn s data par i rlen st.rp
  -- Turbo Encoding and rate matching
  let bits := (List.range nE).map (q.codec.coded cblenIdx rv cbIn)
  -- Set read/write pointers
  { rp := st.rp + rlen, wp := st.wp + nE, writes := st.writes ++ [(st.wp, bits)] }

def encodeTb (q : Sch) (s : Cbsegm) (Qm rv nofEBits : Nat) (data : List UInt8) : Option (List (Nat × List Bool)) :=
  if s.F ≠ 0 then
    -- filler bits are not supported
    none
  else if s.C > q.maxCb then
    none
  else
    let Gp := nofEBits / Qm
    -- Compute transport block CRC
    let par := q.crcTb.checksumByte (data.take (s.tbs / 8))
    some ((List.range s.C).foldl (q.encodeCb s Qm rv Gp data par) {}).writes

def readInterval (C Qm Gp cbIdx : Nat) : Nat × Nat :=
  let gamma := if C > 0 then Gp % C else Gp
  let nE := Qm * (Gp / C)
  if cbIdx > C - gamma then
    let nE2 := nE + Qm
    ((C - gamma) * nE + (cbIdx - (C - gamma)) * nE2, nE2)
  else
    (cbIdx * nE, nE)

structure Slot where
  cbIdx : Nat
  input : List Bool
  iterations : Nat := 0

structure Decoding where
  cbMap : Nat → Bool
  cbCrc : Nat → Bool
  data : Nat → List UInt8
  remainingCb : Nat

structure Group where
  nofCb : Nat
  firstCb : Nat
  cbLen : Nat
  cbLenIdx : Nat

def group (s : Cbsegm) (cbSizeGroup : Nat) : Group :=
  if cbSizeGroup ≠ 0 then
    { nofCb := s.C2, firstCb := s.C1, cbLen := s.K2, cbLenIdx := s.K2Idx }
  else
    { nofCb := s.C1, firstCb := 0, cbLen := s.K1, cbLenIdx := s.K1Idx }

def findCb (cbMap : Nat → Bool) (g : Group) : Nat :=
  g.firstCb + ((List.range g.nofCb).find? fun j => ¬ cbMap (g.firstCb + j)).getD (g.nofCb - 1)

def fillSlots (eBits : List Bool) (C Qm Gp : Nat) (g : Group) (slots : List (Option Slot)) (st : Decoding)
    : List (Option Slot) × Decoding :=
  match slots with
  | [] => ([], st)
  | some slot :: slots =>
    let (slots, st) := fillSlots eBits C Qm Gp g slots st
    (some slot :: slots, st)
  | none :: slots =>
    let cbIdx := findCb st.cbMap g
    if st.remainingCb > 0 ∧ st.cbMap cbIdx = false then
      let (rp, nE2) := readInterval C Qm Gp cbIdx
      let slot := { cbIdx, input := (eBits.drop rp).take nE2 }
      let (slots, st) := fillSlots eBits C Qm Gp g slots { st with cbMap := Function.update st.cbMap cbIdx true }
      (some slot :: slots, st)
    else
      let (slots, st) := fillSlots eBits C Qm Gp g slots st
      (none :: slots, st)

def decideSlot (q : Sch) (s : Cbsegm) (rv : Nat) (g : Group) (slot : Slot) (st : Decoding) : Option Slot × Decoding :=
  let iterations := slot.iterations + 1
  let cbIn := q.codec.decision g.cbLenIdx rv slot.input iterations
  let crc := if s.C > 1 then
      q.crcCb.checksumByte (cbIn.take (g.cbLen / 8))
    else
      q.crcTb.checksumByte (cbIn.take ((s.tbs + 24) / 8))
  if crc = 0 then
    -- CRC is OK
    let rlen := if s.C = 1 then g.cbLen else g.cbLen - 24
    (none, {
      st with
      data := Function.update st.data slot.cbIdx (cbIn.take (rlen / 8)),
      cbCrc := Function.update st.cbCrc slot.cbIdx true,
      remainingCb := st.remainingCb - 1
    })
  else if iterations ≥ q.maxIterations then
    -- CRC is error and exceeded maximum iterations for this CB
    (none, { st with remainingCb := st.remainingCb - 1 })
  else
    (some { slot with iterations }, st)

def decideSlots (q : Sch) (s : Cbsegm) (rv : Nat) (g : Group) (slots : List (Option Slot)) (st : Decoding)
    : List (Option Slot) × Decoding :=
  match slots with
  | [] => ([], st)
  | none :: slots =>
    let (slots, st) := decideSlots q s rv g slots st
    (none :: slots, st)
  | some slot :: slots =>
    let (slot, st) := decideSlot q s rv g slot st
    let (slots, st) := decideSlots q s rv g slots st
    (slot :: slots, st)

def decodeLoop (q : Sch) (s : Cbsegm) (Qm rv Gp : Nat) (eBits : List Bool) (g : Group) (fuel : Nat)
    (slots : List (Option Slot)) (st : Decoding)
    : Decoding :=
  match fuel with
  | 0 => st
  | fuel + 1 =>
    if st.remainingCb > 0 then
      let (slots, st) := fillSlots eBits s.C Qm Gp g slots st
      let (slots, st) := decideSlots q s rv g slots st
      decodeLoop q s Qm rv Gp eBits g fuel slots st
    else
      st

def copyTo (data : Nat → UInt8) (pos : Nat) (bytes : List UInt8) : Nat → UInt8 :=
  fun k => if pos ≤ k ∧ k < pos + bytes.length then bytes[k - pos]?.getD 0 else data k

def decodeTbCb (q : Sch) (s : Cbsegm) (Qm rv nofEBits : Nat) (eBits : List Bool) (cbSizeGroup : Nat)
    (st : (Nat → Bool) × (Nat → List UInt8)) (data : Nat → UInt8)
    : Bool × ((Nat → Bool) × (Nat → List UInt8)) × (Nat → UInt8) :=
  let g := group s cbSizeGroup
  let rlen := if s.C = 1 then g.cbLen else g.cbLen - 24
  let Gp := nofEBits / Qm
  if g.nofCb > maxCodeblocks then
    (false, st, data)
  else
    let (cbCrc, sbData) := st
    -- Do not process blocks with CRC Ok
    let cbMap := fun i => if i < g.nofCb then cbCrc i else q.stack i
    let remainingCb := ((List.range g.nofCb).filter fun i => ¬ cbCrc i).length
    let fuel := g.nofCb * (q.maxIterations + 1)
    let st := decodeLoop q s Qm rv Gp eBits g fuel (List.replicate q.nofParallel none)
      { cbMap, cbCrc, data := sbData, remainingCb }
    let tbCrc := (List.range g.nofCb).all st.cbCrc
    let data := if tbCrc then
        (List.range g.nofCb).foldl (fun data i => copyTo data (i * rlen / 8) ((st.data i).take (rlen / 8))) data
      else
        data
    (tbCrc, (st.cbCrc, st.data), data)

inductive DecodeResult where
  | success
  | error
  | errorInvalidInputs
  deriving DecidableEq

def decodeTb (q : Sch) (s : Cbsegm) (Qm rv nofEBits : Nat) (eBits : List Bool) : DecodeResult × (Nat → UInt8) :=
  let data : Nat → UInt8 := fun _ => 0
  if s.tbs = 0 ∨ s.C = 0 then
    (.success, data)
  else if s.F ≠ 0 then
    -- filler bits are not supported
    (.errorInvalidInputs, data)
  else if s.C > q.maxCb then
    (.errorInvalidInputs, data)
  else
    let softbuffer := ((fun _ => false : Nat → Bool), (fun _ => [] : Nat → List UInt8))
    -- Process Codeblocks in groups of equal CB size
    let (crcOk, softbuffer, data) := q.decodeTbCb s Qm rv nofEBits eBits 0 softbuffer data
    let (crcOk, data) := if s.C2 > 0 ∧ crcOk then
        let (crcOk, _, data) := q.decodeTbCb s Qm rv nofEBits eBits 1 softbuffer data
        (crcOk, data)
      else
        (crcOk, data)
    if crcOk then
      -- Compute transport block CRC and check parity bits
      let parRx := q.crcTb.checksumByte ((List.range (s.tbs / 8)).map data)
      let parTx := (data (s.tbs / 8)).toNat <<< 16 ||| (data (s.tbs / 8 + 1)).toNat <<< 8 ||| (data (s.tbs / 8 + 2)).toNat
      if parRx = parTx ∧ parRx ≠ 0 then (.success, data) else (.error, data)
    else
      (.error, data)

def received (writes : List (Nat × List Bool)) : List Bool :=
  writes.flatMap Prod.snd

end Sch

end SrsLte
