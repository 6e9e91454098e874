import Mathlib.Algebra.Order.Floor.Defs
import Mathlib.Data.Rat.Floor
import SrsLte.Phy.Bit

/-!
This module contains the MAC PDUs of `pdu.h` and `pdu.cc`: the part that all of them share, the subheaders of SCH and
MCH PDUs, SCH PDUs and random access response PDUs. A reader is `none` if it reads past the end of the PDU.
-/

namespace SrsLte

structure Subheaders (α : Type) where
  used : List α
  spare : List α

namespace Subheaders

variable {α : Type}

def newSubh (v : Subheaders α) (remLen : Nat) : Option (Subheaders α) :=
  if v.used.length + 1 < (v.used ++ v.spare).length ∧ remLen > 0 then
    match v.spare with
    | [] => none
    | subh :: spare => some { used := v.used ++ [subh], spare }
  else
    none

def delSubh (v : Subheaders α) : Subheaders α :=
  match v.used.getLast? with
  | none => v
  | some subh => { used := v.used.dropLast, spare := subh :: v.spare }

end Subheaders

structure SubhReader (π α : Type) where
  readSubheader : List UInt8 → π → α → Nat → Option (Bool × π × α × Nat)
  readPayload : List UInt8 → α → Nat → Option (α × Nat)

namespace SubhReader

variable {π α : Type} (reader : SubhReader π α)

def readSubheaders (pdu : List UInt8) (maxSubheaders nof : Nat) (parent : π) (subheaders : List α)
    (ptr : Nat) : Option (π × List α × Nat) :=
  match subheaders with
  | [] => some (parent, [], ptr)
  | subh :: subheaders =>
    match reader.readSubheader pdu parent subh ptr with
    | none => none
    | some (ext, parent, subh, ptr) =>
      if ext ∧ nof + 2 < maxSubheaders then
        match readSubheaders pdu maxSubheaders (nof + 1) parent subheaders ptr with
        | none => none
        | some (parent, read, ptr) => some (parent, subh :: read, ptr)
      else
        some (parent, [subh], ptr)

def readPayloads (pdu : List UInt8) (subheaders : List α) (ptr : Nat) : Option (List α × Nat) :=
  match subheaders with
  | [] => some ([], ptr)
  | subh :: subheaders =>
    match reader.readPayload pdu subh ptr with
    | none => none
    | some (subh, ptr) =>
      match readPayloads pdu subheaders ptr with
      | none => none
      | some (read, ptr) => some (subh :: read, ptr)

def parsePacket (pdu : List UInt8) (parent : π) (subheaders : List α) : Option (π × List α) :=
  match reader.readSubheaders pdu subheaders.length 0 parent subheaders 0 with
  | none => none
  | some (parent, read, ptr) =>
    match reader.readPayloads pdu read ptr with
    | none => none
    | some (read, _) => some (parent, read)

end SubhReader


def btable : List Nat :=
  [
    0, 1, 10, 12, 14, 17, 19, 22, 26, 31, 36, 42, 49, 57, 67, 78, 91, 107, 125, 146, 171, 200, 234,
    274, 321, 376, 440, 515, 603, 706, 826, 967, 1132, 1326, 1552, 1817, 2127, 2490, 2915, 3413, 3995,
    4667, 5476, 6411, 7505, 8787, 10287, 12043, 14099, 16507, 19325, 22624, 26487, 31009, 36304, 42502,
    49759, 58255, 68201, 79846, 93479, 109439, 128125, 150000
  ]

inductive SubhType where
  | sch
  | mch
  deriving DecidableEq, Repr

structure SchSubh where
  type : SubhType := .sch
  lcid : Nat := 0
  nofBytes : Nat := 0
  payload : Option Nat := none
  wPayloadCe : List UInt8 := List.replicate 64 0
  nofMchSchedCe : Nat := 0
  deriving DecidableEq, Repr

namespace SchSubh

-- `cetype`, several names stand for one value

def phrReport : Nat := 26

def crnti : Nat := 27

def conResId : Nat := 28

def truncBsr : Nat := 28

def taCmd : Nat := 29

def shortBsr : Nat := 29

def longBsr : Nat := 30

def mchSchedInfo : Nat := 30

def padding : Nat := 31

def sduType : Nat := 0

def ceType (s : SchSubh) : Nat :=
  if s.lcid ≥ phrReport ∧ s.type = .sch then
    s.lcid
  else if s.lcid ≥ mchSchedInfo ∧ s.type = .mch then
    s.lcid
  else
    sduType

def isSdu (s : SchSubh) : Bool :=
  s.ceType == sduType

def isVarLenCe (s : SchSubh) : Bool :=
  s.ceType == mchSchedInfo && s.type == .mch

def sizeofCe (s : SchSubh) (isUl : Bool) : Nat :=
  match s.type with
  | .sch =>
    if isUl then
      if s.lcid = phrReport then 1
      else if s.lcid = crnti then 2
      else if s.lcid = truncBsr then 1
      else if s.lcid = shortBsr then 1
      else if s.lcid = longBsr then 3
      else 0
    else
      if s.lcid = conResId then 6
      else if s.lcid = taCmd then 1
      else 0
  | .mch => if s.lcid = mchSchedInfo then s.nofMchSchedCe * 2 else 0

def sizeHeaderSdu (nbytes : Nat) : Nat :=
  if nbytes < 128 then 2 else 3

def sizePlusHeader (s : SchSubh) : Nat :=
  if s.isSdu || s.isVarLenCe then
    sizeHeaderSdu s.nofBytes + s.nofBytes
  else
    1 + s.nofBytes

def getHeaderSize (s : SchSubh) (isLast : Bool) : Nat :=
  if ¬ isLast then
    if s.isSdu then
      sizeHeaderSdu s.nofBytes
    else if s.lcid = mchSchedInfo ∧ s.type = .mch then
      sizeHeaderSdu s.nofBytes
    else
      1
  else
    1

def getPayloadSize (s : SchSubh) : Nat :=
  s.nofBytes

def setPadding (s : SchSubh) (paddingLen : Nat) : SchSubh :=
  { s with lcid := padding, nofBytes := paddingLen }

-- Section 6.2.1
def writeSubheader (s : SchSubh) (isLast : Bool) : List UInt8 :=
  let b0 := UInt8.ofNat ((if isLast then 0 else 1 <<< 5) ||| (s.lcid &&& 0x1f))
  if (s.isSdu || s.isVarLenCe) ∧ ¬ isLast then
    if s.nofBytes ≥ 128 then
      [
        b0,
        UInt8.ofNat (1 <<< 7 ||| (s.nofBytes &&& 0x7f00) >>> 8),
        UInt8.ofNat (s.nofBytes &&& 0xff)
      ]
    else
      [b0, UInt8.ofNat (s.nofBytes &&& 0x7f)]
  else
    [b0]

def writePayload (s : SchSubh) (isUl : Bool) : List UInt8 :=
  if s.isSdu then
    []
  else
    s.wPayloadCe.take (s.sizeofCe isUl)

def readSubheader (pdu : List UInt8) (isUl : Bool) (s : SchSubh) (ptr : Nat)
    : Option (Bool × Bool × SchSubh × Nat) :=
  match pdu[ptr]? with
  | none => none
  | some b0 =>
    let eBit := b0.toNat &&& 0x20 != 0
    let s := { s with lcid := b0.toNat &&& 0x1f }
    if s.isSdu || s.isVarLenCe then
      if eBit then
        match pdu[ptr + 1]? with
        | none => none
        | some b1 =>
          if b1.toNat &&& 0x80 != 0 then
            match pdu[ptr + 2]? with
            | none => none
            | some b2 =>
              let nofBytes := (b1.toNat &&& 0x7f) <<< 8 ||| (b2.toNat &&& 0xff)
              some (eBit, isUl, { s with nofBytes }, ptr + 3)
          else
            some (eBit, isUl, { s with nofBytes := b1.toNat &&& 0x7f }, ptr + 2)
      else
        some (eBit, isUl, { s with nofBytes := 0 }, ptr + 1)
    else
      some (eBit, isUl, { s with nofBytes := s.sizeofCe isUl }, ptr + 1)

def readPayload (_pdu : List UInt8) (s : SchSubh) (ptr : Nat) : Option (SchSubh × Nat) :=
  some ({ s with payload := some ptr }, ptr + s.nofBytes)

def buffSizeTable (bufferSize : Nat) : Nat :=
  if bufferSize = 0 then
    0
  else if bufferSize > 150000 then
    63
  else
    match (List.range 61).find? fun i => bufferSize < btable.getD (i + 2) 0 with
    | some i => 1 + i
    | none => 62

def phrReportTable (phrValue : ℚ) : Nat :=
  let phrValue := if phrValue < -23 then -23 else phrValue
  let phrValue := if phrValue > 40 then 40 else phrValue
  ⌊phrValue + 23⌋.toNat

def nonzeroLcg (buffSize : Fin 4 → Nat) : Fin 4 :=
  if buffSize 3 ≠ 0 then 3 else if buffSize 2 ≠ 0 then 2 else if buffSize 1 ≠ 0 then 1 else 0

def bsrPayload (buffSize : Fin 4 → Nat) (format : Nat) : List UInt8 :=
  let t i := buffSizeTable (buffSize i)
  if format = longBsr then
    [
      UInt8.ofNat ((t 0 &&& 0x3f) <<< 2 ||| (t 1 &&& 0xc0) >>> 6),
      UInt8.ofNat ((t 1 &&& 0xf) <<< 4 ||| (t 2 &&& 0xf0) >>> 4),
      UInt8.ofNat ((t 2 &&& 0x3) <<< 6 ||| (t 3 &&& 0x3f))
    ]
  else
    let lcg := nonzeroLcg buffSize
    [UInt8.ofNat ((lcg.val &&& 0x3) <<< 6 ||| (t lcg &&& 0x3f))]

def bsrValue (index : Nat) : Nat :=
  if index = 0 then
    0
  else if index < 63 then
    btable.getD (1 + index) 0
  else
    btable.getD 63 0

def getBsr (s : SchSubh) (payload : List UInt8) (buffSize : Fin 4 → Nat) : Fin 4 × (Fin 4 → Nat) :=
  let p i := (payload.getD i 0).toNat
  if s.ceType = longBsr then
    let index : Fin 4 → Nat
      | 0 => (p 0 &&& 0xFC) >>> 2
      | 1 => (p 0 &&& 0x03) <<< 4 ||| (p 1 &&& 0xF0) >>> 4
      | 2 => (p 1 &&& 0x0F) <<< 4 ||| (p 1 &&& 0xC0) >>> 6
      | 3 => p 2 &&& 0x3F
    (0, fun i => bsrValue (index i))
  else
    let lcg := Fin.ofNat 4 ((p 0 &&& 0xc0) >>> 6)
    (lcg, fun i => bsrValue (Function.update buffSize lcg (p 0 &&& 0x3f) i))

end SchSubh


structure SchPdu where
  used : List SchSubh
  spare : List SchSubh
  pduLen : Nat
  remLen : Nat
  pduIsUl : Bool
  sdus : List UInt8 := []
  lastSduIdx : Option Nat := none
  deriving DecidableEq, Repr

namespace SchPdu

def maxSubheaders (p : SchPdu) : Nat :=
  (p.used ++ p.spare).length

def nofSubheaders (p : SchPdu) : Nat :=
  p.used.length

def totalSduLen (p : SchPdu) : Nat :=
  p.sdus.length

def sduOffsetStart (p : SchPdu) : Nat :=
  p.maxSubheaders * 2 + 13

def init (maxSubheaders pduLenBytes : Nat) (isUlsch : Bool) : SchPdu :=
  {
    used := []
    spare := List.replicate maxSubheaders {}
    pduLen := pduLenBytes
    remLen := pduLenBytes
    pduIsUl := isUlsch
  }

def curIdx (p : SchPdu) : Nat :=
  p.nofSubheaders - 1

def get (p : SchPdu) : SchSubh :=
  p.used.getD p.curIdx {}

def modifyCur (p : SchPdu) (f : SchSubh → SchSubh) : SchPdu :=
  { p with used := p.used.modify p.curIdx f }

def newSubh (p : SchPdu) : Option SchPdu :=
  (Subheaders.newSubh ⟨p.used, p.spare⟩ p.remLen).map fun v =>
    { p with used := v.used, spare := v.spare }

def delSubh (p : SchPdu) : SchPdu :=
  let v := Subheaders.delSubh ⟨p.used, p.spare⟩
  { p with used := v.used, spare := v.spare }

def remSize (p : SchPdu) : Nat :=
  p.remLen

def headLen (nbytes : Nat) (varLen : Bool) : Nat :=
  if varLen then SchSubh.sizeHeaderSdu nbytes else 1

def hasSpaceCe (p : SchPdu) (nbytes : Nat) (varLen : Bool) : Bool :=
  p.remLen ≥ nbytes + headLen nbytes varLen

def updateSpaceCe (p : SchPdu) (nbytes : Nat) (varLen : Bool) : SchPdu :=
  if p.hasSpaceCe nbytes false then
    { p with remLen := p.remLen - (nbytes + headLen nbytes varLen) }
  else
    p

def lastSduExtra (p : SchPdu) : Nat :=
  match p.lastSduIdx with
  | none => 0
  | some i => SchSubh.sizeHeaderSdu ((p.used ++ p.spare).getD i {}).getPayloadSize - 1

def getSduSpace (p : SchPdu) : Int :=
  p.remLen - p.lastSduExtra - 1

def hasSpaceSdu (p : SchPdu) (nbytes : Nat) : Bool :=
  if p.getSduSpace < 0 then false else p.getSduSpace.toNat ≥ nbytes

def updateSpaceSdu (p : SchPdu) (nbytes : Nat) : SchPdu :=
  if p.hasSpaceSdu nbytes then
    { p with remLen := p.remLen - (nbytes + 1 + p.lastSduExtra), lastSduIdx := some p.curIdx }
  else
    p

def setCe (p : SchPdu) (lcid : Nat) (payload : List UInt8) : SchPdu × Bool :=
  if p.hasSpaceCe payload.length false then
    let p := p.modifyCur fun s =>
      { s with lcid, wPayloadCe := payload ++ s.wPayloadCe.drop payload.length }
    let p := p.updateSpaceCe payload.length false
    (p.modifyCur fun s => { s with nofBytes := payload.length }, true)
  else
    (p, false)

def setBsr (p : SchPdu) (buffSize : Fin 4 → Nat) (format : Nat) : SchPdu × Bool :=
  p.setCe format (SchSubh.bsrPayload buffSize format)

def setCRnti (p : SchPdu) (crnti : Nat) : SchPdu × Bool :=
  p.setCe SchSubh.crnti [UInt8.ofNat ((crnti &&& 0xff00) >>> 8), UInt8.ofNat (crnti &&& 0x00ff)]

def setConResId (p : SchPdu) (conResId : Nat) : SchPdu × Bool :=
  p.setCe SchSubh.conResId
    [
      UInt8.ofNat ((conResId &&& 0xff0000000000) >>> 40),
      UInt8.ofNat ((conResId &&& 0x00ff00000000) >>> 32),
      UInt8.ofNat ((conResId &&& 0x0000ff000000) >>> 24),
      UInt8.ofNat ((conResId &&& 0x000000ff0000) >>> 16),
      UInt8.ofNat ((conResId &&& 0x00000000ff00) >>> 8),
      UInt8.ofNat (conResId &&& 0x0000000000ff)
    ]

def setPhr (p : SchPdu) (phr : ℚ) : SchPdu × Bool :=
  p.setCe SchSubh.phrReport [UInt8.ofNat (SchSubh.phrReportTable phr &&& 0x3f)]

def setTaCmd (p : SchPdu) (taCmd : Nat) : SchPdu × Bool :=
  p.setCe SchSubh.taCmd [UInt8.ofNat (taCmd &&& 0x3f)]

def setSdu (p : SchPdu) (lcid : Nat) (payload : List UInt8) : SchPdu × Int :=
  if p.hasSpaceSdu payload.length then
    let p := p.modifyCur fun s => { s with lcid }
    let p := { p with sdus := p.sdus ++ payload }
    let p := p.updateSpaceSdu payload.length
    (p.modifyCur fun s => { s with nofBytes := payload.length }, payload.length)
  else
    (p, -1)

def setSduItf (p : SchPdu) (lcid requestedBytes : Nat) (sduItf : Option (List UInt8)) : SchPdu × Int :=
  if p.hasSpaceSdu requestedBytes then
    let p := p.modifyCur fun s => { s with lcid }
    match sduItf with
    | none => (p, -1)
    | some [] => (p, 0)
    | some sdu =>
      let p := p.modifyCur fun s => { s with nofBytes := sdu.length }
      if sdu.length > requestedBytes then
        (p, -1)
      else
        let p := { p with sdus := p.sdus ++ sdu }
        (p.updateSpaceSdu sdu.length, sdu.length)
  else
    (p, -1)

def dropEmpty (p : SchPdu) : SchPdu :=
  if (p.used.getD (p.nofSubheaders - 1) {}).getPayloadSize = 0 then p.delSubh else p

structure Padding where
  multibyte : Bool
  onetwo : Nat
  remLen : Nat

def getPadding (p : SchPdu) : Padding :=
  if p.remLen > 2 then
    -- Add 1 header for padding, and the header for the last SDU
    let lastSdu := match p.lastSduIdx with
      | none => 0
      | some i => ((p.used ++ p.spare).getD i {}).getHeaderSize false - 1
    { multibyte := true, onetwo := 0, remLen := p.remLen - 1 - lastSdu }
  else
    { multibyte := false, onetwo := p.remLen, remLen := 0 }

def subheadersSize (p : SchPdu) (multibyte : Bool) : Nat :=
  ((p.used.zipIdx).map fun (s, i) =>
    s.getHeaderSize (!multibyte && some i == p.lastSduIdx)).sum

def cePayloadSize (p : SchPdu) : Nat :=
  ((p.used.filter fun s => !s.isSdu).map SchSubh.getPayloadSize).sum

def writeSubheaders (p : SchPdu) (multibyte : Bool) : List UInt8 :=
  let ceOnly := p.lastSduIdx.isNone
  (p.used.zipIdx.filter fun (s, _) => !s.isSdu).flatMap (fun (s, i) =>
      s.writeSubheader (ceOnly && !multibyte && i == p.nofSubheaders - 1))
    ++
  if ceOnly then
    []
  else
    (p.used.zipIdx.filter fun (s, _) => s.isSdu).flatMap fun (s, i) =>
      s.writeSubheader (!multibyte && some i == p.lastSduIdx)

def writePacket (p : SchPdu) : Option (List UInt8) :=
  if p.nofSubheaders = 0 ∧ 0 < p.maxSubheaders then
    none
  else
    let p := p.dropEmpty
    let padding := p.getPadding
    let headerSz := p.subheadersSize padding.multibyte
      + (if padding.multibyte then 1 else padding.onetwo)
    let cePayloadSz := p.cePayloadSize
    if cePayloadSz + headerSz ≥ p.sduOffsetStart then
      none
    else
      let subh : SchSubh := {}
      let out :=
        (List.replicate padding.onetwo ((subh.setPadding 0).writeSubheader false)).flatten
          ++ p.writeSubheaders padding.multibyte
          ++ (if padding.multibyte then (subh.setPadding padding.remLen).writeSubheader true else [])
          ++ (p.used.filter fun s => !s.isSdu).flatMap fun s => s.writePayload p.pduIsUl
      if padding.remLen + headerSz + cePayloadSz + p.totalSduLen ≠ p.pduLen then
        none
      else if headerSz + cePayloadSz ≠ out.length then
        none
      else
        some (out ++ p.sdus ++ List.replicate padding.remLen 0)

def reader : SubhReader Bool SchSubh :=
  { readSubheader := SchSubh.readSubheader, readPayload := SchSubh.readPayload }

def correctLast (pduLen : Nat) (subheaders : List SchSubh) : List SchSubh :=
  let readLen := (subheaders.dropLast.map SchSubh.sizePlusHeader).sum
  let nSub : Int := pduLen - readLen - 1
  if nSub ≥ 0 then
    subheaders.modify (subheaders.length - 1) fun s => { s with nofBytes := nSub.toNat }
  else
    subheaders

def parsePacket (p : SchPdu) (pdu : List UInt8) : Option (List SchSubh) :=
  match reader.parsePacket pdu p.pduIsUl (p.used ++ p.spare) with
  | none => none
  | some (_, subheaders) => some (correctLast pdu.length subheaders)

end SchPdu


abbrev RarGrant := { grant : List Bool // grant.length = 20 }

def RarGrant.zero : RarGrant :=
  ⟨List.replicate 20 false, rfl⟩

structure RarSubh where
  grant : RarGrant := .zero
  ta : Nat := 0
  tempRnti : Nat := 0
  preamble : Nat := 0
  deriving DecidableEq, Repr

structure RarPdu where
  used : List RarSubh
  spare : List RarSubh
  pduLen : Nat
  remLen : Nat
  hasBackoffIndicator : Bool := false
  backoffIndicator : Nat := 0
  deriving DecidableEq, Repr

namespace RarSubh

-- Section 6.2.2
def writeSubheader (s : RarSubh) (isLast : Bool) : List UInt8 :=
  [UInt8.ofNat ((if isLast then 0 else 1 <<< 7) ||| (1 <<< 6 ||| (s.preamble &&& 0x3f)))]

-- Section 6.2.3
def writePayload (s : RarSubh) : List UInt8 :=
  [
    UInt8.ofNat ((s.ta &&& 0x7f0) >>> 4),
    UInt8.ofNat ((s.ta &&& 0xf) <<< 4 ||| Bits.toNat (s.grant.val.take 4)),
    UInt8.ofNat (Bits.toNat ((s.grant.val.drop 4).take 8)),
    UInt8.ofNat (Bits.toNat ((s.grant.val.drop 12).take 8)),
    UInt8.ofNat ((s.tempRnti &&& 0xff00) >>> 8),
    UInt8.ofNat (s.tempRnti &&& 0x00ff)
  ]

def readGrant (b1 b2 b3 : Nat) : RarGrant :=
  ⟨srslteBitUnpack b1 4 ++ srslteBitUnpack b2 8 ++ srslteBitUnpack b3 8, by simp⟩

def readPayload (pdu : List UInt8) (s : RarSubh) (ptr : Nat) : Option (RarSubh × Nat) :=
  match pdu.drop ptr with
  | b0 :: b1 :: b2 :: b3 :: b4 :: b5 :: _ =>
    some (
      {
        s with
        ta := (b0.toNat &&& 0x7f) <<< 4 ||| (b1.toNat &&& 0xf0) >>> 4
        grant := readGrant b1.toNat b2.toNat b3.toNat
        tempRnti := b4.toNat <<< 8 ||| b5.toNat
      },
      ptr + 6
    )
  | _ => none

end RarSubh

namespace RarPdu

def nofSubheaders (p : RarPdu) : Nat :=
  p.used.length

def init (maxRars pduLenBytes : Nat) : RarPdu :=
  { used := [], spare := List.replicate maxRars {}, pduLen := pduLenBytes, remLen := pduLenBytes }

def newSubh (p : RarPdu) : Option RarPdu :=
  (Subheaders.newSubh ⟨p.used, p.spare⟩ p.remLen).map fun v =>
    { p with used := v.used, spare := v.spare }

def setBackoff (p : RarPdu) (bi : Nat) : RarPdu :=
  { p with hasBackoffIndicator := true, backoffIndicator := bi }

def setRar (p : RarPdu) (rar : RarSubh) : RarPdu :=
  { p with used := p.used.modify (p.nofSubheaders - 1) fun _ => rar }

def writeBackoff (p : RarPdu) : List UInt8 :=
  if p.hasBackoffIndicator then
    if p.nofSubheaders > 0 then
      [UInt8.ofNat (1 <<< 7)]
    else
      [UInt8.ofNat (p.backoffIndicator &&& 0xf)]
  else
    []

def writePacket (p : RarPdu) : List UInt8 :=
  p.writeBackoff
    ++ (p.used.zipIdx.flatMap fun (s, i) => s.writeSubheader (i == p.nofSubheaders - 1))
    ++ p.used.flatMap RarSubh.writePayload
    -- Set padding to zeros (if any)
    ++ List.replicate p.remLen 0

def readSubheader (pdu : List UInt8) (p : RarPdu) (s : RarSubh) (ptr : Nat)
    : Option (Bool × RarPdu × RarSubh × Nat) :=
  match pdu[ptr]? with
  | none => none
  | some b =>
    let eBit := b.toNat &&& 0x80 != 0
    if b.toNat &&& 0x40 != 0 then
      some (eBit, p, { s with preamble := b.toNat &&& 0x3f }, ptr + 1)
    else
      some (eBit, p.setBackoff (b.toNat &&& 0xf), s, ptr + 1)

def reader : SubhReader RarPdu RarSubh :=
  { readSubheader := readSubheader, readPayload := RarSubh.readPayload }

def parsePacket (p : RarPdu) (pdu : List UInt8) : Option RarPdu :=
  match reader.parsePacket pdu p (p.used ++ p.spare) with
  | none => none
  | some (p, read) => some { p with used := read, spare := (p.used ++ p.spare).drop read.length }

end RarPdu

end SrsLte
