import SrsLte.Phy.Bit
import SrsLte.Rlc.Common
import SrsLte.Rlc.Extension

/-!
This module contains the header pack and unpack helper functions of `rlc_am.cc`, the state of an entity and its small
helper functions.

Buffers are always available from the buffer pool. The entity calls PDCP and RRC, the calls are
recorded in the state: `pdcp` holds the SDUs given to `pdcp->write_pdu` and `maxRetxAttempted`
counts the calls of `rrc->max_retx_attempted`.

`numbered`, `consumed` and `RlcAmdRxPdu.count` are history variables. They record what the entity
did for use in specifications, no function of the entity reads them.
-/

namespace SrsLte

def RlcAmdPduHeader.packedLength (header : RlcAmdPduHeader) : Nat :=
  2 + (if header.rf then 2 else 0) + (3 * header.li.length + 1) / 2

def RlcStatusNack.packedBits (nack : RlcStatusNack) : Nat :=
  if nack.hasSo then 42 else 12

def RlcStatusPdu.packedLength (status : RlcStatusPdu) : Nat :=
  (15 + (status.nacks.map RlcStatusNack.packedBits).sum + 7) / 8

def rlcAmIsControlPdu (payload : List UInt8) : Bool :=
  match payload with
  | [] => false
  | b0 :: _ => (b0.toNat >>> 7) &&& 0x01 == 0

def RlcDcField.toNat (dc : RlcDcField) : Nat :=
  match dc with
  | controlPdu => 0
  | dataPdu => 1

def RlcAmdPduHeader.fixedByte (header : RlcAmdPduHeader) : Nat :=
  let ext := if header.li.length > 0 then 1 else 0
  header.dc.toNat <<< 7 ||| (header.rf.toNat <<< 6 ||| (header.p.toNat <<< 5
    ||| (header.fi.toNat <<< 3 ||| (ext <<< 2 ||| (header.sn &&& 0x300) >>> 8))))

def rlcAmWriteDataPduHeader (header : RlcAmdPduHeader) : List UInt8 :=
  let fixed := [UInt8.ofNat header.fixedByte, UInt8.ofNat (header.sn &&& 0xFF)]
  let segment :=
    if header.rf then
      [
        UInt8.ofNat (header.lsf.toNat <<< 7 ||| (header.so &&& 0x7F00) >>> 8),
        UInt8.ofNat (header.so &&& 0x00FF)
      ]
    else
      []
  fixed ++ segment ++ writeExtension header.li

/--
Read the header and strip it. The result is `none` if the header does not end inside the payload.
-/
def rlcAmReadDataPduHeader (payload : List UInt8) : Option (RlcAmdPduHeader × List UInt8) :=
  match payload with
  | [] => none
  | b0 :: _ =>
    if (b0.toNat >>> 7) &&& 0x01 = RlcDcField.dataPdu.toNat then
      readData payload
    else
      some ({ dc := .controlPdu }, payload)
where
  readData (payload : List UInt8) : Option (RlcAmdPduHeader × List UInt8) :=
    match payload with
    | b0 :: b1 :: payload =>
      let ext := (b0.toNat >>> 2) &&& 0x01
      let header := readFixed b0 b1
      if header.rf then
        match payload with
        | b2 :: b3 :: payload =>
          readLi ext payload fun li => {
            header with
            lsf := (b2.toNat >>> 7) &&& 0x01 == 1
            so := (b2.toNat &&& 0x7F) <<< 8 ||| (b3.toNat &&& 0xFF)
            li
          }
        | _ => none
      else
        readLi ext payload fun li => { header with li }
    | _ => none
  readFixed (b0 b1 : UInt8) : RlcAmdPduHeader :=
    {
      dc := .dataPdu
      rf := (b0.toNat >>> 6) &&& 0x01 == 1
      p := (b0.toNat >>> 5) &&& 0x01 == 1
      fi := .ofBits ((b0.toNat >>> 3) &&& 0x03)
      sn := (b0.toNat &&& 0x03) <<< 8 ||| (b1.toNat &&& 0xFF)
    }

def rlcAmReadStatusNack (bits : List Bool) : Option (RlcStatusNack × Nat × List Bool) := do
  let (nackSn, bits) ← srslteBitPack bits 10
  let (ext1, bits) ← srslteBitPack bits 1
  let (ext2, bits) ← srslteBitPack bits 1
  if ext2 = 0 then
    return ({ nackSn }, ext1, bits)
  else
    let (soStart, bits) ← srslteBitPack bits 15
    let (soEnd, bits) ← srslteBitPack bits 15
    return ({ nackSn, hasSo := true, soStart, soEnd }, ext1, bits)

def rlcAmReadStatusNacks (fuel : Nat) (bits : List Bool) : Option (List RlcStatusNack) :=
  match fuel with
  | 0 => none
  | fuel + 1 =>
    match rlcAmReadStatusNack bits with
    | none => none
    | some (nack, ext1, bits) =>
      if ext1 = 0 then
        some [nack]
      else
        match rlcAmReadStatusNacks fuel bits with
        | none => none
        | some nacks => some (nack :: nacks)

/--
`none` if this reads past the end of the payload. A control PDU that is not a status PDU leaves
the status as its constructor initialised it.
-/
def rlcAmReadStatusPdu (payload : List UInt8) : Option RlcStatusPdu := do
  let bits := srslteBitUnpackVector payload
  let (dc, bits) ← srslteBitPack bits 1
  if dc = RlcDcField.controlPdu.toNat then
    let (cpt, bits) ← srslteBitPack bits 3
    if cpt = 0 then
      let (ackSn, bits) ← srslteBitPack bits 10
      let (ext1, bits) ← srslteBitPack bits 1
      if ext1 = 0 then
        return { ackSn }
      else
        let nacks ← rlcAmReadStatusNacks bits.length bits
        return { ackSn, nacks }
    else
      return {}
  else
    return {}

def rlcAmWriteStatusNacks (nacks : List RlcStatusNack) : List Bool :=
  match nacks with
  | [] => []
  | nack :: nacks =>
    srslteBitUnpack nack.nackSn 10
      ++ srslteBitUnpack (if nacks.isEmpty then 0 else 1) 1
      ++ (if nack.hasSo then
            srslteBitUnpack 1 1 ++ srslteBitUnpack nack.soStart 15 ++ srslteBitUnpack nack.soEnd 15
          else
            srslteBitUnpack 0 1)
      ++ rlcAmWriteStatusNacks nacks

def rlcAmWriteStatusPdu (status : RlcStatusPdu) : List UInt8 :=
  let bits := srslteBitUnpack RlcDcField.controlPdu.toNat 1
    ++ srslteBitUnpack 0 3
    ++ srslteBitUnpack status.ackSn 10
    ++ srslteBitUnpack (if status.nacks.isEmpty then 0 else 1) 1
    ++ rlcAmWriteStatusNacks status.nacks
  let nPad := 8 - bits.length % 8
  srslteBitPackVector (bits ++ srslteBitUnpack 0 nPad)


structure RlcAmdRxPdu where
  header : RlcAmdPduHeader
  buf : ByteBuffer
  count : Nat
  deriving DecidableEq, Repr

structure RlcAmdTxPdu where
  header : RlcAmdPduHeader := {}
  buf : Option ByteBuffer := none
  retxCount : Nat := 0
  isAcked : Bool := false
  deriving DecidableEq, Repr

structure RlcAmdRetx where
  sn : Nat
  isSegment : Bool
  soStart : Nat
  soEnd : Nat
  deriving DecidableEq, Repr

structure RlcAm where
  cfg : SrslteRlcAmConfig
  txEnabled : Bool := true
  txSduQueue : RlcTxQueue := {}
  txSdu : Option ByteBuffer := none
  txWindow : Map RlcAmdTxPdu := ∅
  retxQueue : List RlcAmdRetx := []
  rxWindow : Map RlcAmdRxPdu := ∅
  rxSegments : Map (List RlcAmdRxPdu) := ∅
  rxSdu : Option ByteBuffer := none
  pollReceived : Bool := false
  doStatus : Bool := false
  status : RlcStatusPdu := {}
  vtA : Nat := 0
  vtMs : Nat := rlcAmWindowSize
  vtS : Nat := 0
  pollSn : Nat := 0
  pduWithoutPoll : Nat := 0
  byteWithoutPoll : Nat := 0
  vrR : Nat := 0
  vrMr : Nat := rlcAmWindowSize
  vrX : Nat := 0
  vrMs : Nat := 0
  vrH : Nat := 0
  pollRetxTimeout : Timeout := {}
  reorderingTimeout : Timeout := {}
  statusProhibitTimeout : Timeout := {}
  pdcp : List ByteBuffer := []
  maxRetxAttempted : Nat := 0
  numbered : List (RlcAmdPduHeader × ByteBuffer) := []
  consumed : List RlcAmdRxPdu := []

namespace RlcAm

def mod : Nat := 1024

def pollPeriodicity : Nat := 8

def rxModBase (s : RlcAm) (x : Nat) : Nat :=
  u32Sub x s.vrR % 1024

def txModBase (s : RlcAm) (x : Nat) : Nat :=
  u32Sub x s.vtA % 1024

def insideRxWindow (s : RlcAm) (sn : Nat) : Bool :=
  s.rxModBase (sn % 2 ^ 16) ≥ s.rxModBase s.vrR && s.rxModBase (sn % 2 ^ 16) < s.rxModBase s.vrMr

def statusProhibited (s : RlcAm) : Bool :=
  s.statusProhibitTimeout.isRunning && !s.statusProhibitTimeout.expired

def pollRetx (s : RlcAm) : Bool :=
  s.pollRetxTimeout.isRunning && s.pollRetxTimeout.expired

def pollRequired (s : RlcAm) : Bool :=
  (s.cfg.pollPdu > 0 && s.pduWithoutPoll > s.cfg.pollPdu.toNat)
    || (s.cfg.pollByte > 0 && s.byteWithoutPoll > s.cfg.pollByte.toNat)
    || s.pollRetx
    || (s.txSduQueue.size == 0 && s.retxQueue.length == 0)
    || (s.cfg.pollPdu == 0 && s.cfg.pollByte == 0 && s.vtS % pollPeriodicity == 0)

def setPollBit (s : RlcAm) (nofBytes : Nat) : RlcAm × Bool :=
  let s := {
    s with
    pduWithoutPoll := (s.pduWithoutPoll + 1) % 2 ^ 32
    byteWithoutPoll := (s.byteWithoutPoll + nofBytes) % 2 ^ 32
  }
  if s.pollRequired then
    ({
      s with
      pollSn := s.vtS
      pduWithoutPoll := 0
      byteWithoutPoll := 0
      pollRetxTimeout := s.pollRetxTimeout.start s.cfg.tPollRetx
    }, true)
  else
    (s, false)

def retxQueueHasSn (s : RlcAm) (sn : Nat) : Bool :=
  s.retxQueue.any (fun retx => retx.sn == sn)

end RlcAm

end SrsLte
