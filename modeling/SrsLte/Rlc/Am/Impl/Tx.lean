import SrsLte.Rlc.Am.Impl.Basic
import SrsLte.Data.Trace

/-!
This module contains the transmitting side of `rlc_am`: the status report, the retransmission of
stored PDUs, whole or in segments, the building of new data PDUs and the handling of status PDUs.

The `build` functions return the state, the return value and the bytes written to the payload. The buffer a PDU is
built in is not bounded here: the source copies SDUs into one of 11736 bytes without a check, and a grant of at most
11738 bytes stays within it (`Built.length`).
-/

namespace SrsLte.RlcAm

def prepareStatus (s : RlcAm) : RlcAm × Nat :=
  let status : RlcStatusPdu := { ackSn := s.vrMs, nacks := nacks (s.rxModBase s.vrMs) s.vrR }
  ({ s with status }, status.packedLength)
where
  /--
  The loop over the sequence numbers from `vr_r` to `vr_ms`.
  -/
  nacks (fuel : Nat) (i : Nat) : List RlcStatusNack :=
    match fuel with
    | 0 => []
    | fuel + 1 =>
      if s.rxModBase i < s.rxModBase s.vrMs then
        if i ∈ s.rxWindow then
          nacks fuel ((i + 1) % mod)
        else
          { nackSn := i } :: nacks fuel ((i + 1) % mod)
      else
        []

def buildStatusPdu (s : RlcAm) (nofBytes : Nat) : RlcAm × Int × List UInt8 :=
  let pduLen := s.status.packedLength
  if pduLen > 0 ∧ nofBytes ≥ pduLen then
    let payload := rlcAmWriteStatusPdu s.status
    let s := {
      s with
      doStatus := false
      pollReceived := false
      statusProhibitTimeout :=
        if s.cfg.tStatusProhibit > 0 then
          s.statusProhibitTimeout.start s.cfg.tStatusProhibit
        else
          s.statusProhibitTimeout
    }
    (s, payload.length, payload)
  else
    (s, 0, [])

def requiredBufferSize.nLi (soStart soEnd : Nat) (li : List Nat) (lower : Nat) : Nat :=
  match li with
  | [] => 0
  | l :: li =>
    if lower ≥ soEnd then
      0
    else if lower + l > soStart ∧ lower < soEnd then
      1 + nLi soStart soEnd li (lower + l)
    else
      nLi soStart soEnd li (lower + l)

def requiredBufferSize (s : RlcAm) (retx : RlcAmdRetx) : Int :=
  match s.txWindow.lookup retx.sn with
  | none => -1
  | some pdu =>
    if retx.isSegment then
      let nLi := requiredBufferSize.nLi retx.soStart retx.soEnd pdu.header.li 0
      let header : RlcAmdPduHeader := { rf := true, li := List.replicate nLi 0 }
      u32ToInt (header.packedLength + u32Sub retx.soEnd retx.soStart)
    else
      match pdu.buf with
      | none => -1
      | some buf => u32ToInt (pdu.header.packedLength + buf.length)

namespace buildSegment

structure LiState where
  header : RlcAmdPduHeader
  soEnd : Nat
  pduSpace : Nat
  lower : Nat

def liStep (nofBytes soStart l : Nat) (st : LiState) : LiState :=
  let upper := st.lower + l
  let pduSpace := u32Sub nofBytes st.header.packedLength
  let soEnd := if pduSpace < u32Sub st.soEnd soStart then soStart + pduSpace else st.soEnd
  let header :=
    -- Current SDU is needed
    if upper > soStart ∧ st.lower < soEnd then
      let li := l - (if upper > soEnd then upper - soEnd else 0)
        - (if st.lower < soStart then soStart - st.lower else 0)
      let fi := if st.lower > 0 ∧ st.lower = soStart then st.header.fi &&& .notEndAligned else st.header.fi
      let fi := if upper = soEnd then fi &&& .notStartAligned else fi
      { st.header with fi, li := st.header.li ++ [li] }
    else
      st.header
  { header, soEnd, pduSpace, lower := upper }

def liLoop (nofBytes soStart : Nat) (li : List Nat) (st : LiState) : LiState :=
  match li with
  | [] => st
  | l :: li =>
    if st.lower ≥ st.soEnd then
      st
    else if st.pduSpace ≤ 2 then
      st
    else
      liLoop nofBytes soStart li (liStep nofBytes soStart l st)

def keepLi (soStart : Nat) (st : LiState) : RlcAmdPduHeader :=
  match st.header.li with
  | [l] =>
    if soStart + l < st.soEnd ∧ st.soEnd ≤ soStart + st.pduSpace then
      { st.header with li := [l, 0] }
    else
      st.header
  | _ => st.header

def segmentHeader (oldHeader : RlcAmdPduHeader) (p : Bool) (nofBytes soStart soEnd : Nat)
    : RlcAmdPduHeader × Nat :=
  let header : RlcAmdPduHeader := {
    dc := .dataPdu
    rf := true
    fi := .notStartOrEndAligned
    sn := oldHeader.sn
    so := soStart
    p
  }
  let pduSpace := nofBytes - header.packedLength
  let soEnd := if pduSpace < u32Sub soEnd soStart then soStart + pduSpace else soEnd
  let header :=
    if soStart = 0 ∧ oldHeader.fi.startAligned then
      { header with fi := header.fi &&& .notEndAligned }
    else
      header
  let st := liLoop nofBytes soStart oldHeader.li { header, soEnd, pduSpace, lower := 0 }
  (keepLi soStart st, st.soEnd)

def finish (oldHeader : RlcAmdPduHeader) (nBytes : Nat) (header : RlcAmdPduHeader) (soEnd : Nat)
    (front : RlcAmdRetx) (rest : List RlcAmdRetx) : RlcAmdPduHeader × List RlcAmdRetx :=
  if nBytes = soEnd then
    let fi := if oldHeader.fi.endAligned then header.fi &&& .notStartAligned else header.fi
    ({ header with lsf := true, fi }, rest)
  else if front.soEnd = soEnd then
    (header, rest)
  else
    ({ header with li := header.li.dropLast }, { front with isSegment := true, soStart := soEnd } :: rest)

end buildSegment

def buildSegment.copy (buf : ByteBuffer) (start len : Nat) : List UInt8 :=
  (buf.drop start ++ List.replicate len 0).take len

def buildSegment (s : RlcAm) (nofBytes : Nat) (retx : RlcAmdRetx) : RlcAm × Int × List UInt8 :=
  match s.txWindow.lookup retx.sn, s.retxQueue with
  | some { header := oldHeader, buf := some buf, .. }, front :: rest =>
    let soStart := if retx.isSegment then retx.soStart else 0
    let soEnd := if retx.isSegment then retx.soEnd else buf.length
    -- the new header is still as its constructor left it
    let (s, p) := s.setPollBit (buf.length + ({} : RlcAmdPduHeader).packedLength)
    if nofBytes ≤ ({ rf := true } : RlcAmdPduHeader).packedLength then
      (s, 0, [])
    else
      let (header, soEnd) := buildSegment.segmentHeader oldHeader p nofBytes soStart soEnd
      let (header, retxQueue) := buildSegment.finish oldHeader buf.length header soEnd front rest
      let payload := rlcAmWriteDataPduHeader header ++ buildSegment.copy buf soStart (u32Sub soEnd soStart)
      ({ s with retxQueue }, payload.length, payload)
  | _, _ => (s, 0, [])

def dropStaleRetx (s : RlcAm) : RlcAm :=
  { s with retxQueue := s.retxQueue.dropWhile (fun retx => retx.sn ∉ s.txWindow) }

def buildRetxPdu.whole (s : RlcAm) (retx : RlcAmdRetx) (rest : List RlcAmdRetx) (pdu : RlcAmdTxPdu)
    : RlcAm × Int × List UInt8 :=
  let buf := pdu.buf.getD []
  let (s, p) := s.setPollBit (buf.length + pdu.header.packedLength)
  let payload := rlcAmWriteDataPduHeader { pdu.header with p } ++ buf
  let retxCount := (pdu.retxCount + 1) % 2 ^ 32
  let s := {
    s with
    retxQueue := rest
    txWindow := s.txWindow.insert retx.sn { pdu with retxCount }
    maxRetxAttempted :=
      if retxCount ≥ s.cfg.maxRetxThresh then s.maxRetxAttempted + 1 else s.maxRetxAttempted
  }
  (s, payload.length, payload)

def buildRetxPdu (s : RlcAm) (nofBytes : Nat) : RlcAm × Int × List UInt8 :=
  if s.retxQueue.isEmpty then
    (s, -1, [])
  else
    let s := s.dropStaleRetx
    match s.retxQueue with
    | [] => (s, 0, [])
    | retx :: rest =>
      match s.txWindow.lookup retx.sn with
      | some pdu =>
        -- Is resegmentation needed?
        let reqSize := s.requiredBufferSize retx
        if reqSize < 0 then
          ({ s with retxQueue := rest }, -1, [])
        else if retx.isSegment ∨ reqSize > u32ToInt nofBytes then
          s.buildSegment nofBytes retx
        else
          buildRetxPdu.whole s retx rest pdu
      -- not reached
      | none => (s, -1, [])

namespace buildDataPdu

def moveSdu (st : PullState) (sdu : ByteBuffer) : PullState :=
  let toMove := if st.pduSpace - st.headLen ≥ sdu.length then sdu.length else st.pduSpace - st.headLen
  {
    st with
    pdu := st.pdu ++ sdu.take toMove
    lastLi := toMove
    txSdu := if sdu.length - toMove = 0 then none else some (sdu.drop toMove)
    pduSpace := if st.pduSpace > toMove then st.pduSpace - toMove else 0
  }

def pullSdus (queue : List ByteBuffer) (st : PullState) : PullState :=
  match queue with
  | [] => st
  | sdu :: queue =>
    if st.pduSpace > st.headLen + 1 then
      let li := st.nextLi
      let headLen := ({ li } : RlcAmdPduHeader).packedLength
      if headLen ≥ st.pduSpace then
        { st with li := li.dropLast, headLen }
      else
        let st := { st with li, headLen, queue := { queue, unreadBytes := st.queue.popping sdu } }
        pullSdus queue (moveSdu st sdu)
    else
      st

def pull (s : RlcAm) (nofBytes : Nat) : PullState :=
  let st : PullState := {
    li := []
    headLen := ({} : RlcAmdPduHeader).packedLength
    pduSpace := nofBytes
    lastLi := 0
    pdu := []
    txSdu := s.txSdu
    queue := s.txSduQueue
  }
  match s.txSdu with
  -- Check for SDU segment
  | some sdu => pullSdus s.txSduQueue.queue (moveSdu st sdu)
  | none => pullSdus s.txSduQueue.queue st

def number (s : RlcAm) (fi : RlcFiField) (st : PullState) : RlcAm × Int × List UInt8 :=
  let (s, p) := s.setPollBit (st.pdu.length + st.headLen)
  let header : RlcAmdPduHeader := { dc := .dataPdu, fi, sn := s.vtS, li := st.li, p }
  let payload := rlcAmWriteDataPduHeader header ++ st.pdu
  let s := {
    s with
    vtS := (s.vtS + 1) % mod
    txWindow := s.txWindow.insert header.sn { header, buf := some st.pdu }
    numbered := s.numbered ++ [(header, st.pdu)]
  }
  (s, payload.length, payload)

end buildDataPdu

def buildDataPdu (s : RlcAm) (nofBytes : Nat) : RlcAm × Int × List UInt8 :=
  if s.txSdu.isNone ∧ s.txSduQueue.size = 0 then
    (s, 0, [])
  -- do not build any more PDU if window is already full
  else if s.txSdu.isNone ∧ s.txWindow.size ≥ rlcAmWindowSize then
    (s, 0, [])
  else if nofBytes ≤ ({} : RlcAmdPduHeader).packedLength + 1 then
    (s, 0, [])
  else
    let st := buildDataPdu.pull s nofBytes
    let fi := st.framing s.txSdu.isSome
    let s := { s with txSdu := st.txSdu, txSduQueue := st.queue }
    -- Make sure, at least one SDU (segment) has been added until this point
    if st.pdu.length = 0 then
      (s, 0, [])
    else
      buildDataPdu.number s fi st

namespace handleControlPdu

def nackRetx (i : Nat) (buf : ByteBuffer) (nack : RlcStatusNack) : RlcAmdRetx :=
  if nack.hasSo then
    -- sanity check
    let soStart := if nack.soStart ≥ buf.length then 0 else nack.soStart
    -- check for special SO_end value
    let retxSoEnd := if nack.soEnd = 0x7FFF then buf.length else nack.soEnd + 1
    let soEnd := if nack.soEnd = 0x7FFF then buf.length % 2 ^ 16 else nack.soEnd
    if soStart < buf.length ∧ soEnd ≤ buf.length then
      { sn := i, isSegment := true, soStart, soEnd := retxSoEnd }
    else
      { sn := i, isSegment := false, soStart := 0, soEnd := retxSoEnd }
  else
    { sn := i, isSegment := false, soStart := 0, soEnd := buf.length }

def handleNack (i : Nat) (s : RlcAm) (nack : RlcStatusNack) : RlcAm :=
  match s.txWindow.lookup i with
  | some pdu =>
    if s.retxQueueHasSn i then
      s
    else
      { s with retxQueue := s.retxQueue ++ [nackRetx i (pdu.buf.getD []) nack] }
  | none => s

structure LoopState where
  am : RlcAm
  i : Nat
  updateVtA : Bool

def loopCond (status : RlcStatusPdu) (st : LoopState) : Prop :=
  st.am.txModBase st.i < st.am.txModBase status.ackSn ∧ st.am.txModBase st.i < st.am.txModBase st.am.vtS

instance (status : RlcStatusPdu) : DecidablePred (loopCond status) :=
  fun _ => inferInstanceAs (Decidable (_ ∧ _))

def loopBody (status : RlcStatusPdu) (st : LoopState) : LoopState :=
  let matching := status.nacks.filter (fun nack => nack.nackSn == st.i)
  let am := matching.foldl (handleNack st.i) st.am
  let updateVtA := st.updateVtA && matching.isEmpty
  -- ACKed SNs get marked and removed from tx_window if possible
  let am :=
    if matching.isEmpty ∧ st.i ∈ am.txWindow ∧ updateVtA then
      {
        am with
        txWindow := am.txWindow.erase st.i
        vtA := (am.vtA + 1) % mod
        vtMs := (am.vtMs + 1) % mod
      }
    else
      am
  { am, i := (st.i + 1) % mod, updateVtA }

def loopStart (s : RlcAm) (status : RlcStatusPdu) : LoopState :=
  {
    am := {
      s with
      pollRetxTimeout := s.pollRetxTimeout.reset
      -- flush retx queue to avoid unordered SNs, we expect the Rx to request lost PDUs again
      retxQueue := if status.nacks.length > 0 then [] else s.retxQueue
    }
    i := s.vtA
    updateVtA := true
  }

end handleControlPdu

def handleStatus (s : RlcAm) (status : RlcStatusPdu) : RlcAm :=
  (Loop.whileDo (handleControlPdu.loopCond status) (handleControlPdu.loopBody status)
    (s.txModBase s.vtS) (handleControlPdu.loopStart s status)).am

def handleControlPdu (s : RlcAm) (payload : List UInt8) : RlcAm :=
  match rlcAmReadStatusPdu payload with
  | some status => s.handleStatus status
  | none => s

end SrsLte.RlcAm
