import SrsLte.Rlc.Am.Impl.Basic
import SrsLte.Data.Trace

/-!
This module contains the receiving side of `rlc_am`: the reordering timer, the handling of data
PDUs and of PDU segments and the reassembly of SDUs.
-/

namespace SrsLte.RlcAm

def advanceVrMs (s : RlcAm) : RlcAm :=
  Loop.whileDo (fun s => s.vrMs ∈ s.rxWindow) (fun s => { s with vrMs := (s.vrMs + 1) % mod })
    s.rxWindow.size s

def checkReorderingTimeout (s : RlcAm) : RlcAm :=
  if s.reorderingTimeout.isRunning && s.reorderingTimeout.expired then
    -- 36.322 v10 Section 5.1.3.2.4
    let s := { s with reorderingTimeout := s.reorderingTimeout.reset, vrMs := s.vrX }
    let s := s.advanceVrMs
    let s := { s with doStatus := s.doStatus || s.pollReceived }
    if s.rxModBase s.vrH > s.rxModBase s.vrMs then
      { s with reorderingTimeout := s.reorderingTimeout.start s.cfg.tReordering, vrX := s.vrH }
    else
      s
  else
    s

namespace reassembleRxSdus

structure LiState where
  off : Nat
  rxSdu : ByteBuffer
  pdcp : List ByteBuffer
  ok : Bool

def liLoop (buf : ByteBuffer) (li : List Nat) (st : LiState) : LiState :=
  match li with
  | [] => st
  | len :: li =>
    -- sanity check to avoid zero-size SDUs
    if len = 0 then
      st
    else if st.rxSdu.getTailroom ≥ len then
      if srslteBufferHeaderOffset + st.off + len < srslteMaxBufferSizeBytes then
        liLoop buf li {
          st with
          off := st.off + len
          rxSdu := []
          pdcp := st.pdcp ++ [st.rxSdu ++ (buf.drop st.off).take len]
        }
      else
        { st with rxSdu := [], ok := false }
    else
      { st with rxSdu := [], ok := false }

def lastSegment (pdu : RlcAmdRxPdu) (st : LiState) : LiState :=
  let last := pdu.buf.drop st.off
  if st.rxSdu.getTailroom ≥ u32Sub pdu.buf.length st.off then
    if pdu.header.fi.endAligned then
      { st with rxSdu := [], pdcp := st.pdcp ++ [st.rxSdu ++ last] }
    else
      { st with rxSdu := st.rxSdu ++ last }
  else
    { st with rxSdu := [], pdcp := st.pdcp ++ [[]] }

def consume (s : RlcAm) (pdu : RlcAmdRxPdu) : RlcAm :=
  let st : LiState := { off := 0, rxSdu := s.rxSdu.getD [], pdcp := s.pdcp, ok := true }
  let st := liLoop pdu.buf pdu.header.li st
  let st := if st.ok then lastSegment pdu st else st
  -- Move the rx_window
  {
    s with
    rxSdu := some st.rxSdu
    pdcp := st.pdcp
    rxWindow := s.rxWindow.erase s.vrR
    vrR := (s.vrR + 1) % mod
    vrMr := (s.vrMr + 1) % mod
    consumed := s.consumed ++ [pdu]
  }

def body (s : RlcAm) : RlcAm :=
  match s.rxWindow.lookup s.vrR with
  | some pdu => consume s pdu
  | none => s

end reassembleRxSdus

def reassembleRxSdus (s : RlcAm) : RlcAm :=
  let s := { s with rxSdu := some (s.rxSdu.getD []) }
  Loop.whileDo (fun s => s.vrR ∈ s.rxWindow) reassembleRxSdus.body s.rxWindow.size s

def pollUnstored (s : RlcAm) (header : RlcAmdPduHeader) : RlcAm :=
  { s with doStatus := s.doStatus || header.p }

def updateVrH (s : RlcAm) (header : RlcAmdPduHeader) : RlcAm :=
  if s.rxModBase header.sn ≥ s.rxModBase s.vrH then
    { s with vrH := (header.sn + 1) % mod }
  else
    s

def checkPollBit (s : RlcAm) (header : RlcAmdPduHeader) : RlcAm :=
  if header.p then
    let s := { s with pollReceived := true }
    -- 36.322 v10 Section 5.2.3
    if s.rxModBase header.sn < s.rxModBase s.vrMs ∨ s.rxModBase header.sn ≥ s.rxModBase s.vrMr then
      { s with doStatus := true }
    else
      s
  else
    s

def stopReordering (s : RlcAm) : RlcAm :=
  if s.reorderingTimeout.isRunning
      ∧ (s.vrX = s.vrR ∨ (¬ s.insideRxWindow s.vrX ∧ s.vrX ≠ s.vrMr)) then
    { s with reorderingTimeout := s.reorderingTimeout.reset }
  else
    s

def startReordering (s : RlcAm) : RlcAm :=
  if ¬ s.reorderingTimeout.isRunning ∧ s.rxModBase s.vrH > s.rxModBase s.vrR then
    { s with reorderingTimeout := s.reorderingTimeout.start s.cfg.tReordering, vrX := s.vrH }
  else
    s

def updateReordering (s : RlcAm) : RlcAm :=
  s.stopReordering.startReordering

def rxPdu (s : RlcAm) (payload : List UInt8) (header : RlcAmdPduHeader) : RlcAmdRxPdu :=
  { header, buf := payload, count := s.consumed.length + s.rxModBase header.sn }

def storePdu (s : RlcAm) (payload : List UInt8) (header : RlcAmdPduHeader) : RlcAm :=
  let s := { s with rxWindow := s.rxWindow.insert header.sn (s.rxPdu payload header) }
  (s.updateVrH header).advanceVrMs.checkPollBit header

def handleDataPdu (s : RlcAm) (payload : List UInt8) (header : RlcAmdPduHeader) : RlcAm :=
  if ¬ s.insideRxWindow header.sn then
    s.pollUnstored header
  else if header.sn ∈ s.rxWindow then
    s.pollUnstored header
  -- check available space for payload
  else if payload.length > ByteBuffer.getTailroom [] then
    s
  else
    (s.storePdu payload header).reassembleRxSdus.updateReordering

namespace addSegmentAndCheck

def contiguous (segments : List RlcAmdRxPdu) (so : Nat) : Bool :=
  match segments with
  | [] => true
  | segment :: segments =>
    so == segment.header.so && contiguous segments ((so + segment.buf.length) % 2 ^ 32)

def reconstructLi (segments : List RlcAmdRxPdu) (carryover : Nat) : List Nat :=
  match segments with
  | [] => []
  | segment :: segments =>
    let li := match segment.header.li with
      | [] => []
      | l :: li => (l + carryover) % 2 ^ 16 :: li
    let count := segment.header.li.sum % 2 ^ 16
    let rest := u32Sub segment.buf.length count
    -- accumulate segment sizes until end aligned PDU is received
    let carryover :=
      if segment.header.fi.isNotStartAligned then (carryover + rest) % 2 ^ 16 else rest % 2 ^ 16
    if segment.header.fi.endAligned ∧ segments ≠ [] then
      li ++ [carryover] ++ reconstructLi segments 0
    else
      li ++ reconstructLi segments carryover

def reconstructFi (first last : RlcAmdRxPdu) : RlcFiField :=
  (RlcFiField.startAndEndAligned ||| (first.header.fi &&& .notStartAligned))
    ||| (last.header.fi &&& .notEndAligned)

def reconstructHeader (first last : RlcAmdRxPdu) (segments : List RlcAmdRxPdu) : RlcAmdPduHeader :=
  {
    dc := .dataPdu
    fi := reconstructFi first last
    sn := first.header.sn
    li := reconstructLi segments 0
  }

def reconstructPayload (segments : List RlcAmdRxPdu) : List UInt8 :=
  segments.flatMap (fun segment => segment.buf)

def nextOffset (segments : List RlcAmdRxPdu) : Nat :=
  match segments.getLast? with
  | some back => (back.header.so + back.buf.length) % 2 ^ 32
  | none => 0

def addSegment (segments : List RlcAmdRxPdu) (segment : RlcAmdRxPdu)
    : List RlcAmdRxPdu × Option (List UInt8 × RlcAmdPduHeader) :=
  -- Check for first segment
  if segment.header.so = 0 then
    ([segment], none)
  else
    -- Check segment offset
    if segment.header.so ≠ nextOffset segments then
      (segments, none)
    else
      -- Check for complete
      let first := segments.headD segment
      let segments := segments ++ [segment]
      if contiguous segments 0 ∧ segment.header.lsf then
        (segments, some (reconstructPayload segments, reconstructHeader first segment segments))
      else
        (segments, none)

end addSegmentAndCheck

def addSegmentAndCheck (s : RlcAm) (sn : Nat) (segments : List RlcAmdRxPdu) (segment : RlcAmdRxPdu)
    : RlcAm :=
  match addSegmentAndCheck.addSegment segments segment with
  | (segments, none) => { s with rxSegments := s.rxSegments.insert sn segments }
  | (_, some (payload, header)) =>
    let s := s.handleDataPdu payload header
    { s with rxSegments := s.rxSegments.erase sn }

def handleDataPduSegment (s : RlcAm) (payload : List UInt8) (header : RlcAmdPduHeader) : RlcAm :=
  -- Check inside rx window
  if ¬ s.insideRxWindow header.sn then
    s.pollUnstored header
  else
    let segment := s.rxPdu payload header
    -- Check if we already have a segment from the same PDU
    match s.rxSegments.lookup header.sn with
    | some segments => (s.pollUnstored header).addSegmentAndCheck header.sn segments segment
    | none =>
      -- Create new PDU segment list and write to rx_segments
      let s := { s with rxSegments := s.rxSegments.insert header.sn [segment] }
      (s.updateVrH header).checkPollBit header

end SrsLte.RlcAm
