import SrsLte.Rlc.Common
import SrsLte.Rlc.Extension
import SrsLte.Common.Timers
import SrsLte.Data.Trace

/-!
This module contains `rlc_um.cc` and the transition system that calls it.

Buffers are always available from the buffer pool, and the one in which a PDU is put together is not bounded. A PDU
whose length indicators go beyond its end is not modelled further, its segments end where the PDU ends. `pdcp` holds
the SDUs given to `pdcp->write_pdu`, or to `pdcp->write_pdu_mch` on a multicast bearer.

`numbered` is a history variable, no function of the entity reads it.
-/

namespace SrsLte

def RlcUmdPduHeader.packedLength (header : RlcUmdPduHeader) : Nat :=
  (match header.snSize with
    | .size5Bits => 1
    | .size10Bits => 2)
    + (3 * header.li.length + 1) / 2

def rlcUmWriteDataPduHeader (header : RlcUmdPduHeader) : List UInt8 :=
  let ext := if header.li.length > 0 then 1 else 0
  let fixed := match header.snSize with
    | .size5Bits =>
      [UInt8.ofNat ((header.fi.toNat &&& 0x03) <<< 6 ||| ((ext &&& 0x01) <<< 5 ||| header.sn &&& 0x1F))]
    | .size10Bits =>
      [
        UInt8.ofNat ((header.fi.toNat &&& 0x03) <<< 3 ||| ((ext &&& 0x01) <<< 2 ||| (header.sn &&& 0x300) >>> 8)),
        UInt8.ofNat (header.sn &&& 0xFF)
      ]
  fixed ++ writeExtension header.li

def rlcUmReadDataPduHeader (payload : List UInt8) (snSize : RlcUmdSnSize)
    : Option (RlcUmdPduHeader × List UInt8) :=
  match snSize, payload with
  | .size5Bits, b0 :: payload =>
    readLi ((b0.toNat >>> 5) &&& 0x01) payload fun li => {
      fi := .ofBits ((b0.toNat >>> 6) &&& 0x03)
      snSize
      sn := b0.toNat &&& 0x1F
      li
    }
  | .size10Bits, b0 :: b1 :: payload =>
    readLi ((b0.toNat >>> 2) &&& 0x01) payload fun li => {
      fi := .ofBits ((b0.toNat >>> 3) &&& 0x03)
      snSize
      sn := (b0.toNat &&& 0x03) <<< 8 ||| (b1.toNat &&& 0xFF)
      li
    }
  | _, _ => none

structure RlcUmdPdu where
  header : RlcUmdPduHeader
  buf : ByteBuffer
  deriving DecidableEq, Repr

structure RlcUm where
  cfg : SrslteRlcUmConfig
  txEnabled : Bool := true
  txSduQueue : RlcTxQueue := {}
  txSdu : Option ByteBuffer := none
  rxWindow : Map RlcUmdPdu := ∅
  rxSdu : Option ByteBuffer := none
  vrUrInRxSdu : Nat := 0
  vtUs : Nat := 0
  vrUr : Nat := 0
  vrUx : Nat := 0
  vrUh : Nat := 0
  reorderingTimer : Timer := {}
  pduLost : Bool := false
  pdcp : List ByteBuffer := []
  numbered : List (RlcUmdPduHeader × ByteBuffer) := []

namespace RlcUm

def rxModBase (s : RlcUm) (x : Nat) : Nat :=
  u32Sub (u32Sub x s.vrUh) s.cfg.rxWindowSize % s.cfg.rxMod

def insideReorderingWindow (s : RlcUm) (sn : Nat) : Bool :=
  if s.cfg.rxWindowSize = 0 then
    true
  else
    s.rxModBase (sn % 2 ^ 16) ≥ s.rxModBase (u32Sub s.vrUh s.cfg.rxWindowSize)
      && s.rxModBase (sn % 2 ^ 16) < s.rxModBase s.vrUh

end RlcUm

end SrsLte

namespace SrsLte.RlcUm

def getBufferState (s : RlcUm) : Nat :=
  let nSdus := s.txSduQueue.size + (if s.txSdu.isSome then 1 else 0)
  let nBytes := (s.txSduQueue.sizeBytes + (s.txSdu.getD []).length) % 2 ^ 32
  -- Room needed for header extensions? (integer rounding)
  let nBytes := if nSdus > 1 then (nBytes + (3 * (nSdus - 1) + 1) / 2) % 2 ^ 32 else nBytes
  -- Room needed for fixed header?
  if nBytes > 0 then (nBytes + (if s.cfg.isMrb then 2 else 3)) % 2 ^ 32 else nBytes

namespace buildDataPdu

def moveSdu (st : PullState) (sdu : ByteBuffer) : PullState :=
  let space := u32Sub st.pduSpace st.headLen
  let toMove := if space ≥ sdu.length then sdu.length else space
  {
    st with
    pdu := st.pdu ++ sdu.take toMove
    lastLi := toMove
    txSdu := if sdu.length - toMove = 0 then none else some (sdu.drop toMove)
    pduSpace := st.pduSpace - toMove
  }

def headLen (snSize : RlcUmdSnSize) (li : List Nat) : Nat :=
  ({ fi := .startAndEndAligned, snSize, sn := 0, li } : RlcUmdPduHeader).packedLength

def pullSdus (snSize : RlcUmdSnSize) (queue : List ByteBuffer) (st : PullState) : PullState :=
  match queue with
  | [] => st
  | sdu :: queue =>
    if st.pduSpace > st.headLen + 1 then
      let st := {
        st with
        li := st.nextLi
        headLen := headLen snSize st.nextLi
        queue := { queue, unreadBytes := st.queue.popping sdu }
      }
      pullSdus snSize queue (moveSdu st sdu)
    else
      st

def start (s : RlcUm) (nofBytes : Nat) : PullState :=
  {
    li := []
    headLen := headLen s.cfg.txSnFieldLength []
    pduSpace := nofBytes
    lastLi := 0
    pdu := []
    txSdu := s.txSdu
    queue := s.txSduQueue
  }

def pull (s : RlcUm) (nofBytes : Nat) : PullState :=
  match s.txSdu with
  -- Check for SDU segment
  | some sdu => pullSdus s.cfg.txSnFieldLength s.txSduQueue.queue (moveSdu (start s nofBytes) sdu)
  | none => pullSdus s.cfg.txSnFieldLength s.txSduQueue.queue (start s nofBytes)

end buildDataPdu

def buildDataPdu (s : RlcUm) (nofBytes : Nat) : RlcUm × Int × List UInt8 :=
  if s.txSdu.isNone ∧ s.txSduQueue.size = 0 then
    (s, 0, [])
  else if u32ToInt nofBytes ≤ buildDataPdu.headLen s.cfg.txSnFieldLength [] + 1 then
    (s, 0, [])
  else
    let st := buildDataPdu.pull s nofBytes
    let header : RlcUmdPduHeader := {
      fi := st.framing s.txSdu.isSome
      snSize := s.cfg.txSnFieldLength
      sn := s.vtUs
      li := st.li
    }
    let payload := rlcUmWriteDataPduHeader header ++ st.pdu
    let s := {
      s with
      txSdu := st.txSdu
      txSduQueue := st.queue
      vtUs := (s.vtUs + 1) % s.cfg.txMod
      numbered := s.numbered ++ [(header, st.pdu)]
    }
    (s, payload.length, payload)


namespace reassembleRxSdus

structure Assembly where
  rxSdu : ByteBuffer
  vrUrInRxSdu : Nat
  pduLost : Bool
  pdcp : List ByteBuffer

def middleSegment (rxMod vrUr : Nat) (fi : RlcFiField) (segment : ByteBuffer) (st : Assembly) : Assembly :=
  let rxSdu := st.rxSdu ++ segment
  let dropped := (st.pduLost && !fi.startAligned) || vrUr != (st.vrUrInRxSdu + 1) % rxMod
  {
    st with
    rxSdu := []
    pduLost := false
    pdcp := if dropped then st.pdcp else st.pdcp ++ [rxSdu]
  }

def endSegment (fi : RlcFiField) (st : Assembly) : Assembly :=
  if fi.endAligned then
    let dropped := st.pduLost && !fi.startAligned
    {
      st with
      rxSdu := []
      pduLost := false
      pdcp := if dropped then st.pdcp else st.pdcp ++ [st.rxSdu]
    }
  else
    st

namespace lowerEdge

def liLoop (rxMod vrUr : Nat) (fi : RlcFiField) (i : Nat) (li : List Nat) (buf : ByteBuffer) (st : Assembly)
    : Assembly × ByteBuffer :=
  match li with
  | [] => (st, buf)
  | len :: li =>
    -- Check if we received a middle or end segment
    if st.rxSdu.length = 0 ∧ i = 0 ∧ ¬ fi.startAligned then
      ({ st with rxSdu := [] }, buf.drop len)
    else
      liLoop rxMod vrUr fi (i + 1) li (buf.drop len) (middleSegment rxMod vrUr fi (buf.take len) st)

def handle (rxMod vrUr : Nat) (pdu : RlcUmdPdu) (st : Assembly) : Assembly :=
  let (st, buf) := liLoop rxMod vrUr pdu.header.fi 0 pdu.header.li pdu.buf st
  -- Handle last segment
  if st.rxSdu.length > 0 ∨ pdu.header.fi.startAligned then
    endSegment pdu.header.fi { st with rxSdu := st.rxSdu ++ buf, vrUrInRxSdu := vrUr }
  else
    st

end lowerEdge

namespace update

def liLoop (rxMod vrUr : Nat) (fi : RlcFiField) (i : Nat) (li : List Nat) (buf : ByteBuffer) (st : Assembly)
    : Assembly × ByteBuffer × Bool :=
  match li with
  | [] => (st, buf, true)
  | len :: li =>
    -- Check if the first part of the PDU is a middle or end segment
    if st.rxSdu.length = 0 ∧ i = 0 ∧ ¬ fi.startAligned then
      ({ st with rxSdu := [] }, buf.drop len, true)
    -- Check available space in SDU
    else if len > st.rxSdu.getTailroom then
      ({ st with rxSdu := [] }, buf, false)
    else
      liLoop rxMod vrUr fi (i + 1) li (buf.drop len) (middleSegment rxMod vrUr fi (buf.take len) st)

def lastSegment (vrUr : Nat) (header : RlcUmdPduHeader) (buf : ByteBuffer) (st : Assembly) : Assembly :=
  if st.rxSdu.length = 0 ∧ header.li.length = 0 ∧ ¬ header.fi.startAligned then
    { st with rxSdu := [] }
  else
    let fits := st.rxSdu.length < srslteMaxBufferSizeBytes
      ∧ buf.length < srslteMaxBufferSizeBytes
      ∧ buf.length + st.rxSdu.length < srslteMaxBufferSizeBytes
    let rxSdu := if fits then st.rxSdu ++ buf else st.rxSdu
    endSegment header.fi { st with rxSdu, vrUrInRxSdu := vrUr }

def handle (rxMod vrUr : Nat) (pdu : RlcUmdPdu) (st : Assembly) : Assembly :=
  let (st, buf, ok) := liLoop rxMod vrUr pdu.header.fi 0 pdu.header.li pdu.buf st
  if ok then lastSegment vrUr pdu.header buf st else st

end update

def assembly (s : RlcUm) : Assembly :=
  {
    rxSdu := s.rxSdu.getD []
    vrUrInRxSdu := s.vrUrInRxSdu
    pduLost := s.pduLost
    pdcp := s.pdcp
  }

def consume (s : RlcUm) (st : Assembly) : RlcUm :=
  {
    s with
    rxSdu := some st.rxSdu
    vrUrInRxSdu := st.vrUrInRxSdu
    pduLost := st.pduLost
    pdcp := st.pdcp
    rxWindow := s.rxWindow.erase s.vrUr
    vrUr := (s.vrUr + 1) % s.cfg.rxMod
  }

namespace lowerEdge

def cond (s : RlcUm) : Prop :=
  ¬ s.insideReorderingWindow s.vrUr

instance : DecidablePred cond :=
  fun s => inferInstanceAs (Decidable (¬ s.insideReorderingWindow s.vrUr))

def body (s : RlcUm) : RlcUm :=
  match s.rxWindow.lookup s.vrUr with
  | none => { s with rxSdu := some [], vrUr := (s.vrUr + 1) % s.cfg.rxMod }
  | some pdu => consume s (handle s.cfg.rxMod s.vrUr pdu (assembly s))

end lowerEdge

namespace update

def cond (s : RlcUm) : Prop :=
  s.vrUr ∈ s.rxWindow

instance : DecidablePred cond :=
  fun s => inferInstanceAs (Decidable (s.vrUr ∈ s.rxWindow))

def body (s : RlcUm) : RlcUm :=
  match s.rxWindow.lookup s.vrUr with
  | none => s
  | some pdu => consume s (handle s.cfg.rxMod s.vrUr pdu (assembly s))

end update

end reassembleRxSdus

open reassembleRxSdus in
def reassembleRxSdus (s : RlcUm) : RlcUm :=
  let s := { s with rxSdu := some (s.rxSdu.getD []) }
  let s := Loop.whileDo lowerEdge.cond lowerEdge.body s.cfg.rxMod s
  Loop.whileDo update.cond update.body s.rxWindow.size s

def startReordering (s : RlcUm) : RlcUm :=
  if s.rxModBase s.vrUh > s.rxModBase s.vrUr then
    { s with reorderingTimer := (s.reorderingTimer.set s.cfg.tReordering).run, vrUx := s.vrUh }
  else
    s

def updateReordering (s : RlcUm) : RlcUm :=
  let s :=
    if s.reorderingTimer.isRunning
        ∧ (s.rxModBase s.vrUx ≤ s.rxModBase s.vrUr
          ∨ (¬ s.insideReorderingWindow s.vrUx ∧ s.vrUx ≠ s.vrUh)) then
      { s with reorderingTimer := s.reorderingTimer.stop }
    else
      s
  if s.reorderingTimer.isRunning then s else s.startReordering

def storePdu (s : RlcUm) (payload : List UInt8) (header : RlcUmdPduHeader) : RlcUm :=
  let s := { s with rxWindow := s.rxWindow.insert header.sn { header, buf := payload } }
  if s.insideReorderingWindow header.sn then
    s
  else
    { s with vrUh := (header.sn + 1) % s.cfg.rxMod }

def handleDataPdu (s : RlcUm) (payload : List UInt8) (header : RlcUmdPduHeader) : RlcUm :=
  if s.rxModBase header.sn ≥ s.rxModBase (u32Sub s.vrUh s.cfg.rxWindowSize)
      ∧ s.rxModBase header.sn < s.rxModBase s.vrUr then
    s
  else if header.sn ∈ s.rxWindow then
    s
  else
    ((s.storePdu payload header).reassembleRxSdus).updateReordering

namespace timerExpired

def cond (s : RlcUm) : Prop :=
  s.rxModBase s.vrUr < s.rxModBase s.vrUx

instance : DecidablePred cond :=
  fun s => inferInstanceAs (Decidable (s.rxModBase s.vrUr < s.rxModBase s.vrUx))

def body (s : RlcUm) : RlcUm :=
  reassembleRxSdus { s with vrUr := (s.vrUr + 1) % s.cfg.rxMod }

end timerExpired

def timerExpired (s : RlcUm) : RlcUm :=
  let s := { s with pduLost := true, rxSdu := s.rxSdu.map (fun _ => []) }
  let s := Loop.whileDo timerExpired.cond timerExpired.body s.cfg.rxMod s
  { s with reorderingTimer := s.reorderingTimer.stop }.startReordering


def writeSdu (s : RlcUm) (sdu : ByteBuffer) : RlcUm :=
  if s.txEnabled then
    { s with txSduQueue := s.txSduQueue.write sdu }
  else
    s

def readPdu (s : RlcUm) (nofBytes : Nat) : RlcUm × Int × List UInt8 :=
  s.buildDataPdu nofBytes

def writePdu (s : RlcUm) (payload : List UInt8) : RlcUm :=
  match rlcUmReadDataPduHeader payload s.cfg.rxSnFieldLength with
  | some (header, payload) => s.handleDataPdu payload header
  | none => s

def stepTimer (s : RlcUm) : RlcUm :=
  let (reorderingTimer, expired) := s.reorderingTimer.step
  let s := { s with reorderingTimer }
  if expired then s.timerExpired else s

def init (cfg : SrslteRlcUmConfig) : RlcUm :=
  { cfg }

def umBiConfig (snSize : RlcUmdSnSize) (tReordering : Int) : SrslteRlcUmConfig :=
  match snSize with
  | .size5Bits =>
    {
      tReordering
      txSnFieldLength := .size5Bits
      rxSnFieldLength := .size5Bits
      rxWindowSize := 16
      rxMod := 32
      txMod := 32
    }
  | .size10Bits =>
    {
      tReordering
      txSnFieldLength := .size10Bits
      rxSnFieldLength := .size10Bits
      rxWindowSize := 512
      rxMod := 1024
      txMod := 1024
    }

inductive Event where
  | writeSdu (sdu : ByteBuffer)
  | readPdu (nofBytes : Nat)
  | writePdu (payload : List UInt8)
  | stepTimer

def step (s : RlcUm) (e : Event) : RlcUm :=
  match e with
  | .writeSdu sdu => s.writeSdu sdu
  | .readPdu nofBytes => (s.readPdu nofBytes).1
  | .writePdu payload => s.writePdu payload
  | .stepTimer => s.stepTimer

end SrsLte.RlcUm
