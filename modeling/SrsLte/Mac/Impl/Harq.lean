import SrsLte.Data.Trace
import SrsLte.Phy.Common
import SrsLte.Phy.Impl.Cbsegm

/-!
This module contains the HARQ processes of the UE: those of the downlink in `dl_harq.h`, one for each transport block,
those of the uplink in `ul_harq.h`, and the transition systems that call one of them.
-/

namespace SrsLte

structure RaDlGrant where
  mcsIdx : Fin 2 → Nat

abbrev DlGrant := MacGrant RaDlGrant

def DlGrant.zero : DlGrant :=
  MacGrant.zero { mcsIdx := fun _ => 0 }

def resetDuplicateTimeout : Nat := 8 * 6

structure DlAction where
  decodeEnabled : Bool := false
  rv : Int := 0
  generateAck : Bool := true
  generateAckCallback : Bool := false
  defaultAck : Bool := false

structure DlHarqCall where
  grant : DlGrant
  buffer : Bool
  timeAlignmentExpired : Bool
  siWindowStart : Int

structure DlTbProcess where
  isBcch : Bool
  tid : Fin 2
  isFirstTb : Bool := true
  isNewTransmission : Bool := false
  payloadBufferPtr : Bool := false
  ack : Bool := false
  nRetx : Nat := 0
  curGrant : DlGrant := DlGrant.zero
  softbuffer : SoftbufferRx
  tb : Nat := 0

namespace DlTbProcess

def init (isBcch : Bool) (tid : Fin 2) (maxCb : Nat) : DlTbProcess :=
  { isBcch, tid, softbuffer := { maxCb } }

def reset (s : DlTbProcess) (lock : Bool) : DlTbProcess :=
  {
    s with
    isFirstTb := true,
    ack := false,
    nRetx := 0,
    payloadBufferPtr := false,
    curGrant := DlGrant.zero,
    softbuffer := if lock then s.softbuffer.reset else s.softbuffer
  }

def rvOfK (k : Nat) : Int :=
  (3 * k + 1) / 2 % 4

def withRv (s : DlTbProcess) (call : DlHarqCall) : DlGrant :=
  let grant := call.grant
  if s.isBcch ∧ grant.rv s.tid = -1 then
    let k := if grant.tti / 10 % 2 = 0 ∧ grant.tti % 10 = 5 then
        -- This is SIB1, k is different
        grant.tti / 20 % 4
      else
        ((grant.tti - call.siWindowStart) % 4).toNat
    { grant with rv := Function.update grant.rv s.tid (rvOfK k) }
  else
    grant

def calcIsNewTransmission (s : DlTbProcess) (grant : DlGrant) : Prop :=
  grant.phyGrant.mcsIdx s.tid ≤ 28 ∧
    (grant.ndi s.tid ≠ s.curGrant.ndi s.tid ∨ (s.isBcch ∧ grant.rv s.tid = 0) ∨ s.isFirstTb)

instance (s : DlTbProcess) (grant : DlGrant) : Decidable (s.calcIsNewTransmission grant) :=
  inferInstanceAs (Decidable (_ ∧ _))

def isOtherTb (s : DlTbProcess) (grant : DlGrant) : Prop :=
  s.calcIsNewTransmission grant ∨ s.curGrant.nBytes s.tid ≠ grant.nBytes s.tid

instance (s : DlTbProcess) (grant : DlGrant) : Decidable (s.isOtherTb grant) :=
  inferInstanceAs (Decidable (_ ∨ _))

def receive (s : DlTbProcess) (grant : DlGrant) : DlTbProcess :=
  let isNew := s.calcIsNewTransmission grant
  let r := { s with isFirstTb := if isNew then false else s.isFirstTb, isNewTransmission := decide isNew }
  if s.isOtherTb grant then
    {
      r with
      ack := false,
      softbuffer := s.softbuffer.resetTbs (s.curGrant.nBytes s.tid * 8),
      nRetx := 0,
      tb := s.tb + 1
    }
  else
    r

def withGenerateAck (s : DlTbProcess) (call : DlHarqCall) (action : DlAction) : DlAction :=
  if s.isBcch ∨ call.timeAlignmentExpired then
    -- Do not generate ACK
    { action with generateAck := false }
  else if s.curGrant.rntiType = .temp ∧ ¬ s.ack then
    -- Postpone ACK after contention resolution is resolved
    { action with generateAckCallback := true }
  else
    action

def newGrantDl (s : DlTbProcess) (call : DlHarqCall) : DlTbProcess × DlAction :=
  let grant := s.withRv call
  let s := s.receive grant
  if ¬ s.ack then
    -- Save grant
    let s := { s with curGrant := grant, payloadBufferPtr := call.buffer }
    if call.buffer then
      let action : DlAction := { decodeEnabled := true, rv := s.curGrant.rv s.tid }
      ({ s with nRetx := s.nRetx + 1 }, s.withGenerateAck call action)
    else
      (s, {})
  else
    -- Received duplicate TB. Discarding and retransmitting ACK
    let s := if srslteTtiInterval grant.tti s.curGrant.tti > resetDuplicateTimeout then s.reset false else s
    (s, s.withGenerateAck call { defaultAck := true })

def tbDecoded (s : DlTbProcess) (ack : Bool) : DlTbProcess :=
  let s := { s with ack, payloadBufferPtr := false }
  if ack ∧ s.isBcch then s.reset true else s

def tbs (s : DlTbProcess) : Nat :=
  s.curGrant.nBytes s.tid * 8

end DlTbProcess

inductive DlHarqEvent where
  | newGrantDl (call : DlHarqCall) (rx : Reception)
  | tbDecoded (ack : Bool)
  | reset

namespace DlTbProcess

def step (s : DlTbProcess) (e : DlHarqEvent) : DlTbProcess :=
  match e with
  | .newGrantDl call rx =>
    let (s, action) := s.newGrantDl call
    if action.decodeEnabled then { s with softbuffer := s.softbuffer.decodeTb s.tb s.tbs rx } else s
  | .tbDecoded ack => s.tbDecoded ack
  | .reset => s.reset true

end DlTbProcess


structure RaUlGrant where
  tbs : Int

abbrev UlGrant := MacGrant RaUlGrant

def UlGrant.zero : UlGrant :=
  MacGrant.zero { tbs := 0 }

structure UlHarqParams where
  maxHarqTx : Nat
  maxHarqMsg3Tx : Nat

structure UlAction (π : Type) where
  txEnabled : Bool := false
  expectAck : Bool := false
  rv : Int := 0
  rnti : Nat := 0
  currentTxNb : Nat := 0
  phyGrant : RaUlGrant := { tbs := 0 }
  payloadPtr : Option π := none

inductive MuxRequest where
  | msg3Get (pduSz : Nat)
  | pduGet (pduSz txTti pid : Nat)
  deriving DecidableEq

structure UlHarqCall (π : Type) where
  ttiTx : Nat
  grant : Option UlGrant
  ack : Option Bool
  crnti : Nat
  tempRnti : Nat
  msg3IsPending : Bool
  msg3Get : Option π
  pduGet : Option π
  memory : Int → Nat

structure UlHarqOut (π : Type) where
  action : UlAction π := {}
  request : Option MuxRequest := none
  contentionTimerReset : Bool := false
  puschRetx : Bool := false

structure UlHarqProcess (π : Type) where
  pid : Nat
  curGrant : UlGrant := UlGrant.zero
  currentTxNb : Nat := 0
  currentIrv : Nat := 0
  harqFeedback : Bool := false
  isGrantConfigured : Bool := false
  isMsg3 : Bool := false
  ttiLastTx : Nat := 0
  payloadBuffer : π
  pduPtr : Option π

namespace UlHarqProcess

variable {π : Type}

def init (pid : Nat) (payloadBuffer : π) : UlHarqProcess π :=
  { pid, payloadBuffer, pduPtr := some payloadBuffer }

def reset (s : UlHarqProcess π) : UlHarqProcess π :=
  {
    s with
    currentTxNb := 0,
    currentIrv := 0,
    ttiLastTx := 0,
    isGrantConfigured := false,
    curGrant := UlGrant.zero
  }

def resetNdi (s : UlHarqProcess π) : UlHarqProcess π :=
  { s with curGrant := { s.curGrant with ndi := Function.update s.curGrant.ndi 0 false } }

def hasGrant (s : UlHarqProcess π) : Bool :=
  s.isGrantConfigured

def getNdi (s : UlHarqProcess π) : Bool :=
  s.curGrant.ndi 0

def rvOfIrv (irv : Nat) : Nat :=
  match irv with
  | 0 => 0
  | 1 => 2
  | 2 => 3
  | _ => 1

def irvOfRv (memory : Int → Nat) (rv : Int) : Nat :=
  match rv with
  | 0 => 0
  | 1 => 3
  | 2 => 1
  | 3 => 2
  | rv => memory rv

def getRv (s : UlHarqProcess π) : Nat :=
  rvOfIrv (s.currentIrv % 4)

def generateTx (call : UlHarqCall π) (s : UlHarqProcess π) (out : UlHarqOut π)
    : UlHarqProcess π × UlHarqOut π :=
  let action := {
    out.action with
    currentTxNb := s.currentTxNb,
    expectAck := true,
    rnti := if s.isMsg3 then call.tempRnti else s.curGrant.rnti,
    rv := if s.curGrant.rv 0 > 0 then s.curGrant.rv 0 else s.getRv,
    txEnabled := true,
    payloadPtr := s.pduPtr,
    phyGrant := s.curGrant.phyGrant
  }
  let s := {
    s with
    currentTxNb := s.currentTxNb + 1,
    currentIrv := (s.currentIrv + 1) % 4,
    ttiLastTx := call.ttiTx
  }
  (s, { out with action })

def generateNewTx (call : UlHarqCall π) (isMsg3 : Bool) (grant : UlGrant) (s : UlHarqProcess π)
    (out : UlHarqOut π)
    : UlHarqProcess π × UlHarqOut π :=
  let s := {
    s with
    curGrant := grant,
    harqFeedback := false,
    isGrantConfigured := true,
    currentTxNb := 0,
    currentIrv := 0,
    isMsg3
  }
  generateTx call s out

def maxRetx (params : UlHarqParams) (isMsg3 : Bool) : Nat :=
  if isMsg3 then params.maxHarqMsg3Tx else params.maxHarqTx

def retransmit (call : UlHarqCall π) (grant : Option UlGrant) (s : UlHarqProcess π)
    : UlHarqProcess π × UlHarqOut π :=
  match grant with
  | some grant =>
    let currentIrv := if grant.rv 0 ≠ 0 then
        irvOfRv call.memory ((grant.rv 0).tmod 4)
      else
        s.currentIrv
    generateTx call { s with currentIrv, curGrant := grant, harqFeedback := false } {}
  | none =>
    -- Non-adaptive retx are only sent if HI=NACK
    if ¬ s.harqFeedback then
      generateTx call s {}
    else
      (s, {})

def generateRetx (params : UlHarqParams) (call : UlHarqCall π) (grant : Option UlGrant) (s : UlHarqProcess π)
    : UlHarqProcess π × UlHarqOut π :=
  if s.currentTxNb ≥ maxRetx params s.isMsg3 then
    -- Maximum number of ReTX reached. Discarding TB
    (s.reset, {})
  else
    let (s, out) := retransmit call grant s
    (s, { out with contentionTimerReset := s.isMsg3, puschRetx := true })

def feedback (s : UlHarqProcess π) (grant : Option UlGrant) (ack : Option Bool) : Bool :=
  match ack, grant with
  | some ack, some grant => if grant.ndi 0 = s.getNdi ∧ grant.phyGrant.tbs ≠ 0 then false else ack
  | some ack, none => ack
  | none, _ => s.harqFeedback

def resetIfChanged (s : UlHarqProcess π) (grant : Option UlGrant) : UlHarqProcess π :=
  match grant with
  | some grant =>
    if s.harqFeedback ∧ s.hasGrant ∧
        grant.nBytes 0 ≠ s.curGrant.nBytes 0 ∧ s.curGrant.nBytes 0 > 0 ∧ grant.nBytes 0 > 0 then
      s.reset
    else
      s
  | none => s

def isNewTransmission (s : UlHarqProcess π) (grant : UlGrant) : Prop :=
  (grant.rntiType ≠ .temp ∧ grant.ndi 0 ≠ s.getNdi ∧ s.harqFeedback) ∨
    (grant.rntiType = .user ∧ ¬ s.hasGrant) ∨
    grant.isFromRar

instance (s : UlHarqProcess π) (grant : UlGrant) : Decidable (s.isNewTransmission grant) :=
  inferInstanceAs (Decidable (_ ∨ _ ∨ _))

def newTransmission (call : UlHarqCall π) (grant : UlGrant) (s : UlHarqProcess π)
    : UlHarqProcess π × UlHarqOut π :=
  let s := s.reset
  if grant.isFromRar ∧ call.msg3IsPending then
    -- Uplink grant in a RAR and there is a PDU in the Msg3 buffer
    let s := { s with pduPtr := call.msg3Get }
    let out : UlHarqOut π := { request := some (.msg3Get (grant.nBytes 0)) }
    if s.pduPtr.isSome then generateNewTx call true grant s out else (s, out)
  else
    -- Normal UL grant
    let grant := if grant.isFromRar then { grant with rnti := call.crnti } else grant
    let s := { s with pduPtr := call.pduGet }
    let out : UlHarqOut π := { request := some (.pduGet (grant.nBytes 0) call.ttiTx s.pid) }
    if s.pduPtr.isSome then generateNewTx call false grant s out else (s, out)

def isCqiOnly (grant : UlGrant) : Prop :=
  grant.hasCqiRequest ∧ grant.phyGrant.tbs = 0

instance (grant : UlGrant) : Decidable (isCqiOnly grant) :=
  inferInstanceAs (Decidable (_ ∧ _))

def route (params : UlHarqParams) (call : UlHarqCall π) (s : UlHarqProcess π)
    : UlHarqProcess π × UlHarqOut π :=
  match call.grant with
  | some grant =>
    if isCqiOnly grant then
      (s, { action := { phyGrant := grant.phyGrant, txEnabled := true, rnti := grant.rnti } })
    else if s.isNewTransmission grant then
      newTransmission call grant s
    else if s.hasGrant then
      -- Adaptive Re-TX
      generateRetx params call (some grant) s
    else
      -- Received retransmission but no previous grant available for this PID
      (s, {})
  | none =>
    if s.hasGrant then
      -- Non-Adaptive Re-Tx
      generateRetx params call none s
    else
      (s, {})

def runTti (params : UlHarqParams) (call : UlHarqCall π) (s : UlHarqProcess π)
    : UlHarqProcess π × UlHarqOut π :=
  let s := { s with harqFeedback := s.feedback call.grant call.ack }
  route params call (s.resetIfChanged call.grant)

end UlHarqProcess

inductive UlHarqEvent (π : Type) where
  | runTti (call : UlHarqCall π)
  | reset
  | resetNdi

namespace UlHarqProcess

variable {π : Type} (params : UlHarqParams)

def handle (s : UlHarqProcess π) (e : UlHarqEvent π) : UlHarqProcess π × UlHarqOut π :=
  match e with
  | .runTti call => runTti params call s
  | .reset => (s.reset, {})
  | .resetNdi => (s.resetNdi, {})

def step (s : UlHarqProcess π) (e : UlHarqEvent π) : UlHarqProcess π :=
  (handle params s e).1

def record (s : UlHarqProcess π) (e : UlHarqEvent π) : UlHarqEvent π × UlHarqOut π :=
  (e, (handle params s e).2)

end UlHarqProcess

end SrsLte
