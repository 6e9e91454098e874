import SrsLte.Rlc.Am.Impl.Tx
import SrsLte.Rlc.Am.Impl.Rx

/-!
This module contains the PDCP and MAC interface of `rlc_am` and the transition system that calls it.
-/

namespace SrsLte.RlcAm

def writeSdu (s : RlcAm) (sdu : ByteBuffer) : RlcAm :=
  if s.txEnabled then
    { s with txSduQueue := s.txSduQueue.write sdu }
  else
    s

def schedulePollRetx (s : RlcAm) : RlcAm :=
  if s.txWindow.size > 0 ∧ s.retxQueue.length = 0 ∧ s.txSduQueue.size = 0 then
    let sn := u32Sub s.vtS 1
    let s := match s.txWindow.lookup sn with
      | some pdu =>
        let retx : RlcAmdRetx := { sn, isSegment := false, soStart := 0, soEnd := (pdu.buf.getD []).length }
        { s with retxQueue := s.retxQueue ++ [retx] }
      | none => s
    { s with pollRetxTimeout := s.pollRetxTimeout.start s.cfg.tPollRetx }
  else
    s

def txBufferState (s : RlcAm) : Nat :=
  let nSdus := if s.txWindow.size < 1024 then
      s.txSduQueue.size + (if s.txSdu.isSome then 1 else 0)
    else
      0
  let nBytes := if s.txWindow.size < 1024 then
      (s.txSduQueue.sizeBytes + (s.txSdu.getD []).length) % 2 ^ 32
    else
      0
  -- Room needed for header extensions? (integer rounding)
  let nBytes := if nSdus > 1 then (nBytes + (3 * (nSdus - 1) + 1) / 2) % 2 ^ 32 else nBytes
  -- Room needed for fixed header?
  if nBytes > 0 then (nBytes + 3) % 2 ^ 32 else nBytes

def getBufferState (s : RlcAm) : RlcAm × Nat :=
  -- Bytes needed for status report
  let s := s.checkReorderingTimeout
  if s.doStatus ∧ ¬ s.statusProhibited then
    s.prepareStatus
  else
    -- check if pollRetx timer expired
    let s := if s.pollRetx then s.schedulePollRetx else s
    -- Bytes needed for retx
    match s.retxQueue with
    | retx :: rest =>
      if retx.sn ∈ s.txWindow then
        let reqBytes := s.requiredBufferSize retx
        if reqBytes < 0 then
          ({ s with retxQueue := rest }, 0)
        else
          (s, reqBytes.toNat)
      else
        (s, s.txBufferState)
    | [] => (s, s.txBufferState)

def scheduleFullWindowRetx (s : RlcAm) : RlcAm :=
  if s.txWindow.size ≥ rlcAmWindowSize ∧ s.retxQueue.length = 0 then
    match s.txWindow.lookup s.vtA with
    | some { buf := some buf, .. } =>
      let retx : RlcAmdRetx := { sn := s.vtA, isSegment := false, soStart := 0, soEnd := buf.length }
      { s with retxQueue := s.retxQueue ++ [retx] }
    | some { buf := none, .. } => s
    | none => { s with txWindow := s.txWindow.insert s.vtA {} }
  else
    s

def readPdu (s : RlcAm) (nofBytes : Nat) : RlcAm × Int × List UInt8 :=
  -- Tx STATUS if requested
  if s.doStatus ∧ ¬ s.statusProhibited then
    s.buildStatusPdu nofBytes
  else
    let s := s.scheduleFullWindowRetx
    -- RETX if required
    if s.retxQueue.length > 0 then
      let (s, ret, payload) := s.buildRetxPdu nofBytes
      if ret > 0 then
        (s, ret, payload)
      else
        s.buildDataPdu nofBytes
    else
      -- Build a PDU from SDUs
      s.buildDataPdu nofBytes

/--
A data PDU whose header does not end inside the payload is not modelled further, it leaves the state
unchanged.
-/
def writePdu (s : RlcAm) (payload : List UInt8) : RlcAm :=
  if payload.length < 1 then
    s
  else if rlcAmIsControlPdu payload then
    s.handleControlPdu payload
  else
    match rlcAmReadDataPduHeader payload with
    | some (header, payload) =>
      if header.rf then
        s.handleDataPduSegment payload header
      else
        s.handleDataPdu payload header
    | none => s

def init (cfg : SrslteRlcAmConfig) : RlcAm :=
  { cfg }

def basicTestConfig : SrslteRlcAmConfig :=
  {
    tPollRetx := 5
    pollPdu := 4
    pollByte := 25000
    maxRetxThresh := 4
    tReordering := 5
    tStatusProhibit := 5
  }

/--
What can happen to an entity. `elapse` is the passing of time, it says which of the timers have
expired afterwards.
-/
inductive Event where
  | writeSdu (sdu : ByteBuffer)
  | elapse (pollRetx reordering statusProhibit : Bool)
  | getBufferState
  | readPdu (nofBytes : Nat)
  | writePdu (payload : List UInt8)

def elapse (s : RlcAm) (pollRetx reordering statusProhibit : Bool) : RlcAm :=
  {
    s with
    pollRetxTimeout.elapsed := pollRetx
    reorderingTimeout.elapsed := reordering
    statusProhibitTimeout.elapsed := statusProhibit
  }

def step (s : RlcAm) (e : Event) : RlcAm :=
  match e with
  | .writeSdu sdu => s.writeSdu sdu
  | .elapse pollRetx reordering statusProhibit => s.elapse pollRetx reordering statusProhibit
  | .getBufferState => s.getBufferState.1
  | .readPdu nofBytes => (s.readPdu nofBytes).1
  | .writePdu payload => s.writePdu payload

end SrsLte.RlcAm
